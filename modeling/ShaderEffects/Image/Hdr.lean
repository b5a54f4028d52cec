import ShaderEffects.Image.Bytes
import ShaderEffects.Image.Format
import ShaderEffects.Image.Numeral

/-!
# Radiance images

A Radiance image begins with lines of text: a signature, attributes up to an empty
line, and the sides. Rows of pixels follow. A pixel has four bytes; a row is
written as pixels in which an equal run can be told by a pixel of its own, or as
four rows of bytes.
-/

namespace ShaderEffects

namespace Hdr

/-- The parts of a header that hold numbers. -/
inductive Field where
  | exposure
  | pixelAspect
  | colorCorrection
  | height
  | width
deriving DecidableEq, Repr

/-- The name of such a part. -/
def Field.name : Field → String
  | .exposure => "EXPOSURE"
  | .pixelAspect => "PIXASPECT"
  | .colorCorrection => "COLORCORR"
  | .height => "height dimension"
  | .width => "width dimension"

/-- Why bytes are not taken for an image. -/
inductive Fault where
  /-- The bytes end inside the signature or the pixels. -/
  | cutOff
  /-- The first bytes are others. -/
  | noSignature
  /-- The attributes have no end. -/
  | endlessHeader
  /-- There is no line for the sides. -/
  | noSides
  /-- Pixels are written in another way. -/
  | otherCoding (name : String)
  | fraction (field : Field) (fault : Numeral.FractionFault)
  | whole (field : Field) (fault : Numeral.Fault)
  /-- A line has too few numbers. -/
  | fewNumbers (field : Field)
  /-- A colour correction has too many numbers. -/
  | manyNumbers
  /-- The line for the sides has too few parts. -/
  | fewSides (parts : Nat)
  /-- The line for the sides has too many parts. -/
  | manySides
  /-- The rows or the columns run another way. -/
  | orientation (first second : String)
  /-- The pixels take too many bytes. -/
  | tooLarge
  /-- A row has more pixels than it can have. -/
  | longRow (found needed : Nat)
  /-- A row begins with a run. -/
  | firstRun
deriving DecidableEq, Repr

namespace Fault

instance : Truncation Fault := ⟨fun _ _ => .cutOff⟩

/-- The wording of a fault. -/
def message : Fault → String
  | .cutOff => shortFieldText
  | .noSignature => ImageFormat.hdr.malformed "Radiance HDR signature not found"
  | .endlessHeader => ImageFormat.hdr.malformed "EOF in header"
  | .noSides => ImageFormat.hdr.malformed "EOF in dimensions line"
  | .otherCoding name => ImageFormat.unsupportedText ("`" ++ name ++ "`")
  | .fraction field fault =>
    ImageFormat.hdr.malformed
      ("Cannot parse " ++ field.name ++ " value as f32: " ++ fault.message)
  | .whole field fault =>
    ImageFormat.hdr.malformed
      ("Cannot parse " ++ field.name ++ " value as u32: " ++ fault.message)
  | .fewNumbers field => ImageFormat.hdr.malformed ("Not enough numbers in " ++ field.name)
  | .manyNumbers => ImageFormat.hdr.malformed "Extra numbers in COLORCORR"
  | .fewSides parts =>
    ImageFormat.hdr.malformed
      ("Dimensions line too short: have " ++ toString parts ++ " elements, expected 4")
  | .manySides => ImageFormat.hdr.malformed "Dimensions line too long, expected 4 elements"
  | .orientation first second =>
    ImageFormat.hdr.missingFeature ("Orientation " ++ first ++ " " ++ second)
  | .tooLarge => byteLimitText
  | .longRow found needed =>
    ImageFormat.hdr.malformed
      ("Wrong length of decoded scanline: got " ++ toString found ++ ", expected "
        ++ toString needed)
  | .firstRun =>
    ImageFormat.hdr.malformed "First pixel of a scanline shouldn't be run length marker"

end Fault

/-- A reader of an image. -/
abbrev Reader := ByteReader Fault

/-- The first bytes of an image. -/
def signature : String := "#?RADIANCE"

/-- A text of at most so many characters, with dots in place of those that follow. -/
def shortened (limit : Nat) (text : List Char) : String :=
  String.ofList (if limit < text.length then text.take limit ++ ['.', '.', '.'] else text)

/-- The characters of a line. Where the bytes are not text, those that are not ASCII
are left out. -/
def lineText (bytes : List UInt8) : List Char :=
  match String.fromUTF8? ⟨bytes.toArray⟩ with
  | some text => text.toList
  | none => bytes.map fun b => if b < 128 then Char.ofNat b.toNat else '\uFFFD'

/-- The name and the value of an attribute, if neither is missing. -/
def attribute? (line : List Char) : Option (List Char × List Char) :=
  match line.takeWhile (· ≠ '='), line.dropWhile (· ≠ '=') with
  | [], _ => none
  | _, [] => none
  | _, [_] => none
  | name, _ :: value => some (Text.trimChars name, value)

/-- Refuses a value that is not a fraction. -/
def fraction (field : Field) (value : List Char) : Except Fault Unit :=
  (Numeral.fraction value).mapError (.fraction field)

/-- Refuses words that are not exactly so many fractions. -/
def fractions (field : Field) : Nat → List (List Char) → Except Fault Unit
  | 0, [] => .ok ()
  | 0, _ :: _ => .error .manyNumbers
  | _ + 1, [] => .error (.fewNumbers field)
  | n + 1, value :: rest =>
    match fraction field value with
    | .error fault => .error fault
    | .ok _ => fractions field n rest

/-- Judges a line of the header. Attributes without a meaning can have any value. -/
def checkLine (line : List Char) : Except Fault Unit :=
  match attribute? line with
  | none => .ok ()
  | some (name, value) =>
    match String.ofList name with
    | "FORMAT" =>
      if Text.trimChars value = "32-bit_rle_rgbe".toList then .ok ()
      else .error (.otherCoding (shortened 20 value))
    | "EXPOSURE" => fraction .exposure (Text.trimChars value)
    | "PIXASPECT" => fraction .pixelAspect (Text.trimChars value)
    | "COLORCORR" => fractions .colorCorrection 3 (Numeral.pieces value)
    | _ => .ok ()

/-- Goes past the attributes, which are at most as many as given. -/
def attributes : Nat → Reader Unit
  | 0 => throw .endlessHeader
  | budget + 1 => do
    match ← ByteReader.line? with
    | none => throw .endlessHeader
    | some [] => return
    | some line =>
      if line.head? ≠ some 0x23 then
        match checkLine (lineText line) with
        | .error fault => throw fault
        | .ok _ => pure ()
      attributes budget

/-- A side of an image. -/
def side (field : Field) (text : List Char) : Except Fault Nat :=
  (Numeral.whole Numeral.wordLimit text).mapError (.whole field)

/-- The size in the line for the sides. Rows run downwards and columns to the
right. -/
def sides (line : List Char) : Except Fault ImageSize :=
  match Numeral.pieces line with
  | [first, height, second, width] => do
    if first ≠ ['-', 'Y'] ∨ second ≠ ['+', 'X'] then
      .error (.orientation (shortened 4 first) (shortened 4 second))
    let height ← side .height height
    let width ← side .width width
    return { width, height }
  | parts => .error (if parts.length < 4 then .fewSides parts.length else .manySides)

/-- The size of an image, whether or not its pixels are there. -/
def size : Reader ImageSize := do
  if (← ByteReader.take signature.length) ≠ signature.toUTF8.data.toList then throw .noSignature
  let _ ← ByteReader.line?
  attributes ((← get).length + 1)
  match ← ByteReader.line? with
  | none => throw .noSides
  | some line =>
    match sides (lineText line) with
    | .error fault => throw fault
    | .ok size => return size

/-- The bytes of a pixel once it is read. -/
def pixelBytes : Nat := 12

/-- Goes past a row of so many bytes. Parts of equal bytes and parts of different
ones follow each other, and are at most as many as given. -/
def bytesRow (width : Nat) : Nat → Nat → Reader Unit
  | 0, _ => throw .cutOff
  | budget + 1, found => do
    if width ≤ found then return
    let length := (← ByteReader.byte).toNat
    let run := if 128 < length then length - 128 else length
    if width < found + run then throw (.longRow (found + run) width)
    let _ ← ByteReader.take (if 128 < length then 1 else length)
    bytesRow width budget (found + run)

/-- Goes past the pixels of a row of which so many were found. A pixel of ones tells
a run, which is so many times as long as what it tells. -/
def pixelsRow (width : Nat) : Nat → Nat → Nat → Reader Unit
  | 0, _, _ => throw .cutOff
  | budget + 1, found, times => do
    if width ≤ found then return
    let pixel ← ByteReader.take 4
    if pixel.take 3 = [1, 1, 1] then
      let run := ByteReader.number (pixel.drop 3) * times
      if width < found + run then throw (.longRow (found + run) width)
      pixelsRow width budget (found + run) (times * 256)
    else pixelsRow width budget (found + 1) 1

/-- Goes past a row. Its first pixel tells how it is written. -/
def row (width : Nat) : Reader Unit := do
  let pixel ← ByteReader.take 4
  let budget := (← get).length + 1
  match pixel with
  | [1, 1, 1, _] => throw .firstRun
  | [2, 2, c, _] =>
    if c < 128 then
      bytesRow width budget 0
      bytesRow width budget 0
      bytesRow width budget 0
      bytesRow width budget 0
    else pixelsRow width budget 1 1
  | _ => pixelsRow width budget 1 1

/-- Goes past so many rows. -/
def rows (width : Nat) : Nat → Reader Unit
  | 0 => return
  | n + 1 => do
    row width
    rows width n

/-- The size of an image whose pixels are all there, and fit into memory. -/
def wholeSize : Reader ImageSize := do
  let size ← size
  if imageByteLimit < size.bytes pixelBytes then throw .tooLarge
  if size.width ≠ 0 then rows size.width size.height
  return size

end Hdr

end ShaderEffects
