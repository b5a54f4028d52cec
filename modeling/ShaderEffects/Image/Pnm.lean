import ShaderEffects.Image.Bytes
import ShaderEffects.Image.Format
import ShaderEffects.Image.Numeral

/-!
# Portable images

The seven kinds of portable images: bits, brightnesses or colours, each as text or
as bytes, and a kind whose header names its parts. A header is text with comments;
the samples of the pixels follow.
-/

namespace ShaderEffects

namespace Pnm

/-- The named parts of a header. -/
inductive Field where
  | height
  | width
  | depth
  | maximum
deriving DecidableEq, Repr

/-- The name of such a part. -/
def Field.name : Field → String
  | .height => "HEIGHT"
  | .width => "WIDTH"
  | .depth => "DEPTH"
  | .maximum => "MAXVAL"

/-- The named parts of a header that were found. -/
structure Fields where
  height : Option Nat := none
  width : Option Nat := none
  depth : Option Nat := none
  maximum : Option Nat := none
deriving DecidableEq, Repr

namespace Fields

/-- A named part. -/
def get? (fields : Fields) : Field → Option Nat
  | .height => fields.height
  | .width => fields.width
  | .depth => fields.depth
  | .maximum => fields.maximum

/-- Gives a named part its value. -/
def insert (fields : Fields) (field : Field) (n : Nat) : Fields :=
  match field with
  | .height => { fields with height := some n }
  | .width => { fields with width := some n }
  | .depth => { fields with depth := some n }
  | .maximum => { fields with maximum := some n }

end Fields

/-- Why bytes are not taken for an image. -/
inductive Fault where
  /-- There are not even two bytes. -/
  | noStart
  /-- The bytes end inside the header. -/
  | cutOff
  /-- The first two bytes are others. -/
  | otherStart (first second : UInt8)
  /-- A number of the header has another character than a digit. -/
  | noDigit
  /-- A sample has another character than a digit. -/
  | noSampleDigit
  /-- A number is too large. -/
  | overflow
  /-- No line ends behind the first two bytes. -/
  | noLineEnd (found : UInt8)
  /-- The header with named parts has no end. -/
  | endlessHeader
  /-- A line is not text. -/
  | noText
  | notAscii
  | duplicate (field : Field)
  | unknownLine (name : String)
  | value (field : Field) (text : String) (fault : Numeral.Fault)
  /-- Not all parts are named. -/
  | missing (fields : Fields)
  | largeMaximum (n : Nat)
  /-- The pixels of a header with named parts have no samples, or too many. -/
  | samples (n : Nat)
  /-- The number of bytes is larger than a word of 64 bits can tell. -/
  | uncountable (size : ImageSize)
  /-- The pixels take too many bytes. -/
  | tooLarge
  /-- The bytes end inside the pixels. -/
  | missingPixels
  /-- A byte is no bit. -/
  | noBit (found : UInt8)
deriving DecidableEq, Repr

namespace Fault

instance : Truncation Fault := ⟨fun _ _ => .cutOff⟩

/-- An optional number as `None` or `Some(…)`. -/
def optionText : Option Nat → String
  | none => "None"
  | some n => "Some(" ++ toString n ++ ")"

/-- What is wrong with the content, if that is what is wrong. -/
def reason? : Fault → Option String
  | .otherStart first second =>
    some ("Expected magic constant for PNM: P1..P7, got "
      ++ Text.row Text.byteText [first, second])
  | .noDigit => some "Non-ASCII-digit character when parsing number in number in preamble"
  | .noSampleDigit => some "Non-ASCII-digit character when parsing number in sample"
  | .overflow => some "Overflow when parsing value"
  | .noLineEnd found => some ("Expected newline after P7 magic, got " ++ Text.byteText found)
  | .endlessHeader => some "Unexpected end of PNM header"
  | .notAscii => some "Non-ASCII line in PAM header"
  | .duplicate field => some ("Duplicate " ++ field.name ++ " line")
  | .unknownLine name => some ("Unknown header line with identifier " ++ Text.quoted name)
  | .value field text fault =>
    some ("Error parsing " ++ Text.quoted text ++ " as " ++ field.name ++ ": " ++ fault.message)
  | .missing fields =>
    some ("Missing header line: have height=" ++ optionText fields.height ++ ", width="
      ++ optionText fields.width ++ ", depth=" ++ optionText fields.depth ++ ", maxval="
      ++ optionText fields.maximum)
  | .largeMaximum n => some ("Image MAXVAL exceeds 65535: " ++ toString n)
  | .samples _ => some "Tuple type not recognized"
  | .missingPixels => some "Not enough data was provided to the Decoder to decode the image"
  | .noBit found => some ("Unexpected character " ++ Text.byteText found ++ " within sample raster")
  | _ => none

/-- The wording of a fault. -/
def message : Fault → String
  | .noStart => shortFieldText
  | .cutOff => cutOffText
  | .noText => "stream did not contain valid UTF-8"
  | .tooLarge => byteLimitText
  | .uncountable size =>
    ImageFormat.pnm.missingFeature
      ("Image dimensions (" ++ toString size.width ++ "x" ++ toString size.height
        ++ ") are too large")
  | fault => ImageFormat.pnm.malformed (fault.reason?.getD "")

end Fault

/-- A reader of an image. -/
abbrev Reader := ByteReader Fault

/-- How the samples of an image are written. -/
inductive Coding where
  /-- Each bit is a character. -/
  | textBits
  /-- Each sample is a numeral. -/
  | numerals
  /-- Eight bits fill a byte. -/
  | packedBits
  /-- Each sample is one byte, or two. -/
  | binary
deriving DecidableEq, Repr

/-- What the header tells of an image. -/
structure Header where
  size : ImageSize
  /-- The samples of a pixel. -/
  samples : Nat
  /-- The largest value of a sample. -/
  maximum : Nat
  coding : Coding
deriving DecidableEq, Repr

/-- The bytes of a sample. -/
def Header.sampleBytes (header : Header) : Nat := if header.maximum < 256 then 1 else 2

/-- The bytes of a pixel. -/
def Header.pixelBytes (header : Header) : Nat := header.samples * header.sampleBytes

/-- Whether a byte stands between numbers. -/
def isSeparator (b : UInt8) : Bool := 9 ≤ b && b ≤ 13 || b = 32

/-- The value of a decimal digit. -/
def digit? (b : UInt8) : Option Nat := Numeral.digit? (Char.ofNat b.toNat)

/-- The next number of a header, of which a part was found. It ends with the byte
that separates it from what follows. A comment begins with `#`, also inside a
number, and ends with its line. -/
def headerNumber : Bool → Option Nat → List UInt8 → Except Fault (Nat × List UInt8)
  | _, none, [] => .error .cutOff
  | _, some n, [] => .ok (n, [])
  | true, found, b :: rest => headerNumber (b ≠ 0x0A ∧ b ≠ 0x0D) found rest
  | false, found, b :: rest =>
    if b = 0x23 then headerNumber true found rest
    else if isSeparator b then
      match found with
      | none => headerNumber false none rest
      | some n => .ok (n, rest)
    else
      match digit? b with
      | none => .error .noDigit
      | some d =>
        let n := found.getD 0 * 10 + d
        if Numeral.wordLimit < n then .error .overflow else headerNumber false (some n) rest

/-- The next number of a header. -/
def number : Reader Nat := headerNumber false none

/-- Takes in a line of a header with named parts, which tells whether it was the
last one. A line that begins with a blank character has no name. -/
def Fields.push (fields : Fields) (line : String) : Except Fault (Fields × Bool) :=
  let chars := line.toList
  let name := String.ofList (chars.takeWhile fun c => !Text.isBlank c)
  let rest := if name = "" then chars.dropWhile Text.isBlank
    else chars.dropWhile fun c => !Text.isBlank c
  let part field :=
    if (fields.get? field).isSome then .error (.duplicate field)
    else
      match Numeral.whole Numeral.wordLimit (Text.trimChars rest) with
      | .error fault => .error (.value field (String.ofList rest) fault)
      | .ok n => .ok (fields.insert field n, false)
  match name with
  | "ENDHDR" => .ok (fields, true)
  | "HEIGHT" => part .height
  | "WIDTH" => part .width
  | "DEPTH" => part .depth
  | "MAXVAL" => part .maximum
  | "TUPLTYPE" => .ok (fields, false)
  | _ => .error (.unknownLine name)

/-- The next line with its end. -/
def wholeLine : Reader (List UInt8) := fun bytes =>
  let front := bytes.takeWhile (· ≠ 0x0A)
  .ok ((front ++ (bytes.drop front.length).take 1), (bytes.drop (front.length + 1)))

/-- The named parts of a header, which has at most so many lines. -/
def fields : Nat → Fields → Reader Fields
  | 0, _ => throw .endlessHeader
  | budget + 1, found => do
    let line ← wholeLine
    if line = [] then throw .endlessHeader
    match String.fromUTF8? ⟨line.toArray⟩ with
    | none => throw .noText
    | some text =>
      if line.head? = some 0x23 then fields budget found
      else if line.any (128 ≤ ·) then throw .notAscii
      else
        match found.push text with
        | .error fault => throw fault
        | .ok (found, true) => return found
        | .ok (found, false) => fields budget found

/-- A header with named parts. -/
def namedHeader : Reader Header := do
  let next ← ByteReader.byte
  if next ≠ 0x0A then throw (.noLineEnd next)
  match ← fields ((← get).length + 1) {} with
  | ⟨some height, some width, some depth, some maximum⟩ =>
    if depth = 0 ∨ 4 < depth then throw (.samples depth)
    return { size := { width, height }, samples := depth, maximum, coding := .binary }
  | found => throw (.missing found)

/-- A header of numbers. Where samples are bits, the largest value is left out. -/
def plainHeader (samples : Nat) (coding : Coding) : Reader Header := do
  let width ← number
  let height ← number
  let bits := coding = .textBits ∨ coding = .packedBits
  let maximum ← if bits then pure 1 else number
  return { size := { width, height }, samples, maximum, coding }

/-- The header that the two first bytes announce. -/
def headerOf (first second : UInt8) : Reader Header :=
  match first, second with
  | 0x50, 0x31 => plainHeader 1 .textBits
  | 0x50, 0x32 => plainHeader 1 .numerals
  | 0x50, 0x33 => plainHeader 3 .numerals
  | 0x50, 0x34 => plainHeader 1 .packedBits
  | 0x50, 0x35 => plainHeader 1 .binary
  | 0x50, 0x36 => plainHeader 3 .binary
  | 0x50, 0x37 => namedHeader
  | first, second => throw (.otherStart first second)

/-- The header of an image. -/
def header : Reader Header := do
  match (← get).take 2 with
  | [first, second] =>
    ByteReader.skip 2
    let header ← headerOf first second
    if Nat.pow 2 16 ≤ header.maximum then throw (.largeMaximum header.maximum)
    if (Nat.pow 2 64 - 1) / header.pixelBytes < header.size.width * header.size.height then
      throw (.uncountable header.size)
    return header
  | _ => throw .noStart

/-- Goes past so many bits that are characters. -/
def bits : Nat → List UInt8 → Except Fault (Unit × List UInt8)
  | 0, bytes => .ok ((), bytes)
  | _ + 1, [] => .error .missingPixels
  | n + 1, b :: rest =>
    if isSeparator b then bits (n + 1) rest
    else if b = 0x30 ∨ b = 0x31 then bits n rest
    else .error (.noBit b)

/-- Goes past so many numerals below a limit. Of the next one a part was found. -/
def numerals (limit : Nat) : Nat → Option Nat → List UInt8 → Except Fault (Unit × List UInt8)
  | 0, _, bytes => .ok ((), bytes)
  | 1, some _, [] => .ok ((), [])
  | _ + 1, _, [] => .error .missingPixels
  | n + 1, found, b :: rest =>
    if isSeparator b then
      match found with
      | none => numerals limit (n + 1) none rest
      | some _ => numerals limit n none rest
    else
      match digit? b with
      | none => .error .noSampleDigit
      | some d =>
        let value := found.getD 0 * 10 + d
        if limit ≤ value then .error .overflow else numerals limit (n + 1) (some value) rest

/-- Goes past so many bytes of pixels. -/
def raster (length : Nat) : Reader Unit := do
  if (← get).length < length then throw .missingPixels
  ByteReader.skip length

/-- Goes past the pixels of an image. -/
def Header.pixels (header : Header) : Reader Unit :=
  let samples := header.size.width * header.size.height * header.samples
  match header.coding with
  | .textBits => bits samples
  | .numerals => numerals (Nat.pow 256 header.sampleBytes) samples none
  | .packedBits => raster ((header.size.width + 7) / 8 * header.size.height)
  | .binary => raster (samples * header.sampleBytes)

/-- The size of an image, whether or not its pixels are there. -/
def size : Reader ImageSize := do
  let header ← header
  return header.size

/-- The size of an image whose pixels are all there, and fit into memory. -/
def wholeSize : Reader ImageSize := do
  let header ← header
  if imageByteLimit < header.size.bytes header.pixelBytes then throw .tooLarge
  header.pixels
  return header.size

end Pnm

end ShaderEffects
