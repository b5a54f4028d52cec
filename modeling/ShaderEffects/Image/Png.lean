import ShaderEffects.Image.Bytes
import ShaderEffects.Image.Checksum
import ShaderEffects.Image.Format

/-!
# PNG images

As much of the PNG format as it takes to know whether an image can be opened and
how large it is. An image is a signature and a row of chunks; each chunk has a
length, a type, its data and a checksum. The first chunk holds the size, and the
pixels begin with the first chunk of type `IDAT`.
-/

namespace ShaderEffects

namespace Png

/-- The type of a chunk, four letters. -/
structure ChunkType where
  first : UInt8
  second : UInt8
  third : UInt8
  fourth : UInt8
deriving DecidableEq, Repr

namespace ChunkType

/-- The chunk that holds the size. -/
def header : ChunkType := ⟨0x49, 0x48, 0x44, 0x52⟩

/-- A chunk that holds colours. -/
def palette : ChunkType := ⟨0x50, 0x4C, 0x54, 0x45⟩

/-- A chunk that holds transparencies. -/
def transparency : ChunkType := ⟨0x74, 0x52, 0x4E, 0x53⟩

/-- A chunk that holds pixels. -/
def pixels : ChunkType := ⟨0x49, 0x44, 0x41, 0x54⟩

/-- The chunk behind all others. -/
def last : ChunkType := ⟨0x49, 0x45, 0x4E, 0x44⟩

/-- The four letters. -/
def letters (type : ChunkType) : List UInt8 := [type.first, type.second, type.third, type.fourth]

/-- Whether a letter is in lower case. -/
def isLower (letter : UInt8) : Bool := letter &&& 0x20 != 0

/-- Whether an image cannot be read by whoever does not know the chunk. -/
def isCritical (type : ChunkType) : Bool := !isLower type.first

/-- A letter as it is written in a message. -/
def letterText (letter : UInt8) : List Char :=
  if letter = 0x27 then ['\\', '\''] else Text.escapeChar (Char.ofNat letter.toNat)

/-- A chunk type as it is written in a message. -/
def text (type : ChunkType) : String :=
  "ChunkType \x7b type: " ++ String.ofList (type.letters.flatMap letterText)
    ++ ", critical: " ++ toString type.isCritical ++ ", private: " ++ toString (isLower type.second)
    ++ ", reserved: " ++ toString (isLower type.third) ++ ", safecopy: "
    ++ toString (isLower type.fourth) ++ " \x7d"

end ChunkType

/-- What the numbers of a pixel stand for. -/
inductive Color where
  | grayscale
  | rgb
  | indexed
  | grayscaleAlpha
  | rgba
deriving DecidableEq, Repr

/-- The name of a colour type. -/
def Color.name : Color → String
  | .grayscale => "Grayscale"
  | .rgb => "Rgb"
  | .indexed => "Indexed"
  | .grayscaleAlpha => "GrayscaleAlpha"
  | .rgba => "Rgba"

/-- The colour type of a number. -/
def Color.ofNumber? : Nat → Option Color
  | 0 => some .grayscale
  | 2 => some .rgb
  | 3 => some .indexed
  | 4 => some .grayscaleAlpha
  | 6 => some .rgba
  | _ => none

/-- The names of the numbers of bits that a sample can have. -/
def depthNames : List (Nat × String) :=
  [(1, "One"), (2, "Two"), (4, "Four"), (8, "Eight"), (16, "Sixteen")]

/-- Whether samples of a colour type can have a number of bits. -/
def Color.admits : Color → Nat → Bool
  | .grayscale, _ => true
  | .indexed, depth => depth < 16
  | _, depth => 8 ≤ depth

/-- Why bytes are not taken for an image. -/
inductive Fault where
  /-- The bytes end too early. -/
  | cutOff
  /-- The first bytes are others. -/
  | noSignature
  /-- The first chunk has another type. -/
  | notFirst (type : ChunkType)
  /-- The checksum does not fit the chunk. -/
  | checksum (stored found : UInt32) (type : ChunkType)
  /-- There can be only one chunk of the type. -/
  | duplicate (type : ChunkType)
  /-- The chunk has too few bytes. -/
  | shortChunk (type : ChunkType)
  | unknownCritical (type : ChunkType)
  | zeroSized
  | bitDepth (n : Nat)
  | colorType (n : Nat)
  /-- The colour type does not go with the number of bits. -/
  | colorDepth (color : Color) (depth : Nat)
  | compression (n : Nat)
  | filter (n : Nat)
  | interlacing (n : Nat)
  /-- There are no pixels. -/
  | noPixels
  /-- Pixels have numbers of colours, and there are no colours. -/
  | noPalette
  /-- The pixels take too many bytes. -/
  | tooLarge
deriving DecidableEq, Repr

namespace Fault

instance : Truncation Fault := ⟨fun _ _ => .cutOff⟩

/-- What is wrong with the content, if that is what is wrong. -/
def reason? : Fault → Option String
  | .cutOff | .tooLarge => none
  | .noSignature => some "Invalid PNG signature."
  | .notFirst type => some (type.text ++ " chunk appeared before IHDR chunk")
  | .checksum stored found type =>
    some ("CRC error: expected 0x" ++ String.ofList (Text.hexDigits stored.toNat) ++ " have 0x"
      ++ String.ofList (Text.hexDigits found.toNat) ++ " while decoding " ++ type.text ++ " chunk.")
  | .duplicate type => some ("Chunk " ++ type.text ++ " is duplicated.")
  | .shortChunk type => some ("Chunk is too short: " ++ type.text)
  | .unknownCritical type => some ("Unrecognized critical chunk: " ++ type.text)
  | .zeroSized => some "Invalid image dimensions"
  | .bitDepth n => some ("Invalid bit depth " ++ toString n ++ ".")
  | .colorType n => some ("Invalid color type " ++ toString n ++ ".")
  | .colorDepth color depth =>
    some ("Invalid color/depth combination in header: " ++ color.name ++ "/"
      ++ (depthNames.lookup depth).getD "")
  | .compression n => some ("Unknown compression method " ++ toString n ++ ".")
  | .filter n => some ("Unknown filter method " ++ toString n ++ ".")
  | .interlacing n => some ("Unknown interlace method " ++ toString n ++ ".")
  | .noPixels => some "IDAT or fdAT chunk is missing."
  | .noPalette => some "Missing palette of indexed image."

/-- The wording of a fault. -/
def message : Fault → String
  | .cutOff => cutOffText
  | .tooLarge => byteLimitText
  | fault => ImageFormat.png.malformed (fault.reason?.getD "")

end Fault

/-- A reader of an image. -/
abbrev Reader := ByteReader Fault

/-- What the first chunk tells of an image. -/
structure Header where
  size : ImageSize
  /-- The bits of a sample. -/
  depth : Nat
  color : Color
deriving DecidableEq, Repr

/-- The numbers that a pixel has, where transparency may be told apart from it. -/
def Header.samples (header : Header) (transparency : Bool) : Nat :=
  match header.color with
  | .grayscale => if transparency then 2 else 1
  | .rgb | .indexed => if transparency then 4 else 3
  | .grayscaleAlpha => 2
  | .rgba => 4

/-- The bytes that a pixel takes once it is read. A sample takes whole bytes, and
in place of the number of a colour stands the colour. -/
def Header.pixelBytes (header : Header) (transparency : Bool) : Nat :=
  header.samples transparency * if header.depth = 16 then 2 else 1

/-- The eight bytes that begin an image, in two words. A word is looked at once it
is there as a whole. -/
def signature : List (List UInt8) := [[0x89, 0x50, 0x4E, 0x47], [0x0D, 0x0A, 0x1A, 0x0A]]

/-- Goes past the words of a signature. -/
def start : List (List UInt8) → Reader Unit
  | [] => pure ()
  | word :: words => do
    if (← ByteReader.take 4) ≠ word then throw .noSignature
    start words

/-- The front of a chunk: the length of its data and its type. -/
def chunkFront : Reader (Nat × ChunkType) := do
  let length ← ByteReader.bigEndian 4
  let first ← ByteReader.byte
  let second ← ByteReader.byte
  let third ← ByteReader.byte
  let fourth ← ByteReader.byte
  return (length, { first, second, third, fourth })

/-- The data of a chunk, with the checksum that is stored behind it and the one
that it has. -/
def chunkRest (length : Nat) (type : ChunkType) : Reader (List UInt8 × UInt32 × UInt32) := do
  let data ← ByteReader.take length
  let stored ← ByteReader.bigEndian 4
  return (data, UInt32.ofNat stored, Checksum.ofBytes (type.letters ++ data))

/-- The data of a chunk whose checksum must fit. -/
def criticalData (length : Nat) (type : ChunkType) : Reader (List UInt8) := do
  let (data, stored, found) ← chunkRest length type
  if stored ≠ found then throw (.checksum stored found type)
  return data

/-- The fields of the first chunk. Each is judged before the next is read. -/
def headerFields : Reader Header := do
  let size : ImageSize := ⟨← ByteReader.bigEndian 4, ← ByteReader.bigEndian 4⟩
  if size.width = 0 ∨ size.height = 0 then throw .zeroSized
  let depth ← ByteReader.bigEndian 1
  if (depthNames.lookup depth).isNone then throw (.bitDepth depth)
  let number ← ByteReader.bigEndian 1
  match Color.ofNumber? number with
  | none => throw (.colorType number)
  | some color =>
    if !color.admits depth then throw (.colorDepth color depth)
    let compression ← ByteReader.bigEndian 1
    if compression ≠ 0 then throw (.compression compression)
    let filter ← ByteReader.bigEndian 1
    if filter ≠ 0 then throw (.filter filter)
    let interlacing ← ByteReader.bigEndian 1
    if 1 < interlacing then throw (.interlacing interlacing)
    return { size, depth, color }

/-- The first chunk, which must be the one that holds the size. No number of bytes
is ever larger than a word of 64 bits can tell. -/
def header : Reader Header := do
  let (length, type) ← chunkFront
  if type ≠ .header then throw (.notFirst type)
  match headerFields (← criticalData length type) with
  | .error .cutOff => throw (.shortChunk type)
  | .error fault => throw fault
  | .ok (header, _) =>
    if Nat.pow 2 64 ≤ header.size.bytes (header.pixelBytes false) then throw .tooLarge
    return header

/-- What the chunks before the pixels tell about them. -/
structure Colors where
  palette : Bool := false
  transparency : Bool := false
deriving DecidableEq, Repr

/-- Whether data of so many bytes can tell the transparencies of an image. -/
def Header.admitsTransparency (header : Header) (colors : Colors) (length : Nat) : Bool :=
  match header.color with
  | .grayscale => 2 ≤ length
  | .rgb => 6 ≤ length
  | .indexed => colors.palette
  | _ => false

/-- Takes in a chunk before the pixels. -/
def Colors.push (colors : Colors) (header : Header) (type : ChunkType) (length : Nat) :
    Except Fault Colors :=
  if type = .header then .error (.duplicate type)
  else if type = .palette then
    if colors.palette then .error (.duplicate type) else .ok { colors with palette := true }
  else if type = .transparency then
    .ok { colors with
      transparency := colors.transparency || header.admitsTransparency colors length }
  else if type = .last then .error .noPixels
  else if type.isCritical then .error (.unknownCritical type)
  else .ok colors

/-- Goes over the chunks before the pixels, which are at most as many as given, and
into the first chunk of pixels, whose length is told. A chunk that is not critical
is dropped if its checksum does not fit. -/
def colors (header : Header) : Nat → Colors → Reader (Colors × Nat)
  | 0, _ => throw .cutOff
  | budget + 1, known => do
    let (length, type) ← chunkFront
    if type = .pixels then return (known, length)
    let (data, stored, found) ← chunkRest length type
    if stored = found then
      match known.push header type data.length with
      | .error fault => throw fault
      | .ok known => colors header budget known
    else if type.isCritical then throw (.checksum stored found type)
    else colors header budget known

/-- Opens an image: what its header tells, what stands before the pixels, and the
length of the first chunk of pixels. One row must fit into memory. -/
def opened : Reader (Header × Colors × Nat) := do
  start signature
  let header ← header
  let (colors, length) ← colors header ((← get).length + 1) {}
  if imageByteLimit < header.size.width * header.pixelBytes colors.transparency then
    throw .tooLarge
  return (header, colors, length)

/-- Goes past the pixels, the rest of a chunk and at most the given number of
others. The chunks that follow are not looked into: an image is whole once the
front of a chunk of another type stands after the pixels. -/
def pixelsEnd : Nat → Nat → Reader Unit
  | 0, _ => throw .cutOff
  | budget + 1, length => do
    let _ ← criticalData length .pixels
    let (length, type) ← chunkFront
    if type = .pixels then pixelsEnd budget length

/-- The size of an image whose pixels begin, whether or not they are all there. -/
def size : Reader ImageSize := do
  let (header, _, _) ← opened
  return header.size

/-- The size of an image whose pixels are all there, and fit into memory. -/
def wholeSize : Reader ImageSize := do
  let (header, colors, length) ← opened
  if imageByteLimit < header.size.bytes (header.pixelBytes colors.transparency) then
    throw .tooLarge
  pixelsEnd ((← get).length + 1) length
  if header.color = .indexed ∧ !colors.palette then throw .noPalette
  return header.size

end Png

end ShaderEffects
