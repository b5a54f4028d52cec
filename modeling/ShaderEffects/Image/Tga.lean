import ShaderEffects.Image.Bytes
import ShaderEffects.Image.Format

/-!
# TGA images

The header of a TGA image, the name that may follow it and the colours that may
follow that. The format has no signature: any bytes are taken for a header, and
what cannot be a picture is refused.
-/

namespace ShaderEffects

namespace Tga

/-- Why bytes are not taken for an image. -/
inductive Fault where
  /-- The bytes end too early. -/
  | cutOff
  /-- The image has no pixels. -/
  | zeroSized
  /-- Pixels have numbers of colours, and there are no colours. -/
  | noColors
  /-- The number of a colour has neither one nor two bytes. -/
  | colorNumber
  /-- The number of a colour has more bits than the colour. -/
  | largeNumber
  /-- The bits of a pixel do not tell its colour. -/
  | color (bits : Nat)
  /-- A colour in the list of colours has a number of bytes that none can have. -/
  | colorLength
deriving DecidableEq, Repr

namespace Fault

instance : Truncation Fault := ⟨fun _ _ => .cutOff⟩

/-- The wording of a fault. -/
def message : Fault → String
  | .cutOff => shortFieldText
  | .zeroSized => ImageFormat.tga.malformed "Invalid empty image"
  | .noColors =>
    ImageFormat.tga.malformed "Color map type must be 1 for color mapped images"
  | .colorNumber => ImageFormat.tga.malformed "Color map must use 1 or 2 byte indexes"
  | .largeNumber => ImageFormat.tga.missingFeature "Indices larger than pixel values"
  | .color bits =>
    "The encoder or decoder for " ++ ImageFormat.tga.name ++ " does not support the color type `"
      ++ "Unknown(" ++ toString bits ++ ")`"
  | .colorLength => ImageFormat.tga.missingFeature "Unsupported color map entry size"

end Fault

/-- A reader of an image. -/
abbrev Reader := ByteReader Fault

/-- What the header tells of an image. -/
structure Header where
  nameLength : Nat
  /-- Whether a list of colours follows, which is told by a one. -/
  list : Nat
  /-- How pixels are written. -/
  kind : Nat
  /-- The colours in the list. -/
  colors : Nat
  /-- The bits of a colour in the list. -/
  colorBits : Nat
  size : ImageSize
  /-- The bits of a pixel. -/
  bits : Nat
  /-- Flags, of which the lowest four tell the bits of the transparency. -/
  flags : Nat
deriving DecidableEq, Repr

namespace Header

/-- Whether pixels have numbers of colours. -/
def isIndexed (header : Header) : Bool := header.kind = 1 || header.kind = 9

/-- Whether pixels have colours, and not only a brightness. -/
def isColored (header : Header) : Bool :=
  header.isIndexed || header.kind = 2 || header.kind = 10

/-- The bits of the transparency. -/
def alphaBits (header : Header) : Nat := header.flags % 16

/-- The bits of a colour with its transparency. -/
def totalBits (header : Header) : Nat :=
  if header.isIndexed then header.colorBits else header.bits

/-- The bits of transparency and of the rest that a coloured pixel can have. -/
def coloredBits : List (Nat × Nat) := [(0, 32), (8, 24), (0, 24), (1, 15), (0, 15), (0, 16)]

/-- The bits of transparency and of the rest that a grey pixel can have. -/
def grayBits : List (Nat × Nat) := [(8, 8), (0, 8), (8, 0)]

/-- Whether the bits of a pixel tell its colour. -/
def tellsColor (header : Header) : Bool :=
  header.alphaBits ≤ header.totalBits &&
    (if header.isColored then coloredBits else grayBits).contains
      (header.alphaBits, header.totalBits - header.alphaBits)

end Header

/-- The header of an image. -/
def header : Reader Header := do
  let nameLength ← ByteReader.bigEndian 1
  let list ← ByteReader.bigEndian 1
  let kind ← ByteReader.bigEndian 1
  let _ ← ByteReader.take 2
  let colors ← ByteReader.littleEndian 2
  let colorBits ← ByteReader.bigEndian 1
  let _ ← ByteReader.take 4
  let size : ImageSize := ⟨← ByteReader.littleEndian 2, ← ByteReader.littleEndian 2⟩
  let bits ← ByteReader.bigEndian 1
  let flags ← ByteReader.bigEndian 1
  return { nameLength, list, kind, colors, colorBits, size, bits, flags }

/-- Judges a header. -/
def Header.fault? (header : Header) : Option Fault :=
  if header.size.width = 0 ∨ header.size.height = 0 then some .zeroSized
  else if header.isIndexed ∧ header.list ≠ 1 then some .noColors
  else if header.isIndexed ∧ header.bits ∉ [8, 16] then some .colorNumber
  else if header.isIndexed ∧ header.colorBits < header.bits then some .largeNumber
  else if !header.tellsColor then some (.color header.bits)
  else none

/-- The size of an image. -/
def size : Reader ImageSize := do
  let header ← header
  if let some fault := header.fault? then throw fault
  let _ ← ByteReader.take header.nameLength
  if header.list = 1 then
    let length := (header.colorBits + 7) / 8
    if length ∉ [2, 3, 4] then throw .colorLength
    let _ ← ByteReader.take (length * header.colors)
  return header.size

end Tga

end ShaderEffects
