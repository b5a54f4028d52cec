import ShaderEffects.Image.Bytes
import ShaderEffects.Image.Format

/-!
# BMP images

The headers of a BMP image. The first one tells where the pixels are; the second
one, which comes in six lengths, tells the size and how pixels are written.
-/

namespace ShaderEffects

namespace Bmp

/-- How pixels are written. -/
inductive Coding where
  | plain
  | runs8
  | runs4
  | masks
deriving DecidableEq, Repr

/-- The name of a coding. -/
def Coding.name : Coding → String
  | .plain => "RGB"
  | .runs8 => "RLE8"
  | .runs4 => "RLE4"
  | .masks => "bitfields"

/-- The coding of a number. -/
def Coding.ofNumber? : Nat → Option Coding
  | 0 => some .plain
  | 1 => some .runs8
  | 2 => some .runs4
  | 3 => some .masks
  | _ => none

/-- Whether the pixels of a coding can have a number of bits. -/
def Coding.admits : Coding → Nat → Bool
  | .plain, bits => [1, 2, 4, 8, 16, 24, 32].contains bits
  | .runs8, bits => bits = 8
  | .runs4, bits => bits = 4
  | .masks, bits => bits = 16 || bits = 32

/-- Why bytes are not taken for an image. -/
inductive Fault where
  /-- The bytes end too early. -/
  | cutOff
  /-- The first two bytes are others. -/
  | noSignature
  | shortHeader (length : Nat)
  /-- No header has the length. -/
  | unknownHeader (length : Nat)
  | negativeWidth (width : Int)
  | tooLarge (width height : Int)
  | noHeight
  | manyPlanes
  /-- Rows that run downwards can only be written plainly or with masks. -/
  | downwards (coding : Nat)
  | unknownCoding (coding : Nat)
  | bits (coding : Coding) (n : Nat)
deriving DecidableEq, Repr

namespace Fault

instance : Truncation Fault := ⟨fun _ _ => .cutOff⟩

/-- The wording of a fault. -/
def message : Fault → String
  | .cutOff => shortFieldText
  | .noSignature => ImageFormat.bmp.malformed "BMP signature not found"
  | .shortHeader length =>
    ImageFormat.bmp.malformed ("Bitmap header too small (" ++ toString length ++ " bytes)")
  | .unknownHeader length =>
    ImageFormat.bmp.missingFeature
      ("Unknown bitmap header type (size=" ++ toString length ++ ")")
  | .negativeWidth width =>
    ImageFormat.bmp.malformed ("Negative width (" ++ toString width ++ ")")
  | .tooLarge width height =>
    ImageFormat.bmp.malformed
      ("Image too large (one of (" ++ toString width ++ ", " ++ toString height
        ++ ") > soft limit of 65535)")
  | .noHeight => ImageFormat.bmp.malformed "Invalid height"
  | .manyPlanes => ImageFormat.bmp.malformed "More than one plane"
  | .downwards coding =>
    ImageFormat.bmp.malformed
      ("Invalid image type " ++ toString coding ++ " for top-down image.")
  | .unknownCoding coding =>
    ImageFormat.bmp.malformed ("Unknown image compression type " ++ toString coding)
  | .bits coding n =>
    ImageFormat.bmp.malformed
      ("Invalid channel bit count for " ++ coding.name ++ ": " ++ toString n)

end Fault

/-- A reader of an image. -/
abbrev Reader := ByteReader Fault

/-- The longest side of an image. -/
def sideLimit : Int := 0xFFFF

/-- The length of the shortest header. -/
def shortestHeader : Nat := 12

/-- The lengths of the other headers. -/
def headerLengths : List Nat := [40, 52, 56, 108, 124]

/-- The number of planes, which is one. -/
def plane : Reader Unit := do
  if (← ByteReader.littleEndian 2) ≠ 1 then throw .manyPlanes

/-- The size in the shortest header. -/
def shortHeader : Reader ImageSize := do
  let width ← ByteReader.littleEndian 2
  let height ← ByteReader.littleEndian 2
  plane
  let bits ← ByteReader.littleEndian 2
  if bits ∉ [1, 4, 8, 24] then throw (.bits .plain bits)
  return { width, height }

/-- The size in a longer header. Rows run downwards if the height is negative. -/
def longHeader : Reader ImageSize := do
  let width ← ByteReader.signed
  let height ← ByteReader.signed
  if width < 0 then throw (.negativeWidth width)
  if sideLimit < width ∨ sideLimit < height then throw (.tooLarge width height)
  if height = -(Nat.pow 2 31 : Nat) then throw .noHeight
  plane
  let bits ← ByteReader.littleEndian 2
  let number ← ByteReader.littleEndian 4
  if height < 0 ∧ number ∉ [0, 3] then throw (.downwards number)
  match Coding.ofNumber? number with
  | none => throw (.unknownCoding number)
  | some coding =>
    if !coding.admits bits then throw (.bits coding bits)
    let _ ← ByteReader.take 20
    return ⟨width.toNat, height.natAbs⟩

/-- The size in the second header. -/
def header : Reader ImageSize := do
  let length ← ByteReader.littleEndian 4
  if length = shortestHeader then shortHeader
  else if length < shortestHeader then throw (.shortHeader length)
  else if length ∈ headerLengths then longHeader
  else throw (.unknownHeader length)

/-- The size of an image. -/
def size : Reader ImageSize := do
  if (← ByteReader.take 2) ≠ [0x42, 0x4D] then throw .noSignature
  let _ ← ByteReader.take 12
  header

end Bmp

end ShaderEffects
