import ShaderEffects.Image.Bytes
import ShaderEffects.Image.Format

/-!
# QOI images

The header of a QOI image. It is looked at once it is there as a whole: first how
pixels are written, then the signature, then the size.
-/

namespace ShaderEffects

namespace Qoi

/-- Why bytes are not taken for an image. -/
inductive Fault where
  /-- The bytes end too early. -/
  | cutOff
  | channels (n : UInt8)
  | colorSpace (n : UInt8)
  /-- The first four bytes are others. -/
  | otherStart (bytes : List UInt8)
  /-- There are no pixels, or too many. -/
  | sides (size : ImageSize)
deriving DecidableEq, Repr

namespace Fault

instance : Truncation Fault := ⟨fun _ _ => .cutOff⟩

/-- The wording of a fault. -/
def message : Fault → String
  | .cutOff => ImageFormat.qoi.unread shortFieldText
  | .channels n =>
    ImageFormat.qoi.malformed ("invalid number of channels: " ++ toString n.toNat)
  | .colorSpace n =>
    ImageFormat.qoi.malformed
      ("invalid color space: " ++ toString n.toNat ++ " (expected 0 or 1)")
  | .otherStart bytes =>
    ImageFormat.qoi.malformed
      ("invalid magic: expected 1903126886, got "
        ++ Text.row (fun b : UInt8 => toString b.toNat) bytes)
  | .sides size =>
    ImageFormat.qoi.malformed
      ("invalid image dimensions: " ++ toString size.width ++ "x" ++ toString size.height)

end Fault

/-- A reader of an image. -/
abbrev Reader := ByteReader Fault

/-- The most pixels of an image. -/
def pixelLimit : Nat := 400000000

/-- The size of an image. -/
def size : Reader ImageSize := do
  let header ← ByteReader.take 14
  let start := header.take 4
  let size : ImageSize :=
    ⟨ByteReader.number ((header.drop 4).take 4), ByteReader.number ((header.drop 8).take 4)⟩
  let channels := header.getD 12 0
  let colorSpace := header.getD 13 0
  if channels ≠ 3 ∧ channels ≠ 4 then throw (.channels channels)
  if 1 < colorSpace then throw (.colorSpace colorSpace)
  if start ≠ "qoif".toUTF8.data.toList then throw (.otherStart start)
  if size.width * size.height = 0 ∨ pixelLimit < size.width * size.height then
    throw (.sides size)
  return size

end Qoi

end ShaderEffects
