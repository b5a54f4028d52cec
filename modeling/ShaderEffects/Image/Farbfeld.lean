import ShaderEffects.Image.Bytes
import ShaderEffects.Image.Format

/-!
# Farbfeld images

A Farbfeld image is a signature, the width, the height and the pixels, each of
four numbers of two bytes.
-/

namespace ShaderEffects

namespace Farbfeld

/-- Why bytes are not taken for an image. -/
inductive Fault where
  /-- The bytes end before the pixels. -/
  | cutOff
  /-- The first eight bytes are others. -/
  | otherStart (bytes : List UInt8)
  /-- The number of bytes is larger than a word of 64 bits can tell. -/
  | uncountable (size : ImageSize)
  /-- The pixels take too many bytes. -/
  | tooLarge
  /-- The bytes end inside the pixels. -/
  | missingPixels
deriving DecidableEq, Repr

namespace Fault

instance : Truncation Fault := ⟨fun _ _ => .cutOff⟩

/-- The wording of a fault. -/
def message : Fault → String
  | .cutOff => ImageFormat.farbfeld.unread shortFieldText
  | .otherStart bytes =>
    ImageFormat.farbfeld.malformed ("Invalid magic: " ++ Text.row Text.byteDigits bytes)
  | .uncountable size =>
    ImageFormat.farbfeld.missingFeature
      ("Image dimensions (" ++ toString size.width ++ "x" ++ toString size.height
        ++ ") are too large")
  | .tooLarge => byteLimitText
  | .missingPixels => shortFieldText

end Fault

/-- A reader of an image. -/
abbrev Reader := ByteReader Fault

/-- The bytes of a pixel. -/
def pixelBytes : Nat := 8

/-- The size of an image, whether or not its pixels are there. -/
def size : Reader ImageSize := do
  let start ← ByteReader.take 8
  if start ≠ "farbfeld".toUTF8.data.toList then throw (.otherStart start)
  let size : ImageSize := ⟨← ByteReader.bigEndian 4, ← ByteReader.bigEndian 4⟩
  if (Nat.pow 2 64 - 1) / pixelBytes < size.width * size.height then throw (.uncountable size)
  return size

/-- The size of an image whose pixels are all there, and fit into memory. -/
def wholeSize : Reader ImageSize := do
  let size ← size
  if imageByteLimit < size.bytes pixelBytes then throw .tooLarge
  if (← get).length < size.bytes pixelBytes then throw .missingPixels
  return size

end Farbfeld

end ShaderEffects
