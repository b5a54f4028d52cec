import ShaderEffects.Image.Bytes
import ShaderEffects.Image.Format

/-!
# WebP images

The first chunk of a WebP image. A chunk begins with four letters and the length
of its data; the image is a chunk of chunks, and the first one inside tells how
the pixels are written.
-/

namespace ShaderEffects

namespace WebP

/-- Why bytes are not taken for an image. -/
inductive Fault where
  /-- The bytes end too early. -/
  | cutOff
  /-- A chunk has other letters than it can have. -/
  | chunk (letters : List UInt8)
  /-- The chunk of chunks is not an image. -/
  | otherKind (letters : List UInt8)
  /-- The picture needs another one before it. -/
  | notKeyFrame
  | lossySignature (letters : List UInt8)
  | losslessSignature (letter : UInt8)
  | losslessVersion (version : Nat)
  | zeroSized
deriving DecidableEq, Repr

namespace Fault

instance : Truncation Fault := ⟨fun _ _ => .cutOff⟩

/-- Bytes in hexadecimal digits. -/
def bytesText (bytes : List UInt8) : String :=
  Text.row (fun b : UInt8 => String.ofList (Text.hexDigits b.toNat)) bytes

/-- What is wrong with the content, if that is what is wrong. -/
def reason? : Fault → Option String
  | .cutOff => none
  | .chunk letters => some ("Invalid Chunk header: " ++ bytesText letters)
  | .otherKind letters => some ("Invalid WebP signature: " ++ bytesText letters)
  | .notKeyFrame => some "Unsupported feature: Non-keyframe frames"
  | .lossySignature letters => some ("Invalid VP8 magic: " ++ bytesText letters)
  | .losslessSignature letter =>
    some ("Invalid lossless signature: " ++ String.ofList (Text.hexDigits letter.toNat))
  | .losslessVersion version => some ("Invalid version number: " ++ toString version)
  | .zeroSized => some "Inconsistent image sizes"

/-- The wording of a fault. -/
def message (fault : Fault) : String :=
  match fault.reason? with
  | some reason => ImageFormat.webp.malformed reason
  | none => shortFieldText

end Fault

/-- A reader of an image. -/
abbrev Reader := ByteReader Fault

/-- Four letters. -/
def letters (text : String) : List UInt8 := text.toUTF8.data.toList

/-- The size in a chunk of pixels that lost some of their detail. -/
def lossy : Reader ImageSize := do
  let tag ← ByteReader.littleEndian 3
  if tag % 2 = 1 then throw .notKeyFrame
  let signature ← ByteReader.take 3
  if signature ≠ [0x9D, 0x01, 0x2A] then throw (.lossySignature signature)
  let width ← ByteReader.littleEndian 2
  let height ← ByteReader.littleEndian 2
  let size : ImageSize := ⟨width % Nat.pow 2 14, height % Nat.pow 2 14⟩
  if size.width = 0 ∨ size.height = 0 then throw .zeroSized
  return size

/-- The size in a chunk of pixels that kept all of their detail. -/
def lossless : Reader ImageSize := do
  let signature ← ByteReader.byte
  if signature ≠ 0x2F then throw (.losslessSignature signature)
  let fields ← ByteReader.littleEndian 4
  let version := fields / Nat.pow 2 29
  if version ≠ 0 then throw (.losslessVersion version)
  return ⟨(1 + fields) % Nat.pow 2 14, (1 + fields / Nat.pow 2 14) % Nat.pow 2 14⟩

/-- The size in a chunk in front of others. -/
def extended : Reader ImageSize := do
  let _ ← ByteReader.take 4
  let width ← ByteReader.littleEndian 3
  let height ← ByteReader.littleEndian 3
  return ⟨width + 1, height + 1⟩

/-- The size of an image. -/
def size : Reader ImageSize := do
  let container ← ByteReader.take 4
  let _ ← ByteReader.take 4
  if container ≠ letters "RIFF" then throw (.chunk (letters "RIFF"))
  let kind ← ByteReader.take 4
  if kind ≠ letters "WEBP" then throw (.otherKind kind)
  let chunk ← ByteReader.take 4
  let _ ← ByteReader.take 4
  if chunk = letters "VP8 " then lossy
  else if chunk = letters "VP8L" then lossless
  else if chunk = letters "VP8X" then extended
  else throw (.chunk chunk)

end WebP

end ShaderEffects
