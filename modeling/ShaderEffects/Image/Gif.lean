import ShaderEffects.Image.Bytes
import ShaderEffects.Image.Format

/-!
# GIF images

The blocks of a GIF image up to its first picture. The size stands in front of
all blocks.
-/

namespace ShaderEffects

namespace Gif

/-- Why bytes are not taken for an image. -/
inductive Fault where
  /-- The bytes end too early. -/
  | cutOff
  /-- The first six bytes are others. -/
  | otherStart
  | unknownBlock
  | unknownExtension
  /-- The image ends before its first picture. -/
  | noPicture
deriving DecidableEq, Repr

namespace Fault

instance : Truncation Fault := ⟨fun _ _ => .cutOff⟩

/-- What is wrong with the content. -/
def reason : Fault → String
  | .cutOff => "Unexpected End of File"
  | .otherStart => "malformed GIF header"
  | .unknownBlock => "unknown block type encountered"
  | .unknownExtension => "unknown extension block encountered"
  | .noPicture => "file does not contain any image data"

/-- The wording of a fault. -/
def message (fault : Fault) : String := ImageFormat.gif.malformed fault.reason

end Fault

/-- A reader of an image. -/
abbrev Reader := ByteReader Fault

/-- The six bytes that can begin an image. -/
def starts : List String := ["GIF87a", "GIF89a"]

/-- Goes past the parts of an extension, each of which tells its length, of which
there are at most as many as given. -/
def parts : Nat → Reader Unit
  | 0 => throw .cutOff
  | budget + 1 => do
    let length ← ByteReader.byte
    if length = 0 then return
    let _ ← ByteReader.take length.toNat
    parts budget

/-- Goes over the blocks before the first picture, which are at most as many as
given. A block is looked at once there is a byte behind the one that tells it. -/
def blocks : Nat → Reader Unit
  | 0 => throw .cutOff
  | budget + 1 => do
    let block ← ByteReader.byte
    let next ← ByteReader.byte
    if block = 0x2C then return
    if block = 0x3B then throw .noPicture
    if block ≠ 0x21 then throw .unknownBlock
    if next ∉ [0x01, 0xF9, 0xFE, 0xFF] then throw .unknownExtension
    parts budget
    blocks budget

/-- The size of an image. -/
def size : Reader ImageSize := do
  if (← ByteReader.take 6) ∉ starts.map (·.toUTF8.data.toList) then throw .otherStart
  let width ← ByteReader.littleEndian 2
  let height ← ByteReader.littleEndian 2
  let flags ← ByteReader.bigEndian 1
  let _ ← ByteReader.take 2
  if 128 ≤ flags then
    let _ ← ByteReader.take (3 * Nat.pow 2 (flags % 8 + 1))
  blocks ((← get).length + 1)
  return { width, height }

end Gif

end ShaderEffects
