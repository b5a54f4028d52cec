import ShaderEffects.Image.Bytes
import ShaderEffects.Image.Format

/-!
# DDS images

The header of a DDS image: a signature, its own length, flags that tell which of
its fields count, and the size.
-/

namespace ShaderEffects

namespace Dds

/-- Why bytes are not taken for an image. -/
inductive Fault where
  /-- The bytes end too early. -/
  | cutOff
  /-- The first four bytes are others. -/
  | noSignature
  | headerLength (length : Nat)
  | flags (n : Nat)
deriving DecidableEq, Repr

namespace Fault

instance : Truncation Fault := ⟨fun _ _ => .cutOff⟩

/-- The wording of a fault. -/
def message : Fault → String
  | .cutOff => shortFieldText
  | .noSignature => ImageFormat.dds.malformed "DDS signature not found"
  | .headerLength length =>
    ImageFormat.dds.malformed ("Invalid DDS header size: " ++ toString length)
  | .flags n =>
    let digits := Text.upperDigits n
    ImageFormat.dds.malformed
      ("Invalid DDS header flags: 0x" ++ "".pushn '0' (8 - digits.length) ++ digits)

end Fault

/-- A reader of an image. -/
abbrev Reader := ByteReader Fault

/-- The flags that must be set: there are flags, a height, a width and a layout of
pixels. -/
def requiredFlags : UInt32 := 0x00001007

/-- The flags that may be set. -/
def knownFlags : UInt32 := 0x008A100F

/-- The size of an image. -/
def size : Reader ImageSize := do
  if (← ByteReader.take 4) ≠ [0x44, 0x44, 0x53, 0x20] then throw .noSignature
  let length ← ByteReader.littleEndian 4
  if length ≠ 124 then throw (.headerLength length)
  let flags ← ByteReader.littleEndian 4
  if UInt32.ofNat flags &&& (requiredFlags ||| ~~~knownFlags) ≠ requiredFlags then
    throw (.flags flags)
  let height ← ByteReader.littleEndian 4
  let width ← ByteReader.littleEndian 4
  let _ ← ByteReader.take (length - 16)
  return { width, height }

end Dds

end ShaderEffects
