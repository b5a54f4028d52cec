import ShaderEffects.Image.Bytes
import ShaderEffects.Image.Format

/-!
# OpenEXR images

The first two words of an OpenEXR image: a signature, and the version with flags
that tell how the image is laid out. What follows is not looked into.
-/

namespace ShaderEffects

namespace OpenExr

/-- Why bytes are not taken for an image. -/
inductive Fault where
  /-- The bytes end too early. -/
  | cutOff
  /-- The first four bytes are others. -/
  | noSignature
  /-- Flags are set that have no meaning yet. -/
  | unknownFlags
deriving DecidableEq, Repr

namespace Fault

instance : Truncation Fault := ⟨fun _ _ => .cutOff⟩

/-- What is wrong with the content. -/
def reason : Fault → String
  | .cutOff => "invalid: reference to missing bytes"
  | .noSignature => "invalid: file identifier missing"
  | .unknownFlags => "not supported: too new file feature flags"

/-- The wording of a fault. -/
def message (fault : Fault) : String := ImageFormat.openExr.malformed fault.reason

end Fault

/-- A reader of an image. -/
abbrev Reader := ByteReader Fault

/-- The bits that hold the version and the flags with a meaning. -/
def knownBits : Nat := 13

/-- Refuses an image. The sides stand behind what is looked at, so that every image
ends too early. -/
def size : Reader ImageSize := do
  if (← ByteReader.take 4) ≠ [0x76, 0x2F, 0x31, 0x01] then throw .noSignature
  let flags ← ByteReader.littleEndian 4
  if Nat.pow 2 knownBits ≤ flags then throw .unknownFlags
  throw .cutOff

end OpenExr

end ShaderEffects
