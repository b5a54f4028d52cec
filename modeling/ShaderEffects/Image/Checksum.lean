/-!
# Cyclic checksums

The checksum of thirty-two bits that guards the chunks of a PNG image: the
remainder of a division of polynomials whose coefficients are bits, where the
first bits are turned around before and all of them after.
-/

namespace ShaderEffects.Checksum

/-- Divides out one bit. -/
def step (sum : UInt32) : UInt32 :=
  if sum &&& 1 = 1 then (sum >>> 1) ^^^ 0xEDB88320 else sum >>> 1

/-- Takes in one byte. -/
def push (sum : UInt32) (b : UInt8) : UInt32 :=
  Nat.repeat step 8 (sum ^^^ b.toUInt32)

/-- The checksum of bytes. -/
def ofBytes (bytes : List UInt8) : UInt32 :=
  bytes.foldl push 0xFFFFFFFF ^^^ 0xFFFFFFFF

example : ofBytes "123456789".toUTF8.data.toList = 0xCBF43926 := by decide +kernel

end ShaderEffects.Checksum
