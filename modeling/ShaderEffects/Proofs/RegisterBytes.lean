import Mathlib.Tactic.SplitIfs
import ShaderEffects.Proofs.ConstantSlots
import ShaderEffects.Proofs.GpuRegisters

/-!
# The bytes of registers

A register takes sixteen bytes, so the registers of a slot are a stretch of the bytes of all
registers, and numbers that are written there replace this stretch and no other.
-/
namespace ShaderEffects

open Gpu

/-! ## Stretches of equal parts -/

section parts

variable {α β : Type} {f : α → List β} {size : Nat} (hf : ∀ x, (f x).length = size)

include hf

end parts

/-! ## Bytes -/

/-- The bytes of a word, the lowest first. -/
def wordBytes (word : UInt32) : List UInt8 :=
  [word.toUInt8, (word >>> 8).toUInt8, (word >>> 16).toUInt8, (word >>> 24).toUInt8]

/-- The bytes of numbers. -/
def floatBytes (values : List Float32) : List UInt8 :=
  values.flatMap fun value => wordBytes value.toBits

/-- The bytes of registers. -/
def registerBytes (registers : List Register) : List UInt8 :=
  registers.flatMap fun register => floatBytes register.toList

namespace GpuDevice

/-! ## Numbers that are written -/

theorem dirty_writeRegisters_of_dirty {p : LoadedProgram} (hp : p.dirty = true) (register : Nat)
    (rs : List Register) : (writeRegisters p register rs).dirty = true := by
  induction rs generalizing p register with
  | nil => exact hp
  | cons r rest ih =>
    rw [writeRegisters]
    refine ih ?_ (register + 1)
    split_ifs
    · rfl
    · exact hp

end GpuDevice

end ShaderEffects
