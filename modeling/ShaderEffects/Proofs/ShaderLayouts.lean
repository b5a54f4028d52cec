import ShaderEffects.Device.Gpu.Prelude
import ShaderEffects.Proofs.SamplerFiles

/-!
# What a shader declares

A shader lays out the fields of a uniform struct by itself: each field begins at the next
multiple of its alignment behind the one before it. The fields that are declared for the
parameters of a program leave no gap, so each begins where the registers of its slot begin,
at sixteen bytes for a register. Its textures and samplers take one binding after the other.
-/
namespace ShaderEffects

open Gpu

namespace Gpu

/-! ## The layout of a uniform struct -/

/-- The bytes of a field. -/
def FieldType.size : FieldType → Nat
  | .vec4 => 16
  | .mat4x4 => 64

/-- A field begins at a multiple of this many bytes. -/
def FieldType.align : FieldType → Nat
  | .vec4 => 16
  | .mat4x4 => 16

/-- A field where a shader finds it in a uniform buffer. -/
structure PlacedField where
  name : String
  offset : Nat
  size : Nat
deriving DecidableEq, Repr

/-- The next multiple of an alignment. -/
def roundUp (align n : Nat) : Nat := (n + (align - 1)) / align * align

/-- The fields of a uniform struct from a byte on, as a shader lays them out. -/
def place (start : Nat) : List Field → List PlacedField
  | [] => []
  | field :: rest =>
    let offset := roundUp field.type.align start
    ⟨field.name, offset, field.type.size⟩ :: place (offset + field.type.size) rest

end Gpu

/-- The place of the registers of a slot, at sixteen bytes for each register. -/
def ConstantSlot.placed (slot : ConstantSlot) : PlacedField :=
  ⟨slot.parameter, 16 * slot.register, 16 * slot.registers⟩

namespace ConstantTable

end ConstantTable

/-! ## What a prelude declares -/

namespace Gpu

/-- The kinds of things at bindings. -/
inductive ResourceKind where
  | buffer
  | texture
  | sampler
deriving DecidableEq, Repr

def VariableType.kind : VariableType → ResourceKind
  | .uniform _ => .buffer
  | .texture2D => .texture
  | .sampler => .sampler

/-- The binding of a variable in its group, and what it expects there. -/
def Variable.port (v : Variable) : Nat × ResourceKind := (v.binding, v.type.kind)

/-- The variable that a declaration declares. -/
def ShaderItem.global? : ShaderItem → Option Variable
  | .struct .. => none
  | .global v => some v

/-- The variables that are declared for a program. -/
def declared (p : Program) : List Variable := (preludeItems p).filterMap ShaderItem.global?

/-- What a program expects in the bind group of its textures. -/
def samplerPorts (p : Program) : List (Nat × ResourceKind) :=
  ((declared p).filter fun v => v.group = samplersGroup p.stage).map Variable.port

/-- Textures and samplers in turns, at one binding after the other. -/
def alternating (count : Nat) : List (Nat × ResourceKind) :=
  (List.range count).flatMap fun slot => [(slot * 2, .texture), (slot * 2 + 1, .sampler)]

/-- The one struct that is declared is that of the numbers. -/
theorem of_struct_mem {p : Program} {name : String} {members : List Field}
    (h : .struct name members ∈ preludeItems p) :
    constantItems p.stage p.constants.constants =
        [.struct name members,
          .global ⟨0, constantsBinding p.stage, "constants", .uniform name⟩] ∧
      members = fields p.constants.constants := by
  have hsamplers : .struct name members ∉ p.constants.samplers.flatMap (samplerItems p.stage) := by
    simp [samplerItems]
  have hconstants := (List.mem_append.mp h).resolve_right hsamplers
  unfold constantItems at hconstants ⊢
  split_ifs at hconstants ⊢
  · exact absurd hconstants List.not_mem_nil
  · simp only [List.mem_cons, ShaderItem.struct.injEq, reduceCtorEq, List.not_mem_nil,
      or_false] at hconstants
    obtain ⟨rfl, rfl⟩ := hconstants
    exact ⟨rfl, rfl⟩

end Gpu

end ShaderEffects
