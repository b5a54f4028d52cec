import ShaderEffects.Parameter.Type
import ShaderEffects.Program.Identifier

/-!
# Constant tables

Where the parameters that a program mentions live: numbers in consecutive
registers, samplers in consecutive slots, both in order of declaration.
-/

namespace ShaderEffects

/-- The name and type of a declared parameter. -/
structure Declaration where
  name : String
  type : ParameterType
deriving DecidableEq, Repr

/-- The registers of a parameter that holds numbers. -/
structure ConstantSlot where
  parameter : String
  type : ParameterType
  /-- The first register. -/
  register : Nat
  /-- The number of registers. -/
  registers : Nat
deriving DecidableEq, Repr

/-- The slot of a sampler. -/
structure SamplerSlot where
  parameter : String
  type : ParameterType
  slot : Nat
deriving DecidableEq, Repr

/-- Where each parameter of a program lives. -/
structure ConstantTable where
  constants : List ConstantSlot := []
  samplers : List SamplerSlot := []
deriving DecidableEq, Repr

namespace ConstantTable

/-- Puts the declared parameters that a source mentions behind what is in a table: the next
number into a register, the next sampler into the first slot that is free. -/
def extend (source : String) (table : ConstantTable) (register : Nat) :
    List Declaration → ConstantTable
  | [] => table
  | d :: rest =>
    if Identifier.occurs d.name source then
      match d.type.category with
      | .scalar =>
        let slot : ConstantSlot := ⟨d.name, d.type, register, d.type.registers⟩
        extend source { table with constants := table.constants ++ [slot] }
          (register + d.type.registers) rest
      | .sampler =>
        let slot : SamplerSlot := ⟨d.name, d.type, table.samplers.length⟩
        extend source { table with samplers := table.samplers ++ [slot] } register rest
    else extend source table register rest

/-- Lays out the declared parameters that a source mentions. -/
def build (source : String) (declarations : List Declaration) : ConstantTable :=
  extend source {} 0 declarations

/-- The number of registers in use. -/
def registerCount (table : ConstantTable) : Nat :=
  match table.constants.getLast? with
  | some slot => slot.register + slot.registers
  | none => 0

/-- The registers of a parameter. -/
def constant? (table : ConstantTable) (parameter : String) : Option ConstantSlot :=
  table.constants.find? fun slot => slot.parameter = parameter

/-- The slot of a sampler. -/
def sampler? (table : ConstantTable) (parameter : String) : Option SamplerSlot :=
  table.samplers.find? fun slot => slot.parameter = parameter

/-- Whether a parameter lives in the table. -/
def references (table : ConstantTable) (parameter : String) : Bool :=
  (table.constant? parameter).isSome || (table.sampler? parameter).isSome

/-! ## The two halves of a table -/

/-- The declared parameters of a category that a source mentions. -/
def mentioned (source : String) (category : ParameterCategory) (ds : List Declaration) :
    List Declaration :=
  ds.filter fun d => Identifier.occurs d.name source ∧ d.type.category = category

/-- Lays numbers out from a register on. -/
def layConstants (register : Nat) : List Declaration → List ConstantSlot
  | [] => []
  | d :: rest =>
    ⟨d.name, d.type, register, d.type.registers⟩ :: layConstants (register + d.type.registers) rest

/-- Lays samplers out from a slot on. -/
def laySamplers (slot : Nat) : List Declaration → List SamplerSlot
  | [] => []
  | d :: rest => ⟨d.name, d.type, slot⟩ :: laySamplers (slot + 1) rest

theorem layConstants_map_parameter (register : Nat) (ds : List Declaration) :
    (layConstants register ds).map (·.parameter) = ds.map (·.name) := by
  induction ds generalizing register with
  | nil => rfl
  | cons d rest ih => simp [layConstants, ih]

theorem laySamplers_map_parameter (slot : Nat) (ds : List Declaration) :
    (laySamplers slot ds).map (·.parameter) = ds.map (·.name) := by
  induction ds generalizing slot with
  | nil => rfl
  | cons d rest ih => simp [laySamplers, ih]

@[simp] theorem length_laySamplers (slot : Nat) (ds : List Declaration) :
    (laySamplers slot ds).length = ds.length := by
  induction ds generalizing slot with
  | nil => rfl
  | cons d rest ih => simp [laySamplers, ih]

/-- Numbers and samplers are laid out beside each other, neither moves the other. -/
theorem extend_eq (source : String) (table : ConstantTable) (register : Nat)
    (ds : List Declaration) :
    extend source table register ds =
      { constants := table.constants ++ layConstants register (mentioned source .scalar ds)
        samplers :=
          table.samplers ++ laySamplers table.samplers.length (mentioned source .sampler ds) } := by
  induction ds generalizing table register with
  | nil => simp [extend, mentioned, layConstants, laySamplers]
  | cons d rest ih =>
    unfold extend
    by_cases hoccurs : Identifier.occurs d.name source = true
    · cases hcategory : d.type.category <;>
        simp [hoccurs, hcategory, ih, mentioned, layConstants, laySamplers]
    · simp [hoccurs, ih, mentioned]

/-- A table is made of what the source mentions of either category. -/
theorem build_eq (source : String) (ds : List Declaration) :
    build source ds =
      { constants := layConstants 0 (mentioned source .scalar ds)
        samplers := laySamplers 0 (mentioned source .sampler ds) } := by
  simp [build, extend_eq]

end ConstantTable

end ShaderEffects
