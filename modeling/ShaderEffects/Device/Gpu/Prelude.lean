import ShaderEffects.Program.Compiler

/-!
# Preludes

The declarations put in front of a program's source, so that the source can use
its parameters by name. Numbers are the fields of one uniform struct, which lie
one after the other in registers of four; each sampler is a texture and a
sampler at neighbouring bindings.
-/

namespace ShaderEffects.Gpu

/-- The bind group of the textures of a stage. -/
def samplersGroup : Stage → Nat
  | .vertex => 1
  | _ => 2

/-- The binding of the uniform struct of a stage. -/
def constantsBinding : Stage → Nat
  | .vertex => 0
  | _ => 1

/-- The name of the uniform struct of a stage. -/
def constantsStruct : Stage → String
  | .vertex => "VertexConstants"
  | _ => "FragmentConstants"

/-- The types of the fields of a uniform struct. -/
inductive FieldType where
  | vec4
  | mat4x4
deriving DecidableEq, Repr

/-- The type as a shader spells it. -/
def FieldType.spelling : FieldType → String
  | .vec4 => "vec4<f32>"
  | .mat4x4 => "mat4x4<f32>"

/-- The type of the field of a parameter. -/
def FieldType.ofParameter : ParameterType → FieldType
  | .matrix => .mat4x4
  | _ => .vec4

/-- A field of a uniform struct. -/
structure Field where
  name : String
  type : FieldType
deriving DecidableEq, Repr

/-- The line of a field. -/
def Field.line (field : Field) : String :=
  "    " ++ field.name ++ ": " ++ field.type.spelling ++ ","

/-- What a variable at a binding is. -/
inductive VariableType where
  /-- A uniform of the struct of a name. -/
  | uniform (struct : String)
  | texture2D
  | sampler
deriving DecidableEq, Repr

/-- A variable at a binding of a bind group. -/
structure Variable where
  group : Nat
  binding : Nat
  name : String
  type : VariableType
deriving DecidableEq, Repr

/-- The line of a variable. -/
def Variable.line (v : Variable) : String :=
  "@group(" ++ toString v.group ++ ") @binding(" ++ toString v.binding ++ ") var"
    ++ match v.type with
      | .uniform struct => "<uniform> " ++ v.name ++ ": " ++ struct ++ ";"
      | .texture2D => " " ++ v.name ++ ": texture_2d<f32>;"
      | .sampler => " " ++ v.name ++ ": sampler;"

/-- A declaration of a shader. -/
inductive ShaderItem where
  | struct (name : String) (fields : List Field)
  | global (v : Variable)
deriving DecidableEq, Repr

/-- The lines of a declaration. -/
def ShaderItem.lines : ShaderItem → List String
  | .struct name fields => ["struct " ++ name ++ " \x7b"] ++ fields.map Field.line ++ ["\x7d;"]
  | .global v => [v.line]

/-- The fields of the parameters that hold numbers. -/
def fields (constants : List ConstantSlot) : List Field :=
  constants.map fun slot => ⟨slot.parameter, .ofParameter slot.type⟩

/-- The declarations of the uniform struct. -/
def constantItems (stage : Stage) (constants : List ConstantSlot) : List ShaderItem :=
  if constants.isEmpty then []
  else
    [.struct (constantsStruct stage) (fields constants),
      .global ⟨0, constantsBinding stage, "constants", .uniform (constantsStruct stage)⟩]

/-- The declarations of the texture and the sampler of a slot. -/
def samplerItems (stage : Stage) (slot : SamplerSlot) : List ShaderItem :=
  [.global ⟨samplersGroup stage, slot.slot * 2, slot.parameter, .texture2D⟩,
    .global ⟨samplersGroup stage, slot.slot * 2 + 1, slot.parameter ++ "_sampler", .sampler⟩]

/-- The declarations put in front of a program. -/
def preludeItems (program : Program) : List ShaderItem :=
  constantItems program.stage program.constants.constants
    ++ program.constants.samplers.flatMap (samplerItems program.stage)

/-- The name that a declaration gives to something. -/
def ShaderItem.name : ShaderItem → String
  | .struct name _ => name
  | .global v => v.name

/-- The names that are declared in front of a program. -/
def declaredNames (program : Program) : List String :=
  (preludeItems program).map ShaderItem.name

/-- The text put in front of a program. Every line of it ends with a line feed. -/
def prelude (program : Program) : String :=
  String.join (((preludeItems program).flatMap ShaderItem.lines).map (· ++ "\n"))

/-- The text a device is given for a program. -/
def moduleSource (program : Program) : String :=
  prelude program ++ "\n" ++ program.source

end ShaderEffects.Gpu
