import ShaderEffects.Text.Blank

/-!
# Parameter types

The types a parameter can have, their spellings in effect documents, and the
room a parameter of each type takes up in a program: four-component registers
for numbers, one slot for a sampler.
-/

namespace ShaderEffects

/-- What a parameter hands to a program. -/
inductive ParameterCategory where
  | scalar
  | sampler
deriving DecidableEq, Repr

/-- The name of a category in messages. -/
def ParameterCategory.name : ParameterCategory → String
  | .scalar => "Scalar"
  | .sampler => "Sampler"

/-- The type of a parameter. -/
inductive ParameterType where
  | float1
  | float2
  | float3
  | float4
  | matrix
  | sampler1D
  | sampler2D
  | sampler3D
  | samplerCube
deriving DecidableEq, Repr

namespace ParameterType

/-- The name of a type in messages. -/
def name : ParameterType → String
  | .float1 => "Float1"
  | .float2 => "Float2"
  | .float3 => "Float3"
  | .float4 => "Float4"
  | .matrix => "Matrix"
  | .sampler1D => "Sampler1D"
  | .sampler2D => "Sampler2D"
  | .sampler3D => "Sampler3D"
  | .samplerCube => "SamplerCube"

/-- The spellings of the types in effect documents. -/
def spellings : List (String × ParameterType) :=
  [("float", .float1), ("float1", .float1), ("f32", .float1),
    ("float2", .float2), ("vec2", .float2), ("vec2f", .float2),
    ("float3", .float3), ("vec3", .float3), ("vec3f", .float3),
    ("float4", .float4), ("vec4", .float4), ("vec4f", .float4),
    ("float4x4", .matrix), ("matrix", .matrix), ("mat4x4f", .matrix),
    ("sampler1D", .sampler1D), ("sampler1d", .sampler1D),
    ("sampler", .sampler2D), ("sampler2D", .sampler2D), ("sampler2d", .sampler2D),
    ("texture_2d", .sampler2D),
    ("sampler3D", .sampler3D), ("sampler3d", .sampler3D), ("texture_3d", .sampler3D),
    ("samplerCUBE", .samplerCube), ("samplerCube", .samplerCube),
    ("samplercube", .samplerCube), ("texture_cube", .samplerCube)]

/-- The type with a spelling. Blanks around the spelling do not matter; the case
of its letters does. -/
def ofSpelling? (text : String) : Option ParameterType :=
  spellings.lookup (Text.trim text)

/-- Whether parameters of the type hold numbers or a texture. -/
def category : ParameterType → ParameterCategory
  | .float1 | .float2 | .float3 | .float4 | .matrix => .scalar
  | .sampler1D | .sampler2D | .sampler3D | .samplerCube => .sampler

/-- The numbers in a value of the type. -/
def components : ParameterType → Nat
  | .float1 => 1
  | .float2 => 2
  | .float3 => 3
  | .float4 => 4
  | .matrix => 16
  | _ => 0

/-- The registers of four numbers that a value of the type fills. -/
def registers : ParameterType → Nat
  | .matrix => 4
  | .float1 | .float2 | .float3 | .float4 => 1
  | _ => 0

example : ofSpelling? " float4x4 " = some .matrix := by decide +kernel

end ParameterType

end ShaderEffects
