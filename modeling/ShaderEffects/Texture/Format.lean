import ShaderEffects.Text.Blank

/-!
# Texture formats

The nine layouts of a texel. A format has one short name in documents that
describe settings, and several spellings in annotations, some of them the
longer ones of older effect files.
-/

namespace ShaderEffects

/-- The layout of one texel. -/
inductive TextureFormat where
  | rgba8
  | bgra8
  | rgba16F
  | rgba32F
  | rg16F
  | r32F
  | r8
  | d24S8
  | d32F
deriving DecidableEq, Repr, Inhabited

namespace TextureFormat

/-- Every format, in order of declaration. -/
def all : List TextureFormat :=
  [.rgba8, .bgra8, .rgba16F, .rgba32F, .rg16F, .r32F, .r8, .d24S8, .d32F]

/-- The name of a format in messages. -/
def name : TextureFormat → String
  | .rgba8 => "Rgba8"
  | .bgra8 => "Bgra8"
  | .rgba16F => "Rgba16F"
  | .rgba32F => "Rgba32F"
  | .rg16F => "Rg16F"
  | .r32F => "R32F"
  | .r8 => "R8"
  | .d24S8 => "D24S8"
  | .d32F => "D32F"

/-- The name of a format in a settings document. -/
def key : TextureFormat → String
  | .rgba8 => "rgba8"
  | .bgra8 => "bgra8"
  | .rgba16F => "rgba16f"
  | .rgba32F => "rgba32f"
  | .rg16F => "rg16f"
  | .r32F => "r32f"
  | .r8 => "r8"
  | .d24S8 => "d24s8"
  | .d32F => "d32f"

/-- The name by which a graphics device knows a format. -/
def deviceName : TextureFormat → String
  | .rgba8 => "Rgba8Unorm"
  | .bgra8 => "Bgra8Unorm"
  | .rgba16F => "Rgba16Float"
  | .rgba32F => "Rgba32Float"
  | .rg16F => "Rg16Float"
  | .r32F => "R32Float"
  | .r8 => "R8Unorm"
  | .d24S8 => "Depth24PlusStencil8"
  | .d32F => "Depth32Float"

/-- The spellings an annotation may use, in lower case. -/
def spellings : List (String × TextureFormat) :=
  [("rgba8", .rgba8), ("a8r8g8b8", .rgba8), ("x8r8g8b8", .rgba8), ("rgba8unorm", .rgba8),
    ("bgra8", .bgra8), ("a8b8g8r8", .bgra8), ("bgra8unorm", .bgra8),
    ("rgba16f", .rgba16F), ("a16b16g16r16f", .rgba16F),
    ("rgba32f", .rgba32F), ("a32b32g32r32f", .rgba32F),
    ("rg16f", .rg16F), ("g16r16f", .rg16F),
    ("r32f", .r32F),
    ("r8", .r8), ("l8", .r8),
    ("d24s8", .d24S8),
    ("d32f", .d32F), ("d32f_lockable", .d32F)]

/-- What may stand once before a spelling. -/
def spellingLead : List Char := "d3dfmt_".toList

/-- Drops `lead` from the front of a text that begins with it. -/
def dropLead (lead text : List Char) : List Char :=
  if lead.isPrefixOf text then text.drop lead.length else text

/-- The format with a spelling. Blanks around the spelling and the case of its
ASCII letters do not matter. -/
def ofSpelling? (text : String) : Option TextureFormat :=
  let letters := (Text.trimChars text.toList).map Char.toLower
  spellings.lookup (String.ofList (dropLead spellingLead letters))

/-- The size of a texel in bytes. -/
def bytesPerTexel : TextureFormat → Nat
  | .r8 => 1
  | .rgba8 | .bgra8 | .r32F | .rg16F | .d24S8 | .d32F => 4
  | .rgba16F => 8
  | .rgba32F => 16

/-- Whether a texture of the format can be a colour target. -/
def isColor : TextureFormat → Bool
  | .d24S8 | .d32F => false
  | _ => true

theorem mem_all (f : TextureFormat) : f ∈ all := by
  cases f <;> decide

example : ofSpelling? " D3DFMT_A8R8G8B8 " = some .rgba8 := by decide +kernel

example : ofSpelling? "d3dfmt_d3dfmt_r8" = none := by decide +kernel

end TextureFormat

end ShaderEffects
