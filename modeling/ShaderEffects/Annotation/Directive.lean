import ShaderEffects.Annotation.Value
import ShaderEffects.Texture.Desc

/-!
# Directives

What annotations ask the linker to do. Each of the keys `global` (or, in its
place, `parameter`), `texture` and `target` gives at most one directive, and a
key whose value is not a string gives one that says so.
-/

namespace ShaderEffects

/-- The keys that must name something. -/
inductive NameKey where
  | global
  | parameter
  | texture
  | target
deriving DecidableEq, Repr

namespace NameKey

/-- The key as it stands in a document. -/
def text : NameKey → String
  | .global => "global"
  | .parameter => "parameter"
  | .texture => "texture"
  | .target => "target"

/-- What the value of a key has to be. -/
def expectation : NameKey → String
  | .global | .parameter => "expected a parameter name"
  | .texture | .target => "expected a texture name"

end NameKey

/-- Why annotations do not describe a blank target. -/
inductive BlankFault where
  | missingSize
  | badSize
  | missingFormat
  | badFormat
  | unknownFormat (name : String)
  | invalidSize (size : List Nat)
deriving DecidableEq, Repr

/-- The wording of such a reason. -/
def BlankFault.message : BlankFault → String
  | .missingSize => "missing 'size' annotation"
  | .badSize => "'size' must be 1 to 3 non-negative integers"
  | .missingFormat => "missing 'format' annotation"
  | .badFormat => "'format' must be a string"
  | .unknownFormat name => "unknown format '" ++ name ++ "'"
  | .invalidSize size => "invalid size [" ++ ", ".intercalate (size.map toString) ++ "]"

/-- What a blank target would look like, or why there cannot be one. It matters
only if the target is needed. -/
abbrev BlankTarget := Except BlankFault TextureDesc

/-- What an annotation asks for. -/
inductive Directive where
  /-- Follow the virtual parameter of this name and of the same type. -/
  | globalLink (name : String)
  /-- Sample the texture of this name, which is loaded or created blank if need be. -/
  | texture (name : String) (blank : BlankTarget)
  /-- Draw into the texture of this name. -/
  | target (name : String)
  /-- The value under this key is not a string. -/
  | malformed (key : NameKey)

namespace Directive

/-- The target that the annotations `size` and `format` describe. -/
def blankTarget (annotations : Annotations) : BlankTarget :=
  match annotations.get? "size" with
  | none => .error .missingSize
  | some size =>
    match size.dimensions? with
    | none => .error .badSize
    | some dimensions =>
      match annotations.get? "format" with
      | none => .error .missingFormat
      | some format =>
        match format.text? with
        | none => .error .badFormat
        | some spelling =>
          match TextureFormat.ofSpelling? spelling with
          | none => .error (.unknownFormat spelling)
          | some format =>
            match TextureDesc.ofSize? dimensions format with
            | none => .error (.invalidSize dimensions)
            | some desc => .ok desc

/-- The directive under a key, made from the name that stands there. -/
def underKey (annotations : Annotations) (key : NameKey) (make : String → Directive) :
    Option Directive :=
  (annotations.get? key.text).map fun value =>
    match value.text? with
    | some name => make name
    | none => .malformed key

/-- The directives that annotations give, in a fixed order. -/
def ofAnnotations (annotations : Annotations) : List Directive :=
  let global := underKey annotations .global .globalLink
    <|> underKey annotations .parameter .globalLink
  let texture := underKey annotations .texture fun name =>
    .texture name (blankTarget annotations)
  let target := underKey annotations .target .target
  [global, texture, target].filterMap id

/-- The virtual parameter to follow. -/
def globalLink? (directives : List Directive) : Option String :=
  directives.findSome? fun
    | .globalLink name => some name
    | _ => none

/-- The texture to sample. -/
def texture? (directives : List Directive) : Option (String × BlankTarget) :=
  directives.findSome? fun
    | .texture name blank => some (name, blank)
    | _ => none

/-- The texture to draw into. -/
def target? (directives : List Directive) : Option String :=
  directives.findSome? fun
    | .target name => some name
    | _ => none

/-- The keys whose values are not strings. -/
def malformedKeys (directives : List Directive) : List NameKey :=
  directives.filterMap fun
    | .malformed key => some key
    | _ => none

end Directive

end ShaderEffects
