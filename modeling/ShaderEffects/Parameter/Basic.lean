import ShaderEffects.Texture.Registry

/-!
# Parameters

A parameter is a cell that holds sixteen numbers and a texture. An effect's
parameter lives as long as the effect; a virtual one belongs to the session, and
other parameters can be attached to it to receive what is written to it.
-/

namespace ShaderEffects

/-- The number of a parameter. Numbers are never used twice. -/
structure ParameterId where
  number : Nat
deriving DecidableEq, Repr

/-- The sixteen numbers of a parameter, enough for a matrix of four by four. -/
abbrev Scalars := Vector Float32 16

/-- The first sixteen of a list of numbers; missing ones are zero. -/
def Scalars.ofList (values : List Float32) : Scalars :=
  Vector.ofFn fun i => values.getD i 0

/-- Where a parameter comes from. -/
inductive ParameterOrigin where
  /-- The session. -/
  | virtual
  /-- The effect of this name. -/
  | effect (name : String)
deriving DecidableEq, Repr

/-- A named value. -/
structure Parameter where
  name : String
  type : ParameterType
  origin : ParameterOrigin
  scalars : Scalars := .ofList []
  texture : Option (Handle Texture) := none
  /-- Whether anything was ever written. -/
  written : Bool := false
  /-- The parameters that receive what is written, some of them perhaps gone. -/
  attached : List ParameterId := []
  /-- How many owners keep the parameter alive. -/
  owners : Nat := 1

namespace Parameter

/-- Whether the parameter belongs to the session. -/
def isVirtual (p : Parameter) : Bool := p.origin = .virtual

/-- The effect that declared the parameter. -/
def effect? (p : Parameter) : Option String :=
  match p.origin with
  | .virtual => none
  | .effect name => some name

/-- Whether the parameter holds numbers or a texture. -/
def category (p : Parameter) : ParameterCategory := p.type.category

/-- The parameter as text. Attached parameters are counted even if they are gone. -/
def text (p : Parameter) : String :=
  "Parameter \x7b name: " ++ Text.quoted p.name ++ ", type: " ++ p.type.name ++ ", virtual: "
    ++ toString p.isVirtual ++ ", effect: " ++ Text.quotedOption p.effect? ++ ", attached: "
    ++ toString p.attached.length ++ " \x7d"

end Parameter

/-- Something written to a parameter and to all that are attached to it. -/
inductive Write where
  | scalars (values : Scalars)
  | texture (handle : Option (Handle Texture))

/-- A parameter after a write. -/
def Write.apply (write : Write) (p : Parameter) : Parameter :=
  match write with
  | .scalars values => { p with scalars := values, written := true }
  | .texture handle => { p with texture := handle, written := true }

end ShaderEffects
