import ShaderEffects.Engine.Basic

/-!
# Linking

Linking joins a compiled effect to the parameters, the textures and the device
of an engine. A problem does not end it: problems are collected, and what can
be linked is linked.
-/

namespace ShaderEffects

/-- An engine, and the problems of the effect that is being linked. -/
structure Linking (D : Type) where
  engine : Engine D
  errors : List LinkError := []

namespace Linking

variable {D : Type}

/-- Writes into the journal. -/
def note (l : Linking D) (notices : List Notice) : Linking D :=
  { l with engine := l.engine.note notices }

/-- Adds problems. -/
def report (l : Linking D) (errors : List LinkError) : Linking D :=
  { l with errors := l.errors ++ errors }

/-- The problems with the annotations of something. -/
def malformed (owner : String) (directives : List Directive) : List LinkError :=
  (Directive.malformedKeys directives).map (.malformedValue owner)

/-- Adds the problems with the annotations of something. -/
def reportMalformed (l : Linking D) (owner : String) (directives : List Directive) :
    Linking D :=
  let errors := malformed owner directives
  (l.note (errors.map .malformedValue)).report errors

/-- Attaches a parameter to the virtual one that its annotations name. -/
def linkParameter (effect : String) (l : Linking D) (p : EffectParameter) : Linking D :=
  let l := l.reportMalformed p.name p.directives
  match Directive.globalLink? p.directives with
  | none => l
  | some global =>
    match l.engine.parameters.find? global p.type with
    | none =>
      let e : LinkError := .unresolvedGlobal p.name global p.type
      (l.note [.defaultKept effect e]).report [e]
    | some target =>
      match l.engine.parameters.attach target p.id with
      | .error e => (l.note [.linkProblem effect e]).report [e]
      | .ok parameters =>
        { l with engine := { l.engine with parameters } }.note [.attached effect p.name global]

/-- Attaches the parameters of an effect. -/
def linkParameters (l : Linking D) (effect : Effect) : Linking D :=
  effect.parameters.foldl (linkParameter effect.name) l

end Linking

end ShaderEffects
