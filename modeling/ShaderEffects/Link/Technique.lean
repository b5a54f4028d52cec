import ShaderEffects.Link.Basic

/-!
# Choosing a technique

A pass is valid if it has a program and the device can use all of its programs
together. A technique is valid if one of its passes is, which is settled when
the effect is linked for the first time. The first valid technique is drawn.
-/

namespace ShaderEffects.Linking

variable {D : Type} [Device D]

/-- Whether the device can use the programs of a pass. -/
def validate (l : Linking D) (programs : List Program) : Except PassFault Unit × Linking D :=
  if programs.isEmpty then (.error .noPrograms, l)
  else
    match programs.find? fun p => !Device.supports l.engine.device p.profile with
    | some p => (.error (.unsupportedProfile p.profile.name p.label), l)
    | none =>
      let (result, device) := Device.validate l.engine.device programs
      let l := { l with engine := l.engine.withDevice device }
      match result with
      | .error e => (.error (.refused e), l)
      | .ok _ => (.ok (), l)

/-- Settles whether a pass is valid. -/
def validatePass (effect : String) (l : Linking D) (pass : Pass) : Pass × Linking D :=
  match l.validate pass.programs with
  | (.ok _, l) => ({ pass with valid := true }, l)
  | (.error fault, l) =>
    ({ pass with valid := false },
      l.note [.passUnusable effect pass.technique pass.name fault])

/-- Settles which passes are valid. -/
def validatePasses (effect : String) (l : Linking D) : List Pass → List Pass × Linking D
  | [] => ([], l)
  | pass :: rest =>
    let (pass, l) := validatePass effect l pass
    let (rest, l) := validatePasses effect l rest
    (pass :: rest, l)

/-- Settles whether a technique is valid. -/
def validateTechnique (effect : String) (l : Linking D) (t : Technique) :
    Technique × Linking D :=
  let (passes, l) := validatePasses effect l t.passes
  let t := { t with passes }.settle (passes.any (·.valid))
  if t.isValid then (t, l) else (t, l.note [.techniqueInvalid effect t.name])

/-- Settles which techniques are valid. -/
def validateTechniques (effect : String) (l : Linking D) :
    List Technique → List Technique × Linking D
  | [] => ([], l)
  | t :: rest =>
    let (t, l) := validateTechnique effect l t
    let (rest, l) := validateTechniques effect l rest
    (t :: rest, l)

/-- Chooses the technique that is drawn. -/
def choose (l : Linking D) (effect : Effect) : Effect × Linking D :=
  let (techniques, l) := validateTechniques effect.name l effect.techniques
  let chosen := techniques.findIdx? (·.isValid)
  let effect := { effect with techniques, chosen }
  if chosen.isSome then (effect, l)
  else
    (effect,
      (l.note [.noValidTechnique effect.name]).report [.noValidTechnique effect.name])

end ShaderEffects.Linking
