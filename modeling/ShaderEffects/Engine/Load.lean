import ShaderEffects.Effect.Compile
import ShaderEffects.Link.Sampler
import ShaderEffects.Link.Target
import ShaderEffects.Link.Technique

/-!
# Loading effects

An effect is read, compiled and linked, and then takes its place behind the
effects that are loaded. If it cannot be read or compiled, nothing changes but
the journal.
-/

namespace ShaderEffects

/-- Whether an effect whose link had these problems can be drawn. -/
def hasValidTechnique (errors : List LinkError) : Bool :=
  !errors.any fun
    | .noValidTechnique _ => true
    | _ => false

namespace Engine

variable {D : Type} [Device D]

/-- Links an effect. The result has the problems that came up. -/
def link (engine : Engine D) (effect : Effect) : Effect × List LinkError × Engine D :=
  let l : Linking D := { engine }
  let l := l.linkParameters effect
  let l := l.resolveSamplers effect
  let (effect, l) := l.choose effect
  let (effect, l) := l.aim effect
  let l := l.note
    [.effectLinked effect.name (effect.default?.map (·.name)) l.errors.length]
  (effect, l.errors, l.engine)

/-- Reads and compiles the document of an effect and brings its parameters to
life. The name is that of the document. -/
def prepare (engine : Engine D) (name text : String) : Except EffectError Effect × Engine D :=
  match EffectDescription.ofText text with
  | .error e => (.error (.malformed name e), engine)
  | .ok description =>
    let engine := engine.note (EffectDraft.notices engine.compiler description)
    match EffectDraft.compile engine.compiler description with
    | .error e => (.error e, engine)
    | .ok draft =>
      let (effect, parameters) := draft.install engine.parameters
      (.ok effect, { engine with parameters })

/-- Puts an effect behind those that are loaded. -/
def insert (engine : Engine D) (effect : Effect) : Handle Effect × Engine D :=
  let (effects, handle) := engine.effects.insert effect
  (handle, { engine with effects })

/-- Loads an effect. The result has its handle and the problems of its link. -/
def load (engine : Engine D) (name text : String) :
    Except EffectError (Handle Effect × List LinkError) × Engine D :=
  match engine.prepare name text with
  | (.error e, engine) => (.error e, engine)
  | (.ok effect, engine) =>
    let (effect, errors, engine) := engine.link effect
    let (handle, engine) := engine.insert effect
    (.ok (handle, errors), engine)

/-- Loads an effect without linking it. -/
def loadUnlinked (engine : Engine D) (name text : String) :
    Except EffectError (Handle Effect) × Engine D :=
  match engine.prepare name text with
  | (.error e, engine) => (.error e, engine)
  | (.ok effect, engine) =>
    let (handle, engine) := engine.insert effect
    (.ok handle, engine)

/-- Links a loaded effect once more. -/
def relink (engine : Engine D) (handle : Handle Effect) : Option (List LinkError) × Engine D :=
  match engine.effects.get? handle with
  | none => (none, engine)
  | some effect =>
    let (effect, errors, engine) := engine.link effect
    (some errors,
      { engine with effects := engine.effects.modify handle fun _ => effect })

/-- Removes an effect. Its parameters lose their owner. -/
def unload (engine : Engine D) (handle : Handle Effect) : Option Effect × Engine D :=
  match engine.effects.get? handle with
  | none => (none, engine)
  | some effect =>
    (some effect,
      { engine with
        effects := engine.effects.erase handle
        parameters := engine.parameters.releaseAll effect.parameterIds })

end Engine

end ShaderEffects
