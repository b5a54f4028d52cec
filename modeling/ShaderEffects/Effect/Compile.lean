import ShaderEffects.Effect.Basic
import ShaderEffects.Effect.Description
import ShaderEffects.Effect.Error
import ShaderEffects.Notice

/-!
# Compiling effects

An effect compiles if the type of every declared parameter is known and every
stage program compiles; otherwise the first failure in the order of the document
is reported, a parameter's before any program's. Of two parameters of one name
the first is kept. The parameters come to life only when all of this is done.
-/

namespace ShaderEffects

/-- A parameter that is to come to life, and what its annotations ask for. -/
structure ParameterDraft where
  cell : Parameter
  directives : List Directive

/-- A compiled effect whose parameters have not come to life yet. -/
structure EffectDraft where
  name : String
  parameters : List ParameterDraft
  techniques : List Technique

/-- A declared parameter with its type. -/
structure TypedParameter where
  description : ParameterDescription
  type : ParameterType

namespace EffectDraft

/-- Finds the type of a declared parameter. -/
def typed (d : ParameterDescription) : Except EffectError TypedParameter :=
  match ParameterType.ofSpelling? d.type with
  | some type => .ok ⟨d, type⟩
  | none => .error (.unknownType d.name d.type)

/-- Drops every parameter whose name was seen before. -/
def firstOfEach (seen : List String) : List TypedParameter → List TypedParameter
  | [] => []
  | p :: rest =>
    if p.description.name ∈ seen then firstOfEach seen rest
    else p :: firstOfEach (p.description.name :: seen) rest

/-- A parameter with the numbers that the document gives it. A sampler has none. -/
def draft (effect : String) (p : TypedParameter) : ParameterDraft :=
  let cell : Parameter :=
    { name := p.description.name, type := p.type, origin := .effect effect }
  let values := p.description.default
  { cell :=
      if p.type.category = .scalar ∧ !values.isEmpty then
        (Write.scalars (.ofList values)).apply cell
      else cell
    directives := Directive.ofAnnotations p.description.annotations }

/-- The names and types that programs are laid out by. -/
def declarations (parameters : List TypedParameter) : List Declaration :=
  parameters.map fun p => ⟨p.description.name, p.type⟩

/-- The label of a program. -/
def label (effect technique pass : String) (stage : Stage) : String :=
  effect ++ "/" ++ technique ++ "/" ++ pass ++ ":" ++ stage.name

/-- Compiles a pass. -/
def compilePass (compiler : Compiler) (effect technique : String)
    (declarations : List Declaration) (pass : PassDescription) : Except EffectError Pass :=
  let programs := pass.programs.mapM fun (stage, d) =>
    (compiler.compile (label effect technique pass.name stage) stage d declarations).mapError
      fun cause => EffectError.compile effect (technique ++ "/" ++ pass.name) cause
  programs.map fun programs =>
    { name := pass.name, technique, programs,
      directives := Directive.ofAnnotations pass.annotations }

/-- Compiles a technique. -/
def compileTechnique (compiler : Compiler) (effect : String)
    (declarations : List Declaration) (t : TechniqueDescription) :
    Except EffectError Technique :=
  (t.passes.mapM (compilePass compiler effect t.name declarations)).map fun passes =>
    { name := t.name, passes, directives := Directive.ofAnnotations t.annotations }

/-- Compiles an effect. -/
def compile (compiler : Compiler) (d : EffectDescription) : Except EffectError EffectDraft :=
  match d.parameters.mapM typed with
  | .error e => .error e
  | .ok parameters =>
    let kept := firstOfEach [] parameters
    match d.techniques.mapM (compileTechnique compiler d.name (declarations kept)) with
    | .error e => .error e
    | .ok techniques => .ok ⟨d.name, kept.map (draft d.name), techniques⟩

/-- Brings a row of parameters to life. -/
def settle (ps : Parameters) : List ParameterDraft → List EffectParameter × Parameters
  | [] => ([], ps)
  | p :: rest =>
    let (ps, id) := ps.add p.cell
    let (others, ps) := settle ps rest
    (⟨id, p.cell.name, p.cell.type, p.directives⟩ :: others, ps)

/-- The effect, once its parameters have come to life. -/
def install (draft : EffectDraft) (ps : Parameters) : Effect × Parameters :=
  let (parameters, ps) := settle ps draft.parameters
  ({ name := draft.name, parameters, techniques := draft.techniques }, ps)

/-! ## Notices -/

/-- The parameters of a row whose names stand earlier in it, up to the first
parameter of an unknown type. -/
def repeated (seen : List String) : List ParameterDescription → List String
  | [] => []
  | p :: rest =>
    if (ParameterType.ofSpelling? p.type).isNone then []
    else if p.name ∈ seen then p.name :: repeated seen rest
    else repeated (p.name :: seen) rest

/-- The programs of an effect with their labels and stages, in order. -/
def labelled (d : EffectDescription) : List (String × Stage × ProgramDescription) :=
  d.techniques.flatMap fun t => t.passes.flatMap fun pass =>
    pass.programs.map fun (stage, program) => (label d.name t.name pass.name stage, stage, program)

/-- The programs that compile before the first that does not. -/
def compiledPrograms (compiler : Compiler) (declarations : List Declaration) :
    List (String × Stage × ProgramDescription) → List Program
  | [] => []
  | (label, stage, d) :: rest =>
    match compiler.compile label stage d declarations with
    | .error _ => []
    | .ok program => program :: compiledPrograms compiler declarations rest

/-- What there is to say about a program that compiled. -/
def programNotice (p : Program) : Notice :=
  .programCompiled p.label p.profile.name p.entry p.constants.registerCount
    p.constants.samplers.length

/-- What there is to say while an effect is compiled, whether or not it compiles. -/
def notices (compiler : Compiler) (d : EffectDescription) : List Notice :=
  (repeated [] d.parameters).map (.repeatedParameter d.name)
    ++ (match d.parameters.mapM typed with
      | .error _ => []
      | .ok parameters =>
        (compiledPrograms compiler (declarations (firstOfEach [] parameters)) (labelled d)).map
          programNotice)
    ++ (match compile compiler d with
      | .error _ => []
      | .ok draft =>
        [.effectCompiled d.name draft.parameters.length draft.techniques.length])

end EffectDraft

end ShaderEffects
