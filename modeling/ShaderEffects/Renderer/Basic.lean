import ShaderEffects.Device.Basic
import ShaderEffects.Effect.Basic

/-!
# Renderers

A renderer takes a device through the passes of an effect. At most one pass is
bound at a time; its programs are loaded once and kept. While a pass is bound,
the device is given the value of each parameter its programs refer to.
-/

namespace ShaderEffects

/-- What drawing reads: the values of parameters, and the textures they name. -/
structure Scene where
  parameters : Parameters
  textures : TextureRegistry

/-- A program of the pass that is bound. -/
structure BoundProgram where
  stage : Stage
  id : ProgramId
  constants : ConstantTable
deriving DecidableEq

/-- The pass that is bound. -/
structure BoundPass where
  /-- The effect, technique and pass, for messages. -/
  label : String
  programs : List BoundProgram
deriving DecidableEq

/-- A value for a program on the device. -/
inductive Upload where
  | constants (program : ProgramId) (register : Nat) (values : List Float32)
  | sampler (program : ProgramId) (slot : Nat) (texture : TextureId)

/-- A device and what was bound and loaded there. -/
structure Renderer (D : Type) where
  device : D
  quad : FullscreenQuad
  loaded : Table ProgramKey ProgramId := ∅
  bound : Option BoundPass := none
  /-- What happened since the journal was last taken, oldest first. -/
  journal : List Notice := []

namespace Upload

/-- Hands a value to a device. -/
def apply {D : Type} [Device D] (device : D) : Upload → D
  | .constants program register values => Device.setConstants device program register values
  | .sampler program slot texture => Device.setSampler device program slot texture

/-- The value of a parameter for a program that refers to it. A sampler without a
texture has none. -/
def of? (scene : Scene) (p : Parameter) (program : BoundProgram) : Option Upload :=
  match p.category with
  | .scalar =>
    (program.constants.constant? p.name).map fun slot =>
      .constants program.id slot.register (p.scalars.toList.take (slot.registers * 4))
  | .sampler =>
    match program.constants.sampler? p.name, p.texture.bind scene.textures.get? with
    | some slot, some texture => some (.sampler program.id slot.slot texture.backing)
    | _, _ => none

end Upload

namespace Renderer

variable {D : Type}

/-- Writes into the journal. -/
def note (r : Renderer D) (notices : List Notice) : Renderer D :=
  { r with journal := r.journal ++ notices }

/-- The label of the pass that is bound. -/
def boundLabel? (r : Renderer D) : Option String := r.bound.map (·.label)

/-- The values of a parameter for the programs of the pass that is bound. -/
def uploads (r : Renderer D) (scene : Scene) (id : ParameterId) : List Upload :=
  match r.bound, scene.parameters.get? id with
  | some bound, some p => bound.programs.filterMap (Upload.of? scene p)
  | _, _ => []

variable [Device D]

/-- A renderer for a device. -/
def ofDevice (device : D) (halfPixel : Bool) : Renderer D :=
  let (width, height) := Device.backbufferSize device
  { device, quad := .ofSize width height halfPixel }

/-- Loads the programs that are not loaded yet. -/
def loadPrograms (r : Renderer D) : List Program → Except BindError Unit × Renderer D
  | [] => (.ok (), r)
  | p :: rest =>
    if r.loaded.contains p.key then r.loadPrograms rest
    else
      match Device.loadProgram r.device p with
      | (.error cause, device) =>
        (.error ⟨.load, p.stage, p.label, cause⟩, { r with device })
      | (.ok id, device) =>
        let r := { r with device, loaded := r.loaded.insert p.key id }
        (r.note [.programLoaded p.label id]).loadPrograms rest

/-- Loads the programs of a pass. -/
def loadPass (r : Renderer D) (pass : Pass) : Except BindError Unit × Renderer D :=
  r.loadPrograms pass.programs

/-- Frees the stages of programs. -/
def unbindAll (device : D) (programs : List BoundProgram) : D :=
  programs.foldl (fun device program => Device.unbind device program.stage) device

/-- Binds a loaded program. -/
def bindProgram (r : Renderer D) (p : Program) : Except DeviceError ProgramId × Renderer D :=
  match r.loaded.get? p.key with
  | none => (.error (.invalidCall .neverLoaded), r)
  | some id =>
    match Device.bind r.device p.stage id with
    | (.error e, device) => (.error e, { r with device })
    | (.ok _, device) => (.ok id, { r with device })

/-- Binds programs, some others of the same pass being bound already. If one
cannot be bound, all of them are freed. -/
def bindPrograms (r : Renderer D) (done : List BoundProgram) :
    List Program → Except BindError (List BoundProgram) × Renderer D
  | [] => (.ok done, r)
  | p :: rest =>
    match r.bindProgram p with
    | (.error cause, r) =>
      (.error ⟨.bind, p.stage, p.label, cause⟩, { r with device := unbindAll r.device done })
    | (.ok id, r) => r.bindPrograms (done ++ [⟨p.stage, id, p.constants⟩]) rest

/-- Frees the stages of the pass that is bound. Its programs stay loaded. -/
def unbindPass (r : Renderer D) : Renderer D :=
  match r.bound with
  | none => r
  | some bound => { r with device := unbindAll r.device bound.programs, bound := none }

/-- Hands the value of a parameter to the programs that are bound. -/
def applyParameter (r : Renderer D) (scene : Scene) (id : ParameterId) : Renderer D :=
  { r with device := (r.uploads scene id).foldl Upload.apply r.device }

/-- Binds a pass and hands the values of its effect's parameters to its programs. -/
def bindPass (r : Renderer D) (scene : Scene) (effect : Effect) (pass : Pass) :
    Except BindError Unit × Renderer D :=
  match r.unbindPass.loadPass pass with
  | (.error e, r) => (.error e, r)
  | (.ok _, r) =>
    match r.bindPrograms [] pass.programs with
    | (.error e, r) => (.error e, r)
    | (.ok programs, r) =>
      let label := effect.name ++ "/" ++ pass.technique ++ "/" ++ pass.name
      let r := { r with bound := some ⟨label, programs⟩ }
      (.ok (), effect.parameterIds.foldl (fun r id => r.applyParameter scene id) r)

/-- Hands the texture that a sampler was just given to the programs that are
bound. The result says whether the parameter is a sampler. -/
def connected (r : Renderer D) (scene : Scene) (id : ParameterId) : Bool × Renderer D :=
  match scene.parameters.get? id with
  | none => (false, r)
  | some p =>
    match p.category with
    | .sampler => (true, r.applyParameter scene id)
    | .scalar => (false, r.note [.notSampler p.name])

end Renderer

end ShaderEffects
