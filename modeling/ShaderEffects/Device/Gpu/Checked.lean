import ShaderEffects.Device.Gpu.Judged

/-!
# A graphics interface that reads shaders

A shader must not declare a name twice. What the source of a program declares is left to its
author; here the interface looks at what is put in front of the source, and refuses a shader
that would be wrong whatever its source is.
-/

namespace ShaderEffects

open Gpu

namespace Gpu

/-- The first name of a list that was seen before. -/
def repeated? (seen : List String) : List String → Option String
  | [] => none
  | name :: rest => if name ∈ seen then some name else repeated? (name :: seen) rest

/-- The words in which the shader of a program is refused. -/
def refusal? (p : Program) : Option String :=
  (repeated? [] (declaredNames p)).map fun name =>
    p.label ++ ": redefinition of '" ++ name ++ "'"

end Gpu

/-- A graphics device whose interface reads shaders. -/
structure CheckedDevice where
  device : GpuDevice

namespace CheckedDevice

/-- A new device. -/
def ofSize (context : GpuContext) (width height : Nat) : CheckedDevice :=
  ⟨.ofSize context width height⟩

/-- The verdicts on the shaders that are made for programs, one after the other. -/
def verdicts (w : CheckedDevice) (programs : List Program) : List (Option String) :=
  (programs.filter fun p => !w.device.modules.contains p.key).map refusal?

/-- Does what makes shaders for programs. -/
def judging {α : Type} (w : CheckedDevice) (programs : List Program)
    (call : JudgedDevice → α × JudgedDevice) : α × CheckedDevice :=
  let (result, judged) := call ⟨w.device, w.verdicts programs⟩
  (result, ⟨judged.device⟩)

/-- Tries out a pipeline for the programs of a pass. -/
def validate (w : CheckedDevice) (programs : List Program) :
    Except DeviceError Unit × CheckedDevice :=
  let shaded :=
    match GpuDevice.checkPair programs with
    | .ok (vertex, fragment) => [vertex, fragment]
    | .error _ => []
  w.judging shaded (·.validate programs)

/-- Loads a program. -/
def loadProgram (w : CheckedDevice) (p : Program) :
    Except DeviceError ProgramId × CheckedDevice :=
  w.judging [p] (·.loadProgram p)

/-- The result of a call that makes no shader. -/
def pass {α : Type} (x : α × GpuDevice) : α × CheckedDevice := (x.1, ⟨x.2⟩)

/-- Changes the size of the backbuffer and of the surface that passes draw into. -/
def resize (w : CheckedDevice) (width height : Nat) : CheckedDevice :=
  ⟨w.device.resize width height⟩

/-- Clears the backbuffer. -/
def clearBackbuffer (w : CheckedDevice) : CheckedDevice := ⟨w.device.clearBackbuffer⟩

/-- Stretches the backbuffer over the next frame of the window. -/
def present (w : CheckedDevice) (answer : FrameAnswer) :
    Except DeviceError Unit × CheckedDevice × List Notice :=
  let (result, device, notices) := w.device.present answer
  (result, ⟨device⟩, notices)

/-- Takes the requests since they were last taken. -/
def takeRequests (w : CheckedDevice) : List Request × CheckedDevice :=
  (w.device.requests, ⟨{ w.device with requests := [] }⟩)

/-- Whether the program ended over one of these requests. -/
def ended (w : CheckedDevice) : Bool := w.device.requests.any Request.isFatal

instance : Device CheckedDevice where
  HostState := Unit
  backbufferSize w := Device.backbufferSize w.device
  isLost w := w.device.lost
  supports w := Device.supports w.device
  validate := validate
  createTexture w name desc := pass (w.device.createTexture name desc)
  loadTexture w files name path :=
    let (result, device, notices) := w.device.loadTexture files name path
    (result, ⟨device⟩, notices)
  loadProgram := loadProgram
  bind w stage id := pass (w.device.bind stage id)
  unbind w stage := ⟨w.device.unbind stage⟩
  setConstants w id register values := ⟨w.device.setConstants id register values⟩
  setSampler w id slot texture := ⟨w.device.setSampler id slot texture⟩
  target w := w.device.renderTarget
  setTarget w surface := pass (w.device.setTarget surface)
  capture _ := ()
  restore w _ := w
  enterEffectState w := w
  draw w geometry := pass (w.device.draw geometry)
  copy w source destination := pass (w.device.copy source destination)

end CheckedDevice

end ShaderEffects
