import ShaderEffects.Device.Gpu.Basic

/-!
# A graphics interface that refuses

A graphics interface looks at what it is asked for: it may refuse a shader, a pipeline, the
textures of a draw or a new texture, and then the call fails at this point, with all that was
done before. Here the verdicts are told in advance.
-/

namespace ShaderEffects

open Gpu

/-- A graphics device whose interface may refuse what it is asked for. -/
structure JudgedDevice where
  device : GpuDevice
  /-- The next verdicts: that something is accepted, or the words in which it is refused. What
  comes after the last one is accepted. -/
  verdicts : List (Option String) := []

namespace JudgedDevice

/-- A new device. -/
def ofSize (context : GpuContext) (width height : Nat) (verdicts : List (Option String)) :
    JudgedDevice :=
  ⟨.ofSize context width height, verdicts⟩

/-- Hears the verdict on something that was asked for. -/
def judge {α : Type} (w : JudgedDevice) (made : α) : Except DeviceError α × JudgedDevice :=
  match w.verdicts with
  | [] => (.ok made, w)
  | none :: rest => (.ok made, { w with verdicts := rest })
  | some message :: rest =>
    (.error (.invalidCall (.refused message)), { w with verdicts := rest })

/-- The result of a call that the interface does not look at. -/
def pass {α : Type} (w : JudgedDevice) (x : α × GpuDevice) : α × JudgedDevice :=
  (x.1, { w with device := x.2 })

/-- The shader of a program. One that is refused is not kept. -/
def moduleFor (w : JudgedDevice) (p : Program) :
    Except DeviceError ShaderModule × JudgedDevice :=
  match w.device.modules.get? p.key with
  | some module => (.ok module, w)
  | none =>
    let module : ShaderModule := ⟨p.label, moduleSource p⟩
    match ({ w with device := w.device.ask (.shader module) } : JudgedDevice).judge module with
    | (.error e, w) => (.error e, w)
    | (.ok module, w) =>
      (.ok module, { w with
        device := { w.device with modules := w.device.modules.insert p.key module } })

/-- Makes a pipeline for two programs. -/
def buildPipeline (w : JudgedDevice) (label : String) (vertex fragment : GpuDevice.PipelineStage)
    (format : PixelFormat) : Except DeviceError Pipeline × JudgedDevice :=
  let (pipeline, device) := w.device.buildPipeline label vertex fragment format
  ({ w with device } : JudgedDevice).judge pipeline

/-- Tries out a pipeline for the programs of a pass. -/
def validate (w : JudgedDevice) (programs : List Program) :
    Except DeviceError Unit × JudgedDevice :=
  match w.device.alive with
  | .error e => (.error e, w)
  | .ok _ =>
    match GpuDevice.checkPair programs with
    | .error fault => (.error (.invalidCall fault), w)
    | .ok (vertex, fragment) =>
      match w.moduleFor vertex with
      | (.error e, w) => (.error e, w)
      | (.ok vertexModule, w) =>
        match w.moduleFor fragment with
        | (.error e, w) => (.error e, w)
        | (.ok fragmentModule, w) =>
          match w.buildPipeline (fragment.label ++ " (validation)")
            (.ofProgram vertex vertexModule) (.ofProgram fragment fragmentModule)
            .standard with
          | (.error e, w) => (.error e, w)
          | (.ok _, w) => (.ok (), w)

/-- Creates a texture to draw into. -/
def createTexture (w : JudgedDevice) (name : String) (desc : TextureDesc) :
    Except DeviceError TextureId × JudgedDevice :=
  match w.device.alive with
  | .error e => (.error e, w)
  | .ok _ =>
    match GpuDevice.creationFault? desc with
    | some fault => (.error (.textureCreation name fault), w)
    | none =>
      let image := Image.ofSize desc.width desc.height desc.format
      match ({ w with device := w.device.ask (image.request name) } : JudgedDevice).judge image with
      | (.error e, w) => (.error e, w)
      | (.ok image, w) =>
        let (id, device) := w.device.keep image
        (.ok id, { w with device })

/-- Loads a program. -/
def loadProgram (w : JudgedDevice) (p : Program) :
    Except DeviceError ProgramId × JudgedDevice :=
  match w.device.alive with
  | .error e => (.error e, w)
  | .ok _ =>
    match w.moduleFor p with
    | (.error e, w) => (.error e, w)
    | (.ok module, w) =>
      let id : ProgramId := ⟨w.device.nextId⟩
      (.ok id, { w with
        device := { w.device with
          nextId := w.device.nextId + 1
          programs := w.device.programs.insert id (.fresh p module) } })

/-- The pipeline for two loaded programs and a target. One that is refused is not kept. -/
def pipelineFor (w : JudgedDevice) (vertex fragment : ProgramId) (format : PixelFormat) :
    Except DeviceError Pipeline × JudgedDevice :=
  match w.device.pipelines.get? (vertex, fragment, format) with
  | some pipeline => (.ok pipeline, w)
  | none =>
    match w.device.programs.get? vertex, w.device.programs.get? fragment with
    | some vs, some fs =>
      match w.buildPipeline (fs.label ++ " pipeline") (.ofLoaded vs) (.ofLoaded fs) format with
      | (.error e, w) => (.error e, w)
      | (.ok pipeline, w) =>
        (.ok pipeline, { w with
          device := { w.device with
            pipelines := w.device.pipelines.insert (vertex, fragment, format) pipeline } })
    | _, _ => (.error (.invalidCall .unloaded), w)

/-- The textures of a program in a draw. -/
def bindSamplers (w : JudgedDevice) (group : Nat) (p : LoadedProgram) :
    Except DeviceError BindGroup × JudgedDevice :=
  let (samplers, device) := w.device.bindSamplers group p
  ({ w with device } : JudgedDevice).judge samplers

/-- Draws into the target with two loaded programs. Their numbers are uploaded before the
interface looks at their textures. -/
def drawWith (w : JudgedDevice) (vertex fragment : ProgramId) (geometry : Geometry) :
    Except DeviceError Unit × JudgedDevice :=
  match w.device.image w.device.renderTarget with
  | .error e => (.error e, w)
  | .ok target =>
    match w.pipelineFor vertex fragment target.format with
    | (.error e, w) => (.error e, w)
    | (.ok pipeline, w) =>
      let device := (w.device.upload vertex).upload fragment
      let w := { w with device }
      match device.programs.get? vertex, device.programs.get? fragment with
      | some vs, some fs =>
        match w.bindSamplers (samplersGroup .vertex) vs with
        | (.error e, w) => (.error e, w)
        | (.ok vertexSamplers, w) =>
          match w.bindSamplers (samplersGroup .fragment) fs with
          | (.error e, w) => (.error e, w)
          | (.ok fragmentSamplers, w) =>
            (.ok (), { w with
              device := w.device.ask
                (.draw
                  { label := fs.label, target := w.device.renderTarget, pipeline
                    groups := [GpuDevice.bindConstants vertex fragment, vertexSamplers,
                      fragmentSamplers]
                    vertexBytes := geometry.vertexBytes
                    indexBytes := geometry.indexBytes?
                    call := GpuDevice.drawCall geometry }) })
      | some _, none => (.error (.invalidCall (.unknownProgram fragment)), w)
      | none, _ => (.error (.invalidCall (.unknownProgram vertex)), w)

/-- Draws into the target. A geometry without vertices leaves it as it is. -/
def draw (w : JudgedDevice) (geometry : Geometry) : Except DeviceError Unit × JudgedDevice :=
  match w.device.alive with
  | .error e => (.error e, w)
  | .ok _ =>
    match w.device.bound.get? .vertex, w.device.bound.get? .fragment with
    | some vertex, some fragment =>
      if geometry.vertices.isEmpty then (.ok (), w) else w.drawWith vertex fragment geometry
    | _, _ => (.error (.invalidCall .nothingToDrawWith), w)

instance : Device JudgedDevice where
  HostState := Unit
  backbufferSize w := Device.backbufferSize w.device
  isLost w := w.device.lost
  supports w := Device.supports w.device
  validate := validate
  createTexture := createTexture
  loadTexture w files name path :=
    let (result, device, notices) := w.device.loadTexture files name path
    (result, { w with device }, notices)
  loadProgram := loadProgram
  bind w stage id := w.pass (w.device.bind stage id)
  unbind w stage := { w with device := w.device.unbind stage }
  setConstants w id register values :=
    { w with device := w.device.setConstants id register values }
  setSampler w id slot texture := { w with device := w.device.setSampler id slot texture }
  target w := w.device.renderTarget
  setTarget w surface := w.pass (w.device.setTarget surface)
  capture _ := ()
  restore w _ := w
  enterEffectState w := w
  draw := draw
  copy w source destination := w.pass (w.device.copy source destination)

end JudgedDevice

end ShaderEffects
