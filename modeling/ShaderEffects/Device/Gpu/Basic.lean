import ShaderEffects.Device.Gpu.Prelude
import ShaderEffects.Device.Gpu.Request

/-!
# A graphics device

A device that draws with the pipelines of a graphics interface. Shaders,
layouts and pipelines are made once and kept; the numbers written to a program
are kept beside it and uploaded by the next draw. Here the interface accepts
whatever it is asked for.
-/

namespace ShaderEffects

namespace Gpu

/-- The registers of a program. -/
def registerLimit : Nat := 64

/-- The bytes of the buffer of a program. -/
def registerFileSize : Nat := registerLimit * 16

/-- The layout of the uniforms: the buffer of a vertex program and that of a fragment
program. -/
def constantsLayout : BindGroupLayout :=
  [⟨0, .vertex, .uniform registerFileSize⟩, ⟨1, .fragment, .uniform registerFileSize⟩]

/-- The layout of a number of textures, each with a sampler. -/
def samplersLayout (visibility : Stage) (count : Nat) : BindGroupLayout :=
  (List.range count).flatMap fun slot =>
    [⟨slot * 2, visibility, .texture true⟩, ⟨slot * 2 + 1, visibility, .sampler true⟩]

/-- The stage that sees the textures of a bind group. -/
def groupVisibility (group : Nat) : Stage :=
  if group = samplersGroup .vertex then .vertex else .fragment

/-- The layout of the one texture that is copied. -/
def blitLayout : BindGroupLayout :=
  [⟨0, .fragment, .texture false⟩, ⟨1, .fragment, .sampler false⟩]

/-- The shader that copies one surface to another. -/
def blitSource : String :=
  "\n".intercalate
    ["",
      "@group(0) @binding(0) var source: texture_2d<f32>;",
      "@group(0) @binding(1) var source_sampler: sampler;",
      "",
      "struct VsOut \x7b",
      "    @builtin(position) position: vec4<f32>,",
      "    @location(0) uv: vec2<f32>,",
      "\x7d;",
      "",
      "@vertex",
      "fn vs_main(@builtin(vertex_index) index: u32) -> VsOut \x7b",
      "    let uv = vec2<f32>(f32((index << 1u) & 2u), f32(index & 2u));",
      "    var out: VsOut;",
      "    out.position = vec4<f32>(uv.x * 2.0 - 1.0, 1.0 - uv.y * 2.0, 0.0, 1.0);",
      "    out.uv = uv;",
      "    return out;",
      "\x7d",
      "",
      "@fragment",
      "fn fs_main(in: VsOut) -> @location(0) vec4<f32> \x7b",
      "    return textureSample(source, source_sampler, in.uv);",
      "\x7d",
      ""]

/-- The shader that copies one surface to another, with its label. -/
def blitModule : ShaderModule := ⟨"Blit shader", blitSource⟩

/-- The pipeline that copies to a surface of a format. -/
def blitPipeline (format : PixelFormat) : Pipeline :=
  { label := "Blit pipeline", layout := [blitLayout], vertex := blitModule,
    vertexEntry := "vs_main", fragment := blitModule, fragmentEntry := "fs_main", buffers := 0,
    target := format }

/-- A texture that can be sampled, drawn into and copied. -/
structure Image where
  width : Nat
  height : Nat
  format : PixelFormat
deriving DecidableEq, Repr

/-- An image of at least one texel. -/
def Image.ofSize (width height : Nat) (format : PixelFormat) : Image :=
  ⟨max width 1, max height 1, format⟩

/-- The request for an image. -/
def Image.request (image : Image) (label : String) : Request :=
  .texture label image.width image.height image.format

/-- A loaded program. -/
structure LoadedProgram where
  label : String
  stage : Stage
  entry : String
  module : ShaderModule
  /-- The numbers written to the program. -/
  registers : Vector Register 64 := .replicate 64 .zero
  /-- Whether numbers were written since the last upload. -/
  dirty : Bool := true
  /-- The texture in each slot. -/
  samplers : List (Option TextureId)

/-- A program that was just loaded: its registers and slots are empty. -/
def LoadedProgram.fresh (program : Program) (module : ShaderModule) : LoadedProgram :=
  { label := program.label, stage := program.stage, entry := program.entry, module
    samplers := List.replicate program.constants.samplers.length none }

end Gpu

open Gpu

/-- A graphics device. -/
structure GpuDevice where
  context : GpuContext
  backbuffer : Image
  scratch : Image
  lost : Bool := false
  textures : Table TextureId Image := ∅
  modules : Table ProgramKey ShaderModule := ∅
  programs : Table ProgramId LoadedProgram := ∅
  pipelines : Table (ProgramId × ProgramId × PixelFormat) Pipeline := ∅
  /-- The layouts of textures, by bind group and number of slots. -/
  layouts : Table (Nat × Nat) BindGroupLayout := ∅
  blitPipelines : Table PixelFormat Pipeline := ∅
  bound : Table Stage ProgramId := ∅
  renderTarget : Surface := .backbuffer
  nextId : Nat := 1
  /-- The requests since they were last taken, oldest first. -/
  requests : List Request := []

namespace GpuDevice

/-- Asks for something. -/
def ask (d : GpuDevice) (request : Request) : GpuDevice :=
  { d with requests := d.requests ++ [request] }

/-- A device with a backbuffer of a size, in the format of its window. -/
def ofSize (context : GpuContext) (width height : Nat) : GpuDevice :=
  let image := Image.ofSize width height context.surfaceFormat
  { context
    backbuffer := image
    scratch := image
    requests :=
      [image.request "Backbuffer", image.request "Scratch",
        (Image.ofSize 1 1 .standard).request "Fallback",
        .layout "Effect constants layout" constantsLayout, .shader blitModule,
        .layout "Blit layout" blitLayout] }

/-- What there is to say about a new device. -/
def notices (context : GpuContext) (width height : Nat) : List Notice :=
  [.adapterChosen .idle, .backendChosen .idle,
    .deviceReady width height context.surfaceFormat.name]

/-- Gives the window, if there is one, its size. A side of zero changes nothing. -/
def configure (d : GpuDevice) (width height : Nat) : GpuDevice :=
  if width = 0 ∨ height = 0 then d
  else
    match d.context.window with
    | none => d
    | some window =>
      let window := { window with width, height }
      { d with context := { d.context with window := some window } }.ask (.configure window)

/-- Changes the size of the window, the backbuffer and the surface that passes draw
into. A side of zero changes nothing. -/
def resize (d : GpuDevice) (width height : Nat) : GpuDevice :=
  if width = 0 ∨ height = 0 then d
  else
    let d := d.configure width height
    let backbuffer := Image.ofSize width height d.backbuffer.format
    let d := { d with backbuffer, scratch := backbuffer }
    (d.ask (backbuffer.request "Backbuffer")).ask (backbuffer.request "Scratch")

/-- Clears the backbuffer. -/
def clearBackbuffer (d : GpuDevice) : GpuDevice := d.ask .clear

/-- Fails if the device is lost. -/
def alive (d : GpuDevice) : Except DeviceError Unit :=
  if d.lost then .error .lost else .ok ()

/-- The image behind a surface. -/
def image (d : GpuDevice) : Surface → Except DeviceError Image
  | .backbuffer => .ok d.backbuffer
  | .scratch => .ok d.scratch
  | .texture id =>
    match d.textures.get? id with
    | some image => .ok image
    | none => .error (.invalidCall (.unknownTexture id))

/-- The shader of a program, made if there is none yet. -/
def moduleFor (d : GpuDevice) (program : Program) : ShaderModule × GpuDevice :=
  match d.modules.get? program.key with
  | some module => (module, d)
  | none =>
    let module : ShaderModule := ⟨program.label, moduleSource program⟩
    (module, { d with modules := d.modules.insert program.key module }.ask (.shader module))

/-- The layout of a bind group with a number of slots, made if there is none yet. -/
def layOut (d : GpuDevice) (group count : Nat) : BindGroupLayout × GpuDevice :=
  match d.layouts.get? (group, count) with
  | some layout => (layout, d)
  | none =>
    let layout := samplersLayout (groupVisibility group) count
    (layout,
      { d with layouts := d.layouts.insert (group, count) layout }.ask
        (.layout "Effect samplers layout" layout))

/-- What a pipeline takes from one of its programs. -/
structure PipelineStage where
  module : ShaderModule
  entry : String
  samplers : Nat

/-- Makes a pipeline for two programs. -/
def buildPipeline (d : GpuDevice) (label : String) (vertex fragment : PipelineStage)
    (format : PixelFormat) : Pipeline × GpuDevice :=
  let (vertexLayout, d) := d.layOut (samplersGroup .vertex) vertex.samplers
  let (fragmentLayout, d) := d.layOut (samplersGroup .fragment) fragment.samplers
  let pipeline : Pipeline :=
    { label, layout := [constantsLayout, vertexLayout, fragmentLayout]
      vertex := vertex.module, vertexEntry := vertex.entry
      fragment := fragment.module, fragmentEntry := fragment.entry
      buffers := 1, target := format }
  (pipeline, d.ask (.pipeline pipeline))

/-- The vertex and the fragment program of a pass that has no other programs. -/
def pair (programs : List Program) : Except CallFault (Program × Program) :=
  match programs.find? (·.stage = .vertex), programs.find? (·.stage = .fragment) with
  | some vertex, some fragment =>
    if programs.length = 2 then .ok (vertex, fragment) else .error .unsupportedStage
  | _, _ => .error .incompletePair

/-- Whether the parameters of a program fit the device. -/
def checkTable (program : Program) : Except CallFault Unit :=
  let count := program.constants.registerCount
  if registerLimit < count then .error (.tooManyRegisters program.label count registerLimit)
  else
    match program.constants.samplers.find? fun slot => slot.type ≠ .sampler2D with
    | some slot => .error (.unsupportedSampler program.label slot.parameter slot.type)
    | none => .ok ()

/-- Whether the parameters of two programs fit the device. -/
def checkPair (programs : List Program) : Except CallFault (Program × Program) :=
  match pair programs with
  | .error fault => .error fault
  | .ok (vertex, fragment) =>
    match checkTable vertex with
    | .error fault => .error fault
    | .ok _ =>
      match checkTable fragment with
      | .error fault => .error fault
      | .ok _ => .ok (vertex, fragment)

/-- What a pipeline takes from a compiled program. -/
def PipelineStage.ofProgram (program : Program) (module : ShaderModule) : PipelineStage :=
  ⟨module, program.entry, program.constants.samplers.length⟩

/-- Tries out a pipeline for the programs of a pass. -/
def validate (d : GpuDevice) (programs : List Program) : Except DeviceError Unit × GpuDevice :=
  match d.alive with
  | .error e => (.error e, d)
  | .ok _ =>
    match checkPair programs with
    | .error fault => (.error (.invalidCall fault), d)
    | .ok (vertex, fragment) =>
      let (vertexModule, d) := d.moduleFor vertex
      let (fragmentModule, d) := d.moduleFor fragment
      let (_, d) :=
        d.buildPipeline (fragment.label ++ " (validation)") (.ofProgram vertex vertexModule)
          (.ofProgram fragment fragmentModule) .standard
      (.ok (), d)

/-- Why an image cannot be created from a description. -/
def creationFault? (desc : TextureDesc) : Option CreationFault :=
  if !desc.format.isColor then some .depthFormat
  else if 1 < desc.depth then some .volume
  else if sideLimit < desc.width ∨ sideLimit < desc.height then some (.tooLarge sideLimit)
  else none

/-- Gives a number to an image. -/
def keep (d : GpuDevice) (image : Image) : TextureId × GpuDevice :=
  let id : TextureId := ⟨d.nextId⟩
  (id, { d with nextId := d.nextId + 1, textures := d.textures.insert id image })

/-- Creates a texture to draw into. -/
def createTexture (d : GpuDevice) (name : String) (desc : TextureDesc) :
    Except DeviceError TextureId × GpuDevice :=
  match d.alive with
  | .error e => (.error e, d)
  | .ok _ =>
    match creationFault? desc with
    | some fault => (.error (.textureCreation name fault), d)
    | none =>
      let image := Image.ofSize desc.width desc.height desc.format
      let (id, d) := (d.ask (image.request name)).keep image
      (.ok id, d)

/-- The size of an image file. -/
def imageSize (d : GpuDevice) (files : FileTree) (path : String) : Except LoadFault ImageSize :=
  match files.read path with
  | .error fault => .error (.unreadable path fault)
  | .ok content => (d.context.decode content.data.toList).mapError .undecoded

/-- Loads an image as a texture. -/
def loadTexture (d : GpuDevice) (files : FileTree) (name path : String) :
    Except DeviceError (TextureId × TextureDesc) × GpuDevice × List Notice :=
  match d.alive with
  | .error e => (.error e, d, [])
  | .ok _ =>
    let notices : List Notice := [.loadingTexture path]
    match d.imageSize files path with
    | .error fault => (.error (.textureLoad path fault), d, notices)
    | .ok size =>
      let desc := TextureDesc.target size.width size.height .rgba8
      let image := Image.ofSize size.width size.height desc.format
      let d := d.ask (image.request name)
      let d := d.ask
        (.writeTexture size.width size.height
          (size.width * size.height * desc.format.bytesPerTexel))
      let (id, d) := d.keep image
      (.ok (id, desc), d, notices)

/-- Loads a program. -/
def loadProgram (d : GpuDevice) (program : Program) :
    Except DeviceError ProgramId × GpuDevice :=
  match d.alive with
  | .error e => (.error e, d)
  | .ok _ =>
    let (module, d) := d.moduleFor program
    let id : ProgramId := ⟨d.nextId⟩
    (.ok id,
      { d with
        nextId := d.nextId + 1
        programs := d.programs.insert id (.fresh program module) })

/-- Binds a program to its stage. -/
def bind (d : GpuDevice) (stage : Stage) (id : ProgramId) :
    Except DeviceError Unit × GpuDevice :=
  match d.alive with
  | .error e => (.error e, d)
  | .ok _ =>
    match d.programs.get? id with
    | none => (.error (.invalidCall (.unknownProgram id)), d)
    | some program =>
      if program.stage ≠ stage then
        (.error (.invalidCall (.wrongStage program.label stage)), d)
      else (.ok (), { d with bound := d.bound.insert stage id })

/-- Frees a stage. -/
def unbind (d : GpuDevice) (stage : Stage) : GpuDevice :=
  { d with bound := d.bound.erase stage }

/-- Writes registers from a register on. Those past the end are dropped. -/
def writeRegisters (program : LoadedProgram) (register : Nat) :
    List Register → LoadedProgram
  | [] => program
  | r :: rest =>
    let program :=
      if register < registerLimit then
        { program with registers := program.registers.setIfInBounds register r, dirty := true }
      else program
    writeRegisters program (register + 1) rest

/-- Writes numbers to the registers of a program. -/
def setConstants (d : GpuDevice) (id : ProgramId) (register : Nat) (values : List Float32) :
    GpuDevice :=
  { d with
    programs := d.programs.modify id fun program =>
      writeRegisters program register (Register.fill values) }

/-- Puts a texture into a slot of a program. -/
def setSampler (d : GpuDevice) (id : ProgramId) (slot : Nat) (texture : TextureId) :
    GpuDevice :=
  { d with
    programs := d.programs.modify id fun program =>
      { program with samplers := program.samplers.set slot (some texture) } }

/-- Chooses the surface to draw into. -/
def setTarget (d : GpuDevice) (surface : Surface) : Except DeviceError Unit × GpuDevice :=
  match d.alive with
  | .error e => (.error e, d)
  | .ok _ =>
    match d.image surface with
    | .error e => (.error e, d)
    | .ok _ => (.ok (), { d with renderTarget := surface })

/-- What a pipeline takes from a loaded program. -/
def PipelineStage.ofLoaded (program : LoadedProgram) : PipelineStage :=
  ⟨program.module, program.entry, program.samplers.length⟩

/-- The pipeline for two loaded programs and a target, made if there is none yet. -/
def pipelineFor (d : GpuDevice) (vertex fragment : ProgramId) (format : PixelFormat) :
    Except DeviceError Pipeline × GpuDevice :=
  match d.pipelines.get? (vertex, fragment, format) with
  | some pipeline => (.ok pipeline, d)
  | none =>
    match d.programs.get? vertex, d.programs.get? fragment with
    | some vs, some fs =>
      let (pipeline, d) :=
        d.buildPipeline (fs.label ++ " pipeline") (.ofLoaded vs) (.ofLoaded fs) format
      (.ok pipeline,
        { d with pipelines := d.pipelines.insert (vertex, fragment, format) pipeline })
    | _, _ => (.error (.invalidCall .unloaded), d)

/-- Uploads the numbers written to a program since its last upload. -/
def upload (d : GpuDevice) (id : ProgramId) : GpuDevice :=
  match d.programs.get? id with
  | none => d
  | some program =>
    if program.dirty then
      { d with programs := d.programs.insert id { program with dirty := false } }.ask
        (.writeBuffer id program.registers.toList)
    else d

/-- The texture that a slot samples. -/
def sampled (d : GpuDevice) : Option TextureId → Sampled
  | none => .fallback
  | some id => if d.textures.contains id then .texture id else .fallback

/-- The textures that the slots of a program sample. -/
def sampledBy (d : GpuDevice) (program : LoadedProgram) : List Sampled :=
  program.samplers.map d.sampled

/-- The uniforms of a draw. -/
def bindConstants (vertex fragment : ProgramId) : BindGroup :=
  ⟨constantsLayout, [⟨0, .buffer vertex⟩, ⟨1, .buffer fragment⟩]⟩

/-- Textures at their bindings, each with the sampler. -/
def samplerEntries (textures : List Sampled) : List BindGroupEntry :=
  textures.zipIdx.flatMap fun (texture, slot) =>
    [⟨slot * 2, .texture texture⟩, ⟨slot * 2 + 1, .sampler⟩]

/-- The textures of a program in a draw. -/
def bindSamplers (d : GpuDevice) (group : Nat) (program : LoadedProgram) :
    BindGroup × GpuDevice :=
  let (layout, d) := d.layOut group program.samplers.length
  (⟨layout, samplerEntries (d.sampledBy program)⟩, d)

/-- How the corners of a geometry are drawn. -/
def drawCall (geometry : Geometry) : DrawCall :=
  match geometry.indices with
  | some indices => .indexed indices.length
  | none => .direct geometry.vertices.length

/-- Draws into the target with two loaded programs. -/
def drawWith (d : GpuDevice) (vertex fragment : ProgramId) (geometry : Geometry) :
    Except DeviceError Unit × GpuDevice :=
  match d.image d.renderTarget with
  | .error e => (.error e, d)
  | .ok target =>
    match d.pipelineFor vertex fragment target.format with
    | (.error e, d) => (.error e, d)
    | (.ok pipeline, d) =>
      let d := (d.upload vertex).upload fragment
      match d.programs.get? vertex, d.programs.get? fragment with
      | some vs, some fs =>
        let (vertexSamplers, d) := d.bindSamplers (samplersGroup .vertex) vs
        let (fragmentSamplers, d) := d.bindSamplers (samplersGroup .fragment) fs
        (.ok (),
          d.ask
            (.draw
              { label := fs.label, target := d.renderTarget, pipeline
                groups := [bindConstants vertex fragment, vertexSamplers, fragmentSamplers]
                vertexBytes := geometry.vertexBytes
                indexBytes := geometry.indexBytes?
                call := drawCall geometry }))
      | some _, none => (.error (.invalidCall (.unknownProgram fragment)), d)
      | none, _ => (.error (.invalidCall (.unknownProgram vertex)), d)

/-- Draws into the target. A geometry without vertices leaves it as it is. -/
def draw (d : GpuDevice) (geometry : Geometry) : Except DeviceError Unit × GpuDevice :=
  match d.alive with
  | .error e => (.error e, d)
  | .ok _ =>
    match d.bound.get? .vertex, d.bound.get? .fragment with
    | some vertex, some fragment =>
      if geometry.vertices.isEmpty then (.ok (), d) else d.drawWith vertex fragment geometry
    | _, _ => (.error (.invalidCall .nothingToDrawWith), d)

/-- The pipeline that copies to a surface of a format, made if there is none yet. -/
def blitPipelineFor (d : GpuDevice) (format : PixelFormat) : Pipeline × GpuDevice :=
  match d.blitPipelines.get? format with
  | some pipeline => (pipeline, d)
  | none =>
    let pipeline := blitPipeline format
    (pipeline,
      { d with blitPipelines := d.blitPipelines.insert format pipeline }.ask
        (.pipeline pipeline))

/-- Stretches one surface over another. -/
def copy (d : GpuDevice) (source destination : Surface) :
    Except DeviceError Unit × GpuDevice :=
  match d.alive with
  | .error e => (.error e, d)
  | .ok _ =>
    if source = destination then (.ok (), d)
    else
      match d.image source with
      | .error e => (.error e, d)
      | .ok _ =>
        match d.image destination with
        | .error e => (.error e, d)
        | .ok image =>
          let (pipeline, d) := d.blitPipelineFor image.format
          (.ok (), d.ask (.blit ⟨source, destination, pipeline⟩))

/-- Stretches the backbuffer over the next frame of the window. Without a window there is
nothing to do, and a window that was lost gets its size anew. -/
def present (d : GpuDevice) (answer : FrameAnswer) :
    Except DeviceError Unit × GpuDevice × List Notice :=
  match d.context.window with
  | none => (.ok (), d, [])
  | some window =>
    match answer with
    | .lost | .outdated =>
      (.ok (), d.configure window.width window.height, [.frameLost])
    | .timeout => (.ok (), d, [.frameLate])
    | .failed reason => (.error (.invalidCall (.unpresented reason)), d, [])
    | .frame =>
      let (pipeline, d) := d.blitPipelineFor window.format
      (.ok (), d.ask (.present pipeline), [])

instance : Device GpuDevice where
  HostState := Unit
  backbufferSize d := (d.backbuffer.width, d.backbuffer.height)
  isLost d := d.lost
  supports _ profile := profile.family = .wgsl
  validate := validate
  createTexture := createTexture
  loadTexture := loadTexture
  loadProgram := loadProgram
  bind := bind
  unbind := unbind
  setConstants := setConstants
  setSampler := setSampler
  target d := d.renderTarget
  setTarget := setTarget
  capture _ := ()
  restore d _ := d
  enterEffectState d := d
  draw := draw
  copy := copy

end GpuDevice

end ShaderEffects
