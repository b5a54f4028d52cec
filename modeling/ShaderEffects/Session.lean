import ShaderEffects.Clock
import ShaderEffects.Engine.Load
import ShaderEffects.Settings

/-!
# Sessions

A session is an engine with staging textures and, unless its settings say
otherwise, three virtual parameters that follow the frames. Each frame draws
every loaded effect, in the order of loading, over the backbuffer.
-/

namespace ShaderEffects

/-- The virtual parameters that a session keeps up to date. -/
structure Builtins where
  time : ParameterId
  frame : ParameterId
  resolution : ParameterId

/-- Everything a host needs to load effects and draw them. -/
structure Session (D : Type) where
  engine : Engine D
  settings : Settings
  clock : FrameClock := {}
  builtins : Option Builtins

namespace Session

variable {D : Type} [Device D]

/-- Registers the staging textures. -/
def stage (engine : Engine D) (desc : TextureDesc) :
    List String → Except LinkError Unit × Engine D
  | [] => (.ok (), engine)
  | name :: rest =>
    match engine.createRegistered name desc with
    | (.error e, engine) => (.error e, engine)
    | (.ok _, engine) => stage engine desc rest

/-- Registers the parameters that a session keeps up to date. -/
def registerBuiltins (engine : Engine D) : Except LinkError Builtins × Engine D :=
  match engine.createVirtual "time" .float1 with
  | (.error e, engine) => (.error e, engine)
  | (.ok time, engine) =>
    match engine.createVirtual "frame" .float1 with
    | (.error e, engine) => (.error e, engine)
    | (.ok frame, engine) =>
      match engine.createVirtual "resolution" .float2 with
      | (.error e, engine) => (.error e, engine)
      | (.ok resolution, engine) => (.ok ⟨time, frame, resolution⟩, engine)

/-- The engine of a session before it is set up. -/
def bareEngine (device : D) (settings : Settings) (compiler : Compiler) : Engine D :=
  { compiler, renderer := .ofDevice device settings.halfPixelOffset }

/-- Sets a session up, starting at an instant. The engine is returned also if that
fails. -/
def create (device : D) (settings : Settings) (compiler : Compiler) (now : Int) :
    Except LinkError (Session D) × Engine D :=
  let engine := bareEngine device settings compiler
  let (width, height) := Device.backbufferSize device
  let desc := TextureDesc.target width height settings.stagingFormat
  let ready (engine : Engine D) (builtins : Option Builtins) :
      Except LinkError (Session D) × Engine D :=
    let engine := engine.note
      [.sessionReady width height settings.stagingFormat builtins.isSome]
    (.ok { engine, settings, clock := .startingAt now, builtins }, engine)
  match stage engine desc Staging.all with
  | (.error e, engine) => (.error e, engine)
  | (.ok _, engine) =>
    if settings.builtinParameters then
      match registerBuiltins engine with
      | (.error e, engine) => (.error e, engine)
      | (.ok builtins, engine) => ready engine (some builtins)
    else ready engine none

/-- A compiler that searches the folders of settings. -/
def searching (settings : Settings) (files : FileTree) : Compiler :=
  { files, lookup := .search settings.searchPaths }

/-- The path of the file that a path given by the host stands for. A path that
leads nowhere is looked up as a name. -/
def effectPath (session : Session D) (path : String) : String :=
  let compiler := session.engine.compiler
  if compiler.files.contains path then path else (compiler.resolve? path).getD path

/-- Loads an effect from a text. -/
def load (session : Session D) (name text : String) :
    Except EffectError (Handle Effect × List LinkError) × Session D :=
  let (result, engine) := session.engine.load name text
  (result, { session with engine })

/-- Loads an effect from a file. -/
def loadFile (session : Session D) (path : String) :
    Except EffectError (Handle Effect × List LinkError) × Session D :=
  let path := session.effectPath path
  match session.engine.compiler.files.readText path with
  | .error fault => (.error (.unreadable path fault), session)
  | .ok text =>
    { session with engine := session.engine.note [.loadingEffect path] }.load path text

/-- Removes an effect. No pass stays bound. -/
def unload (session : Session D) (handle : Handle Effect) : Option Effect × Session D :=
  let engine := { session.engine with renderer := session.engine.renderer.unbindPass }
  match engine.unload handle with
  | (none, engine) => (none, { session with engine })
  | (some effect, engine) =>
    (some effect, { session with engine := engine.note [.effectUnloaded effect.name] })

/-- Gives a sampler of an effect a registered texture. The result says whether
there are such an effect, sampler and texture. -/
def connect (session : Session D) (handle : Handle Effect) (parameter texture : String) :
    Bool × Session D :=
  let engine := session.engine
  match engine.textures.find? texture with
  | none => (false, { session with engine := engine.note [.unknownTexture texture] })
  | some texture =>
    match (engine.effects.get? handle).bind (·.parameter? parameter) with
    | none => (false, session)
    | some p =>
      let (connected, engine) := engine.connect p.id texture
      (connected, { session with engine })

/-- Brings the parameters that a session keeps up to date. -/
def updateBuiltins (engine : Engine D) (builtins : Builtins) (time : FrameTime) : Engine D :=
  let (width, height) := Device.backbufferSize engine.device
  let ps := engine.parameters.setScalars builtins.time [seconds time.elapsed]
  let ps := ps.setScalars builtins.frame [Float32.ofNat time.frame]
  let ps := ps.setScalars builtins.resolution [Float32.ofNat width, Float32.ofNat height]
  { engine with parameters := ps }

/-- Copies the backbuffer to a registered texture. A failure other than the loss of
the device only goes into the journal. -/
def snapshot (engine : Engine D) (name : String) : Except DeviceError Unit × Engine D :=
  match engine.textures.byName? name with
  | none => (.ok (), engine)
  | some texture =>
    match Device.copy engine.device .backbuffer (.texture texture.backing) with
    | (.ok _, device) => (.ok (), engine.withDevice device)
    | (.error .lost, device) => (.error .lost, engine.withDevice device)
    | (.error e, device) => (.ok (), (engine.withDevice device).note [.snapshotFailed name e])

/-- Draws effects one after the other. -/
def drawEffects (engine : Engine D) (geometry : Option Geometry) :
    List Effect → Except DeviceError (List FrameReport) × Engine D
  | [] => (.ok [], engine)
  | effect :: rest =>
    match engine.renderer.drawEffect engine.scene effect geometry with
    | (.error e, renderer) => (.error e, { engine with renderer })
    | (.ok report, renderer) =>
      let engine := { engine with renderer }.note [.passesDrawn effect.name report.passesDrawn]
      match drawEffects engine geometry rest with
      | (.error e, engine) => (.error e, engine)
      | (.ok reports, engine) => (.ok (report :: reports), engine)

/-- Draws the loaded effects between two snapshots of the backbuffer. -/
def drawFrame (engine : Engine D) (geometry : Option Geometry) :
    Except DeviceError (List FrameReport) × Engine D :=
  match snapshot engine Staging.thisFrame with
  | (.error e, engine) => (.error e, engine)
  | (.ok _, engine) =>
    match drawEffects engine geometry (engine.effects.toList.map (·.2)) with
    | (.error e, engine) => (.error e, engine)
    | (.ok reports, engine) =>
      match snapshot engine Staging.lastFrame with
      | (.error e, engine) => (.error e, engine)
      | (.ok _, engine) => (.ok reports, engine)

/-- Draws a frame at an instant. -/
def renderFrame (session : Session D) (now : Int) (geometry : Option Geometry) :
    Except DeviceError (List FrameReport) × Session D :=
  if Device.isLost session.engine.device then (.error .lost, session)
  else
    let (clock, time) := session.clock.tick now
    let engine :=
      match session.builtins with
      | none => session.engine
      | some builtins => updateBuiltins session.engine builtins time
    let (result, engine) := drawFrame engine geometry
    (result, { session with engine, clock })

end Session

end ShaderEffects
