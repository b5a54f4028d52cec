import ShaderEffects.Device.Gpu.Adapter
import ShaderEffects.Json.Reader
import ShaderEffects.Link.Error
import ShaderEffects.Renderer.Error

/-!
# Notices

What the library has to say about its work, from the least detail of a frame to
a surface that could not be copied. A notice is an event; its level and wording
are found here and nowhere else.
-/

namespace ShaderEffects

/-- How much a notice matters. -/
inductive NoticeLevel where
  | error
  | warn
  | info
  | debug
  | trace
deriving DecidableEq, Repr

namespace NoticeLevel

/-- The place of a level, the most important first. -/
def rank : NoticeLevel → Nat
  | .error => 0
  | .warn => 1
  | .info => 2
  | .debug => 3
  | .trace => 4

/-- The name of a level in front of a notice. -/
def name : NoticeLevel → String
  | .error => "ERROR"
  | .warn => "WARN"
  | .info => "INFO"
  | .debug => "DEBUG"
  | .trace => "TRACE"

/-- The level asked for by a spelling; "off" and everything unknown ask for none. -/
def ofSpelling? : String → Option NoticeLevel
  | "error" => some .error
  | "warn" => some .warn
  | "info" => some .info
  | "debug" => some .debug
  | "trace" => some .trace
  | _ => none

end NoticeLevel

/-- An event worth telling. -/
inductive Notice where
  | settingsLoaded (path : String)
  | settingsMalformed (path : String) (error : Json.ReadError)
  | settingsNotFound (path : String)
  | settingsUnreadable (path : String) (fault : FileFault)
  | noSearchPath
  | stagingNotColor (format replacement : TextureFormat)
  | noLogFilter
  | sessionReady (width height : Nat) (format : TextureFormat) (builtins : Bool)
  | adapterChosen (adapter : Gpu.Adapter)
  | backendChosen (adapter : Gpu.Adapter)
  | deviceReady (width height : Nat) (format : String)
  | frameLost
  | frameLate
  | textureRegistered (name : String) (desc : TextureDesc)
  | parameterRegistered (name : String) (type : ParameterType)
  | repeatedParameter (effect parameter : String)
  | programCompiled (label profile entry : String) (registers samplers : Nat)
  | effectCompiled (effect : String) (parameters techniques : Nat)
  | loadingEffect (path : String)
  | effectUnloaded (effect : String)
  | malformedValue (error : LinkError)
  | attached (effect parameter global : String)
  | linkProblem (effect : String) (error : LinkError)
  | defaultKept (effect : String) (error : LinkError)
  | loadingTexture (path : String)
  | textureLoaded (name path : String)
  | textureNotLoaded (name : String) (error : DeviceError)
  | blankCreated (name : String) (desc : TextureDesc)
  | passUnusable (effect technique pass : String) (fault : PassFault)
  | techniqueInvalid (effect technique : String)
  | noValidTechnique (effect : String)
  | targetUnregistered (pass texture replacement : String)
  | defaultTarget (pass target : String)
  | effectLinked (effect : String) (technique : Option String) (problems : Nat)
  | unknownTexture (name : String)
  | notSampler (parameter : String)
  | programLoaded (label : String) (id : ProgramId)
  | effectSkipped (effect : String)
  | techniqueSkipped (effect technique : String)
  | quadRebuilt (width height : Nat)
  | passNotDrawn (pass : String)
  | passSkipped (effect pass : String) (error : BindError)
  | drawFailed (pass : String) (error : DeviceError)
  | copyFailed (source destination : Surface) (error : DeviceError)
  | targetNotRestored (error : DeviceError)
  | techniqueAborted (effect technique : String) (error : DeviceError)
  | passesDrawn (effect : String) (count : Nat)
  | snapshotFailed (texture : String) (error : DeviceError)

namespace Notice

/-- How much a notice matters. -/
def level : Notice → NoticeLevel
  | .passSkipped .. | .drawFailed .. | .copyFailed .. | .targetNotRestored .. |
    .techniqueAborted .. | .snapshotFailed .. => .error
  | .settingsMalformed .. | .settingsUnreadable .. | .noSearchPath | .stagingNotColor .. |
    .noLogFilter | .repeatedParameter .. | .malformedValue .. | .linkProblem .. |
    .defaultKept .. | .textureNotLoaded .. | .passUnusable .. | .techniqueInvalid .. |
    .noValidTechnique .. | .targetUnregistered .. | .unknownTexture .. | .frameLost |
    .frameLate => .warn
  | .settingsLoaded .. | .settingsNotFound .. | .sessionReady .. | .adapterChosen .. |
    .backendChosen .. | .deviceReady .. | .loadingEffect .. | .effectUnloaded .. |
    .loadingTexture .. | .effectLinked .. => .info
  | .textureRegistered .. | .parameterRegistered .. | .effectCompiled .. | .attached .. |
    .textureLoaded .. | .blankCreated .. | .defaultTarget .. | .notSampler .. |
    .effectSkipped .. | .techniqueSkipped .. | .quadRebuilt .. => .debug
  | .programCompiled .. | .programLoaded .. | .passNotDrawn .. | .passesDrawn .. => .trace

/-- The wording of a notice. -/
def message : Notice → String
  | .settingsLoaded path => "Loaded effect settings from " ++ Text.quoted path
  | .settingsMalformed path error =>
    "Failed to parse " ++ Text.quoted path ++ " (" ++ error.report
      ++ "). Falling back to default effect settings."
  | .settingsNotFound path =>
    "Effect settings file " ++ Text.quoted path ++ " not found. Using default settings."
  | .settingsUnreadable path fault =>
    "Failed to read " ++ Text.quoted path ++ " (" ++ fault.message
      ++ "). Falling back to default effect settings."
  | .noSearchPath => "At least one search path is required. Using the working directory."
  | .stagingNotColor format replacement =>
    "Staging format " ++ format.name ++ " cannot be rendered to. Using " ++ replacement.name
      ++ " instead."
  | .noLogFilter => "Log filter must not be empty. Using default value."
  | .sessionReady width height format builtins =>
    "Render session ready: " ++ toString width ++ "x" ++ toString height ++ " staging in "
      ++ format.name ++ ", builtins " ++ (if builtins then "on" else "off")
  | .adapterChosen adapter => "Using adapter: " ++ adapter.text
  | .backendChosen adapter => "Using backend: " ++ adapter.backend
  | .deviceReady width height format =>
    "wgpu effect device ready (" ++ toString width ++ "x" ++ toString height ++ ", " ++ format
      ++ ")"
  | .frameLost => "Surface lost or outdated; reconfiguring"
  | .frameLate => "Surface timeout; skipping frame"
  | .textureRegistered name desc =>
    "Registered texture '" ++ name ++ "' (" ++ desc.text ++ ")"
  | .parameterRegistered name type =>
    "Registered virtual parameter '" ++ name ++ "' (" ++ type.name ++ ")"
  | .repeatedParameter effect parameter =>
    "Effect '" ++ effect ++ "' declares parameter '" ++ parameter
      ++ "' twice; keeping the first"
  | .programCompiled label profile entry registers samplers =>
    "Compiled " ++ label ++ " (" ++ profile ++ ", entry '" ++ entry ++ "', "
      ++ toString registers ++ " registers, " ++ toString samplers ++ " samplers)"
  | .effectCompiled effect parameters techniques =>
    "Compiled effect '" ++ effect ++ "': " ++ toString parameters ++ " parameters, "
      ++ toString techniques ++ " techniques"
  | .loadingEffect path => "Loading effect from " ++ Text.quoted path
  | .effectUnloaded effect => "Unloaded effect '" ++ effect ++ "'"
  | .malformedValue error => error.message
  | .attached effect parameter global =>
    "Attached '" ++ effect ++ "." ++ parameter ++ "' to global '" ++ global ++ "'"
  | .linkProblem effect error => "Effect '" ++ effect ++ "': " ++ error.message
  | .defaultKept effect error =>
    "Effect '" ++ effect ++ "': " ++ error.message ++ "; keeping the default"
  | .loadingTexture path => "Loading texture: " ++ Text.quoted path
  | .textureLoaded name path => "Loaded texture '" ++ name ++ "' from " ++ Text.quoted path
  | .textureNotLoaded name error =>
    "Texture '" ++ name ++ "' could not be loaded: " ++ error.message
  | .blankCreated name desc => "Synthesized blank target '" ++ name ++ "' " ++ desc.text
  | .passUnusable effect technique pass fault =>
    "Pass '" ++ effect ++ "/" ++ technique ++ "/" ++ pass ++ "' is not usable: "
      ++ fault.message
  | .techniqueInvalid effect technique =>
    "Technique '" ++ technique ++ "' of effect '" ++ effect ++ "' failed validation"
  | .noValidTechnique effect =>
    "Effect '" ++ effect ++ "' has no valid technique and will not be rendered"
  | .targetUnregistered pass texture replacement =>
    "Pass '" ++ pass ++ "' targets unregistered texture '" ++ texture ++ "'; using '"
      ++ replacement ++ "'"
  | .defaultTarget pass target => "Pass '" ++ pass ++ "' renders into '" ++ target ++ "'"
  | .effectLinked effect technique problems =>
    "Linked effect '" ++ effect ++ "': default technique " ++ Text.quotedOption technique ++ ", "
      ++ toString problems ++ " problem(s)"
  | .unknownTexture name => "Cannot connect unregistered texture '" ++ name ++ "'"
  | .notSampler parameter => "'" ++ parameter ++ "' is not a sampler; texture ignored"
  | .programLoaded label id => "Loaded " ++ label ++ " as " ++ id.text
  | .effectSkipped effect => "Skipping effect '" ++ effect ++ "': no valid technique"
  | .techniqueSkipped effect technique =>
    "Skipping technique '" ++ technique ++ "' of '" ++ effect ++ "': not valid"
  | .quadRebuilt width height =>
    "Rebuilt full-screen quad at " ++ toString width ++ "x" ++ toString height
  | .passNotDrawn pass => "Pass '" ++ pass ++ "' failed validation; not drawn"
  | .passSkipped effect pass error =>
    "Skipping pass '" ++ pass ++ "' of '" ++ effect ++ "': " ++ error.message
  | .drawFailed pass error => "Draw of pass '" ++ pass ++ "' failed: " ++ error.message
  | .copyFailed source destination error =>
    "Copy " ++ source.text ++ " -> " ++ destination.text ++ " failed: " ++ error.message
  | .targetNotRestored error => "Failed to restore the render target: " ++ error.message
  | .techniqueAborted effect technique error =>
    "Technique '" ++ technique ++ "' of '" ++ effect ++ "' aborted: " ++ error.message
  | .passesDrawn effect count =>
    "Effect '" ++ effect ++ "': " ++ toString count ++ " pass(es) drawn"
  | .snapshotFailed texture error =>
    "Backbuffer copy into '" ++ texture ++ "' failed: " ++ error.message

/-- A notice with its level in front. -/
def line (notice : Notice) : String := notice.level.name ++ " " ++ notice.message

/-- The notices that matter at least as much as a level. -/
def atLeast (level : NoticeLevel) (notices : List Notice) : List Notice :=
  notices.filter fun notice => notice.level.rank ≤ level.rank

end Notice

end ShaderEffects
