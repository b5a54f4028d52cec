import ShaderEffects.Device.Surface
import ShaderEffects.File.Tree
import ShaderEffects.Image.Size
import ShaderEffects.Parameter.Type
import ShaderEffects.Program.Stage

/-!
# Device errors

What a graphics device can refuse, and why.
-/

namespace ShaderEffects

/-- Why a call was invalid. -/
inductive CallFault where
  | unknownTexture (id : TextureId)
  | unknownProgram (id : ProgramId)
  | sameStage (stage : Stage)
  | rejected (program : String)
  | wrongStage (program : String) (stage : Stage)
  | unbindable (program : String)
  | neverLoaded
  | incompletePair
  | unsupportedStage
  | tooManyRegisters (program : String) (count limit : Nat)
  | unsupportedSampler (program parameter : String) (type : ParameterType)
  | nothingToDrawWith
  | unloaded
  /-- The graphics interface refuses something, in its own words. -/
  | refused (message : String)
  /-- The window has no frame, for a reason of its own. -/
  | unpresented (reason : String)
deriving DecidableEq, Repr

/-- The wording of an invalid call's reason. -/
def CallFault.message : CallFault → String
  | .unknownTexture id => "unknown texture " ++ id.text
  | .unknownProgram id => "unknown program " ++ id.text
  | .sameStage stage => "two " ++ stage.name ++ " programs in one pass"
  | .rejected program => program ++ " rejected by the runtime"
  | .wrongStage program stage => program ++ " is not a " ++ stage.name ++ " program"
  | .unbindable program => program ++ " could not be bound"
  | .neverLoaded => "program was never loaded"
  | .incompletePair => "a pass needs both a vertex and a fragment program"
  | .unsupportedStage => "only vertex and fragment programs are supported"
  | .tooManyRegisters program count limit =>
    program ++ " needs " ++ toString count ++ " registers, the limit is " ++ toString limit
  | .unsupportedSampler program parameter type =>
    program ++ ": sampler '" ++ parameter ++ "' is " ++ type.name
      ++ "; only 2D samplers are supported"
  | .nothingToDrawWith => "draw needs a bound vertex and fragment program"
  | .unloaded => "bound program was unloaded"
  | .refused message => message
  | .unpresented reason => "present: " ++ reason

/-- Why a texture was not created. -/
inductive CreationFault where
  | zeroSized
  | depthFormat
  | volume
  | tooLarge (limit : Nat)
deriving DecidableEq, Repr

/-- The wording of such a reason. -/
def CreationFault.message : CreationFault → String
  | .zeroSized => "zero-sized texture"
  | .depthFormat => "depth formats cannot be effect targets"
  | .volume => "volume textures are not supported"
  | .tooLarge limit => "larger than the device limit of " ++ toString limit

/-- Why a texture was not loaded from a file. -/
inductive LoadFault where
  /-- The file cannot be opened. -/
  | unopened (fault : FileFault)
  /-- The bytes of the file cannot be read. -/
  | unreadable (path : String) (fault : FileFault)
  /-- The reader of a format cannot get at the bytes of the file. -/
  | unread (format : ImageFormat) (fault : FileFault)
  /-- The file has no size of an image. -/
  | unmeasured (fault : ImageFault)
  /-- The bytes of the file are not those of an image, for a reason of the decoder. -/
  | undecoded (reason : String)
deriving DecidableEq, Repr

/-- The wording of such a reason. -/
def LoadFault.message : LoadFault → String
  | .unopened fault => fault.message
  | .unreadable path fault => fault.report path
  | .unread format fault => format.unread fault.message
  | .unmeasured fault => fault.message
  | .undecoded reason => "Failed to decode image: " ++ reason

/-- What a graphics device reports. -/
inductive DeviceError where
  | lost
  | invalidCall (fault : CallFault)
  | textureCreation (name : String) (fault : CreationFault)
  | textureLoad (path : String) (fault : LoadFault)
deriving DecidableEq, Repr

namespace DeviceError

/-- The message of an invalid call with a given reason. -/
def callText (reason : String) : String := "invalid device call: " ++ reason

/-- The message of a texture that was not created for a given reason. -/
def creationText (name reason : String) : String :=
  "failed to create texture '" ++ name ++ "': " ++ reason

/-- The message of a texture that was not loaded, up to its reason. -/
def loadText (path : String) : String := "failed to load texture from " ++ Text.quoted path

/-- The wording of an error. -/
def message : DeviceError → String
  | .lost => "the graphics device was lost"
  | .invalidCall fault => callText fault.message
  | .textureCreation name fault => creationText name fault.message
  | .textureLoad path fault => loadText path ++ ": " ++ fault.message

/-- The wording of an error, without what the file system or an image says. -/
def summary : DeviceError → String
  | .textureLoad path _ => loadText path
  | error => error.message

end DeviceError

end ShaderEffects
