import ShaderEffects.Annotation.Directive
import ShaderEffects.Device.Error

/-!
# Link errors

What can go wrong while names are registered and an effect is joined to the
parameters, textures and device of its session.
-/

namespace ShaderEffects

/-- A problem with a name, an attachment or a link. -/
inductive LinkError where
  | duplicateParameter (name : String)
  | duplicateTexture (name : String)
  | notVirtual (target source : String)
  | attachCycle (target source : String)
  | unresolvedGlobal (parameter global : String) (type : ParameterType)
  | unresolvedSampler (parameter texture : String) (fault : BlankFault)
  | malformedValue (owner : String) (key : NameKey)
  | noValidTechnique (effect : String)
  | device (error : DeviceError)
deriving DecidableEq

namespace LinkError

/-- The message of a sampler without a texture for a given reason. -/
def samplerText (parameter reason : String) : String :=
  "sampler '" ++ parameter ++ "' could not be given a texture: " ++ reason

/-- The message of a malformed annotation. -/
def annotationText (owner annotation reason : String) : String :=
  "annotation '" ++ annotation ++ "' on '" ++ owner ++ "' is malformed: " ++ reason

/-- The wording of an error. -/
def message : LinkError → String
  | .duplicateParameter name => "a parameter named '" ++ name ++ "' is already registered"
  | .duplicateTexture name => "a texture named '" ++ name ++ "' is already registered"
  | .notVirtual target source =>
    "parameter '" ++ target ++ "' is not virtual and cannot accept '" ++ source ++ "'"
  | .attachCycle target source =>
    "attaching '" ++ source ++ "' to '" ++ target ++ "' would create a cycle"
  | .unresolvedGlobal parameter global type =>
    "parameter '" ++ parameter ++ "' links to global '" ++ global ++ "' (" ++ type.name
      ++ "), which is not registered"
  | .unresolvedSampler parameter texture fault =>
    samplerText parameter
      ("'" ++ texture ++ "' is not registered or loadable and " ++ fault.message)
  | .malformedValue owner key => annotationText owner key.text key.expectation
  | .noValidTechnique effect => "effect '" ++ effect ++ "' has no valid technique"
  | .device error => error.message

/-- The wording of an error, without what the file system or an image says. -/
def summary : LinkError → String
  | .device error => error.summary
  | error => error.message

end LinkError

/-- Why a device cannot use a pass. -/
inductive PassFault where
  | noPrograms
  | unsupportedProfile (profile program : String)
  | refused (error : DeviceError)
deriving DecidableEq, Repr

/-- The wording of such a reason. -/
def PassFault.message : PassFault → String
  | .noPrograms => "no stage programs"
  | .unsupportedProfile profile program =>
    "profile '" ++ profile ++ "' of " ++ program ++ " is not supported by the device"
  | .refused error => error.message

end ShaderEffects
