import ShaderEffects.Device.Error

/-!
# Bind errors

Why a pass is skipped: the device refused to load or to bind one of its
programs.
-/

namespace ShaderEffects

/-- What a device was asked to do with a program. -/
inductive BindStep where
  | load
  | bind
deriving DecidableEq, Repr

/-- A program of a pass that could not be used. -/
structure BindError where
  step : BindStep
  stage : Stage
  program : String
  cause : DeviceError
deriving DecidableEq, Repr

namespace BindError

/-- The message of a program that could not be used, for a given reason. -/
def text (step : BindStep) (stage : Stage) (program reason : String) : String :=
  stage.name ++ " program '" ++ program ++ "' failed to "
    ++ (match step with
      | .load => "load"
      | .bind => "bind")
    ++ ": " ++ reason

/-- The wording of an error. -/
def message (error : BindError) : String :=
  text error.step error.stage error.program error.cause.message

end BindError

end ShaderEffects
