import ShaderEffects.Json.Reader
import ShaderEffects.Program.Error

/-!
# Effect errors

Why an effect cannot be loaded at all.
-/

namespace ShaderEffects

/-- Why an effect cannot be loaded. -/
inductive EffectError where
  | unreadable (path : String) (fault : FileFault)
  | malformed (document : String) (error : Json.ReadError)
  | compile (effect pass : String) (cause : CompileError)
  | unknownType (parameter type : String)

namespace EffectError

/-- The message of an effect file that could not be read, for a given reason. -/
def fileText (path reason : String) : String := "effect " ++ Text.quoted path ++ ": " ++ reason

/-- The message of a pass that does not compile, for a given reason. -/
def compileText (effect pass reason : String) : String :=
  "effect '" ++ effect ++ "', pass '" ++ pass ++ "': " ++ reason

/-- The wording of an error. -/
def message : EffectError → String
  | .unreadable path fault => fileText path (fault.report path)
  | .malformed document error =>
    "failed to parse effect '" ++ document ++ "': " ++ error.message
  | .compile effect pass cause => compileText effect pass cause.message
  | .unknownType parameter type =>
    "unknown parameter type '" ++ type ++ "' for '" ++ parameter ++ "'"

/-- The wording of an error, without what the file system says. -/
def summary : EffectError → String
  | .unreadable path _ => fileText path (unreadableText path)
  | .compile effect pass cause => compileText effect pass cause.summary
  | error => error.message

end EffectError

end ShaderEffects
