import ShaderEffects.File.Tree
import ShaderEffects.Program.Stage

/-!
# Compile errors

Why a stage program does not compile.
-/

namespace ShaderEffects

/-- Why a stage program does not compile. -/
inductive CompileError where
  | stageMismatch (profile : String) (stage : Stage)
  | unknownProfile (name : String)
  | missingSource (stage : Stage)
  | fileNotFound (name : String)
  | unreadable (path : String) (fault : FileFault)
deriving DecidableEq, Repr

namespace CompileError

/-- The message of a program file that could not be read, for a given reason. -/
def fileText (path reason : String) : String :=
  "failed to read program file " ++ Text.quoted path ++ ": " ++ reason

/-- The wording of an error. -/
def message : CompileError → String
  | .stageMismatch profile stage =>
    "profile '" ++ profile ++ "' cannot compile a " ++ stage.name ++ " program"
  | .unknownProfile name => "unknown profile '" ++ name ++ "'"
  | .missingSource stage =>
    stage.name ++ " program declares neither inline source nor a file"
  | .fileNotFound name => "program file '" ++ name ++ "' was not found"
  | .unreadable path fault => fileText path (fault.report path)

/-- The wording of an error, without what the file system says. -/
def summary : CompileError → String
  | .unreadable path _ => fileText path (unreadableText path)
  | error => error.message

end CompileError

end ShaderEffects
