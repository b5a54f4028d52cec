import ShaderEffects.File.Lookup
import ShaderEffects.File.Variables
import ShaderEffects.Program.ConstantTable
import ShaderEffects.Program.Error
import ShaderEffects.Program.Profile

/-!
# Compiling stage programs

Compiling checks the profile of a program against its stage, finds its source
and lays out the parameters the source mentions. What a device makes of the
source is left to the device.
-/

namespace ShaderEffects

/-- A stage program as a document declares it. -/
structure ProgramDescription where
  profile : String
  entry : String := "main"
  /-- Source that stands in the document. It goes before a file. -/
  source : Option String := none
  file : Option String := none
deriving DecidableEq, Repr

/-- Where the source of a program comes from. -/
inductive ProgramOrigin where
  | inline
  | file (path : String)
deriving DecidableEq, Repr

/-- Everything that decides what a device makes of a program. -/
structure ProgramKey where
  stage : Stage
  profile : Profile
  entry : String
  source : String
  constants : ConstantTable
deriving DecidableEq, Repr

/-- A compiled stage program. -/
structure Program where
  /-- The effect, technique, pass and stage, for messages. -/
  label : String
  origin : ProgramOrigin
  key : ProgramKey
deriving DecidableEq, Repr

namespace Program

/-- The stage a program is for. -/
def stage (p : Program) : Stage := p.key.stage

/-- The profile a program is written for. -/
def profile (p : Program) : Profile := p.key.profile

/-- The function a program starts at. -/
def entry (p : Program) : String := p.key.entry

/-- The text of a program. -/
def source (p : Program) : String := p.key.source

/-- Where the parameters of a program live. -/
def constants (p : Program) : ConstantTable := p.key.constants

end Program

/-- What a compiler needs to find files. -/
structure Compiler where
  files : FileTree := {}
  lookup : FileLookup
  vars : Variables := {}

namespace Compiler

/-- The path of the file that a name stands for, once its variables are replaced. -/
def resolve? (compiler : Compiler) (name : String) : Option String :=
  compiler.lookup.find? compiler.files (compiler.vars.expand name)

/-- The profile of a program, checked against its stage. -/
def profileFor (stage : Stage) (name : String) : Except CompileError Profile :=
  match Profile.ofName? name with
  | none => .error (.unknownProfile name)
  | some profile =>
    if profile.targets stage then .ok profile
    else .error (.stageMismatch profile.name stage)

/-- The source of a program, and where it comes from. -/
def sourceOf (compiler : Compiler) (stage : Stage) (d : ProgramDescription) :
    Except CompileError (String × ProgramOrigin) :=
  match d.source, d.file with
  | some source, _ => .ok (source, .inline)
  | none, none => .error (.missingSource stage)
  | none, some file =>
    match compiler.resolve? file with
    | none => .error (.fileNotFound file)
    | some path =>
      match compiler.files.readText path with
      | .error fault => .error (.unreadable path fault)
      | .ok source => .ok (source, .file path)

/-- Compiles a stage program of an effect with the given parameters. -/
def compile (compiler : Compiler) (label : String) (stage : Stage) (d : ProgramDescription)
    (declarations : List Declaration) : Except CompileError Program :=
  match profileFor stage d.profile with
  | .error e => .error e
  | .ok profile =>
    match compiler.sourceOf stage d with
    | .error e => .error e
    | .ok (source, origin) =>
      .ok ⟨label, origin, stage, profile, d.entry, source, .build source declarations⟩

end Compiler

end ShaderEffects
