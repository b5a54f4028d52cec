import ShaderEffects.Annotation.Value
import ShaderEffects.Program.Compiler

/-!
# Effect descriptions

An effect as its document declares it, and the reading of such a document. In a
document a record may be an object or an array of its fields; fields other than
a name, a type or a profile may be left out.
-/

namespace ShaderEffects

/-- A declared parameter. -/
structure ParameterDescription where
  name : String := ""
  type : String := ""
  default : List Float32 := []
  annotations : Annotations := ∅

/-- A declared pass, with a program for some of the stages. -/
structure PassDescription where
  name : String := ""
  annotations : Annotations := ∅
  vertex : Option ProgramDescription := none
  fragment : Option ProgramDescription := none
  geometry : Option ProgramDescription := none
  domain : Option ProgramDescription := none
  hull : Option ProgramDescription := none

/-- A declared technique. -/
structure TechniqueDescription where
  name : String := ""
  annotations : Annotations := ∅
  passes : List PassDescription := []

/-- A declared effect. -/
structure EffectDescription where
  name : String := ""
  parameters : List ParameterDescription := []
  techniques : List TechniqueDescription := []

/-- The program that a pass declares for a stage. -/
def PassDescription.program? (pass : PassDescription) : Stage → Option ProgramDescription
  | .vertex => pass.vertex
  | .fragment => pass.fragment
  | .geometry => pass.geometry
  | .domain => pass.domain
  | .hull => pass.hull

/-- The programs that a pass declares, with their stages in order. -/
def PassDescription.programs (pass : PassDescription) : List (Stage × ProgramDescription) :=
  Stage.all.filterMap fun stage => (pass.program? stage).map fun program => (stage, program)

open Json Json.Reader

/-- Reads a stage program. -/
def ProgramDescription.reader : Reader ProgramDescription :=
  record "ProgramDescription"
    [.of "profile" true string fun s d => { d with profile := s },
      .of "entry" false string fun s d => { d with entry := s },
      .of "source" false (optional string) fun s d => { d with source := s },
      .of "file" false (optional string) fun s d => { d with file := s }]
    { profile := "" }

/-- Reads a parameter. -/
def ParameterDescription.reader : Reader ParameterDescription :=
  record "ParameterDescription"
    [.of "name" true string fun s d => { d with name := s },
      .of "type" true string fun s d => { d with type := s },
      .of "default" false (list float32) fun xs d => { d with default := xs },
      .of "annotations" false Annotations.reader fun a d => { d with annotations := a }]
    {}

/-- Reads a pass. -/
def PassDescription.reader : Reader PassDescription :=
  let program := optional ProgramDescription.reader
  record "PassDescription"
    [.of "name" true string fun s d => { d with name := s },
      .of "annotations" false Annotations.reader fun a d => { d with annotations := a },
      .of "vertex" false program fun p d => { d with vertex := p },
      .of "fragment" false program fun p d => { d with fragment := p },
      .of "geometry" false program fun p d => { d with geometry := p },
      .of "domain" false program fun p d => { d with domain := p },
      .of "hull" false program fun p d => { d with hull := p }]
    {}

/-- Reads a technique. -/
def TechniqueDescription.reader : Reader TechniqueDescription :=
  record "TechniqueDescription"
    [.of "name" true string fun s d => { d with name := s },
      .of "annotations" false Annotations.reader fun a d => { d with annotations := a },
      .of "passes" false (list PassDescription.reader) fun ps d => { d with passes := ps }]
    {}

/-- Reads an effect. -/
def EffectDescription.reader : Reader EffectDescription :=
  record "EffectDescription"
    [.of "name" true string fun s d => { d with name := s },
      .of "parameters" false (list ParameterDescription.reader)
        fun ps d => { d with parameters := ps },
      .of "techniques" false (list TechniqueDescription.reader)
        fun ts d => { d with techniques := ts }]
    {}

/-- Reads the document of an effect. -/
def EffectDescription.ofText (text : String) : Except ReadError EffectDescription :=
  Json.read EffectDescription.reader text

end ShaderEffects
