import ShaderEffects.Parameter.Store
import ShaderEffects.Program.Compiler

/-!
# Effects

An effect is a list of techniques, of which it draws the first that its device
can use. A technique is a row of passes, a pass is one program for some of the
stages. Programs refer to the effect's own parameters.
-/

namespace ShaderEffects

/-- Where a pass or a technique ends. -/
structure TargetBinding where
  texture : Handle Texture
  /-- Whether an annotation asked for this texture. -/
  explicit : Bool
deriving DecidableEq

/-- One draw. -/
structure Pass where
  name : String
  /-- The technique the pass belongs to. -/
  technique : String
  /-- At most one program for each stage, in the order of the stages. -/
  programs : List Program
  directives : List Directive
  target : Option TargetBinding := none
  /-- Whether the device can use the programs together. -/
  valid : Bool := false

namespace Pass

/-- The program for a stage. -/
def program? (pass : Pass) (stage : Stage) : Option Program :=
  pass.programs.find? fun program => program.stage = stage

end Pass

/-- A way to draw an effect. -/
structure Technique where
  name : String
  passes : List Pass
  directives : List Directive
  target : Option TargetBinding := none
  /-- Whether some pass can be used, once that is known. -/
  verdict : Option Bool := none

namespace Technique

/-- Whether the technique is known to have a pass that can be used. -/
def isValid (technique : Technique) : Bool := technique.verdict.getD false

/-- Whether it is known if the technique can be used. -/
def isValidated (technique : Technique) : Bool := technique.verdict.isSome

/-- Settles whether the technique can be used, unless that is settled already. -/
def settle (technique : Technique) (valid : Bool) : Technique :=
  { technique with verdict := some (technique.verdict.getD valid) }

@[simp] theorem settle_settle (t : Technique) (a b : Bool) :
    (t.settle a).settle b = t.settle a := rfl

end Technique

/-- A parameter of an effect, and what its annotations ask for. -/
structure EffectParameter where
  id : ParameterId
  name : String
  type : ParameterType
  directives : List Directive

/-- An effect whose programs are compiled. -/
structure Effect where
  name : String
  parameters : List EffectParameter
  techniques : List Technique
  /-- The place of the technique that is drawn. -/
  chosen : Option Nat := none

namespace Effect

/-- The technique that is drawn. -/
def default? (effect : Effect) : Option Technique :=
  effect.chosen.bind fun index => effect.techniques[index]?

/-- The first technique of a name. -/
def technique? (effect : Effect) (name : String) : Option Technique :=
  effect.techniques.find? fun technique => technique.name = name

/-- The parameter of a name. -/
def parameter? (effect : Effect) (name : String) : Option EffectParameter :=
  effect.parameters.find? fun parameter => parameter.name = name

/-- The numbers of the effect's parameters. -/
def parameterIds (effect : Effect) : List ParameterId := effect.parameters.map (·.id)

end Effect

end ShaderEffects
