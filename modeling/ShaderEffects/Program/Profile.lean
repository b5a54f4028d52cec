import ShaderEffects.Program.Stage
import ShaderEffects.Text.Blank

/-!
# Profiles

A profile says which language a program is written in and for which stages it
may be used. Either it is `wgsl`, which serves every stage, or it names a stage
and a version: `vs_3_0`, `ps_2_a`.
-/

namespace ShaderEffects

/-- The family of languages a profile belongs to. -/
inductive ProfileFamily where
  /-- The older shading language, of which the major version is kept. -/
  | shaderModel (major : Nat)
  | wgsl
deriving DecidableEq, Repr

/-- The name of a family in messages. -/
def ProfileFamily.text : ProfileFamily → String
  | .shaderModel major => "ShaderModel \x7b major: " ++ toString major ++ " \x7d"
  | .wgsl => "Wgsl"

/-- What a program is compiled for. -/
structure Profile where
  name : String
  family : ProfileFamily
  stages : StageMask
deriving DecidableEq, Repr

namespace Profile

/-- The names of the stages in front of a version. -/
def stageNames : List (List Char × Stage) :=
  [("vs".toList, .vertex), ("ps".toList, .fragment), ("fs".toList, .fragment),
    ("gs".toList, .geometry), ("ds".toList, .domain), ("hs".toList, .hull)]

/-- The number that a list of digits stands for. -/
def digitsValue (digits : List Char) : Nat :=
  digits.foldl (fun value digit => 10 * value + (digit.toNat - '0'.toNat)) 0

/-- The digits of a number, after at most one plus sign. -/
def unsigned : List Char → List Char
  | '+' :: digits => digits
  | digits => digits

/-- A number of one byte: at least one digit, and a value of at most 255. -/
def byte? (text : List Char) : Option Nat :=
  let digits := unsigned text
  if digits ≠ [] ∧ digits.all Char.isDigit ∧ digitsValue digits ≤ 255 then
    some (digitsValue digits)
  else none

/-- What stands before the first underscore. -/
def beforeUnderscore (text : List Char) : List Char :=
  text.takeWhile (· ≠ '_')

/-- What stands after the first underscore, if there is one. -/
def afterUnderscore? (text : List Char) : Option (List Char) :=
  match text.dropWhile (· ≠ '_') with
  | [] => none
  | _ :: rest => some rest

/-- The profile that every stage may use. -/
def wgsl : Profile := ⟨"wgsl", .wgsl, .full⟩

/-- The profile that a text names. Blanks around the name and the case of its
ASCII letters do not matter. -/
def ofName? (text : String) : Option Profile :=
  let letters := (Text.trimChars text.toList).map Char.toLower
  if letters = "wgsl".toList then some wgsl
  else
    match afterUnderscore? letters with
    | none => none
    | some version =>
      match stageNames.lookup (beforeUnderscore letters) with
      | none => none
      | some stage =>
        (byte? (beforeUnderscore version)).map fun major =>
          ⟨String.ofList letters, .shaderModel major, .single stage⟩

/-- Whether programs of the profile may be used in a stage. -/
def targets (profile : Profile) (stage : Stage) : Bool :=
  profile.stages.contains stage

example : ofName? " PS_2_a " = some ⟨"ps_2_a", .shaderModel 2, .single .fragment⟩ := by
  decide +kernel

example : ofName? "vs_256" = none := by decide +kernel

end Profile

end ShaderEffects
