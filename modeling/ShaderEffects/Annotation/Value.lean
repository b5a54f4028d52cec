import ShaderEffects.Json.Reader
import ShaderEffects.Table

/-!
# Annotation values

An annotation is a value under a key. In a document the value is written as it
stands, so its kind is found by trying the kinds in a fixed order: a number
that is a 64-bit integer is an integer, an empty array is a list of integers.
-/

namespace ShaderEffects

/-- The value of an annotation. -/
inductive AnnotationValue where
  | bool (b : Bool)
  | int (n : Int)
  | float (x : Float)
  | string (s : String)
  | ints (ns : List Int)
  | floats (xs : List Float)

/-- Annotations by key. -/
abbrev Annotations := Table String AnnotationValue

namespace AnnotationValue

/-- The text of a string. -/
def text? : AnnotationValue → Option String
  | .string s => some s
  | _ => none

/-- The size that an integer gives, if it is a 32-bit word. -/
def word? (n : Int) : Option Nat :=
  if 0 ≤ n ∧ n < (Nat.pow 2 32 : Nat) then some n.toNat else none

/-- The sizes along each dimension that an integer or a list of integers gives. -/
def dimensions? : AnnotationValue → Option (List Nat)
  | .int n => (word? n).map fun w => [w]
  | .ints ns => ns.mapM word?
  | _ => none

/-- A number as an integer of 64 bits. -/
def ofInteger? : Json.Number → Option Int
  | .integer n => if -(Nat.pow 2 63 : Nat) ≤ n ∧ n < (Nat.pow 2 63 : Nat) then some n else none
  | .float _ => none

/-- A number as a float. -/
def toFloat : Json.Number → Float
  | .integer n => if n < 0 then -(Float.ofNat n.natAbs) else Float.ofNat n.natAbs
  | .float x => x

/-- The number that a value stands for. -/
def number? : Json.Value → Option Json.Number
  | .scalar (.number n) => some n
  | _ => none

/-- The first kind that fits a value. -/
def ofJson? : Json.Value → Option AnnotationValue
  | .scalar (.boolean b) => some (.bool b)
  | .scalar (.number n) =>
    match ofInteger? n with
    | some i => some (.int i)
    | none => some (.float (toFloat n))
  | .scalar (.string s) => some (.string s)
  | .array items =>
    (items.mapM number?).map fun ns =>
      match ns.mapM ofInteger? with
      | some is => .ints is
      | none => .floats (ns.map toFloat)
  | _ => none

/-- Reads the value of an annotation. The value is read as a whole before its
kind is looked for. -/
def reader : Json.Reader AnnotationValue := fun depth => do
  match ofJson? (← Json.Scan.value depth) with
  | some a => return a
  | none => Json.Scan.refuse (.noVariant "AnnotationValue")

end AnnotationValue

namespace Annotations

/-- Reads annotations. Of two values under one key the later one counts. -/
def reader : Json.Reader Annotations := fun depth => do
  let pairs ← Json.Reader.map AnnotationValue.reader depth
  return pairs.foldl (fun table (key, value) => table.insert key value) ∅

end Annotations

end ShaderEffects
