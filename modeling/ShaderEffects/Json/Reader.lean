import ShaderEffects.Json.Value

/-!
# Reading typed data from JSON

A reader takes a text to data of one type, or says why it cannot. Readers follow
the order of the text, so of several reasons the first one wins, and a value of
the wrong shape is reported before anything that stands after it. At most 127
arrays and objects may be open at once in what is read.
-/

namespace ShaderEffects.Json

/-- Reads a value, given how many arrays and objects may still be opened. -/
abbrev Reader (α : Type) := Nat → Scan α

/-- Stops because something else than the next value was expected. -/
def Scan.expect {α : Type} (expected : String) : Scan α := do
  refuse (.wrongKind (← found) expected)

namespace Reader

open Scan

/-- Reads a value without parts. -/
def ofScalar {α : Type} (expected : String) (select? : Scalar → Option α) : Reader α := fun _ => do
  let _ ← token .endInValue
  match ← found with
  | .scalar s =>
    match select? s with
    | some a => return a
    | none => refuse (.wrongKind (.scalar s) expected)
  | other => refuse (.wrongKind other expected)

/-- The text of a scalar, if it is a string. -/
def stringOf? : Scalar → Option String
  | .string s => some s
  | _ => none

/-- Reads a string. -/
def string : Reader String := ofScalar "a string" stringOf?

/-- Reads the path of a file or folder. -/
def path : Reader String := ofScalar "path string" stringOf?

/-- Reads a truth value. -/
def boolean : Reader Bool :=
  ofScalar "a boolean" fun
    | .boolean b => some b
    | _ => none

/-- The number of single precision nearest to a number as it was read. -/
def single : Number → Float32
  | .integer n => if n < 0 then -(Float32.ofNat n.natAbs) else Float32.ofNat n.natAbs
  | .float x => x.toFloat32

/-- Reads a number of single precision. -/
def float32 : Reader Float32 :=
  ofScalar "f32" fun
    | .number n => some (single n)
    | _ => none

/-- Reads something that may be absent, which is written `null`. -/
def optional {α : Type} (read : Reader α) : Reader (Option α) := fun depth => do
  match ← token? with
  | some 'n' => do
    advance
    word ['u', 'l', 'l']
    return none
  | _ => return some (← read depth)

/-- Reads an array. -/
def list {α : Type} (read : Reader α) : Reader (List α) := fun depth => do
  match ← token .endInValue with
  | '[' => descend (fun depth => array (read depth)) depth
  | _ => expect "a sequence"

/-- Reads an object whose keys are free as pairs, in the order of the text. -/
def map {α : Type} (read : Reader α) : Reader (List (String × α)) := fun depth => do
  match ← token .endInValue with
  | '\x7b' => descend (fun depth => object (read depth)) depth
  | _ => expect "a map"

/-- Reads one of the given names as a string. -/
def name {α : Type} (variants : List (String × α)) : Scan α := do
  let name ← Scan.string
  match variants.lookup name with
  | some a => return a
  | none => refuse (.unknownVariant name (variants.map (·.1)))

/-- Reads one of the given names, written as a string or as the only key of an
object whose value is `null`. -/
def choice {α : Type} (variants : List (String × α)) : Reader α := fun depth => do
  let alone (_ : Nat) : Scan α := do
    match ← token .endInObject with
    | '"' => pure ()
    | '\x7d' => failAfter 1 .noValue
    | _ => failAfter 1 .keyNotString
    let a ← name variants
    colon
    ofScalar "unit" (fun s => if s matches .null then some () else none) 0
    match ← token? with
    | none => failAfter 0 .endInObject
    | some '\x7d' => do
      advance
      return a
    | some _ => failAfter 0 .noValue
  match ← token .endInValue with
  | '"' => name variants
  | '\x7b' => descend alone depth
  | _ => failAfter 1 .noValue

/-- A field of a record: how it is read into a record under construction. -/
structure Field (α : Type) where
  name : String
  required : Bool := false
  read : Nat → α → Scan α

/-- A field whose value is read by `read` and stored by `store`. -/
def Field.of {α β : Type} (name : String) (required : Bool) (read : Reader β)
    (store : β → α → α) : Field α where
  name := name
  required := required
  read depth record := return store (← read depth) record

/-- Stops behind the key of a member. The place is where the object would have
gone on: behind white space, and behind its closing bracket if that comes next. -/
def refuseKey {α : Type} (mismatch : Mismatch) : Scan α := do
  if (← token?) = some '\x7d' then advance
  refuse mismatch

/-- Reads a record from the members of an object. Fields may come in any order,
each at most once; other members are skipped. -/
def fieldsByName {α : Type} (fields : List (Field α)) (depth : Nat) :
    List Char → Bool → List String → α → Scan α
  | [], _, _, _ => failAfter 0 .endInObject
  | _ :: bound, first, seen, record => do
    if ← moreMembers first then
      let name ← Scan.string
      match fields.find? fun f => f.name = name with
      | none => do
        colon
        skipValue
        fieldsByName fields depth bound false seen record
      | some f =>
        if seen.contains name then refuseKey (.duplicateField name)
        else do
          colon
          let record ← f.read depth record
          fieldsByName fields depth bound false (name :: seen) record
    else
      advance
      match fields.find? fun f => f.required && !seen.contains f.name with
      | some f => refuse (.missingField f.name)
      | none => return record

/-- How a message names a record with a number of fields. -/
def recordText (name : String) (count : Nat) : String :=
  "struct " ++ name ++ " with " ++ toString count ++ (if count = 1 then " element" else " elements")

/-- Goes past the end of an array that must have no further element. -/
def endOfArray : Scan Unit := do
  match ← token .endInList with
  | ']' => advance
  | ',' => do
    advance
    failAfter 1 (if (← token?) = some ']' then .trailingComma else .trailingText)
  | _ => failAfter 1 .trailingText

/-- Reads a record from the elements of an array, which stand for its fields in
the order of their declaration. Fields at the end may be left out. -/
def fieldsInOrder {α : Type} (name : String) (count depth : Nat) :
    Nat → List (Field α) → α → Scan α
  | _, [], record => do
    endOfArray
    return record
  | index, f :: fields, record => do
    if ← moreItems (index = 0) then
      let record ← f.read depth record
      fieldsInOrder name count depth (index + 1) fields record
    else if f.required then do
      advance
      refuse (.tooShort index (recordText name count))
    else fieldsInOrder name count depth (index + 1) fields record

/-- Reads a record, starting from the given one, whose fields count for those
that the text leaves out. -/
def record {α : Type} (name : String) (fields : List (Field α)) (start : α) : Reader α :=
  fun depth => do
    match ← token .endInValue with
    | '\x7b' =>
      descend (fun depth => do
        fieldsByName fields depth (← rest) true [] start) depth
    | '[' => descend (fun depth => fieldsInOrder name fields.length depth 0 fields start) depth
    | _ => expect ("struct " ++ name)

end Reader

/-- Reads a whole text. -/
def read {α : Type} (reader : Reader α) (text : String) : Except ReadError α :=
  let whole : Scan α := do
    let a ← reader 127
    match ← Scan.token? with
    | none => return a
    | some _ => Scan.failAfter 1 .trailingText
  whole.run' ⟨text.toList, {}⟩

example : (read (Reader.list Reader.string) "[\"a\", \"\\u0062\"]").toOption = some ["a", "b"] := by
  decide +kernel

end ShaderEffects.Json
