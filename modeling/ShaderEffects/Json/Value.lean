import ShaderEffects.Json.Scalar

/-!
# Arrays, objects and whole values

What stands between the parts of an array or an object, the reading of a value
of any shape, and the skipping of one. A value that is read has a bounded number
of arrays and objects open at once; a value that is skipped may go to any depth.
-/

namespace ShaderEffects.Json

/-- A value of any shape. -/
inductive Value where
  | scalar (s : Scalar)
  | array (items : List Value)
  | object (members : List (String × Value))

/-- An array or an object that is open. -/
inductive Container where
  | array
  | object
deriving DecidableEq, Repr

namespace Container

/-- The bracket that ends a container. -/
def closing : Container → Char
  | .array => ']'
  | .object => '\x7d'

/-- The text ends inside a container. -/
def ended : Container → Fault
  | .array => .endInList
  | .object => .endInObject

/-- Neither a comma nor the end follows a part of a container. -/
def unseparated : Container → Fault
  | .array => .noItemEnd
  | .object => .noMemberEnd

end Container

/-- What is due while a value is skipped. -/
inductive Due where
  | value
  /-- The first part of the innermost container, or its end. -/
  | first
  /-- The end of the innermost container, or a comma. -/
  | next
  /-- A part of the innermost container. -/
  | part

namespace Scan

/-- Goes past an opening bracket, unless too many arrays and objects are open
already. -/
def descend {α : Type} (inner : Nat → Scan α) : Nat → Scan α
  | 0 => failAfter 1 .tooDeep
  | depth + 1 => do
    advance
    inner depth

/-- Whether an element of an array follows. All but the first follow a comma. -/
def moreItems (first : Bool) : Scan Bool := do
  let c ← token .endInList
  if c = ']' then return false
  else if first then return true
  else if c = ',' then
    advance
    if (← token .endInValue) = ']' then failAfter 1 .trailingComma else return true
  else failAfter 1 .noItemEnd

/-- Whether a member of an object follows. All but the first follow a comma. -/
def moreMembers (first : Bool) : Scan Bool := do
  let c ← token .endInObject
  if c = '\x7d' then return false
  else if first then
    if c = '"' then return true else failAfter 1 .keyNotString
  else if c = ',' then
    advance
    let c ← token .endInValue
    if c = '"' then return true
    else if c = '\x7d' then failAfter 1 .trailingComma
    else failAfter 1 .keyNotString
  else failAfter 1 .noMemberEnd

/-- Goes past the colon behind a key. -/
def colon : Scan Unit := do
  if (← token .endInObject) = ':' then advance else failAfter 1 .noColon

/-- Reads elements up to the end of their array. -/
def elements {α : Type} (element : Scan α) : List Char → Bool → Scan (List α)
  | [], _ => failAfter 0 .endInList
  | _ :: bound, first => do
    if ← moreItems first then
      let a ← element
      return a :: (← elements element bound false)
    else
      advance
      return []

/-- Reads members up to the end of their object. -/
def pairs {α : Type} (value : Scan α) : List Char → Bool → Scan (List (String × α))
  | [], _ => failAfter 0 .endInObject
  | _ :: bound, first => do
    if ← moreMembers first then
      let key ← string
      colon
      let a ← value
      return (key, a) :: (← pairs value bound false)
    else
      advance
      return []

/-- Reads the elements of an array, after its opening bracket. -/
def array {α : Type} (element : Scan α) : Scan (List α) := do
  elements element (← rest) true

/-- Reads the members of an object, after its opening bracket. -/
def object {α : Type} (value : Scan α) : Scan (List (String × α)) := do
  pairs value (← rest) true

/-- Reads a value with at most `depth` arrays and objects open at once. -/
def value : Nat → Scan Value
  | 0 => do
    match ← token .endInValue with
    | '[' | '\x7b' => failAfter 1 .tooDeep
    | _ => return .scalar (← scalar)
  | depth + 1 => do
    match ← token .endInValue with
    | '[' => do
      advance
      return .array (← array (value depth))
    | '\x7b' => do
      advance
      return .object (← object (value depth))
    | _ => return .scalar (← scalar)

/-- Goes past a value without parts or past an opening bracket. The containers
that are open come with the innermost first. -/
def skipValueStart (outer : List Container) : Scan (Due × List Container) := do
  match ← token .endInValue with
  | '[' => do
    advance
    return (.first, .array :: outer)
  | '\x7b' => do
    advance
    return (.first, .object :: outer)
  | _ => do
    skipScalar
    return (.next, outer)

/-- Goes past what begins a part of the innermost container: a member has a key. -/
def skipPartStart (c : Container) (outer : List Container) : Scan (Due × List Container) :=
  match c with
  | .array => skipValueStart (.array :: outer)
  | .object => do
    if (← token .endInObject) = '"' then
      skipString
      colon
      return (.value, .object :: outer)
    else failAfter 1 .keyNotString

/-- Goes past a token or more of what is due, and says what is due then. -/
def skipStep : Due → List Container → Scan (Due × List Container)
  | .first, c :: outer => do
    if (← token c.ended) = c.closing then
      advance
      return (.next, outer)
    else skipPartStart c outer
  | .next, c :: outer => do
    let next ← token c.ended
    if next = c.closing then
      advance
      return (.next, outer)
    else if next = ',' then
      advance
      return (.part, c :: outer)
    else failAfter 1 c.unseparated
  | .part, c :: outer => skipPartStart c outer
  | _, outer => skipValueStart outer

/-- Goes past all that is due. -/
def skipDue : List Char → Due → List Container → Scan Unit
  | _, .next, [] => return
  | [], due, outer => do
    let _ ← skipStep due outer
  | _ :: bound, due, outer => do
    let (due, outer) ← skipStep due outer
    skipDue bound due outer

/-- Goes past a value. -/
def skipValue : Scan Unit := do
  skipDue (← rest) .value []

/-- What the next token begins. -/
def found : Scan Found := do
  match ← peek? with
  | some '[' => return .sequence
  | some '\x7b' => return .map
  | _ => return .scalar (← scalar)

end Scan

end ShaderEffects.Json
