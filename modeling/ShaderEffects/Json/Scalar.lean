import ShaderEffects.Decimal.Scaled
import ShaderEffects.Json.Cursor

/-!
# Words, strings and numbers

The values without parts, as they are written. What is skipped is held to the
grammar alone: a skipped string may hold half of a surrogate pair, and a skipped
number may be of any size.
-/

namespace ShaderEffects.Json

/-- The value of a hexadecimal digit. -/
def hexValue? (c : Char) : Option Nat :=
  if '0' ≤ c && c ≤ '9' then some (c.toNat - '0'.toNat)
  else if 'a' ≤ c && c ≤ 'f' then some (c.toNat - 'a'.toNat + 10)
  else if 'A' ≤ c && c ≤ 'F' then some (c.toNat - 'A'.toNat + 10)
  else none

/-- The character that a letter stands for after a backslash. -/
def unescape? : Char → Option Char
  | '"' => some '"'
  | '\\' => some '\\'
  | '/' => some '/'
  | 'b' => some '\x08'
  | 'f' => some '\x0c'
  | 'n' => some '\n'
  | 'r' => some '\r'
  | 't' => some '\t'
  | _ => none

/-- Whether a 16-bit unit is the first half of a surrogate pair. -/
def isHighSurrogate (n : Nat) : Bool := 0xD800 ≤ n && n ≤ 0xDBFF

/-- Whether a 16-bit unit is the second half of a surrogate pair. -/
def isLowSurrogate (n : Nat) : Bool := 0xDC00 ≤ n && n ≤ 0xDFFF

/-- Whether a text is shorter than a number of bytes. -/
def shorterThan : Nat → List Char → Bool
  | 0, _ => false
  | _ + 1, [] => true
  | n + 1, c :: rest => shorterThan (n + 1 - c.utf8Size) rest

/-- A number as it is written, as lists of digits. -/
structure NumberLiteral where
  negative : Bool
  integer : List Nat
  fraction : Option (List Nat)
  /-- Whether the exponent is negative, and its digits. -/
  exponent : Option (Bool × List Nat)
deriving DecidableEq, Repr

namespace NumberLiteral

/-- The value of a number written without a point and without an exponent. A
zero with a sign is not an integer. -/
def ofInteger (negative : Bool) (m : Nat) : Number :=
  if !negative then .integer m
  else if m = 0 || Nat.pow 2 63 < m then .float (-(Float.ofNat m))
  else .integer (-(m : Int))

/-- The value of a number, unless it is too large for a float. -/
def value? (l : NumberLiteral) : Option Number :=
  let (m, dropped) := Decimal.takeInteger 0 l.integer
  if l.fraction.isNone && l.exponent.isNone && dropped = 0 then
    some (ofInteger l.negative m)
  else
    let (m, taken) := Decimal.takeFraction m (l.fraction.getD [])
    let shift : Int :=
      match l.exponent with
      | none => 0
      | some (below, digits) =>
        if below then -(Decimal.digitsValue digits : Int) else Decimal.digitsValue digits
    (Decimal.scale? m ((dropped : Int) - taken + shift)).map fun x =>
      .float (if l.negative then -x else x)

/-- The number of digits behind the one that takes a number to `2 ^ 31`. -/
def digitsBeyond (m : Nat) : List Nat → Nat
  | [] => 0
  | d :: rest =>
    if Nat.pow 2 31 ≤ 10 * m + d then rest.length else digitsBeyond (10 * m + d) rest

/-- The digits of the exponent that are not looked at, because those before them
exceed 31 bits. -/
def unread (l : NumberLiteral) : Nat :=
  match l.exponent with
  | none => 0
  | some (_, digits) => digitsBeyond 0 digits

end NumberLiteral

namespace Scan

/-- Goes past the remaining letters of a word. -/
def word : List Char → Scan Unit
  | [] => return
  | letter :: letters => do
    match ← peek? with
    | none => failAfter 0 .endInValue
    | some c => if c = letter then do advance; word letters else failAfter 1 .badWord

/-- Goes past four hexadecimal digits. A text of fewer than four bytes ends too
early, whatever it holds. -/
def unit : Scan Nat := fun cursor =>
  let stop (fault : Fault) := failAfter 4 fault cursor
  match cursor.rest with
  | a :: b :: c :: d :: _ =>
    match hexValue? a, hexValue? b, hexValue? c, hexValue? d with
    | some a, some b, some c, some d =>
      .ok (((a * 16 + b) * 16 + c) * 16 + d, cursor.next.next.next.next)
    | _, _, _, _ => stop .badEscape
  | short => stop (if shorterThan 4 short then .endInString else .badEscape)

/-- Goes past a character of the escape that the second half of a surrogate pair
needs. -/
def pairing (c : Char) : Scan Unit := do
  match ← peek? with
  | none => failAfter 0 .endInString
  | some d => if d = c then advance else failAfter 1 .cutSurrogate

/-- Reads a `\u` escape from its digits on. Two surrogates in the right order
make one character; any other surrogate is a fault. -/
def unicode : Scan Char := do
  let n ← unit
  if isLowSurrogate n then failAfter 0 .loneSurrogate
  else if isHighSurrogate n then
    pairing '\\'
    pairing 'u'
    let k ← unit
    if isLowSurrogate k then
      return Char.ofNat (0x10000 + (n - 0xD800) * 0x400 + (k - 0xDC00))
    else failAfter 0 .loneSurrogate
  else return Char.ofNat n

/-- Goes past an escape, after its backslash. A `\u` escape is left to the given
scan, and any other has its character. -/
def escape {α : Type} (unicode : Scan α) (single : Char → α) : Scan α := do
  match ← peek? with
  | none => failAfter 0 .endInString
  | some 'u' => do
    advance
    unicode
  | some letter =>
    match unescape? letter with
    | some c => do
      advance
      return single c
    | none => failAfter 1 .badEscape

/-- Reads the rest of a string, after its opening quote. -/
def stringRest : List Char → Scan (List Char)
  | [] => failAfter 0 .endInString
  | _ :: bound => do
    match ← peek? with
    | none => failAfter 0 .endInString
    | some c =>
      if c = '"' then do
        advance
        return []
      else if c = '\\' then do
        advance
        let c ← escape unicode id
        return c :: (← stringRest bound)
      else if c.toNat < 0x20 then failAfter 1 .controlCharacter
      else do
        advance
        return c :: (← stringRest bound)

/-- Reads a string. -/
def string : Scan String := do
  advance
  return String.ofList (← stringRest (← rest))

/-- Goes past the rest of a string, after its opening quote. -/
def skipStringRest : List Char → Scan Unit
  | [] => failAfter 0 .endInString
  | _ :: bound => do
    match ← peek? with
    | none => failAfter 0 .endInString
    | some c =>
      if c = '"' then advance
      else if c = '\\' then do
        advance
        escape (do let _ ← unit) fun _ => ()
        skipStringRest bound
      else if c.toNat < 0x20 then failAfter 0 .controlCharacter
      else do
        advance
        skipStringRest bound

/-- Goes past a string. -/
def skipString : Scan Unit := do
  advance
  skipStringRest (← rest)

/-- Goes past digits. -/
def digits : Scan (List Nat) :=
  return (← takeWhile Char.isDigit).map fun c => c.toNat - '0'.toNat

/-- Goes past one digit or more. -/
def someDigits (ended : Fault) : Scan (List Nat) := do
  match ← digits with
  | [] => failAfter 1 (if (← peek?).isNone then ended else .badNumber)
  | ds => return ds

/-- Goes past an integer part: a zero alone, or digits that do not start with
one. -/
def integerPart (ended : Fault) : Scan (List Nat) := do
  match ← peek? with
  | some '0' => do
    advance
    match ← peek? with
    | some c => if c.isDigit then failAfter 1 .badNumber else return [0]
    | none => return [0]
  | _ => someDigits ended

/-- Goes past a fraction, if there is one. -/
def fractionPart (ended : Fault) : Scan (Option (List Nat)) := do
  match ← peek? with
  | some '.' => do
    advance
    return some (← someDigits ended)
  | _ => return none

/-- Goes past a sign, and says whether it is negative. -/
def sign : Scan Bool := do
  match ← peek? with
  | some '+' => do
    advance
    return false
  | some '-' => do
    advance
    return true
  | _ => return false

/-- Goes past an exponent, if there is one. -/
def exponentPart (ended : Fault) : Scan (Option (Bool × List Nat)) := do
  match ← peek? with
  | some c =>
    if c = 'e' || c = 'E' then do
      advance
      let negative ← sign
      return some (negative, ← someDigits ended)
    else return none
  | none => return none

/-- Goes past a number. What it means that the text ends where a digit belongs
is left to the caller. -/
def literal (ended : Fault) : Scan NumberLiteral := do
  let negative := (← peek?) == some '-'
  if negative then advance
  let integer ← integerPart ended
  let fraction ← fractionPart ended
  let exponent ← exponentPart ended
  return ⟨negative, integer, fraction, exponent⟩

/-- Stops behind a number that is too large. This shows as soon as its exponent
exceeds 31 bits, and otherwise at its end. -/
def failOutOfRange {α : Type} (l : NumberLiteral) : Scan α := fun c =>
  .error ⟨.fault .numberOutOfRange, ⟨c.position.line, c.position.column - l.unread⟩⟩

/-- Reads a number. -/
def number : Scan Number := do
  let l ← literal .endInValue
  match l.value? with
  | some n => return n
  | none => failOutOfRange l

/-- Goes past a number. -/
def skipNumber : Scan Unit := do
  let _ ← literal .badNumber

/-- Goes past a value without parts; strings and numbers are left to the given
scans. -/
def scalarBy {α : Type} (string number : Scan α) (other : Scalar → α) : Scan α := do
  match ← peek? with
  | some 'n' => do
    advance
    word ['u', 'l', 'l']
    return other .null
  | some 't' => do
    advance
    word ['r', 'u', 'e']
    return other (.boolean true)
  | some 'f' => do
    advance
    word ['a', 'l', 's', 'e']
    return other (.boolean false)
  | some '"' => string
  | some c => if c = '-' || c.isDigit then number else failAfter 1 .noValue
  | none => failAfter 0 .noValue

/-- Reads a value without parts. -/
def scalar : Scan Scalar :=
  scalarBy (return .string (← string)) (return .number (← number)) id

/-- Goes past a value without parts. -/
def skipScalar : Scan Unit := scalarBy skipString skipNumber fun _ => ()

end Scan

end ShaderEffects.Json
