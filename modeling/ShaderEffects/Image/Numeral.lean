import ShaderEffects.Text.Blank

/-!
# Numerals in headers

Headers that are text hold whole numbers and fractions. Of a fraction it only
matters here whether it is one.
-/

namespace ShaderEffects

namespace Numeral

/-- The largest number of a word of 32 bits. -/
def wordLimit : Nat := Nat.pow 2 32 - 1

/-- Why a text is not a whole number. -/
inductive Fault where
  | empty
  | noDigit
  | tooLarge
deriving DecidableEq, Repr

/-- The wording of such a reason. -/
def Fault.message : Fault → String
  | .empty => "cannot parse integer from empty string"
  | .noDigit => "invalid digit found in string"
  | .tooLarge => "number too large to fit in target type"

/-- The value of a decimal digit. -/
def digit? (c : Char) : Option Nat :=
  if '0' ≤ c ∧ c ≤ '9' then some (c.toNat - '0'.toNat) else none

/-- A number with more digits. The first character that cannot be there decides. -/
def extend (limit : Nat) : Nat → List Char → Except Fault Nat
  | n, [] => .ok n
  | n, c :: rest =>
    match digit? c with
    | none => .error .noDigit
    | some d => if limit < n * 10 + d then .error .tooLarge else extend limit (n * 10 + d) rest

/-- A whole number of at most a limit, which may have a plus sign. -/
def whole (limit : Nat) : List Char → Except Fault Nat
  | [] => .error .empty
  | ['+'] => .error .noDigit
  | '+' :: digits => extend limit 0 digits
  | digits => extend limit 0 digits

/-- Why a text is not a fraction. -/
inductive FractionFault where
  | empty
  | malformed
deriving DecidableEq, Repr

/-- The wording of such a reason. -/
def FractionFault.message : FractionFault → String
  | .empty => "cannot parse float from empty string"
  | .malformed => "invalid float literal"

/-- The words that stand for a fraction, in lower case. -/
def words : List String := ["inf", "infinity", "nan"]

/-- The text without a sign at its front. -/
def unsigned : List Char → List Char
  | '+' :: rest => rest
  | '-' :: rest => rest
  | text => text

/-- Whether a text is the power of ten behind a fraction. -/
def isExponent : List Char → Bool
  | [] => true
  | e :: text =>
    (e = 'e' || e = 'E') && !(unsigned text).isEmpty && (unsigned text).all Char.isDigit

/-- Whether a text is digits with a point among them, of which either may be
missing, and an exponent. -/
def isDecimal (text : List Char) : Bool :=
  let whole := text.takeWhile Char.isDigit
  match text.dropWhile Char.isDigit with
  | '.' :: rest =>
    !(whole.isEmpty && (rest.takeWhile Char.isDigit).isEmpty)
      && isExponent (rest.dropWhile Char.isDigit)
  | rest => !whole.isEmpty && isExponent rest

/-- Refuses a text that is not a fraction. -/
def fraction (text : List Char) : Except FractionFault Unit :=
  if text.isEmpty then .error .empty
  else if words.contains (String.ofList ((unsigned text).map Char.toLower))
      || isDecimal (unsigned text) then .ok ()
  else .error .malformed

example : whole 255 ['+', '0', '7'] = .ok 7 := rfl

example : whole 255 ['2', '5', '6', 'x'] = .error .tooLarge := rfl

example : whole 255 ['2', '5', 'x', '6'] = .error .noDigit := rfl

example : [".5", "5.", "-1.5E-3", "+Inf"].all (fraction ·.toList |>.isOk) = true := by
  decide +kernel

example : [".", "1e", "e5", "+-1", "1_0"].any (fraction ·.toList |>.isOk) = false := by
  decide +kernel

/-- The words of a text, which are kept apart by blank characters. -/
def pieces (text : List Char) : List (List Char) :=
  (text.splitOnP Text.isBlank).filter (· ≠ [])

end Numeral

end ShaderEffects
