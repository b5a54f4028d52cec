import ShaderEffects.Decimal.Shortest
import ShaderEffects.Text.Quoted

/-!
# Why a JSON text cannot be read

A text is refused because it breaks the grammar, which is a fault, or because
well-formed data has not the wanted shape, which is a mismatch. Either way the
place is known.
-/

namespace ShaderEffects.Json

/-- What is wrong with a text at some place. -/
inductive Fault where
  | endInList
  | endInObject
  | endInString
  | endInValue
  | noColon
  | noItemEnd
  | noMemberEnd
  | badWord
  | noValue
  | badEscape
  | badNumber
  | numberOutOfRange
  | controlCharacter
  | keyNotString
  /-- A half of a surrogate pair without the other half. -/
  | loneSurrogate
  | trailingComma
  | trailingText
  /-- The first half of a surrogate pair that no escape follows. -/
  | cutSurrogate
  | tooDeep
deriving DecidableEq, Repr

namespace Fault

/-- Whether the text ends too early. -/
def isEnd : Fault → Bool
  | .endInList | .endInObject | .endInString | .endInValue => true
  | _ => false

/-- The wording of a fault. -/
def message : Fault → String
  | .endInList => "EOF while parsing a list"
  | .endInObject => "EOF while parsing an object"
  | .endInString => "EOF while parsing a string"
  | .endInValue => "EOF while parsing a value"
  | .noColon => "expected `:`"
  | .noItemEnd => "expected `,` or `]`"
  | .noMemberEnd => "expected `,` or `\x7d`"
  | .badWord => "expected ident"
  | .noValue => "expected value"
  | .badEscape => "invalid escape"
  | .badNumber => "invalid number"
  | .numberOutOfRange => "number out of range"
  | .controlCharacter => "control character (\\u0000-\\u001F) found while parsing a string"
  | .keyNotString => "key must be a string"
  | .loneSurrogate => "lone leading surrogate in hex escape"
  | .trailingComma => "trailing comma"
  | .trailingText => "trailing characters"
  | .cutSurrogate => "unexpected end of hex escape"
  | .tooDeep => "recursion limit exceeded"

end Fault

/-- The value of a number. Integers are those of 64 bits, signed or unsigned. -/
inductive Number where
  | integer (n : Int)
  | float (x : Float)

/-- A value without parts. -/
inductive Scalar where
  | null
  | boolean (b : Bool)
  | number (n : Number)
  | string (s : String)

/-- How a message names a value without parts. -/
def Scalar.text : Scalar → String
  | .null => "null"
  | .boolean b => "boolean `" ++ toString b ++ "`"
  | .number (.integer n) => "integer `" ++ toString n ++ "`"
  | .number (.float x) => "floating point `" ++ Decimal.shortestText x ++ "`"
  | .string s => "string " ++ Text.quoted s

/-- What stands where something else was expected. An array or object is not
looked into. -/
inductive Found where
  | scalar (s : Scalar)
  | sequence
  | map

/-- How a message names what was found. -/
def Found.text : Found → String
  | .scalar s => s.text
  | .sequence => "sequence"
  | .map => "map"

/-- Why well-formed data has not the shape a reader wants. -/
inductive Mismatch where
  | wrongKind (found : Found) (expected : String)
  | unknownVariant (name : String) (variants : List String)
  | duplicateField (name : String)
  | missingField (name : String)
  | tooShort (length : Nat) (expected : String)
  /-- None of the shapes a value may take fits. -/
  | noVariant (type : String)

/-- The wording of a mismatch. -/
def Mismatch.message : Mismatch → String
  | .wrongKind found expected => "invalid type: " ++ found.text ++ ", expected " ++ expected
  | .unknownVariant name variants =>
    "unknown variant `" ++ name ++ "`, expected one of "
      ++ ", ".intercalate (variants.map fun v => "`" ++ v ++ "`")
  | .duplicateField name => "duplicate field `" ++ name ++ "`"
  | .missingField name => "missing field `" ++ name ++ "`"
  | .tooShort length expected =>
    "invalid length " ++ toString length ++ ", expected " ++ expected
  | .noVariant type => "data did not match any variant of untagged enum " ++ type

/-- A place in a text. Lines count from one; the column counts the bytes of the
line that stand before the place. -/
structure Position where
  line : Nat := 1
  column : Nat := 0
deriving DecidableEq, Repr

/-- How a message names a place. -/
def Position.text (p : Position) : String :=
  "line " ++ toString p.line ++ " column " ++ toString p.column

/-- What keeps a text from being read. -/
inductive Obstacle where
  | fault (fault : Fault)
  | mismatch (mismatch : Mismatch)

/-- The wording of such a reason. -/
def Obstacle.message : Obstacle → String
  | .fault f => f.message
  | .mismatch m => m.message

/-- Why a text could not be read, and where that showed. -/
structure ReadError where
  obstacle : Obstacle
  position : Position

/-- The wording of the reason. -/
def ReadError.message (e : ReadError) : String := e.obstacle.message

/-- The wording of the reason, with the place. -/
def ReadError.report (e : ReadError) : String := e.message ++ " at " ++ e.position.text

end ShaderEffects.Json
