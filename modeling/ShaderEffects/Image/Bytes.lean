import ShaderEffects.Text.Quoted

/-!
# Bytes of a file

Readers take bytes from the front of a file and leave the rest to the next
reader. What a file can be refused for is left open: all that is asked is that
bytes which end too early can be told.
-/

namespace ShaderEffects

/-- Faults that can tell of bytes that end too early. -/
class Truncation (ε : Type) where
  /-- Fewer bytes were found than were needed. -/
  truncated (needed found : Nat) : ε

/-- Takes bytes from the front of a file. -/
abbrev ByteReader (ε : Type) := StateT (List UInt8) (Except ε)

namespace ByteReader

/-- The number that bytes stand for, the most significant first. -/
def number (bytes : List UInt8) : Nat := bytes.foldl (fun n b => n * 256 + b.toNat) 0

variable {ε : Type} [Truncation ε]

/-- The next bytes, as many as are given. -/
def take (n : Nat) : ByteReader ε (List UInt8) := fun bytes =>
  let (front, rest) := bytes.splitAt n
  if front.length < n then .error (Truncation.truncated n front.length) else .ok (front, rest)

/-- The next byte. -/
def byte : ByteReader ε UInt8 := fun
  | [] => .error (Truncation.truncated 1 0)
  | b :: bytes => .ok (b, bytes)

/-- The number in the next bytes, the most significant first. -/
def bigEndian (width : Nat) : ByteReader ε Nat := number <$> take width

/-- The number in the next bytes, the least significant first. -/
def littleEndian (width : Nat) : ByteReader ε Nat :=
  (fun bytes => number bytes.reverse) <$> take width

/-- The number in the next four bytes, the least significant first, which is
negative if the most significant bit is set. -/
def signed : ByteReader ε Int := (fun n : Nat => (BitVec.ofNat 32 n).toInt) <$> littleEndian 4

/-- Goes past bytes, or to the end if there are fewer. -/
def skip (n : Nat) : ByteReader ε Unit := modify fun bytes => bytes.drop n

/-- The bytes up to a line feed, which is taken too, or all if there is none.
Nothing is a line only at the end. -/
def line? : ByteReader ε (Option (List UInt8)) := fun
  | [] => .ok (none, [])
  | bytes => .ok (some (bytes.takeWhile (· ≠ 0x0A)), (bytes.dropWhile (· ≠ 0x0A)).drop 1)

end ByteReader

namespace Text

/-- A byte as two hexadecimal digits. -/
def byteDigits (b : UInt8) : String :=
  String.ofList [hexDigit (b.toNat / 16), hexDigit (b.toNat % 16)]

/-- The text with its ASCII letters in upper case. -/
def upper (s : String) : String := String.ofList (s.toList.map Char.toUpper)

/-- The hexadecimal digits of a number in upper case, without leading zeros. -/
def upperDigits (n : Nat) : String := upper (String.ofList (hexDigits n))

/-- A byte in hexadecimal notation, as `0x6E`. -/
def byteText (b : UInt8) : String := "0x" ++ upper (byteDigits b)

/-- A row of values in brackets, each with its text. -/
def row {α : Type} (text : α → String) (values : List α) : String :=
  "[" ++ ", ".intercalate (values.map text) ++ "]"

end Text

end ShaderEffects
