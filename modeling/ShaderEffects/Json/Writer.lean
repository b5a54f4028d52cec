import ShaderEffects.Json.Cursor

/-!
# Writing JSON

Strings, truth values, arrays and objects as texts. What may stand in a string as it is does;
every other character is escaped, by a letter if it has one. Where white space stands between
the tokens of a text is up to a layout.
-/

namespace ShaderEffects.Json

/-- Where a text has white space. -/
structure Layout where
  /-- What stands before a part of a container and before its end, given how many containers
  are open there. -/
  line : Nat → List Char
  /-- What stands behind the colon of a member. -/
  gap : List Char
  isSpace_line : ∀ depth, ∀ c ∈ line depth, isSpace c = true
  isSpace_gap : ∀ c ∈ gap, isSpace c = true

namespace Layout

/-- No white space. -/
def compact : Layout where
  line _ := []
  gap := []
  isSpace_line := by simp
  isSpace_gap := by simp

/-- One part a line, indented by two blanks for each container. -/
def indented : Layout where
  line depth := '\n' :: List.replicate (2 * depth) ' '
  gap := [' ']
  isSpace_line := by
    intro depth c hc
    rcases List.mem_cons.mp hc with rfl | hc
    · rfl
    · rw [List.eq_of_mem_replicate hc]
      rfl
  isSpace_gap := by simp [isSpace]

end Layout

namespace Write

/-- The hexadecimal digit of a value below sixteen. -/
def hexDigit (n : Nat) : Char :=
  if n < 10 then Char.ofNat ('0'.toNat + n) else Char.ofNat ('a'.toNat + (n - 10))

/-- A character inside a string. -/
def character (c : Char) : List Char :=
  match c with
  | '"' => ['\\', '"']
  | '\\' => ['\\', '\\']
  | '\x08' => ['\\', 'b']
  | '\x0c' => ['\\', 'f']
  | '\n' => ['\\', 'n']
  | '\r' => ['\\', 'r']
  | '\t' => ['\\', 't']
  | c =>
    if c.toNat < 0x20 then ['\\', 'u', '0', '0', hexDigit (c.toNat / 16), hexDigit (c.toNat % 16)]
    else [c]

/-- A string. -/
def string (s : String) : List Char :=
  '"' :: s.toList.flatMap character ++ ['"']

/-- A truth value. -/
def boolean (b : Bool) : List Char :=
  if b then ['t', 'r', 'u', 'e'] else ['f', 'a', 'l', 's', 'e']

/-- Parts of a container, all but the first of them behind a comma. -/
def parts (line : List Char) : Bool → List (List Char) → List Char
  | _, [] => []
  | first, part :: rest => (if first then [] else [',']) ++ line ++ part ++ parts line false rest

/-- A container in which `depth` others are open around it. The parts are written already. -/
def container (layout : Layout) (opening closing : Char) (depth : Nat) (ps : List (List Char)) :
    List Char :=
  opening :: parts (layout.line (depth + 1)) true ps
    ++ (if ps.isEmpty then [] else layout.line depth) ++ [closing]

/-- An array. -/
def array (layout : Layout) (depth : Nat) (items : List (List Char)) : List Char :=
  container layout '[' ']' depth items

/-- A member of an object. -/
def member (layout : Layout) (m : String × List Char) : List Char :=
  string m.1 ++ ':' :: layout.gap ++ m.2

/-- An object. -/
def object (layout : Layout) (depth : Nat) (members : List (String × List Char)) : List Char :=
  container layout '\x7b' '\x7d' depth (members.map (member layout))

example :
    String.ofList (object .indented 0 [("a", array .indented 1 [string "\n", string "é"])]) =
      "\x7b\n  \"a\": [\n    \"\\n\",\n    \"é\"\n  ]\n\x7d" := by
  decide +kernel

end Write

end ShaderEffects.Json
