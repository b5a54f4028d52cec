import ShaderEffects.Json.Error

/-!
# Scanning a JSON text

A scan goes through a text from left to right and ends with a result or with the
first reason to stop. Places are known to the byte, since a fault may show in
the middle of a character.
-/

namespace ShaderEffects.Json

/-- The place behind a character. -/
def Position.after (p : Position) (c : Char) : Position :=
  if c = '\n' then ⟨p.line + 1, 0⟩ else ⟨p.line, p.column + c.utf8Size⟩

/-- The place a number of bytes further on, or the end of the text. -/
def Position.afterBytes (p : Position) : Nat → List Char → Position
  | 0, _ => p
  | _ + 1, [] => p
  | n + 1, c :: rest =>
    if n + 1 < c.utf8Size then ⟨p.line, p.column + (n + 1)⟩
    else (p.after c).afterBytes (n + 1 - c.utf8Size) rest

example : ({} : Position).afterBytes 1 ['é', '\n'] = ⟨1, 1⟩ := by decide

example : ({} : Position).afterBytes 3 ['é', '\n'] = ⟨2, 0⟩ := by decide

/-- What is left of a text, and the place where it starts. -/
structure Cursor where
  rest : List Char
  position : Position := {}
deriving DecidableEq, Repr

/-- The cursor behind the next character. -/
def Cursor.next (c : Cursor) : Cursor :=
  match c.rest with
  | [] => c
  | first :: rest => ⟨rest, c.position.after first⟩

/-- The characters up to the first that is not of a class, and the cursor there. -/
def Cursor.span (inClass : Char → Bool) (c : Cursor) : List Char × Cursor :=
  let taken := c.rest.takeWhile inClass
  (taken, ⟨c.rest.dropWhile inClass, taken.foldl Position.after c.position⟩)

/-- Goes through a text from a cursor on. -/
abbrev Scan := StateT Cursor (Except ReadError)

/-- The four characters that may stand between the tokens of a text. -/
def isSpace (c : Char) : Bool :=
  c = ' ' || c = '\n' || c = '\t' || c = '\r'

namespace Scan

/-- Stops at a fault that shows with the next bytes, as many as are given. -/
def failAfter {α : Type} (bytes : Nat) (fault : Fault) : Scan α := fun c =>
  .error ⟨.fault fault, c.position.afterBytes bytes c.rest⟩

/-- Stops because what was read has not the wanted shape. -/
def refuse {α : Type} (mismatch : Mismatch) : Scan α := fun c =>
  .error ⟨.mismatch mismatch, c.position⟩

/-- The characters that are left. A loop whose steps go past one character or
more takes them for its bound, and drops one with each step. -/
def rest : Scan (List Char) := fun c => .ok (c.rest, c)

/-- The next character, which stays where it is. -/
def peek? : Scan (Option Char) := fun c => .ok (c.rest.head?, c)

/-- Goes past the next character. -/
def advance : Scan Unit := fun c => .ok ((), c.next)

/-- Goes past the characters of a class. -/
def takeWhile (inClass : Char → Bool) : Scan (List Char) := fun c => .ok (c.span inClass)

/-- Goes past white space to the next token, and shows its first character. -/
def token? : Scan (Option Char) := do
  let _ ← takeWhile isSpace
  peek?

/-- Goes past white space to the next token; the text must not end there. -/
def token (ended : Fault) : Scan Char := do
  match ← token? with
  | some c => return c
  | none => failAfter 0 ended

end Scan

end ShaderEffects.Json
