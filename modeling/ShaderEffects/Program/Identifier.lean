/-!
# Identifiers

The names a program's source mentions. A source is cut at every character that
cannot stand in a name; the pieces that begin with a letter or an underscore
are its identifiers.
-/

namespace ShaderEffects.Identifier

/-- Whether a character can stand in a name: an ASCII letter or digit, or an
underscore. -/
def isWord (c : Char) : Bool := c.isAlphanum || c = '_'

/-- Whether a name can begin with a character. -/
def isInitial (c : Char) : Bool := c.isAlpha || c = '_'

/-- The pieces of a text between characters that cannot stand in a name. -/
def pieces (text : List Char) : List (List Char) :=
  text.splitOnP fun c => !isWord c

/-- Whether a piece is a name. -/
def isName : List Char → Bool
  | [] => false
  | c :: _ => isInitial c

/-- The identifiers of a text, as often as they occur. -/
def all (text : List Char) : List (List Char) :=
  (pieces text).filter isName

/-- Whether a source mentions a name. -/
def occurs (name source : String) : Bool :=
  (all source.toList).contains name.toList

example : all "f(x1, 2y) + _z".toList = ["f".toList, "x1".toList, "_z".toList] := by
  decide +kernel

end ShaderEffects.Identifier
