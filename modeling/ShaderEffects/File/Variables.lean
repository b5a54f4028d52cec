/-!
# Variables in file names

A name may hold variables, which are replaced by their values before the name
is looked up. The variables are replaced one after the other, in ascending
order, so a value may bring in a variable that comes later.
-/

namespace ShaderEffects

/-- Replaces every occurrence of a text that is not empty, from left to right. -/
def replaceFrom (key value : List Char) (h : key ≠ []) : List Char → List Char
  | [] => []
  | c :: rest =>
    if key.isPrefixOf (c :: rest) then
      value ++ replaceFrom key value h ((c :: rest).drop key.length)
    else c :: replaceFrom key value h rest
termination_by text => text.length
decreasing_by
  · have := List.length_pos_iff.2 h
    simp; omega
  · simp

/-- Replaces every occurrence of a text. An empty text occurs around every
character. -/
def replaceAll (key value text : List Char) : List Char :=
  if h : key = [] then value ++ text.flatMap fun c => c :: value
  else replaceFrom key value h text

/-- Variables with their values. -/
structure Variables where
  values : List (String × String) := []
deriving Repr

namespace Variables

/-- The variables in ascending order. -/
def sorted (vars : Variables) : List (String × String) :=
  vars.values.mergeSort fun a b => a.1 ≤ b.1

/-- A name with its variables replaced. -/
def expand (vars : Variables) (name : String) : String :=
  vars.sorted.foldl
    (fun name (key, value) =>
      String.ofList (replaceAll key.toList value.toList name.toList))
    name

@[simp] theorem expand_empty (name : String) : ({} : Variables).expand name = name := by
  simp [expand, sorted]

end Variables

end ShaderEffects
