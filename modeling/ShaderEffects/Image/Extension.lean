import ShaderEffects.Image.Format

/-!
# Extensions of file names

What stands behind the last dot of a file's name, which tells the format of an
image file.
-/

namespace ShaderEffects

/-- The last name in a path, unless the path goes up there. Slashes at the end
and names that stay in place do not count. -/
def fileName? (path : String) : Option (List Char) :=
  match ((path.toList.splitOn '/').filter fun name => name ≠ [] ∧ name ≠ ['.']).getLast? with
  | some ['.', '.'] => none
  | name => name

/-- What stands after the last dot of a file's name, unless the name begins with
that dot or ends with it. -/
def extension? (path : String) : Option String :=
  match fileName? path with
  | none => none
  | some name =>
    let stem := (name.reverse.dropWhile (· ≠ '.')).drop 1
    let extension := (name.reverse.takeWhile (· ≠ '.')).reverse
    if stem = [] ∨ extension = [] then none else some (String.ofList extension)

example : extension? "tex/a.b.PNG" = some "PNG" := by decide +kernel

example : extension? "tex.d/.png" = none ∧ extension? "tex.d/./" = some "d" := by decide +kernel

end ShaderEffects
