import ShaderEffects.File.Tree

/-!
# Finding files by name

How the name that an effect gives for a file is turned into a path: by trying
the folders of a search path, by an exact table of names, or by a rule of the
host.
-/

namespace ShaderEffects

/-- A rule that turns names into paths. -/
inductive FileLookup where
  /-- Looks for a name in each folder in turn, then in the working directory. -/
  | search (roots : List String)
  /-- Takes a path from a table. The path need not lead anywhere. -/
  | exact (paths : Table String String)
  /-- Asks the host, whose rule may also replace variables in a way of its own. -/
  | rule (find : String → Option String)

namespace FileLookup

/-- The path of a name inside a folder. -/
def join (root name : String) : String :=
  if FileTree.isAbsolute name then name
  else if root = "" ∨ root.toList.getLast? = some '/' then root ++ name
  else root ++ "/" ++ name

/-- The path of the file that a name stands for. -/
def find? (lookup : FileLookup) (tree : FileTree) (name : String) : Option String :=
  match lookup with
  | .exact paths => paths.get? name
  | .rule find => find name
  | .search roots =>
    if name = "" then none
    else if FileTree.isAbsolute name then if tree.isFile name then some name else none
    else
      match (roots.map (join · name)).find? tree.isFile with
      | some path => some path
      | none => if tree.isFile name then some name else none

end FileLookup

end ShaderEffects
