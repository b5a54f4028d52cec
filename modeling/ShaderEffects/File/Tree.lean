import ShaderEffects.Table
import ShaderEffects.Text.Quoted

/-!
# File trees

Files and directories, by the names that lead to them from the root. A path is
walked name by name, from the root if it is absolute and otherwise from the
working directory, and each step must start from a directory.
-/

namespace ShaderEffects

/-- Why a file cannot be read. -/
inductive FileFault where
  | notFound
  | notDirectory
  | isDirectory
  /-- A path holds a zero character. -/
  | badName
  | nameTooLong
  /-- The bytes of a file are not text. -/
  | badText
deriving DecidableEq, Repr

/-- The wording of such a reason. -/
def FileFault.message : FileFault → String
  | .notFound => "No such file or directory (os error 2)"
  | .notDirectory => "Not a directory (os error 20)"
  | .isDirectory => "Is a directory (os error 21)"
  | .badName => "file name contained an unexpected NUL byte"
  | .nameTooLong => "File name too long (os error 36)"
  | .badText => "stream did not contain valid UTF-8"

/-- How a message begins that says why a file cannot be read. -/
def unreadableText (path : String) : String := "Failed to read " ++ Text.quoted path

/-- Why a file cannot be read, with its path. -/
def FileFault.report (fault : FileFault) (path : String) : String :=
  unreadableText path ++ ": " ++ fault.message

/-- What stands under a name. -/
inductive FileEntry where
  | file (content : ByteArray)
  | directory

/-- A place in a file tree: the names that lead to it from the root. -/
abbrev Place := List String

/-- Files and directories. -/
structure FileTree where
  entries : Table Place FileEntry := ∅
  /-- Where relative paths start. This directory is there, and so are those above it. -/
  workingDirectory : Place := []

namespace FileTree

/-- The names in a path. -/
def names (path : String) : List String :=
  (path.toList.splitOn '/').map String.ofList

/-- What stands at a place. -/
def entry? (tree : FileTree) (place : Place) : Option FileEntry :=
  if place.isPrefixOf tree.workingDirectory then some .directory else tree.entries.get? place

/-- Goes from a directory to the entry of one name. Above the root there is only the
root. -/
def enter (tree : FileTree) (name : String) (place : Place) : Except FileFault Place :=
  if name = "" ∨ name = "." then .ok place
  else if name = ".." then .ok place.dropLast
  else if 255 < name.utf8ByteSize then .error .nameTooLong
  else if (tree.entry? (place ++ [name])).isSome then .ok (place ++ [name])
  else .error .notFound

/-- Goes one name further, which takes a directory to start from. -/
def step (tree : FileTree) (place : Place) (name : String) : Except FileFault Place :=
  match tree.entry? place with
  | none => .error .notFound
  | some (.file _) => .error .notDirectory
  | some .directory => tree.enter name place

/-- Follows names from a place. -/
def walk (tree : FileTree) : Place → List String → Except FileFault Place
  | place, [] => .ok place
  | place, name :: rest =>
    match tree.step place name with
    | .error fault => .error fault
    | .ok place => tree.walk place rest

/-- Whether a path starts at the root. -/
def isAbsolute (path : String) : Bool :=
  path.toList.head? = some '/'

/-- The place where a path starts. -/
def start (tree : FileTree) (path : String) : Place :=
  if isAbsolute path then [] else tree.workingDirectory

/-- The place that a path leads to. -/
def follow (tree : FileTree) (path : String) : Except FileFault Place :=
  if path.toList.contains '\x00' then .error .badName
  else if path = "" then .error .notFound
  else if 4095 < path.utf8ByteSize then .error .nameTooLong
  else tree.walk (tree.start path) (names path)

/-- What a path leads to. -/
def find (tree : FileTree) (path : String) : Except FileFault FileEntry :=
  match tree.follow path with
  | .error fault => .error fault
  | .ok place =>
    match tree.entry? place with
    | none => .error .notFound
    | some entry => .ok entry

/-- Whether a path leads anywhere. -/
def contains (tree : FileTree) (path : String) : Bool :=
  (tree.find path).isOk

/-- Whether a path leads to a file. -/
def isFile (tree : FileTree) (path : String) : Bool :=
  match tree.find path with
  | .ok (.file _) => true
  | _ => false

/-- The bytes of a file. -/
def read (tree : FileTree) (path : String) : Except FileFault ByteArray :=
  match tree.find path with
  | .ok (.file content) => .ok content
  | .ok .directory => .error .isDirectory
  | .error fault => .error fault

/-- The text of a file. -/
def readText (tree : FileTree) (path : String) : Except FileFault String :=
  match tree.read path with
  | .error fault => .error fault
  | .ok content =>
    match String.fromUTF8? content with
    | some text => .ok text
    | none => .error .badText

/-- Where names lead from a place that may also go up. -/
def settled (place : Place) (names : List String) : Place :=
  names.foldl (fun place name => if name = ".." then place.dropLast else place ++ [name]) place

/-- Puts an entry where a path leads, and directories on the way to it where there is
nothing yet. -/
def put (tree : FileTree) (path : String) (entry : FileEntry) : FileTree :=
  let way := (names path).filter fun name => name ≠ "" ∧ name ≠ "."
  let above := (List.range way.length).map fun n => settled (tree.start path) (way.take n)
  let entries := above.foldl
    (fun entries place => if entries.contains place then entries else entries.insert place .directory)
    tree.entries
  { tree with entries := entries.insert (settled (tree.start path) way) entry }

/-- The tree with an entry under each path. -/
def ofList (workingDirectory : Place) (entries : List (String × FileEntry)) : FileTree :=
  entries.foldl (fun tree (path, entry) => tree.put path entry) { workingDirectory }

end FileTree

end ShaderEffects
