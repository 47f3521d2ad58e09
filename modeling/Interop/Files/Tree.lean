import Interop.Files.Path

/-!
# Directory trees

The files and directories below one directory, as far as a run sees and changes them. An entry is
found by the names that lead to it, and every directory on the way to an entry is an entry too.

A file is written at once or not at all: its content goes to a draft beside it first, which then
takes its place. Directories that are made for it stay, even if it cannot be written.
-/

namespace Interop

/-- What stands at a place of the tree. -/
inductive FileEntry where
  | file (content : String)
  | directory
deriving DecidableEq, Inhabited

/-- Why a file is not written. -/
inductive WriteError where
  /-- The directory of the file cannot be made. -/
  | directory (path : String)
  /-- The file cannot be put in its place. -/
  | file (path : String)
deriving DecidableEq, Inhabited

namespace WriteError

/-- The error as one line of text. -/
def text : WriteError → String
  | .directory path => "cannot make the directory of " ++ path
  | .file path => "cannot write " ++ path

end WriteError

/-- The entries below a directory, each with the names that lead to it. -/
structure FileTree where
  entries : List (List String × FileEntry)

namespace FileTree

/-- A directory without entries. -/
def empty : FileTree := ⟨[]⟩

instance : EmptyCollection FileTree := ⟨empty⟩
instance : Inhabited FileTree := ⟨empty⟩

variable (tree : FileTree)

/-- What stands at a place. The directory itself is always there. -/
def entry? (names : List String) : Option FileEntry :=
  if names = [] then some .directory else tree.entries.lookup names

/-- Whether there is a directory at a place. -/
def hasDirectory (names : List String) : Bool := tree.entry? names = some .directory

/-- Whether a path leads to a directory. -/
def isDirectory (path : String) : Bool :=
  path ≠ "" && Path.isFollowed path && tree.hasDirectory (Path.names path)

/-- The content of the file that a path leads to. -/
def read? (path : String) : Option String :=
  match tree.entry? (Path.names path) with
  | some (.file content) =>
    if Path.namesDirectory path || !Path.isFollowed path then none else some content
  | _ => none

/-- Put an entry at a place, whatever stood there. -/
def put (names : List String) (entry : FileEntry) : FileTree :=
  ⟨tree.entries.filter (·.1 ≠ names) ++ [(names, entry)]⟩

/-- Make sure that there is a directory at a place, reached from the directory at `above`. A file
on the way makes it fail, and so does a name that no entry can bear; the answer then is the tree
with the directories that were made before. -/
def makeDirectoriesFrom (tree : FileTree) (above : List String) :
    List String → Except FileTree FileTree
  | [] => .ok tree
  | name :: names =>
    let here := above ++ [name]
    match tree.entry? here with
    | some (.file _) => .error tree
    | some .directory => makeDirectoriesFrom tree here names
    | none =>
      if Path.canBeName name then makeDirectoriesFrom (tree.put here .directory) here names
      else .error tree

/-- Make sure that there is a directory at a place. -/
def makeDirectories (names : List String) : Except FileTree FileTree :=
  tree.makeDirectoriesFrom [] names

/-- Make the directory that a path is to stand in. If that directory's own path cannot be followed,
none is made. -/
def prepare (path : String) : Except FileTree FileTree :=
  if Path.isFollowed (Path.parent path) then tree.makeDirectories (Path.names path).dropLast
  else .error tree

/-- Put a file at a place, in a directory that is there. -/
def putFile? (names : List String) (content : String) : Option FileTree :=
  match names.getLast? with
  | some name =>
    if Path.canBeName name && !tree.hasDirectory names then
      some (tree.put names (.file content))
    else none
  | none => none

/-- Put the file that a path leads to, instead of the one that is there. A path written as that of
a directory names no file. -/
def replace? (path content : String) : Option FileTree :=
  if Path.namesDirectory path || !Path.isFollowed path then none
  else tree.putFile? (Path.names path) content

/-- The name of a file while it is written. -/
def draftName : String := ".tmp000000"

/-- Write a file, for which directories are made where they are missing. -/
def write (path content : String) : Except WriteError Unit × FileTree :=
  match tree.prepare path with
  | .error left => (.error (.directory path), left)
  | .ok prepared =>
    let written :=
      if Path.isFollowed (Path.beside path draftName) then prepared.replace? path content
      else none
    match written with
    | none => (.error (.file path), prepared)
    | some tree => (.ok (), tree)

/-- The entries strictly below a place, each with the names that lead to it from there. -/
def below (names : List String) : List (List String × FileEntry) :=
  tree.entries.filterMap fun (place, entry) =>
    match names.isPrefixOf? place with
    | some [] | none => none
    | some rest => some (rest, entry)

/-- All paths of the tree in order, those of directories with a slash at the end. -/
def list : List String :=
  (tree.entries.map fun (names, entry) =>
    let path := "/".intercalate names
    match entry with
    | .file _ => path
    | .directory => path ++ "/").mergeSort fun left right => decide (left ≤ right)

/-- The paths of the files below a directory whose names satisfy a condition. They are ordered by
their components. Files in a directory whose path cannot be followed are not found. -/
def filesBelow (directory : String) (isWanted : String → Bool) : List String :=
  let wanted := (tree.below (Path.names directory)).filterMap fun (names, entry) =>
    match entry, names.getLast? with
    | .file _, some name => if isWanted name then some names else none
    | _, _ => none
  let paths := (wanted.mergeSort Path.precedes).map fun names =>
    Path.join directory ("/".intercalate names)
  paths.filter fun path => Path.isFollowed (Path.parent path)

end FileTree

end Interop
