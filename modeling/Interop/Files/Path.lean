import Interop.Text.Split

/-!
# Paths

Relative paths, written with slashes. Two paths are the same when their components are: empty
components never count, and a single dot counts only at the start. The operations here look at
the text of a path alone; what it leads to is a matter of a `FileTree`.

The text also decides whether a path leads anywhere at all. Lengths are those of file systems,
counted in bytes.
-/

namespace Interop.Path

/-- The components of a path. A path that starts with a slash starts with that slash, and a dot
at the start is kept. -/
def components (path : String) : List String :=
  match Text.split '/' path with
  | [] => []
  | first :: rest =>
    let rest := rest.filter fun part => part ≠ "" && part ≠ "."
    if first = "" then (if path = "" then rest else "/" :: rest) else first :: rest

/-- Whether two paths are the same. -/
def same (left right : String) : Bool := components left = components right

@[simp] theorem same_self (path : String) : same path path = true := by
  simp [same]

theorem same_iff {left right : String} :
    same left right = true ↔ components left = components right := by
  simp [same]

/-- The names that lead from the start of a relative path to its end. -/
def names (path : String) : List String :=
  (components path).filter (· ≠ ".")

/-- Whether some names come before others, or are the same: the first name that differs
decides, and where none does the shorter list comes first. -/
def precedes : (left right : List String) → Bool
  | [], _ => true
  | _ :: _, [] => false
  | name :: left, other :: right =>
    if name = other then precedes left right else decide (name < other)

/-- Whether a path starts at the root. -/
def isAbsolute (path : String) : Bool := path.toList.head? = some '/'

/-- Whether some component of a path leads upwards. -/
def leadsUp (path : String) : Bool := (Text.split '/' path).contains ".."

/-- Whether a piece between slashes leads nowhere further. -/
def isIdle (piece : String) : Bool := piece = "" || piece = "."

/-- Whether a path is written as that of a directory: it is empty or ends with a slash or a dot. -/
def namesDirectory (path : String) : Bool :=
  match (Text.split '/' path).getLast? with
  | some last => isIdle last
  | none => true

/-- Whether a path can be followed. One that holds a NUL or is too long leads nowhere, whatever
its components are. -/
def isFollowed (path : String) : Bool :=
  path.utf8ByteSize ≤ 4095 && !path.toList.contains '\x00'

/-- Whether an entry of a directory can bear a name. -/
def canBeName (name : String) : Bool := name.utf8ByteSize ≤ 255

/-- A path inside a directory. -/
def join (directory name : String) : String :=
  if directory = "" then name
  else if directory.toList.getLast? = some '/' then directory ++ name
  else directory ++ "/" ++ name

/-- The path of the directory that a path stands in: what is written before its last component.
It is empty if nothing is. -/
def parent (path : String) : String :=
  match (((Text.split '/' path).reverse.dropWhile isIdle).drop 1).dropWhile isIdle with
  | [] => if isAbsolute path then "/" else ""
  | pieces => "/".intercalate pieces.reverse

/-- The path of another entry of the directory that a path stands in. -/
def beside (path name : String) : String := join (parent path) name

/-- The part of a file name after its last dot. A dot at the start of the name does not count. -/
def extension? (name : String) : Option String :=
  match (Text.split '.' name).reverse with
  | last :: before :: [] => if before = "" then none else some last
  | last :: _ :: _ => some last
  | _ => none

end Interop.Path
