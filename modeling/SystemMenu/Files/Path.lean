import SystemMenu.Text.Blank

/-!
# Paths

A path is a text whose parts are separated by slashes. Search paths list directories, separated by
semicolons.

## Main declarations

* `join`: a path inside a directory.
* `components`: the parts that say something.
* `parent`: the path without its last part.
* `searchDirectories`: the directories of a search path.
-/

namespace SystemMenu.Path

/-- The path `file` inside a directory: without a directory, or from the root, it stands alone. -/
def join (directory file : String) : String :=
  if directory = "" ∨ file.toList.head? = some '/' then file
  else if directory.toList.getLast? = some '/' then directory ++ file
  else directory ++ "/" ++ file

/-- The parts of a path; empty parts and single dots say nothing. -/
def components (path : String) : List String :=
  ((Text.pieces (· = '/') path.toList).map String.ofList).filter fun part =>
    part ≠ "" ∧ part ≠ "."

/-- The path starts at the root of all files. -/
def isAbsolute (path : String) : Bool := path.toList.head? = some '/'

/-- The path can only lead to a directory, because of how it ends. -/
def namesDirectory (path : String) : Bool :=
  match (Text.pieces (· = '/') path.toList).getLast? with
  | some last => last = [] || last = ['.']
  | none => false

/-- The text of the path without its last part. A part `.` at the front is kept. -/
def parent (path : String) : String :=
  let parts := (Text.pieces (· = '/') path.toList).map String.ofList
  let front := parts.reverse.dropWhile fun part => part = "" ∨ part = "."
  let rest := (front.drop 1).dropWhile fun part => part = "" ∨ part = "."
  if rest.isEmpty then
    if isAbsolute path then "/" else if parts.head? = some "." ∧ front ≠ [] then "." else ""
  else "/".intercalate rest.reverse

/-- The directories of a search path: its pieces without the blanks around them, empty ones left
out. -/
def searchDirectories (searchPath : String) : List String :=
  ((Text.pieces (· = ';') searchPath.toList).map fun piece =>
    String.ofList (Text.trim piece)).filter (· ≠ "")

end SystemMenu.Path
