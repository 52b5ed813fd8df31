import SystemMenu.Files.Path
import SystemMenu.Text.Utf8

/-!
# Files and directories

The files that the menu reads and writes, as a value. Places are lists of names from the root down;
paths lead from the home directory or, if they are absolute, from the root to a place. A file keeps its
identity: writing to it changes what an open handle reads, while removing it leaves the handle with the
old content.

## Main declarations

* `FileTree`: the places in use and the contents of all files.
* `FileTree.locate`: the place that a path leads to.
* `FileTree.openAt`, `FileTree.readHandle`, `FileTree.readBytes`, `FileTree.readText`: reading.
* `FileTree.names`: the entries of a directory.
* `FileTree.createDirectories`, `FileTree.write`, `FileTree.remove`: changes.
* `FileTree.changedFiles`: what has changed between two trees.
-/

namespace SystemMenu

open Text.Utf8 (Bytes)

/-- Why a file operation fails. -/
inductive FileError where
  | notFound
  | notADirectory
  | isADirectory
  | nameTooLong
  | invalidName
  | invalidText
  deriving Repr, DecidableEq

/-- What an operation says when it fails. -/
def FileError.message : FileError → String
  | notFound => "No such file or directory (os error 2)"
  | notADirectory => "Not a directory (os error 20)"
  | isADirectory => "Is a directory (os error 21)"
  | nameTooLong => "File name too long (os error 36)"
  | invalidName => "file name contained an unexpected NUL byte"
  | invalidText => "stream did not contain valid UTF-8"

/-- What stands at a place: a directory, or a file by its identity. -/
inductive Node where
  | directory
  | file (id : Nat)
  deriving Repr, DecidableEq

/-- The names that lead from the root to a place. -/
abbrev Place := List String

/-- A tree of files and directories. -/
structure FileTree where
  /-- Where paths that are not absolute start. -/
  home : Place
  nodes : List (Place × Node)
  contents : List Bytes
  deriving Repr

namespace FileTree

/-- A home directory with nothing in it. -/
def empty (home : Place) : FileTree where
  home := home
  nodes := (List.range home.length).map fun depth => (home.take (depth + 1), .directory)
  contents := []

/-- What stands at a place. -/
def node? (tree : FileTree) (place : Place) : Option Node :=
  if place = [] then some .directory else tree.nodes.lookup place

/-- The place where a path starts. -/
def origin (tree : FileTree) (path : String) : Place :=
  if Path.isAbsolute path then [] else tree.home

/-- The place next to another, by its name; two dots lead upwards. -/
def neighbour (place : Place) (name : String) : Place :=
  if name = ".." then place.dropLast else place ++ [name]

/-- Follows the components of a path from a place on; only the last may lead to nothing. -/
def follow (tree : FileTree) (place : Place) : List String → Except FileError Place
  | [] => .ok place
  | name :: rest =>
    if 255 < name.utf8ByteSize then .error .nameTooLong
    else
      let next := neighbour place name
      match rest, tree.node? next with
      | [], _ => .ok next
      | _, some .directory => follow tree next rest
      | _, some (.file _) => .error .notADirectory
      | _, none => .error .notFound

/-- The place that a path leads to. -/
def locate (tree : FileTree) (path : String) : Except FileError Place :=
  if path.toList.contains '\x00' then .error .invalidName
  else if path = "" then .error .notFound
  else do
    let place ← tree.follow (tree.origin path) (Path.components path)
    match tree.node? place with
    | some (.file _) => if Path.namesDirectory path then .error .notADirectory else .ok place
    | _ => .ok place

/-- What stands where a path leads. -/
def nodeAt (tree : FileTree) (path : String) : Except FileError Node := do
  match tree.node? (← tree.locate path) with
  | some node => .ok node
  | none => .error .notFound

/-- The path leads to a file or a directory. -/
def hasPath (tree : FileTree) (path : String) : Bool := (tree.nodeAt path).toBool

/-- The path leads to a file. -/
def isFile (tree : FileTree) (path : String) : Bool :=
  match tree.nodeAt path with
  | .ok (.file _) => true
  | _ => false

/-- Opens what a path leads to; a directory can be opened, too. -/
def openAt (tree : FileTree) (path : String) : Except FileError Node := tree.nodeAt path

/-- Content of something that has been opened. -/
def readHandle (tree : FileTree) : Node → Except FileError Bytes
  | .directory => .error .isADirectory
  | .file id => .ok (tree.contents[id]?.getD [])

/-- Content of a file. -/
def readBytes (tree : FileTree) (path : String) : Except FileError Bytes := do
  tree.readHandle (← tree.openAt path)

/-- Content of a file that has to be well-formed text. -/
def readText (tree : FileTree) (path : String) : Except FileError String := do
  match Text.Utf8.decodeStrict? (← tree.readBytes path) with
  | some text => .ok (.ofList text)
  | none => .error .invalidText

/-- Names of the entries of a directory. -/
def names (tree : FileTree) (path : String) : Except FileError (List String) := do
  let place ← tree.locate path
  match tree.node? place with
  | some .directory =>
    .ok (tree.nodes.filterMap fun entry =>
      if entry.1 ≠ [] ∧ entry.1.dropLast = place then entry.1.getLast? else none)
  | some (.file _) => .error .notADirectory
  | none => .error .notFound

/-- Makes the directories that are missing along a path. -/
def createAlong (tree : FileTree) (place : Place) : List String → Except FileError FileTree
  | [] => .ok tree
  | name :: rest =>
    if 255 < name.utf8ByteSize then .error .nameTooLong
    else
      let next := neighbour place name
      match tree.node? next with
      | some .directory => createAlong tree next rest
      | some (.file _) => .error .notADirectory
      | none => createAlong { tree with nodes := tree.nodes ++ [(next, .directory)] } next rest

/-- Makes a directory and all that lead to it. -/
def createDirectories (tree : FileTree) (path : String) : Except FileError FileTree :=
  tree.createAlong (tree.origin path) (Path.components path)

/-- Makes the directories that lead to a file. -/
def createParents (tree : FileTree) (path : String) : Except FileError FileTree :=
  tree.createAlong (tree.origin path) (Path.components path).dropLast

/-- Writes a file, in place if it exists. -/
def write (tree : FileTree) (path : String) (bytes : Bytes) : Except FileError FileTree := do
  let place ← tree.locate path
  match tree.node? place with
  | some .directory => .error .isADirectory
  | some (.file id) => .ok { tree with contents := tree.contents.set id bytes }
  | none =>
    if Path.namesDirectory path then .error .isADirectory
    else
      .ok
        { tree with
            nodes := tree.nodes ++ [(place, .file tree.contents.length)]
            contents := tree.contents ++ [bytes] }

/-- Writes a file after making the directories that lead to it. -/
def save (tree : FileTree) (path : String) (bytes : Bytes) : Except FileError FileTree := do
  (← tree.createParents path).write path bytes

/-- Removes a file. -/
def remove (tree : FileTree) (path : String) : Except FileError FileTree := do
  let place ← tree.locate path
  match tree.node? place with
  | some (.file _) => .ok { tree with nodes := tree.nodes.filter fun entry => entry.1 ≠ place }
  | some .directory => .error .isADirectory
  | none => .error .notFound

/-- The files of a tree with their contents. -/
def files (tree : FileTree) : List (Place × Bytes) :=
  tree.nodes.filterMap fun entry =>
    match entry.2 with
    | .file id => some (entry.1, tree.contents[id]?.getD [])
    | .directory => none

/-- The files that a later tree has and an earlier one lacks or holds with another content. -/
def changedFiles (before after : FileTree) : List (Place × Bytes) :=
  after.files.filter fun file => before.files.lookup file.1 ≠ some file.2

end FileTree

end SystemMenu
