import SystemMenu.Event
import SystemMenu.Files.Tree
import SystemMenu.Listing.Entry

/-!
# The saved list of available systems

What a search for media found is kept in a file: a comment, the version of the program, and the short
name of each available system on a line of its own. A list of another version is not used. When a list
is read, blank lines and comments are passed over and a line that opens a section ends it.

## Main declarations

* `SavedList.write`: the text of a list.
* `SavedList.read`: the names in a list, or nothing for a list of another version.
* `SavedList.load`, `SavedList.save`: the same with files.
-/

namespace SystemMenu.SavedList

open Text.Utf8 (Bytes)

/-- The version that lists carry. -/
def version : String := "marquee-0.3.0"

/-- The comment at the top of a list. -/
def header : String := "# marquee available systems"

/-- The list of the available entries. -/
def write (version : String) (entries : List Entry) : String :=
  let names := (entries.filter (·.available)).map Entry.shortname
  String.join ((header :: version :: names).map (· ++ "\n"))

/-- The lines of a file without their ends. -/
def rawLines (bytes : Bytes) : List Bytes :=
  let cut := Text.pieces (· = 10) bytes
  let whole := cut.dropLast.map fun line =>
    if line.getLast? = some 13 then line.dropLast else line
  match cut.getLast? with
  | some (b :: rest) => whole ++ [b :: rest]
  | _ => whole

/-- A line as text; a line that is not well-formed refuses the list. -/
def decodeLine (line : Bytes) : Except FileError String :=
  match Text.Utf8.decodeStrict? line with
  | some text => .ok (.ofList text)
  | none => .error .invalidText

/-- The names in the lines that follow the version. -/
def readNames : List Bytes → Except FileError (List String)
  | [] => .ok []
  | line :: rest => do
    let name := Text.trimmed (← decodeLine line)
    if name = "" ∨ name.toList.head? = some '#' then readNames rest
    else if name.toList.head? = some '[' then return []
    else return name :: (← readNames rest)

/-- What reading a list gives: the names, or the version that is not the expected one. -/
inductive Content where
  | names (names : List String)
  | otherVersion (found : String)
  deriving Repr, DecidableEq

/-- Reads a list. -/
def read (version : String) (bytes : Bytes) : Except FileError Content := do
  let lines := rawLines bytes
  match lines with
  | [] => checkVersion version "" []
  | first :: rest => do
    let _ ← decodeLine first
    match rest with
    | [] => checkVersion version "" []
    | tag :: rest => checkVersion version (← decodeLine tag) rest
where
  /-- Reads the names if the version is the expected one, blanks at its end aside. -/
  checkVersion (version tag : String) (rest : List Bytes) : Except FileError Content := do
    if String.ofList (Text.trimEnd tag.toList) = version then return .names (← readNames rest)
    else return .otherVersion tag

/-- Why a list cannot be read or written. -/
structure Error where
  path : String
  cause : FileError
  deriving Repr, DecidableEq

/-- The message for an error. -/
def Error.message (error : Error) : String :=
  "I/O error on " ++ error.path ++ ": " ++ error.cause.message

/-- Reads the list in a file; nothing if there is no such file or its version is another one. -/
def load (tree : FileTree) (path version : String) :
    Except Error (Option (List String) × List Event) :=
  match tree.readBytes path with
  | .error .notFound => .ok (none, [])
  | .error cause => .error ⟨path, cause⟩
  | .ok bytes =>
    match read version bytes with
    | .error cause => .error ⟨path, cause⟩
    | .ok (.names names) => .ok (some names, [])
    | .ok (.otherVersion found) => .ok (none, [.listVersionMismatch path found version])

/-- Writes the list of the available entries to a file. -/
def save (tree : FileTree) (path version : String) (entries : List Entry) :
    Except Error FileTree :=
  match tree.write path (Text.Utf8.encode (write version entries).toList) with
  | .error cause => .error ⟨path, cause⟩
  | .ok tree => .ok tree

/-- Takes the names of a list over to an entry. -/
def applyNames (names : List String) (entry : Entry) : Entry :=
  { entry with available := names.contains entry.shortname }

end SystemMenu.SavedList
