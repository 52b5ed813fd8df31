import SystemMenu.Catalog.Source
import SystemMenu.Event
import SystemMenu.Files.Tree
import SystemMenu.Listing.Entry
import SystemMenu.Text.CaseContext

/-!
# Looking for media

A system's media is present if some directory has an entry whose name, up to its first dot and in
lowercase, is the system's short name. Unless systems without media are to be hidden, a system that
needs none counts as present, too, and so does a clone that shares all it needs with a parent that
does.

## Main declarations

* `Media.stem`: the short name that a file stands for.
* `Media.readNames`: the names in the media directories.
* `Media.needsNothingElse`: a system needs no media of its own.
* `Media.scan`: which records count as present, by their numbers.
-/

namespace SystemMenu.Media

/-- The short name that a file stands for. -/
def stem (fileName : String) : String :=
  Text.lowercaseText (.ofList (fileName.toList.takeWhile (· ≠ '.')))

/-- The names of all entries of some directories; those that cannot be read are noted. -/
def readNames (tree : FileTree) : List String → List String × List Event
  | [] => ([], [])
  | directory :: rest =>
    let (names, events) := readNames tree rest
    match tree.names directory with
    | .ok found => (found ++ names, events)
    | .error _ => (names, .directorySkipped directory :: events)

/-- Marks the record that a file stands for. -/
def markFile (source : Source) (included : List Bool) (fileName : String) : List Bool :=
  match source.find? (stem fileName) with
  | some index => included.set index true
  | none => included

/-- A clone finds all that it needs with its parent: both have the same files, or the parent needs a
file of the same content for every file that the clone needs. -/
def sharesAll (clone parent : SystemRecord) : Bool :=
  clone.roms = parent.roms ||
    clone.requiredRoms.all fun rom => parent.requiredRoms.any fun other => other.sameDump rom

/-- A record is marked. -/
def isMarked (included : List Bool) (index : Nat) : Bool := (included[index]?).getD false

/-- A system needs no media of its own, given which records are marked. -/
def needsNothingElse (source : Source) (included : List Bool) (index : Nat) :
    Except String Bool := do
  let record ← source.recordAt index
  if record.requiredRoms.isEmpty then return true
  else
    match ← source.cloneOf index with
    | none => return false
    | some parent =>
      if isMarked included parent then return sharesAll record (← source.recordAt parent)
      else return false

/-- Marks a record that needs no media of its own, unless it is the placeholder. -/
def markFree (source : Source) (placeholder : Option Nat) (included : List Bool) (index : Nat) :
    Except String (List Bool) := do
  if isMarked included index ∨ placeholder = some index then return included
  else if ← needsNothingElse source included index then return included.set index true
  else return included

/-- Marks the records whose media is among some files and, unless systems without media are hidden,
those that need none of their own. -/
def mark (source : Source) (requests : Nat) (files : List String) (hideRomless : Bool) :
    Except String (List Bool) := do
  let included := files.foldl (markFile source) (List.replicate source.size false)
  if hideRomless then return included
  else
    let placeholder ← source.placeholder requests
    (List.range source.size).foldlM (markFree source placeholder) included

/-- Looks for media in some directories. The source may fail; the directories that cannot be read are
noted in any case. -/
def scan (source : Source) (requests : Nat) (tree : FileTree) (directories : List String)
    (hideRomless : Bool) : Except String (List Bool) × List Event :=
  let (files, events) := readNames tree directories
  (mark source requests files hideRomless, events)

/-- Takes marks over to an entry. -/
def applyMarks (included : List Bool) (entry : Entry) : Entry :=
  { entry with available := isMarked included entry.index }

end SystemMenu.Media
