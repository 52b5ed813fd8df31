import SystemMenu.Catalog.Record
import SystemMenu.Text.SearchKey

/-!
# Entries of the system list

An entry is what the menu shows of one record: its title, which a title file may replace, the reading
by which it is sorted if it has one, the title and reading of its parent, and the keys by which it is
found. Search keys are filled in after the list is complete, one kind at a time.

## Main declarations

* `SearchField`: the kinds of search keys.
* `Entry`: one row of the list.
* `Entry.displayName`, `Entry.parentDisplayName`: the names used for sorting.
* `Entry.keyFor`: the search key of an entry of each kind.
-/

namespace SystemMenu

/-- The kinds of search keys that are filled in one after the other. -/
inductive SearchField where
  | shortname
  | description
  | manufacturerDescription
  | defaultDescription
  | manufacturerDefaultDescription
  deriving Repr, DecidableEq

namespace SearchField

/-- All kinds, in the order in which they are filled in and searched. -/
def all : List SearchField :=
  [shortname, description, manufacturerDescription, defaultDescription,
    manufacturerDefaultDescription]

end SearchField

/-- One row of the system list. -/
structure Entry where
  record : SystemRecord
  /-- Number of the record in the catalog. -/
  index : Nat
  /-- The parent is catalogued and no BIOS set. -/
  isClone : Bool := false
  /-- The title shown. -/
  description : String := ""
  /-- The parent's title, or its short name if it is not catalogued. -/
  parent : String := ""
  /-- How the title is read aloud, if a title file says so. -/
  reading : String := ""
  parentReading : String := ""
  /-- Search key of the reading. -/
  readingKey : String := ""
  /-- Search key of the manufacturer and the reading. -/
  manufacturerReadingKey : String := ""
  /-- The search keys filled in so far. -/
  keys : SearchField → Option String := fun _ => none
  /-- The media that the system needs is present. -/
  available : Bool := false

namespace Entry

/-- The system's short name. -/
def shortname (entry : Entry) : String := entry.record.name

/-- The name by which an entry is sorted: its reading if it has one. -/
def displayName (entry : Entry) : String :=
  if entry.reading = "" then entry.description else entry.reading

/-- The name under which a clone is sorted: its parent's reading if it has one. -/
def parentDisplayName (entry : Entry) : String :=
  if entry.parentReading = "" then entry.parent else entry.parentReading

/-- Fills in the search key of one kind, unless it has been filled in before. -/
def setKey (entry : Entry) (field : SearchField) (key : String) : Entry :=
  if (entry.keys field).isSome then entry
  else { entry with keys := fun f => if f = field then some key else entry.keys f }

/-- The search key of an entry of one kind. The catalog's title has keys of its own only where a title
file has replaced it. -/
def keyFor (entry : Entry) (titled : Bool) (field : SearchField) : String :=
  let replaced := titled && entry.description ≠ entry.record.description
  match field with
  | .shortname => Text.searchKey entry.record.name
  | .description => Text.searchKey entry.description
  | .manufacturerDescription =>
    Text.searchKeyJoined entry.record.manufacturer entry.description
  | .defaultDescription => if replaced then Text.searchKey entry.record.description else ""
  | .manufacturerDefaultDescription =>
    if replaced then Text.searchKeyJoined entry.record.manufacturer entry.record.description
    else ""

/-- Filling in a key keeps everything else. -/
@[simp] theorem record_setKey (entry : Entry) (field : SearchField) (key : String) :
    (entry.setKey field key).record = entry.record := by
  unfold setKey
  split <;> rfl

end Entry

end SystemMenu
