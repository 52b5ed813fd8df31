import SystemMenu.Catalog.Lookup
import SystemMenu.Catalog.Source
import SystemMenu.Files.Tree
import SystemMenu.Text.Quoted
import SystemMenu.Toml.Value

/-!
# The catalog

All systems, in the order of their short names, with one placeholder record that stands for none.

## Main declarations

* `Catalog.ofRecords`: checks short names, adds the placeholder and sorts.
* `Catalog.find?`: the number of the record with a short name.
* `Catalog.cloneOf?`: the parent of a clone.
* `Catalog.source`: the catalog as a source of records that never fails.
-/

namespace SystemMenu

/-- Why there is no catalog. -/
inductive CatalogError where
  | document (cause : Toml.Error)
  | file (path : String) (cause : FileError)
  | duplicateShortname (name : String)
  | invalidShortname (name : String)
  deriving Repr, DecidableEq

/-- The message for an error. -/
def CatalogError.message : CatalogError → String
  | document _ => "catalog parse error"
  | file path cause => "I/O error reading " ++ path ++ ": " ++ cause.message
  | duplicateShortname name => "duplicate shortname: " ++ name
  | invalidShortname name => "invalid shortname: " ++ Text.quoted name

/-- Systems in the order of their short names. -/
structure Catalog where
  records : List SystemRecord
  /-- Number of the record that stands for no system. -/
  placeholder : Nat
  deriving Repr, DecidableEq

namespace Catalog

/-- Short name of the record that stands for no system. -/
def placeholderName : String := "___empty"

/-- The record that stands for no system, where none is given. -/
def placeholderRecord : SystemRecord := { name := placeholderName, description := "Empty driver" }

/-- A short name has at least one character and no blanks. -/
def isShortname (name : String) : Bool := name ≠ "" && !name.toList.any Text.isBlank

/-- The first name that equals the name before it. -/
def firstRepeated? : List SystemRecord → Option String
  | a :: b :: rest => if a.name = b.name then some a.name else firstRepeated? (b :: rest)
  | _ => none

/-- The records with a placeholder. -/
def withPlaceholder (records : List SystemRecord) : List SystemRecord :=
  if records.any (·.name = placeholderName) then records else records ++ [placeholderRecord]

/-- The records in the order of their short names. -/
def sortByName (records : List SystemRecord) : List SystemRecord :=
  records.mergeSort fun a b => (compare a.name b.name).isLE

/-- The number of the record with a short name, in a list that is ordered by them. -/
def locateName? (records : List SystemRecord) (name : String) : Option Nat :=
  Lookup.locate? (fun record => compare record.name name) records

/-- Builds the catalog of some records. -/
def ofRecords (records : List SystemRecord) : Except CatalogError Catalog :=
  match records.find? fun record => !isShortname record.name with
  | some record => .error (.invalidShortname record.name)
  | none =>
    let sorted := sortByName (withPlaceholder records)
    match firstRepeated? sorted with
    | some name => .error (.duplicateShortname name)
    | none =>
      match locateName? sorted placeholderName with
      | some placeholder => .ok { records := sorted, placeholder := placeholder }
      | none => .error (.invalidShortname placeholderName)

/-- The number of the record with a short name. -/
def find? (catalog : Catalog) (name : String) : Option Nat := locateName? catalog.records name

/-- The number of a record's parent, if that is catalogued and no BIOS set. -/
def cloneOf? (catalog : Catalog) (index : Nat) : Option Nat := do
  let record ← catalog.records[index]?
  let parent ← catalog.find? (← record.parent)
  let parentRecord ← catalog.records[parent]?
  if parentRecord.traits.biosRoot then none else some parent

/-- The catalog as a source of records. -/
def source (catalog : Catalog) : Source where
  size := catalog.records.length
  recordAt index :=
    match catalog.records[index]? with
    | some record => .ok record
    | none => .error "record number out of range"
  find? := catalog.find?
  placeholder _ := .ok (some catalog.placeholder)

end Catalog

end SystemMenu
