import SystemMenu.Catalog.Basic
import SystemMenu.Toml.Fields
import SystemMenu.Toml.Parser

/-!
# Catalogs as settings documents

A catalog document is an array of `system` tables, each with an array of `rom` tables.
-/

namespace SystemMenu

/-- Reads a media file. -/
def Rom.read (value : Toml.Value) : Except Toml.Error Rom := do
  let fields ← Toml.readFields ["name", "length", "hashes", "optional", "no-dump"] value
  return {
    name := ← Toml.required fields "name" Toml.readString
    length := ← Toml.required fields "length" Toml.readNatural
    hashes := ← Toml.withDefault fields "hashes" "" Toml.readString
    isOptional := ← Toml.withDefault fields "optional" false Toml.readBoolean
    noDump := ← Toml.withDefault fields "no-dump" false Toml.readBoolean }

/-- Reads a truth value that counts as false when it is left out. -/
def readFlag (fields : Toml.Fields) (name : String) : Except Toml.Error Bool :=
  Toml.withDefault fields name false Toml.readBoolean

namespace SystemRecord

/-- The keys of a system, in the order of their declaration. -/
def fieldNames : List String :=
  ["name", "description", "manufacturer", "year", "parent", "bios", "not-working", "mechanical",
    "supports-save", "vertical", "rom"]

/-- Reads a system. An empty parent and the parent `0` mean that there is none. -/
def read (value : Toml.Value) : Except Toml.Error SystemRecord := do
  let fields ← Toml.readFields fieldNames value
  let parent ← Toml.withDefault fields "parent" "" Toml.readString
  return {
    name := ← Toml.required fields "name" Toml.readString
    description := ← Toml.required fields "description" Toml.readString
    manufacturer := ← Toml.withDefault fields "manufacturer" "" Toml.readString
    year := ← Toml.withDefault fields "year" "" Toml.readString
    parent := if parent = "" ∨ parent = "0" then none else some parent
    traits := {
      biosRoot := ← readFlag fields "bios"
      notWorking := ← readFlag fields "not-working"
      mechanical := ← readFlag fields "mechanical"
      supportsSave := ← readFlag fields "supports-save"
      vertical := ← readFlag fields "vertical" }
    roms := ← Toml.withDefault fields "rom" [] (Toml.readList Rom.read) }

end SystemRecord

namespace Catalog

/-- Reads the systems of a document. -/
def readSystems (document : Toml.Entries) : Except Toml.Error (List SystemRecord) := do
  let fields ← Toml.fieldsOfTable ["system"] document
  Toml.withDefault fields "system" [] (Toml.readList SystemRecord.read)

/-- Reads the catalog of a document. -/
def parse (text : String) : Except CatalogError Catalog :=
  match Toml.parse text >>= readSystems with
  | .error cause => .error (.document cause)
  | .ok records => ofRecords records

/-- Reads the catalog in a file. -/
def load (tree : FileTree) (path : String) : Except CatalogError Catalog :=
  match tree.readText path with
  | .error cause => .error (.file path cause)
  | .ok text => parse text

end Catalog

end SystemMenu
