import SystemMenu.Listing.Entry
import SystemMenu.Listing.FilterIndex

/-!
# Filters

A filter says which systems a menu lists. It is saved as text: its name, and after a comma its value
if it has one.

## Main declarations

* `Filter`, `Filter.accepts`: the filters and what they accept.
* `Filter.name`, `Filter.text`: how a filter is written.
* `Filter.parse?`: how it is read.
-/

namespace SystemMenu

/-- Which systems a menu lists. -/
inductive Filter where
  | all
  | available
  | unavailable
  | working
  | notWorking
  | mechanical
  | notMechanical
  | favorites
  | bios
  | notBios
  | parents
  | clones
  | manufacturer (company : String)
  | year (value : String)
  | saveSupported
  | saveUnsupported
  | vertical
  | horizontal
  deriving Repr, DecidableEq

namespace Filter

/-- The filters without a value, in the order of the menu. -/
def simple : List Filter :=
  [all, available, unavailable, working, notWorking, mechanical, notMechanical, favorites, bios,
    notBios, parents, clones, saveSupported, saveUnsupported, vertical, horizontal]

/-- The name of a filter. -/
def name : Filter → String
  | all => "All"
  | available => "Available"
  | unavailable => "Unavailable"
  | working => "Working"
  | notWorking => "Not Working"
  | mechanical => "Mechanical"
  | notMechanical => "Not Mechanical"
  | favorites => "Favorites"
  | bios => "BIOS"
  | notBios => "Not BIOS"
  | parents => "Parents"
  | clones => "Clones"
  | manufacturer _ => "Manufacturer"
  | year _ => "Year"
  | saveSupported => "Save Supported"
  | saveUnsupported => "Save Unsupported"
  | vertical => "Vertical Screen"
  | horizontal => "Horizontal Screen"

/-- The value of a filter that has one. -/
def value? : Filter → Option String
  | manufacturer company => some company
  | year value => some value
  | _ => none

/-- The text of a filter: its name, and its value after a comma. -/
def text (filter : Filter) : String :=
  match filter.value? with
  | some value => filter.name ++ "," ++ value
  | none => filter.name

/-- The filter with a name and a value; the value is ignored where none is needed. -/
def ofParts? (name : String) (value : Option String) : Option Filter :=
  if name = "Manufacturer" then value.map manufacturer
  else if name = "Year" then value.map year
  else simple.find? fun filter => filter.name = name

/-- Reads a filter: a name, and a value after the first comma, both without blanks at their ends. An
empty value is none. -/
def parse? (text : String) : Option Filter :=
  match Text.cutAtFirst? (· = ',') text.toList with
  | some (name, value) =>
    ofParts? (.ofList (Text.trim name)) ((some (String.ofList (Text.trim value))).filter (· ≠ ""))
  | none => ofParts? (Text.trimmed text) none

/-- Whether the filter lists an entry, given which systems are favorites. -/
def accepts (filter : Filter) (isFavorite : String → Bool) (entry : Entry) : Bool :=
  let traits := entry.record.traits
  match filter with
  | all => true
  | available => entry.available
  | unavailable => !entry.available
  | working => !traits.notWorking
  | notWorking => traits.notWorking
  | mechanical => traits.mechanical
  | notMechanical => !traits.mechanical
  | favorites => isFavorite entry.shortname
  | bios => traits.biosRoot
  | notBios => !traits.biosRoot
  | parents => !entry.isClone
  | clones => entry.isClone
  | manufacturer company => (Credits.companies entry.record.manufacturer).contains company
  | year value => entry.record.year = value
  | saveSupported => traits.supportsSave
  | saveUnsupported => !traits.supportsSave
  | vertical => traits.vertical
  | horizontal => !traits.vertical

end Filter

end SystemMenu
