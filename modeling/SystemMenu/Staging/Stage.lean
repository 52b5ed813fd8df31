import SystemMenu.Listing.Entry

/-!
# Stages of a build

The list and what belongs to it are published in stages, so that a reader who needs only an early
stage does not wait for the later ones.

## Main declarations

* `Stage`: the stages.
* `Stage.all`: the stages in the order in which sets of them are shown.
* `Stage.publicationOrder`: the order in which a build publishes them.
* `SearchField.stage`: the stage of each kind of search key.
-/

namespace SystemMenu

/-- What a build publishes, one after the other. -/
inductive Stage where
  | sortedList
  | biosCount
  | keys (field : SearchField)
  | filterIndex
  deriving Repr, DecidableEq

/-- The stage that makes a kind of search keys readable. -/
def SearchField.stage (field : SearchField) : Stage := .keys field

namespace Stage

/-- All stages, in the order in which sets of them are shown. -/
def all : List Stage :=
  [.sortedList, .biosCount] ++ SearchField.all.map SearchField.stage ++ [.filterIndex]

/-- The order in which a build publishes the stages. -/
def publicationOrder : List Stage :=
  [.biosCount, .sortedList, .filterIndex] ++ SearchField.all.map SearchField.stage

/-- The name of a stage. -/
def name : Stage → String
  | sortedList => "SORTED_LIST"
  | biosCount => "BIOS_COUNT"
  | keys .shortname => "NORMALIZED_SHORTNAME"
  | keys .description => "NORMALIZED_DESCRIPTION"
  | keys .manufacturerDescription => "NORMALIZED_MANUFACTURER_DESCRIPTION"
  | keys .defaultDescription => "NORMALIZED_DEFAULT_DESCRIPTION"
  | keys .manufacturerDefaultDescription => "NORMALIZED_MANUFACTURER_DEFAULT_DESCRIPTION"
  | filterIndex => "FILTER_INDEX"

/-- The stages of a set, in the order in which they are shown. -/
def shown (stages : List Stage) : List Stage := all.filter fun stage => stages.contains stage

/-- Every stage is published once: both orders hold the same stages. -/
theorem publicationOrder_perm_all : publicationOrder.Perm all := by decide

end Stage

end SystemMenu
