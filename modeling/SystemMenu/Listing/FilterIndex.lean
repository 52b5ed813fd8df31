import SystemMenu.Listing.Credits
import SystemMenu.Text.Collation

/-!
# Values offered by the filter menus

While records are read, their companies and years are collected; finalizing moves what was collected
into lists without repetitions, companies in dictionary order and years by code point, so that a
partial year such as `198?` follows the full ones of its decade.

## Main declarations

* `FilterIndex`: what was collected and the finished lists.
* `addManufacturer`, `addYear`: collecting.
* `finalize`: sorting into the lists.
-/

namespace SystemMenu

/-- Companies and years offered as filters. -/
structure FilterIndex where
  /-- Companies collected since the last finalization. -/
  newManufacturers : List String := []
  /-- Years collected since the last finalization. -/
  newYears : List String := []
  manufacturers : List String := []
  years : List String := []
  deriving Repr, DecidableEq

namespace FilterIndex

/-- Adds a value to a collection that lacks it. -/
def collect (values : List String) (value : String) : List String :=
  if value ∈ values then values else values ++ [value]

/-- Collects every company of a credit. -/
def addManufacturer (index : FilterIndex) (credit : String) : FilterIndex :=
  { index with newManufacturers := (Credits.companies credit).foldl collect index.newManufacturers }

/-- Collects a year, unless it is blank. -/
def addYear (index : FilterIndex) (year : String) : FilterIndex :=
  let year := Text.trimmed year
  if year = "" then index else { index with newYears := collect index.newYears year }

/-- Sorts texts by code point. -/
def sortByCode (texts : List String) : List String :=
  texts.mergeSort fun a b => (compare a b).isLE

/-- Moves what was collected into the lists. -/
def finalize (index : FilterIndex) : FilterIndex where
  manufacturers := (Text.sortCollated (index.manufacturers ++ index.newManufacturers)).eraseReps
  years := (sortByCode (index.years ++ index.newYears)).eraseReps

end FilterIndex

end SystemMenu
