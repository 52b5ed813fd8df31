import SystemMenu.Catalog.Source
import SystemMenu.Listing.Entry
import SystemMenu.Listing.FilterIndex

/-!
# The list before it is sorted

One entry is made for each record, in the order of the catalog. The placeholder gets an entry, too,
so that positions agree with record numbers, but nothing is counted or collected for it. Without a
title file titles are copied from the catalog at once.
-/

namespace SystemMenu

/-- The entries made so far, with what was counted and collected. -/
structure Draft where
  entries : List Entry := []
  biosCount : Nat := 0
  filter : FilterIndex := {}

namespace Draft

/-- The record of a parent, if it is catalogued. -/
def parentRecord (source : Source) (name : String) : Except String (Option SystemRecord) :=
  match source.find? name with
  | some index => some <$> source.recordAt index
  | none => .ok none

/-- Fills in what the catalog says about the parent of an entry. -/
def linkParent (source : Source) (copyTitles : Bool) (entry : Entry) : Except String Entry :=
  match entry.record.parent with
  | none => .ok entry
  | some name => do
    let parent ← parentRecord source name
    return {
      entry with
      isClone := parent.any fun record => !record.traits.biosRoot
      parent := if copyTitles then (parent.map (·.description)).getD name else entry.parent }

/-- Adds the entry of a record. -/
def addRecord (draft : Draft) (source : Source) (placeholder : Option Nat) (copyTitles : Bool)
    (index : Nat) : Except String Draft := do
  let record ← source.recordAt index
  let entry : Entry := { record := record, index := index }
  if placeholder = some index then
    return { draft with entries := draft.entries ++ [entry] }
  else
    let entry ← linkParent source copyTitles entry
    let entry := if copyTitles then { entry with description := record.description } else entry
    return {
      entries := draft.entries ++ [entry]
      biosCount := draft.biosCount + if record.traits.biosRoot then 1 else 0
      filter := (draft.filter.addManufacturer record.manufacturer).addYear record.year }

end Draft

end SystemMenu
