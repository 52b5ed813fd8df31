import SystemMenu.Proofs.Listing.WorkingList
import SystemMenu.Proofs.Staging.Generations

/-!
# The list of a catalog

What is true of the working list, of the sorted list and of the sorted list with its search keys alike:
the entries stand for all records but the placeholder, and their names are coherent. Sorting and filling
in search keys keep it.

## Main statements

* `Catalog.lists_workingList`, `Catalog.Lists.perm`, `Catalog.Lists.map_grows`: lists of a catalog.
* `Catalog.Lists.count_index`: every number is there once, apart from the placeholder's.
* `compareEntries_of_grows`: search keys make no difference to the order.
-/

namespace SystemMenu

namespace Entry.Grows

variable {a b : Entry}

theorem record (grows : a.Grows b) : b.record = a.record := by
  rw [← grows.same]

theorem index (grows : a.Grows b) : b.index = a.index := by
  rw [← grows.same]

theorem isClone (grows : a.Grows b) : b.isClone = a.isClone := by
  rw [← grows.same]

theorem shortname (grows : a.Grows b) : b.shortname = a.shortname := by
  rw [← grows.same]
  rfl

theorem titledBy {title : String → String} (grows : a.Grows b) (titled : a.TitledBy title) :
    b.TitledBy title := by
  rw [← grows.same] at titled
  exact ⟨titled.own, titled.parent⟩

end Entry.Grows

/-- Search keys make no difference to the order of entries. -/
theorem compareEntries_of_grows {a b c d : Entry} (left : a.Grows c) (right : b.Grows d) :
    compareEntries c d = compareEntries a b := by
  calc compareEntries c d
      = compareEntries { c with keys := a.keys } { d with keys := b.keys } := rfl
    _ = compareEntries a b := by rw [left.same, right.same]

namespace Catalog

open Text.Utf8 (Bytes)

/-- The entries stand for all records of a catalog but the placeholder, and their names are
coherent. -/
structure Lists (catalog : Catalog) (list : List Entry) : Prop where
  coherent : Coherent list
  numbers : (list.map Entry.index).Perm
    ((List.range catalog.records.length).eraseIdx catalog.placeholder)
  records : (list.map Entry.record).Perm catalog.listed
  own : ∀ entry ∈ list, catalog.records[entry.index]? = some entry.record
  clones : ∀ entry ∈ list, entry.isClone = catalog.isClone entry.record

theorem lists_workingList {catalog : Catalog} (ordered : catalog.Ordered) (titles : Option Bytes) :
    catalog.Lists (catalog.workingList titles) where
  coherent := coherent_workingList ordered titles
  numbers := by rw [index_workingList]
  records := by rw [record_workingList]
  own _ member := (of_mem_workingList member).1
  clones _ member := (of_mem_workingList member).2.2

namespace Lists

variable {catalog : Catalog} {list other : List Entry}

/-- The order of the entries does not matter. -/
theorem perm (lists : catalog.Lists list) (same : other.Perm list) : catalog.Lists other where
  coherent := lists.coherent.perm same
  numbers := (same.map Entry.index).trans lists.numbers
  records := (same.map Entry.record).trans lists.records
  own entry member := lists.own entry (same.mem_iff.1 member)
  clones entry member := lists.clones entry (same.mem_iff.1 member)

/-- Neither do the search keys. -/
theorem map_grows (lists : catalog.Lists list) {fill : Entry → Entry}
    (grows : ∀ entry : Entry, entry.Grows (fill entry)) : catalog.Lists (list.map fill) where
  coherent := by
    constructor
    · obtain ⟨title, titled⟩ := lists.coherent.titled
      refine ⟨title, ?_⟩
      intro entry member
      obtain ⟨bare, bareMember, rfl⟩ := List.mem_map.1 member
      exact (grows bare).titledBy (titled bare bareMember)
    · rw [List.pairwise_map]
      apply lists.coherent.distinct.imp
      intro a b different
      rwa [(grows a).shortname, (grows b).shortname]
  numbers := by
    have same : (list.map fill).map Entry.index = list.map Entry.index := by
      rw [List.map_map]
      exact List.map_congr_left fun entry _ => (grows entry).index
    rw [same]
    exact lists.numbers
  records := by
    have same : (list.map fill).map Entry.record = list.map Entry.record := by
      rw [List.map_map]
      exact List.map_congr_left fun entry _ => (grows entry).record
    rw [same]
    exact lists.records
  own entry member := by
    obtain ⟨bare, bareMember, rfl⟩ := List.mem_map.1 member
    rw [(grows bare).index, (grows bare).record]
    exact lists.own bare bareMember
  clones entry member := by
    obtain ⟨bare, bareMember, rfl⟩ := List.mem_map.1 member
    rw [(grows bare).isClone, (grows bare).record]
    exact lists.clones bare bareMember

/-- A clone names its parent. -/
theorem parent_of_isClone (lists : catalog.Lists list) {entry : Entry} (member : entry ∈ list)
    (clone : entry.isClone = true) : entry.record.parent = some entry.parentName := by
  rw [lists.clones entry member] at clone
  obtain ⟨name, -, hparent, -⟩ := of_isClone clone
  simp [Entry.parentName, hparent]

/-- Every number is there once, apart from the placeholder's. -/
theorem count_index (lists : catalog.Lists list) (index : Nat) :
    (list.map Entry.index).count index =
      if index < catalog.records.length ∧ index ≠ catalog.placeholder then 1 else 0 := by
  have distinct : ((List.range catalog.records.length).eraseIdx catalog.placeholder).Nodup :=
    List.nodup_range.sublist (List.eraseIdx_sublist _ _)
  have member : index ∈ (List.range catalog.records.length).eraseIdx catalog.placeholder ↔
      index < catalog.records.length ∧ index ≠ catalog.placeholder := by
    rw [List.mem_eraseIdx_iff_getElem?]
    constructor
    · rintro ⟨position, elsewhere, here⟩
      obtain ⟨inside, rfl⟩ := List.getElem?_eq_some_iff.1 here
      simp only [List.length_range] at inside
      simpa [inside] using elsewhere
    · rintro ⟨inside, elsewhere⟩
      exact ⟨index, elsewhere, List.getElem?_range inside⟩
  rw [lists.numbers.count_eq, distinct.count]
  simp only [member]

/-- The sets that others build on are counted the same on the list as in the catalog. -/
theorem countP_record (lists : catalog.Lists list) (p : SystemRecord → Bool) :
    list.countP (fun entry => p entry.record) = catalog.listed.countP p := by
  rw [← lists.records.countP_eq p, List.countP_map]
  rfl

/-- What the catalog answers about the number of an entry is what the entry says. -/
theorem source_answers (lists : catalog.Lists list) {entry : Entry} (member : entry ∈ list) :
    catalog.source.recordAt entry.index = .ok entry.record ∧
      catalog.source.cloneOf entry.index = .ok (catalog.cloneOf? entry.index) ∧
      entry.isClone = (catalog.cloneOf? entry.index).isSome := by
  have own := lists.own entry member
  refine ⟨catalog.recordAt_source own, catalog.cloneOf_source own, ?_⟩
  rw [lists.clones entry member, catalog.isSome_cloneOf? own]

end Lists

end Catalog

end SystemMenu
