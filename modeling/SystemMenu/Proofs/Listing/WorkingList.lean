import Mathlib.Data.List.InsertIdx
import SystemMenu.Proofs.Listing.Drafts
import SystemMenu.Proofs.Listing.GroupOrder
import SystemMenu.Proofs.Listing.Titling

/-!
# The list that is sorted

The working list is what a build of a catalog hands over to be sorted: the entries of all records, with
the titles of a title file if there is one, without the placeholder. Every entry still stands for its
record, and names are coherent in both cases: a clone is sorted under the very name that its parent has.

## Main statements

* `Catalog.enumerates_titledEntries`: what the entries stand for.
* `Catalog.index_workingList`, `Catalog.record_workingList`: numbers and records of the list.
* `Catalog.coherent_workingList`: the names of the list are coherent.
-/

namespace SystemMenu.Catalog

open Text.Utf8 (Bytes)

/-- The entries of all records with their titles: the catalog's own, or those of a title file. -/
def titledEntries (catalog : Catalog) : Option Bytes → List Entry
  | none => (catalog.draft true catalog.records.length).entries
  | some bytes =>
    inheritTitles (applyTitles bytes (catalog.draft false catalog.records.length).entries).entries

/-- The entries that are sorted. -/
def workingList (catalog : Catalog) (titles : Option Bytes) : List Entry :=
  (catalog.titledEntries titles).eraseIdx catalog.placeholder

/-- The records that are listed. -/
def listed (catalog : Catalog) : List SystemRecord :=
  catalog.records.eraseIdx catalog.placeholder

variable (catalog : Catalog)

theorem listedAmong_length : catalog.listedAmong catalog.records.length = catalog.listed := by
  rw [listedAmong, listed, List.take_length]

theorem biosCount_draft (copyTitles : Bool) :
    (catalog.draft copyTitles catalog.records.length).biosCount =
      catalog.listed.countP fun record => record.traits.biosRoot := by
  rw [draft, listedAmong_length]

theorem filter_draft (copyTitles : Bool) :
    (catalog.draft copyTitles catalog.records.length).filter = collected catalog.listed := by
  rw [draft, listedAmong_length]

/-- What the entry of a record stands for; nothing is asked about the placeholder's parent. -/
def identityOf (index : Nat) (record : SystemRecord) : SystemRecord × Nat × Bool :=
  (record, index, !decide (index = catalog.placeholder) && catalog.isClone record)

/-- The entry at every position stands for the record with that number. -/
def Enumerates (entries : List Entry) : Prop :=
  entries.map Entry.identity = catalog.records.mapIdx catalog.identityOf

namespace Enumerates

variable {catalog} {entries : List Entry}

theorem draft (catalog : Catalog) (copyTitles : Bool) :
    catalog.Enumerates (catalog.draft copyTitles catalog.records.length).entries := by
  apply List.ext_getElem?
  intro index
  rw [Catalog.draft, List.take_length, List.getElem?_map, List.getElem?_mapIdx,
    List.getElem?_mapIdx, Option.map_map]
  refine congrArg (Option.map · _) (funext fun record => ?_)
  simp only [Function.comp_apply, entryOf, identityOf]
  split <;> rename_i h <;> simp [Entry.identity, h]

theorem applyTitles (enumerates : catalog.Enumerates entries) (bytes : Bytes) :
    catalog.Enumerates (SystemMenu.applyTitles bytes entries).entries :=
  (identity_applyTitles bytes entries).trans enumerates

theorem inheritTitles (enumerates : catalog.Enumerates entries) :
    catalog.Enumerates (SystemMenu.inheritTitles entries) :=
  (identity_inheritTitles entries).trans enumerates

theorem map_record (enumerates : catalog.Enumerates entries) :
    entries.map Entry.record = catalog.records := by
  have same := congrArg (List.map Prod.fst) enumerates
  rw [List.map_map] at same
  refine same.trans (List.ext_getElem? fun index => ?_)
  simp [Function.comp_def, identityOf]

theorem map_index (enumerates : catalog.Enumerates entries) :
    entries.map Entry.index = List.range catalog.records.length := by
  have same := congrArg (List.map fun identity => identity.2.1) enumerates
  rw [List.map_map] at same
  refine same.trans (List.ext_getElem? fun index => ?_)
  rw [List.getElem?_map, List.getElem?_mapIdx]
  by_cases inside : index < catalog.records.length
  · rw [List.getElem?_range inside, List.getElem?_eq_getElem inside]
    rfl
  · rw [List.getElem?_eq_none (by omega), List.getElem?_eq_none (by simp; omega)]
    rfl

theorem getElem? (enumerates : catalog.Enumerates entries) {index : Nat} {entry : Entry}
    (h : entries[index]? = some entry) :
    catalog.records[index]? = some entry.record ∧ entry.index = index ∧
      entry.isClone = (!decide (index = catalog.placeholder) && catalog.isClone entry.record) := by
  have same := congrArg (·[index]?) enumerates
  simp only [List.getElem?_map, List.getElem?_mapIdx, h, Option.map_some] at same
  obtain ⟨record, hrecord, identity⟩ := Option.map_eq_some_iff.1 same.symm
  simp only [identityOf, Entry.identity, Prod.mk.injEq] at identity
  obtain ⟨rfl, rfl, clone⟩ := identity
  exact ⟨hrecord, rfl, clone.symm⟩

theorem increasing (enumerates : catalog.Enumerates entries) (ordered : catalog.Ordered) :
    entries.Pairwise fun a b => compare a.shortname b.shortname = .lt := by
  have increasing := ordered.increasing
  rwa [Increasing, ← enumerates.map_record, List.pairwise_map] at increasing

end Enumerates

/-- Whatever the titles are, every entry stands for its record. -/
theorem enumerates_titledEntries (titles : Option Bytes) :
    catalog.Enumerates (catalog.titledEntries titles) := by
  cases titles with
  | none => exact .draft catalog true
  | some bytes => exact ((Enumerates.draft catalog false).applyTitles bytes).inheritTitles

/-- The entries stand for all records but the placeholder, in order. -/
theorem record_workingList (titles : Option Bytes) :
    (catalog.workingList titles).map Entry.record = catalog.listed := by
  rw [workingList, ← List.eraseIdx_map, (catalog.enumerates_titledEntries titles).map_record, listed]

/-- The numbers of the entries are all numbers but the placeholder's, in order. -/
theorem index_workingList (titles : Option Bytes) :
    (catalog.workingList titles).map Entry.index =
      (List.range catalog.records.length).eraseIdx catalog.placeholder := by
  rw [workingList, ← List.eraseIdx_map, (catalog.enumerates_titledEntries titles).map_index]

/-- An entry of the list stands for the record with its number, which is not the placeholder's. -/
theorem of_mem_workingList {catalog : Catalog} {titles : Option Bytes} {entry : Entry}
    (h : entry ∈ catalog.workingList titles) :
    catalog.records[entry.index]? = some entry.record ∧ entry.index ≠ catalog.placeholder ∧
      entry.isClone = catalog.isClone entry.record := by
  obtain ⟨index, elsewhere, here⟩ := List.mem_eraseIdx_iff_getElem?.1 h
  obtain ⟨hrecord, rfl, clone⟩ := (catalog.enumerates_titledEntries titles).getElem? here
  exact ⟨hrecord, elsewhere, by simpa [elsewhere] using clone⟩

section Coherence

variable {catalog} {entry : Entry}

/-- The parent of a clone is catalogued. -/
theorem of_isClone {record : SystemRecord} (h : catalog.isClone record = true) :
    ∃ name parent, record.parent = some name ∧ catalog.record? name = some parent := by
  cases hparent : record.parent with
  | none => simp [isClone, hparent] at h
  | some name =>
      cases hrecord : catalog.record? name with
      | none => simp [isClone, hparent, hrecord] at h
      | some parent => exact ⟨name, parent, rfl, hrecord⟩

/-- The catalog's own title of a short name. -/
def titleOf (catalog : Catalog) (name : String) : String :=
  ((catalog.record? name).map (·.description)).getD ""

/-- Titles copied from the catalog are coherent. -/
theorem titledBy_entryOf (ordered : catalog.Ordered) {index : Nat} {record : SystemRecord}
    (h : catalog.records[index]? = some record) (elsewhere : index ≠ catalog.placeholder) :
    (catalog.entryOf true index record).TitledBy catalog.titleOf where
  own := by
    have found : catalog.record? record.name = some record :=
      ordered.record?_eq_some_iff.2 ⟨List.mem_of_getElem? h, rfl⟩
    simp [entryOf, elsewhere, Entry.displayName, Entry.shortname, titleOf, found]
  parent clone := by
    simp only [entryOf, elsewhere, ↓reduceIte] at clone
    obtain ⟨name, parent, hparent, found⟩ := of_isClone clone
    simp [entryOf, elsewhere, Entry.parentDisplayName, Entry.parentName, parentTitle, titleOf,
      hparent, found]

/-- The name of the entry with a short name. -/
def nameAmong (entries : List Entry) (name : String) : String :=
  (((entryPosition? entries name).bind (entries[·]?)).map Entry.displayName).getD ""

/-- Titles taken over from parents are coherent, as long as the parents of clones are there. -/
theorem titledBy_inheritTitles {entries : List Entry}
    (increasing : entries.Pairwise fun a b => compare a.shortname b.shortname = .lt)
    (parents : ∀ entry ∈ entries, entry.isClone = true →
      ∃ parent ∈ entries, entry.record.parent = some parent.shortname)
    (member : entry ∈ inheritTitles entries) : entry.TitledBy (nameAmong entries) := by
  obtain ⟨bare, bareMember, rfl⟩ := List.mem_map.1 member
  have identity := identity_inheritTitle entries bare
  simp only [Entry.identity, Prod.mk.injEq] at identity
  obtain ⟨sameRecord, -, sameClone⟩ := identity
  constructor
  · obtain ⟨position, here⟩ := List.mem_iff_getElem?.1 bareMember
    have found := entryPosition?_eq_some increasing here
    rw [displayName_inheritTitle, Entry.shortname, sameRecord]
    simp only [nameAmong]
    rw [← Entry.shortname, found]
    simp [here]
  · intro clone
    obtain ⟨parent, parentMember, hparent⟩ := parents bare bareMember (sameClone ▸ clone)
    obtain ⟨position, here⟩ := List.mem_iff_getElem?.1 parentMember
    have found := entryPosition?_eq_some increasing here
    rw [parentDisplayName_inheritTitle hparent found here, Entry.parentName, sameRecord, hparent]
    simp [nameAmong, found, here]

/-- The parents of clones are among the entries. -/
theorem Enumerates.parents {entries : List Entry} (enumerates : catalog.Enumerates entries)
    (ordered : catalog.Ordered) (member : entry ∈ entries) (clone : entry.isClone = true) :
    ∃ parent ∈ entries, entry.record.parent = some parent.shortname := by
  obtain ⟨index, here⟩ := List.mem_iff_getElem?.1 member
  obtain ⟨-, -, same⟩ := enumerates.getElem? here
  have isClone : catalog.isClone entry.record = true := by
    rw [clone] at same
    exact (Bool.and_eq_true _ _ ▸ same.symm).2
  obtain ⟨name, record, hparent, found⟩ := of_isClone isClone
  obtain ⟨catalogued, rfl⟩ := ordered.record?_eq_some_iff.1 found
  rw [← enumerates.map_record] at catalogued
  obtain ⟨parent, parentMember, rfl⟩ := List.mem_map.1 catalogued
  exact ⟨parent, parentMember, hparent⟩

/-- The names of the list that is sorted are coherent, with and without a title file. -/
theorem coherent_workingList (ordered : catalog.Ordered) (titles : Option Bytes) :
    Coherent (catalog.workingList titles) where
  titled := by
    cases titles with
    | none =>
        -- The placeholder is left without a title, but it is not on the list.
        refine ⟨catalog.titleOf, ?_⟩
        intro entry member
        obtain ⟨index, elsewhere, here⟩ := List.mem_eraseIdx_iff_getElem?.1 member
        rw [titledEntries, draft, List.take_length, List.getElem?_mapIdx] at here
        obtain ⟨record, hrecord, rfl⟩ := Option.map_eq_some_iff.1 here
        exact titledBy_entryOf ordered hrecord elsewhere
    | some bytes =>
        have enumerates := (Enumerates.draft catalog false).applyTitles bytes
        refine ⟨nameAmong (applyTitles bytes
          (catalog.draft false catalog.records.length).entries).entries, fun entry member => ?_⟩
        refine titledBy_inheritTitles (enumerates.increasing ordered) ?_
          (List.mem_of_mem_eraseIdx member)
        exact fun entry member clone => enumerates.parents ordered member clone
  distinct := by
    have increasing : catalog.listed.Pairwise fun a b => compare a.name b.name = .lt :=
      ordered.increasing.sublist (List.eraseIdx_sublist _ _)
    rw [← catalog.record_workingList titles, List.pairwise_map] at increasing
    apply increasing.imp
    intro a b before same
    rw [Entry.shortname, Entry.shortname] at same
    rw [same, Std.ReflOrd.compare_self] at before
    cases before

end Coherence

end SystemMenu.Catalog
