import Mathlib.Data.List.Duplicate
import SystemMenu.Proofs.Catalog.Ordered
import SystemMenu.Proofs.Text.ByteOrder

/-!
# Which records make a catalog

Records make a catalog exactly if their names can be names and no two are equal. Otherwise the first
name that can be none is told, or, if all can, the least of those that occur twice: in a sorted list
equal names stand side by side, and the first such pair is the least. The placeholder is added only where
no record has its name, so it never repeats one.

## Main statements

* `Catalog.firstRepeated?_eq_some_iff`: what is found in a sorted list.
* `Catalog.ofRecords_eq_error_iff`: why records are refused.
* `Catalog.ofRecords_verdict`: which records are refused and why, and what a catalog holds.
-/

namespace SystemMenu.Catalog

open Text.Utf8 (encode)

/-- The names of some records, in their order. -/
def names (records : List SystemRecord) : List String := records.map SystemRecord.name

/-- A text can be a name: it has characters, and none of them is a blank. -/
def IsName (name : String) : Prop := name ≠ "" ∧ ∀ c ∈ name.toList, Text.isBlank c = false

theorem isShortname_eq_true_iff {name : String} : isShortname name = true ↔ IsName name := by
  simp [isShortname, IsName]

theorem isShortname_eq_false_iff {name : String} : isShortname name = false ↔ ¬IsName name := by
  rw [← isShortname_eq_true_iff, Bool.not_eq_true]

/-- Why records are refused. -/
inductive Refused (records : List SystemRecord) : CatalogError → Prop
  /-- A name that can be none, after names that can. -/
  | invalid {before after : List SystemRecord} {record : SystemRecord} :
      records = before ++ record :: after → (∀ earlier ∈ before, IsName earlier.name) →
      ¬IsName record.name → Refused records (.invalidShortname record.name)
  /-- The least name that occurs twice, where all can be names. -/
  | repeated {name : String} :
      (∀ record ∈ records, IsName record.name) → List.Duplicate name (names records) →
      (∀ other, List.Duplicate other (names records) →
        encode name.toList ≤ encode other.toList) →
      Refused records (.duplicateShortname name)

/-- A catalog holds exactly some records and, if none of them is the placeholder, that one, by
increasing bytes of their names; a name is found where it is, and the placeholder is where the catalog
says. -/
structure Holds (catalog : Catalog) (records : List SystemRecord) : Prop where
  exactly : catalog.records.Perm
    (if "___empty" ∈ names records then records
    else records ++ [{ name := "___empty", description := "Empty driver" }])
  increasing : catalog.records.Pairwise fun a b => encode a.name.toList < encode b.name.toList
  found : ∀ name index, catalog.find? name = some index ↔
    ∃ inside : index < catalog.records.length, catalog.records[index].name = name
  placeholder : ∃ inside : catalog.placeholder < catalog.records.length,
    catalog.records[catalog.placeholder].name = "___empty"

section Repeated

variable {records : List SystemRecord}

/-- The first pair of equal neighbours in a sorted list has the least name that occurs twice. -/
theorem of_firstRepeated?_eq_some
    (sorted : records.Pairwise fun a b => (compare a.name b.name).isLE) {name : String}
    (h : firstRepeated? records = some name) :
    List.Duplicate name (names records) ∧
      ∀ other, List.Duplicate other (names records) → (compare name other).isLE := by
  induction records with
  | nil => cases h
  | cons a rest ih =>
      obtain ⟨least, sortedRest⟩ := List.pairwise_cons.1 sorted
      cases rest with
      | nil => cases h
      | cons b others =>
          simp only [firstRepeated?] at h
          split at h
          · rename_i same
            cases h
            constructor
            · exact List.duplicate_cons_iff.2 (.inl ⟨rfl, by simp [same]⟩)
            · intro other twice
              obtain ⟨record, member, rfl⟩ := List.mem_map.1 twice.mem
              obtain rfl | later := List.mem_cons.1 member
              · exact Std.ReflCmp.isLE_rfl
              · exact least record later
          · rename_i different
            obtain ⟨twice, minimal⟩ := ih sortedRest h
            refine ⟨twice.duplicate_cons _, fun other again => ?_⟩
            obtain ⟨rfl, member⟩ | again := List.duplicate_cons_iff.1 again
            · -- The first name is less than all others, so it does not occur among them.
              obtain ⟨record, later, same⟩ := List.mem_map.1 member
              have before := before_of_different sorted different record later
              rw [same, Std.ReflOrd.compare_self] at before
              cases before
            · exact minimal other again

theorem not_duplicate_of_increasing (increasing : Increasing records) (name : String) :
    ¬List.Duplicate name (names records) := by
  apply List.nodup_iff_forall_not_duplicate.1
  apply List.pairwise_map.2
  apply increasing.imp
  intro a b before same
  rw [same, Std.ReflOrd.compare_self] at before
  cases before

/-- In a sorted list the least name that occurs twice is found, if there is any. -/
theorem firstRepeated?_eq_some_iff
    (sorted : records.Pairwise fun a b => (compare a.name b.name).isLE) {name : String} :
    firstRepeated? records = some name ↔ List.Duplicate name (names records) ∧
      ∀ other, List.Duplicate other (names records) → (compare name other).isLE := by
  refine ⟨of_firstRepeated?_eq_some sorted, fun ⟨twice, least⟩ => ?_⟩
  cases found : firstRepeated? records with
  | none =>
      exact absurd twice
        (not_duplicate_of_increasing (increasing_of_firstRepeated?_eq_none sorted found) name)
  | some other =>
      obtain ⟨again, minimal⟩ := of_firstRepeated?_eq_some sorted found
      rw [Std.LawfulEqOrd.eq_of_compare (Std.OrientedCmp.isLE_antisymm (minimal name twice)
        (least other again))]

end Repeated

section Placeholder

variable (records : List SystemRecord)

theorem withPlaceholder_eq : withPlaceholder records =
    if "___empty" ∈ names records then records
    else records ++ [{ name := "___empty", description := "Empty driver" }] := by
  have given : records.any (·.name = placeholderName) = true ↔ "___empty" ∈ names records := by
    simp only [List.any_eq_true, decide_eq_true_eq, names, List.mem_map]
    rfl
  rw [withPlaceholder]
  simp only [given]
  rfl

/-- Adding the placeholder and sorting makes no name occur twice that did not before. -/
theorem duplicate_sorted_iff {name : String} :
    List.Duplicate name (names (sortByName (withPlaceholder records))) ↔
      List.Duplicate name (names records) := by
  have sorted : (names (sortByName (withPlaceholder records))).Perm
      (names (withPlaceholder records)) := (List.mergeSort_perm _ _).map _
  rw [List.duplicate_iff_two_le_count, List.duplicate_iff_two_le_count, sorted.count_eq,
    withPlaceholder_eq]
  split
  · rfl
  · rename_i missing
    have none : (names records).count "___empty" = 0 := List.count_eq_zero.2 missing
    have added : names (records ++ [{ name := "___empty", description := "Empty driver" }]) =
        names records ++ ["___empty"] := List.map_append
    rw [added, List.count_append, List.count_singleton]
    split
    · rename_i same
      rw [← beq_iff_eq.1 same, none]
      decide
    · rfl

theorem exists_placeholder : ∃ record ∈ sortByName (withPlaceholder records),
    record.name = placeholderName := by
  have sorted := List.mergeSort_perm (withPlaceholder records)
    fun a b => (compare a.name b.name).isLE
  suffices given : ∃ record ∈ withPlaceholder records, record.name = placeholderName by
    obtain ⟨record, member, named⟩ := given
    exact ⟨record, sorted.mem_iff.2 member, named⟩
  rw [withPlaceholder_eq]
  split
  · rename_i given
    exact List.mem_map.1 given
  · exact ⟨_, List.mem_append_right _ List.mem_cons_self, rfl⟩

end Placeholder

section Verdict

variable {records : List SystemRecord}

theorem find?_invalid_eq_none_iff :
    records.find? (fun record => !isShortname record.name) = none ↔
      ∀ record ∈ records, IsName record.name := by
  simp [isShortname_eq_true_iff]

/-- Records are refused for one reason only. -/
theorem ofRecords_eq_error_iff {error : CatalogError} :
    ofRecords records = .error error ↔ Refused records error := by
  have sorted := pairwise_sortByName (withPlaceholder records)
  have least : ∀ name, firstRepeated? (sortByName (withPlaceholder records)) = some name ↔
      List.Duplicate name (names records) ∧ ∀ other, List.Duplicate other (names records) →
        encode name.toList ≤ encode other.toList := by
    intro name
    simp only [firstRepeated?_eq_some_iff sorted, duplicate_sorted_iff,
      Text.Utf8.compare_isLE_iff]
  constructor
  · intro refused
    simp only [ofRecords] at refused
    split at refused
    · rename_i record found
      cases refused
      obtain ⟨bad, before, after, split, valid⟩ := List.find?_eq_some_iff_append.1 found
      refine .invalid split (fun earlier member => ?_) ?_
      · simpa [isShortname_eq_true_iff] using valid earlier member
      · simpa [isShortname_eq_false_iff] using bad
    · rename_i allValid
      split at refused
      · rename_i name twice
        cases refused
        exact .repeated (find?_invalid_eq_none_iff.1 allValid) ((least name).1 twice).1
          ((least name).1 twice).2
      · rename_i distinct
        split at refused
        · cases refused
        · rename_i missing
          -- The placeholder is there, so the search for it finds it.
          obtain ⟨record, member, named⟩ := exists_placeholder records
          obtain ⟨index, here⟩ := List.mem_iff_getElem?.1 member
          have increasing := increasing_of_firstRepeated?_eq_none sorted distinct
          rw [locateName?_eq_some increasing here named] at missing
          cases missing
  · rintro (⟨split, valid, bad⟩ | ⟨valid, twice, minimal⟩)
    · rename_i before after record
      have found : records.find? (fun record => !isShortname record.name) = some record := by
        rw [List.find?_eq_some_iff_append]
        refine ⟨by simpa [isShortname_eq_false_iff] using bad, before, after, split, ?_⟩
        intro earlier member
        simpa [isShortname_eq_true_iff] using valid earlier member
      simp only [ofRecords, found]
    · rename_i name
      simp only [ofRecords, find?_invalid_eq_none_iff.2 valid, (least name).2 ⟨twice, minimal⟩]

/-- Records that are refused have a name that can be none or one that occurs twice. -/
theorem Refused.not_valid {error : CatalogError} (refused : Refused records error) :
    ¬((∀ record ∈ records, IsName record.name) ∧ (names records).Nodup) := by
  rintro ⟨valid, distinct⟩
  obtain ⟨split, -, bad⟩ | ⟨-, twice, -⟩ := refused
  · exact bad (valid _ (by simp [split]))
  · exact List.nodup_iff_forall_not_duplicate.1 distinct _ twice

/-- A catalog that was made of records holds them. -/
theorem holds_of_ofRecords {catalog : Catalog} (accepted : ofRecords records = .ok catalog) :
    catalog.Holds records := by
  have ordered := ordered_of_ofRecords accepted
  have among : ∀ name index, (∃ record, catalog.records[index]? = some record ∧
      record.name = name) ↔ ∃ inside : index < catalog.records.length,
        catalog.records[index].name = name := by
    intro name index
    constructor
    · rintro ⟨record, here, named⟩
      obtain ⟨inside, rfl⟩ := List.getElem?_eq_some_iff.1 here
      exact ⟨inside, named⟩
    · rintro ⟨inside, named⟩
      exact ⟨_, List.getElem?_eq_getElem inside, named⟩
  constructor
  · rw [← withPlaceholder_eq, (of_ofRecords_eq_ok accepted).sorted]
    exact List.mergeSort_perm _ _
  · apply ordered.increasing.imp
    intro a b before
    exact Text.Utf8.compare_eq_lt_iff.1 before
  · intro name index
    rw [ordered.find?_eq_some_iff, among]
  · exact (among _ _).1 ordered.placeholder

/-- Records make a catalog if and only if all their names can be names and no name occurs twice; then the
catalog holds them. Otherwise they are refused for the first name that can be none or, if there is no such
name, for the least one that occurs twice. -/
theorem ofRecords_verdict (records : List SystemRecord) :
    ((∃ catalog, ofRecords records = .ok catalog) ↔
      (∀ record ∈ records, IsName record.name) ∧ (names records).Nodup) ∧
    (∀ error, ofRecords records = .error error ↔ Refused records error) ∧
    ∀ catalog, ofRecords records = .ok catalog → catalog.Holds records := by
  refine ⟨⟨?_, fun valid => ?_⟩, fun error => ofRecords_eq_error_iff,
    fun catalog => holds_of_ofRecords⟩
  · rintro ⟨catalog, accepted⟩
    have inversion := of_ofRecords_eq_ok accepted
    refine ⟨fun record member => isShortname_eq_true_iff.1 (inversion.valid record member), ?_⟩
    apply List.nodup_iff_forall_not_duplicate.2
    intro name
    rw [← duplicate_sorted_iff, ← inversion.sorted]
    exact not_duplicate_of_increasing (ordered_of_ofRecords accepted).increasing name
  · cases verdict : ofRecords records with
    | ok catalog => exact ⟨catalog, rfl⟩
    | error error => exact absurd valid (ofRecords_eq_error_iff.1 verdict).not_valid

end Verdict

end SystemMenu.Catalog
