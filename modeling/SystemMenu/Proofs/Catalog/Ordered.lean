import SystemMenu.Catalog.Basic
import SystemMenu.Proofs.Catalog.Lookup

/-!
# Catalogs are in order

A catalog that was built from records increases strictly by short names, so a name stands for one
record and looking it up finds that record. What a source made of a catalog answers is what the catalog
holds; it never fails on a number that the catalog gave.

## Main statements

* `Catalog.ordered_of_ofRecords`: every catalog that was accepted is in order.
* `Catalog.ofRecords_eq_ok`: a catalog in order is accepted and stays as it is.
* `Catalog.isShortname_of_ofRecords`: its names are short names.
* `Catalog.Ordered.record?_eq_some_iff`: looking up a short name.
* `Catalog.cloneOf_source`, `Catalog.isSome_cloneOf?`: which records are clones.
-/

namespace SystemMenu.Catalog

/-- Records increase by their short names. -/
def Increasing (records : List SystemRecord) : Prop :=
  records.Pairwise fun a b => compare a.name b.name = .lt

/-- Short names increase, and the placeholder is where the catalog says. -/
structure Ordered (catalog : Catalog) : Prop where
  increasing : Increasing catalog.records
  placeholder : ∃ record, catalog.records[catalog.placeholder]? = some record ∧
    record.name = placeholderName

theorem pairwise_sortByName (records : List SystemRecord) :
    (sortByName records).Pairwise fun a b => (compare a.name b.name).isLE := by
  refine List.pairwise_mergeSort (fun a b c hab hbc => ?_) (fun a b => ?_) records
  · exact Std.TransCmp.isLE_trans hab hbc
  · rw [Std.OrientedOrd.eq_swap (a := b.name)]
    cases compare a.name b.name <;> rfl

/-- If the first two names of a sorted list differ, the first is less than all others. -/
theorem before_of_different {a b : SystemRecord} {others : List SystemRecord}
    (sorted : (a :: b :: others).Pairwise fun a b => (compare a.name b.name).isLE)
    (different : a.name ≠ b.name) : ∀ c ∈ b :: others, compare a.name c.name = .lt := by
  obtain ⟨least, sortedRest⟩ := List.pairwise_cons.1 sorted
  have before : compare a.name b.name = .lt := by
    have le := least b List.mem_cons_self
    have ne : compare a.name b.name ≠ .eq :=
      fun eq => different (Std.LawfulEqOrd.eq_of_compare eq)
    cases hab : compare a.name b.name <;> simp_all
  intro c member
  obtain rfl | later := List.mem_cons.1 member
  · exact before
  · exact Std.TransCmp.lt_of_lt_of_isLE before ((List.pairwise_cons.1 sortedRest).1 c later)

/-- In a sorted list without equal neighbours no name occurs twice. -/
theorem increasing_of_firstRepeated?_eq_none {records : List SystemRecord}
    (sorted : records.Pairwise fun a b => (compare a.name b.name).isLE)
    (h : firstRepeated? records = none) : Increasing records := by
  induction records with
  | nil => exact .nil
  | cons a rest ih =>
      have sortedRest := (List.pairwise_cons.1 sorted).2
      cases rest with
      | nil => exact List.pairwise_singleton _ a
      | cons b others =>
          simp only [firstRepeated?] at h
          split at h
          · cases h
          · rename_i different
            exact List.pairwise_cons.2 ⟨before_of_different sorted different, ih sortedRest h⟩

/-- What is known of records that were accepted. -/
structure Accepted (records : List SystemRecord) (catalog : Catalog) : Prop where
  valid : ∀ record ∈ records, isShortname record.name = true
  sorted : catalog.records = sortByName (withPlaceholder records)
  distinct : firstRepeated? catalog.records = none
  located : locateName? catalog.records placeholderName = some catalog.placeholder

theorem of_ofRecords_eq_ok {records : List SystemRecord} {catalog : Catalog}
    (accepted : ofRecords records = .ok catalog) : Accepted records catalog := by
  simp only [ofRecords] at accepted
  split at accepted
  · cases accepted
  · rename_i allValid
    split at accepted
    · cases accepted
    · rename_i distinct
      split at accepted
      · rename_i placeholder located
        cases accepted
        exact ⟨by simpa using allValid, rfl, distinct, located⟩
      · cases accepted

/-- Every catalog that was accepted is in order. -/
theorem ordered_of_ofRecords {records : List SystemRecord} {catalog : Catalog}
    (accepted : ofRecords records = .ok catalog) : catalog.Ordered := by
  have inversion := of_ofRecords_eq_ok accepted
  have sorted := pairwise_sortByName (withPlaceholder records)
  rw [← inversion.sorted] at sorted
  obtain ⟨record, here, same⟩ := Lookup.of_locate?_eq_some inversion.located
  exact ⟨increasing_of_firstRepeated?_eq_none sorted inversion.distinct, record, here,
    Std.LawfulEqOrd.eq_of_compare same⟩

/-- In records that increase by their names each name is found where it is. -/
theorem locateName?_eq_some {records : List SystemRecord} (increasing : Increasing records)
    {index : Nat} {record : SystemRecord} (here : records[index]? = some record) {name : String}
    (named : record.name = name) : locateName? records name = some index := by
  refine (Lookup.locate?_eq_some_iff (Lookup.ascending_of_pairwise increasing name)).2 ?_
  exact ⟨record, here, Std.LawfulEqOrd.compare_eq_iff_eq.2 named⟩

theorem firstRepeated?_eq_none {records : List SystemRecord} (increasing : Increasing records) :
    firstRepeated? records = none := by
  induction records with
  | nil => rfl
  | cons a rest ih =>
      obtain ⟨least, increasingRest⟩ := List.pairwise_cons.1 increasing
      cases rest with
      | nil => rfl
      | cons b others =>
          have different : a.name ≠ b.name := by
            intro same
            have before := least b List.mem_cons_self
            rw [same, Std.ReflOrd.compare_self] at before
            cases before
          rw [firstRepeated?, if_neg different]
          exact ih increasingRest

/-- Records that are in order already and have a placeholder are accepted as they are. -/
theorem ofRecords_eq_ok {catalog : Catalog}
    (valid : ∀ record ∈ catalog.records, isShortname record.name = true)
    (ordered : catalog.Ordered) : ofRecords catalog.records = .ok catalog := by
  obtain ⟨record, here, name⟩ := ordered.placeholder
  have allValid : catalog.records.find? (fun record => !isShortname record.name) = none := by
    simpa using valid
  have complete : withPlaceholder catalog.records = catalog.records := by
    rw [withPlaceholder, if_pos]
    exact List.any_eq_true.2 ⟨record, List.mem_of_getElem? here, by simp [name]⟩
  have sorted : sortByName catalog.records = catalog.records := by
    apply List.mergeSort_of_pairwise
    apply ordered.increasing.imp
    intro a b before
    rw [before]
    rfl
  have located := locateName?_eq_some ordered.increasing here name
  simp only [ofRecords, allValid, complete, sorted, firstRepeated?_eq_none ordered.increasing,
    located]

/-- Every name of a catalog that was accepted is a short name. -/
theorem isShortname_of_ofRecords {records : List SystemRecord} {catalog : Catalog}
    (accepted : ofRecords records = .ok catalog) :
    ∀ record ∈ catalog.records, isShortname record.name = true := by
  have inversion := of_ofRecords_eq_ok accepted
  intro record member
  rw [inversion.sorted] at member
  have given := (List.mergeSort_perm _ _).mem_iff.1 member
  rw [withPlaceholder] at given
  split at given
  · exact inversion.valid record given
  · obtain old | rfl := List.mem_append.1 given |>.imp_right List.mem_singleton.1
    · exact inversion.valid record old
    · decide +kernel

theorem name_ne_empty_of_ofRecords {records : List SystemRecord} {catalog : Catalog}
    (accepted : ofRecords records = .ok catalog) {record : SystemRecord}
    (member : record ∈ catalog.records) : record.name ≠ "" := by
  have shortname := isShortname_of_ofRecords accepted record member
  simp only [isShortname, Bool.and_eq_true, decide_eq_true_eq] at shortname
  exact shortname.1

/-- The record with a short name. -/
def record? (catalog : Catalog) (name : String) : Option SystemRecord :=
  (catalog.find? name).bind fun index => catalog.records[index]?

/-- The parent of a record is catalogued and no BIOS set. -/
def isClone (catalog : Catalog) (record : SystemRecord) : Bool :=
  (record.parent.bind catalog.record?).any fun parent => !parent.traits.biosRoot

section Answers

variable (catalog : Catalog)

/-- A number that is found is the number of a record with the name. -/
theorem of_find?_eq_some {catalog : Catalog} {name : String} {index : Nat}
    (h : catalog.find? name = some index) :
    ∃ record, catalog.records[index]? = some record ∧ record.name = name := by
  obtain ⟨record, hrecord, same⟩ := Lookup.of_locate?_eq_some h
  exact ⟨record, hrecord, Std.LawfulEqOrd.eq_of_compare same⟩

theorem recordAt_source {index : Nat} {record : SystemRecord}
    (h : catalog.records[index]? = some record) : catalog.source.recordAt index = .ok record := by
  simp [source, h]

/-- Whether a record is a clone can be read off the parent that the catalog finds for it. -/
theorem isSome_cloneOf? {index : Nat} {record : SystemRecord}
    (h : catalog.records[index]? = some record) :
    (catalog.cloneOf? index).isSome = catalog.isClone record := by
  cases hparent : record.parent with
  | none => simp [cloneOf?, isClone, h, hparent]
  | some name =>
      cases hfind : catalog.find? name with
      | none => simp [cloneOf?, isClone, record?, h, hparent, hfind]
      | some found =>
          obtain ⟨parent, hfound, -⟩ := of_find?_eq_some hfind
          cases hbios : parent.traits.biosRoot <;>
            simp [cloneOf?, isClone, record?, h, hparent, hfind, hfound, hbios]

/-- A source made of a catalog tells the parent of a clone as the catalog does. -/
theorem cloneOf_source {index : Nat} {record : SystemRecord}
    (h : catalog.records[index]? = some record) :
    catalog.source.cloneOf index = .ok (catalog.cloneOf? index) := by
  have recordAt := catalog.recordAt_source h
  cases hparent : record.parent with
  | none => simp [Source.cloneOf, cloneOf?, recordAt, h, hparent, bind, Except.bind, pure, Except.pure]
  | some name =>
      cases hfind : catalog.find? name with
      | none =>
          have unknown : catalog.source.find? name = none := hfind
          simp [Source.cloneOf, cloneOf?, recordAt, h, hparent, hfind, unknown, bind, Except.bind,
            pure, Except.pure]
      | some found =>
          obtain ⟨parent, hfound, -⟩ := of_find?_eq_some hfind
          have known : catalog.source.find? name = some found := hfind
          have parentAt := catalog.recordAt_source hfound
          simp [Source.cloneOf, cloneOf?, recordAt, parentAt, h, hparent, hfind, hfound, known, bind,
            Except.bind, pure, Except.pure]

end Answers

namespace Ordered

variable {catalog : Catalog}

/-- A name is the name of one number at most. -/
theorem find?_eq_some_iff (ordered : catalog.Ordered) {name : String} {index : Nat} :
    catalog.find? name = some index ↔
      ∃ record, catalog.records[index]? = some record ∧ record.name = name := by
  constructor
  · exact of_find?_eq_some
  · rintro ⟨record, here, named⟩
    exact locateName?_eq_some ordered.increasing here named

/-- The record with a short name is the one that has it. -/
theorem record?_eq_some_iff (ordered : catalog.Ordered) {name : String} {record : SystemRecord} :
    catalog.record? name = some record ↔ record ∈ catalog.records ∧ record.name = name := by
  constructor
  · intro h
    obtain ⟨index, hfind, hrecord⟩ := Option.bind_eq_some_iff.1 h
    obtain ⟨found, hfound, same⟩ := of_find?_eq_some hfind
    obtain rfl : found = record := Option.some.inj (hfound.symm.trans hrecord)
    exact ⟨List.mem_of_getElem? hrecord, same⟩
  · rintro ⟨member, same⟩
    obtain ⟨index, hindex⟩ := List.mem_iff_getElem?.1 member
    exact Option.bind_eq_some_iff.2
      ⟨index, ordered.find?_eq_some_iff.2 ⟨record, hindex, same⟩, hindex⟩

end Ordered

end SystemMenu.Catalog
