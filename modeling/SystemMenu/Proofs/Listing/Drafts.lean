import SystemMenu.Listing.Draft
import SystemMenu.Proofs.Catalog.Ordered

/-!
# The draft of a catalog

What the records of a catalog add to a draft one by one is written down here at once, for any number of
records: an entry for each, and what is counted and collected of all but the placeholder. The source
made of the catalog answers every question on the way.

## Main statements

* `Catalog.linkParent_source`: what an entry is told about its parent.
* `Catalog.addRecord_draft`: one record takes the draft of some records to that of one more.
-/

namespace SystemMenu.Catalog

/-- The title of a record's parent, or its short name if it is not catalogued. -/
def parentTitle (catalog : Catalog) (record : SystemRecord) : String :=
  match record.parent with
  | none => ""
  | some name => ((catalog.record? name).map (·.description)).getD name

/-- The entry of a record before titles are applied. -/
def entryOf (catalog : Catalog) (copyTitles : Bool) (index : Nat) (record : SystemRecord) : Entry :=
  if index = catalog.placeholder then { record := record, index := index }
  else
    { record := record
      index := index
      isClone := catalog.isClone record
      description := if copyTitles then record.description else ""
      parent := if copyTitles then catalog.parentTitle record else "" }

/-- The first records without the placeholder. -/
def listedAmong (catalog : Catalog) (count : Nat) : List SystemRecord :=
  (catalog.records.take count).eraseIdx catalog.placeholder

/-- What some records offer as filters. -/
def collected (records : List SystemRecord) : FilterIndex :=
  records.foldl (fun index record =>
    (index.addManufacturer record.manufacturer).addYear record.year) {}

/-- The draft of the first records of a catalog. -/
def draft (catalog : Catalog) (copyTitles : Bool) (count : Nat) : Draft where
  entries := (catalog.records.take count).mapIdx (catalog.entryOf copyTitles)
  biosCount := (catalog.listedAmong count).countP fun record => record.traits.biosRoot
  filter := collected (catalog.listedAmong count)

variable (catalog : Catalog)

section EntryOf

variable (copyTitles : Bool) (index : Nat) (record : SystemRecord)

@[simp] theorem reading_entryOf : (catalog.entryOf copyTitles index record).reading = "" := by
  unfold entryOf
  split <;> rfl

end EntryOf

@[simp] theorem draft_zero (copyTitles : Bool) : catalog.draft copyTitles 0 = {} := by
  simp [draft, listedAmong, collected]

theorem parentRecord_source (name : String) :
    Draft.parentRecord catalog.source name = .ok (catalog.record? name) := by
  have find : catalog.source.find? name = catalog.find? name := rfl
  cases hfind : catalog.find? name with
  | none => simp [Draft.parentRecord, record?, find, hfind]
  | some index =>
      obtain ⟨record, hrecord, -⟩ := of_find?_eq_some hfind
      simp [Draft.parentRecord, record?, find, hfind, catalog.recordAt_source hrecord, hrecord,
        Functor.map, Except.map]

/-- An entry is told whether it is a clone and, where titles are copied, the title of its parent. -/
theorem linkParent_source (copyTitles : Bool) (index : Nat) (record : SystemRecord) :
    Draft.linkParent catalog.source copyTitles { record := record, index := index } = .ok
      { record := record
        index := index
        isClone := catalog.isClone record
        parent := if copyTitles then catalog.parentTitle record else "" } := by
  cases hparent : record.parent with
  | none => simp [Draft.linkParent, hparent, isClone, parentTitle]
  | some name =>
      simp only [Draft.linkParent, hparent, parentRecord_source, bind, Except.bind, pure,
        Except.pure]
      simp [isClone, parentTitle, hparent]

section Steps

variable {catalog} {index : Nat} {record : SystemRecord}

theorem take_succ_of_getElem? (h : catalog.records[index]? = some record) :
    catalog.records.take (index + 1) = catalog.records.take index ++ [record] := by
  rw [List.take_add_one, h]
  rfl

theorem length_take_of_getElem? (h : catalog.records[index]? = some record) :
    (catalog.records.take index).length = index := by
  have := (List.getElem?_eq_some_iff.1 h).1
  simp
  omega

/-- The placeholder is not among the listed records. -/
theorem listedAmong_succ_placeholder (h : catalog.records[index]? = some record)
    (here : index = catalog.placeholder) :
    catalog.listedAmong (index + 1) = catalog.listedAmong index := by
  have length := length_take_of_getElem? h
  have kept : (catalog.records.take index).eraseIdx catalog.placeholder =
      catalog.records.take index := List.eraseIdx_of_length_le (by omega)
  rw [listedAmong, listedAmong, take_succ_of_getElem? h, kept,
    List.eraseIdx_append_of_length_le (by omega), length, here]
  simp

/-- Every other record is listed after those before it. -/
theorem listedAmong_succ (h : catalog.records[index]? = some record)
    (elsewhere : index ≠ catalog.placeholder) :
    catalog.listedAmong (index + 1) = catalog.listedAmong index ++ [record] := by
  have length := length_take_of_getElem? h
  rw [listedAmong, listedAmong, take_succ_of_getElem? h]
  by_cases passed : catalog.placeholder < index
  · exact List.eraseIdx_append_of_lt_length (by omega) _
  · rw [List.eraseIdx_of_length_le (by simp; omega), List.eraseIdx_of_length_le (by omega)]

theorem entries_draft_succ (h : catalog.records[index]? = some record) (copyTitles : Bool) :
    (catalog.draft copyTitles (index + 1)).entries =
      (catalog.draft copyTitles index).entries ++ [catalog.entryOf copyTitles index record] := by
  simp only [draft]
  rw [take_succ_of_getElem? h, List.mapIdx_concat, length_take_of_getElem? h]

/-- One record takes the draft of those before it to the draft that includes it. -/
theorem addRecord_draft (h : catalog.records[index]? = some record) (copyTitles : Bool) :
    (catalog.draft copyTitles index).addRecord catalog.source (some catalog.placeholder) copyTitles
      index = .ok (catalog.draft copyTitles (index + 1)) := by
  have entries := entries_draft_succ h copyTitles
  simp only [Draft.addRecord, catalog.recordAt_source h, linkParent_source, bind, Except.bind, pure,
    Except.pure, Option.some.injEq]
  by_cases here : catalog.placeholder = index
  · have listed := listedAmong_succ_placeholder h here.symm
    rw [if_pos here]
    simp only [draft, listed] at entries ⊢
    rw [entries]
    simp [entryOf, here]
  · have listed := listedAmong_succ h (Ne.symm here)
    rw [if_neg here]
    simp only [draft, listed, collected, List.countP_append, List.foldl_append] at entries ⊢
    rw [entries]
    cases copyTitles <;> simp [entryOf, Ne.symm here, List.countP_cons]

end Steps

end SystemMenu.Catalog
