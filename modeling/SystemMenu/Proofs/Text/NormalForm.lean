import SystemMenu.Proofs.Text.CanonicalOrder
import SystemMenu.Proofs.Text.Folding

/-!
# Search keys are normal forms

A text in canonical form consists of characters that are left alone, in order. Folding such a character gives
one character, which is left alone as well and moves in the same way, so folding does not undo the canonical
form. A key is therefore its own key, and the keys are the texts in which nothing is left to be done.

## Main statements

* `canonicalForm_eq_self`: what is decomposed and in order is in canonical form.
* `canonicalForm_map_foldWidth`: narrowing before or after the canonical form.
* `isNormal_searchKeyChars`, `searchKeyChars_eq_self`: keys are normal, and what is normal is its own key.
* `searchKey_normal_form`: what does not change a key, and which texts are keys.
-/

namespace SystemMenu.Text

variable {text : List Char}

section CanonicalForm

/-- The characters of a canonical form are left alone. -/
theorem decompose_of_mem_canonicalForm {d : Char} (member : d ∈ canonicalForm text) :
    decompose d = [d] := by
  obtain ⟨c, -, part⟩ := List.mem_flatMap.1 ((reorder_perm _).mem_iff.1 member)
  exact decompose_of_mem_decompose part

/-- What is decomposed and in order is in canonical form. -/
theorem canonicalForm_eq_self (full : ∀ c ∈ text, decompose c = [c]) (inOrder : MarksInOrder text) :
    canonicalForm text = text := by
  rw [canonicalForm, flatMap_decompose_eq_self full, reorder_of_marksInOrder inOrder]

/-- A canonical form is its own canonical form. -/
theorem canonicalForm_canonicalForm (text : List Char) :
    canonicalForm (canonicalForm text) = canonicalForm text :=
  canonicalForm_eq_self (fun _ => decompose_of_mem_canonicalForm) (marksInOrder_reorder _)

/-- Narrowing before the canonical form is narrowing afterwards. -/
theorem canonicalForm_map_foldWidth (text : List Char) :
    canonicalForm (text.map foldWidth) = (canonicalForm text).map foldWidth := by
  calc canonicalForm (text.map foldWidth)
    _ = reorder ((text.flatMap decompose).map foldWidth) := by
      rw [canonicalForm, List.flatMap_map, List.map_flatMap]
      simp only [decompose_foldWidth]
    _ = (canonicalForm text).map foldWidth := reorder_map fun c _ => combiningClass_foldWidth c

end CanonicalForm

section Keys

/-- The folded form of a character that is left alone. -/
def foldAlone (c : Char) : Char := (foldChar c).headD c

/-- A character that is left alone has a folded form that is left alone, and both move in the same way. -/
theorem foldAlone_spec {c : Char} (self : decompose c = [c]) :
    foldChar c = [foldAlone c] ∧ decompose (foldAlone c) = [foldAlone c] ∧
      combiningClass (foldAlone c) = combiningClass c ∧ foldChar (foldAlone c) = [foldAlone c] := by
  obtain ⟨d, folded, alone, sameClass, fixed⟩ := foldChar_of_decompose_eq self
  have single : foldAlone c = d := by rw [foldAlone, folded, List.headD_cons]
  rw [single]
  exact ⟨folded, alone, sameClass, fixed⟩

/-- A key is the canonical form with each character folded by itself. -/
theorem searchKeyChars_eq_map (text : List Char) :
    searchKeyChars text = (canonicalForm text).map foldAlone := by
  have single : ∀ c ∈ canonicalForm text, foldChar c = [foldAlone c] := fun c member =>
    (foldAlone_spec (decompose_of_mem_canonicalForm member)).1
  rw [searchKeyChars, List.flatMap_congr single, List.map_eq_flatMap]

/-- Nothing in the text is left to be decomposed, folded or moved. -/
structure IsNormal (text : List Char) : Prop where
  /-- Every character is left alone. -/
  full : ∀ c ∈ text, decompose c = [c]
  /-- Every character is narrow and lowercase. -/
  folded : ∀ c ∈ text, foldChar c = [c]
  /-- The marks are in order. -/
  inOrder : MarksInOrder text

/-- Every key is normal. -/
theorem isNormal_searchKeyChars (text : List Char) : IsNormal (searchKeyChars text) := by
  rw [searchKeyChars_eq_map]
  have alone : ∀ c ∈ canonicalForm text, decompose c = [c] := fun _ => decompose_of_mem_canonicalForm
  -- Folding keeps the classes, so the folded text is in order because the canonical form is.
  have still : reorder (canonicalForm text) = canonicalForm text :=
    reorder_of_marksInOrder (marksInOrder_reorder _)
  have inOrder := marksInOrder_reorder ((canonicalForm text).map foldAlone)
  rw [reorder_map fun c member => (foldAlone_spec (alone c member)).2.2.1, still] at inOrder
  refine ⟨?_, ?_, inOrder⟩
  · rintro d member
    obtain ⟨c, inside, rfl⟩ := List.mem_map.1 member
    exact (foldAlone_spec (alone c inside)).2.1
  · rintro d member
    obtain ⟨c, inside, rfl⟩ := List.mem_map.1 member
    exact (foldAlone_spec (alone c inside)).2.2.2

/-- What is normal is its own key. -/
theorem searchKeyChars_eq_self (normal : IsNormal text) : searchKeyChars text = text := by
  rw [searchKeyChars, canonicalForm_eq_self normal.full normal.inOrder, List.flatMap_congr normal.folded,
    List.flatMap_singleton']

/-- Narrow characters have the same key. -/
theorem searchKeyChars_map_foldWidth (text : List Char) :
    searchKeyChars (text.map foldWidth) = searchKeyChars text := by
  simp only [searchKeyChars, canonicalForm_map_foldWidth, List.flatMap_map, foldChar_foldWidth]

end Keys

/-- A search key is its own key. A text keeps its key when it is narrowed and when it is brought into canonical
form, so texts with one canonical form have one key; only the empty text has an empty key. The keys are the
texts in which nothing is left to be done. -/
theorem searchKey_normal_form (x : String) :
    searchKey (searchKey x) = searchKey x ∧ searchKey (x.map foldWidth) = searchKey x ∧
      searchKey (.ofList (canonicalForm x.toList)) = searchKey x ∧
      (∀ y : String, canonicalForm x.toList = canonicalForm y.toList → searchKey x = searchKey y) ∧
      (searchKey x = "" ↔ x = "") ∧ (searchKey x = x ↔ IsNormal x.toList) := by
  have idempotent : searchKey (searchKey x) = searchKey x := by
    rw [searchKey, searchKey, String.toList_ofList,
      searchKeyChars_eq_self (isNormal_searchKeyChars x.toList)]
  refine ⟨idempotent, ?_, ?_, fun y same => ?_, ⟨fun none => ?_, ?_⟩, fun same => ?_, fun normal => ?_⟩
  · rw [searchKey, String.toList_map, searchKeyChars_map_foldWidth, searchKey]
  · rw [searchKey, String.toList_ofList, searchKeyChars, canonicalForm_canonicalForm, searchKey,
      searchKeyChars]
  · rw [searchKey, searchKey, searchKeyChars, searchKeyChars, same]
  · by_contra filled
    exact searchKey_ne_empty filled none
  · rintro rfl
    rfl
  · have chars := congrArg String.toList same
    rw [searchKey, String.toList_ofList] at chars
    exact chars ▸ isNormal_searchKeyChars x.toList
  · rw [searchKey, searchKeyChars_eq_self normal, String.ofList_toList]

end SystemMenu.Text
