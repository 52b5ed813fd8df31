import SystemMenu.Proofs.Text.Decompositions
import SystemMenu.Text.SearchKey

/-!
# Search keys of joined and of non-empty texts

A space is a boundary that no mark crosses, so two texts with a space between them may be brought into
canonical form one by one. No character is lost on the way to a search key: every character decomposes
into at least one, and every one of those has a lowercase form.

## Main statements

* `reorder_append_of_class_zero`: marks stay on their side of a character that never moves.
* `searchKeyJoined_eq_searchKey`: the key of two texts is the key of both with a space between them.
* `searchKey_ne_empty`: only the empty text has an empty key.
-/

namespace SystemMenu.Text

section Decomposition

variable {text : List Char}

theorem flatMap_decompose_eq_self (full : ∀ c ∈ text, decompose c = [c]) :
    text.flatMap decompose = text := by
  rw [List.flatMap_congr full, List.flatMap_singleton']

/-- A text of the first characters is only reordered. -/
theorem canonicalForm_eq_reorder (low : text.all (·.toNat < 0xC0) = true) :
    canonicalForm text = reorder text := by
  rw [canonicalForm, flatMap_decompose_eq_self fun c member =>
    decompose_eq_self (of_decide_eq_true (List.all_eq_true.1 low c member))]

end Decomposition

section Boundary

variable {boundary : Char}

/-- A mark that is inserted stays in front of a character that never moves. -/
theorem insertMark_append (zero : combiningClass boundary = 0) (c : Char)
    (before after : List Char) :
    insertMark c (before ++ boundary :: after) = insertMark c before ++ boundary :: after := by
  induction before with
  | nil => simp [insertMark, zero]
  | cons d rest ih =>
      simp only [List.cons_append, insertMark]
      split
      · rw [ih]
        rfl
      · rfl

/-- Marks stay on their side of a character that never moves. -/
theorem reorder_append_of_class_zero (zero : combiningClass boundary = 0)
    (before after : List Char) :
    reorder (before ++ boundary :: after) = reorder before ++ boundary :: reorder after := by
  induction before with
  | nil => exact insertMark_of_class_zero zero _
  | cons c rest ih =>
      simp only [List.cons_append, reorder]
      rw [ih, insertMark_append zero]

theorem combiningClass_space : combiningClass ' ' = 0 := by decide +kernel

/-- Texts with a space between them are brought into canonical form one by one. -/
theorem canonicalForm_append_space (before after : List Char) :
    canonicalForm (before ++ ' ' :: after) =
      canonicalForm before ++ ' ' :: canonicalForm after := by
  have space : decompose ' ' = [' '] := decompose_eq_self (by decide)
  simp only [canonicalForm, List.flatMap_append, List.flatMap_cons, space, List.singleton_append]
  exact reorder_append_of_class_zero combiningClass_space _ _

/-- The key of two texts is the key of both with a space between them. -/
theorem searchKeyJoined_eq_searchKey (first second : String) :
    searchKeyJoined first second = searchKey (first ++ " " ++ second) := by
  have text : (first ++ " " ++ second).toList = first.toList ++ ' ' :: second.toList := by
    simp
  rw [searchKey, searchKeyChars, text, canonicalForm_append_space, searchKeyJoined]

end Boundary

section NonEmpty

theorem canonicalForm_ne_nil {text : List Char} (h : text ≠ []) : canonicalForm text ≠ [] := by
  obtain ⟨c, rest, rfl⟩ := List.exists_cons_of_ne_nil h
  intro none
  have same := reorder_perm ((c :: rest).flatMap decompose)
  rw [← canonicalForm, none, List.flatMap_cons] at same
  exact decompose_ne_nil c (List.append_eq_nil_iff.1 same.symm.eq_nil).1

theorem foldChar_ne_nil (c : Char) : foldChar c ≠ [] := by
  unfold foldChar lowercase
  split
  · simp
  · split
    · split <;> simp
    · simp

/-- Only the empty text has an empty key. -/
theorem searchKey_ne_empty {text : String} (h : text ≠ "") : searchKey text ≠ "" := by
  have chars : text.toList ≠ [] := by simpa using h
  obtain ⟨c, rest, form⟩ := List.exists_cons_of_ne_nil (canonicalForm_ne_nil chars)
  intro none
  have key : searchKeyChars text.toList = [] := by simpa [searchKey] using none
  simp [searchKeyChars, form, foldChar_ne_nil] at key

end NonEmpty

end SystemMenu.Text
