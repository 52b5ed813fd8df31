import Mathlib.Logic.Relation
import SystemMenu.Proofs.Text.Collation
import SystemMenu.Proofs.Text.NormalForm

/-!
# Dictionary order and its first level

The letters of a text are the letters of its characters, one after the other. Marks have none, and a
character has the letters of its folded form, so a text keeps its letters when it is decomposed, when marks
come or go, and when case or width changes. These steps lead from every text to its letters; two texts are
therefore the same on the first level exactly when they can be respelled into each other.

## Main statements

* `letters_ofText`: the first level, character by character.
* `Respelled.letters_eq`: one step of respelling keeps the letters.
* `eqvGen_letters`: respelling leads from a text to its letters.
* `collate_by_levels`: the laws of dictionary order.
-/

namespace SystemMenu.Text

section Letters

/-- A mark has no letters. -/
theorem letters_eq_nil {mark : Char} (combining : isMark mark = true) : letters mark = [] := by
  have none : (decompose mark).filter (fun d => !isMark d) = [] := by
    refine List.filter_eq_nil_iff.2 fun d member => ?_
    rw [isMark_of_mem_decompose combining member]
    exact Bool.false_ne_true
  rw [letters, none, List.flatMap_nil]

/-- Characters with one folded form have the same letters. -/
theorem letters_congr {c d : Char} (same : foldChar c = foldChar d) : letters c = letters d := by
  rw [← letters_foldChar c, same, letters_foldChar d]

/-- The folded characters of a canonical form that are no marks are the letters of the text. -/
theorem flatMap_foldChar_filter_canonicalForm (text : List Char) :
    ((canonicalForm text).filter fun c => !isMark c).flatMap foldChar = text.flatMap letters := by
  have still : ∀ c, (!isMark c) = true → combiningClass c = 0 := fun c letter =>
    combiningClass_eq_zero (by simpa using letter)
  rw [canonicalForm, filter_reorder still, List.filter_flatMap, List.flatMap_assoc]
  rfl

/-- The first level of a text holds the letters of its characters. -/
theorem letters_ofText (text : String) :
    (CollationKey.ofText text).letters = text.toList.flatMap letters :=
  flatMap_foldChar_filter_canonicalForm text.toList

end Letters

section Respelling

open Relation

/-- One step of spelling a text in another way: it is brought into canonical form, a mark comes to it, or a
character is exchanged for one with the same folded form. -/
inductive Respelled : List Char → List Char → Prop
  | decomposed (text : List Char) : Respelled text (canonicalForm text)
  | marked {mark : Char} (before after : List Char) (combining : isMark mark = true) :
      Respelled (before ++ after) (before ++ mark :: after)
  | refolded {c d : Char} (before after : List Char) (same : foldChar c = foldChar d) :
      Respelled (before ++ c :: after) (before ++ d :: after)

/-- One step of respelling keeps the letters. -/
theorem Respelled.letters_eq {a b : List Char} (step : Respelled a b) :
    a.flatMap letters = b.flatMap letters := by
  cases step with
  | decomposed =>
      rw [← flatMap_foldChar_filter_canonicalForm, ← flatMap_foldChar_filter_canonicalForm,
        canonicalForm_canonicalForm]
  | marked before after combining =>
      simp only [List.flatMap_append, List.flatMap_cons, letters_eq_nil combining, List.nil_append]
  | refolded before after same =>
      simp only [List.flatMap_append, List.flatMap_cons, letters_congr same]

/-- Respelling in any number of steps, forward or backward, keeps the letters. -/
theorem flatMap_letters_eq_of_eqvGen {a b : List Char} (respelled : EqvGen Respelled a b) :
    a.flatMap letters = b.flatMap letters := by
  induction respelled with
  | rel _ _ step => exact step.letters_eq
  | refl _ => rfl
  | symm _ _ _ same => exact same.symm
  | trans _ _ _ _ _ first second => exact first.trans second

/-- In a decomposed text marks can be taken away and the other characters folded, one after the other. -/
theorem eqvGen_fold_letters (before text : List Char) (full : ∀ c ∈ text, decompose c = [c]) :
    EqvGen Respelled (before ++ text)
      (before ++ (text.filter fun c => !isMark c).flatMap foldChar) := by
  induction text generalizing before with
  | nil => exact .refl _
  | cons c rest ih =>
      obtain ⟨self, fullRest⟩ := List.forall_mem_cons.1 full
      cases mark : isMark c with
      | true =>
          -- The mark goes by a step backwards.
          rw [List.filter_cons_of_neg (by simp [mark])]
          exact .trans _ _ _ (.symm _ _ (.rel _ _ (.marked before rest mark))) (ih before fullRest)
      | false =>
          obtain ⟨folded, -, -, fixed⟩ := foldAlone_spec self
          have step := Respelled.refolded before rest (folded.trans fixed.symm)
          have tail := ih (before ++ [foldAlone c]) fullRest
          rw [List.append_assoc, List.append_assoc] at tail
          rw [List.filter_cons_of_pos (by simp [mark]), List.flatMap_cons, folded]
          exact .trans _ _ _ (.rel _ _ step) tail

/-- Respelling leads from a text to its letters. -/
theorem eqvGen_letters (text : List Char) : EqvGen Respelled text (text.flatMap letters) := by
  have folded := eqvGen_fold_letters [] (canonicalForm text) fun _ => decompose_of_mem_canonicalForm
  rw [List.nil_append, List.nil_append, flatMap_foldChar_filter_canonicalForm] at folded
  exact .trans _ _ _ (.rel _ _ (.decomposed text)) folded

/-- Two texts have the same letters exactly if they can be respelled into each other. -/
theorem samePrimary_iff_eqvGen (a b : String) :
    (CollationKey.ofText a).SamePrimary (.ofText b) ↔ EqvGen Respelled a.toList b.toList := by
  rw [CollationKey.SamePrimary, letters_ofText, letters_ofText]
  constructor
  · intro same
    have back := EqvGen.symm _ _ (eqvGen_letters b.toList)
    rw [← same] at back
    exact .trans _ _ _ (eqvGen_letters a.toList) back
  · exact flatMap_letters_eq_of_eqvGen

end Respelling

section Levels

variable {a b c : CollationKey}

/-- A key that is not behind another one is not behind it on the first level. -/
theorem isLE_letters (le : (compare a b).isLE) : (compare a.letters b.letters).isLE := by
  rw [CollationKey.compare_eq_then] at le
  exact (Ordering.isLE_then_iff_and.1 le).1

/-- What stands between two keys with the same letters has these letters as well. -/
theorem samePrimary_of_between (same : a.SamePrimary c) (first : (compare a b).isLE)
    (second : (compare b c).isLE) : a.SamePrimary b ∧ b.SamePrimary c := by
  have le := isLE_letters first
  have ge := isLE_letters second
  rw [← same] at ge
  have equal : a.letters = b.letters :=
    Std.LawfulEqOrd.eq_of_compare (Std.OrientedCmp.isLE_antisymm le ge)
  exact ⟨equal, equal.symm.trans same⟩

end Levels

section Sorting

/-- A list of texts is sorted into dictionary order in exactly one way. -/
theorem perm_and_pairwise_iff_eq_sortCollated {texts result : List String} :
    (result.Perm texts ∧ result.Pairwise fun a b => (collate a b).isLE) ↔
      result = sortCollated texts := by
  rw [sortCollated_eq_mergeSort]
  have inOrder : (texts.mergeSort fun a b => (collate a b).isLE).Pairwise fun a b =>
      (collate a b).isLE := pairwise_mergeSort_isLE texts
  have same := List.mergeSort_perm texts fun a b => (collate a b).isLE
  constructor
  · rintro ⟨perm, sorted⟩
    exact eq_of_perm_of_pairwise_isLE sorted inOrder (perm.trans same.symm)
  · rintro rfl
    exact ⟨same, inOrder⟩

/-- Distinct texts are sorted into strict dictionary order. -/
theorem nodup_iff_pairwise_sortCollated {texts : List String} :
    texts.Nodup ↔ (sortCollated texts).Pairwise fun a b => collate a b = .lt := by
  obtain ⟨perm, sorted⟩ := perm_and_pairwise_iff_eq_sortCollated.2 (Eq.refl (sortCollated texts))
  constructor
  · exact fun nodup => pairwise_lt_of_nodup sorted (perm.nodup_iff.2 nodup)
  · intro strict
    refine perm.nodup_iff.1 (strict.imp fun {x y} less same => ?_)
    rw [collate_eq_eq_iff.2 same] at less
    cases less

end Sorting

/-- Dictionary order is a strict total order: it is transitive, turns round with its arguments, and only a
text is equal to itself. On its first level it is the order of letters: what stands between texts with the
same letters has these letters, and texts have the same letters exactly if they can be respelled into each
other. So every list of texts is sorted in exactly one way, and strictly if the texts are distinct. -/
theorem collate_by_levels (a b c : String) :
    ((collate a b).isLE → (collate b c).isLE → (collate a c).isLE) ∧
      (collate a b = .lt → collate b c = .lt → collate a c = .lt) ∧
      collate b a = (collate a b).swap ∧ (collate a b = .eq ↔ a = b) ∧
      ((CollationKey.ofText a).SamePrimary (.ofText c) → (collate a b).isLE → (collate b c).isLE →
        (CollationKey.ofText a).SamePrimary (.ofText b) ∧
          (CollationKey.ofText b).SamePrimary (.ofText c)) ∧
      ((CollationKey.ofText a).SamePrimary (.ofText b) ↔
        Relation.EqvGen Respelled a.toList b.toList) ∧
      ∀ texts result : List String,
        ((result.Perm texts ∧ result.Pairwise fun x y => (collate x y).isLE) ↔
          result = sortCollated texts) ∧
        (texts.Nodup ↔ (sortCollated texts).Pairwise fun x y => collate x y = .lt) := by
  refine ⟨Std.TransCmp.isLE_trans, Std.TransCmp.lt_trans, Std.OrientedCmp.eq_swap, collate_eq_eq_iff,
    samePrimary_of_between, samePrimary_iff_eqvGen a b, fun texts result => ⟨?_, ?_⟩⟩
  · exact perm_and_pairwise_iff_eq_sortCollated
  · exact nodup_iff_pairwise_sortCollated

end SystemMenu.Text
