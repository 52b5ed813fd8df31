import Mathlib.Data.List.Sort
import SystemMenu.Text.Collation

/-!
# Dictionary order is an order

The four levels of a collation key are compared one after the other, and each level is a list or a text
with an order of its own. So the comparison of keys is transitive, and by the last level it is equal on
equal keys only. Where that is so, a list in order is determined by what it holds.

## Main statements

* `pairwise_mergeSort_isLE`: sorting by a transitive comparison gives a list in order.
* `eq_of_perm_of_pairwise_isLE`, `eq_of_pairwise_lt`: what determines a list in order.
* `Text.collate_eq_eq_iff`: only equal texts are equal in the dictionary.
* `Text.sortCollated_eq_mergeSort`: the keys that are made once for each text change nothing.
-/

namespace SystemMenu

section Sorted

variable {α : Type} {cmp : α → α → Ordering} {a b : List α}

/-- Sorting by a transitive comparison puts values into increasing order. -/
theorem pairwise_mergeSort_isLE [Std.TransCmp cmp] (values : List α) :
    (values.mergeSort fun a b => (cmp a b).isLE).Pairwise fun a b => (cmp a b).isLE := by
  refine List.pairwise_mergeSort (fun a b c => Std.TransCmp.isLE_trans) (fun a b => ?_) values
  have swap : cmp b a = (cmp a b).swap := Std.OrientedCmp.eq_swap
  rw [swap]
  cases cmp a b <;> rfl

/-- Where only equal values are equal in the order, a list in order is determined by its values and how often
they occur. -/
theorem eq_of_perm_of_pairwise_isLE [Std.TransCmp cmp] [Std.LawfulEqCmp cmp]
    (aInOrder : a.Pairwise fun x y => (cmp x y).isLE) (bInOrder : b.Pairwise fun x y => (cmp x y).isLE)
    (same : a.Perm b) : a = b := by
  refine List.Perm.eq_of_pairwise (fun x y _ _ le ge => ?_) aInOrder bInOrder same
  have equal : cmp x y = .eq := Std.OrientedCmp.isLE_antisymm le ge
  exact Std.LawfulEqCmp.eq_of_compare equal

/-- Where only equal values are equal in the order, a value that is not behind another one is before it. -/
theorem lt_of_isLE_of_ne [Std.LawfulEqCmp cmp] {x y : α} (le : (cmp x y).isLE) (different : x ≠ y) :
    cmp x y = .lt := by
  cases h : cmp x y with
  | lt => rfl
  | eq => exact absurd (Std.LawfulEqCmp.eq_of_compare h) different
  | gt => simp [h] at le

/-- Where only equal values are equal in the order, a list in order without repetitions is in strict order. -/
theorem pairwise_lt_of_nodup [Std.LawfulEqCmp cmp] (inOrder : a.Pairwise fun x y => (cmp x y).isLE)
    (nodup : a.Nodup) : a.Pairwise fun x y => cmp x y = .lt :=
  inOrder.imp₂ (fun _ _ => lt_of_isLE_of_ne) nodup

/-- A list in strict order is determined by its values. -/
theorem eq_of_pairwise_lt [Std.TransCmp cmp] (aStrict : a.Pairwise fun x y => cmp x y = .lt)
    (bStrict : b.Pairwise fun x y => cmp x y = .lt) (same : ∀ value, value ∈ a ↔ value ∈ b) : a = b := by
  have irrefl : Std.Irrefl fun x y : α => cmp x y = .lt := by
    refine ⟨fun x less => ?_⟩
    have self : cmp x x = .eq := Std.ReflCmp.compare_self
    rw [self] at less
    cases less
  have antisymm : Std.Antisymm fun x y : α => cmp x y = .lt := by
    refine ⟨fun x y less greater => ?_⟩
    have swap : cmp x y = (cmp y x).swap := Std.OrientedCmp.eq_swap
    rw [less, greater] at swap
    cases swap
  exact aStrict.eq_of_mem_iff bStrict same

end Sorted

namespace Text

namespace CollationKey

instance : Std.TransOrd CollationKey :=
  inferInstanceAs <| Std.TransCmp <|
    compareLex (compareOn letters) <| compareLex (compareOn marked) <|
      compareLex (compareOn capitals) (compareOn text)

theorem compare_eq_then (a b : CollationKey) :
    compare a b = (compare a.letters b.letters).then ((compare a.marked b.marked).then
      ((compare a.capitals b.capitals).then (compare a.text b.text))) := rfl

instance : Std.LawfulEqOrd CollationKey where
  eq_of_compare {a b} h := by
    simp only [compare_eq_then, Ordering.then_eq_eq, Std.LawfulEqOrd.compare_eq_iff_eq] at h
    obtain ⟨letters, marked, capitals, text⟩ := h
    cases a
    cases b
    simp_all

end CollationKey

/-- Only equal texts are equal in the dictionary. -/
theorem collate_eq_eq_iff {a b : String} : collate a b = .eq ↔ a = b := by
  constructor
  · exact fun h => CollationKey.ofText_injective (Std.LawfulEqOrd.eq_of_compare h)
  · rintro rfl
    exact Std.ReflOrd.compare_self

instance : Std.TransCmp collate :=
  inferInstanceAs <| Std.TransCmp <| compareOn CollationKey.ofText

instance : Std.LawfulEqCmp collate where
  eq_of_compare := collate_eq_eq_iff.1

/-- The keys that are made once for each text change nothing. -/
theorem sortCollated_eq_mergeSort (texts : List String) :
    sortCollated texts = texts.mergeSort fun a b => (collate a b).isLE := by
  have sorted := List.map_mergeSort (r := fun a b : String => (collate a b).isLE)
    (s := fun a b : CollationKey × String => (compare a.1 b.1).isLE)
    (f := fun text => (CollationKey.ofText text, text)) (l := texts) fun _ _ _ _ => rfl
  rw [sortCollated, ← sorted, List.map_map]
  exact List.map_id _

end Text

end SystemMenu
