import Mathlib.Data.List.Chain
import SystemMenu.Listing.Order

/-!
# Sorting by insertion

Insertion sort puts elements into increasing order whenever the comparison is transitive; it looks at no
more than how the elements of the list compare with each other. The keys that are made once for each
entry change nothing.

## Main statements

* `pairwise_arrange`: the result increases.
* `arrange_congr`, `arrange_map`: what the result depends on.
* `sortEntries_eq_arrange`: sorting entries is sorting by `compareEntries`.
* `orderViolation?_eq_none_iff`: when no neighbours are in the wrong order.
-/

namespace SystemMenu

section Arrange

variable {α β : Type}

/-- Placing an element keeps a list that has the last first. -/
theorem pairwise_place {cmp : α → α → Ordering} [Std.TransCmp cmp] (x : α) {xs : List α}
    (descending : xs.Pairwise fun a b => (cmp b a).isLE) :
    (place (fun a b => cmp a b = .lt) x xs).Pairwise fun a b => (cmp b a).isLE := by
  induction xs with
  | nil => exact List.pairwise_singleton _ x
  | cons y rest ih =>
      obtain ⟨greatest, descendingRest⟩ := List.pairwise_cons.1 descending
      simp only [place]
      split
      · rename_i before
        refine List.pairwise_cons.2 ⟨fun z member => ?_, ih descendingRest⟩
        obtain rfl | old := List.mem_cons.1 ((place_perm _ x rest).mem_iff.1 member)
        · simp only [decide_eq_true_eq] at before
          simp [before]
        · exact greatest z old
      · rename_i notBefore
        have le : (cmp y x).isLE := by
          have swap : cmp y x = (cmp x y).swap := Std.OrientedCmp.eq_swap
          simp only [decide_eq_true_eq] at notBefore
          cases h : cmp x y <;> simp_all
        refine List.pairwise_cons.2 ⟨fun z member => ?_, descending⟩
        obtain rfl | old := List.mem_cons.1 member
        · exact le
        · exact Std.TransCmp.isLE_trans (greatest z old) le

/-- Sorting by a transitive comparison puts elements into increasing order. -/
theorem pairwise_arrange {cmp : α → α → Ordering} [Std.TransCmp cmp] (xs : List α) :
    (arrange (fun a b => cmp a b = .lt) xs).Pairwise fun a b => (cmp a b).isLE := by
  have descending : ∀ sorted : List α, (sorted.Pairwise fun a b => (cmp b a).isLE) →
      (xs.foldl (fun sorted x => place (fun a b => cmp a b = .lt) x sorted) sorted).Pairwise
        fun a b => (cmp b a).isLE := by
    induction xs with
    | nil => exact fun sorted h => h
    | cons x rest ih => exact fun sorted h => ih _ (pairwise_place x h)
  exact List.pairwise_reverse.2 (descending [] .nil)

/-- Placing an element asks only how it compares with those of the list. -/
theorem place_congr {p q : α → α → Bool} {x : α} {xs : List α} (h : ∀ y ∈ xs, p x y = q x y) :
    place p x xs = place q x xs := by
  induction xs with
  | nil => rfl
  | cons y rest ih =>
      simp only [place]
      rw [h y List.mem_cons_self, ih fun z member => h z (List.mem_cons_of_mem y member)]

/-- Sorting asks only how the elements of the list compare with each other. -/
theorem arrange_congr {p q : α → α → Bool} {xs : List α}
    (h : ∀ a ∈ xs, ∀ b ∈ xs, p a b = q a b) : arrange p xs = arrange q xs := by
  suffices folds : ∀ rest sorted : List α, (∀ a ∈ rest, a ∈ xs) → (∀ a ∈ sorted, a ∈ xs) →
      rest.foldl (fun sorted x => place p x sorted) sorted =
        rest.foldl (fun sorted x => place q x sorted) sorted from
    congrArg List.reverse (folds xs [] (fun _ member => member) (by simp))
  intro rest
  induction rest with
  | nil => exact fun _ _ _ => rfl
  | cons x others ih =>
      intro sorted fromRest fromSorted
      have hx := fromRest x List.mem_cons_self
      simp only [List.foldl_cons]
      rw [place_congr fun y member => h x hx y (fromSorted y member)]
      refine ih _ (fun a member => fromRest a (List.mem_cons_of_mem x member)) fun a member => ?_
      obtain rfl | old := List.mem_cons.1 ((place_perm _ x sorted).mem_iff.1 member)
      · exact hx
      · exact fromSorted a old

theorem place_map (p : β → β → Bool) (f : α → β) (x : α) (xs : List α) :
    place p (f x) (xs.map f) = (place (fun a b => p (f a) (f b)) x xs).map f := by
  induction xs with
  | nil => rfl
  | cons y rest ih =>
      simp only [List.map_cons, place]
      split
      · rw [ih, List.map_cons]
      · rfl

/-- Sorting images is sorting what they are images of. -/
theorem arrange_map (p : β → β → Bool) (f : α → β) (xs : List α) :
    arrange p (xs.map f) = (arrange (fun a b => p (f a) (f b)) xs).map f := by
  have folds : ∀ sorted : List α,
      (xs.map f).foldl (fun sorted x => place p x sorted) (sorted.map f) =
        (xs.foldl (fun sorted x => place (fun a b => p (f a) (f b)) x sorted) sorted).map f := by
    induction xs with
    | nil => exact fun _ => rfl
    | cons x rest ih =>
        intro sorted
        simp only [List.map_cons, List.foldl_cons]
        rw [place_map, ih]
  rw [arrange, arrange, List.map_reverse]
  exact congrArg List.reverse (folds [])

end Arrange

/-- Making the sort keys once for each entry changes nothing. -/
theorem sortEntries_eq_arrange (entries : List Entry) :
    sortEntries entries = arrange (fun a b => compareEntries a b = .lt) entries := by
  simp only [sortEntries]
  rw [arrange_map, List.map_map]
  exact List.map_id _

theorem sortEntries_perm (entries : List Entry) : (sortEntries entries).Perm entries := by
  rw [sortEntries_eq_arrange]
  exact arrange_perm _ entries

theorem orderViolationFrom?_eq_none_iff (position : Nat) (entries : List Entry) :
    orderViolationFrom? position (entries.map fun entry => (entry, entry.sortKeys)) = none ↔
      entries.IsChain fun a b => compareEntries b a ≠ .lt := by
  induction entries generalizing position with
  | nil => simp [orderViolationFrom?]
  | cons a rest ih =>
      cases rest with
      | nil => simp [orderViolationFrom?]
      | cons b others =>
          simp only [List.map_cons, orderViolationFrom?, List.isChain_cons_cons] at ih ⊢
          split
          · rename_i wrong
            simp [compareEntries, wrong]
          · rename_i right
            rw [ih (position + 1)]
            exact ⟨fun chain => ⟨right, chain⟩, fun chain => chain.2⟩

/-- There is no violation if and only if no entry has to stand before its predecessor. -/
theorem orderViolation?_eq_none_iff (entries : List Entry) :
    orderViolation? entries = none ↔ entries.IsChain fun a b => compareEntries b a ≠ .lt :=
  orderViolationFrom?_eq_none_iff 0 entries

end SystemMenu
