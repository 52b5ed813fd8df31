import SystemMenu.Catalog.Lookup

/-!
# Binary search finds what is there

Halving a window keeps two facts about the position that is left: everything after it lies after what is
sought, and it does not so itself unless it is the first. In a list in increasing order this leaves one
position for what is sought, so the search agrees with a search from one end to the other.

## Main statements

* `Lookup.narrow_spec`: the position that is left.
* `Lookup.locate?_eq_some_iff`: what is found in a list in increasing order.
-/

namespace SystemMenu.Lookup

/-- The position that halving a window leaves is the last one that does not lie after what is sought,
or the first one. -/
theorem narrow_spec {isAfter : Nat → Bool} {base size : Nat} (nonempty : 0 < size)
    (upward : ∀ i j, i ≤ j → j < base + size → isAfter i = true → isAfter j = true) :
    base ≤ narrow isAfter base size ∧ narrow isAfter base size < base + size ∧
      (narrow isAfter base size = base ∨ isAfter (narrow isAfter base size) = false) ∧
      ∀ i, narrow isAfter base size < i → i < base + size → isAfter i = true := by
  -- The induction follows the halving; in both cases the smaller window has the same two facts.
  induction base, size using narrow.induct isAfter with
  | case1 base size small =>
      have left : narrow isAfter base size = base := by
        rw [narrow]
        simp [small]
      rw [left]
      exact ⟨Nat.le_refl _, by omega, .inl rfl, fun i hi hsize => by omega⟩
  | case2 base size large half ih =>
      have step : narrow isAfter base size =
          narrow isAfter (if isAfter (base + half) then base else base + half) (size - half) := by
        rw [narrow]
        simp [large, half]
      have hhalf : half = size / 2 := rfl
      rw [step]
      by_cases after : isAfter (base + half) = true
      · simp only [after, ↓reduceDIte, ↓reduceIte] at ih ⊢
        obtain ⟨lower, upper, last, beyond⟩ := ih (by omega) fun i j hij hj =>
          upward i j hij (by omega)
        refine ⟨lower, by omega, last, ?_⟩
        intro i hi hsize
        by_cases kept : i < base + (size - half)
        · exact beyond i hi kept
        · exact upward (base + half) i (by omega) hsize after
      · simp only [after, Bool.false_eq_true, ↓reduceDIte, ↓reduceIte] at ih ⊢
        obtain ⟨lower, upper, last, beyond⟩ := ih (by omega) fun i j hij hj =>
          upward i j hij (by omega)
        refine ⟨by omega, by omega, .inr ?_, fun i hi hsize => beyond i hi (by omega)⟩
        obtain first | notAfter := last
        · rw [first]
          simpa using after
        · exact notAfter

/-- Whatever stands before an element that does not lie after what is sought lies before it. -/
def Ascending {α : Type} (order : α → Ordering) (xs : List α) : Prop :=
  xs.Pairwise fun x y => order y ≠ .gt → order x = .lt

/-- In a list that increases by a key every key is sought in increasing order. -/
theorem ascending_of_pairwise {α κ : Type} [Ord κ] [Std.TransOrd κ] {key : α → κ} {xs : List α}
    (increasing : xs.Pairwise fun x y => compare (key x) (key y) = .lt) (sought : κ) :
    Ascending (fun x => compare (key x) sought) xs := by
  apply increasing.imp
  intro x y before notAfter
  refine Std.TransCmp.lt_of_lt_of_isLE before ?_
  cases h : compare (key y) sought <;> simp_all

variable {α : Type} {order : α → Ordering} {xs : List α}

/-- What follows an element that lies after what is sought lies after it, too. -/
theorem Ascending.after_of_le (ascending : Ascending order xs) {i j : Nat} (hij : i ≤ j)
    (hj : j < xs.length) (after : order xs[i] = .gt) : order xs[j] = .gt := by
  obtain rfl | hlt := Nat.eq_or_lt_of_le hij
  · exact after
  · -- Otherwise the element at position i would lie before what is sought.
    apply Decidable.byContradiction
    intro notAfter
    have before := List.pairwise_iff_getElem.1 ascending i j (by omega) hj hlt notAfter
    rw [after] at before
    cases before

/-- In a list in increasing order the search finds an element if and only if it is there. -/
theorem locate?_eq_some_iff (ascending : Ascending order xs) {i : Nat} :
    locate? order xs = some i ↔ ∃ x, xs[i]? = some x ∧ order x = .eq := by
  refine ⟨of_locate?_eq_some, ?_⟩
  rintro ⟨x, hi, hx⟩
  obtain ⟨ilt, rfl⟩ := List.getElem?_eq_some_iff.1 hi
  let isAfter : Nat → Bool := fun j => (xs[j]?).any fun y => order y = .gt
  have after_iff : ∀ j (jlt : j < xs.length), isAfter j = true ↔ order xs[j] = .gt := by
    intro j jlt
    simp [isAfter, List.getElem?_eq_getElem jlt]
  have upward : ∀ j k, j ≤ k → k < 0 + xs.length → isAfter j = true → isAfter k = true := by
    intro j k hjk hk after
    rw [after_iff j (by omega)] at after
    rw [after_iff k (by omega)]
    exact ascending.after_of_le hjk (by omega) after
  obtain ⟨-, upper, last, beyond⟩ := narrow_spec (by omega) upward
  have found : narrow isAfter 0 xs.length = i := by
    rcases Nat.lt_trichotomy (narrow isAfter 0 xs.length) i with short | same | far
    · have := (after_iff i ilt).1 (beyond i short (by omega))
      simp [hx] at this
    · exact same
    · obtain first | notAfter := last
      · omega
      · have inside : narrow isAfter 0 xs.length < xs.length := by omega
        have notGt : order xs[narrow isAfter 0 xs.length] ≠ .gt := by
          rw [Ne, ← after_iff _ inside, notAfter]
          exact Bool.false_ne_true
        have before := List.pairwise_iff_getElem.1 ascending i _ ilt inside far notGt
        simp [hx] at before
  have position : locate? order xs =
      if (xs[narrow isAfter 0 xs.length]?).any fun y => order y = .eq
      then some (narrow isAfter 0 xs.length) else none := rfl
  rw [position, found]
  simp [ilt, hx]

end SystemMenu.Lookup
