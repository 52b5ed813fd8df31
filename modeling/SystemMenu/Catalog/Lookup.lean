/-!
# Binary search

A list in increasing order is searched by halving a window until one position is left, which is then
compared. On a list in no order the search still ends, at a position that depends on the list.

## Main declarations

* `narrow`: halves a window of positions.
* `locate?`: the position of an element for which the order says equal.
-/

namespace SystemMenu.Lookup

/-- Halves the window of `size` positions from `base` on; `isAfter` says that a position lies after
what is sought. -/
def narrow (isAfter : Nat → Bool) (base size : Nat) : Nat :=
  if size ≤ 1 then base
  else
    let half := size / 2
    narrow isAfter (if isAfter (base + half) then base else base + half) (size - half)
  termination_by size

/-- Position of an element that compares as equal; `order` compares an element with what is
sought. -/
def locate? {α : Type} (order : α → Ordering) (xs : List α) : Option Nat :=
  let position := narrow (fun i => (xs[i]?).any fun x => order x = .gt) 0 xs.length
  if (xs[position]?).any fun x => order x = .eq then some position else none

/-- A position that is found holds an element that compares as equal. -/
theorem of_locate?_eq_some {α : Type} {order : α → Ordering} {xs : List α} {i : Nat}
    (h : locate? order xs = some i) : ∃ x, xs[i]? = some x ∧ order x = .eq := by
  simp only [locate?] at h
  split at h
  · rename_i found
    cases h
    simpa [Option.any_eq_true] using found
  · cases h

end SystemMenu.Lookup
