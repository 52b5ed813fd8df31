import Mathlib.Algebra.Group.Nat.Defs
import SystemMenu.Text.CodeTable

/-!
# What a search tree finds

A tree that is built from increasing rows finds the row that holds a code point. So rows may be cut into
blocks, each with a tree of its own, and a look-up that chooses the block first finds the same.

## Main statements

* `CodeTable.find?_ofRows_eq_some_iff`: the tree of increasing rows finds exactly what the rows hold.
* `CodeTable.find?_ofRows_flatMap`: a look-up by blocks.
-/

namespace SystemMenu.Text

namespace Row

variable {α : Type}

/-- The range of a row holds a code point. -/
def Holds (row : Row α) (code : Nat) : Prop := row.first ≤ code ∧ code ≤ row.last

instance (row : Row α) (code : Nat) : Decidable (row.Holds code) :=
  inferInstanceAs (Decidable (row.first ≤ code ∧ code ≤ row.last))

/-- A row ends before another one begins. -/
def Before (a b : Row α) : Prop := a.first ≤ a.last ∧ a.last < b.first

instance : DecidableRel (Before (α := α)) := fun a b =>
  inferInstanceAs (Decidable (a.first ≤ a.last ∧ a.last < b.first))

theorem Before.trans {a b c : Row α} (first : a.Before b) (second : b.Before c) : a.Before c := by
  obtain ⟨shape, earlier⟩ := first
  obtain ⟨shape', later⟩ := second
  exact ⟨shape, by omega⟩

instance : Trans (Before (α := α)) Before Before := ⟨Before.trans⟩

end Row

namespace CodeTable

variable {α : Type} {rows : List (Row α)} {code : Nat} {row : Row α}

/-- Growing a tree takes rows off the front, in order. -/
theorem toList_grow_append (depth : Nat) (rows : List (Row α)) :
    (grow depth rows).1.toList ++ (grow depth rows).2 = rows := by
  induction depth generalizing rows with
  | zero => rfl
  | succ depth ih =>
      have front := ih rows
      simp only [grow]
      cases hrest : (grow depth rows).2 with
      | nil => simpa [hrest] using front
      | cons row rest =>
          rw [hrest] at front
          simp only [toList, List.append_assoc, List.cons_append, ih rest]
          exact front

/-- A tree of some depth takes as many rows as it has places. -/
theorem length_grow (depth : Nat) (rows : List (Row α)) :
    (grow depth rows).2.length = rows.length - (2 ^ depth - 1) := by
  induction depth generalizing rows with
  | zero => simp [grow]
  | succ depth ih =>
      have front := ih rows
      simp only [grow]
      cases rest : (grow depth rows).2 with
      | nil =>
          rw [rest, List.length_nil] at front
          rw [List.length_nil, Nat.pow_succ]
          omega
      | cons row others =>
          rw [rest, List.length_cons] at front
          have positive : 0 < 2 ^ depth := Nat.two_pow_pos depth
          rw [ih others, Nat.pow_succ]
          omega

/-- The tree of some rows takes all of them. -/
theorem toList_ofRows (rows : List (Row α)) : (ofRows rows).toList = rows := by
  have deep : rows.length < 2 ^ (rows.length.log2 + 1) := Nat.lt_log2_self
  have none : (grow (rows.length.log2 + 1) rows).2 = [] := by
    rw [← List.length_eq_zero_iff, length_grow]
    omega
  have all := toList_grow_append (rows.length.log2 + 1) rows
  rwa [none, List.append_nil] at all

/-- What is found in the tree of some rows is one of them. -/
theorem mem_of_find?_ofRows (h : (ofRows rows).find? code = some row) : row ∈ rows := by
  rw [← toList_ofRows rows]
  exact (find?_eq_some h).1

/-- In a tree of increasing rows every row is found by its code points. -/
theorem find?_of_mem {table : CodeTable α} (increasing : table.toList.Pairwise Row.Before)
    (member : row ∈ table.toList) (holds : row.Holds code) : table.find? code = some row := by
  obtain ⟨low, high⟩ := holds
  induction table with
  | empty => simp [toList] at member
  | node before middle after ihBefore ihAfter =>
      obtain ⟨first, second, across⟩ := List.pairwise_append.1 increasing
      obtain ⟨later, third⟩ := List.pairwise_cons.1 second
      rw [find?]
      obtain inside | rfl | inside : row ∈ before.toList ∨ row = middle ∨ row ∈ after.toList := by
        simpa [toList] using member
      · obtain ⟨-, less⟩ := across row inside middle List.mem_cons_self
        rw [if_pos (by omega)]
        exact ihBefore first inside
      · rw [if_neg (by omega), if_neg (by omega)]
      · obtain ⟨shape, greater⟩ := later row inside
        rw [if_neg (by omega), if_pos (by omega)]
        exact ihAfter third inside

/-- The tree of increasing rows finds exactly what the rows hold. -/
theorem find?_ofRows_eq_some_iff (increasing : rows.Pairwise Row.Before) :
    (ofRows rows).find? code = some row ↔ row ∈ rows ∧ row.Holds code := by
  constructor
  · exact fun found => ⟨mem_of_find?_ofRows found, (find?_eq_some found).2⟩
  · rintro ⟨member, holds⟩
    rw [← toList_ofRows rows] at increasing member
    exact find?_of_mem increasing member holds

/-- A look-up that first chooses among blocks of rows, each of which lies in its own range, finds what the
tree of all the rows finds. -/
theorem find?_ofRows_flatMap {blocks : List (Row (List (Row α)))}
    (increasing : (blocks.flatMap Row.value).Pairwise Row.Before) (apart : blocks.Pairwise Row.Before)
    (within : ∀ block ∈ blocks, ∀ row ∈ block.value, block.first ≤ row.first ∧ row.last ≤ block.last)
    (code : Nat) :
    (ofRows (blocks.flatMap Row.value)).find? code =
      ((ofRows blocks).find? code).bind fun block => (ofRows block.value).find? code := by
  have each := (List.pairwise_flatMap.1 increasing).1
  refine Option.ext fun row => ?_
  simp only [Option.bind_eq_some_iff, find?_ofRows_eq_some_iff increasing, find?_ofRows_eq_some_iff apart]
  constructor
  · rintro ⟨member, holds⟩
    obtain ⟨block, listed, inside⟩ := List.mem_flatMap.1 member
    obtain ⟨low, high⟩ := within block listed row inside
    exact ⟨block, ⟨listed, Nat.le_trans low holds.1, Nat.le_trans holds.2 high⟩,
      (find?_ofRows_eq_some_iff (each block listed)).2 ⟨inside, holds⟩⟩
  · rintro ⟨block, ⟨listed, -⟩, found⟩
    obtain ⟨inside, holds⟩ := (find?_ofRows_eq_some_iff (each block listed)).1 found
    exact ⟨List.mem_flatMap.2 ⟨block, listed, inside⟩, holds⟩

end CodeTable

end SystemMenu.Text
