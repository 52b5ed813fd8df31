import Mathlib.Data.List.SplitBy
import SystemMenu.Proofs.Text.SearchKeys

/-!
# Canonical ordering, run by run

A text falls into the maximal runs of characters that can move and the characters between them. Canonical
ordering sorts each run by combining class, in a stable way, and touches nothing else. What it gives is in
order already, and it looks at nothing but the classes.

## Main statements

* `reorder_append`: no character passes one that never moves.
* `reorder_eq_flatMap_runs`: what canonical ordering does to each run.
* `marksInOrder_reorder`, `reorder_of_marksInOrder`: what it gives is in order, and stays as it is.
* `reorder_map`: only the classes matter.
* `filter_reorder`: the characters that never move keep their order.
* `searchKey_joined_by_space`: the key of two texts with a space between them.
-/

namespace SystemMenu.Text

section Runs

variable {before after run text : List Char}

/-- Neither of two characters is one that never moves. -/
def bothMove (a b : Char) : Bool := combiningClass a ≠ 0 ∧ combiningClass b ≠ 0

/-- Between two texts no character moves if one that never moves stands at the seam. -/
theorem reorder_append (seam : ∀ a ∈ before.getLast?, ∀ b ∈ after.head?, bothMove a b = false) :
    reorder (before ++ after) = reorder before ++ reorder after := by
  cases after with
  | nil => simp [reorder]
  | cons b rest =>
      by_cases zero : combiningClass b = 0
      · rw [reorder_append_of_class_zero zero, reorder, insertMark_of_class_zero zero]
      · obtain rfl | ⟨init, a, rfl⟩ := List.eq_nil_or_concat' before
        · simp [reorder]
        · have last : combiningClass a = 0 := by simpa [bothMove, zero] using seam
          rw [List.append_assoc, List.singleton_append, reorder_append_of_class_zero last,
            reorder_append_of_class_zero last, List.append_assoc]
          rfl

/-- A mark is inserted behind those that it passes. -/
theorem insertMark_between {c : Char}
    (passed : ∀ d ∈ before, combiningClass d ≠ 0 ∧ combiningClass d < combiningClass c)
    (stops : ∀ d ∈ after.head?, combiningClass d = 0 ∨ combiningClass c ≤ combiningClass d) :
    insertMark c (before ++ after) = before ++ c :: after := by
  induction before with
  | nil =>
      cases after with
      | nil => rfl
      | cons d rest =>
          have stop := stops d rfl
          rw [List.nil_append, insertMark, if_neg (by omega)]
          rfl
  | cons d rest ih =>
      rw [List.cons_append, insertMark, if_pos (passed d List.mem_cons_self),
        ih fun e member => passed e (List.mem_cons_of_mem d member)]
      rfl

/-- A run of characters that can move is sorted by class, and equal classes stay as they stand. -/
theorem reorder_of_movable (movable : ∀ c ∈ run, combiningClass c ≠ 0) :
    reorder run = run.mergeSort fun a b => combiningClass a ≤ combiningClass b := by
  have trans : ∀ a b c : Char, decide (combiningClass a ≤ combiningClass b) = true →
      decide (combiningClass b ≤ combiningClass c) = true →
        decide (combiningClass a ≤ combiningClass c) = true := by
    simp only [decide_eq_true_eq]
    omega
  have total : ∀ a b : Char, (decide (combiningClass a ≤ combiningClass b) ||
      decide (combiningClass b ≤ combiningClass a)) = true := by
    simp only [Bool.or_eq_true, decide_eq_true_eq]
    omega
  induction run with
  | nil => rw [List.mergeSort_nil, reorder]
  | cons c rest ih =>
      obtain ⟨before, after, whole, tail, less⟩ := List.mergeSort_cons trans total c rest
      have sorted := List.pairwise_mergeSort trans total (c :: rest)
      have movableRest : ∀ d ∈ rest, combiningClass d ≠ 0 := fun d member =>
        movable d (List.mem_cons_of_mem c member)
      -- Sorting puts `c` behind the smaller ones of the rest, which is where inserting puts it.
      rw [reorder, ih movableRest, tail, whole]
      refine insertMark_between (fun d member => ⟨?_, ?_⟩) fun d first => .inr ?_
      · have same := List.mergeSort_perm rest fun a b => decide (combiningClass a ≤ combiningClass b)
        refine movableRest d (same.mem_iff.1 ?_)
        rw [tail]
        exact List.mem_append_left after member
      · simpa using less d member
      · rw [whole] at sorted
        have least := (List.pairwise_cons.1 (List.pairwise_append.1 sorted).2.1).1
        simpa using least d (List.mem_of_mem_head? first)

/-- The maximal runs of characters that can move, and every other character for itself. -/
def runs (text : List Char) : List (List Char) :=
  text.splitBy bothMove

theorem movable_of_isChain {a b : Char} {rest : List Char}
    (chain : (a :: b :: rest).IsChain fun x y => bothMove x y = true) :
    ∀ c ∈ a :: b :: rest, combiningClass c ≠ 0 := by
  induction rest generalizing a b with
  | nil => simpa [bothMove] using chain
  | cons d others ih =>
      obtain ⟨first, tail⟩ := List.isChain_cons_cons.1 chain
      have rest := ih tail
      intro c member
      obtain rfl | later := List.mem_cons.1 member
      · exact (of_decide_eq_true first).1
      · exact rest c later

theorem reorder_of_mem_runs (member : run ∈ runs text) :
    reorder run = run.mergeSort fun a b => combiningClass a ≤ combiningClass b := by
  have chain := List.isChain_of_mem_splitBy member
  match run, chain with
  | [], _ => rw [List.mergeSort_nil, reorder]
  | [c], _ => rw [List.mergeSort_singleton]; rfl
  | a :: b :: rest, chain => exact reorder_of_movable (movable_of_isChain chain)

theorem reorder_flatten {groups : List (List Char)} (filled : [] ∉ groups)
    (apart : groups.IsChain fun a b => ∃ ha hb, bothMove (a.getLast ha) (b.head hb) = false) :
    reorder groups.flatten = groups.flatMap reorder := by
  induction groups with
  | nil => rfl
  | cons group rest ih =>
      rw [List.flatten_cons, List.flatMap_cons, ← ih (List.not_mem_of_not_mem_cons filled) apart.tail]
      refine reorder_append fun a last b first => ?_
      cases rest with
      | nil => simp at first
      | cons next others =>
          obtain ⟨⟨filledGroup, filledNext, seam⟩, -⟩ := List.isChain_cons_cons.1 apart
          rw [List.getLast?_eq_getLast_of_ne_nil filledGroup, Option.mem_some_iff] at last
          rw [List.flatten_cons, List.head?_append_of_ne_nil _ filledNext,
            List.head?_eq_some_head filledNext, Option.mem_some_iff] at first
          rw [← last, ← first]
          exact seam

/-- Canonical ordering sorts each maximal run of characters that can move, and touches nothing else. -/
theorem reorder_eq_flatMap_runs (text : List Char) :
    reorder text = (runs text).flatMap fun run =>
      run.mergeSort fun a b => combiningClass a ≤ combiningClass b := by
  calc reorder text
    _ = reorder (runs text).flatten := by rw [runs, List.flatten_splitBy]
    _ = (runs text).flatMap reorder := reorder_flatten (List.nil_notMem_splitBy bothMove text)
      (List.isChain_getLast_head_splitBy bothMove text)
    _ = _ := List.flatMap_congr fun _ => reorder_of_mem_runs

end Runs

section InOrder

variable {text : List Char}

/-- No character that can move stands right behind one of a greater class. -/
def MarksInOrder (text : List Char) : Prop :=
  text.IsChain fun a b => combiningClass b = 0 ∨ combiningClass a ≤ combiningClass b

/-- Inserting a character puts that character in front, or leaves the front as it was. -/
theorem eq_or_mem_head?_insertMark {c d : Char} (first : d ∈ (insertMark c text).head?) :
    d = c ∨ d ∈ text.head? := by
  cases text with
  | nil => exact .inl (Option.mem_some_iff.1 first).symm
  | cons e rest =>
      rw [insertMark] at first
      split at first
      · exact .inr first
      · exact .inl (Option.mem_some_iff.1 first).symm

theorem MarksInOrder.insertMark (inOrder : MarksInOrder text) (c : Char) :
    MarksInOrder (insertMark c text) := by
  induction text with
  | nil => exact List.isChain_singleton c
  | cons d rest ih =>
      obtain ⟨next, tail⟩ := List.isChain_cons.1 inOrder
      rw [Text.insertMark]
      split
      · rename_i passes
        refine List.isChain_cons.2 ⟨fun e first => ?_, ih tail⟩
        obtain rfl | first := eq_or_mem_head?_insertMark first
        · exact .inr (Nat.le_of_lt passes.2)
        · exact next e first
      · exact List.isChain_cons_cons.2 ⟨by omega, inOrder⟩

/-- Canonical ordering puts the marks in order. -/
theorem marksInOrder_reorder (text : List Char) : MarksInOrder (reorder text) := by
  induction text with
  | nil => exact List.isChain_nil
  | cons c rest ih => exact ih.insertMark c

/-- What is in order stays as it is. -/
theorem reorder_of_marksInOrder (inOrder : MarksInOrder text) : reorder text = text := by
  induction text with
  | nil => rfl
  | cons c rest ih =>
      obtain ⟨next, tail⟩ := List.isChain_cons.1 inOrder
      have none : ∀ d ∈ ([] : List Char), combiningClass d ≠ 0 ∧ combiningClass d < combiningClass c := by
        simp
      rw [reorder, ih tail]
      exact insertMark_between none next

theorem insertMark_map {f : Char → Char} {c : Char} (sameC : combiningClass (f c) = combiningClass c)
    (same : ∀ d ∈ text, combiningClass (f d) = combiningClass d) :
    insertMark (f c) (text.map f) = (insertMark c text).map f := by
  induction text with
  | nil => rfl
  | cons d rest ih =>
      obtain ⟨sameD, sameRest⟩ := List.forall_mem_cons.1 same
      simp only [List.map_cons, insertMark, sameC, sameD, ih sameRest]
      split <;> rfl

/-- Only the classes matter: an exchange of characters that keeps them may be made before or afterwards. -/
theorem reorder_map {f : Char → Char} (same : ∀ c ∈ text, combiningClass (f c) = combiningClass c) :
    reorder (text.map f) = (reorder text).map f := by
  induction text with
  | nil => rfl
  | cons c rest ih =>
      obtain ⟨sameC, sameRest⟩ := List.forall_mem_cons.1 same
      rw [List.map_cons, reorder, ih sameRest, reorder]
      exact insertMark_map sameC fun d member => sameRest d ((reorder_perm rest).mem_iff.1 member)

theorem filter_insertMark {p : Char → Bool} (still : ∀ c, p c = true → combiningClass c = 0) (c : Char) :
    (insertMark c text).filter p = (c :: text).filter p := by
  induction text with
  | nil => rfl
  | cons d rest ih =>
      rw [insertMark]
      split
      · rename_i passes
        have mark : p d = false := Bool.eq_false_iff.2 fun letter => passes.1 (still d letter)
        simp only [List.filter_cons, ih, mark]
        rfl
      · rfl

/-- The characters that never move keep their order. -/
theorem filter_reorder {p : Char → Bool} (still : ∀ c, p c = true → combiningClass c = 0) :
    (reorder text).filter p = text.filter p := by
  induction text with
  | nil => rfl
  | cons c rest ih => rw [reorder, filter_insertMark still, List.filter_cons, ih, List.filter_cons]

end InOrder

/-- The key of two texts that are put in canonical form one by one is the key of both with a space between
them, and the keys of the two with a space between them. The canonical form decomposes every character and
then sorts each run of characters that can move by class; equal classes stay as they stand. -/
theorem searchKey_joined_by_space (first second : String) :
    searchKeyJoined first second = searchKey (first ++ " " ++ second) ∧
      searchKey (first ++ " " ++ second) = searchKey first ++ " " ++ searchKey second ∧
      ∀ text, canonicalForm text = (runs (text.flatMap decompose)).flatMap fun run =>
        run.mergeSort fun a b => combiningClass a ≤ combiningClass b := by
  have space : foldChar ' ' = [' '] := by decide +kernel
  have joined := searchKeyJoined_eq_searchKey first second
  refine ⟨joined, ?_, fun text => reorder_eq_flatMap_runs _⟩
  calc searchKey (first ++ " " ++ second)
    _ = .ofList ((canonicalForm first.toList ++ ' ' :: canonicalForm second.toList).flatMap foldChar) :=
      joined.symm
    _ = .ofList (searchKeyChars first.toList ++ ' ' :: searchKeyChars second.toList) := by
      rw [List.flatMap_append, List.flatMap_cons, space, searchKeyChars, searchKeyChars]
      rfl
    _ = searchKey first ++ " " ++ searchKey second := by
      rw [← String.toList_inj]
      simp [searchKey]

end SystemMenu.Text
