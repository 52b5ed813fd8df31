import Mathlib.Algebra.Order.Ring.Unbundled.Rat
import Mathlib.Data.List.Nodup
import SystemMenu.Proofs.Ranking.ExactMatch

/-!
# The order of a ranking

A ranking is sorted by scores, and the sort keeps the order of candidates with equal scores. So a candidate
comes before another one if its score is lower, or if the scores are equal and it stands earlier in the
list. This order is strict, so a ranking is determined by its candidates; that is why it makes no
difference whether a list is ranked first and then filtered, or filtered first and then ranked.

## Main statements

* `Ranking.filter_score_rankEntries`: candidates with equal scores stay in their order.
* `Ranking.pairwise_before_rankEntries`: the order of a ranking.
* `Ranking.rankEntries_filter`: ranking what a filter accepts.
* `Ranking.before_of_notMem_take`: what a cap leaves out comes after what it shows.
-/

namespace SystemMenu.Ranking

open Score (Metric)

/-- A candidate comes before another: its score is lower, or it is equal and the position is earlier. -/
def Candidate.Before (a b : Candidate) : Prop :=
  a.score < b.score ∨ a.score = b.score ∧ a.position < b.position

theorem Candidate.Before.asymm {a b : Candidate} (before : a.Before b) : ¬b.Before a := by
  unfold Candidate.Before at *
  grind

/-- Candidates that are in order are determined by which they are. -/
theorem eq_of_pairwise_before {a b : List Candidate} (aOrder : a.Pairwise Candidate.Before)
    (bOrder : b.Pairwise Candidate.Before) (same : ∀ candidate, candidate ∈ a ↔ candidate ∈ b) :
    a = b := by
  have distinct : ∀ {c : List Candidate}, c.Pairwise Candidate.Before → c.Nodup := by
    intro c order
    apply order.imp
    rintro x _ before rfl
    exact before.asymm before
  apply List.Perm.eq_of_pairwise _ aOrder bOrder
  · exact (List.perm_ext_iff_of_nodup (distinct aOrder) (distinct bOrder)).2 same
  · intro x y _ _ before after
    exact absurd after before.asymm

section Order

variable (metric : Metric) (query : String) (published : List Stage) (entries : List Entry)

/-- The candidates of a list in its own order. -/
def scored : List Candidate :=
  entries.mapIdx fun position entry =>
    { score := scoreEntry metric (Text.searchKey query) published entry, position := position }

theorem pairwise_position_scored :
    (scored metric query published entries).Pairwise fun a b => a.position < b.position := by
  rw [List.pairwise_iff_getElem]
  intro i j _ _ less
  simpa [scored] using less

/-- Candidates with equal scores stay in the order of the list. -/
theorem filter_score_rankEntries (score : Rat) :
    (rankEntries metric query published entries).filter (·.score = score) =
      (scored metric query published entries).filter (·.score = score) := by
  have perm : (rankEntries metric query published entries).Perm
      (scored metric query published entries) := List.mergeSort_perm _ _
  have sorted : ((scored metric query published entries).filter (·.score = score)).Pairwise
      fun a b => decide (a.score ≤ b.score) = true := by
    apply ((pairwise_position_scored metric query published entries).filter _).imp_of_mem
    intro a b aMember bMember _
    have equal : a.score = b.score := by
      rw [of_decide_eq_true (List.mem_filter.1 aMember).2,
        of_decide_eq_true (List.mem_filter.1 bMember).2]
    rw [equal]
    exact decide_eq_true Rat.le_refl
  -- They are sorted already, so the sort keeps them as a part, and there are no others.
  have part := (List.sublist_mergeSort score_le_trans score_le_total sorted
    List.filter_sublist).filter (·.score = score)
  simp only [List.filter_filter, Bool.and_self] at part
  exact (part.eq_of_length (perm.filter _).length_eq.symm).symm

/-- A ranking is in strict order. -/
theorem pairwise_before_rankEntries :
    (rankEntries metric query published entries).Pairwise Candidate.Before := by
  rw [List.pairwise_iff_forall_sublist]
  intro a b part
  have le := List.pairwise_iff_forall_sublist.1
    (pairwise_rankEntries metric query published entries) part
  obtain less | equal := le.lt_or_eq
  · exact .inl less
  · have tied := part.filter (·.score = b.score)
    rw [filter_score_rankEntries] at tied
    simp only [List.filter_cons, equal, decide_true, if_true, List.filter_nil] at tied
    exact .inr ⟨equal, List.pairwise_iff_forall_sublist.1
      (pairwise_position_scored metric query published entries)
        (tied.trans List.filter_sublist)⟩

end Order

section Filtered

variable (metric : Metric) (query : String) (published : List Stage) (entries : List Entry)
  (accepts : Entry → Bool)

/-- The positions of the entries that a filter accepts. -/
def acceptedAt : List Nat :=
  (List.range entries.length).filter fun position => (entries[position]?).any accepts

/-- A candidate of a list that was made of some positions of another, at its position there. -/
def Candidate.movedTo (positions : List Nat) (candidate : Candidate) : Candidate :=
  { candidate with position := (positions[candidate.position]?).getD 0 }

/-- All entries are those at all positions. -/
theorem map_getElem?_range :
    (List.range entries.length).map (entries[·]?) = entries.map some := by
  apply List.ext_getElem
  · simp
  · simp

theorem filterMap_getElem?_range :
    (List.range entries.length).filterMap (entries[·]?) = entries := by
  have all := congrArg (List.filterMap id) (map_getElem?_range entries)
  rw [List.filterMap_map, List.filterMap_map] at all
  exact all.trans List.filterMap_some

/-- The first entry at some positions that is accepted is the one at the first accepted position. -/
theorem find?_filterMap_getElem? (positions : List Nat) :
    (positions.filterMap (entries[·]?)).find? accepts =
      (positions.filter fun position => (entries[position]?).any accepts).head?.bind
        (entries[·]?) := by
  induction positions with
  | nil => rfl
  | cons position rest ih =>
      cases here : entries[position]? with
      | none => simp [here, ih]
      | some entry =>
          cases accepted : accepts entry <;> simp [here, accepted, ih]

/-- The accepted entries are those at the accepted positions. -/
theorem map_getElem?_acceptedAt :
    (acceptedAt entries accepts).map (entries[·]?) = (entries.filter accepts).map some := by
  calc (acceptedAt entries accepts).map (entries[·]?)
      = ((List.range entries.length).map (entries[·]?)).filter (Option.any accepts) := by
        rw [List.filter_map]
        rfl
    _ = (entries.filter accepts).map some := by
        rw [map_getElem?_range, List.filter_map]
        rfl

theorem mem_acceptedAt_iff {position : Nat} :
    position ∈ acceptedAt entries accepts ↔
      ∃ entry, entries[position]? = some entry ∧ accepts entry = true := by
  rw [acceptedAt, List.mem_filter, List.mem_range, Option.any_eq_true]
  constructor
  · exact And.right
  · rintro ⟨entry, here, accepted⟩
    exact ⟨(List.getElem?_eq_some_iff.1 here).1, entry, here, accepted⟩

theorem pairwise_lt_acceptedAt : (acceptedAt entries accepts).Pairwise (· < ·) :=
  List.pairwise_lt_range.filter _

/-- An accepted entry stands at an accepted position of the whole list. -/
theorem getElem?_filter_eq_some_iff {place : Nat} {entry : Entry} :
    (entries.filter accepts)[place]? = some entry ↔
      ∃ position, (acceptedAt entries accepts)[place]? = some position ∧
        entries[position]? = some entry := by
  have same := congrArg (·[place]?) (map_getElem?_acceptedAt entries accepts)
  simp only [List.getElem?_map] at same
  constructor
  · intro here
    rw [here] at same
    obtain ⟨position, there, found⟩ := Option.map_eq_some_iff.1 same
    exact ⟨position, there, found⟩
  · rintro ⟨position, there, found⟩
    rw [there, Option.map_some, found] at same
    obtain ⟨other, here, equal⟩ := Option.map_eq_some_iff.1 same.symm
    rw [here, equal]

/-- What was ranked among the accepted entries, seen in the whole list. -/
theorem movedTo_of_mem {candidate : Candidate}
    (member : candidate ∈ rankEntries metric query published (entries.filter accepts)) :
    ∃ position entry, (acceptedAt entries accepts)[candidate.position]? = some position ∧
      entries[position]? = some entry ∧
      candidate.score = scoreEntry metric (Text.searchKey query) published entry ∧
      candidate.movedTo (acceptedAt entries accepts) = ⟨candidate.score, position⟩ := by
  obtain ⟨entry, here, score⟩ := (mem_rankEntries_iff ..).1 member
  obtain ⟨position, there, found⟩ := (getElem?_filter_eq_some_iff entries accepts).1 here
  refine ⟨position, entry, there, found, score, ?_⟩
  rw [Candidate.movedTo, there, Option.getD_some]

/-- Ranking the accepted entries gives the accepted candidates of the whole ranking. -/
theorem rankEntries_filter :
    (rankEntries metric query published (entries.filter accepts)).map
        (Candidate.movedTo (acceptedAt entries accepts)) =
      (rankEntries metric query published entries).filter fun candidate =>
        (entries[candidate.position]?).any accepts := by
  apply eq_of_pairwise_before
  · rw [List.pairwise_map]
    apply (pairwise_before_rankEntries metric query published (entries.filter accepts)).imp_of_mem
    intro a b aMember bMember before
    obtain ⟨i, _, hi, -, -, aMoved⟩ := movedTo_of_mem metric query published entries accepts aMember
    obtain ⟨j, _, hj, -, -, bMoved⟩ := movedTo_of_mem metric query published entries accepts bMember
    rw [aMoved, bMoved]
    obtain less | ⟨equal, earlier⟩ := before
    · exact .inl less
    · obtain ⟨aInside, rfl⟩ := List.getElem?_eq_some_iff.1 hi
      obtain ⟨bInside, rfl⟩ := List.getElem?_eq_some_iff.1 hj
      exact .inr ⟨equal, List.pairwise_iff_getElem.1 (pairwise_lt_acceptedAt entries accepts)
        _ _ aInside bInside earlier⟩
  · exact (pairwise_before_rankEntries metric query published entries).filter _
  · intro candidate
    rw [List.mem_map, List.mem_filter, mem_rankEntries_iff, Option.any_eq_true]
    constructor
    · rintro ⟨before, member, rfl⟩
      obtain ⟨position, entry, there, found, score, moved⟩ :=
        movedTo_of_mem metric query published entries accepts member
      obtain ⟨other, same, accepted⟩ :=
        (mem_acceptedAt_iff entries accepts).1 (List.mem_of_getElem? there)
      rw [moved]
      exact ⟨⟨entry, found, score⟩, other, same, accepted⟩
    · rintro ⟨⟨entry, here, score⟩, accepted⟩
      obtain ⟨place, there⟩ :=
        List.mem_iff_getElem?.1 ((mem_acceptedAt_iff entries accepts).2 accepted)
      refine ⟨⟨candidate.score, place⟩, (mem_rankEntries_iff ..).2 ⟨entry, ?_, score⟩, ?_⟩
      · exact (getElem?_filter_eq_some_iff entries accepts).2 ⟨_, there, here⟩
      · rw [Candidate.movedTo, there, Option.getD_some]

theorem length_rankEntries :
    (rankEntries metric query published entries).length = entries.length := by
  simpa using (position_rankEntries_perm metric query published entries).length_eq

end Filtered

/-- What a cap leaves out comes after all that it shows. -/
theorem before_of_notMem_take {ranked : List Candidate} (order : ranked.Pairwise Candidate.Before)
    {cap : Nat} {shown hidden : Candidate} (among : shown ∈ ranked.take cap)
    (member : hidden ∈ ranked) (left : hidden ∉ ranked.take cap) : shown.Before hidden := by
  rw [← List.take_append_drop cap ranked] at order member
  obtain ⟨-, -, across⟩ := List.pairwise_append.1 order
  exact across shown among hidden ((List.mem_append.1 member).resolve_left left)

end SystemMenu.Ranking
