import SystemMenu.Proofs.Ranking.RankOrder

/-!
# The ranking of an empty query

An empty query has nothing in common with any key, by either metric. So all systems have the greatest
score, and the ranking is the list in its own order.

## Main statements

* `Score.Metric.distance_empty`: the distance of the empty text to any other.
* `Ranking.rankEntries_empty`: what an empty query ranks.
-/

namespace SystemMenu

namespace Score

theorem roundBinary_zero : roundBinary 0 = 0 := by decide +kernel

theorem roundBinary_one : roundBinary 1 = 1 := by decide +kernel

theorem jaroWinkler_empty {candidate : List Char} (said : candidate ≠ []) :
    jaroWinkler [] candidate = 0 := by
  have apart : jaro [] candidate = 0 := by simp [jaro, said]
  rw [jaroWinkler, apart, if_neg (by decide +kernel)]

/-- All characters of a text have to be inserted. -/
theorem editDistance_empty (candidate : List Char) : editDistance [] candidate = candidate.length := by
  rw [editDistance, List.foldl_nil, List.range_succ, List.getLast?_concat, Option.getD_some]

theorem normalizedLevenshtein_empty {candidate : List Char} (said : candidate ≠ []) :
    normalizedLevenshtein [] candidate = 0 := by
  have long : (candidate.length : Rat) ≠ 0 := by simpa using said
  rw [normalizedLevenshtein, if_neg (by simp [said]), editDistance_empty, List.length_nil,
    Nat.zero_max, divRounded, Rat.div_def, Rat.mul_inv_cancel _ long, roundBinary_one, subRounded,
    Rat.sub_self, roundBinary_zero]

/-- The empty text is as far from any other as can be. -/
theorem Metric.distance_empty (metric : Metric) {key : String} (said : key ≠ "") :
    metric.distance "" key = 1 := by
  have characters : key.toList ≠ [] := by simpa using said
  have apart : metric.similarity [] key.toList = 0 := by
    cases metric with
    | jaroWinkler => exact jaroWinkler_empty characters
    | levenshtein => exact normalizedLevenshtein_empty characters
  rw [Metric.distance, if_neg (Ne.symm said), String.toList_empty, apart]
  decide +kernel

end Score

namespace Ranking

open Score (Metric)

theorem leastDistance_empty (metric : Metric) {keys : List String} (said : ∀ key ∈ keys, key ≠ "") :
    leastDistance metric "" 1 keys = 1 := by
  induction keys with
  | nil => rfl
  | cons key rest ih =>
      rw [List.forall_mem_cons] at said
      rw [leastDistance, metric.distance_empty said.1]
      simpa using ih said.2

theorem scoreEntry_empty (metric : Metric) (published : List Stage) (entry : Entry) :
    scoreEntry metric "" published entry = 1 :=
  leastDistance_empty metric fun key member => by simpa using (List.mem_filter.1 member).2

/-- An empty query leaves the list in its own order. -/
theorem rankEntries_empty (metric : Metric) (published : List Stage) (entries : List Entry) :
    rankEntries metric "" published entries = entries.mapIdx fun position _ => ⟨1, position⟩ := by
  have key : Text.searchKey "" = "" := by decide +kernel
  simp only [rankEntries, key, scoreEntry_empty]
  apply List.mergeSort_of_pairwise
  rw [List.pairwise_iff_getElem]
  simp

theorem position_rankEntries_empty (metric : Metric) (published : List Stage) (entries : List Entry) :
    (rankEntries metric "" published entries).map Candidate.position = List.range entries.length := by
  rw [rankEntries_empty]
  apply List.ext_getElem
  · simp
  · simp

end Ranking

end SystemMenu
