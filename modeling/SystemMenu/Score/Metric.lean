import SystemMenu.Score.Levenshtein

/-!
# Distances

A distance lies between zero and one and is zero for equal texts only: a similarity that rounds to
one leaves the least distance there is.

## Main declarations

* `Metric`: the two ways of comparing texts.
* `Metric.distance`: distance of a query to a candidate.
-/

namespace SystemMenu.Score

/-- The ways of comparing texts. -/
inductive Metric where
  /-- Favours common starts, which suits a query that is still being typed. -/
  | jaroWinkler
  | levenshtein
  deriving Repr, DecidableEq

namespace Metric

/-- The metric that is used when none is chosen. -/
def standard : Metric := .jaroWinkler

/-- Similarity of a query and a candidate. -/
def similarity : Metric → List Char → List Char → Rat
  | jaroWinkler => Score.jaroWinkler
  | levenshtein => normalizedLevenshtein

end Metric

/-- The least distance between different texts, the spacing of rounded numbers at one. -/
def leastDistance : Rat := 1 / Nat.pow 2 52

/-- Limits a value to the distances of different texts. -/
def limitDistance (value : Rat) : Rat :=
  if value < leastDistance then leastDistance else if 1 < value then 1 else value

/-- Distance of a query to a candidate. -/
def Metric.distance (metric : Metric) (query candidate : String) : Rat :=
  if query = candidate then 0
  else limitDistance (subRounded 1 (metric.similarity query.toList candidate.toList))

/-- Different texts are at a distance. -/
theorem leastDistance_pos : 0 < leastDistance := by decide +kernel

/-- No distance exceeds one. -/
theorem leastDistance_le_one : leastDistance ≤ 1 := by decide +kernel

/-- A limited value is positive. -/
theorem limitDistance_pos (value : Rat) : 0 < limitDistance value := by
  have := leastDistance_pos
  unfold limitDistance
  split
  · exact this
  · split <;> grind

/-- A limited value is at most one. -/
theorem limitDistance_le_one (value : Rat) : limitDistance value ≤ 1 := by
  have := leastDistance_le_one
  unfold limitDistance
  split
  · exact this
  · split <;> grind

/-- The distance is zero exactly for equal texts. -/
theorem Metric.distance_eq_zero_iff (metric : Metric) (query candidate : String) :
    metric.distance query candidate = 0 ↔ query = candidate := by
  unfold Metric.distance
  split
  · simp [*]
  · have := limitDistance_pos (subRounded 1 (metric.similarity query.toList candidate.toList))
    constructor
    · intro h
      rw [h] at this
      exact absurd this (by decide +kernel)
    · intro h
      contradiction

end SystemMenu.Score
