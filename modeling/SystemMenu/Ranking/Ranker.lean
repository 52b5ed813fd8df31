import SystemMenu.Ranking.Score
import SystemMenu.Staging.Cache

/-!
# Ranking a shared list

A ranker keeps the list that it ranked first, by the number of its generation, until it is told to
forget it; meanwhile a reset of the cache does not change what it ranks.

## Main declarations

* `Ranker`: a metric and the list that is kept.
* `Ranker.rank?`: ranks the kept list or, if there is none, the current one.
-/

namespace SystemMenu

open Score (Metric)

/-- Ranks lists of systems against queries. -/
structure Ranker where
  metric : Metric
  /-- Generation of the list that is kept. -/
  snapshot : Option Nat := none
  deriving Repr, DecidableEq

/-- A ranked list. -/
structure Ranking where
  /-- Generation of the list that was ranked. -/
  generation : Nat
  candidates : List Ranking.Candidate
  deriving Repr, DecidableEq

namespace Ranker

/-- Forgets the list that is kept. -/
def invalidate (ranker : Ranker) : Ranker := { ranker with snapshot := none }

/-- Ranks a generation's list and keeps it. -/
def rankGeneration (ranker : Ranker) (cache : Cache) (number : Nat) (query : String) :
    Ranker × Ranking :=
  ({ ranker with snapshot := some number },
    { generation := number
      candidates :=
        Ranking.rankEntries ranker.metric query cache.published (cache.entries number) })

/-- Ranks the kept list or, if there is none, the current one; nothing if there is no list. -/
def rank? (ranker : Ranker) (cache : Cache) (query : String) : Option (Ranker × Ranking) :=
  (ranker.snapshot.or cache.sortedList?).map fun number =>
    ranker.rankGeneration cache number query

end Ranker

end SystemMenu
