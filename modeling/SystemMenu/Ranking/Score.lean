import SystemMenu.Score.Metric
import SystemMenu.Staging.Stage

/-!
# Scoring entries

An entry scores the least distance of the query to the keys by which it can be found. The keys of its
reading are there as soon as there is a list; every other key counts once its stage is published. Keys
that are empty are passed over.

## Main declarations

* `searchKeys`: the keys of an entry that count.
* `leastDistance`: the least distance, given up at an exact match.
* `rankEntries`: all positions of a list, best match first.
-/

namespace SystemMenu.Ranking

open Score (Metric)

/-- The search key of one kind, once its stage is published. -/
def publishedKey (published : List Stage) (entry : Entry) (field : SearchField) : String :=
  if published.contains field.stage then (entry.keys field).getD "" else ""

/-- The keys of an entry that count, in the order in which they are tried. -/
def searchKeys (published : List Stage) (entry : Entry) : List String :=
  let key := publishedKey published entry
  [key .shortname, entry.readingKey, entry.manufacturerReadingKey, key .description,
    key .manufacturerDescription, key .defaultDescription,
    key .manufacturerDefaultDescription].filter (· ≠ "")

/-- The least of a bound and the distances to some keys; nothing is better than an exact match, so
none is tried after one. -/
def leastDistance (metric : Metric) (query : String) (bound : Rat) : List String → Rat
  | [] => bound
  | key :: rest =>
    let distance := metric.distance query key
    let best := if distance < bound then distance else bound
    if best = 0 then best else leastDistance metric query best rest

/-- The score of an entry for a query that is a search key itself. -/
def scoreEntry (metric : Metric) (query : String) (published : List Stage) (entry : Entry) :
    Rat :=
  leastDistance metric query 1 (searchKeys published entry)

/-- A position of the list with its score. -/
structure Candidate where
  score : Rat
  position : Nat
  deriving Repr, DecidableEq

/-- All positions of a list, best match first; equal scores stay in the order of the list. -/
def rankEntries (metric : Metric) (query : String) (published : List Stage)
    (entries : List Entry) : List Candidate :=
  let key := Text.searchKey query
  let candidates := entries.mapIdx fun position entry =>
    { score := scoreEntry metric key published entry, position := position : Candidate }
  candidates.mergeSort fun a b => a.score ≤ b.score

end SystemMenu.Ranking
