import SystemMenu.Staging.Cache

/-!
# Histories of the shared list

A cache is used by callers who start builds and reset it, while the build does its tasks in between,
each with the files as they are then. Reading changes nothing and is no part of a history.

## Main declarations

* `Cache.Move`, `Cache.move`: what can happen and what it does.
* `Cache.countFirst`: how many builds a history has to start.
* `Cache.Reachable`: what can become of a new cache.
-/

namespace SystemMenu.Cache

/-- What can happen to a cache. -/
inductive Move where
  | beginBuild (searchPath selector : String)
  /-- The build does its next task. -/
  | step (tree : FileTree)
  | reset (tree : FileTree)

/-- What a move makes of a cache. -/
def move (cache : Cache) : Move → Cache
  | .beginBuild searchPath selector => (cache.beginBuild searchPath selector).1
  | .step tree => (cache.step tree).1
  | .reset tree => (cache.reset tree).1

/-- What a history makes of a new cache. -/
def afterMoves (source : Source) (moves : List Move) : Cache := moves.foldl move (new source)

/-- A move starts a build that no earlier one of this generation has started. -/
def Move.opensBuild (started : Bool) : Move → Bool
  | beginBuild .. => !started
  | step _ | reset _ => false

/-- A build has been started for the current generation after a move. -/
def Move.startedAfter (started : Bool) : Move → Bool
  | beginBuild .. => true
  | step _ => started
  | reset _ => false

/-- How many moves of a history are the first to start a build since the beginning or a reset. -/
def countFirst (started : Bool) : List Move → Nat
  | [] => 0
  | move :: rest =>
    (if move.opensBuild started then 1 else 0) + countFirst (move.startedAfter started) rest

/-- What can become of a new cache over a source. -/
inductive Reachable (source : Source) : Cache → Prop where
  | new : Reachable source (new source)
  | move {cache : Cache} (move : Move) (reachable : Reachable source cache) :
      Reachable source (cache.move move)

/-- What a history makes of a new cache is reachable. -/
theorem reachable_afterMoves (source : Source) (moves : List Move) :
    Reachable source (afterMoves source moves) := by
  suffices h : ∀ cache, Reachable source cache → Reachable source (moves.foldl move cache) from
    h _ .new
  induction moves with
  | nil => exact fun _ reachable => reachable
  | cons first rest ih => exact fun cache reachable => ih _ (.move first reachable)

end SystemMenu.Cache
