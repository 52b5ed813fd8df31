import SystemMenu.Media.SavedList
import SystemMenu.Media.Scan
import SystemMenu.Staging.History

/-!
# The shared list in use

Besides starting builds and resetting the cache, callers tell which systems have their media: after a
search for files, or from a saved list. This can happen at any time and to any list that was handed out,
and changes nothing else.

## Main declarations

* `Cache.mark`: telling for a whole list which systems are available.
* `Cache.Use`, `Cache.use`: what callers can do.
* `Cache.InUse`: what can become of a new cache in use.
-/

namespace SystemMenu

/-- An entry that is told whether the media of its system is present. -/
def Entry.mark (isAvailable : Entry → Bool) (entry : Entry) : Entry :=
  { entry with available := isAvailable entry }

/-- A generation whose entries are told. -/
def Generation.mark (generation : Generation) (isAvailable : Entry → Bool) : Generation :=
  { generation with sorted := generation.sorted.map (·.map (Entry.mark isAvailable)) }

namespace Cache

/-- Tells the entries of a generation's list whether the media of their systems is present. -/
def mark (cache : Cache) (number : Nat) (isAvailable : Entry → Bool) : Cache :=
  cache.setGeneration number ((cache.generation number).mark isAvailable)

/-- The marks of a search are told to the current list. -/
theorem mapEntries_applyMarks (cache : Cache) (included : List Bool) :
    cache.mapEntries (Media.applyMarks included) =
      cache.mark cache.current fun entry => Media.isMarked included entry.index := rfl

/-- The names of a saved list are told to the current list. -/
theorem mapEntries_applyNames (cache : Cache) (names : List String) :
    cache.mapEntries (SavedList.applyNames names) =
      cache.mark cache.current fun entry => names.contains entry.shortname := rfl

/-- What callers can do with a cache besides reading it. -/
inductive Use where
  | move (move : Move)
  | mark (number : Nat) (isAvailable : Entry → Bool)

/-- What a use makes of a cache. -/
def use (cache : Cache) : Use → Cache
  | .move move => cache.move move
  | .mark number isAvailable => cache.mark number isAvailable

/-- What can become of a new cache over a source in use. -/
inductive InUse (source : Source) : Cache → Prop where
  | new : InUse source (new source)
  | use {cache : Cache} (use : Use) (inUse : InUse source cache) : InUse source (cache.use use)

/-- Telling which systems are available is no necessary part of a use. -/
theorem Reachable.inUse {source : Source} {cache : Cache} (reachable : Reachable source cache) :
    InUse source cache := by
  induction reachable with
  | new => exact .new
  | move move _ ih => exact .use (.move move) ih

end Cache

end SystemMenu
