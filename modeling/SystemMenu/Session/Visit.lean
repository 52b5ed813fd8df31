import SystemMenu.Session.Basic
import SystemMenu.Staging.Use

/-!
# Visits

A visit is a menu that is open over the shared list, while favorites come and go, systems are told
whether their media is there, and the cache is reset and built again. All of this happens between the
operations of the session.

## Main declarations

* `Visit`, `Visit.opened`: a visit and how it starts.
* `Visit.Move`, `Visit.move`: what can happen and what it does.
* `Visit.Reachable`: what can become of a visit.
-/

namespace SystemMenu

/-- A menu over a shared list, with the favorites. -/
structure Visit where
  cache : Cache
  favorites : Favorites
  session : Session

namespace Visit

/-- A visit that has just been opened: the build of the list has been started, unless it was before. -/
def opened (options : Options) (topLevel : Bool) (cache : Cache) (favorites : Favorites) : Visit where
  cache := (cache.beginBuild options.paths.historyPath options.paths.systemNames).1
  favorites := favorites
  session := (Session.new options topLevel).1

/-- What can happen during a visit. -/
inductive Move where
  | populate
  | select (position : Nat)
  | setFilter (filter : Filter)
  | push (c : Char)
  | pop
  | setSearch (text : String)
  | clearSearch
  | addFavorite (favorite : Favorite)
  | removeFavorite (shortname : String) (software : Option String)
  | use (use : Cache.Use)

/-- What a move makes of the session. Filling the menu waits for a list, so it changes nothing while
there is none. -/
def sessionAfter (visit : Visit) : Move → Session
  | .populate => (visit.session.populate? visit.cache visit.favorites).getD visit.session
  | .select position => visit.session.select position
  | .setFilter filter => visit.session.setFilter filter
  | .push c => visit.session.push c
  | .pop => visit.session.pop?.getD visit.session
  | .setSearch text => visit.session.setSearch text
  | .clearSearch => visit.session.clearSearch
  | .addFavorite _ | .removeFavorite _ _ | .use _ => visit.session

/-- What a move makes of the favorites. -/
def favoritesAfter (visit : Visit) : Move → Favorites
  | .addFavorite favorite => (visit.favorites.add favorite).1
  | .removeFavorite shortname software => (visit.favorites.remove shortname software).1
  | _ => visit.favorites

/-- What a move makes of the cache. -/
def cacheAfter (visit : Visit) : Move → Cache
  | .use use => visit.cache.use use
  | _ => visit.cache

/-- What a move makes of a visit. -/
def move (visit : Visit) (move : Move) : Visit where
  cache := visit.cacheAfter move
  favorites := visit.favoritesAfter move
  session := visit.sessionAfter move

/-- What moves make of a visit, one after the other. -/
def afterMoves (visit : Visit) (moves : List Move) : Visit := moves.foldl move visit

/-- What can become of a visit over a source, with any favorites to start with. -/
inductive Reachable (source : Source) : Visit → Prop where
  | opened {cache : Cache} (inUse : Cache.InUse source cache) (options : Options) (topLevel : Bool)
      (favorites : List Favorite) :
      Reachable source (opened options topLevel cache (.ofList favorites))
  | move {visit : Visit} (move : Move) (reachable : Reachable source visit) :
      Reachable source (visit.move move)

/-- What moves make of a visit is reachable. -/
theorem Reachable.afterMoves {source : Source} {visit : Visit} (reachable : Reachable source visit)
    (moves : List Move) : Reachable source (visit.afterMoves moves) := by
  induction moves generalizing visit with
  | nil => exact reachable
  | cons first rest ih => exact ih (.move first reachable)

end Visit

end SystemMenu
