import SystemMenu.Text.Collation

/-!
# Favorites

A favorite is a system, alone or with a piece of software to start it with. There is at most one
favorite for a system with the same software.

## Main declarations

* `Favorite`, `Favorites`: favorites and the collection of them.
* `Favorites.add`, `Favorites.remove`: changes; both tell whether they changed anything.
* `Favorites.contains`, `Favorites.isFavorite`: membership.
* `Favorites.sorted`: the favorites as the menu lists them.
-/

namespace SystemMenu

open Text (CollationKey)

/-- A favorite. -/
structure Favorite where
  shortname : String
  /-- The software that the system is started with, if any. -/
  software : Option String := none
  description : String
  deriving Repr, DecidableEq

namespace Favorite

/-- What a favorite is for: no other favorite has the same system and software. -/
def key (favorite : Favorite) : String × Option String := (favorite.shortname, favorite.software)

/-- The favorite starts the system alone. -/
def startsEmpty (favorite : Favorite) : Bool := favorite.software.isNone

/-- Compares favorites, given the collation keys of their descriptions: by description, short name and
software, none before any. -/
def compareKeyed (a b : CollationKey × Favorite) : Ordering :=
  (compare a.1 b.1).then <|
    (compare a.2.shortname b.2.shortname).then <|
      compare a.2.software b.2.software

end Favorite

/-- A collection of favorites, in the order in which they were added. -/
structure Favorites where
  items : List Favorite := []
  deriving Repr, DecidableEq

namespace Favorites

/-- There is a favorite for a system with some software or none. -/
def contains (favorites : Favorites) (shortname : String) (software : Option String) : Bool :=
  favorites.items.any fun favorite => favorite.key = (shortname, software)

/-- The system alone is a favorite. -/
def isFavorite (favorites : Favorites) (shortname : String) : Bool :=
  favorites.contains shortname none

/-- Adds a favorite, unless there is one for the same system and software. -/
def add (favorites : Favorites) (favorite : Favorite) : Favorites × Bool :=
  if favorites.contains favorite.shortname favorite.software then (favorites, false)
  else (⟨favorites.items ++ [favorite]⟩, true)

/-- The collection of some favorites; of several for the same, the first is taken. -/
def ofList (items : List Favorite) : Favorites :=
  items.foldl (fun favorites favorite => (favorites.add favorite).1) {}

/-- Removes the favorite for a system with some software or none. -/
def remove (favorites : Favorites) (shortname : String) (software : Option String) :
    Favorites × Bool :=
  (⟨favorites.items.filter fun favorite => favorite.key ≠ (shortname, software)⟩,
    favorites.contains shortname software)

/-- The favorites as the menu lists them. -/
def sorted (favorites : Favorites) : List Favorite :=
  let keyed := favorites.items.map fun favorite =>
    (CollationKey.ofText favorite.description, favorite)
  (keyed.mergeSort fun a b => (Favorite.compareKeyed a b).isLE).map (·.2)

/-- Sorting keeps all favorites. -/
theorem sorted_perm (favorites : Favorites) : favorites.sorted.Perm favorites.items := by
  have h := (List.mergeSort_perm
    (favorites.items.map fun favorite => (CollationKey.ofText favorite.description, favorite))
    fun a b => (Favorite.compareKeyed a b).isLE).map (·.2)
  simpa [sorted, Function.comp_def] using h

/-- A favorite that has been added is found. -/
theorem contains_add (favorites : Favorites) (favorite : Favorite) :
    (favorites.add favorite).1.contains favorite.shortname favorite.software = true := by
  unfold add
  split
  · assumption
  · simp [contains, Favorite.key]

end Favorites

end SystemMenu
