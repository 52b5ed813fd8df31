import Mathlib.Logic.Function.Basic
import SystemMenu.Proofs.Session.Filling
import SystemMenu.Proofs.Text.Collation

/-!
# Favorites as a finite map

A collection of favorites stands for a map: from a system, with some software or none, to the description
under which it was added. Each change does to the collection what it does to the map and gives the same
answer, so this holds of every sequence of changes. The menu lists the favorites in strict order, which
leaves one list for each map, however the collection came about.

## Main statements

* `Favorites.mem_items_iff`: the favorites of a collection are the entries of its map.
* `Favorites.change_contents`: one change of a collection is a change of its map.
* `Favorites.run_contents`: any number of changes.
* `Favorites.pairwise_sorted`, `Favorites.sorted_eq_iff`: the list in the menu.
* `Favorites.run_as_map`: all of it for what becomes of a new collection.
-/

namespace SystemMenu

namespace Favorite

/-- The order in which the menu lists favorites: by description as in a dictionary, then by short name and by
software, none before any. -/
def compareListed (a b : Favorite) : Ordering :=
  (Text.collate a.description b.description).then <|
    (compare a.shortname b.shortname).then <| compare a.software b.software

instance : Std.TransCmp compareListed := by
  have byDescription : Std.TransCmp fun a b : Favorite => Text.collate a.description b.description :=
    inferInstanceAs <| Std.TransCmp <|
      compareOn fun favorite : Favorite => Text.CollationKey.ofText favorite.description
  have levels : compareListed = compareLex (fun a b => Text.collate a.description b.description)
    (compareLex (compareOn shortname) (compareOn software)) := rfl
  rw [levels]
  infer_instance

instance : Std.LawfulEqCmp compareListed where
  eq_of_compare {a b} h := by
    simp only [compareListed, Ordering.then_eq_eq, Text.collate_eq_eq_iff,
      Std.LawfulEqOrd.compare_eq_iff_eq] at h
    obtain ⟨description, shortname, software⟩ := h
    cases a
    cases b
    simp_all

end Favorite

namespace Favorites

section Changes

/-- A change of a collection of favorites. -/
inductive Change where
  | add (favorite : Favorite)
  | remove (shortname : String) (software : Option String)
  deriving Repr, DecidableEq

/-- What a change makes of a collection, and whether it tells that it changed anything. -/
def change (favorites : Favorites) : Change → Favorites × Bool
  | .add favorite => favorites.add favorite
  | .remove shortname software => favorites.remove shortname software

/-- The descriptions of systems, with some software or none. -/
abbrev Contents := String × Option String → Option String

/-- What a change makes of a map, and whether it changes anything: a description is added only where there is
none, and removed only where there is one. -/
def Contents.change (contents : Contents) : Change → Contents × Bool
  | .add favorite =>
    if (contents favorite.key).isSome then (contents, false)
    else (Function.update contents favorite.key (some favorite.description), true)
  | .remove shortname software =>
    (Function.update contents (shortname, software) none, (contents (shortname, software)).isSome)

/-- Makes changes one after the other; gives what comes of it and the answer to each. -/
def run {σ : Type} (step : σ → Change → σ × Bool) (start : σ) : List Change → σ × List Bool
  | [] => (start, [])
  | change :: rest =>
    let after := run step (step start change).1 rest
    (after.1, (step start change).2 :: after.2)

end Changes

section Contents

variable {favorites others : Favorites}

/-- The map that a collection stands for. -/
def contents (favorites : Favorites) : Contents := fun key =>
  (favorites.items.find? (·.key = key)).map Favorite.description

theorem contains_eq_isSome (favorites : Favorites) (shortname : String) (software : Option String) :
    favorites.contains shortname software = (favorites.contents (shortname, software)).isSome := by
  rw [contents, Option.isSome_map, List.isSome_find?, contains]

/-- Where no two favorites are for the same, the look-up of a key finds the only favorite with it. -/
theorem find?_key_eq_some_iff (distinct : favorites.Distinct) {key : String × Option String}
    {favorite : Favorite} :
    favorites.items.find? (fun other => other.key = key) = some favorite ↔
      favorite ∈ favorites.items ∧ favorite.key = key := by
  have spec : ∀ {found}, favorites.items.find? (fun other => other.key = key) = some found →
      found ∈ favorites.items ∧ found.key = key := fun found =>
    ⟨List.mem_of_find?_eq_some found, by simpa using List.find?_some found⟩
  constructor
  · exact spec
  · rintro ⟨member, rfl⟩
    cases h : favorites.items.find? fun other => other.key = favorite.key with
    | none => simpa using List.find?_eq_none.1 h favorite member
    | some found =>
        obtain ⟨inside, same⟩ := spec h
        rw [List.inj_on_of_nodup_map distinct inside member same]

/-- The entries of the map are the favorites of the collection. -/
theorem contents_eq_some_iff (distinct : favorites.Distinct) {key : String × Option String}
    {description : String} :
    favorites.contents key = some description ↔ ⟨key.1, key.2, description⟩ ∈ favorites.items := by
  rw [contents, Option.map_eq_some_iff]
  constructor
  · rintro ⟨found, h, rfl⟩
    obtain ⟨inside, rfl⟩ := (find?_key_eq_some_iff distinct).1 h
    exact inside
  · exact fun member => ⟨_, (find?_key_eq_some_iff distinct).2 ⟨member, rfl⟩, rfl⟩

/-- The favorites of a collection are the entries of its map. -/
theorem mem_items_iff (distinct : favorites.Distinct) (favorite : Favorite) :
    favorite ∈ favorites.items ↔ favorites.contents favorite.key = some favorite.description := by
  rw [contents_eq_some_iff distinct]
  rfl

/-- Adding to a collection without the key of a favorite gives a description to this key alone. -/
theorem contents_append {favorite : Favorite} (new : favorites.contents favorite.key = none) :
    contents ⟨favorites.items ++ [favorite]⟩ =
      Function.update favorites.contents favorite.key (some favorite.description) := by
  funext key
  obtain rfl | other := eq_or_ne key favorite.key
  · rw [contents, Option.map_eq_none_iff] at new
    rw [Function.update_self, contents, List.find?_append, new, Option.none_or]
    simp
  · rw [Function.update_of_ne other, contents, List.find?_append]
    simp [contents, other.symm]

/-- Removing takes the description from one key alone. -/
theorem contents_filter (favorites : Favorites) (key : String × Option String) :
    contents ⟨favorites.items.filter fun favorite => favorite.key ≠ key⟩ =
      Function.update favorites.contents key none := by
  funext other
  rw [contents, List.find?_filter]
  obtain rfl | different := eq_or_ne other key
  · simp
  · have same : (fun favorite : Favorite => decide (decide (favorite.key ≠ key) = true ∧
        decide (favorite.key = other) = true)) = fun favorite => decide (favorite.key = other) := by
      funext favorite
      grind
    rw [Function.update_of_ne different, same, contents]

/-- One change of a collection is a change of its map, with the same answer. -/
theorem change_contents (favorites : Favorites) (change : Change) :
    (favorites.change change).1.contents = (favorites.contents.change change).1 ∧
      (favorites.change change).2 = (favorites.contents.change change).2 := by
  cases change with
  | add favorite =>
      have key : (favorite.shortname, favorite.software) = favorite.key := rfl
      rw [Favorites.change, Contents.change, add, contains_eq_isSome, key]
      by_cases present : (favorites.contents favorite.key).isSome
      · rw [if_pos present, if_pos present]
        exact ⟨rfl, rfl⟩
      · rw [if_neg present, if_neg present]
        exact ⟨contents_append (by simpa using present), rfl⟩
  | remove shortname software =>
      exact ⟨contents_filter favorites (shortname, software),
        contains_eq_isSome favorites shortname software⟩

/-- Any number of changes of a collection are changes of its map, with the same answers. -/
theorem run_contents (favorites : Favorites) (changes : List Change) :
    (run change favorites changes).1.contents = (run Contents.change favorites.contents changes).1 ∧
      (run change favorites changes).2 = (run Contents.change favorites.contents changes).2 := by
  induction changes generalizing favorites with
  | nil => exact ⟨rfl, rfl⟩
  | cons first rest ih =>
      obtain ⟨after, answer⟩ := favorites.change_contents first
      obtain ⟨last, answers⟩ := ih (favorites.change first).1
      rw [after] at last answers
      exact ⟨last, congrArg₂ List.cons answer answers⟩

/-- No change makes two favorites for the same. -/
theorem Distinct.change (distinct : favorites.Distinct) (change : Change) :
    (favorites.change change).1.Distinct := by
  cases change with
  | add favorite => exact distinct.add favorite
  | remove shortname software => exact distinct.remove shortname software

/-- No changes make two favorites for the same. -/
theorem Distinct.run (distinct : favorites.Distinct) (changes : List Change) :
    (run Favorites.change favorites changes).1.Distinct := by
  induction changes generalizing favorites with
  | nil => exact distinct
  | cons first rest ih => exact ih (distinct.change first)

/-- A collection of some favorites comes of adding them one after the other. -/
theorem ofList_eq_run (items : List Favorite) :
    ofList items = (run change {} (items.map .add)).1 := by
  have fold : ∀ favorites : Favorites,
      items.foldl (fun favorites favorite => (favorites.add favorite).1) favorites =
        (run change favorites (items.map .add)).1 := by
    induction items with
    | nil => exact fun _ => rfl
    | cons first rest ih => exact fun favorites => ih (favorites.add first).1
  exact fold {}

/-- The map that a collection of some favorites stands for. -/
theorem contents_ofList (items : List Favorite) :
    (ofList items).contents = (run Contents.change (fun _ => none) (items.map .add)).1 := by
  rw [ofList_eq_run]
  exact (run_contents {} (items.map .add)).1

end Contents

section Sorted

variable {favorites others : Favorites}

/-- The keys that are made once for each description change nothing. -/
theorem sorted_eq_mergeSort (favorites : Favorites) :
    favorites.sorted = favorites.items.mergeSort fun a b => (a.compareListed b).isLE := by
  have sorted := List.map_mergeSort (r := fun a b : Favorite => (a.compareListed b).isLE)
    (s := fun a b : Text.CollationKey × Favorite => (Favorite.compareKeyed a b).isLE)
    (f := fun favorite => (Text.CollationKey.ofText favorite.description, favorite))
    (l := favorites.items) fun _ _ _ _ => rfl
  rw [Favorites.sorted, ← sorted, List.map_map]
  exact List.map_id _

/-- The menu lists favorites in strict order. -/
theorem pairwise_sorted (distinct : favorites.Distinct) :
    favorites.sorted.Pairwise fun a b => a.compareListed b = .lt := by
  have inOrder : favorites.sorted.Pairwise fun a b => (a.compareListed b).isLE := by
    rw [sorted_eq_mergeSort]
    exact pairwise_mergeSort_isLE favorites.items
  exact pairwise_lt_of_nodup inOrder (favorites.sorted_perm.nodup_iff.2 distinct.of_map)

/-- Collections are listed alike exactly if they stand for the same map. -/
theorem sorted_eq_iff (distinct : favorites.Distinct) (distinctOthers : others.Distinct) :
    favorites.sorted = others.sorted ↔ favorites.contents = others.contents := by
  constructor
  · intro same
    have perm : favorites.items.Perm others.items :=
      favorites.sorted_perm.symm.trans (same ▸ others.sorted_perm)
    funext key
    refine Option.ext fun description => ?_
    rw [contents_eq_some_iff distinct, contents_eq_some_iff distinctOthers, perm.mem_iff]
  · intro same
    refine eq_of_pairwise_lt (pairwise_sorted distinct) (pairwise_sorted distinctOthers) fun favorite => ?_
    rw [favorites.sorted_perm.mem_iff, others.sorted_perm.mem_iff, mem_items_iff distinct,
      mem_items_iff distinctOthers, same]

end Sorted

/-- What changes make of a collection stands for what they make of its map, and every change is answered as
there; a new collection stands for the map that its favorites make when they are added one by one. No two
favorites are for the same; membership is answered from the map, whose entries are the favorites. The menu
lists all of them, in strict order, and lists two collections alike exactly if they stand for one map. -/
theorem run_as_map (initial : List Favorite) (changes : List Change) :
    let favorites := (run change (ofList initial) changes).1
    let start := (run Contents.change (fun _ => none) (initial.map .add)).1
    favorites.contents = (run Contents.change start changes).1 ∧
      (run change (ofList initial) changes).2 = (run Contents.change start changes).2 ∧
      (favorites.items.map Favorite.key).Nodup ∧
      (∀ favorite, favorite ∈ favorites.items ↔
        favorites.contents favorite.key = some favorite.description) ∧
      (∀ shortname software, favorites.contains shortname software =
        (favorites.contents (shortname, software)).isSome) ∧
      (∀ shortname, favorites.isFavorite shortname = (favorites.contents (shortname, none)).isSome) ∧
      favorites.sorted.Perm favorites.items ∧
      (favorites.sorted.Pairwise fun a b => a.compareListed b = .lt) ∧
      ∀ others further, favorites.sorted = (run change (ofList others) further).1.sorted ↔
        favorites.contents = (run change (ofList others) further).1.contents := by
  intro favorites start
  have distinct : favorites.Distinct := (distinct_ofList initial).run changes
  have begins : (ofList initial).contents = start := contents_ofList initial
  obtain ⟨contents, answers⟩ := run_contents (ofList initial) changes
  rw [begins] at contents answers
  exact ⟨contents, answers, distinct, mem_items_iff distinct, favorites.contains_eq_isSome,
    fun shortname => favorites.contains_eq_isSome shortname none, favorites.sorted_perm,
    pairwise_sorted distinct, fun others further =>
      sorted_eq_iff distinct ((distinct_ofList others).run further)⟩

end Favorites

end SystemMenu
