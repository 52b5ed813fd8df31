import SystemMenu.Proofs.Session.SearchResults
import SystemMenu.Proofs.Staging.FilterMenus

/-!
# The menu of favorites

The menu of favorites is made from the favorites: each is looked up in the list by its short name. The
filter of favorites goes the other way and asks for each entry of the list whether its system is a
favorite. Both agree, because no two favorites are for the same and no short name is listed twice.

## Main statements

* `Favorites.Kept`: what can become of a collection of favorites.
* `Session.position?_eq_some_iff`: where a short name is found.
* `Session.favoriteItem_eq_system_iff`: which favorites are listed as systems.
* `Session.favorites_menu`: what the menu lists, and what the filter accepts.
-/

namespace SystemMenu

namespace Favorites

/-- What can become of an empty collection. -/
inductive Kept : Favorites → Prop
  | empty : Kept {}
  | add {favorites : Favorites} (favorite : Favorite) (kept : Kept favorites) :
      Kept (favorites.add favorite).1
  | remove {favorites : Favorites} (shortname : String) (software : Option String)
      (kept : Kept favorites) : Kept (favorites.remove shortname software).1

theorem Kept.distinct {favorites : Favorites} (kept : favorites.Kept) : favorites.Distinct := by
  induction kept with
  | empty => exact List.nodup_nil
  | add favorite _ ih => exact ih.add favorite
  | remove shortname software _ ih => exact ih.remove shortname software

/-- A system alone is a favorite if it is one without software. -/
theorem isFavorite_eq_true_iff {favorites : Favorites} {shortname : String} :
    favorites.isFavorite shortname = true ↔
      ∃ favorite ∈ favorites.items, favorite.shortname = shortname ∧ favorite.software = none := by
  rw [isFavorite, contains_eq_true_iff, List.mem_map]
  simp [Favorite.key]

end Favorites

namespace Session

variable {entries : List Entry} {favorite : Favorite} {position : Nat}

/-- A short name is found where it stands, since it stands nowhere else. -/
theorem position?_eq_some_iff (distinct : (entries.map Entry.shortname).Nodup) {shortname : String} :
    position? entries shortname = some position ↔
      ∃ entry, entries[position]? = some entry ∧ entry.shortname = shortname := by
  refine ⟨of_position?_eq_some, ?_⟩
  rintro ⟨entry, here, rfl⟩
  obtain ⟨inside, rfl⟩ := List.getElem?_eq_some_iff.1 here
  refine List.findIdx?_eq_some_iff_getElem.2 ⟨inside, by simp, fun other before => ?_⟩
  rw [List.Nodup, List.pairwise_map] at distinct
  have apart := List.pairwise_iff_getElem.1 distinct other position (before.trans inside) inside before
  simpa using apart

/-- A favorite is listed as a system if it is for the system alone and this is in the list. -/
theorem favoriteItem_eq_system_iff (distinct : (entries.map Entry.shortname).Nodup) :
    favoriteItem entries favorite = .system position ↔ favorite.software = none ∧
      ∃ entry, entries[position]? = some entry ∧ entry.shortname = favorite.shortname := by
  refine ⟨of_favoriteItem_eq_system, ?_⟩
  rintro ⟨alone, listed⟩
  have found := (position?_eq_some_iff distinct).2 listed
  simp [favoriteItem, Favorite.startsEmpty, alone, found]

/-- Every other favorite is listed for itself. -/
theorem favoriteItem_eq_software (other : ∀ position, favoriteItem entries favorite ≠ .system position) :
    favoriteItem entries favorite = .software favorite := by
  unfold favoriteItem at other ⊢
  dsimp only at other ⊢
  split
  · rename_i position found
    rw [found] at other
    exact absurd rfl (other position)
  · rfl

/-- The systems in a menu of favorites are those that are favorites by themselves. -/
theorem system_mem_favorites_iff (distinct : (entries.map Entry.shortname).Nodup)
    (favorites : Favorites) :
    .system position ∈ favorites.sorted.map (favoriteItem entries) ↔
      ∃ entry, entries[position]? = some entry ∧
        Filter.favorites.accepts favorites.isFavorite entry = true := by
  have accepts : ∀ entry : Entry, Filter.favorites.accepts favorites.isFavorite entry =
      favorites.isFavorite entry.shortname := fun _ => rfl
  simp only [List.mem_map, favorites.sorted_perm.mem_iff, favoriteItem_eq_system_iff distinct, accepts,
    Favorites.isFavorite_eq_true_iff]
  constructor
  · rintro ⟨favorite, member, alone, entry, here, named⟩
    exact ⟨entry, here, favorite, member, named.symm, alone⟩
  · rintro ⟨entry, here, favorite, member, named, alone⟩
    exact ⟨favorite, member, alone, entry, here, named.symm⟩

/-- The menu of favorites is filled with one item for each of them. -/
theorem fill_favorites {session : Session} (cache : Cache) (favorites : Favorites) (number : Nat)
    (shows : session.showsFavorites = true) :
    (session.fill cache favorites number).1 =
      favorites.sorted.map (favoriteItem (cache.entries number)) := by
  rw [fill, if_pos shows]

/-- A menu of favorites can be filled once a build is let go on. Where it is filled from the current list of
a catalog, the search text is gone, and there is one item for each favorite, in the order of the favorites:
the position of its system if it is for the system alone and this is listed, otherwise the favorite itself.
The positions in the menu, none of them twice, are those of the entries that the filter of favorites
accepts. -/
theorem favorites_menu {records : List SystemRecord} {catalog : Catalog} {cache : Cache}
    {favorites : Favorites} (accepted : Catalog.ofRecords records = .ok catalog)
    (inUse : Cache.InUse catalog.source cache) (kept : favorites.Kept) {session : Session}
    (shows : session.filter = .favorites) :
    (∀ searchPath selector tree,
      (session.populate? ((cache.beginBuild searchPath selector).1.proceed tree none).1
        favorites).isSome = true) ∧
    ∀ number, cache.sortedList? = some number →
      ∃ next items, session.populate? cache favorites = some next ∧ next.search = "" ∧
        next.items = items ++
          (if session.topLevel then [.configuration .options, .configuration .machine] else []) ∧
        favorites.sorted.Perm favorites.items ∧ items.length = favorites.sorted.length ∧
        (∀ (k : Nat) (favorite : Favorite) (item : MenuItem), favorites.sorted[k]? = some favorite →
          items[k]? = some item →
            (∀ position, item = .system position ↔ favorite.software = none ∧
              ∃ entry, (cache.entries number)[position]? = some entry ∧
                entry.shortname = favorite.shortname) ∧
            ((∀ position, item ≠ .system position) → item = .software favorite)) ∧
        (items.filterMap MenuItem.position?).Nodup ∧
        ∀ position, .system position ∈ items ↔
          ∃ entry, (cache.entries number)[position]? = some entry ∧
            Filter.favorites.accepts favorites.isFavorite entry = true := by
  have ordered := Catalog.ordered_of_ofRecords accepted
  refine ⟨fun searchPath selector tree => ?_, fun number current => ?_⟩
  · have listed := Cache.sortedList?_of_complete (inUse.offers_all ordered searchPath selector tree)
    rw [populate?, listed]
    rfl
  · have distinct := (inUse.lists ordered current).nodup_shortname
    have shown : (session.turnedTo number).showsFavorites = true := by simp [showsFavorites, shows]
    have systems : Filled .favorites favorites (cache.entries number) number _
        session.ranker.invalidate := filled_favorites kept.distinct (.inl rfl)
    refine ⟨session.populateFrom cache favorites number,
      favorites.sorted.map (favoriteItem (cache.entries number)), by rw [populate?, current]; rfl,
      ?_, ?_, favorites.sorted_perm, List.length_map _, fun k favorite item there here => ?_,
      systems.distinct, fun position => system_mem_favorites_iff distinct favorites⟩
    · rw [populateFrom_eq]
      simp [shown]
    · rw [items_populateFrom, fill_favorites cache favorites number shown]
    · rw [List.getElem?_map, there, Option.map_some, Option.some.injEq] at here
      subst here
      exact ⟨fun position => favoriteItem_eq_system_iff distinct, favoriteItem_eq_software⟩

/-- Favorites of every kind: a system alone and with software, one that is not in the catalog, and one that
was removed again. -/
def mixedFavorites : Favorites :=
  ((((({} : Favorites).add { shortname := "pac", description := "Zeta" }).1.add
    { shortname := "pac", software := some "maze", description := "Maze" }).1.add
    { shortname := "gone", description := "Gone" }).1.add
    { shortname := "cart", description := "Cartridge" }).1.remove "cart" none |>.1

theorem kept_mixedFavorites : mixedFavorites.Kept :=
  .remove _ _ (.add _ (.add _ (.add _ (.add _ .empty))))

/-- A session that turns to favorites while a search is pending. -/
def turningToFavorites : Session where
  ranker := { metric := .standard }
  topLevel := true
  maxVisibleResults := 1
  filter := .favorites
  search := "cart"

/-- One of the three items is a system, although two favorites are for it. -/
theorem favorites_menu_mixedFavorites :
    ∃ cache number next items position, Cache.InUse Catalog.family.source cache ∧
      cache.sortedList? = some number ∧
      turningToFavorites.populate? cache mixedFavorites = some next ∧ next.search = "" ∧
      next.items = items ++ [.configuration .options, .configuration .machine] ∧
      items.length = 3 ∧ items.filterMap MenuItem.position? = [position] ∧
      ∃ entry, (cache.entries number)[position]? = some entry ∧ entry.shortname = "pac" := by
  have ordered := Catalog.ordered_of_ofRecords Catalog.ofRecords_family
  obtain ⟨cache, reachable, offered⟩ := Cache.exists_published Catalog.family "" "" (.empty [])
  have inUse := reachable.inUse
  have current := Cache.sortedList?_of_complete offered
  have shows : turningToFavorites.filter = .favorites := rfl
  obtain ⟨-, filled⟩ := favorites_menu Catalog.ofRecords_family inUse kept_mixedFavorites shows
  obtain ⟨next, items, populated, search, all, -, length, -, once, systems⟩ := filled _ current
  obtain ⟨entry, member, named⟩ : ∃ entry ∈ cache.entries cache.current, entry.record.name = "pac" :=
    (inUse.exists_entry_iff ordered current fun record => record.name = "pac").2 (by decide +kernel)
  obtain ⟨position, here⟩ := List.mem_iff_getElem?.1 member
  have favored : ∀ record ∈ Catalog.family.records,
      (mixedFavorites.isFavorite record.name = true ↔ record.name = "pac") := by decide +kernel
  have distinct := (inUse.lists ordered current).nodup_shortname
  have found := (position?_eq_some_iff distinct).2 ⟨entry, here, named⟩
  have only : ∀ other, other ∈ items.filterMap MenuItem.position? ↔ other ∈ [position] := by
    intro other
    simp only [List.mem_filterMap, MenuItem.position?_eq_some_iff, exists_eq_right, List.mem_singleton]
    rw [systems]
    constructor
    · rintro ⟨accepted, there, accepts⟩
      have own := (inUse.of_mem_sortedList ordered current (List.mem_of_getElem? there)).1
      have again := (position?_eq_some_iff distinct).2 ⟨accepted, there, (favored _ own).1 accepts⟩
      exact Option.some.inj (again.symm.trans found)
    · rintro rfl
      have own := (inUse.of_mem_sortedList ordered current member).1
      exact ⟨entry, here, (favored _ own).2 named⟩
  refine ⟨cache, cache.current, next, items, position, inUse, current, populated, search, all, ?_, ?_,
    entry, here, named⟩
  · rw [length, mixedFavorites.sorted_perm.length_eq]
    decide +kernel
  · exact List.perm_singleton.1 ((List.perm_ext_iff_of_nodup once (List.nodup_singleton _)).2 only)

end Session

end SystemMenu
