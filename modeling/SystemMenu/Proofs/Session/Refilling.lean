import SystemMenu.Proofs.Session.FavoritesMenu
import SystemMenu.Proofs.Session.LastUsed

/-!
# Filling a menu again

A menu that is filled again, while nothing else has changed, lists the same. The selection is carried over
by the short name of the system that the selected item is for, so what is selected is the first item for
the same system. In a list of systems this is the selected item, since no system is listed twice. Among
favorites several items may be for one system, which start it alone and with different software. There the
selection moves to the first of them.

## Main statements

* `Session.fill_populateFrom`: what a filled menu would be filled with.
* `Session.nodup_shortname_fill`: no two items of a list of systems are for the same system.
* `Session.selected_populateFrom_select`: what is selected after filling the menu again.
* `Visit.Reachable.refilled`: when the selected item stays the same.
* `Visit.selection_not_kept`: a favorite that is not selected any more.
-/

namespace SystemMenu

/-- The first index that is found is that of a member, if no member before this one is found. -/
theorem exists_findIdx?_of_getElem? {α : Type} {p : α → Bool} {xs : List α} {index : Nat} {x : α}
    (here : xs[index]? = some x) (holds : p x = true) :
    ∃ first y, xs.findIdx? p = some first ∧ first ≤ index ∧ xs[first]? = some y ∧ p y = true ∧
      (∀ z ∈ xs.take first, p z = false) ∧ (first = index ↔ ∀ z ∈ xs.take index, p z = false) := by
  have found : (xs.findIdx? p).isSome = true := by
    rw [List.findIdx?_isSome, List.any_eq_true]
    exact ⟨x, List.mem_of_getElem? here, holds⟩
  obtain ⟨first, hfirst⟩ := Option.isSome_iff_exists.1 found
  obtain ⟨inside, chosen, before⟩ := List.findIdx?_eq_some_iff_getElem.1 hfirst
  obtain ⟨bound, rfl⟩ := List.getElem?_eq_some_iff.1 here
  have least : first ≤ index := by
    by_contra later
    exact before index (by omega) holds
  have none : ∀ z ∈ xs.take first, p z = false := by
    intro z member
    obtain ⟨k, less, rfl⟩ := List.mem_take_iff_getElem.1 member
    simpa using before k (by omega)
  refine ⟨first, _, hfirst, least, List.getElem?_eq_getElem inside, chosen, none, ?_, fun apart => ?_⟩
  · rintro rfl
    exact none
  · by_contra other
    have member : xs[first] ∈ xs.take index :=
      List.mem_take_iff_getElem.2 ⟨first, by omega, rfl⟩
    rw [apart _ member] at chosen
    cases chosen

/-- Where all images are different, no earlier member has the same image. -/
theorem ne_of_mem_take {α β : Type} {f : α → β} {xs : List α} (distinct : (xs.map f).Nodup)
    {index : Nat} {x : α} (here : xs[index]? = some x) {z : α} (earlier : z ∈ xs.take index) :
    f z ≠ f x := by
  rw [List.Nodup, List.pairwise_map] at distinct
  obtain ⟨inside, rfl⟩ := List.getElem?_eq_some_iff.1 here
  obtain ⟨k, less, rfl⟩ := List.mem_take_iff_getElem.1 earlier
  exact List.pairwise_iff_getElem.1 distinct k index (by omega) inside (by omega)

namespace Session

variable {session : Session} {cache : Cache} {favorites : Favorites} {number : Nat}

/-- Items that are filled in refer to the list that they were filled from, whatever is selected. -/
theorem list_select_populateFrom (session : Session) (cache : Cache) (favorites : Favorites)
    (number position : Nat) :
    ((session.populateFrom cache favorites number).select position).list = some number := rfl

/-- Neither filling the menu nor selecting an item changes the filter. -/
theorem filter_select_populateFrom (session : Session) (cache : Cache) (favorites : Favorites)
    (number position : Nat) :
    ((session.populateFrom cache favorites number).select position).filter = session.filter :=
  session.filter_turnedTo number

/-- A session that was filled from a list stays with it. -/
theorem turnedTo_of_list (filled : session.list = some number) : session.turnedTo number = session :=
  if_pos filled

/-- Filling the menu changes at most what the ranker keeps. -/
theorem metric_fill (session : Session) (cache : Cache) (favorites : Favorites) (number : Nat) :
    (session.fill cache favorites number).2.metric = session.ranker.metric := by
  unfold fill
  split
  · rfl
  · split
    · cases ranked : session.ranker.rank? cache session.search with
      | none => rfl
      | some result =>
          obtain ⟨number, -, rfl⟩ := Option.map_eq_some_iff.1 ranked
          rfl
    · rfl

/-- A menu that has been filled would be filled with the same again. -/
theorem fill_populateFrom (current : cache.sortedList? = some number)
    (ranked : (session.turnedTo number).ranker.snapshot = none ∨
      (session.turnedTo number).ranker.snapshot = some number) :
    ((session.populateFrom cache favorites number).fill cache favorites number).1 =
      ((session.turnedTo number).fill cache favorites number).1 := by
  have later := ranked_fill favorites current ranked
  have metric := metric_fill (session.turnedTo number) cache favorites number
  rw [populateFrom_eq]
  cases shows : (session.turnedTo number).showsFavorites with
  | true => rw [fill_favorites _ _ _ shows, fill_favorites _ _ _ (by exact shows)]
  | false =>
      by_cases search : (session.turnedTo number).search = ""
      · rw [fill_all _ _ _ shows search, fill_all _ _ _ (by exact shows) (by simpa using search)]
        rfl
      · rw [fill_search favorites current ranked shows search,
          fill_search favorites current later (by exact shows) (by simpa using search), metric]
        rfl

/-- Unless favorites are shown, a menu is filled with systems. -/
theorem exists_positions_fill (favorites : Favorites) (current : cache.sortedList? = some number)
    (ranked : session.ranker.snapshot = none ∨ session.ranker.snapshot = some number)
    (systems : session.showsFavorites = false) :
    ∃ positions : List Nat, (session.fill cache favorites number).1 = positions.map .system := by
  by_cases search : session.search = ""
  · exact ⟨_, fill_all cache favorites number systems search⟩
  · exact ⟨_, fill_search favorites current ranked systems search⟩

/-- And no two of its items are for the same system. -/
theorem nodup_shortname_fill (current : cache.sortedList? = some number) (kept : favorites.Distinct)
    (ranked : session.ranker.snapshot = none ∨ session.ranker.snapshot = some number)
    (systems : session.showsFavorites = false)
    (distinct : ((cache.entries number).map Entry.shortname).Nodup) :
    ((session.fill cache favorites number).1.map
      (MenuItem.shortname? (cache.entries number))).Nodup := by
  have filled := filled_fill session current kept ranked
  obtain ⟨positions, same⟩ := exists_positions_fill favorites current ranked systems
  rw [same] at filled ⊢
  have once := filled.distinct
  rw [MenuItem.filterMap_position?_system] at once
  rw [List.map_map]
  refine once.map_on fun a aMember b bMember named => ?_
  obtain ⟨entryA, hereA, -⟩ := filled.accepted a (List.mem_map_of_mem aMember)
  obtain ⟨entryB, hereB, -⟩ := filled.accepted b (List.mem_map_of_mem bMember)
  simp only [Function.comp_apply, MenuItem.shortname?, hereA, hereB, Option.map_some,
    Option.some.injEq] at named
  -- A short name is found at one position only.
  have foundA := (position?_eq_some_iff distinct).2 ⟨entryA, hereA, named⟩
  have foundB := (position?_eq_some_iff distinct).2 ⟨entryB, hereB, rfl⟩
  exact Option.some.inj (foundA.symm.trans foundB)

/-- An item that configures nothing comes before the configuration. -/
theorem getElem?_of_items {systems : List MenuItem} {position : Nat} {item : MenuItem}
    (here : (systems ++ session.configurationItems)[position]? = some item)
    (plain : ∀ target, item ≠ .configuration target) : systems[position]? = some item := by
  obtain inside | past := Nat.lt_or_ge position systems.length
  · rwa [List.getElem?_append_left inside] at here
  · rw [List.getElem?_append_right past] at here
    have member := List.mem_of_getElem? here
    rw [configurationItems] at member
    split at member
    · obtain ⟨target, -, rfl⟩ := List.mem_map.1 member
      exact absurd rfl (plain target)
    · cases member

/-- Every item that configures nothing is for a system. -/
theorem Consistent.exists_shortname? (consistent : session.Consistent cache) {position : Nat}
    {item : MenuItem} (here : session.items[position]? = some item)
    (plain : ∀ target, item ≠ .configuration target) :
    ∃ name, item.shortname? (session.entries cache) = some name := by
  cases item with
  | system place =>
      obtain ⟨entry, there⟩ := consistent.resolves place (List.mem_of_getElem? here)
      exact ⟨entry.shortname, by rw [MenuItem.shortname?, there]; rfl⟩
  | configuration target => exact absurd rfl (plain target)
  | software favorite => exact ⟨favorite.shortname, rfl⟩

/-- In a list of systems no earlier item is for the same system. -/
theorem shortname?_ne_of_mem_take (current : cache.sortedList? = some number)
    (kept : favorites.Distinct)
    (ranked : (session.turnedTo number).ranker.snapshot = none ∨
      (session.turnedTo number).ranker.snapshot = some number)
    (distinct : ((cache.entries number).map Entry.shortname).Nodup)
    (systems : session.filter ≠ .favorites) {position : Nat} {item : MenuItem}
    (here : (session.populateFrom cache favorites number).items[position]? = some item)
    (plain : ∀ target, item ≠ .configuration target) {earlier : MenuItem}
    (before : earlier ∈ (session.populateFrom cache favorites number).items.take position) :
    earlier.shortname? (cache.entries number) ≠ item.shortname? (cache.entries number) := by
  rw [populateFrom_eq] at here before
  have listed := getElem?_of_items here plain
  have inside := (List.getElem?_eq_some_iff.1 listed).1
  rw [List.take_append_of_le_length (by omega)] at before
  have shows : (session.turnedTo number).showsFavorites = false := by simp [showsFavorites, systems]
  exact ne_of_mem_take (nodup_shortname_fill current kept ranked shows distinct) listed before

/-- Among favorites an earlier item is for the same system if an earlier favorite is. -/
theorem exists_favorite_of_items (shows : session.filter = .favorites) {position : Nat}
    {item : MenuItem}
    (here : (session.populateFrom cache favorites number).items[position]? = some item)
    (plain : ∀ target, item ≠ .configuration target) :
    ∃ favorite, favorites.sorted[position]? = some favorite ∧
      item.shortname? (cache.entries number) = some favorite.shortname ∧
      ∀ name, (∀ earlier ∈ (session.populateFrom cache favorites number).items.take position,
          earlier.shortname? (cache.entries number) ≠ some name) ↔
        ∀ earlier ∈ favorites.sorted.take position, earlier.shortname ≠ name := by
  rw [populateFrom_eq] at here ⊢
  have listed := getElem?_of_items here plain
  have inside := (List.getElem?_eq_some_iff.1 listed).1
  have shown : (session.turnedTo number).showsFavorites = true := by simp [showsFavorites, shows]
  rw [fill_favorites cache favorites number shown] at listed inside ⊢
  rw [List.getElem?_map] at listed
  obtain ⟨favorite, there, rfl⟩ := Option.map_eq_some_iff.1 listed
  refine ⟨favorite, there, shortname?_favoriteItem _ favorite, fun name => ?_⟩
  rw [List.take_append_of_le_length (by omega), ← List.map_take, List.forall_mem_map]
  simp [shortname?_favoriteItem]

/-- When a menu is filled again after an item was selected, it lists the same and the selection is looked
for by the short name of the system. -/
theorem selected_populateFrom_select (current : cache.sortedList? = some number)
    (ranked : (session.turnedTo number).ranker.snapshot = none ∨
      (session.turnedTo number).ranker.snapshot = some number) {filled again : Session}
    (first : session.populateFrom cache favorites number = filled) {position : Nat} {item : MenuItem}
    (here : filled.items[position]? = some item)
    (second : (filled.select position).populateFrom cache favorites number = again) :
    again.items = filled.items ∧
      again.selected = (item.shortname? (cache.entries number)).bind fun name =>
        filled.items.findIdx? fun item => item.shortname? (cache.entries number) = some name := by
  have list : (filled.select position).list = some number := by
    rw [← first, list_select_populateFrom]
  have target : (filled.select position).target? cache = item.shortname? (cache.entries number) := by
    have done : (filled.select position).reselect = none := by
      rw [← first, populateFrom_eq]
      rfl
    rw [target?, done, Option.none_or, selectedName?, selectedItem?_select here, entries, list]
    rfl
  have items : ((filled.select position).fill cache favorites number).1 ++
      (filled.select position).configurationItems = filled.items := by
    rw [← first]
    exact congrArg₂ _ (fill_populateFrom current ranked) rfl
  rw [← second, populateFrom_eq, turnedTo_of_list list, target]
  exact ⟨items, by rw [items]⟩

end Session

namespace Visit

variable {source : Source} {visit : Visit}

/-- What filling the menu again makes of a visit. -/
theorem Coherent.selected_refilled (coherent : visit.Coherent source) {number : Nat}
    (current : visit.cache.sortedList? = some number) {filled again : Visit}
    (first : visit.move .populate = filled) {position : Nat} {item : MenuItem}
    (here : filled.session.items[position]? = some item)
    (second : (filled.move (.select position)).move .populate = again) :
    again.session.items = filled.session.items ∧
      again.session.selected = (item.shortname? (visit.cache.entries number)).bind fun name =>
        filled.session.items.findIdx? fun other =>
          other.shortname? (visit.cache.entries number) = some name := by
  subst first second
  have start := session_populate current
  have unchanged : ((visit.move .populate).move (.select position)).cache.sortedList? = some number :=
    current
  have next := session_populate unchanged
  exact Session.selected_populateFrom_select current (coherent.consistent.ranked_turnedTo number)
    start.symm here next.symm

/-- An item is selected, and the menu is filled again from the same list with the same filter, search text
and favorites. It lists the same as before, and the first item that is for the same system is selected.
If the menu lists systems, by a search or without one, this is the item that was selected. If it lists
favorites, it is this item if and only if no favorite before it is for the same system. -/
theorem Reachable.refilled {records : List SystemRecord} {catalog : Catalog}
    (accepted : Catalog.ofRecords records = .ok catalog)
    (reachable : Reachable catalog.source visit) {number : Nat}
    (current : visit.cache.sortedList? = some number) {filled again : Visit}
    (first : visit.move .populate = filled) {position : Nat} {item : MenuItem}
    (here : filled.session.items[position]? = some item)
    (plain : ∀ target, item ≠ .configuration target)
    (second : (filled.move (.select position)).move .populate = again) :
    again.session.items = filled.session.items ∧
    ∃ chosen other name, again.session.selected = some chosen ∧ chosen ≤ position ∧
      filled.session.items[chosen]? = some other ∧
      item.shortname? (visit.cache.entries number) = some name ∧
      other.shortname? (visit.cache.entries number) = some name ∧
      (∀ earlier ∈ filled.session.items.take chosen,
        earlier.shortname? (visit.cache.entries number) ≠ some name) ∧
      (visit.session.filter ≠ .favorites → chosen = position) ∧
      (visit.session.filter = .favorites →
        ∃ favorite, visit.favorites.sorted[position]? = some favorite ∧
          favorite.shortname = name ∧
          (chosen = position ↔
            ∀ before ∈ visit.favorites.sorted.take position, before.shortname ≠ name)) := by
  have ordered := Catalog.ordered_of_ofRecords accepted
  have coherent := reachable.coherent
  obtain ⟨same, selected⟩ := coherent.selected_refilled current first here second
  have distinct := (coherent.inUse.lists ordered current).nodup_shortname
  have start := session_populate current
  rw [first] at start
  -- The item is for a system, since it does not configure anything.
  obtain ⟨name, named⟩ : ∃ name, item.shortname? (visit.cache.entries number) = some name := by
    have consistent := coherent.consistent.populateFrom current coherent.distinct
      (coherent.inUse.sound.isSome_sorted current)
    exact consistent.exists_shortname? (start ▸ here) plain
  rw [named, Option.bind_some] at selected
  obtain ⟨chosen, other, found, least, there, otherNamed, none, only⟩ :=
    exists_findIdx?_of_getElem? (p := fun other =>
      other.shortname? (visit.cache.entries number) = some name) here (decide_eq_true named)
  simp only [decide_eq_true_eq, decide_eq_false_iff_not] at otherNamed none only
  rw [start] at here only
  refine ⟨same, chosen, other, name, selected.trans found, least, there, named, otherNamed, none,
    fun systems => only.2 ?_, fun shows => ?_⟩
  · intro earlier before
    rw [← named]
    exact Session.shortname?_ne_of_mem_take current coherent.distinct
      (coherent.consistent.ranked_turnedTo number) distinct systems here plain before
  · obtain ⟨favorite, listed, own, before⟩ := Session.exists_favorite_of_items shows here plain
    rw [named] at own
    exact ⟨favorite, listed, (Option.some.inj own).symm, only.trans (before name)⟩

/-- A system alone as a favorite. -/
def arcade : Favorite := { shortname := "pac", description := "Puckman" }

/-- The same system with software. -/
def maze : Favorite := { shortname := "pac", software := some "maze", description := "Puckman" }

/-- Both have the same description, so the one without software comes first. -/
theorem sorted_arcade_maze : (Favorites.ofList [arcade, maze]).sorted = [arcade, maze] := by
  have items : (Favorites.ofList [arcade, maze]).items = [arcade, maze] := rfl
  rw [Favorites.sorted, items, List.mergeSort_of_pairwise]
  · rfl
  · have tied : compare (Text.CollationKey.ofText arcade.description)
        (Text.CollationKey.ofText maze.description) = .eq := Std.ReflCmp.compare_self
    rw [List.map_cons, List.map_singleton, List.pairwise_pair, Favorite.compareKeyed, tied]
    rfl

/-- A visit that shows both favorites, over a list that has been built. -/
theorem exists_showing_favorites :
    ∃ (visit : Visit) (number : Nat), Reachable Catalog.family.source visit ∧
      visit.cache.offers Stage.all = true ∧ visit.cache.sortedList? = some number ∧
      visit.session.filter = .favorites ∧ visit.favorites.sorted = [arcade, maze] ∧
      (visit.move .populate).session.items =
        [Session.favoriteItem (visit.cache.entries number) arcade, .software maze,
          .configuration .options, .configuration .machine] := by
  obtain ⟨cache, built, offered⟩ := Cache.exists_published Catalog.family "" "" (.empty [])
  let visit := (opened {} true cache (.ofList [arcade, maze])).move (.setFilter .favorites)
  have reachable : Reachable Catalog.family.source visit :=
    .move (.setFilter .favorites) (.opened built.inUse {} true [arcade, maze])
  have complete : visit.cache.offers Stage.all = true := by
    change (cache.beginBuild _ _).1.offers Stage.all = true
    unfold Cache.beginBuild
    split <;> exact offered
  have current := Cache.sortedList?_of_complete complete
  have filter : visit.session.filter = .favorites := rfl
  have sorted : visit.favorites.sorted = [arcade, maze] := sorted_arcade_maze
  refine ⟨visit, _, reachable, complete, current, filter, sorted, ?_⟩
  have shown : (visit.session.turnedTo visit.cache.current).showsFavorites = true := by
    simp [Session.showsFavorites, filter]
  rw [session_populate current, Session.items_populateFrom, Session.fill_favorites _ _ _ shown, sorted]
  rfl

theorem Reachable.refilled_favorites :
    ∃ (filled again : Visit) (item : MenuItem), filled.session.filter = .favorites ∧
      filled.session.items[0]? = some item ∧ (∀ target, item ≠ .configuration target) ∧
      (filled.move (.select 0)).move .populate = again ∧
      again.session.items = filled.session.items ∧ again.session.selected = some 0 := by
  obtain ⟨visit, number, reachable, -, current, filter, sorted, items⟩ := exists_showing_favorites
  have here : (visit.move .populate).session.items[0]? =
      some (Session.favoriteItem (visit.cache.entries number) arcade) := by
    rw [items]
    rfl
  have plain : ∀ target, Session.favoriteItem (visit.cache.entries number) arcade ≠
      .configuration target := by
    intro target same
    have named := Session.shortname?_favoriteItem (visit.cache.entries number) arcade
    rw [same] at named
    cases named
  obtain ⟨same, chosen, _, _, selected, -, -, -, -, -, -, favorites⟩ :=
    refilled Catalog.ofRecords_family reachable current rfl here plain rfl
  obtain ⟨favorite, -, -, only⟩ := favorites filter
  obtain rfl := only.2 (by simp)
  refine ⟨_, _, _, ?_, here, plain, rfl, same, selected⟩
  rw [session_populate current, Session.populateFrom_eq]
  simpa using filter

/-- The second favorite is selected, but when the menu is filled again, the first one is. -/
theorem selection_not_kept :
    ∃ (visit filled again : Visit), Reachable Catalog.family.source visit ∧
      visit.cache.offers Stage.all = true ∧ visit.move .populate = filled ∧
      filled.session.items[1]? = some (.software maze) ∧
      (filled.move (.select 1)).session.selected = some 1 ∧
      (filled.move (.select 1)).move .populate = again ∧
      again.session.items = filled.session.items ∧ again.session.selected = some 0 := by
  obtain ⟨visit, number, reachable, complete, current, -, -, items⟩ := exists_showing_favorites
  have here : (visit.move .populate).session.items[1]? = some (.software maze) := by
    rw [items]
    rfl
  obtain ⟨same, selected⟩ := reachable.coherent.selected_refilled current rfl here rfl
  refine ⟨visit, _, _, reachable, complete, rfl, here, ?_, rfl, same, ?_⟩
  · rw [move, sessionAfter, Session.select, items]
    rfl
  · have named : (Session.favoriteItem (visit.cache.entries number) arcade).shortname?
        (visit.cache.entries number) = some maze.shortname :=
      Session.shortname?_favoriteItem _ arcade
    rw [selected, items, MenuItem.shortname?, Option.bind_some, List.findIdx?_cons,
      if_pos (decide_eq_true named)]

end Visit

end SystemMenu
