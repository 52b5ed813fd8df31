import SystemMenu.Proofs.Session.Snapshots
import SystemMenu.Proofs.Staging.FilterMenus

/-!
# The filter and the system that were used last

A session leaves its filter, as text, and the short name of its system to the next one. The next session
has the same filter, and lists everything that this filter accepts: also what the session before found by
a search among many others. So the system is selected again, in whatever list is current by then. This
happens once; after that, filling the menu only keeps the selection.

## Main statements

* `Filter.Known.isTidy`: filters that can be read back.
* `Session.exists_mem_fill`, `Session.selected_populateFrom`: what is listed and selected.
* `Visit.afterMoves_of_unfilled`, `Visit.reselect_afterMoves`: what is kept until the menu is filled.
* `Visit.Reachable.last_used_restored`: the next session goes on where the last one ended.
-/

namespace SystemMenu

namespace Filter

/-- A filter looks at the record of an entry, at whether it is a clone and at what it was told. -/
theorem accepts_congr (filter : Filter) (isFavorite : String → Bool) {a b : Entry}
    (record : a.record = b.record) (isClone : a.isClone = b.isClone)
    (available : a.available = b.available) :
    filter.accepts isFavorite a = filter.accepts isFavorite b := by
  cases filter <;> simp [accepts, record, isClone, available, Entry.shortname]

/-- Where a filter comes from: it has no value, it was read from text, or its value was offered. -/
inductive Known (source : Source) (filter : Filter) : Prop where
  | plain (none : filter.value? = none)
  | read (text : String) (parsed : parse? text = some filter)
  | offered {cache : Cache} {index : FilterIndex} (inUse : Cache.InUse source cache)
      (published : cache.filterIndex? = some index) (offered : filter.OfferedBy index)

theorem Known.isTidy {catalog : Catalog} {filter : Filter} (known : filter.Known catalog.source)
    (ordered : catalog.Ordered) : filter.IsTidy := by
  cases known with
  | plain none =>
      intro value has
      rw [none] at has
      cases has
  | read text parsed => exact isTidy_of_parse? parsed
  | offered inUse published offered =>
      exact offered.isTidy (inUse.tidy_filterIndex ordered published)

end Filter

namespace Session

/-- A session starts with the filter that the last one left. -/
theorem restoreFilter_text {filter : Filter} (tidy : filter.IsTidy) :
    restoreFilter filter.text = (filter, []) := by
  simp [restoreFilter, filter.trimmed_text_ne_empty, filter.parse?_text tidy]

variable {session : Session} {cache : Cache} {favorites : Favorites} {number : Nat}

/-- The item for a favorite is for the system of the favorite. -/
theorem shortname?_favoriteItem (entries : List Entry) (favorite : Favorite) :
    (favoriteItem entries favorite).shortname? entries = some favorite.shortname := by
  simp only [favoriteItem]
  split
  · rename_i found
    split at found
    · obtain ⟨entry, here, named⟩ := of_position?_eq_some found
      simp [MenuItem.shortname?, here, named]
    · cases found
  · rfl

/-- Without a search text, all accepted systems are listed, also when favorites are shown. -/
theorem exists_mem_fill (search : session.search = "") {entry : Entry}
    (member : entry ∈ cache.entries number)
    (accepted : session.filter.accepts favorites.isFavorite entry = true) :
    ∃ item ∈ (session.fill cache favorites number).1,
      item.shortname? (cache.entries number) = some entry.shortname := by
  unfold fill
  split
  · rename_i shows
    rw [show session.filter = .favorites by simpa [showsFavorites] using shows] at accepted
    have key := (Favorites.contains_eq_true_iff favorites entry.shortname none).1 accepted
    obtain ⟨favorite, favoriteMember, same⟩ := List.mem_map.1 key
    refine ⟨favoriteItem (cache.entries number) favorite,
      List.mem_map_of_mem (favorites.sorted_perm.mem_iff.2 favoriteMember), ?_⟩
    rw [shortname?_favoriteItem]
    exact congrArg (some ·.1) same
  · obtain ⟨position, here⟩ := List.mem_iff_getElem?.1 member
    have inside : position ∈ List.range (cache.entries number).length :=
      List.mem_range.2 (List.getElem?_eq_some_iff.1 here).1
    rw [if_neg (by simp [search])]
    refine ⟨.system position, List.mem_map_of_mem
      (mem_acceptedPositions_iff.2 ⟨inside, entry, here, accepted⟩), ?_⟩
    simp [MenuItem.shortname?, here]

/-- Filling the menu selects the system that it tries to select, if that is listed. -/
theorem selected_populateFrom {name : String} (target : session.target? cache = some name)
    (listed : ∃ item ∈ ((session.turnedTo number).fill cache favorites number).1,
      item.shortname? (cache.entries number) = some name) :
    ∃ position item, (session.populateFrom cache favorites number).selected = some position ∧
      (session.populateFrom cache favorites number).items[position]? = some item ∧
      item.shortname? (cache.entries number) = some name := by
  obtain ⟨item, member, named⟩ := listed
  have found : ((session.populateFrom cache favorites number).items.findIdx? fun item =>
      item.shortname? (cache.entries number) = some name).isSome = true := by
    rw [List.findIdx?_isSome, List.any_eq_true]
    exact ⟨item, List.mem_append_left _ member, decide_eq_true named⟩
  obtain ⟨position, hposition⟩ := Option.isSome_iff_exists.1 found
  obtain ⟨inside, chosen, -⟩ := List.findIdx?_eq_some_iff_getElem.1 hposition
  refine ⟨position, _, ?_, List.getElem?_eq_getElem inside, of_decide_eq_true chosen⟩
  rw [populateFrom_eq, target]
  exact hposition

/-- A session that starts with a system to select finds it, if its filter accepts the system. -/
theorem exists_populate? (listed : cache.sortedList? = some number) (search : session.search = "")
    {entry : Entry} (reselect : session.reselect = some entry.shortname)
    (member : entry ∈ cache.entries number)
    (accepted : session.filter.accepts favorites.isFavorite entry = true) :
    ∃ again position item, session.populate? cache favorites = some again ∧ again.reselect = none ∧
      again.selected = some position ∧ again.items[position]? = some item ∧
      item.shortname? (again.entries cache) = some entry.shortname := by
  have target : session.target? cache = some entry.shortname := by
    rw [target?, reselect]
    rfl
  have shown : ∃ item ∈ ((session.turnedTo number).fill cache favorites number).1,
      item.shortname? (cache.entries number) = some entry.shortname :=
    exists_mem_fill (by rw [search_turnedTo, search]) member (by rwa [filter_turnedTo])
  obtain ⟨position, item, selected, here, named⟩ := selected_populateFrom target shown
  exact ⟨_, position, item, by rw [populate?, listed]; rfl, rfl, selected, here, named⟩

/-- Filling the menu selects nothing else. -/
theorem target?_of_selectedName? {name : String}
    (selected : (session.populateFrom cache favorites number).selectedName? cache = some name) :
    session.target? cache = some name := by
  obtain ⟨item, selectedItem, named⟩ := Option.bind_eq_some_iff.1 selected
  obtain ⟨position, hposition, here⟩ := Option.bind_eq_some_iff.1 selectedItem
  rw [populateFrom_eq] at hposition
  obtain ⟨target, known, found⟩ := Option.bind_eq_some_iff.1 hposition
  obtain ⟨inside, chosen, -⟩ := List.findIdx?_eq_some_iff_getElem.1 found
  -- The item that was found is the item that is selected.
  obtain ⟨_, rfl⟩ := List.getElem?_eq_some_iff.1 here
  have same : some target = some name := (of_decide_eq_true chosen).symm.trans named
  rw [known, same]

/-- An item of the menu can be selected. -/
theorem selectedItem?_select {position : Nat} {item : MenuItem}
    (here : session.items[position]? = some item) :
    (session.select position).selectedItem? = some item := by
  obtain ⟨inside, chosen⟩ := List.getElem?_eq_some_iff.1 here
  simp [selectedItem?, select, inside, chosen]

end Session

namespace Visit

variable {source : Source} {visit : Visit}

/-- The items and their list stay until the menu is filled again, and so does the system to select. -/
theorem move_of_unfilled (visit : Visit) {move : Move} (unfilled : move ≠ .populate) :
    (visit.move move).session.items = visit.session.items ∧
      (visit.move move).session.list = visit.session.list ∧
      (visit.move move).session.reselect = visit.session.reselect := by
  suffices h : (visit.sessionAfter move).items = visit.session.items ∧
      (visit.sessionAfter move).list = visit.session.list ∧
      (visit.sessionAfter move).reselect = visit.session.reselect from h
  cases move with
  | populate => exact absurd rfl unfilled
  | push c =>
      simp only [sessionAfter, Session.push]
      split <;> exact ⟨rfl, rfl, rfl⟩
  | pop =>
      simp only [sessionAfter, Session.pop?]
      split <;> exact ⟨rfl, rfl, rfl⟩
  | setSearch text =>
      simp only [sessionAfter, Session.setSearch]
      split <;> exact ⟨rfl, rfl, rfl⟩
  | select | setFilter | clearSearch | addFavorite | removeFavorite | use => exact ⟨rfl, rfl, rfl⟩

theorem afterMoves_of_unfilled (visit : Visit) {moves : List Move} (unfilled : .populate ∉ moves) :
    (visit.afterMoves moves).session.items = visit.session.items ∧
      (visit.afterMoves moves).session.list = visit.session.list := by
  induction moves generalizing visit with
  | nil => exact ⟨rfl, rfl⟩
  | cons first rest ih =>
      rw [List.mem_cons, not_or] at unfilled
      obtain ⟨items, list, -⟩ := visit.move_of_unfilled (Ne.symm unfilled.1)
      obtain ⟨later, laterList⟩ := ih (visit.move first) unfilled.2
      exact ⟨later.trans items, laterList.trans list⟩

/-- Nothing makes a session select a system again once this was done. -/
theorem reselect_move (done : visit.session.reselect = none) (move : Move) :
    (visit.move move).session.reselect = none := by
  by_cases filling : move = .populate
  · subst filling
    cases current : visit.cache.sortedList? with
    | none => simpa [Visit.move, sessionAfter, Session.populate?, current] using done
    | some number => rw [session_populate current, Session.populateFrom_eq]
  · rw [(visit.move_of_unfilled filling).2.2, done]

theorem reselect_afterMoves (done : visit.session.reselect = none) (moves : List Move) :
    (visit.afterMoves moves).session.reselect = none := by
  induction moves generalizing visit with
  | nil => exact done
  | cons first rest ih => exact ih (reselect_move done first)

/-- Filling the menu keeps the selection at most, unless there is a system to select again. -/
theorem selectedName?_populate (done : visit.session.reselect = none) {name : String}
    (selected : (visit.move .populate).session.selectedName? visit.cache = some name) :
    visit.session.selectedName? visit.cache = some name := by
  simp only [Visit.move, sessionAfter, Session.populate?] at selected
  cases current : visit.cache.sortedList? with
  | none => simpa [current] using selected
  | some number =>
      simp only [current, Option.map_some, Option.getD_some] at selected
      simpa [Session.target?, done] using Session.target?_of_selectedName? selected

/-- Whatever happens, lists that were handed out keep their entries. -/
theorem Coherent.keeps_afterMoves (coherent : visit.Coherent source) (moves : List Move) :
    visit.cache.Keeps (visit.afterMoves moves).cache := by
  induction moves generalizing visit with
  | nil => exact .refl _
  | cons first rest ih =>
      exact (coherent.cacheAfter first).2.trans (ih (coherent.move first))

/-- A system that is selected was accepted when the menu was filled last. -/
theorem Coherent.of_selected (coherent : visit.Coherent source) {number : Nat}
    (current : visit.cache.sortedList? = some number) {moves : List Move}
    (unfilled : .populate ∉ moves) {ended : Visit}
    (since : (visit.move .populate).afterMoves moves = ended) {position : Nat}
    (selected : ended.session.selectedItem? = some (.system position)) :
    ∃ entry ∈ visit.cache.entries number,
      visit.session.filter.accepts visit.favorites.isFavorite entry = true ∧
      ∃ later, (ended.session.entries ended.cache)[position]? = some later ∧
        later.record = entry.record := by
  have filled := session_populate current
  obtain ⟨items, list⟩ := (visit.move .populate).afterMoves_of_unfilled unfilled
  have keeps := (coherent.move .populate).keeps_afterMoves moves
  rw [since, filled] at items list
  rw [since] at keeps
  have fill := Session.filled_fill (visit.session.turnedTo number) current coherent.distinct
    (coherent.consistent.ranked_turnedTo number)
  have member : .system position ∈
      ((visit.session.turnedTo number).fill visit.cache visit.favorites number).1 := by
    obtain ⟨chosen, -, there⟩ := Option.bind_eq_some_iff.1 selected
    have among := List.mem_of_getElem? there
    rw [items, Session.populateFrom_eq] at among
    obtain system | configuration := List.mem_append.1 among
    · exact system
    · exact absurd configuration (Session.system_not_mem_configurationItems _ position)
  obtain ⟨entry, here, accepted⟩ := fill.accepted position member
  rw [Session.filter_turnedTo] at accepted
  obtain ⟨later, there, same⟩ := keeps.getElem?_entries here
  refine ⟨entry, List.mem_of_getElem? here, accepted, later, ?_, congrArg Prod.fst same⟩
  rw [Session.entries, list]
  exact there

/-- A session ends with a system selected that its filter accepted when the menu was filled last, by a
search or without one. The session that is opened next with what this one left has the same filter, and
when it is filled from the list of that time, it selects an item for the same system, provided that the
favorites and what the entries are told are the same at both times. Then there is nothing left to
select again: whatever happens later, filling the menu selects at most what was selected right before. -/
theorem Reachable.last_used_restored {records : List SystemRecord} {catalog : Catalog}
    (accepted : Catalog.ofRecords records = .ok catalog)
    (reachable : Reachable catalog.source visit) {number : Nat}
    (current : visit.cache.sortedList? = some number)
    (known : visit.session.filter.Known catalog.source) {moves : List Move}
    (unfilled : .populate ∉ moves) {ended : Visit}
    (since : (visit.move .populate).afterMoves moves = ended)
    (kept : ended.session.filter = visit.session.filter) {position : Nat}
    (selected : ended.session.selectedItem? = some (.system position)) {options : Options}
    (remember : options.session.rememberLast = true) (topLevel : Bool) {reopened : Session}
    (opened : (Session.new { options with
      session := (ended.session.finish ended.cache).applyTo options.session } topLevel).1 = reopened)
    {cache : Cache} (inUse : Cache.InUse catalog.source cache) {next : Nat}
    (listed : cache.sortedList? = some next)
    (told : ∀ a ∈ visit.cache.entries number, ∀ b ∈ cache.entries next,
      a.shortname = b.shortname → a.available = b.available) :
    reopened.filter = visit.session.filter ∧
    ∃ entry again chosen item, (ended.session.entries ended.cache)[position]? = some entry ∧
      reopened.populate? cache visit.favorites = some again ∧ again.selected = some chosen ∧
      again.items[chosen]? = some item ∧
      item.shortname? (again.entries cache) = some entry.shortname ∧
      ∀ (moves : List Move) (later : Visit),
        Visit.afterMoves ⟨cache, visit.favorites, again⟩ moves = later →
          later.session.reselect = none ∧
          ∀ name, (later.move .populate).session.selectedName? later.cache = some name →
            later.session.selectedName? later.cache = some name := by
  have ordered := Catalog.ordered_of_ofRecords accepted
  have coherent := reachable.coherent
  obtain ⟨early, member, accepts, entry, here, record⟩ :=
    coherent.of_selected current unfilled since selected
  -- What the session leaves, and what the next one makes of it.
  have name : ended.session.selectedName? ended.cache = some entry.shortname := by
    simp [Session.selectedName?, selected, MenuItem.shortname?, here]
  have valid : entry.shortname ≠ "" := by
    rw [Entry.shortname, record]
    exact Catalog.name_ne_empty_of_ofRecords accepted
      (coherent.inUse.of_mem_sortedList ordered current member).1
  have filter : reopened.filter = visit.session.filter := by
    simp only [← opened, Session.new_eq, SessionSummary.applyTo, Session.finish, kept,
      Session.restoreFilter_text (known.isTidy ordered)]
  have reselect : reopened.reselect = some entry.shortname := by
    simp [← opened, Session.new_eq, Session.restoreSelection, SessionSummary.applyTo,
      Session.finish, remember, name, valid]
  -- The entry of the system in the list of that time is accepted, too.
  obtain ⟨same, sameMember, sameRecord, sameClone⟩ :=
    coherent.inUse.exists_same inUse ordered current listed member
  have shortname : same.shortname = entry.shortname := by
    rw [Entry.shortname, sameRecord, ← record, Entry.shortname]
  have sameAccepts : reopened.filter.accepts visit.favorites.isFavorite same = true := by
    have available : same.available = early.available :=
      (told early member same sameMember (congrArg SystemRecord.name sameRecord.symm)).symm
    rw [filter, Filter.accepts_congr _ _ sameRecord sameClone available]
    exact accepts
  have search : reopened.search = "" := by
    rw [← opened, Session.new_eq]
  rw [← shortname] at reselect
  obtain ⟨again, chosen, item, populated, once, hchosen, hitem, named⟩ :=
    Session.exists_populate? listed search reselect sameMember sameAccepts
  rw [shortname] at named
  refine ⟨filter, entry, again, chosen, item, here, populated, hchosen, hitem, named, ?_⟩
  rintro moves later rfl
  let filled : Visit := ⟨cache, visit.favorites, again⟩
  have done : (filled.afterMoves moves).session.reselect = none := reselect_afterMoves once moves
  exact ⟨done, fun name => selectedName?_populate done⟩

theorem Reachable.last_used_restored_family :
    ∃ (visit : Visit) (number position chosen : Nat) (entry : Entry) (reopened again : Session)
      (item : MenuItem), Reachable Catalog.family.source visit ∧ visit.session.search = "zeta" ∧
      visit.session.maxVisibleResults = 1 ∧ visit.cache.sortedList? = some number ∧
      (visit.cache.entries number)[position]? = some entry ∧
      reopened.populate? visit.cache visit.favorites = some again ∧ again.selected = some chosen ∧
      again.items[chosen]? = some item ∧
      item.shortname? (again.entries visit.cache) = some entry.shortname := by
  obtain ⟨visit, number, position, -, reachable, current, session, -, -, items⟩ := exists_searching
  have ordered := Catalog.ordered_of_ofRecords Catalog.ofRecords_family
  have inUse := reachable.coherent.inUse
  have told : ∀ a ∈ visit.cache.entries number, ∀ b ∈ visit.cache.entries number,
      a.shortname = b.shortname → a.available = b.available :=
    fun a aMember b bMember same =>
      congrArg Entry.available (inUse.eq_of_shortname ordered current aMember bMember same)
  have ended : ((visit.move .populate).afterMoves [.select 0]).session =
      (visit.move .populate).session.select 0 := rfl
  have kept : ((visit.move .populate).afterMoves [.select 0]).session.filter =
      visit.session.filter := by
    rw [ended, session_populate current]
    exact visit.session.filter_turnedTo number
  have selected : ((visit.move .populate).afterMoves [.select 0]).session.selectedItem? =
      some (.system position) := by
    rw [ended, Session.selectedItem?_select (by rw [items]; rfl)]
  have known : visit.session.filter.Known Catalog.family.source := .plain (by rw [session]; rfl)
  obtain ⟨-, entry, again, chosen, item, here, populated, hchosen, hitem, named, -⟩ :=
    last_used_restored Catalog.ofRecords_family reachable current known (by simp) rfl kept selected
      (rfl : ({} : Options).session.rememberLast = true) true rfl inUse current told
  refine ⟨visit, number, position, chosen, entry, _, again, item, reachable, by rw [session],
    by rw [session], current, ?_, populated, hchosen, hitem, named⟩
  rw [ended, session_populate current] at here
  exact here

end Visit

end SystemMenu
