import SystemMenu.Proofs.Session.Filling
import SystemMenu.Proofs.Staging.UsedLists
import SystemMenu.Session.Visit

/-!
# The lists of a session

A session refers to lists in three ways: by the list that its items stand in, by the list that its ranker
keeps, and by the position of the selected item. Different operations change them at different times,
while the cache goes on to other generations. They fit together after every operation.

## Main statements

* `Session.Consistent`: how the parts of a session fit together.
* `Session.Consistent.populateFrom`, `Session.Consistent.keeps`: filling the menu, and what others do.
* `Visit.Coherent.move`, `Visit.Reachable.coherent`: what is true after every operation.
-/

namespace SystemMenu

namespace Session

/-- A new session has nothing but what the last one left and what the options say. -/
theorem new_eq (options : Options) (topLevel : Bool) :
    (new options topLevel).1 =
      { ranker := { metric := options.search.metric }
        topLevel := topLevel
        maxVisibleResults := options.search.maxVisibleResults
        filter := (restoreFilter options.session.lastUsedFilter).1
        reselect := restoreSelection options.session } := by
  unfold new
  cases restoreFilter options.session.lastUsedFilter
  rfl

/-- A session as it turns to a list: the ranker forgets any other list. -/
def turnedTo (session : Session) (number : Nat) : Session :=
  if session.list = some number then session
  else { session with ranker := session.ranker.invalidate }

/-- The short name that a filled menu tries to select: the one to select again, or else the selected
one. -/
def target? (session : Session) (cache : Cache) : Option String :=
  session.reselect.or (session.selectedName? cache)

theorem populateFrom_eq (session : Session) (cache : Cache) (favorites : Favorites) (number : Nat) :
    session.populateFrom cache favorites number =
      { session.turnedTo number with
        ranker := ((session.turnedTo number).fill cache favorites number).2
        search := if (session.turnedTo number).showsFavorites then ""
          else (session.turnedTo number).search
        reselect := none
        list := some number
        items := ((session.turnedTo number).fill cache favorites number).1 ++
          (session.turnedTo number).configurationItems
        selected := (session.target? cache).bind fun name =>
          (((session.turnedTo number).fill cache favorites number).1 ++
            (session.turnedTo number).configurationItems).findIdx? fun item =>
              item.shortname? (cache.entries number) = some name } := rfl

@[simp] theorem filter_turnedTo (session : Session) (number : Nat) :
    (session.turnedTo number).filter = session.filter := by
  unfold turnedTo
  split <;> rfl

@[simp] theorem search_turnedTo (session : Session) (number : Nat) :
    (session.turnedTo number).search = session.search := by
  unfold turnedTo
  split <;> rfl

@[simp] theorem metric_turnedTo (session : Session) (number : Nat) :
    (session.turnedTo number).ranker.metric = session.ranker.metric := by
  unfold turnedTo
  split <;> rfl

@[simp] theorem maxVisibleResults_turnedTo (session : Session) (number : Nat) :
    (session.turnedTo number).maxVisibleResults = session.maxVisibleResults := by
  unfold turnedTo
  split <;> rfl

@[simp] theorem topLevel_turnedTo (session : Session) (number : Nat) :
    (session.turnedTo number).topLevel = session.topLevel := by
  unfold turnedTo
  split <;> rfl

@[simp] theorem configurationItems_turnedTo (session : Session) (number : Nat) :
    (session.turnedTo number).configurationItems = session.configurationItems := by
  simp [configurationItems]

/-- A menu ends with the configuration, after what it was filled with. -/
theorem items_populateFrom (session : Session) (favorites : Favorites) (cache : Cache) (number : Nat) :
    (session.populateFrom cache favorites number).items =
      ((session.turnedTo number).fill cache favorites number).1 ++
        if session.topLevel then [.configuration .options, .configuration .machine] else [] := by
  rw [populateFrom_eq]
  simp [configurationItems, Configuration.all]

/-- If the ranker keeps the list of the session or none, it keeps the list that the session turns to or
none. -/
theorem snapshot_turnedTo {session : Session}
    (ranked : session.ranker.snapshot = none ∨ session.ranker.snapshot = session.list)
    (number : Nat) :
    (session.turnedTo number).ranker.snapshot = none ∨
      (session.turnedTo number).ranker.snapshot = some number := by
  unfold turnedTo
  split
  · rename_i same
    rw [← same]
    exact ranked
  · exact .inl rfl

/-- There are no systems among the configuration. -/
theorem system_not_mem_configurationItems (session : Session) (position : Nat) :
    .system position ∉ session.configurationItems := by
  rw [configurationItems]
  split <;> simp

/-- The parts of a session fit together and fit the cache. -/
structure Consistent (session : Session) (cache : Cache) : Prop where
  selected_lt : ∀ position, session.selected = some position → position < session.items.length
  resolves : ∀ position, .system position ∈ session.items →
    ∃ entry, (session.entries cache)[position]? = some entry
  distinct : (session.items.filterMap MenuItem.position?).Nodup
  closing : ∀ number, session.list = some number →
    ∃ systems, session.items = systems ++ session.configurationItems ∧
      ∀ target, .configuration target ∉ systems
  unfilled : session.list = none → session.items = []
  ranked : session.ranker.snapshot = none ∨ session.ranker.snapshot = session.list
  stored : ∀ number, session.list = some number → (cache.generation number).sorted.isSome

namespace Consistent

variable {session : Session} {cache : Cache}

theorem new (options : Options) (topLevel : Bool) (cache : Cache) :
    (Session.new options topLevel).1.Consistent cache := by
  rw [Session.new_eq]
  exact ⟨by simp, by simp, by simp, by simp, fun _ => rfl, .inl rfl, by simp⟩

/-- The filter and the search text have no part in it. -/
theorem retuned (consistent : session.Consistent cache) (filter : Filter) (search : String) :
    ({ session with filter := filter, search := search } : Session).Consistent cache :=
  ⟨consistent.selected_lt, consistent.resolves, consistent.distinct, consistent.closing,
    consistent.unfilled, consistent.ranked, consistent.stored⟩

theorem select (consistent : session.Consistent cache) (position : Nat) :
    (session.select position).Consistent cache :=
  { consistent with selected_lt := fun _ h => select_lt h }

/-- What happens to the cache leaves the list of a session there. -/
theorem keeps {after : Cache} (consistent : session.Consistent cache) (keeps : cache.Keeps after) :
    session.Consistent after := by
  refine { consistent with resolves := ?_, stored := ?_ }
  · intro position member
    obtain ⟨entry, here⟩ := consistent.resolves position member
    cases hlist : session.list with
    | none => simp [entries, hlist] at here
    | some number =>
        simp only [entries, hlist, Option.map_some, Option.getD_some] at here ⊢
        obtain ⟨later, there, -⟩ := keeps.getElem?_entries here
        exact ⟨later, there⟩
  · intro number hlist
    obtain ⟨list, stored⟩ := Option.isSome_iff_exists.1 (consistent.stored number hlist)
    obtain ⟨later, hlater, -⟩ := keeps.lists number list stored
    exact Option.isSome_iff_exists.2 ⟨later, hlater⟩

/-- When a session turns to a list, its ranker keeps that list or none. -/
theorem ranked_turnedTo (consistent : session.Consistent cache) (number : Nat) :
    (session.turnedTo number).ranker.snapshot = none ∨
      (session.turnedTo number).ranker.snapshot = some number :=
  snapshot_turnedTo consistent.ranked number

/-- Filling the menu from the current list renews everything at once. -/
theorem populateFrom (consistent : session.Consistent cache) {favorites : Favorites} {number : Nat}
    (current : cache.sortedList? = some number) (distinct : favorites.Distinct)
    (stored : (cache.generation number).sorted.isSome) :
    (session.populateFrom cache favorites number).Consistent cache := by
  have filled := filled_fill (session.turnedTo number) current distinct
    (consistent.ranked_turnedTo number)
  rw [populateFrom_eq]
  refine ⟨?_, ?_, ?_, ?_, by simp, filled.ranked, ?_⟩
  · intro position selected
    obtain ⟨name, -, found⟩ := Option.bind_eq_some_iff.1 selected
    exact (List.findIdx?_eq_some_iff_getElem.1 found).1
  · intro position member
    obtain system | configuration := List.mem_append.1 member
    · obtain ⟨entry, here, -⟩ := filled.accepted position system
      exact ⟨entry, here⟩
    · exact absurd configuration (system_not_mem_configurationItems _ position)
  · have none : (session.turnedTo number).configurationItems.filterMap MenuItem.position? = [] := by
      rw [configurationItems]
      split <;> rfl
    simp only [List.filterMap_append, none, List.append_nil]
    exact filled.distinct
  · intro _ _
    exact ⟨_, rfl, filled.plain⟩
  · intro other same
    cases same
    exact stored

end Consistent

end Session

namespace Visit

@[simp] theorem session_opened (options : Options) (topLevel : Bool) (cache : Cache)
    (favorites : Favorites) :
    (opened options topLevel cache favorites).session = (Session.new options topLevel).1 := by
  simp only [opened]

/-- Opening a session leaves the current list there. -/
theorem sortedList?_opened (options : Options) (topLevel : Bool) (cache : Cache)
    (favorites : Favorites) :
    (opened options topLevel cache favorites).cache.sortedList? = cache.sortedList? := by
  change (cache.beginBuild _ _).1.sortedList? = _
  unfold Cache.beginBuild
  split <;> rfl

variable {source : Source} {visit : Visit}

/-- While there is a list, the menu is filled from it. -/
theorem session_populate {number : Nat} (current : visit.cache.sortedList? = some number) :
    (visit.move .populate).session =
      visit.session.populateFrom visit.cache visit.favorites number := by
  simp [move, sessionAfter, Session.populate?, current]

/-- A visit whose parts fit together. -/
structure Coherent (source : Source) (visit : Visit) : Prop where
  inUse : Cache.InUse source visit.cache
  distinct : visit.favorites.Distinct
  consistent : visit.session.Consistent visit.cache

namespace Coherent

theorem cacheAfter (coherent : visit.Coherent source) (move : Move) :
    Cache.InUse source (visit.cacheAfter move) ∧ visit.cache.Keeps (visit.cacheAfter move) := by
  cases move with
  | use use => exact ⟨.use use coherent.inUse, coherent.inUse.sound.keeps_use use⟩
  | populate | select | setFilter | push | pop | setSearch | clearSearch | addFavorite
  | removeFavorite => exact ⟨coherent.inUse, .refl _⟩

theorem favoritesAfter (coherent : visit.Coherent source) (move : Move) :
    (visit.favoritesAfter move).Distinct := by
  cases move with
  | addFavorite favorite => exact coherent.distinct.add favorite
  | removeFavorite shortname software => exact coherent.distinct.remove shortname software
  | populate | select | setFilter | push | pop | setSearch | clearSearch | use =>
      exact coherent.distinct

/-- Whatever happens to a session, its parts fit together, seen with the cache as it was. -/
theorem sessionAfter (coherent : visit.Coherent source) (move : Move) :
    (visit.sessionAfter move).Consistent visit.cache := by
  have consistent := coherent.consistent
  cases move with
  | populate =>
      simp only [Visit.sessionAfter, Session.populate?]
      cases current : visit.cache.sortedList? with
      | none => exact consistent
      | some number =>
          exact consistent.populateFrom current coherent.distinct
            (coherent.inUse.sound.isSome_sorted current)
  | select position => exact consistent.select position
  | setFilter filter => exact consistent.retuned filter visit.session.search
  | push c =>
      simp only [Visit.sessionAfter, Session.push]
      split
      · exact consistent.retuned visit.session.filter _
      · exact consistent
  | pop =>
      simp only [Visit.sessionAfter, Session.pop?]
      split
      · exact consistent
      · exact consistent.retuned visit.session.filter _
  | setSearch text =>
      simp only [Visit.sessionAfter, Session.setSearch]
      split
      · exact consistent
      · exact consistent.retuned visit.session.filter text
  | clearSearch => exact consistent.retuned visit.session.filter ""
  | addFavorite | removeFavorite | use => exact consistent

/-- No move breaks the invariant. -/
theorem move (coherent : visit.Coherent source) (move : Move) :
    (visit.move move).Coherent source where
  inUse := (coherent.cacheAfter move).1
  distinct := coherent.favoritesAfter move
  consistent := (coherent.sessionAfter move).keeps (coherent.cacheAfter move).2

end Coherent

namespace Reachable

/-- What becomes of a visit fits together. -/
theorem coherent (reachable : Reachable source visit) : visit.Coherent source := by
  induction reachable with
  | opened inUse options topLevel favorites =>
      refine ⟨.use (.move (.beginBuild _ _)) inUse, Favorites.distinct_ofList favorites, ?_⟩
      rw [session_opened]
      exact .new options topLevel _
  | move move _ ih => exact ih.move move

/-- After every operation the selected item exists, every system that is listed stands in the list of the
session, at a position of its own, and the menu ends with the configuration if it has one. What the
ranker keeps is the list of the session, so that whenever the menu is filled, the positions that come
from the ranker are positions of the list that it is filled from. -/
theorem snapshots_agree (reachable : Reachable source visit) :
    (∀ position, visit.session.selected = some position → position < visit.session.items.length) ∧
    (∀ position, .system position ∈ visit.session.items →
      ∃ entry, (visit.session.entries visit.cache)[position]? = some entry) ∧
    (visit.session.items.filterMap MenuItem.position?).Nodup ∧
    (visit.session.list = none → visit.session.items = []) ∧
    (∀ number, visit.session.list = some number →
      ∃ systems, (∀ target, .configuration target ∉ systems) ∧
        visit.session.items = systems ++
          if visit.session.topLevel then [.configuration .options, .configuration .machine] else []) ∧
    (visit.session.ranker.snapshot = none ∨
      visit.session.ranker.snapshot = visit.session.list) ∧
    ∀ number, visit.cache.sortedList? = some number →
      (visit.move .populate).session.list = some number ∧
      ∀ query next ranking,
        (visit.session.turnedTo number).ranker.rank? visit.cache query = some (next, ranking) →
          ranking.generation = number := by
  have consistent := reachable.coherent.consistent
  refine ⟨consistent.selected_lt, consistent.resolves, consistent.distinct, consistent.unfilled, ?_,
    consistent.ranked, ?_⟩
  · intro number filled
    obtain ⟨systems, items, plain⟩ := consistent.closing number filled
    exact ⟨systems, plain, items⟩
  · intro number current
    constructor
    · rw [session_populate current, Session.populateFrom_eq]
    · intro query next ranking ranked
      rw [Ranker.rank?_eq current (consistent.ranked_turnedTo number)] at ranked
      cases ranked
      rfl

end Reachable

/-- A visit when a search is about to show one result. -/
def searching : Visit :=
  (opened { search := { maxVisibleResults := 1 } } true Cache.retitledFamily (.ofList [])).move
    (.setSearch "zeta")

theorem reachable_searching : Reachable Catalog.family.source searching :=
  .move _ (.opened Cache.reachable_retitledFamily.inUse _ true [])

theorem session_searching : searching.session =
    { ranker := { metric := .standard }, topLevel := true, maxVisibleResults := 1, search := "zeta" } := by
  rw [searching, move, sessionAfter, session_opened, Session.new_eq]
  rfl

/-- The list that was built is not touched. -/
theorem cache_searching : searching.cache = Cache.retitledFamily := by
  change (Cache.retitledFamily.beginBuild _ _).1 = _
  rw [Cache.beginBuild, if_pos Cache.started_retitledFamily]

theorem sortedList?_searching : searching.cache.sortedList? = some searching.cache.current := by
  rw [cache_searching]
  exact Cache.sortedList?_of_complete Cache.offers_retitledFamily

/-- A search that finds one system when the menu is filled: the one whose record has the title that is
searched for. -/
theorem exists_searching :
    ∃ (visit : Visit) (number position : Nat) (entry : Entry),
      Reachable Catalog.family.source visit ∧ visit.cache.sortedList? = some number ∧
      visit.session =
        { ranker := { metric := .standard }, topLevel := true, maxVisibleResults := 1,
          search := "zeta" } ∧
      (visit.cache.entries number)[position]? = some entry ∧ entry.shortname = "pac" ∧
      (visit.move .populate).session.items =
        [.system position, .configuration .options, .configuration .machine] := by
  obtain ⟨titled, -, -, only⟩ := Cache.entries_retitledFamily
  obtain ⟨entry, here, facts⟩ := (Option.any_eq_true ..).1 titled
  obtain ⟨shortname, -, -⟩ := of_decide_eq_true facts
  have key := (only entry (List.mem_of_getElem? here)).2 shortname
  rw [← cache_searching] at here key only
  let turned := searching.session.turnedTo searching.cache.current
  have search : turned.search = "zeta" := by simp [turned, session_searching]
  have filter : turned.filter = .all := by simp [turned, session_searching]
  have shows : turned.maxVisibleResults = 1 := by simp [turned, session_searching]
  obtain ⟨first, rest, found, fill, there, exactly⟩ :=
    Session.exists_fill_search searching.favorites sortedList?_searching
      (reachable_searching.coherent.consistent.ranked_turnedTo _)
      (by rw [Session.showsFavorites, filter]; rfl) (by rw [search]; decide) here
      (by rw [filter]; rfl) (by rwa [search])
  rw [search] at exactly
  refine ⟨searching, _, first, found, reachable_searching, sortedList?_searching, session_searching,
    there, (only found (List.mem_of_getElem? there)).1 exactly, ?_⟩
  rw [session_populate sortedList?_searching, Session.items_populateFrom, fill, shows]
  simp [session_searching]

/-- The search lists the system that it finds, which stands in the list of the session. -/
theorem Reachable.snapshots_agree_family :
    ∃ visit number position entry, Reachable Catalog.family.source visit ∧
      visit.session.search = "zeta" ∧ visit.session.list = some number ∧
      visit.session.items = [.system position, .configuration .options, .configuration .machine] ∧
      (visit.session.entries visit.cache)[position]? = some entry ∧ entry.shortname = "pac" ∧
      (∀ position, .system position ∈ visit.session.items →
        ∃ entry, (visit.session.entries visit.cache)[position]? = some entry) ∧
      (visit.session.ranker.snapshot = none ∨ visit.session.ranker.snapshot = some number) := by
  obtain ⟨asked, number, position, entry, reachable, current, session, here, shortname, items⟩ :=
    exists_searching
  obtain ⟨-, -, -, -, -, -, next⟩ := Reachable.snapshots_agree reachable
  have list := (next number current).1
  have filled := Reachable.move .populate reachable
  obtain ⟨-, resolves, -, -, -, ranked, -⟩ := Reachable.snapshots_agree filled
  have after := session_populate current
  have search : (asked.move .populate).session.search = "zeta" := by
    rw [after, Session.populateFrom_eq]
    simp [session, Session.showsFavorites]
  rw [list] at ranked
  refine ⟨_, number, position, entry, filled, search, list, items, ?_, shortname, resolves, ranked⟩
  rw [Session.entries, list]
  exact here

end Visit

end SystemMenu
