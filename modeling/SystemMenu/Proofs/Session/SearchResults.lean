import SystemMenu.Proofs.Ranking.RankOrder
import SystemMenu.Proofs.Session.Snapshots

/-!
# What a search shows

A search ranks the whole list, passes over what the filter does not accept, and shows the first systems
that are left. So the number of results is spent on accepted systems only, and a system that is not shown
comes after all that are. A search text, a filter or a list of before plays no part, since the ranker never
keeps another list than the session.

## Main statements

* `Session.Used`, `Visit.Reachable.used`: what can become of a session.
* `Session.Used.ranked`: the ranker keeps the list of the session or none.
* `Session.Used.populate_lists`: what a menu of systems lists.
-/

namespace SystemMenu

/-- A list of three systems whose titles can be searched; two have the same title, and the third does not
work. -/
def Cache.threeSystems : Cache where
  source := Catalog.family.source
  generations := [{
    published := [.biosCount, .sortedList, .keys .description]
    sorted := some [
      { record := { name := "duel", description := "Duel" }, index := 1,
        keys := fun field => if field = .description then some "duel" else none },
      { record := { name := "duelb", description := "Duel" }, index := 2,
        keys := fun field => if field = .description then some "duel" else none },
      { record := { name := "pong", description := "Pong", traits := { notWorking := true } },
        index := 3, keys := fun field => if field = .description then some "pong" else none }] }]
  started := true

namespace Session

/-- What can become of a new session, with whatever list and favorites each operation finds. -/
inductive Used : Session → Prop
  | new (options : Options) (topLevel : Bool) : Used (Session.new options topLevel).1
  | move {session : Session} (cache : Cache) (favorites : Favorites) (move : Visit.Move)
      (used : Used session) : Used (Visit.sessionAfter ⟨cache, favorites, session⟩ move)

/-- The ranker keeps the list of the session, if it keeps any. -/
theorem Used.ranked {session : Session} (used : session.Used) :
    session.ranker.snapshot = none ∨ session.ranker.snapshot = session.list := by
  induction used with
  | new options topLevel =>
      rw [new_eq]
      exact .inl rfl
  | @move session cache favorites move _ ranked =>
      cases move with
      | populate =>
          simp only [Visit.sessionAfter, populate?]
          cases current : cache.sortedList? with
          | none => exact ranked
          | some number => exact ranked_fill favorites current (snapshot_turnedTo ranked number)
      | push c =>
          simp only [Visit.sessionAfter, push]
          split <;> exact ranked
      | pop =>
          simp only [Visit.sessionAfter, pop?]
          split <;> exact ranked
      | setSearch text =>
          simp only [Visit.sessionAfter, setSearch]
          split <;> exact ranked
      | select | setFilter | clearSearch | addFavorite | removeFavorite | use => exact ranked

/-- Whatever happens to a visit, its session is one that is used. -/
theorem Used.afterMoves {visit : Visit} (used : visit.session.Used) (moves : List Visit.Move) :
    (visit.afterMoves moves).session.Used := by
  induction moves generalizing visit with
  | nil => exact used
  | cons first rest ih =>
      have next : (visit.move first).session.Used := .move _ _ first used
      exact ih next

variable (session : Session) (favorites : Favorites)

/-- A candidate for a search: the filter accepts the system at its position, and it has the score of this
system. -/
def Passes (cache : Cache) (number : Nat) (candidate : Ranking.Candidate) : Prop :=
  ∃ entry, (cache.entries number)[candidate.position]? = some entry ∧
    candidate.score = Ranking.scoreEntry session.ranker.metric (Text.searchKey session.search)
      cache.published entry ∧
    session.filter.accepts favorites.isFavorite entry = true

theorem mem_filter_rankEntries_iff {cache : Cache} {number : Nat} {candidate : Ranking.Candidate} :
    (candidate ∈ (Ranking.rankEntries session.ranker.metric session.search cache.published
        (cache.entries number)).filter fun candidate =>
          ((cache.entries number)[candidate.position]?).any
            (session.filter.accepts favorites.isFavorite)) ↔
      session.Passes favorites cache number candidate := by
  rw [List.mem_filter, Ranking.mem_rankEntries_iff, Option.any_eq_true]
  constructor
  · rintro ⟨⟨entry, here, score⟩, other, same, accepted⟩
    obtain rfl : other = entry := Option.some.inj (same.symm.trans here)
    exact ⟨other, here, score, accepted⟩
  · rintro ⟨entry, here, score, accepted⟩
    exact ⟨⟨entry, here, score⟩, entry, here, accepted⟩

/-- A menu of systems that is filled from the current list. Without a search text it lists all accepted
systems in the order of the list. With one it lists as many of them as it may show: those that come first
by their scores and, where these are equal, by their positions. Every accepted system that is left out
comes after all that are listed. This is the same as ranking only the systems that are accepted and taking
the first of these. -/
theorem Used.populate_lists {session : Session} (used : session.Used) {cache : Cache} {number : Nat}
    (current : cache.sortedList? = some number) (favorites : Favorites)
    (systems : session.filter ≠ .favorites) :
    ∃ next, session.populate? cache favorites = some next ∧
      (session.search = "" → ∃ shown : List Nat,
        next.items = shown.map .system ++
          (if session.topLevel then [.configuration .options, .configuration .machine] else []) ∧
        shown.Pairwise (· < ·) ∧
        ∀ position, position ∈ shown ↔ ∃ entry, (cache.entries number)[position]? = some entry ∧
          session.filter.accepts favorites.isFavorite entry = true) ∧
      (session.search ≠ "" → ∃ shown : List Ranking.Candidate,
        next.items = shown.map (fun candidate => .system candidate.position) ++
          (if session.topLevel then [.configuration .options, .configuration .machine] else []) ∧
        shown.Pairwise Ranking.Candidate.Before ∧
        shown.length = min session.maxVisibleResults
          ((cache.entries number).countP (session.filter.accepts favorites.isFavorite)) ∧
        (∀ candidate ∈ shown, session.Passes favorites cache number candidate) ∧
        (∀ hidden, session.Passes favorites cache number hidden → hidden ∉ shown →
          ∀ candidate ∈ shown, candidate.Before hidden) ∧
        shown = ((Ranking.rankEntries session.ranker.metric session.search cache.published
            ((cache.entries number).filter (session.filter.accepts favorites.isFavorite))).map
          (Ranking.Candidate.movedTo (Ranking.acceptedAt (cache.entries number)
            (session.filter.accepts favorites.isFavorite)))).take session.maxVisibleResults) := by
  have turned := snapshot_turnedTo used.ranked number
  have plain : (session.turnedTo number).showsFavorites = false := by simp [showsFavorites, systems]
  refine ⟨session.populateFrom cache favorites number, by rw [populate?, current]; rfl,
    fun search => ?_, fun search => ?_⟩
  · refine ⟨Ranking.acceptedAt (cache.entries number)
      (session.filter.accepts favorites.isFavorite), ?_, Ranking.pairwise_lt_acceptedAt ..,
      fun position => Ranking.mem_acceptedAt_iff ..⟩
    rw [items_populateFrom, fill_all cache favorites number plain (by rw [search_turnedTo, search]),
      listedItems, filter_turnedTo]
    rfl
  · -- The results are the beginning of what is left of the ranking.
    have ordered := (Ranking.pairwise_before_rankEntries session.ranker.metric session.search
      cache.published (cache.entries number)).filter fun candidate =>
        ((cache.entries number)[candidate.position]?).any
          (session.filter.accepts favorites.isFavorite)
    have filtered := Ranking.rankEntries_filter session.ranker.metric session.search cache.published
      (cache.entries number) (session.filter.accepts favorites.isFavorite)
    refine ⟨_, ?_, ordered.sublist (List.take_sublist session.maxVisibleResults _), ?_, ?_, ?_, ?_⟩
    · rw [items_populateFrom, fill_search favorites current turned plain (by rwa [search_turnedTo]),
        rankedItems_eq, search_turnedTo, metric_turnedTo, filter_turnedTo,
        maxVisibleResults_turnedTo]
    · rw [List.length_take, ← filtered, List.length_map, Ranking.length_rankEntries,
        List.countP_eq_length_filter]
    · intro candidate shown
      exact (mem_filter_rankEntries_iff session favorites).1 (List.mem_of_mem_take shown)
    · intro hidden passes left candidate shown
      exact Ranking.before_of_notMem_take ordered shown
        ((mem_filter_rankEntries_iff session favorites).2 passes) left
    · rw [filtered]

/-- A search for the system that does not work, among those that do, after another search. -/
def searchingTwice : Session :=
  (Visit.afterMoves ⟨Cache.threeSystems, {},
      (Session.new { search := { metric := .levenshtein, maxVisibleResults := 1 } } true).1⟩
    [.setSearch "duel", .populate, .setFilter .working, .setSearch "pong"]).session

/-- The only result is the first of the two systems that work, which have the same score. -/
theorem Used.populate_lists_working :
    searchingTwice.Used ∧ searchingTwice.search = "pong" ∧ searchingTwice.filter = .working ∧
    (Cache.threeSystems.entries 0).map Entry.shortname = ["duel", "duelb", "pong"] ∧
    ∃ next, searchingTwice.populate? Cache.threeSystems {} = some next ∧
      next.items = [.system 0, .configuration .options, .configuration .machine] := by
  have used : searchingTwice.Used := Used.afterMoves (.new _ true) _
  have current : Cache.threeSystems.sortedList? = some 0 := by decide
  obtain ⟨next, populated, -, results⟩ := populate_lists used current {} (by decide +kernel)
  obtain ⟨shown, items, -, count, passes, least, -⟩ := results (by decide +kernel)
  have one : shown.length = 1 := by
    rw [count]
    decide +kernel
  obtain ⟨⟨score, position⟩, rfl⟩ := List.length_eq_one_iff.1 one
  obtain ⟨entry, here, scored, accepted⟩ := passes _ List.mem_cons_self
  have first : position = 0 := by
    match position with
    | 0 => rfl
    | 1 =>
        -- The system before it has the same score, so it would have come first.
        cases here
        have tied := scored.trans (congrArg (Ranking.leastDistance _ _ 1)
          (by decide : Ranking.searchKeys Cache.threeSystems.published _ = ["duel"]))
        obtain less | ⟨-, earlier⟩ := least ⟨score, 0⟩ ⟨_, rfl, tied, by decide +kernel⟩ (by simp) _
          List.mem_cons_self
        · exact absurd less Rat.lt_irrefl
        · cases earlier
    | 2 =>
        cases here
        exact absurd accepted (by decide +kernel)
    | _ + 3 => cases here
  refine ⟨used, by decide +kernel, by decide +kernel, rfl, next, populated, ?_⟩
  rw [items, List.map_singleton, first]
  rfl

end Session

/-- The session of a visit is one that is used. -/
theorem Visit.Reachable.used {source : Source} {visit : Visit} (reachable : Reachable source visit) :
    visit.session.Used := by
  induction reachable with
  | opened inUse options topLevel favorites =>
      rw [session_opened]
      exact .new options topLevel
  | move move _ ih => exact .move _ _ move ih

end SystemMenu
