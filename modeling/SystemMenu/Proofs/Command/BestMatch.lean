import SystemMenu.Command.Run
import SystemMenu.Proofs.Command.Columns
import SystemMenu.Proofs.Options.Loading
import SystemMenu.Proofs.Ranking.EmptyQuery
import SystemMenu.Proofs.Session.Refilling

/-!
# The best match

The command that selects a system fills a menu with the results of a search and takes the first item, while
the command that searches ranks the list itself. Both come to the same: the first item of the menu is the
first system of the ranking that the filter of the last session accepts, since the menu shows at least one
result. An empty query makes no difference, although it is no search for the menu, because it ranks the list
in its own order. A menu without a system begins with the configuration, and then nothing is saved.

## Main statements

* `Context.listed_builtCache`: the list that a command builds.
* `Context.head?_items_answered`: how the menu begins.
* `bestMatch?_eq`: the best match is the first accepted system of the ranking.
* `forall₂_showsResult`: what a search prints.
* `run_select`: what the whole command does.
-/

namespace SystemMenu

/-- A catalog that was loaded was made from its records. -/
theorem Catalog.exists_ofRecords_of_load {tree : FileTree} {path : String} {catalog : Catalog}
    (loaded : load tree path = .ok catalog) : ∃ records, ofRecords records = .ok catalog := by
  unfold load at loaded
  split at loaded
  · cases loaded
  · unfold parse at loaded
    split at loaded
    · cases loaded
    · exact ⟨_, loaded⟩

namespace Session

variable {session : Session} {cache : Cache} {number : Nat}

/-- A menu of systems begins with the first accepted one of the ranking, if it shows any. -/
theorem head?_fill (favorites : Favorites) (current : cache.sortedList? = some number)
    (ranked : session.ranker.snapshot = none ∨ session.ranker.snapshot = some number)
    (systems : session.showsFavorites = false) (shows : 1 ≤ session.maxVisibleResults) :
    (session.fill cache favorites number).1.head? =
      (acceptedPositions session.filter favorites (cache.entries number)
        ((Ranking.rankEntries session.ranker.metric session.search cache.published
          (cache.entries number)).map Ranking.Candidate.position)).head?.map .system := by
  by_cases search : session.search = ""
  · rw [fill_all cache favorites number systems search, listedItems, search,
      Ranking.position_rankEntries_empty, List.head?_map]
  · rw [fill_search favorites current ranked systems search, rankedItems, List.head?_map,
      List.head?_take, if_neg (by omega)]

end Session

namespace Command

namespace Context

variable (context : Context)

theorem reachable_begun :
    Cache.Reachable context.catalog.source ((Cache.new context.catalog.source).beginBuild
      context.options.paths.historyPath context.options.paths.systemNames).1 :=
  .move (.beginBuild _ _) .new

theorem reachable_builtCache : Cache.Reachable context.catalog.source context.builtCache :=
  context.reachable_begun.proceed context.tree

/-- The build publishes everything. -/
theorem offers_builtCache : context.builtCache.offers Stage.all = true :=
  context.reachable_begun.faithful.offers_all rfl context.tree

theorem sortedList?_builtCache :
    context.builtCache.sortedList? = some context.builtCache.current :=
  Cache.sortedList?_of_complete context.offers_builtCache

/-- The list that was built holds the systems of the catalog, and nothing was told about their media. -/
theorem listed_builtCache (ordered : context.catalog.Ordered) :
    ((listed context.builtCache).map Entry.record).Perm context.catalog.listed ∧
      ∀ entry ∈ listed context.builtCache, entry.available = false := by
  have faithful := context.reachable_builtCache.faithful
  refine ⟨(context.reachable_builtCache.inUse.lists ordered
    context.sortedList?_builtCache).map_record_perm, fun entry member => ?_⟩
  obtain ⟨titles, made⟩ := faithful.made context.builtCache.current
  have complete := made.eq_complete ordered (faithful.sound.inOrder_generation _)
    context.offers_builtCache
  rw [listed, Cache.entries, complete] at member
  obtain ⟨bare, bareMember, rfl⟩ := List.mem_map.1 member
  exact (context.catalog.fresh_workingList ordered titles bare
    ((sortEntries_perm _).mem_iff.1 bareMember)).available

/-- The filter that a new session starts with. -/
def restoredFilter : Filter := (Session.restoreFilter context.options.session.lastUsedFilter).1

/-- Whether a new session lists an entry, without favorites. -/
def passes (entry : Entry) : Bool := context.restoredFilter.accepts (fun _ => false) entry

/-- The systems in the order in which they match a query. -/
def rankedEntries (query : String) : List Entry := (rankedSystems context query).map (·.2)

end Context

open Context (listed)

variable (context : Context) (query : String)

theorem rankedSystems_eq :
    rankedSystems context query = (Ranking.rankEntries context.options.search.metric query
      context.builtCache.published (listed context.builtCache)).filterMap fun candidate =>
        ((listed context.builtCache)[candidate.position]?).map fun entry =>
          (candidate.score, entry) := by
  have ranked : ({ metric := context.options.search.metric } : Ranker).rank? context.builtCache query =
      _ := Ranker.rank?_eq context.sortedList?_builtCache (.inl rfl) query
  rw [rankedSystems, ranked]
  rfl

/-- The ranked systems are those at the positions of the ranking. -/
theorem rankedEntries_eq :
    context.rankedEntries query = ((Ranking.rankEntries context.options.search.metric query
      context.builtCache.published (listed context.builtCache)).map
        Ranking.Candidate.position).filterMap ((listed context.builtCache)[·]?) := by
  rw [Context.rankedEntries, rankedSystems_eq, List.map_filterMap, List.filterMap_map]
  refine List.filterMap_congr fun candidate _ => ?_
  rw [Option.map_map]
  exact Option.map_id_apply

/-- All systems are ranked. -/
theorem rankedEntries_perm : (context.rankedEntries query).Perm (listed context.builtCache) := by
  have positions := (Ranking.position_rankEntries_perm context.options.search.metric query
    context.builtCache.published (listed context.builtCache)).filterMap
      ((listed context.builtCache)[·]?)
  rwa [Ranking.filterMap_getElem?_range, ← rankedEntries_eq] at positions

theorem score_of_mem_rankedSystems {result : Rat × Entry}
    (member : result ∈ rankedSystems context query) :
    result.1 = Ranking.scoreEntry context.options.search.metric (Text.searchKey query)
      context.builtCache.published result.2 := by
  rw [rankedSystems_eq] at member
  obtain ⟨candidate, among, found⟩ := List.mem_filterMap.1 member
  obtain ⟨entry, here, rfl⟩ := Option.map_eq_some_iff.1 found
  obtain ⟨same, there, score⟩ := (Ranking.mem_rankEntries_iff ..).1 among
  obtain rfl := Option.some.inj (here.symm.trans there)
  exact score

/-- Lower scores come first. -/
theorem pairwise_rankedSystems :
    (rankedSystems context query).Pairwise fun a b => a.1 ≤ b.1 := by
  rw [rankedSystems_eq, List.pairwise_filterMap]
  refine (Ranking.pairwise_rankEntries ..).imp fun least first found second there => ?_
  obtain ⟨_, -, rfl⟩ := Option.map_eq_some_iff.1 found
  obtain ⟨_, -, rfl⟩ := Option.map_eq_some_iff.1 there
  exact least

namespace Context

/-- A new session that searches. -/
def asking : Session := (context.newSession true).setSearch query

/-- The same when its menu has been filled. -/
def answered : Session :=
  (context.asking query).populateFrom context.builtCache {} context.builtCache.current

theorem newSession_eq :
    context.newSession true =
      { ranker := { metric := context.options.search.metric }
        topLevel := true
        maxVisibleResults := context.options.search.maxVisibleResults
        filter := context.restoredFilter
        reselect := Session.restoreSelection context.options.session } :=
  Session.new_eq context.options true

/-- Only the search text depends on whether favorites are shown. -/
theorem asking_eq :
    context.asking query =
      { context.newSession true with
        search := if context.restoredFilter = .favorites then "" else query } := by
  have shows : (context.newSession true).showsFavorites = decide (context.restoredFilter = .favorites) := by
    rw [newSession_eq, Session.showsFavorites]
  rw [asking, Session.setSearch, shows]
  by_cases favorites : context.restoredFilter = .favorites
  · simp [favorites, newSession_eq]
  · simp [favorites]

/-- The positions that the session accepts, in the order of the ranking. -/
def acceptedRanking : List Nat :=
  Session.acceptedPositions context.restoredFilter {} (listed context.builtCache)
    ((Ranking.rankEntries context.options.search.metric query context.builtCache.published
      (listed context.builtCache)).map Ranking.Candidate.position)

/-- Without favorites the filter of favorites accepts nothing. -/
theorem passes_favorites (favorites : context.restoredFilter = .favorites) (entry : Entry) :
    context.passes entry = false := by
  rw [passes, favorites]
  rfl

/-- The menu begins with the first accepted system of the ranking, if there is any. -/
theorem head?_items_answered (shows : 1 ≤ context.options.search.maxVisibleResults) :
    (context.answered query).items.head? =
      ((context.acceptedRanking query).head?.map MenuItem.system).or
        (some (.configuration .options)) := by
  have filter : (context.asking query).filter = context.restoredFilter := by
    rw [asking_eq, newSession_eq]
  have head : (((context.asking query).turnedTo context.builtCache.current).fill context.builtCache {}
      context.builtCache.current).1.head? = (context.acceptedRanking query).head?.map .system := by
    by_cases favorites : context.restoredFilter = .favorites
    · have nothing : context.acceptedRanking query = [] := by
        rw [acceptedRanking, Session.acceptedPositions, List.filter_eq_nil_iff]
        rintro position -
        rw [Option.any_eq_true]
        rintro ⟨entry, -, accepted⟩
        have refused := context.passes_favorites favorites entry
        exact absurd (accepted.symm.trans refused) (by decide)
      have shown : ((context.asking query).turnedTo context.builtCache.current).showsFavorites = true := by
        simp [Session.showsFavorites, filter, favorites]
      rw [Session.fill_favorites _ _ _ shown, nothing]
      simp [Favorites.sorted]
    · have systems :
          ((context.asking query).turnedTo context.builtCache.current).showsFavorites = false := by
        simp [Session.showsFavorites, filter, favorites]
      have kept : (context.asking query).ranker.snapshot = none := by rw [asking_eq, newSession_eq]
      have visible : 1 ≤ ((context.asking query).turnedTo
          context.builtCache.current).maxVisibleResults := by
        simpa [asking_eq, newSession_eq] using shows
      rw [Session.head?_fill {} context.sortedList?_builtCache
        (Session.snapshot_turnedTo (.inl kept) _) systems visible]
      simp [asking_eq, newSession_eq, acceptedRanking, favorites, listed]
  have topLevel : (context.asking query).topLevel = true := by rw [asking_eq, newSession_eq]
  rw [answered, Session.items_populateFrom, List.head?_append, head, topLevel]
  rfl

/-- The menu refers to the list that was built. -/
theorem entries_answered (position : Nat) :
    ((context.answered query).select position).entries context.builtCache =
      listed context.builtCache := by
  rw [answered, Session.entries, Session.list_select_populateFrom, Option.map_some, Option.getD_some,
    listed]

/-- A session that ends with a system selected leaves this and its filter. -/
theorem finish_answered {position place : Nat} {entry : Entry}
    (here : (context.answered query).items[position]? = some (.system place))
    (there : (listed context.builtCache)[place]? = some entry) :
    ((context.answered query).select position).finish context.builtCache =
      { lastUsedMachine := entry.shortname, lastUsedFilter := context.restoredFilter.text } := by
  have filter : ((context.answered query).select position).filter = context.restoredFilter := by
    rw [answered, Session.filter_select_populateFrom, asking_eq, newSession_eq]
  rw [Session.finish, filter, Session.selectedName?, Session.selectedItem?_select here,
    Option.bind_some, entries_answered, MenuItem.shortname?, there, Option.map_some, Option.getD_some]

end Context

theorem bestMatch?_of_item {item : MenuItem}
    (here : (context.answered query).items[0]? = some item) :
    bestMatch? context query = (item.listed? (listed context.builtCache)).map fun entry =>
      (entry, ((context.answered query).select 0).finish context.builtCache) := by
  have populated : (context.asking query).populate? context.builtCache {} =
      some (context.answered query) := by
    rw [Session.populate?, context.sortedList?_builtCache]
    rfl
  have asked : (context.newSession true).setSearch query = context.asking query := rfl
  simp only [bestMatch?, asked, populated, Option.bind_eq_bind, Option.bind_some,
    Session.selectedItem?_select here, context.entries_answered]
  rw [Option.map_eq_bind]
  rfl

/-- The best match is the first of the ranked systems that the session accepts. -/
theorem bestMatch?_eq (shows : 1 ≤ context.options.search.maxVisibleResults) :
    bestMatch? context query =
      ((context.rankedEntries query).find? context.passes).map fun entry =>
        (entry, { lastUsedMachine := entry.shortname
                  lastUsedFilter := context.restoredFilter.text }) := by
  have chosen : (context.rankedEntries query).find? context.passes =
      (context.acceptedRanking query).head?.bind ((listed context.builtCache)[·]?) := by
    rw [rankedEntries_eq, Ranking.find?_filterMap_getElem?]
    rfl
  have head := context.head?_items_answered query shows
  rw [List.head?_eq_getElem?] at head
  cases first : (context.acceptedRanking query).head? with
  | none =>
      rw [first, Option.map_none, Option.none_or] at head
      rw [first, Option.bind_none] at chosen
      rw [bestMatch?_of_item context query head, chosen, MenuItem.listed?, Option.map_none,
        Option.map_none]
  | some position =>
      rw [first, Option.map_some, Option.some_or] at head
      rw [first, Option.bind_some] at chosen
      rw [bestMatch?_of_item context query head, chosen, MenuItem.listed?]
      refine Option.map_congr fun entry there => ?_
      rw [context.finish_answered query head there]

/-- The options that are saved when a system was selected. -/
def remembering (options : Options) (shortname : String) (filter : Filter) : Options :=
  { options with
    session := { options.session with lastUsedMachine := shortname, lastUsedFilter := filter.text } }

/-- Without a system to select, selecting fails. -/
theorem select_of_none (visible : context.options.Visible)
    (none : (context.rankedEntries query).find? context.passes = none) :
    select context query = .failed context.tree (.noMatch query) := by
  rw [select, bestMatch?_eq context query visible.1, none]
  rfl

/-- Otherwise it prints the system and saves the options, if it can, and they can be loaded again. -/
theorem select_of_some (visible : context.options.Visible) {entry : Entry}
    (chosen : (context.rankedEntries query).find? context.passes = some entry) {next : Options}
    (remembered : next = remembering context.options entry.shortname context.restoredFilter) :
    (select context query).output = [.text (entry.shortname ++ "  " ++ entry.description)] ∧
      ((select context query).failure = none ∧
          next.save context.tree context.configPath = .ok (select context query).tree ∧
          (context.tree.Complete →
            Options.load (select context query).tree context.configPath = .ok next) ∨
        ∃ cause, next.save context.tree context.configPath = .error cause ∧
          (select context query).tree = context.tree ∧
          (select context query).failure = some (.saveOptions context.configPath cause)) := by
  subst remembered
  have summary : withSummary context.options
      { lastUsedMachine := entry.shortname, lastUsedFilter := context.restoredFilter.text } =
      remembering context.options entry.shortname context.restoredFilter := by
    rw [withSummary, SessionSummary.applyTo, remembering]
  have shown : (remembering context.options entry.shortname context.restoredFilter).Visible := visible
  rw [select, bestMatch?_eq context query visible.1, chosen, Option.map_some]
  simp only [summary]
  cases saved : (remembering context.options entry.shortname context.restoredFilter).save context.tree
      context.configPath with
  | ok tree =>
      exact ⟨rfl, .inl ⟨rfl, rfl, fun complete => Options.load_save_of_visible shown complete saved⟩⟩
  | error cause => exact ⟨rfl, .inr ⟨cause, rfl, rfl, rfl⟩⟩

/-- A system is chosen if the session accepts any. -/
theorem isSome_find?_rankedEntries :
    ((context.rankedEntries query).find? context.passes).isSome = true ↔
      ∃ entry ∈ listed context.builtCache, context.passes entry = true := by
  rw [List.find?_isSome]
  refine exists_congr fun entry => ?_
  rw [(rankedEntries_perm context query).mem_iff]

/-- Unless the options cannot be written, selecting succeeds if the session accepts any system. -/
theorem select_succeeds_iff (visible : context.options.Visible)
    (written : ∀ path cause, (select context query).failure ≠ some (.saveOptions path cause)) :
    (select context query).failure = none ↔
      ∃ entry ∈ listed context.builtCache, context.passes entry = true := by
  rw [← isSome_find?_rankedEntries context query]
  cases chosen : (context.rankedEntries query).find? context.passes with
  | none => simp [select_of_none context query visible chosen, Outcome.failed]
  | some entry =>
      obtain ⟨-, ⟨done, -⟩ | ⟨cause, -, -, failed⟩⟩ := select_of_some context query visible chosen rfl
      · simp [done]
      · exact absurd failed (written _ cause)

section Printing

variable (width : List Char → Nat)

/-- A line shows the score of a result, its short name and its description, in this order and with two
spaces or more between them. -/
def ShowsResult (result : Rat × Entry) (line : String) : Prop :=
  ∃ first second, 2 ≤ first ∧ 2 ≤ second ∧
    line = .ofList (Text.trimEnd ((Score.fixedDecimal 3 result.1).toList ++ List.replicate first ' ' ++
      result.2.shortname.toList ++ List.replicate second ' ' ++ result.2.description.toList))

theorem showsResult_of_inColumns {rows : List (List String)} {result : Rat × Entry}
    {fields : List (List Char)} (member : searchRow result ∈ rows)
    (columns : Table.InColumns width rows (searchRow result) fields) :
    ShowsResult result (.ofList (Text.trimEnd fields.flatten)) := by
  obtain ⟨score, name, description, rfl⟩ := List.length_eq_three.1 columns.length_eq
  have scored : (searchRow result)[0]? = some (Score.fixedDecimal 3 result.1) := rfl
  have named : (searchRow result)[1]? = some result.2.shortname := rfl
  have described : (searchRow result)[2]? = some result.2.description := rfl
  have three : (searchRow result).length = 3 := rfl
  obtain ⟨first, wide, rfl⟩ := columns.inner member scored rfl (by omega)
  obtain ⟨second, wider, rfl⟩ := columns.inner member named rfl (by omega)
  obtain rfl := columns.last described rfl rfl
  exact ⟨first, second, wide, wider, by simp⟩

/-- The lines of a table of results show the results in their order. -/
theorem forall₂_showsResult {results : List (Rat × Entry)} {lines : List String}
    (made : Table.layout? width (results.map searchRow) = some lines) :
    List.Forall₂ ShowsResult results lines := by
  refine (List.forall₂_map_left_iff.1 (Table.forall₂_of_layout? made)).imp ?_
  rintro result line ⟨member, fields, columns, rfl⟩
  exact showsResult_of_inColumns width member columns

/-- A search prints the first results of the ranking. -/
theorem search_lines (limit : Nat) :
    ∃ lines, search width context query limit = .printed context.tree lines ∧
      Table.layout? width (((rankedSystems context query).take limit).map searchRow) = some lines ∧
      List.Forall₂ ShowsResult ((rankedSystems context query).take limit) lines := by
  have made := (Table.some_layoutBy width
    (((rankedSystems context query).take limit).map searchRow)).symm
  exact ⟨_, rfl, made, forall₂_showsResult width made⟩

end Printing

/-- A command runs with the options and the catalog that were read. -/
theorem runBy_eq (width : List Char → Nat) {tree : FileTree} {standardConfig : String}
    {arguments : Arguments} {options : Options} {catalog : Catalog}
    (loaded : Options.loadOrDefault tree (arguments.config.getD standardConfig) = .ok options)
    (read : Catalog.load tree arguments.catalog = .ok catalog) :
    runBy width tree standardConfig arguments = arguments.action.run width
      ⟨tree, catalog, options, arguments.config.getD standardConfig⟩ := by
  simp only [runBy, loaded, read]

/-- A search ranks all systems, lower scores first. It prints a table of the first ones, each with its score,
short name and description, and of all of them if the limit leaves none out. Selecting chooses the first
system in this order that the filter of the last session accepts, where nothing is a favorite and nothing is
known about media. It fails if there is no such system, and then all files are as they were. Otherwise it
prints the system, and saves options that differ from those that were loaded in the last system and the last
filter at most. All of this holds by whatever measure of width tables are laid out. -/
theorem run_select (width : List Char → Nat) {tree : FileTree} {standardConfig : String}
    {arguments : Arguments} {options : Options} {catalog : Catalog} {configPath : String}
    (given : arguments.config.getD standardConfig = configPath)
    (loaded : Options.loadOrDefault tree configPath = .ok options)
    (read : Catalog.load tree arguments.catalog = .ok catalog) {query : String}
    (asked : arguments.action = .select query) {outcome : Outcome}
    (ran : runBy width tree standardConfig arguments = outcome) {context : Context}
    (inContext : ⟨tree, catalog, options, configPath⟩ = context) {entries : List Entry}
    (built : listed context.builtCache = entries) {ranked : List (Rat × Entry)}
    (order : rankedSystems context query = ranked) {filter : Filter}
    (restored : (Session.restoreFilter options.session.lastUsedFilter).1 = filter)
    {chosen? : Option Entry}
    (first : (ranked.map (·.2)).find? (filter.accepts fun _ => false) = chosen?) :
    (entries.map Entry.record).Perm catalog.listed ∧
    (∀ entry ∈ entries, entry.available = false) ∧
    (ranked.map (·.2)).Perm entries ∧
    (∀ result ∈ ranked, result.1 = Ranking.scoreEntry options.search.metric (Text.searchKey query)
      context.builtCache.published result.2) ∧
    ranked.Pairwise (fun a b => a.1 ≤ b.1) ∧
    (∀ limit, ∃ lines,
      runBy width tree standardConfig { arguments with action := .search query limit } =
        { tree := tree, output := lines.map .text } ∧
      Table.layout? width ((ranked.take limit).map fun result =>
        [Score.fixedDecimal 3 result.1, result.2.shortname, result.2.description]) = some lines ∧
      List.Forall₂ ShowsResult (ranked.take limit) lines ∧
      (entries.length ≤ limit → List.Forall₂ ShowsResult ranked lines)) ∧
    ((∀ path cause, outcome.failure ≠ some (.saveOptions path cause)) →
      (outcome.failure = none ↔ ∃ entry ∈ entries, filter.accepts (fun _ => false) entry = true)) ∧
    (chosen? = none → outcome = { tree := tree, failure := some (.noMatch query) }) ∧
    (∀ entry, chosen? = some entry →
      outcome.output = [.text (entry.shortname ++ "  " ++ entry.description)] ∧
      ∀ next, next = remembering options entry.shortname filter →
        (outcome.failure = none ∧ next.save tree configPath = .ok outcome.tree ∧
          (tree.Complete → Options.load outcome.tree configPath = .ok next)) ∨
        ∃ cause, next.save tree configPath = .error cause ∧ outcome.tree = tree ∧
          outcome.failure = some (.saveOptions configPath cause)) ∧
    (filter = .all → chosen? = ranked.head?.map (·.2)) ∧
    (filter = .favorites → chosen? = none) := by
  obtain ⟨records, accepted⟩ := Catalog.exists_ofRecords_of_load read
  have visible := Options.visible_of_loadOrDefault loaded
  subst given inContext
  let context : Context := ⟨tree, catalog, options, arguments.config.getD standardConfig⟩
  have runs : runBy width tree standardConfig arguments = select context query := by
    rw [runBy_eq width loaded read, asked]
    rfl
  have searches : ∀ limit,
      runBy width tree standardConfig { arguments with action := .search query limit } =
        search width context query limit := fun limit => runBy_eq width loaded read
  have filtered : context.passes = filter.accepts fun _ => false := by
    rw [← restored]
    rfl
  have chosen : (context.rankedEntries query).find? context.passes = chosen? := by
    rw [filtered, Context.rankedEntries, order, first]
  have perm := rankedEntries_perm context query
  rw [Context.rankedEntries, order, built] at perm
  obtain ⟨records_perm, available⟩ := context.listed_builtCache (Catalog.ordered_of_ofRecords accepted)
  rw [built] at records_perm available
  refine ⟨records_perm, available, perm, ?_, ?_, ?_, ?_, ?_, ?_, ?_, ?_⟩
  · rw [← order]
    exact fun result member => score_of_mem_rankedSystems context query member
  · rw [← order]
    exact pairwise_rankedSystems context query
  · intro limit
    obtain ⟨lines, printed, made, shown⟩ := search_lines context query width limit
    rw [order] at made shown
    refine ⟨lines, ?_, made, shown, fun enough => ?_⟩
    · rw [searches, printed]
      rfl
    · have length := perm.length_eq
      rw [List.length_map] at length
      rwa [List.take_of_length_le (by omega)] at shown
  · intro written
    rw [← ran, runs] at written ⊢
    rw [select_succeeds_iff context query visible written, built, filtered]
  · rintro rfl
    rw [← ran, runs, select_of_none context query visible chosen]
    rfl
  · rintro entry rfl
    rw [← ran, runs, ← restored]
    obtain ⟨output, saved⟩ := select_of_some context query visible chosen rfl
    refine ⟨output, ?_⟩
    rintro next rfl
    exact saved
  · rintro rfl
    rw [← first]
    cases ranked <;> rfl
  · rintro rfl
    rw [← first, List.find?_eq_none]
    exact fun entry _ => Bool.false_ne_true

end Command

/-- A system that works and one that does not. -/
def Catalog.duel : Catalog where
  records := [placeholderRecord, { name := "duel", description := "Duel" },
    { name := "pong", description := "Pong", traits := { notWorking := true } }]
  placeholder := 0

/-- Their document, with the fields of each in the order of their declaration. -/
def Catalog.duelText : String :=
  "system=[[\"___empty\",\"Empty driver\"],[\"duel\",\"Duel\"]," ++
    "[\"pong\",\"Pong\",\"\",\"\",\"\",false,true]]"

theorem Catalog.ofRecords_duel : ofRecords duel.records = .ok duel := by
  refine ofRecords_eq_ok ?_ ⟨?_, placeholderRecord, rfl, rfl⟩
  · decide +kernel
  · rw [Increasing]
    decide +kernel

theorem Catalog.parse_duelText : parse duelText = .ok duel := by
  have read : (Toml.parse duelText >>= readSystems).toOption = some duel.records := by decide +kernel
  unfold parse
  cases records : Toml.parse duelText >>= readSystems with
  | error cause =>
      rw [records] at read
      cases read
  | ok found =>
      rw [records] at read
      cases read
      exact ofRecords_duel

namespace Command

open Context (listed)

/-- Options that list the systems that do not work. -/
def hidden : Options where
  session := { lastUsedMachine := "duel", lastUsedFilter := "Not Working" }

/-- Files with a catalog and options. -/
def filesOf (catalog options : String) : FileTree where
  home := []
  nodes := [(["catalog.toml"], .file 0), (["ui.toml"], .file 1)]
  contents := [Text.Utf8.encode catalog.toList, Text.Utf8.encode options.toList]

theorem load_filesOf (text options : String) :
    Catalog.load (filesOf text options) "catalog.toml" = Catalog.parse text := by
  have bytes : (filesOf text options).readBytes "catalog.toml" = .ok (Text.Utf8.encode text.toList) :=
    rfl
  have content : (filesOf text options).readText "catalog.toml" = .ok text := by
    rw [FileTree.readText, bytes]
    simp [bind, Except.bind, Text.Utf8.decodeStrict?_encode]
  rw [Catalog.load, content]

theorem loadOrDefault_filesOf (catalog text : String) :
    Options.loadOrDefault (filesOf catalog text) "ui.toml" = Options.parse text := by
  have there : (filesOf catalog text).hasPath "ui.toml" = true := rfl
  have bytes : (filesOf catalog text).readBytes "ui.toml" = .ok (Text.Utf8.encode text.toList) := rfl
  have content : (filesOf catalog text).readText "ui.toml" = .ok text := by
    rw [FileTree.readText, bytes]
    simp [bind, Except.bind, Text.Utf8.decodeStrict?_encode]
  rw [Options.loadOrDefault, if_pos there, Options.load, content]

theorem complete_filesOf (catalog options : String) : (filesOf catalog options).Complete := by
  intro place id member
  simp only [filesOf, List.mem_cons, List.not_mem_nil, or_false, Prod.mk.injEq, Node.file.injEq] at member
  obtain ⟨-, rfl⟩ | ⟨-, rfl⟩ := member
  · exact Nat.zero_lt_two
  · exact Nat.one_lt_two

/-- Arguments that ask for the best match of the system that works. -/
def selectDuel : Arguments where
  catalog := "catalog.toml"
  config := none
  verbose := false
  action := .select "duel"

/-- What the command works on. -/
def duelContext : Context where
  tree := filesOf Catalog.duelText hidden.write
  catalog := .duel
  options := hidden
  configPath := "ui.toml"

/-- The system that works matches its own name, but the filter accepts only the other one. -/
theorem rankedSystems_duel :
    (rankedSystems duelContext "duel").map
      (fun result => [Score.fixedDecimal 3 result.1, result.2.shortname, result.2.description]) =
        [["0.000", "duel", "Duel"], ["1.000", "pong", "Pong"]] ∧
    (((rankedSystems duelContext "duel").map (·.2)).find?
      (Filter.notWorking.accepts fun _ => false)).map Entry.shortname = some "pong" := by
  rw [rankedSystems_eq, Ranking.rankEntries, List.mergeSort_of_pairwise (by decide +kernel)]
  decide +kernel

/-- The search prints the system that works first, but the other one is chosen. -/
theorem run_select_duel :
    ∃ (outcome : Outcome) (entry : Entry),
      run (filesOf Catalog.duelText hidden.write) "ui.toml"
          { selectDuel with action := .search "duel" 2 } =
        { tree := filesOf Catalog.duelText hidden.write
          output := [.text "0.000  duel  Duel", .text "1.000  pong  Pong"] } ∧
      run (filesOf Catalog.duelText hidden.write) "ui.toml" selectDuel = outcome ∧
      outcome.failure = none ∧ entry.shortname = "pong" ∧
      outcome.output = [.text (entry.shortname ++ "  " ++ entry.description)] ∧
      Options.load outcome.tree "ui.toml" =
        .ok { session := { lastUsedMachine := "pong", lastUsedFilter := "Not Working" } } := by
  have loaded : Options.loadOrDefault (filesOf Catalog.duelText hidden.write) "ui.toml" =
      .ok hidden := by
    rw [loadOrDefault_filesOf, Options.parse_write_iff]
    exact ⟨by decide, by decide⟩
  have read : Catalog.load (filesOf Catalog.duelText hidden.write) selectDuel.catalog = .ok .duel := by
    rw [selectDuel, load_filesOf, Catalog.parse_duelText]
  have given : selectDuel.config.getD "ui.toml" = "ui.toml" := rfl
  have asked : selectDuel.action = .select "duel" := rfl
  have restored : (Session.restoreFilter hidden.session.lastUsedFilter).1 = .notWorking := by
    decide +kernel
  have complete := complete_filesOf Catalog.duelText hidden.write
  obtain ⟨cells, chosen⟩ := rankedSystems_duel
  obtain ⟨context, inContext⟩ : ∃ context, duelContext = context := ⟨_, rfl⟩
  rw [inContext] at cells chosen
  generalize ran : run (filesOf Catalog.duelText hidden.write) "ui.toml" selectDuel = outcome
  generalize order : rankedSystems context "duel" = ranked at cells chosen
  obtain ⟨entry, first, named⟩ := Option.map_eq_some_iff.1 chosen
  obtain ⟨-, -, -, -, -, searches, -, -, chooses, -, -⟩ :=
    run_select Text.displayWidth given loaded read asked ran inContext rfl order restored first
  obtain ⟨lines, printed, made, -, -⟩ := searches 2
  have aligned : Table.layout? Text.displayWidth [["0.000", "duel", "Duel"], ["1.000", "pong", "Pong"]] =
      some ["0.000  duel  Duel", "1.000  pong  Pong"] := by decide +kernel
  rw [List.map_take, cells, List.take_of_length_le (by decide), aligned] at made
  obtain rfl := Option.some.inj made
  obtain ⟨output, written⟩ := chooses entry rfl
  obtain ⟨done, -, reloaded⟩ | ⟨cause, failed, -⟩ := written _ rfl
  · refine ⟨outcome, entry, printed, rfl, done, named, output, ?_⟩
    rw [reloaded complete, named]
    rfl
  · cases failed

end Command

end SystemMenu
