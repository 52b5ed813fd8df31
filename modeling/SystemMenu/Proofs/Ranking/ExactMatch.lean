import SystemMenu.Proofs.Staging.Uses
import SystemMenu.Proofs.Text.SearchKeys
import SystemMenu.Ranking.Ranker

/-!
# Exact matches come first

A score is zero exactly if the query is one of the keys of the entry, and a ranking puts lower scores
before higher ones. Once everything is published, an entry has a key for each of its names: also for the
title that the catalog gives it, whatever title a file shows instead.

## Main statements

* `Ranking.scoreEntry_eq_zero_iff`: when a score is zero.
* `Ranking.mem_rankEntries_iff`, `Ranking.pairwise_rankEntries`: what a ranking holds.
* `Entry.searchKey_mem_allKeys`: every name of an entry has a key.
* `Cache.InUse.exact_match`: an entry is found first under each of its names.
-/

namespace SystemMenu

open Score (Metric)

/-- Different texts are at a positive distance. -/
theorem Score.Metric.distance_pos (metric : Metric) {query candidate : String}
    (different : query ≠ candidate) : 0 < metric.distance query candidate := by
  rw [distance, if_neg different]
  exact limitDistance_pos _

theorem Score.Metric.distance_nonneg (metric : Metric) (query candidate : String) :
    0 ≤ metric.distance query candidate := by
  by_cases same : query = candidate
  · have zero : 0 = metric.distance query candidate :=
      ((metric.distance_eq_zero_iff query candidate).2 same).symm
    exact zero ▸ Rat.le_refl
  · exact Rat.le_of_lt (metric.distance_pos same)

namespace Ranking

/-- The least distance is zero exactly if the query is one of the keys. -/
theorem leastDistance_eq_zero_iff (metric : Metric) (query : String) {bound : Rat} (pos : 0 < bound)
    (keys : List String) : leastDistance metric query bound keys = 0 ↔ query ∈ keys := by
  induction keys generalizing bound with
  | nil => simp [leastDistance, Rat.ne_of_gt pos]
  | cons key rest ih =>
      by_cases same : query = key
      · have found : metric.distance query key = 0 := (metric.distance_eq_zero_iff query key).2 same
        simp only [leastDistance, found, if_pos pos, if_true, true_iff]
        simp [same]
      · have apart := metric.distance_pos same
        -- Nothing was found yet, so the search goes on with a bound that is still positive.
        have best : 0 < if metric.distance query key < bound then metric.distance query key
            else bound := by
          split
          · exact apart
          · exact pos
        simp only [leastDistance, if_neg (Rat.ne_of_gt best), ih best, List.mem_cons, same, false_or]

/-- The least distance is no less than zero. -/
theorem leastDistance_nonneg (metric : Metric) (query : String) {bound : Rat} (nonneg : 0 ≤ bound)
    (keys : List String) : 0 ≤ leastDistance metric query bound keys := by
  induction keys generalizing bound with
  | nil => exact nonneg
  | cons key rest ih =>
      have best : 0 ≤ if metric.distance query key < bound then metric.distance query key
          else bound := by
        split
        · exact metric.distance_nonneg query key
        · exact nonneg
      simp only [leastDistance]
      generalize (if metric.distance query key < bound then metric.distance query key
        else bound) = least at best ⊢
      split
      · exact best
      · exact ih best

theorem scoreEntry_eq_zero_iff (metric : Metric) (query : String) (published : List Stage)
    (entry : Entry) :
    scoreEntry metric query published entry = 0 ↔ query ∈ searchKeys published entry :=
  leastDistance_eq_zero_iff metric query (by decide) _

theorem score_le_trans (a b c : Candidate) (hab : decide (a.score ≤ b.score) = true)
    (hbc : decide (b.score ≤ c.score) = true) : decide (a.score ≤ c.score) = true := by
  rw [decide_eq_true_eq] at *
  exact Rat.le_trans hab hbc

theorem score_le_total (a b : Candidate) :
    (decide (a.score ≤ b.score) || decide (b.score ≤ a.score)) = true := by
  simpa using Rat.le_total

section Rankings

variable (metric : Metric) (query : String) (published : List Stage) (entries : List Entry)

/-- A ranking holds every position once, with the score of its entry. -/
theorem mem_rankEntries_iff {candidate : Candidate} :
    candidate ∈ rankEntries metric query published entries ↔
      ∃ entry, entries[candidate.position]? = some entry ∧
        candidate.score = scoreEntry metric (Text.searchKey query) published entry := by
  simp only [rankEntries]
  rw [(List.mergeSort_perm _ _).mem_iff, List.mem_mapIdx]
  constructor
  · rintro ⟨position, inside, rfl⟩
    exact ⟨entries[position], List.getElem?_eq_getElem inside, rfl⟩
  · rintro ⟨entry, here, score⟩
    obtain ⟨inside, rfl⟩ := List.getElem?_eq_some_iff.1 here
    exact ⟨candidate.position, inside, by rw [← score]⟩

theorem position_rankEntries_perm :
    ((rankEntries metric query published entries).map Candidate.position).Perm
      (List.range entries.length) := by
  refine ((List.mergeSort_perm _ _).map Candidate.position).trans (.of_eq ?_)
  apply List.ext_getElem?
  intro position
  by_cases inside : position < entries.length
  · simp [inside]
  · simp [inside]

/-- No score is less than zero. -/
theorem score_nonneg {candidate : Candidate}
    (h : candidate ∈ rankEntries metric query published entries) : 0 ≤ candidate.score := by
  obtain ⟨entry, -, score⟩ := (mem_rankEntries_iff ..).1 h
  rw [score]
  exact leastDistance_nonneg _ _ (by decide) _

/-- Lower scores come first. -/
theorem pairwise_rankEntries :
    (rankEntries metric query published entries).Pairwise fun a b => a.score ≤ b.score :=
  (List.pairwise_mergeSort score_le_trans score_le_total _).imp fun before => by
    simpa using before

/-- A position whose score is zero stands before all that have another score. -/
theorem getElem?_rankEntries_of_exact {position : Nat} {entry : Entry}
    (here : entries[position]? = some entry)
    (key : Text.searchKey query ∈ searchKeys published entry) :
    ∃ place : Nat, (rankEntries metric query published entries)[place]? = some ⟨0, position⟩ ∧
      ∀ (other : Nat) (candidate : Candidate),
        (rankEntries metric query published entries)[other]? = some candidate →
          candidate.score ≠ 0 → place < other := by
  have ranked : ⟨0, position⟩ ∈ rankEntries metric query published entries :=
    (mem_rankEntries_iff ..).2 ⟨entry, here, ((scoreEntry_eq_zero_iff ..).2 key).symm⟩
  obtain ⟨place, hplace⟩ := List.mem_iff_getElem?.1 ranked
  refine ⟨place, hplace, fun other candidate hother apart => ?_⟩
  by_contra notBefore
  obtain rfl | before := Nat.eq_or_lt_of_le (Nat.le_of_not_lt notBefore)
  · rw [hplace] at hother
    cases hother
    exact apart rfl
  · -- An earlier score is at most zero, so it is zero.
    obtain ⟨inside, rfl⟩ := List.getElem?_eq_some_iff.1 hother
    obtain ⟨hlt, exactly⟩ := List.getElem?_eq_some_iff.1 hplace
    have least := List.pairwise_iff_getElem.1 (pairwise_rankEntries metric query published entries)
      other place inside hlt before
    rw [exactly] at least
    have nonneg := score_nonneg metric query published entries (List.getElem_mem inside)
    exact apart (Rat.le_antisymm least nonneg)

/-- Among any candidates in the order of the ranking, an exact match makes the first one exact. -/
theorem score_first_eq_zero {first : Candidate} {rest : List Candidate}
    (some : (first :: rest).Sublist (rankEntries metric query published entries))
    {candidate : Candidate} (member : candidate ∈ first :: rest) (exactly : candidate.score = 0) :
    first.score = 0 := by
  obtain rfl | later := List.mem_cons.1 member
  · exact exactly
  · have sorted := (pairwise_rankEntries metric query published entries).sublist some
    have least := (List.pairwise_cons.1 sorted).1 candidate later
    rw [exactly] at least
    exact Rat.le_antisymm least
      (score_nonneg metric query published entries (some.subset List.mem_cons_self))

/-- A position is ranked with another score if no key of its entry is the query. -/
theorem exists_getElem?_rankEntries {position : Nat} {entry : Entry}
    (here : entries[position]? = some entry)
    (nameless : Text.searchKey query ∉ searchKeys published entry) :
    ∃ (place : Nat) (candidate : Candidate),
      (rankEntries metric query published entries)[place]? = some candidate ∧ candidate.score ≠ 0 ∧
        candidate.position = position := by
  have ranked : ⟨scoreEntry metric (Text.searchKey query) published entry, position⟩ ∈
      rankEntries metric query published entries :=
    (mem_rankEntries_iff ..).2 ⟨entry, here, rfl⟩
  obtain ⟨place, hplace⟩ := List.mem_iff_getElem?.1 ranked
  exact ⟨place, _, hplace, fun zero => nameless ((scoreEntry_eq_zero_iff ..).1 zero), rfl⟩

end Rankings

end Ranking

namespace Entry

/-- The titles of an entry: the one shown, that of the record and the reading, as far as there are
any. -/
def titles (entry : Entry) : List String :=
  [entry.description, entry.record.description, entry.reading].filter (· ≠ "")

/-- The texts under which an entry is found: its short name, and its titles with and without the
manufacturer. -/
def names (entry : Entry) : List String :=
  entry.shortname :: entry.titles ++
    entry.titles.map fun title => entry.record.manufacturer ++ " " ++ title

theorem ne_empty_of_mem_names {entry : Entry} (valid : entry.shortname ≠ "") {name : String}
    (h : name ∈ entry.names) : name ≠ "" := by
  rw [names, List.mem_append, List.mem_cons, List.mem_map] at h
  obtain (rfl | titled) | ⟨title, -, rfl⟩ := h
  · exact valid
  · simpa using (List.mem_filter.1 titled).2
  · simp [String.append_eq_empty_iff]

/-- The keys of an entry, also those that are empty. -/
def allKeys (titled : Bool) (entry : Entry) : List String :=
  let key := entry.keyFor titled
  [key .shortname, entry.readingKey, entry.manufacturerReadingKey, key .description,
    key .manufacturerDescription, key .defaultDescription, key .manufacturerDefaultDescription]

theorem searchKeys_withKeys (titled available : Bool) (entry : Entry) {published : List Stage}
    (all : ∀ field : SearchField, field.stage ∈ published) :
    Ranking.searchKeys published { entry.withKeys titled with available := available } =
      (entry.allKeys titled).filter (· ≠ "") := by
  have key : ∀ field, Ranking.publishedKey published
      { entry.withKeys titled with available := available } field = entry.keyFor titled field := by
    intro field
    simp [Ranking.publishedKey, all field, withKeys]
  simp only [Ranking.searchKeys, key]
  rfl

section AllKeys

variable {entry : Entry} {titled : Bool}

/-- Both keys of the title shown are there, alone and after the manufacturer. -/
theorem description_mem_allKeys :
    Text.searchKey entry.description ∈ entry.allKeys titled ∧
      Text.searchKey (entry.record.manufacturer ++ " " ++ entry.description) ∈
        entry.allKeys titled := by
  rw [← Text.searchKeyJoined_eq_searchKey]
  simp [allKeys, keyFor]

/-- So are those of the record's title: if it is not the one shown, it has keys of its own. -/
theorem record_description_mem_allKeys
    (own : titled = false → entry.description = entry.record.description) :
    Text.searchKey entry.record.description ∈ entry.allKeys titled ∧
      Text.searchKey (entry.record.manufacturer ++ " " ++ entry.record.description) ∈
        entry.allKeys titled := by
  by_cases same : entry.description = entry.record.description
  · rw [← same]
    exact description_mem_allKeys
  · have replaced : titled = true := by
      cases titled
      · exact absurd (own rfl) same
      · rfl
    rw [← Text.searchKeyJoined_eq_searchKey]
    simp [allKeys, keyFor, replaced, same]

/-- And those of the reading, if there is one. -/
theorem reading_mem_allKeys (fresh : entry.Fresh) (read : entry.reading ≠ "") :
    Text.searchKey entry.reading ∈ entry.allKeys titled ∧
      Text.searchKey (entry.record.manufacturer ++ " " ++ entry.reading) ∈ entry.allKeys titled := by
  rw [← Text.searchKeyJoined_eq_searchKey]
  simp [allKeys, fresh.readingKey, fresh.manufacturerReadingKey, read]

/-- Every name of an entry has its key. -/
theorem searchKey_mem_allKeys (fresh : entry.Fresh)
    (own : titled = false → entry.description = entry.record.description) {name : String}
    (h : name ∈ entry.names) : Text.searchKey name ∈ entry.allKeys titled := by
  have both : ∀ title ∈ entry.titles, Text.searchKey title ∈ entry.allKeys titled ∧
      Text.searchKey (entry.record.manufacturer ++ " " ++ title) ∈ entry.allKeys titled := by
    intro title member
    obtain ⟨which, said⟩ := List.mem_filter.1 member
    simp only [List.mem_cons, List.not_mem_nil, or_false] at which
    obtain rfl | rfl | rfl := which
    · exact description_mem_allKeys
    · exact record_description_mem_allKeys own
    · exact reading_mem_allKeys fresh (by simpa using said)
  rw [names, List.mem_append, List.mem_cons, List.mem_map] at h
  obtain (rfl | title) | ⟨title, member, rfl⟩ := h
  · exact List.mem_cons_self
  · exact (both name title).1
  · exact (both title member).2

end AllKeys

end Entry

namespace Cache

variable {catalog : Catalog} {cache : Cache}

/-- The entries of a list whose generation is complete have all their keys, whatever they were told. -/
theorem InUse.of_mem_entries (inUse : InUse catalog.source cache) (ordered : catalog.Ordered)
    {number : Nat} (offered : (cache.generation number).offers Stage.all = true) {entry : Entry}
    (member : entry ∈ cache.entries number) :
    ∃ titles bare available, bare ∈ catalog.workingList titles ∧
      entry = { bare.withKeys titles.isSome with available := available } := by
  have faithful := inUse.faithful ordered
  obtain ⟨titles, made⟩ := faithful.made number
  have complete := made.eq_complete ordered (faithful.sound.inOrder_generation number)
    (by rw [generation_unmarked]; exact offered)
  rw [generation_unmarked] at complete
  have unmarked : (cache.entries number).map (Entry.mark fun _ => false) =
      (sortEntries (catalog.workingList titles)).map (Entry.withKeys titles.isSome) := by
    have sorted := congrArg Generation.sorted complete
    cases stored : (cache.generation number).sorted with
    | none => simp [Generation.unmarked, Generation.mark, stored, Generation.complete] at sorted
    | some list =>
        simpa [Generation.unmarked, Generation.mark, stored, Generation.complete, entries] using sorted
  have told : (entry.mark fun _ => false) ∈
      (sortEntries (catalog.workingList titles)).map (Entry.withKeys titles.isSome) := by
    rw [← unmarked]
    exact List.mem_map_of_mem member
  obtain ⟨bare, bareMember, same⟩ := List.mem_map.1 told
  refine ⟨titles, bare, entry.available, (sortEntries_perm _).mem_iff.1 bareMember, ?_⟩
  rw [same]
  rfl

/-- Once all stages are published, an entry is found first under each of its names. For every query with
the same search key its score is zero, and it stands before all entries whose scores are not. A ranker
that keeps an older list finds the entries of that list in the same way, if the list is complete, too. -/
theorem InUse.exact_match {records : List SystemRecord}
    (accepted : Catalog.ofRecords records = .ok catalog) (inUse : InUse catalog.source cache)
    (offered : cache.offers Stage.all = true) (ranker : Ranker)
    (kept : ∀ number, ranker.snapshot = some number →
      (cache.generation number).offers Stage.all = true) (query : String) :
    ∃ (next : Ranker) (ranking : Ranking), ranker.rank? cache query = some (next, ranking) ∧
      ranking.generation = ranker.snapshot.getD cache.current ∧
      (ranking.candidates.map (·.position)).Perm
        (List.range (cache.entries ranking.generation).length) ∧
      ∀ (position : Nat) (entry : Entry),
        (cache.entries ranking.generation)[position]? = some entry →
        ∀ name ∈ entry.names, Text.searchKey query = Text.searchKey name →
          ∃ place : Nat, ranking.candidates[place]? = some ⟨0, position⟩ ∧
            ∀ (other : Nat) (candidate : Ranking.Candidate),
              ranking.candidates[other]? = some candidate → candidate.score ≠ 0 →
                place < other := by
  have ordered := Catalog.ordered_of_ofRecords accepted
  have listed := sortedList?_of_complete offered
  have complete : (cache.generation (ranker.snapshot.getD cache.current)).offers Stage.all = true := by
    cases snapshot : ranker.snapshot with
    | none => exact offered
    | some number => exact kept number snapshot
  have ranked : ranker.rank? cache query =
      some (ranker.rankGeneration cache (ranker.snapshot.getD cache.current) query) := by
    rw [Ranker.rank?, listed]
    cases ranker.snapshot <;> rfl
  refine ⟨_, _, ranked, rfl, Ranking.position_rankEntries_perm .., ?_⟩
  intro position entry here name named same
  obtain ⟨titles, bare, available, working, rfl⟩ :=
    inUse.of_mem_entries ordered complete (List.mem_of_getElem? here)
  have own : titles.isSome = false → bare.description = bare.record.description := by
    intro untitled
    rw [Option.isSome_eq_false_iff, Option.isNone_iff_eq_none] at untitled
    rw [untitled] at working
    exact (Catalog.of_mem_workingList_none working).1
  have valid : bare.shortname ≠ "" :=
    Catalog.name_ne_empty_of_ofRecords accepted
      (List.mem_of_getElem? (Catalog.of_mem_workingList working).1)
  have all : ∀ field : SearchField, field.stage ∈ cache.published :=
    fun field => Generation.mem_published offered (by cases field <;> decide)
  apply Ranking.getElem?_rankEntries_of_exact _ _ _ _ here
  rw [Entry.searchKeys_withKeys _ _ _ all, same, List.mem_filter]
  constructor
  · exact Entry.searchKey_mem_allKeys (catalog.fresh_workingList ordered titles bare working) own named
  · simpa using Text.searchKey_ne_empty (Entry.ne_empty_of_mem_names valid named)

/-- The list of the family, built with another title and a reading for one system. -/
def retitledFamily : Cache :=
  (((Cache.new Catalog.family.source).beginBuild "." "names").1.proceed
    ⟨[], [(["names"], .file 0)], [Text.Utf8.encode "pac\tPuckman\tpakkuman\n".toList]⟩ none).1

theorem reachable_retitledFamily : Reachable Catalog.family.source retitledFamily :=
  .proceed (.move (.beginBuild "." "names") .new) _

theorem started_retitledFamily : retitledFamily.started = true := by
  rw [reachable_retitledFamily.faithful.sound.started_eq]
  exact (proceed_keeps _ _).2

theorem offers_retitledFamily : retitledFamily.offers Stage.all = true :=
  have begun : Reachable Catalog.family.source
      ((Cache.new Catalog.family.source).beginBuild "." "names").1 :=
    .move (.beginBuild "." "names") .new
  begun.faithful.offers_all rfl _

/-- Where two of the systems stand, and that the title of the record gives a key to the first one only. -/
theorem entries_retitledFamily :
    ((retitledFamily.entries retitledFamily.current)[4]?.any fun entry =>
      entry.shortname = "pac" ∧ entry.description = "Puckman" ∧ "Zeta" ∈ entry.names) = true ∧
    (retitledFamily.entries retitledFamily.current)[3]?.map Entry.shortname = some "lost" ∧
    Text.searchKey "zeta" = Text.searchKey "Zeta" ∧
    ∀ entry ∈ retitledFamily.entries retitledFamily.current,
      Text.searchKey "zeta" ∈ Ranking.searchKeys retitledFamily.published entry ↔
        entry.shortname = "pac" := by
  decide +kernel

/-- The system with another title is found under the title of its record, before one that has no such
name. -/
theorem InUse.exact_match_family :
    ∃ (next : Ranker) (ranking : Ranking) (position place : Nat) (entry : Entry),
      InUse Catalog.family.source retitledFamily ∧ retitledFamily.offers Stage.all = true ∧
      (⟨.levenshtein, none⟩ : Ranker).rank? retitledFamily "zeta" = some (next, ranking) ∧
      (retitledFamily.entries ranking.generation)[position]? = some entry ∧
      entry.shortname = "pac" ∧ entry.description = "Puckman" ∧
      ranking.candidates[place]? = some ⟨0, position⟩ ∧
      (∃ (other : Nat) (candidate : Ranking.Candidate) (lost : Entry),
        ranking.candidates[other]? = some candidate ∧ candidate.score ≠ 0 ∧ place < other ∧
        (retitledFamily.entries ranking.generation)[candidate.position]? = some lost ∧
        lost.shortname = "lost") ∧
      ∀ (other : Nat) (candidate : Ranking.Candidate),
        ranking.candidates[other]? = some candidate → candidate.score ≠ 0 → place < other := by
  have inUse := reachable_retitledFamily.inUse
  obtain ⟨next, ranking, ranked, -, -, first⟩ := exact_match Catalog.ofRecords_family
    inUse offers_retitledFamily ⟨.levenshtein, none⟩ (by simp) "zeta"
  have made := ranked
  rw [Ranker.rank?, sortedList?_of_complete offers_retitledFamily] at made
  obtain ⟨-, rfl⟩ := Prod.mk.inj (Option.some.inj made)
  obtain ⟨titled, unrelated, same, only⟩ := entries_retitledFamily
  obtain ⟨entry, here, facts⟩ := (Option.any_eq_true ..).1 titled
  obtain ⟨shortname, description, named⟩ := of_decide_eq_true facts
  obtain ⟨place, hplace, before⟩ := first 4 entry here "Zeta" named same
  obtain ⟨lost, there, nameless⟩ := Option.map_eq_some_iff.1 unrelated
  have apart : Text.searchKey "zeta" ∉ Ranking.searchKeys retitledFamily.published lost := by
    rw [only lost (List.mem_of_getElem? there), nameless]
    decide
  obtain ⟨other, candidate, hother, positive, position⟩ :=
    Ranking.exists_getElem?_rankEntries .levenshtein "zeta" retitledFamily.published _ there apart
  rw [← position] at there
  exact ⟨next, _, 4, place, entry, inUse, offers_retitledFamily, ranked, here, shortname, description,
    hplace, ⟨other, candidate, lost, hother, positive, before other candidate hother positive, there,
      nameless⟩, before⟩

end Cache

end SystemMenu
