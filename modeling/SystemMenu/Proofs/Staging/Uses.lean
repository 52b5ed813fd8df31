import SystemMenu.Proofs.Staging.CompleteLists
import SystemMenu.Staging.Use

/-!
# What uses of the shared list keep

Telling which systems are available touches nothing but that: a list that was handed out keeps its
entries, whatever callers do. Over a catalog a cache in use is one that is not told anything, apart from
what it was told.

## Main statements

* `Cache.InUse.sound`, `Cache.Sound.keeps_use`: what a use keeps over any source.
* `Cache.unmarked_mark`, `Cache.unmarked_afterStep`: what a use does, seen without what was told.
* `Cache.InUse.faithful`: over a catalog everything but what was told is made from the catalog.
-/

namespace SystemMenu

@[simp] theorem Entry.identity_mark (isAvailable : Entry → Bool) (entry : Entry) :
    (entry.mark isAvailable).identity = entry.identity := rfl

namespace Generation

variable {generation : Generation} (isAvailable : Entry → Bool)

@[simp] theorem published_mark : (generation.mark isAvailable).published = generation.published := rfl

/-- The data that a stage announces does not go away. -/
theorem holds_mark {stage : Stage} (h : generation.Holds stage) :
    (generation.mark isAvailable).Holds stage := by
  cases stage with
  | biosCount | filterIndex => exact h
  | sortedList => exact Option.isSome_map.trans h
  | keys field =>
      obtain ⟨entries, stored, filled⟩ := h
      refine ⟨entries.map (Entry.mark isAvailable), by simp [mark, stored], ?_⟩
      intro entry member
      obtain ⟨old, oldMember, rfl⟩ := List.mem_map.1 member
      exact filled old oldMember

theorem InOrder.mark (inOrder : generation.InOrder) : (generation.mark isAvailable).InOrder :=
  ⟨inOrder.published, fun stage member => holds_mark isAvailable (inOrder.backed stage member)⟩

end Generation

theorem Build.OnTrack.mark {build : Build} {generation : Generation}
    (onTrack : build.OnTrack generation) (isAvailable : Entry → Bool) :
    build.OnTrack (generation.mark isAvailable) where
  published := onTrack.published
  prepared := by
    obtain ⟨held, holds, prepared⟩ := onTrack.prepared
    exact ⟨held, fun stage member => Generation.holds_mark isAvailable (holds stage member), prepared⟩

namespace Cache

/-- What becomes of the lists that were handed out: their entries stay the same, apart from their search
keys and what they are told. -/
structure Keeps (before after : Cache) : Prop where
  current_le : before.current ≤ after.current
  lists : ∀ number list, (before.generation number).sorted = some list →
    ∃ later, (after.generation number).sorted = some later ∧
      later.map Entry.identity = list.map Entry.identity

namespace Keeps

theorem refl (cache : Cache) : cache.Keeps cache := ⟨le_rfl, fun _ list h => ⟨list, h, rfl⟩⟩

theorem trans {a b c : Cache} (first : a.Keeps b) (second : b.Keeps c) : a.Keeps c where
  current_le := first.current_le.trans second.current_le
  lists number list h := by
    obtain ⟨between, hBetween, same⟩ := first.lists number list h
    obtain ⟨later, hLater, again⟩ := second.lists number between hBetween
    exact ⟨later, hLater, again.trans same⟩

/-- An entry of a list that was handed out still stands at its position. -/
theorem getElem?_entries {before after : Cache} (keeps : before.Keeps after) {number position : Nat}
    {entry : Entry} (here : (before.entries number)[position]? = some entry) :
    ∃ later, (after.entries number)[position]? = some later ∧ later.identity = entry.identity := by
  cases stored : (before.generation number).sorted with
  | none => simp [entries, stored] at here
  | some list =>
      obtain ⟨later, hlater, same⟩ := keeps.lists number list stored
      simp only [entries, stored, Option.getD_some] at here
      have identity := congrArg (·[position]?) same
      simp only [List.getElem?_map, here, Option.map_some] at identity
      simpa [entries, hlater] using Option.map_eq_some_iff.1 identity

end Keeps

/-- A generation that grows keeps the entries of its list, and the others are as they were. -/
theorem Later.keeps {before after : Cache} (later : before.Later after) : before.Keeps after where
  current_le := later.current_le
  lists number list h := by
    obtain old | rfl | beyond := Nat.lt_trichotomy number before.current
    · exact ⟨list, by rw [later.older number old, h], rfl⟩
    · obtain ⟨fill, grows, filled⟩ := later.grows.sorted list h
      refine ⟨_, filled, ?_⟩
      rw [List.map_map]
      apply List.map_congr_left
      intro entry _
      simp only [Function.comp_apply, Entry.identity, (grows entry).record, (grows entry).index,
        (grows entry).isClone]
    · rw [generation_eq_empty (by simp only [current] at beyond; omega)] at h
      cases h

/-- Telling changes one generation at most, and that in what it tells only. -/
theorem generation_mark (cache : Cache) (number : Nat) (isAvailable : Entry → Bool) (other : Nat) :
    (cache.mark number isAvailable).generation other =
      if other = number then (cache.generation number).mark isAvailable
      else cache.generation other := by
  split
  · rename_i here
    subst here
    by_cases inside : other < cache.generations.length
    · exact generation_setGeneration_self _ inside
    · have beyond : cache.generations.length ≤ other := by omega
      rw [generation_eq_empty beyond, generation_eq_empty (by simpa [mark, setGeneration] using beyond)]
      rfl
  · rename_i elsewhere
    exact generation_setGeneration_of_ne _ _ _ elsewhere

@[simp] theorem current_mark (cache : Cache) (number : Nat) (isAvailable : Entry → Bool) :
    (cache.mark number isAvailable).current = cache.current :=
  current_setGeneration ..

variable {cache : Cache}

theorem Sound.mark (sound : cache.Sound) (number : Nat) (isAvailable : Entry → Bool) :
    (cache.mark number isAvailable).Sound where
  nonempty := by simpa [Cache.mark, setGeneration] using sound.nonempty
  inOrder generation member := by
    obtain old | rfl := List.mem_or_eq_of_mem_set member
    · exact sound.inOrder generation old
    · exact (sound.inOrder_generation number).mark isAvailable
  started_eq := sound.started_eq
  fresh ended := by
    rw [generation_mark, current_mark]
    split
    · rename_i here
      rw [← here, sound.fresh ended]
      rfl
    · exact sound.fresh ended
  onTrack build known := by
    obtain ⟨filled, onTrack⟩ := sound.onTrack build known
    rw [generation_mark, current_mark]
    refine ⟨filled, ?_⟩
    split
    · rename_i here
      rw [← here]
      exact onTrack.mark isAvailable
    · exact onTrack

/-- No use breaks the invariant. -/
theorem Sound.use (sound : cache.Sound) (use : Use) : (cache.use use).Sound := by
  cases use with
  | move move => exact sound.move move
  | mark number isAvailable => exact sound.mark number isAvailable

/-- No use takes a list away that was handed out. -/
theorem Sound.keeps_use (sound : cache.Sound) (use : Use) : cache.Keeps (cache.use use) := by
  cases use with
  | move move => exact (sound.later_move move).keeps
  | mark number isAvailable =>
      refine ⟨(current_mark ..).ge, ?_⟩
      intro other list stored
      change ∃ later, ((cache.mark number isAvailable).generation other).sorted = some later ∧ _
      rw [generation_mark]
      split
      · rename_i here
        subst here
        exact ⟨list.map (Entry.mark isAvailable), by simp [Generation.mark, stored], by simp⟩
      · exact ⟨list, stored, rfl⟩

/-- What becomes of a cache in use fits together, whatever its source answers. -/
theorem InUse.sound {source : Source} (inUse : InUse source cache) : cache.Sound := by
  induction inUse with
  | new => exact sound_new source
  | use use _ ih => exact ih.use use

end Cache

/-- A generation whose entries have been told nothing. -/
def Generation.unmarked (generation : Generation) : Generation := generation.mark fun _ => false

/-- A cache whose entries have been told nothing. -/
def Cache.unmarked (cache : Cache) : Cache :=
  { cache with generations := cache.generations.map Generation.unmarked }

/-- An entry that has been told nothing stays as it is. -/
theorem Entry.mark_of_not_available {entry : Entry} (h : entry.available = false) :
    entry.mark (fun _ => false) = entry := by
  cases entry
  cases h
  rfl

theorem Generation.unmarked_mark (generation : Generation) (isAvailable : Entry → Bool) :
    (generation.mark isAvailable).unmarked = generation.unmarked := by
  simp only [unmarked, mark, Option.map_map]
  congr 1
  refine congrArg (Option.map · _) (funext fun entries => ?_)
  simp only [Function.comp_apply, List.map_map]
  rfl

theorem Generation.unmarked_publish (generation : Generation) (stage : Stage) :
    (generation.publish stage).unmarked = generation.unmarked.publish stage := by
  have published : generation.unmarked.published = generation.published := rfl
  unfold publish
  rw [published]
  split <;> rfl

theorem Entry.setKey_unmarked (entry : Entry) (field : SearchField) (key : String) :
    (entry.mark fun _ => false).setKey field key = (entry.setKey field key).mark fun _ => false := by
  have keys : (entry.mark fun _ => false).keys = entry.keys := rfl
  unfold setKey
  rw [keys]
  split <;> rfl

/-- A task does the same to a generation whose entries have been told something. -/
theorem Build.perform_unmarked (source : Source) (tree : FileTree) (task : Task) (build : Build)
    (generation : Generation) (requests : Nat)
    (bare : task = .storeSorted → ∀ entry ∈ build.draft.entries, entry.available = false) :
    build.perform source tree task generation.unmarked requests =
      (build.perform source tree task generation requests).map fun result =>
        { result with generation := result.generation.unmarked } := by
  cases task with
  | locateTitles | openTitles | storeBiosCount | applyTitles | storeFilter => rfl
  | askPlaceholder | dropPlaceholder =>
      simp only [perform, bind, Except.bind]
      cases source.placeholder requests <;> rfl
  | addRecord index =>
      simp only [perform, bind, Except.bind]
      cases build.draft.addRecord source build.placeholder (!build.isTitled) index <;> rfl
  | storeSorted =>
      have same : (sortEntries build.draft.entries).map (Entry.mark fun _ => false) =
          sortEntries build.draft.entries := by
        refine (List.map_congr_left fun entry member => ?_).trans (List.map_id _)
        exact Entry.mark_of_not_available (bare rfl entry ((sortEntries_perm _).mem_iff.1 member))
      cases stored : generation.sorted <;>
        simp [perform, Except.map, Generation.unmarked, Generation.mark, stored, same]
  | storeKeys field =>
      have same : ∀ entry : Entry,
          (entry.mark fun _ => false).setKey field
              ((entry.mark fun _ => false).keyFor build.isTitled field) =
            (entry.setKey field (entry.keyFor build.isTitled field)).mark fun _ => false :=
        fun entry => entry.setKey_unmarked field _
      cases stored : generation.sorted <;>
        simp [perform, Except.map, Generation.unmarked, Generation.mark, stored, same]
  | publish stage =>
      simp only [perform, Except.map, Generation.unmarked_publish]
  | reportComplete =>
      cases stored : generation.sorted <;>
        simp [perform, Except.map, Generation.unmarked, Generation.mark, stored]

namespace Cache

variable {catalog : Catalog} {cache : Cache}

@[simp] theorem current_unmarked (cache : Cache) : cache.unmarked.current = cache.current := by
  simp [unmarked, current]

@[simp] theorem generation_unmarked (cache : Cache) (number : Nat) :
    cache.unmarked.generation number = (cache.generation number).unmarked := by
  simp only [unmarked, generation, List.getElem?_map]
  cases cache.generations[number]? <;> rfl

theorem unmarked_mark (cache : Cache) (number : Nat) (isAvailable : Entry → Bool) :
    (cache.mark number isAvailable).unmarked = cache.unmarked := by
  have generations : (cache.generations.set number ((cache.generation number).mark isAvailable)).map
      Generation.unmarked = cache.generations.map Generation.unmarked := by
    cases here : cache.generations[number]? with
    | none => rw [List.set_eq_of_length_le (List.getElem?_eq_none_iff.1 here)]
    | some generation =>
        refine map_set_of_eq here ?_
        rw [Generation.unmarked_mark, Cache.generation, here]
        rfl
  simp only [unmarked, mark, setGeneration, generations]

theorem unmarked_beginBuild (cache : Cache) (searchPath selector : String) :
    (cache.beginBuild searchPath selector).1.unmarked =
      (cache.unmarked.beginBuild searchPath selector).1 := by
  have current := cache.current_unmarked
  have started : cache.unmarked.started = cache.started := rfl
  simp only [beginBuild, started, current]
  split <;> rfl

/-- The next task of a build does not look at what entries were told. -/
theorem unmarked_afterStep (tree : FileTree)
    (bare : ∀ build, cache.build = some build → build.todo.head? = some .storeSorted →
      ∀ entry ∈ build.draft.entries, entry.available = false) :
    (cache.afterStep tree).unmarked = cache.unmarked.afterStep tree := by
  have known : cache.unmarked.build = cache.build := rfl
  cases hbuild : cache.build with
  | none =>
      rw [hbuild] at known
      simp [afterStep, step, hbuild, known]
  | some build =>
      rw [hbuild] at known
      cases htodo : build.todo with
      | nil => simp [afterStep, step, hbuild, known, htodo]
      | cons task todo =>
          have same := ({ build with todo := todo } : Build).perform_unmarked cache.source tree task
            (cache.generation build.generation) cache.placeholderRequests
            (fun sorting => bare build hbuild (by rw [htodo, sorting]; rfl))
          rw [← generation_unmarked] at same
          have source : cache.unmarked.source = cache.source := rfl
          have requests : cache.unmarked.placeholderRequests = cache.placeholderRequests := rfl
          simp only [afterStep, step, hbuild, known, htodo, source, requests, same]
          cases ({ build with todo := todo } : Build).perform cache.source tree task
              (cache.generation build.generation) cache.placeholderRequests with
          | error message => rfl
          | ok result => simp only [Except.map, unmarked, setGeneration, List.map_set]

/-- The list that a build is about to sort has been told nothing. -/
theorem Faithful.bare (faithful : cache.unmarked.Faithful catalog) (ordered : catalog.Ordered) :
    ∀ build, cache.build = some build → build.todo.head? = some .storeSorted →
      ∀ entry ∈ build.draft.entries, entry.available = false := by
  intro build known sorting entry member
  obtain ⟨titles, entries⟩ := (faithful.stands build known).entries_eq sorting
  rw [entries] at member
  exact (catalog.fresh_workingList ordered titles entry member).available

theorem Faithful.unmarked_iterate (faithful : cache.unmarked.Faithful catalog)
    (ordered : catalog.Ordered) (tree : FileTree) (count : Nat) :
    ((Cache.afterStep tree)^[count] cache).unmarked = (Cache.afterStep tree)^[count] cache.unmarked := by
  induction count with
  | zero => rfl
  | succ count ih =>
      have before := faithful.iterate tree count
      rw [← ih] at before
      rw [Function.iterate_succ_apply', Function.iterate_succ_apply', ← ih]
      exact unmarked_afterStep tree (before.bare ordered)

theorem Faithful.unmarked_proceed (faithful : cache.unmarked.Faithful catalog)
    (ordered : catalog.Ordered) (tree : FileTree) :
    (cache.proceed tree none).1.unmarked = (cache.unmarked.proceed tree none).1 := by
  rw [Cache.proceed, Cache.proceed, advance_eq_iterate, advance_eq_iterate]
  exact faithful.unmarked_iterate ordered tree cache.remaining

theorem Faithful.unmarked_reset (faithful : cache.unmarked.Faithful catalog)
    (ordered : catalog.Ordered) (tree : FileTree) :
    (cache.reset tree).1.unmarked = (cache.unmarked.reset tree).1 := by
  simp only [Cache.reset]
  rw [← faithful.unmarked_proceed ordered tree]
  simp only [unmarked, List.map_append]
  rfl

/-- Over a catalog everything but what entries were told is made from the catalog. -/
theorem InUse.faithful (inUse : InUse catalog.source cache) (ordered : catalog.Ordered) :
    cache.unmarked.Faithful catalog := by
  induction inUse with
  | new => exact faithful_new catalog
  | use use _ ih =>
      cases use with
      | mark number isAvailable =>
          rw [Cache.use, unmarked_mark]
          exact ih
      | move move =>
          cases move with
          | beginBuild searchPath selector =>
              rw [Cache.use, Cache.move, unmarked_beginBuild]
              exact ih.beginBuild searchPath selector
          | step tree =>
              have same := unmarked_afterStep tree (ih.bare ordered)
              have after := ih.afterStep tree
              rw [← same] at after
              exact after
          | reset tree =>
              rw [Cache.use, Cache.move, ih.unmarked_reset ordered]
              exact ih.reset tree

end Cache

end SystemMenu
