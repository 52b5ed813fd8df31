import SystemMenu.Proofs.Staging.CatalogBuild
import SystemMenu.Proofs.Staging.Ledger

/-!
# Histories of the shared list of a catalog

Over a catalog no build fails. Whatever callers did and whatever the files were, every generation holds
parts of what the catalog and one title file make, and a build that is let go on publishes everything.

## Main statements

* `Cache.Faithful.move`: no move breaks the invariant.
* `Cache.Reachable.faithful`: it holds of everything that can become of a cache over a catalog.
* `Cache.Faithful.offers_all`: a build that was started ends with all stages published.
-/

namespace SystemMenu

theorem Build.Stands.exists_madeFrom {catalog : Catalog} {build : Build} {generation : Generation}
    (stands : build.Stands catalog generation) : ∃ titles, generation.MadeFrom catalog titles := by
  cases stands with
  | starting | adding | counted | announced | titled =>
      rename_i bare
      exact ⟨none, bare.madeFrom none⟩
  | finishing titles _ _ _ made => exact ⟨titles, made⟩

/-- The list that a build is about to sort is the working list of the catalog. -/
theorem Build.Stands.entries_eq {catalog : Catalog} {build : Build} {generation : Generation}
    (stands : build.Stands catalog generation) (sorting : build.todo.head? = some .storeSorted) :
    ∃ titles, build.draft.entries = catalog.workingList titles := by
  cases stands with
  | starting done early todo =>
      rw [todo, Task.schedule_eq] at sorting
      obtain rfl | rfl | rfl : done = 0 ∨ done = 1 ∨ done = 2 := by omega
      all_goals cases sorting
  | adding index inside todo =>
      rw [todo] at sorting
      obtain before | rfl := Nat.lt_or_eq_of_le inside
      · rw [Task.adding_of_lt before] at sorting
        cases sorting
      · rw [Task.adding_self] at sorting
        cases sorting
  | counted todo | announced todo | titled _ todo =>
      rw [todo] at sorting
      cases sorting
  | finishing titles todo isTitled draft => exact ⟨titles, by rw [draft]⟩

namespace Cache

/-- A cache over a catalog, with a build that stands at some point of its schedule. -/
structure Faithful (catalog : Catalog) (cache : Cache) : Prop where
  sound : cache.Sound
  source : cache.source = catalog.source
  stands : ∀ build, cache.build = some build →
    build.Stands catalog (cache.generation cache.current)
  complete : ∀ build, cache.build = some build →
    (cache.generation cache.current).published ++ Task.pending build.todo = Stage.publicationOrder
  made : ∀ number, ∃ titles, (cache.generation number).MadeFrom catalog titles

variable {catalog : Catalog} {cache : Cache}

theorem faithful_new (catalog : Catalog) : (new catalog.source).Faithful catalog where
  sound := sound_new _
  source := rfl
  stands := by simp [new]
  complete := by simp [new]
  made number := by
    have empty : (new catalog.source).generation number = {} := by
      cases number <;> rfl
    rw [empty]
    exact ⟨none, (Generation.early_empty catalog).madeFrom none⟩

namespace Faithful

theorem beginBuild (faithful : cache.Faithful catalog) (searchPath selector : String) :
    (cache.beginBuild searchPath selector).1.Faithful catalog := by
  have sound := faithful.sound.beginBuild searchPath selector
  simp only [Cache.beginBuild] at sound ⊢
  split
  · exact faithful
  · rename_i idle
    rw [if_neg idle] at sound
    have none_running : cache.build = none := by simpa [faithful.sound.started_eq] using idle
    have fresh := faithful.sound.fresh none_running
    refine ⟨sound, faithful.source, ?_, ?_, faithful.made⟩
    · intro build h
      cases h
      change Build.Stands catalog _ (cache.generation cache.current)
      rw [fresh, faithful.source]
      exact .start catalog _ searchPath selector
    · intro build h
      cases h
      change (cache.generation cache.current).published ++ _ = _
      rw [fresh]
      exact Task.pending_schedule _

/-- Over a catalog the next task does not fail, and leads to the next point of the schedule. -/
theorem step_cases (faithful : cache.Faithful catalog) (tree : FileTree) :
    cache.isBuilding = false ∧ cache.afterStep tree = cache ∨
    ∃ build task todo requests, ∃ result : TaskResult, cache.build = some build ∧
      build.todo = task :: todo ∧
      result.generation = build.filled (cache.generation cache.current) task ∧
      result.build.todo = todo ∧ result.build.Stands catalog result.generation ∧
      cache.afterStep tree =
        { cache.setGeneration cache.current result.generation with
            build := some result.build
            placeholderRequests := requests } := by
  obtain idle | ⟨build, task, todo, requests, hbuild, htodo, outcome⟩ := Cache.step_cases tree cache
  · exact .inl idle
  · obtain ⟨number, -⟩ := faithful.sound.onTrack build hbuild
    have stands := faithful.stands build hbuild
    rw [← number] at stands
    obtain ⟨result, expected, next⟩ := stands.advances htodo tree cache.placeholderRequests
    obtain ⟨message, failed, -⟩ | ⟨found, ok, h⟩ := outcome
    · rw [faithful.source, expected] at failed
      cases failed
    · rw [faithful.source, expected] at ok
      obtain rfl : result = found := Except.ok.inj ok
      obtain ⟨filled, rest, -⟩ := Build.perform_eq_ok expected
      change _ = build.filled _ task at filled
      rw [number] at filled h
      exact .inr ⟨build, task, todo, requests, result, hbuild, htodo, filled, rest, next, h⟩

/-- A task of the build keeps the invariant. -/
theorem afterStep (faithful : cache.Faithful catalog) (tree : FileTree) :
    (cache.afterStep tree).Faithful catalog := by
  have sound := faithful.sound.afterStep tree
  obtain ⟨-, same⟩ | ⟨build, task, todo, _, result, hbuild, htodo, filled, rest, stands, h⟩ :=
    faithful.step_cases tree
  · rwa [same]
  · have current : (cache.setGeneration cache.current result.generation).generation cache.current =
        result.generation := generation_setGeneration_self _ faithful.sound.current_lt
    rw [h] at sound ⊢
    refine ⟨sound, faithful.source, ?_, ?_, ?_⟩
    · intro after hafter
      cases hafter
      change Build.Stands catalog _ ((cache.setGeneration cache.current result.generation).generation
        (cache.setGeneration cache.current result.generation).current)
      rw [current_setGeneration, current]
      exact stands
    · intro after hafter
      cases hafter
      change ((cache.setGeneration cache.current result.generation).generation
        (cache.setGeneration cache.current result.generation).current).published ++ _ = _
      rw [current_setGeneration, current, filled, rest]
      exact (Build.published_filled htodo (faithful.sound.onTrack build hbuild).2).trans
        (faithful.complete build hbuild)
    · -- The build fills the current generation; older ones are as they were.
      intro other
      change ∃ titles, ((cache.setGeneration cache.current result.generation).generation
        other).MadeFrom catalog titles
      by_cases here : other = cache.current
      · rw [here, current]
        exact stands.exists_madeFrom
      · rw [generation_setGeneration_of_ne _ _ _ here]
        exact faithful.made other

theorem iterate (faithful : cache.Faithful catalog) (tree : FileTree) (count : Nat) :
    ((Cache.afterStep tree)^[count] cache).Faithful catalog := by
  induction count with
  | zero => exact faithful
  | succ count ih =>
      rw [Function.iterate_succ_apply']
      exact ih.afterStep tree

theorem proceed (faithful : cache.Faithful catalog) (tree : FileTree) :
    (cache.proceed tree none).1.Faithful catalog := by
  rw [Cache.proceed, advance_eq_iterate]
  exact faithful.iterate tree _

theorem reset (faithful : cache.Faithful catalog) (tree : FileTree) :
    (cache.reset tree).1.Faithful catalog where
  sound := faithful.sound.reset tree
  source := (faithful.proceed tree).source
  stands := by simp [Cache.reset]
  complete := by simp [Cache.reset]
  made number := by
    rw [generation_reset]
    exact (faithful.proceed tree).made number

/-- No move breaks the invariant. -/
theorem move (faithful : cache.Faithful catalog) (move : Move) :
    (cache.move move).Faithful catalog := by
  cases move with
  | beginBuild searchPath selector => exact faithful.beginBuild searchPath selector
  | step tree => exact faithful.afterStep tree
  | reset tree => exact faithful.reset tree

/-- Steps take tasks off those that are left. -/
theorem todo_iterate (faithful : cache.Faithful catalog) {build : Build}
    (known : cache.build = some build) (tree : FileTree) (count : Nat) :
    ∃ next, ((Cache.afterStep tree)^[count] cache).build = some next ∧
      next.todo = build.todo.drop count := by
  induction count with
  | zero => exact ⟨build, known, rfl⟩
  | succ count ih =>
      obtain ⟨before, hbefore, left⟩ := ih
      rw [Function.iterate_succ_apply', ← List.tail_drop, ← left]
      obtain ⟨idle, same⟩ | ⟨running, task, todo, _, result, hbuild, htodo, -, rest, -, h⟩ :=
        (faithful.iterate tree count).step_cases tree
      · have ended : before.todo = [] := by simpa [isBuilding, Build.isRunning, hbefore] using idle
        exact ⟨before, by rw [same, hbefore], by rw [ended]; rfl⟩
      · obtain rfl : running = before := Option.some.inj (hbuild.symm.trans hbefore)
        refine ⟨result.build, by rw [h], ?_⟩
        rw [rest, htodo]
        rfl

/-- A build that was started publishes everything if it is let go on. -/
theorem offers_all (faithful : cache.Faithful catalog) (started : cache.started = true)
    (tree : FileTree) : (cache.proceed tree none).1.offers Stage.all = true := by
  have ended := faithful.proceed tree
  have some_build : (cache.proceed tree none).1.build.isSome = true := by
    rw [(proceed_keeps tree cache).2, ← faithful.sound.started_eq, started]
  obtain ⟨build, hbuild⟩ := Option.isSome_iff_exists.1 some_build
  have done : build.todo = [] := by
    simpa [isBuilding, Build.isRunning, hbuild] using isBuilding_proceed tree cache
  have published := ended.complete build hbuild
  rw [done, Task.pending, List.filterMap_nil, List.append_nil] at published
  rw [Cache.offers, Generation.offers, published]
  decide

end Faithful

theorem Reachable.iterate {source : Source} (reachable : Reachable source cache) (tree : FileTree)
    (count : Nat) : Reachable source ((Cache.afterStep tree)^[count] cache) := by
  induction count with
  | zero => exact reachable
  | succ count ih =>
      rw [Function.iterate_succ_apply']
      exact .move (.step tree) ih

theorem Reachable.proceed {source : Source} (reachable : Reachable source cache) (tree : FileTree) :
    Reachable source (cache.proceed tree none).1 := by
  rw [Cache.proceed, advance_eq_iterate]
  exact reachable.iterate tree _

/-- Whatever becomes of a new cache over a catalog is made from that catalog. -/
theorem Reachable.faithful (reachable : Reachable catalog.source cache) :
    cache.Faithful catalog := by
  induction reachable with
  | new => exact faithful_new catalog
  | move move _ ih => exact ih.move move

/-- The tasks before the sorting: three, one for each record, and four. -/
theorem head?_drop_schedule (size : Nat) :
    ((Task.schedule size).drop (size + 7)).head? = some .storeSorted := by
  have records : ((List.range' 0 size).map Task.addRecord).length = size := by simp
  rw [Task.schedule_eq, List.drop_succ_cons, List.drop_succ_cons, List.drop_succ_cons, Task.adding,
    Nat.sub_zero, ← List.drop_drop, List.drop_left' records]
  rfl

/-- Over every catalog, and whatever the files are, a build comes to sorting its list. -/
theorem exists_sorting (catalog : Catalog) (searchPath selector : String) (tree : FileTree) :
    ∃ cache build, Reachable catalog.source cache ∧ cache.build = some build ∧
      build.todo.head? = some .storeSorted := by
  let begun := ((new catalog.source).beginBuild searchPath selector).1
  have reachable : Reachable catalog.source begun := .move (.beginBuild searchPath selector) .new
  obtain ⟨build, running, left⟩ :=
    reachable.faithful.todo_iterate rfl tree (catalog.records.length + 7)
  refine ⟨_, build, reachable.iterate tree _, running, ?_⟩
  rw [left]
  exact head?_drop_schedule _

/-- Over every catalog, and whatever the files are, a build comes to publishing everything. -/
theorem exists_published (catalog : Catalog) (searchPath selector : String) (tree : FileTree) :
    ∃ cache, Reachable catalog.source cache ∧ cache.offers Stage.all = true := by
  have reachable : Reachable catalog.source
      ((new catalog.source).beginBuild searchPath selector).1 :=
    .move (.beginBuild searchPath selector) .new
  exact ⟨_, reachable.proceed tree, reachable.faithful.offers_all rfl tree⟩

end Cache

end SystemMenu
