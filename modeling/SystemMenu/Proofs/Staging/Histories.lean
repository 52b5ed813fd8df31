import Mathlib.Order.Iterate
import SystemMenu.Proofs.Staging.Generations
import SystemMenu.Staging.History

/-!
# What histories of the shared list keep

One invariant, `Cache.Sound`, ties together the flag that a build was started, the build, the generation
that it fills and the stages published there. Every move keeps it, whatever the source answers; in
particular a task may fail at any time, which ends the build.

## Main statements

* `Cache.step_cases`: what the next task of a build can do.
* `Cache.isBuilding_proceed`: a build that is let go on comes to its end.
* `Cache.Sound.move`: no move breaks the invariant.
* `Cache.Sound.later_move`: a move keeps older generations, and the current one only grows.
-/

namespace SystemMenu

/-- What a build still has to publish continues what is published, and is provided in time. -/
structure Build.OnTrack (build : Build) (generation : Generation) : Prop where
  published : generation.published ++ Task.pending build.todo <+: Stage.publicationOrder
  prepared : ∃ held, (∀ stage ∈ held, generation.Holds stage) ∧
    Task.isPrepared held build.todo = true

namespace Build

theorem onTrack_start (number size : Nat) (searchPath selector : String) :
    (start number size searchPath selector).OnTrack {} where
  published := by simp [start, Task.pending_schedule]
  prepared := ⟨[], by simp, Task.isPrepared_schedule size⟩

/-- A build without tasks is on track as soon as its generation is in order. -/
theorem onTrack_of_todo_eq_nil {build : Build} {generation : Generation} (ended : build.todo = [])
    (inOrder : generation.InOrder) : build.OnTrack generation where
  published := by simpa [ended, Task.pending] using inOrder.published
  prepared := ⟨[], by simp, by rw [ended]; rfl⟩

/-- A task moves a stage from those to be published to those that are, or moves none. -/
theorem published_filled {build : Build} {generation : Generation} {task : Task} {todo : List Task}
    (h : build.todo = task :: todo) (onTrack : build.OnTrack generation) :
    (build.filled generation task).published ++ Task.pending todo =
      generation.published ++ Task.pending build.todo := by
  cases task with
  | publish stage =>
      -- No stage occurs twice in the order of publication, so this one is new.
      have unpublished : stage ∉ generation.published := by
        have distinct : (generation.published ++ Task.pending build.todo).Nodup :=
          (show Stage.publicationOrder.Nodup by decide).sublist onTrack.published.sublist
        have comes : stage ∈ Task.pending build.todo := by simp [h, Task.pending, Task.stage?]
        exact fun member => (List.nodup_append.1 distinct).2.2 stage member stage comes rfl
      simp [filled, Generation.publish, unpublished, h, Task.pending, Task.stage?]
  | locateTitles | openTitles | askPlaceholder | addRecord | storeBiosCount | applyTitles
  | dropPlaceholder | storeSorted | storeFilter | storeKeys | reportComplete =>
      rw [h]
      rfl

/-- The next task of a build that is on track leaves the generation in order. -/
theorem OnTrack.inOrder_filled {build : Build} {generation : Generation} {task : Task}
    {todo : List Task} (onTrack : build.OnTrack generation) (inOrder : generation.InOrder)
    (h : build.todo = task :: todo) : (build.filled generation task).InOrder where
  published := by
    refine List.IsPrefix.trans (List.prefix_append _ (Task.pending todo)) ?_
    rw [published_filled h onTrack]
    exact onTrack.published
  backed stage member := by
    by_cases old : stage ∈ generation.published
    · exact (build.grows_filled generation task).holds (inOrder.backed stage old)
    · -- Only the task that publishes this stage can have brought it.
      obtain ⟨held, holds, prepared⟩ := onTrack.prepared
      cases task with
      | publish new =>
          simp only [h, Task.isPrepared, Task.stage?, Option.all_some, Bool.and_eq_true,
            List.contains_iff_mem] at prepared
          simp only [filled, Generation.publish] at member
          split at member
          · exact absurd member old
          · obtain rfl : stage = new := by simpa [old] using member
            exact (build.grows_filled generation _).holds (holds stage prepared.1)
      | locateTitles | openTitles | askPlaceholder | addRecord | storeBiosCount | applyTitles
      | dropPlaceholder | storeSorted | storeFilter | storeKeys | reportComplete =>
          exact absurd member old

/-- A build that is on track is so after its next task. -/
theorem OnTrack.next {build next : Build} {generation : Generation} {task : Task}
    {todo : List Task} (onTrack : build.OnTrack generation) (h : build.todo = task :: todo)
    (rest : next.todo = todo) : next.OnTrack (build.filled generation task) where
  published := by
    rw [rest, published_filled h onTrack]
    exact onTrack.published
  prepared := by
    obtain ⟨held, holds, prepared⟩ := onTrack.prepared
    simp only [h, Task.isPrepared, Bool.and_eq_true] at prepared
    exact ⟨task.provide held, build.holds_filled holds task, by rw [rest]; exact prepared.2⟩

end Build

namespace Cache

/-- The cache when its source answers in another way. -/
def answering (cache : Cache) (source : Source) : Cache := { cache with source := source }

/-- The cache with its next task done. -/
def afterStep (tree : FileTree) (cache : Cache) : Cache := (cache.step tree).1

/-- What the next task of a build can do: nothing if there is none, otherwise it fails and the build
ends, or it fills the generation of the build. -/
theorem step_cases (tree : FileTree) (cache : Cache) :
    cache.isBuilding = false ∧ cache.afterStep tree = cache ∨
    ∃ build task todo requests, cache.build = some build ∧ build.todo = task :: todo ∧
      ((∃ message, ({ build with todo := todo } : Build).perform cache.source tree task
            (cache.generation build.generation) cache.placeholderRequests = .error message ∧
          cache.afterStep tree =
            { cache with
                build := some { build with todo := [], failure := some message }
                placeholderRequests := requests }) ∨
        ∃ result, ({ build with todo := todo } : Build).perform cache.source tree task
            (cache.generation build.generation) cache.placeholderRequests = .ok result ∧
          cache.afterStep tree =
            { cache.setGeneration build.generation result.generation with
                build := some result.build
                placeholderRequests := requests }) := by
  cases hbuild : cache.build with
  | none => exact .inl (by simp [isBuilding, afterStep, step, hbuild])
  | some build =>
      cases htodo : build.todo with
      | nil => exact .inl (by simp [isBuilding, Build.isRunning, afterStep, step, hbuild, htodo])
      | cons task todo =>
          refine .inr ⟨build, task, todo,
            cache.placeholderRequests + if Build.asksPlaceholder task then 1 else 0, rfl, htodo, ?_⟩
          cases hresult : ({ build with todo := todo } : Build).perform cache.source tree task
              (cache.generation build.generation) cache.placeholderRequests with
          | error message =>
              exact .inl ⟨message, rfl, by simp only [afterStep, step, hbuild, htodo, hresult]⟩
          | ok result =>
              exact .inr ⟨result, rfl, by simp only [afterStep, step, hbuild, htodo, hresult]⟩

/-- Letting a build go on without a hold is doing its tasks one after the other. -/
theorem advance_eq_iterate (tree : FileTree) (count : Nat) (cache : Cache) :
    (cache.advance tree none count).1 = (afterStep tree)^[count] cache := by
  induction count generalizing cache with
  | zero => rfl
  | succ count ih =>
      simp only [advance]
      split
      · rename_i ended
        have still : cache.afterStep tree = cache := by
          obtain ⟨-, same⟩ | ⟨build, task, todo, _, hbuild, htodo, -⟩ := step_cases tree cache
          · exact same
          · simp [nextTask?, hbuild, htodo] at ended
        exact (Function.iterate_fixed still (count + 1)).symm
      · simpa [afterStep] using ih (cache.step tree).1

theorem remaining_afterStep_le (tree : FileTree) (cache : Cache) :
    (cache.afterStep tree).remaining ≤ cache.remaining - 1 := by
  obtain ⟨idle, same⟩ | ⟨build, task, todo, _, hbuild, htodo, ⟨_, -, h⟩ | ⟨result, ok, h⟩⟩ :=
    step_cases tree cache
  · rw [same]
    cases hbuild : cache.build with
    | none => simp [remaining, hbuild]
    | some build =>
        have ended : build.todo = [] := by simpa [isBuilding, Build.isRunning, hbuild] using idle
        simp [remaining, hbuild, ended]
  · simp [h, remaining]
  · simp [h, remaining, hbuild, htodo, (Build.perform_eq_ok ok).2.1]

theorem remaining_iterate_le (tree : FileTree) (count : Nat) (cache : Cache) :
    ((afterStep tree)^[count] cache).remaining ≤ cache.remaining - count := by
  induction count with
  | zero => simp
  | succ count ih =>
      rw [Function.iterate_succ_apply']
      have := remaining_afterStep_le tree ((afterStep tree)^[count] cache)
      omega

/-- A build that is let go on comes to its end. -/
theorem isBuilding_proceed (tree : FileTree) (cache : Cache) :
    (cache.proceed tree none).1.isBuilding = false := by
  have ended := remaining_iterate_le tree cache.remaining cache
  rw [← advance_eq_iterate] at ended
  change (cache.proceed tree none).1.remaining ≤ _ at ended
  cases hbuild : (cache.proceed tree none).1.build with
  | none => simp [isBuilding, hbuild]
  | some build => simpa [isBuilding, Build.isRunning, remaining, hbuild] using ended

/-- The flag, the build, the generation that it fills and the published stages fit together. -/
structure Sound (cache : Cache) : Prop where
  nonempty : cache.generations ≠ []
  inOrder : ∀ generation ∈ cache.generations, generation.InOrder
  started_eq : cache.started = cache.build.isSome
  fresh : cache.build = none → cache.generation cache.current = {}
  onTrack : ∀ build, cache.build = some build →
    build.generation = cache.current ∧ build.OnTrack (cache.generation cache.current)

/-- What becomes of the generations: older ones are as they were, and the current one grows. -/
structure Later (before after : Cache) : Prop where
  current_le : before.current ≤ after.current
  older : ∀ number, number < before.current → after.generation number = before.generation number
  grows : (before.generation before.current).Grows (after.generation before.current)

namespace Later

theorem refl (cache : Cache) : cache.Later cache := ⟨le_rfl, fun _ _ => rfl, .refl _⟩

theorem trans {a b c : Cache} (first : a.Later b) (second : b.Later c) : a.Later c where
  current_le := first.current_le.trans second.current_le
  older number h :=
    (second.older number (h.trans_le first.current_le)).trans (first.older number h)
  grows := by
    obtain same | before := first.current_le.eq_or_lt
    · exact first.grows.trans (same ▸ second.grows)
    · rw [second.older _ before]
      exact first.grows

/-- What a source answers makes no difference to what was there before. -/
theorem of_answering {before after : Cache} {source : Source}
    (h : (before.answering source).Later after) : before.Later after :=
  ⟨h.current_le, h.older, h.grows⟩

end Later

section Generations

variable (cache : Cache) (number : Nat) (generation : Generation)

@[simp] theorem current_setGeneration :
    (cache.setGeneration number generation).current = cache.current := by
  simp [setGeneration, current]

theorem generation_setGeneration_of_ne {other : Nat} (h : other ≠ number) :
    (cache.setGeneration number generation).generation other = cache.generation other := by
  simp [setGeneration, Cache.generation, List.getElem?_set_ne (Ne.symm h)]

end Generations

variable {cache : Cache}

theorem generation_setGeneration_self {number : Nat} (generation : Generation)
    (h : number < cache.generations.length) :
    (cache.setGeneration number generation).generation number = generation := by
  simp [setGeneration, Cache.generation, h]

theorem generation_eq_empty {number : Nat} (h : cache.generations.length ≤ number) :
    cache.generation number = {} := by
  simp [Cache.generation, List.getElem?_eq_none h]

theorem Sound.current_lt (sound : cache.Sound) : cache.current < cache.generations.length := by
  have := List.length_pos_iff.2 sound.nonempty
  simp only [current]
  omega

/-- Every generation is in order, also one that does not exist. -/
theorem Sound.inOrder_generation (sound : cache.Sound) (number : Nat) :
    (cache.generation number).InOrder := by
  by_cases h : number < cache.generations.length
  · have member := List.getElem_mem h
    simpa [Cache.generation, h] using sound.inOrder _ member
  · rw [generation_eq_empty (by omega)]
    exact Generation.inOrder_empty

theorem sound_new (source : Source) : (new source).Sound where
  nonempty := by simp [new]
  inOrder := by simp [new, Generation.inOrder_empty]
  started_eq := rfl
  fresh _ := rfl
  onTrack := by simp [new]

/-- The invariant does not depend on what the source answers. -/
theorem Sound.answering (sound : cache.Sound) (source : Source) :
    (cache.answering source).Sound :=
  ⟨sound.nonempty, sound.inOrder, sound.started_eq, sound.fresh, sound.onTrack⟩

theorem Sound.beginBuild (sound : cache.Sound) (searchPath selector : String) :
    (cache.beginBuild searchPath selector).1.Sound := by
  simp only [Cache.beginBuild]
  split
  · exact sound
  · rename_i idle
    have none_running : cache.build = none := by simpa [sound.started_eq] using idle
    refine ⟨sound.nonempty, sound.inOrder, rfl, by simp, ?_⟩
    intro build h
    cases h
    refine ⟨rfl, ?_⟩
    change Build.OnTrack _ (cache.generation cache.current)
    rw [sound.fresh none_running]
    exact Build.onTrack_start _ _ _ _

/-- The next task of a build keeps the invariant, whether it fails or not. -/
theorem Sound.afterStep (sound : cache.Sound) (tree : FileTree) :
    (cache.afterStep tree).Sound := by
  obtain ⟨-, same⟩ | ⟨build, task, todo, _, hbuild, htodo, ⟨_, -, h⟩ | ⟨result, ok, h⟩⟩ :=
    step_cases tree cache
  · rwa [same]
  · obtain ⟨number, -⟩ := sound.onTrack build hbuild
    rw [h]
    refine ⟨sound.nonempty, sound.inOrder, ?_, by simp, fun next hnext => ?_⟩
    · simp [sound.started_eq, hbuild]
    · cases hnext
      exact ⟨number, Build.onTrack_of_todo_eq_nil rfl (sound.inOrder_generation cache.current)⟩
  · obtain ⟨number, onTrack⟩ := sound.onTrack build hbuild
    obtain ⟨filled, rest, keeps⟩ := Build.perform_eq_ok ok
    rw [number] at filled h
    have inOrder := onTrack.inOrder_filled (sound.inOrder_generation cache.current) htodo
    have next : result.build.OnTrack _ := onTrack.next htodo rest
    change _ = build.filled _ task at filled
    rw [← filled] at inOrder next
    rw [h]
    refine ⟨by simpa [setGeneration] using sound.nonempty, fun generation member => ?_, ?_, by simp,
      fun after hafter => ?_⟩
    · obtain old | rfl := List.mem_or_eq_of_mem_set member
      · exact sound.inOrder generation old
      · exact inOrder
    · simpa [setGeneration, hbuild] using sound.started_eq
    · cases hafter
      refine ⟨keeps.trans number |>.trans (current_setGeneration cache _ _).symm, ?_⟩
      change Build.OnTrack _ ((cache.setGeneration cache.current result.generation).generation
        (cache.setGeneration cache.current result.generation).current)
      rw [current_setGeneration, generation_setGeneration_self _ sound.current_lt]
      exact next

/-- The next task of a build changes the current generation only, which grows. -/
theorem Sound.later_afterStep (sound : cache.Sound) (tree : FileTree) :
    cache.Later (cache.afterStep tree) := by
  obtain ⟨-, same⟩ | ⟨build, task, todo, _, hbuild, htodo, ⟨_, -, h⟩ | ⟨result, ok, h⟩⟩ :=
    step_cases tree cache
  · rw [same]
    exact .refl cache
  · rw [h]
    exact ⟨le_rfl, fun _ _ => rfl, .refl _⟩
  · obtain ⟨number, -⟩ := sound.onTrack build hbuild
    rw [number] at h ok
    have filled := (Build.perform_eq_ok ok).1
    rw [h]
    refine ⟨(current_setGeneration cache _ _).ge, fun other hother => ?_, ?_⟩
    · exact generation_setGeneration_of_ne cache _ _ hother.ne
    · change Generation.Grows _ ((cache.setGeneration cache.current _).generation cache.current)
      rw [generation_setGeneration_self _ sound.current_lt, filled]
      exact Build.grows_filled _ _ _

/-- A build that goes on for a while keeps the invariant. -/
theorem Sound.iterate (sound : cache.Sound) (tree : FileTree) (count : Nat) :
    ((Cache.afterStep tree)^[count] cache).Sound ∧
      cache.Later ((Cache.afterStep tree)^[count] cache) := by
  induction count with
  | zero => exact ⟨sound, .refl cache⟩
  | succ count ih =>
      rw [Function.iterate_succ_apply']
      exact ⟨ih.1.afterStep tree, ih.2.trans (ih.1.later_afterStep tree)⟩

theorem Sound.proceed (sound : cache.Sound) (tree : FileTree) :
    (cache.proceed tree none).1.Sound ∧ cache.Later (cache.proceed tree none).1 := by
  rw [Cache.proceed, advance_eq_iterate]
  exact sound.iterate tree _

/-- The generation that a reset opens is the one after all others. -/
theorem current_reset (tree : FileTree) (cache : Cache) :
    (cache.reset tree).1.current = (cache.proceed tree none).1.generations.length := by
  simp [reset, current]

theorem generation_reset (tree : FileTree) (cache : Cache) (number : Nat) :
    (cache.reset tree).1.generation number = (cache.proceed tree none).1.generation number := by
  simp only [reset, Cache.generation, List.getElem?_append]
  split
  · rfl
  · rename_i h
    have beyond : (cache.proceed tree none).1.generations[number]? = none :=
      List.getElem?_eq_none (by omega)
    rw [beyond]
    cases number - (cache.proceed tree none).1.generations.length <;> rfl

/-- A reset opens an empty generation, for which no build was started. -/
theorem generation_current_reset (tree : FileTree) (cache : Cache) :
    (cache.reset tree).1.generation (cache.reset tree).1.current = {} := by
  rw [generation_reset, current_reset]
  exact generation_eq_empty le_rfl

theorem Sound.reset (sound : cache.Sound) (tree : FileTree) : (cache.reset tree).1.Sound where
  nonempty := by simp [Cache.reset]
  inOrder generation member := by
    obtain old | new := List.mem_append.1 member
    · exact (sound.proceed tree).1.inOrder generation old
    · rw [List.mem_singleton.1 new]
      exact Generation.inOrder_empty
  started_eq := rfl
  fresh _ := generation_current_reset tree cache
  onTrack := by simp [Cache.reset]

theorem Sound.later_reset (sound : cache.Sound) (tree : FileTree) :
    cache.Later (cache.reset tree).1 := by
  obtain ⟨ended, later⟩ := sound.proceed tree
  refine later.trans ⟨?_, fun number _ => generation_reset tree cache number, ?_⟩
  · rw [current_reset]
    exact ended.current_lt.le
  · rw [generation_reset]
    exact .refl _

/-- No move breaks the invariant. -/
theorem Sound.move (sound : cache.Sound) (move : Move) : (cache.move move).Sound := by
  cases move with
  | beginBuild searchPath selector => exact sound.beginBuild searchPath selector
  | step tree => exact sound.afterStep tree
  | reset tree => exact sound.reset tree

/-- Older generations are as they were before a move, and the current one has grown. -/
theorem Sound.later_move (sound : cache.Sound) (move : Move) : cache.Later (cache.move move) := by
  cases move with
  | beginBuild searchPath selector =>
      simp only [Cache.move, Cache.beginBuild]
      split
      · exact .refl cache
      · exact ⟨le_rfl, fun _ _ => rfl, .refl _⟩
  | step tree => exact sound.later_afterStep tree
  | reset tree => exact sound.later_reset tree

/-- Only a reset opens another generation. -/
theorem current_move (cache : Cache) (move : Move) :
    (∃ tree, move = .reset tree) ∨ (cache.move move).current = cache.current := by
  cases move with
  | beginBuild searchPath selector =>
      refine .inr ?_
      simp only [Cache.move, Cache.beginBuild]
      split <;> rfl
  | step tree =>
      refine .inr ?_
      change (cache.afterStep tree).current = _
      obtain ⟨-, h⟩ | ⟨_, _, _, _, -, -, ⟨_, -, h⟩ | ⟨_, -, h⟩⟩ := step_cases tree cache
      · rw [h]
      · rw [h]
        rfl
      · rw [h]
        exact current_setGeneration _ _ _
  | reset tree => exact .inl ⟨tree, rfl⟩

/-- What becomes of a new cache fits together, whatever its source answers. -/
theorem Reachable.sound {source : Source} (reachable : Reachable source cache) : cache.Sound := by
  induction reachable with
  | new => exact sound_new source
  | move move _ ih => exact ih.move move

end Cache

end SystemMenu
