import SystemMenu.Proofs.Staging.Ledger

/-!
# How a build ends

A build ends when it has done its last task, or when it fails, at whatever point. Until then every stage
has been published or is still to be published by one of its tasks. So a build that ends without a failure
has published everything, and one that fails leaves what it had published before.

A failure need not come from the source: `Cache.fail` ends a build between any two tasks.

## Main statements

* `Cache.Accounted.move`: what a build has not published it still has to publish, unless it failed.
* `Cache.Underway.afterStep`, `Cache.Underway.fail`: what the thread of a build can do to a cache.
* `Cache.Accounted.shown_published`: what has been published after a build without a failure.
* `Ledger.accounted_after`: the account of every history.
-/

namespace SystemMenu

/-- No task makes a failure or takes it back, unless the source fails. -/
theorem Build.failure_perform {source : Source} {tree : FileTree} {task : Task} {build : Build}
    {generation : Generation} {requests : Nat} {result : TaskResult}
    (h : build.perform source tree task generation requests = .ok result) :
    result.build.failure = build.failure := by
  cases task with
  | locateTitles | storeBiosCount | storeSorted | storeFilter | storeKeys | publish
  | reportComplete =>
      cases h
      rfl
  | openTitles =>
      cases h
      dsimp only
      split
      · rfl
      · split <;> rfl
  | applyTitles =>
      cases h
      dsimp only
      split <;> rfl
  | askPlaceholder | dropPlaceholder | addRecord =>
      simp only [perform, bind, Except.bind] at h
      split at h
      · cases h
      · cases h
        rfl

namespace Cache

/-- The build of the current generation has failed. -/
def hasFailed (cache : Cache) : Bool := cache.build.any fun build => build.failure.isSome

/-- The build fails where it is, for whatever reason, if it is running. -/
def fail (cache : Cache) (message : String) : Cache :=
  match cache.build with
  | none => cache
  | some build =>
    if build.isRunning then
      { cache with build := some { build with todo := [], failure := some message } }
    else cache

/-- A build that has not failed has published or still has to publish every stage, and one that has failed
does nothing more. -/
structure Accounted (cache : Cache) : Prop where
  promised : ∀ build, cache.build = some build → build.failure = none →
    cache.published ++ Task.pending build.todo = Stage.publicationOrder
  failed : ∀ build, cache.build = some build → build.failure.isSome → build.todo = []

variable {cache : Cache}

/-- A build that has ended does nothing more. -/
theorem afterStep_of_idle (tree : FileTree) (idle : cache.isBuilding = false) :
    cache.afterStep tree = cache := by
  obtain ⟨-, same⟩ | ⟨build, task, todo, _, hbuild, htodo, -⟩ := step_cases tree cache
  · exact same
  · simp [isBuilding, Build.isRunning, hbuild, htodo] at idle

/-- Where no task is left, no build is running. -/
theorem isBuilding_of_remaining_eq_zero (done : cache.remaining = 0) : cache.isBuilding = false := by
  cases hbuild : cache.build with
  | none => simp [isBuilding, hbuild]
  | some build => simpa [isBuilding, Build.isRunning, remaining, hbuild] using done

/-- A build that fails has been running and ends. -/
theorem fail_cases (cache : Cache) (message : String) :
    cache.fail message = cache ∨
    ∃ build, cache.build = some build ∧ cache.isBuilding = true ∧ cache.fail message =
      { cache with build := some { build with todo := [], failure := some message } } := by
  unfold fail
  split
  · exact .inl rfl
  · rename_i build hbuild
    split
    · rename_i running
      exact .inr ⟨build, hbuild, by simpa [isBuilding, hbuild] using running, rfl⟩
    · exact .inl rfl

namespace Accounted

theorem beginBuild (accounted : cache.Accounted) (sound : cache.Sound)
    (searchPath selector : String) : (cache.beginBuild searchPath selector).1.Accounted := by
  simp only [Cache.beginBuild]
  split
  · exact accounted
  · rename_i idle
    have none_running : cache.build = none := by simpa [sound.started_eq] using idle
    refine ⟨fun build h _ => ?_, fun build h failed => ?_⟩
    · cases h
      change (cache.generation cache.current).published ++ _ = _
      rw [sound.fresh none_running]
      exact Task.pending_schedule _
    · cases h
      cases failed

/-- A task moves a stage from those that a build has to publish to those that it has published. -/
theorem afterStep (accounted : cache.Accounted) (sound : cache.Sound) (tree : FileTree) :
    (cache.afterStep tree).Accounted := by
  obtain ⟨-, same⟩ | ⟨build, task, todo, _, hbuild, htodo, ⟨_, -, h⟩ | ⟨result, ok, h⟩⟩ :=
    step_cases tree cache
  · rwa [same]
  · rw [h]
    refine ⟨fun next hnext unfailed => ?_, fun next hnext _ => ?_⟩
    · cases hnext
      cases unfailed
    · cases hnext
      rfl
  · obtain ⟨number, onTrack⟩ := sound.onTrack build hbuild
    obtain ⟨filled, rest, -⟩ := Build.perform_eq_ok ok
    have failure := Build.failure_perform ok
    rw [number] at filled h
    rw [h]
    refine ⟨fun next hnext unfailed => ?_, fun next hnext failed => ?_⟩
    · cases hnext
      have before := accounted.promised build hbuild (failure ▸ unfailed)
      have moved := Build.published_filled htodo onTrack
      change ((cache.setGeneration cache.current result.generation).generation
        (cache.setGeneration cache.current result.generation).current).published ++ _ = _
      rw [current_setGeneration, generation_setGeneration_self _ sound.current_lt, filled, rest]
      exact moved.trans before
    · cases hnext
      rw [failure] at failed
      have ended := accounted.failed build hbuild failed
      rw [htodo] at ended
      cases ended

theorem fail (accounted : cache.Accounted) (message : String) : (cache.fail message).Accounted := by
  obtain same | ⟨build, -, -, h⟩ := fail_cases cache message
  · rwa [same]
  · rw [h]
    refine ⟨fun next hnext unfailed => ?_, fun next hnext _ => ?_⟩
    · cases hnext
      cases unfailed
    · cases hnext
      rfl

theorem reset (cache : Cache) (tree : FileTree) : (cache.reset tree).1.Accounted where
  promised build h := by cases h
  failed build h := by cases h

theorem move (accounted : cache.Accounted) (sound : cache.Sound) (move : Move) :
    (cache.move move).Accounted := by
  cases move with
  | beginBuild searchPath selector => exact accounted.beginBuild sound searchPath selector
  | step tree => exact accounted.afterStep sound tree
  | reset tree => exact .reset cache tree

/-- It does not depend on what the source answers. -/
theorem answering (accounted : cache.Accounted) (source : Source) :
    (cache.answering source).Accounted := ⟨accounted.promised, accounted.failed⟩

/-- A build that has ended without a failure has published everything. -/
theorem shown_published (accounted : cache.Accounted) (begun : cache.build.isSome = true)
    (idle : cache.isBuilding = false) (unfailed : cache.hasFailed = false) :
    Stage.shown cache.published = Stage.all := by
  obtain ⟨build, hbuild⟩ := Option.isSome_iff_exists.1 begun
  have ended : build.todo = [] := by simpa [isBuilding, Build.isRunning, hbuild] using idle
  have promised := accounted.promised build hbuild (by simpa [hasFailed, hbuild] using unfailed)
  rw [ended] at promised
  rw [show cache.published = Stage.publicationOrder by simpa [Task.pending] using promised]
  decide

/-- A build that has failed has ended. -/
theorem isBuilding_of_hasFailed (accounted : cache.Accounted) (failed : cache.hasFailed = true) :
    cache.isBuilding = false := by
  cases hbuild : cache.build with
  | none => simp [isBuilding, hbuild]
  | some build =>
      have ended := accounted.failed build hbuild (by simpa [hasFailed, hbuild] using failed)
      simp [isBuilding, Build.isRunning, hbuild, ended]

end Accounted

/-- A cache whose build was started, and which may have ended. -/
structure Underway (cache : Cache) : Prop where
  sound : cache.Sound
  accounted : cache.Accounted
  begun : cache.build.isSome = true

/-- What the thread of a build can do to a cache. -/
structure GoesOn (before after : Cache) : Prop where
  underway : after.Underway
  published : before.published <+: after.published
  ended : before.isBuilding = false →
    after.isBuilding = false ∧ after.published = before.published
  failed : after.hasFailed = true → after.published = before.published

theorem Sound.fail (sound : cache.Sound) (message : String) : (cache.fail message).Sound := by
  obtain same | ⟨build, hbuild, -, h⟩ := fail_cases cache message
  · rwa [same]
  · obtain ⟨number, -⟩ := sound.onTrack build hbuild
    rw [h]
    refine ⟨sound.nonempty, sound.inOrder, by simp [sound.started_eq, hbuild], by simp,
      fun next hnext => ?_⟩
    cases hnext
    exact ⟨number, Build.onTrack_of_todo_eq_nil rfl (sound.inOrder_generation cache.current)⟩

namespace Underway

theorem beginBuild (sound : cache.Sound) (accounted : cache.Accounted)
    (searchPath selector : String) : (cache.beginBuild searchPath selector).1.Underway where
  sound := sound.beginBuild searchPath selector
  accounted := accounted.beginBuild sound searchPath selector
  begun := by
    rw [← (sound.beginBuild searchPath selector).started_eq]
    exact (move_starts cache (.beginBuild searchPath selector)).1

/-- Nothing happens. -/
theorem goesOn_self (underway : cache.Underway) : cache.GoesOn cache :=
  ⟨underway, List.prefix_rfl, fun idle => ⟨idle, rfl⟩, fun _ => rfl⟩

theorem afterStep (underway : cache.Underway) (tree : FileTree) : cache.GoesOn (cache.afterStep tree) where
  underway :=
    { sound := underway.sound.afterStep tree
      accounted := underway.accounted.afterStep underway.sound tree
      begun := (afterStep_keeps tree cache).2.2.2.trans underway.begun }
  published := by
    have same : (cache.afterStep tree).current = cache.current :=
      ((current_move cache (.step tree)).resolve_left (by simp))
    rw [Cache.published, Cache.published, same]
    exact (underway.sound.later_afterStep tree).grows.published
  ended idle := by
    rw [afterStep_of_idle tree idle]
    exact ⟨idle, rfl⟩
  failed failed := by
    obtain ⟨-, same⟩ | ⟨build, task, todo, _, hbuild, htodo, ⟨_, -, h⟩ | ⟨result, ok, h⟩⟩ :=
      step_cases tree cache
    · rw [same]
    · rw [h]
      rfl
    · -- The failure would be older than this task, so there would be no such task.
      have failure : build.failure.isSome = true := by
        rw [← Build.failure_perform ok]
        simpa [hasFailed, h] using failed
      have ended := underway.accounted.failed build hbuild failure
      rw [htodo] at ended
      cases ended

theorem fail (underway : cache.Underway) (message : String) : cache.GoesOn (cache.fail message) := by
  have sound := underway.sound.fail message
  have accounted := underway.accounted.fail message
  obtain same | ⟨build, hbuild, running, h⟩ := fail_cases cache message
  · rw [same]
    exact underway.goesOn_self
  · rw [h] at sound accounted ⊢
    refine ⟨⟨sound, accounted, rfl⟩, List.prefix_rfl, fun idle => ?_, fun _ => rfl⟩
    rw [running] at idle
    cases idle

end Underway

end Cache

namespace Ledger

/-- Whatever happened, every build has published what it has to, or still has to. -/
theorem accounted_after (source : Source) (turns : List Turn) :
    (after source turns).cache.Accounted := by
  suffices h : ∀ ledger : Ledger, ledger.Sound → ledger.cache.Accounted →
      (turns.foldl turn ledger).cache.Accounted from
    h _ (sound_new source) ⟨by simp [Cache.new], by simp [Cache.new]⟩
  induction turns with
  | nil => exact fun _ _ accounted => accounted
  | cons first rest ih =>
      intro ledger sound accounted
      refine ih _ (sound.turn first) ?_
      exact (accounted.answering first.source).move (sound.cache.answering first.source) first.move

end Ledger

end SystemMenu
