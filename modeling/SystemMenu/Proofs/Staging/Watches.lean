import Mathlib.Data.List.Nodup
import SystemMenu.Proofs.Staging.BuildEnds
import SystemMenu.Staging.Watch

/-!
# Builds that are watched

A watcher looks at a build from time to time, while the build does its tasks or fails at any point. What
the watcher relies on is that a build which is not running publishes nothing any more. It asks first whether
the build is running and looks at the published stages afterwards; so if the answer was no, what it then
sees is final.

## Main statements

* `Watch.Faithful.look`, `Watch.Faithful.goesOn`: what a watcher knows, kept by its looks and by the build.
* `Watching.ends_with_what_was_published`: what a watcher has reported, and when it ends.
-/

namespace SystemMenu

namespace Stage

theorem mem_all (stage : Stage) : stage ∈ all := by
  cases stage with
  | keys field => cases field <;> decide
  | sortedList | biosCount | filterIndex => decide

@[simp] theorem mem_shown_iff {stages : List Stage} {stage : Stage} :
    stage ∈ shown stages ↔ stage ∈ stages := by
  simp [shown, mem_all]

theorem nodup_shown (stages : List Stage) : (shown stages).Nodup :=
  (show all.Nodup by decide).sublist List.filter_sublist

/-- All stages are shown if all were published, in whatever order. -/
theorem shown_eq_all_iff {stages : List Stage} : shown stages = all ↔ ∀ stage, stage ∈ stages := by
  simp [shown, List.filter_eq_self, mem_all]

/-- Where all stages were published, nothing is shown that was not shown before. -/
theorem shown_eq_of_prefix {before after : List Stage} (start : before <+: after)
    (complete : shown before = all) : shown after = shown before := by
  have every := shown_eq_all_iff.1 complete
  rw [complete]
  exact shown_eq_all_iff.2 fun stage => start.subset (every stage)

end Stage

namespace Watch

variable {watch : Watch} {cache : Cache}

/-- A watcher has reported what it has seen, each stage once. If it has ended, or is about to look after
the build has ended, there is nothing more to see. -/
structure Faithful (watch : Watch) (cache : Cache) : Prop where
  distinct : watch.reports.Nodup
  reported : ∀ stage, stage ∈ watch.reports ↔ stage ∈ watch.seen
  published : ∀ stage ∈ watch.seen, stage ∈ cache.published
  last : watch.phase = .looking false → cache.isBuilding = false
  ended : watch.phase = .ended → watch.seen = Stage.shown cache.published ∧
    (cache.isBuilding = false ∨ watch.seen = Stage.all)

theorem faithful_new (cache : Cache) : Faithful {} cache := by
  constructor <;> simp

namespace Faithful

/-- A look at the published stages reports those that are new. -/
theorem look (faithful : watch.Faithful cache) :
    (watch.step cache.isBuilding cache.published).Faithful cache := by
  obtain ⟨phase, seen, reports⟩ := watch
  obtain ⟨distinct, reported, published, last, ended⟩ := faithful
  cases phase with
  | asking => exact ⟨distinct, reported, published, Watch.Phase.looking.inj, nofun⟩
  | ended => exact ⟨distinct, reported, published, last, ended⟩
  | looking wasRunning =>
      refine ⟨?_, fun stage => ?_, fun stage => Stage.mem_shown_iff.1, fun looking => ?_,
        fun closed => ⟨rfl, ?_⟩⟩
      · refine List.nodup_append'.2 ⟨distinct, (Stage.nodup_shown _).filter _, ?_⟩
        intro stage old new
        have unseen : stage ∉ seen := by simpa using (List.mem_filter.1 new).2
        exact unseen ((reported stage).1 old)
      · by_cases old : stage ∈ seen
        · simp [step, reported, old, published stage old]
        · simp [step, reported, old]
      · simp only [step] at looking
        split at looking <;> cases looking
      · by_cases idle : wasRunning = false
        · exact .inl (last (by rw [idle]))
        · right
          by_contra missing
          have unseen : Stage.shown cache.published ≠ Stage.all := missing
          simp [step, unseen, idle] at closed

/-- What the build does takes nothing away from what a watcher knows. -/
theorem goesOn {next : Cache} (faithful : watch.Faithful cache) (goes : cache.GoesOn next) :
    watch.Faithful next where
  distinct := faithful.distinct
  reported := faithful.reported
  published stage member := goes.published.subset (faithful.published stage member)
  last looking := (goes.ended (faithful.last looking)).1
  ended closed := by
    obtain ⟨seen, idle | all⟩ := faithful.ended closed
    · obtain ⟨still, same⟩ := goes.ended idle
      rw [same]
      exact ⟨seen, .inl still⟩
    · rw [Stage.shown_eq_of_prefix goes.published (seen.symm.trans all)]
      exact ⟨seen, .inr all⟩

end Faithful

end Watch

/-- A cache and a watcher of its build. -/
structure Watching where
  cache : Cache
  watch : Watch := {}

namespace Watching

/-- What can happen while a build is watched. -/
inductive Step where
  /-- The build does its next task. The source answers in its own way and the files are those of then. -/
  | task (source : Source) (tree : FileTree)
  /-- The build fails where it is. -/
  | fail (message : String)
  /-- The watcher asks whether the build is running, or looks at the stages after it has asked. -/
  | look

/-- What a step makes of a cache and a watcher. -/
def step (watching : Watching) : Step → Watching
  | .task source tree =>
    { watching with cache := (watching.cache.answering source).afterStep tree }
  | .fail message => { watching with cache := watching.cache.fail message }
  | .look =>
    { watching with
        watch := watching.watch.step watching.cache.isBuilding watching.cache.published }

/-- What steps make of a cache whose watcher is about to begin. -/
def after (cache : Cache) (steps : List Step) : Watching := steps.foldl step { cache := cache }

theorem after_append (cache : Cache) (steps more : List Step) :
    after cache (steps ++ more) = more.foldl step (after cache steps) := List.foldl_append

variable {watching : Watching}

/-- A build was started, and the watcher knows what it has to know about it. -/
structure Sound (watching : Watching) : Prop where
  underway : watching.cache.Underway
  faithful : watching.watch.Faithful watching.cache

/-- A step is one of the build, which the watcher does not take part in, or a look at the build. -/
theorem Sound.goesOn (sound : watching.Sound) (step : Step) :
    watching.cache.GoesOn (watching.step step).cache := by
  have underway := sound.underway
  cases step with
  | task source tree =>
      have answered : (watching.cache.answering source).Underway :=
        ⟨underway.sound.answering source, underway.accounted.answering source, underway.begun⟩
      have goes := answered.afterStep tree
      exact ⟨goes.underway, goes.published, goes.ended, goes.failed⟩
  | fail message => exact underway.fail message
  | look => exact underway.goesOn_self

/-- No step leaves the watcher mistaken. -/
theorem Sound.step (sound : watching.Sound) (step : Step) : (watching.step step).Sound where
  underway := (sound.goesOn step).underway
  faithful := by
    cases step with
    | task source tree => exact sound.faithful.goesOn (sound.goesOn (.task source tree))
    | fail message => exact sound.faithful.goesOn (sound.goesOn (.fail message))
    | look => exact sound.faithful.look

theorem Sound.foldl (sound : watching.Sound) (steps : List Step) :
    (steps.foldl Watching.step watching).Sound := by
  induction steps generalizing watching with
  | nil => exact sound
  | cons first rest ih => exact ih (sound.step first)

/-- After the build has ended, nothing is published any more. -/
theorem Sound.published_foldl (sound : watching.Sound) (steps : List Step)
    (idle : watching.cache.isBuilding = false) :
    (steps.foldl Watching.step watching).cache.published = watching.cache.published := by
  induction steps generalizing watching with
  | nil => rfl
  | cons first rest ih =>
      obtain ⟨still, same⟩ := (sound.goesOn first).ended idle
      exact (ih (sound.step first) still).trans same

/-- What is published stays published. -/
theorem Sound.prefix_foldl (sound : watching.Sound) (steps : List Step) :
    watching.cache.published <+: (steps.foldl Watching.step watching).cache.published := by
  induction steps generalizing watching with
  | nil => exact List.prefix_rfl
  | cons first rest ih => exact (sound.goesOn first).published.trans (ih (sound.step first))

/-- When the watcher has ended, what it has seen is what will have been published at any time after. -/
theorem Sound.seen_eq (sound : watching.Sound) (ended : watching.watch.phase = .ended)
    (more : List Step) :
    watching.watch.seen = Stage.shown (more.foldl Watching.step watching).cache.published := by
  obtain ⟨seen, idle | all⟩ := sound.faithful.ended ended
  · rw [sound.published_foldl more idle]
    exact seen
  · rw [Stage.shown_eq_of_prefix (sound.prefix_foldl more) (seen.symm.trans all)]
    exact seen

/-- Once the build has ended, three more steps of the watcher are enough for it to end. -/
theorem ended_of_idle (idle : watching.cache.isBuilding = false) :
    ([.look, .look, .look].foldl step watching).watch.phase = .ended := by
  obtain ⟨cache, phase, seen, reports⟩ := watching
  simp only at idle
  cases phase with
  | asking => simp [step, Watch.step, idle]
  | ended => simp [step, Watch.step]
  | looking wasRunning =>
      by_cases all : Stage.shown cache.published = Stage.all ∨ wasRunning = false
      · simp [step, Watch.step, all]
      · simp [step, Watch.step, idle, all]

/-- Whatever the source answers, a build has a task less to do after each of its steps. -/
theorem remaining_foldl_le (source : Source) (tree : FileTree) (count : Nat) (watching : Watching) :
    ((List.replicate count (.task source tree)).foldl step watching).cache.remaining ≤
      watching.cache.remaining - count := by
  induction count generalizing watching with
  | zero => exact Nat.le_refl _
  | succ count ih =>
      have first := Cache.remaining_afterStep_le tree (watching.cache.answering source)
      have rest := ih (watching.step (.task source tree))
      simp only [List.replicate_succ, List.foldl_cons, step, Cache.remaining, Cache.answering]
        at first rest ⊢
      omega

theorem sound_after {cache : Cache} (underway : cache.Underway) (steps : List Step) :
    (after cache steps).Sound :=
  Sound.foldl ⟨underway, Watch.faithful_new cache⟩ steps

/-- A build is started, unless one was before, and it is watched from then on, while it does its tasks and
may fail at any point. At any time the watcher has reported each stage that it has seen, once, and no other,
and all of them are published. When the watcher has ended, what it has seen is all that will ever have been
published: all stages if the build does not fail, and if it fails those that were published before. The
watcher ends if the build is let go on for long enough and it looks three times after that. -/
theorem ends_with_what_was_published (source : Source) (turns : List Turn)
    (searchPath selector : String) (steps : List Step) :
    let begun := ((Ledger.after source turns).cache.beginBuild searchPath selector).1
    let watching := after begun steps
    (watching.watch.reports.Nodup ∧
      (∀ stage ∈ watching.watch.reports, stage ∈ watching.cache.published) ∧
      ∀ stage, stage ∈ watching.watch.reports ↔ stage ∈ watching.watch.seen) ∧
    (watching.watch.phase = .ended →
      (∀ more, watching.watch.seen = Stage.shown (after begun (steps ++ more)).cache.published) ∧
      (watching.cache.hasFailed = false → watching.watch.seen = Stage.all) ∧
      ∀ before step rest, steps = before ++ step :: rest →
        (after begun (before ++ [step])).cache.hasFailed = true →
          watching.watch.seen = Stage.shown (after begun before).cache.published) ∧
    ∀ answers tree, ∃ count, (after begun
      (steps ++ List.replicate count (.task answers tree) ++ [.look, .look, .look])).watch.phase =
        .ended := by
  intro begun watching
  have underway : begun.Underway :=
    .beginBuild (Ledger.sound_after source turns).cache (Ledger.accounted_after source turns) ..
  have sound : watching.Sound := sound_after underway steps
  have faithful := sound.faithful
  refine ⟨⟨faithful.distinct, fun stage member => ?_, faithful.reported⟩, fun ended =>
    ⟨fun more => ?_, fun unfailed => ?_, fun before step rest split failed => ?_⟩,
    fun answers tree => ⟨watching.cache.remaining, ?_⟩⟩
  · exact faithful.published stage ((faithful.reported stage).1 member)
  · rw [after_append]
    exact sound.seen_eq ended more
  · obtain ⟨seen, idle | all⟩ := faithful.ended ended
    · exact seen.trans (sound.underway.accounted.shown_published sound.underway.begun idle unfailed)
    · exact all
  · -- The step in which the build fails publishes nothing, and neither does any later one.
    have first := sound_after underway before
    have next : after begun (before ++ [step]) = (after begun before).step step := after_append ..
    rw [next] at failed
    have idle := (first.step step).underway.accounted.isBuilding_of_hasFailed failed
    have rest_eq : watching = rest.foldl Watching.step ((after begun before).step step) := by
      simp only [watching, split, after_append, List.foldl_cons]
    rw [(faithful.ended ended).1, rest_eq, (first.step step).published_foldl rest idle,
      (first.goesOn step).failed failed]
  · rw [after_append, after_append]
    apply ended_of_idle
    apply Cache.isBuilding_of_remaining_eq_zero
    have left := remaining_foldl_le answers tree watching.cache.remaining watching
    rw [Nat.sub_self] at left
    exact Nat.le_zero.1 left

end Watching

end SystemMenu
