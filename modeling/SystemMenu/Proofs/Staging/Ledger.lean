import SystemMenu.Proofs.Staging.Histories

/-!
# Builds in turn

A cache knows one build only. To say that no other is still running, a ledger goes along with the cache
and keeps every build that the cache lets go of, in the state in which it is then; a build let go of
too early would stay there as a running one. In every turn the source answers in its own way, so it can
fail at any request, and the files are those of that turn.

A reset lets the build do the tasks that are left. These are the same steps that the build does by
itself, so what can be seen while a reset waits can be seen before it, too.

## Main statements

* `Ledger.Sound.turn`: what the cache let go of has come to its end.
* `Ledger.builds_take_turns`: builds, stages and data in every history.
-/

namespace SystemMenu

namespace Cache

/-- The move is a reset. -/
def Move.isReset : Move → Bool
  | .reset _ => true
  | .beginBuild .. | .step _ => false

/-- The build that a cache lets go of in a move, as it is then. -/
def released (cache : Cache) : Move → List Build
  | .beginBuild .. => if cache.started then [] else cache.build.toList
  | .step _ => []
  | .reset tree => (cache.proceed tree none).1.build.toList

/-- A task of the build starts no build and takes none away. -/
theorem afterStep_keeps (tree : FileTree) (cache : Cache) :
    (cache.afterStep tree).source = cache.source ∧
      (cache.afterStep tree).started = cache.started ∧
      (cache.afterStep tree).buildsStarted = cache.buildsStarted ∧
      (cache.afterStep tree).build.isSome = cache.build.isSome := by
  obtain ⟨-, same⟩ | ⟨build, task, todo, _, hbuild, -, ⟨_, -, h⟩ | ⟨result, -, h⟩⟩ :=
    step_cases tree cache
  · rw [same]
    exact ⟨rfl, rfl, rfl, rfl⟩
  · rw [h, hbuild]
    exact ⟨rfl, rfl, rfl, rfl⟩
  · rw [h, hbuild]
    exact ⟨rfl, rfl, rfl, rfl⟩

theorem proceed_keeps (tree : FileTree) (cache : Cache) :
    (cache.proceed tree none).1.buildsStarted = cache.buildsStarted ∧
      (cache.proceed tree none).1.build.isSome = cache.build.isSome := by
  rw [proceed, advance_eq_iterate]
  induction cache.remaining with
  | zero => exact ⟨rfl, rfl⟩
  | succ count ih =>
      rw [Function.iterate_succ_apply']
      obtain ⟨-, -, starts, builds⟩ := afterStep_keeps tree ((afterStep tree)^[count] cache)
      exact ⟨starts.trans ih.1, builds.trans ih.2⟩

/-- Whether a build was started after a move, and how many were, depends on the move alone. -/
theorem move_starts (cache : Cache) (move : Move) :
    (cache.move move).started = move.startedAfter cache.started ∧
      (cache.move move).buildsStarted =
        cache.buildsStarted + if move.opensBuild cache.started then 1 else 0 := by
  cases move with
  | beginBuild searchPath selector =>
      cases h : cache.started <;> simp [Cache.move, beginBuild, Move.startedAfter, Move.opensBuild, h]
  | step tree =>
      obtain ⟨-, started, starts, -⟩ := afterStep_keeps tree cache
      exact ⟨started, starts⟩
  | reset tree => exact ⟨rfl, (proceed_keeps tree cache).1⟩

end Cache

/-- A move, and how the source answers then. -/
structure Turn where
  source : Source
  move : Cache.Move

/-- A cache with the builds that it has let go of, each as it was then. -/
structure Ledger where
  cache : Cache
  former : List Build := []

namespace Ledger

/-- All builds that were started. -/
def builds (ledger : Ledger) : List Build := ledger.former ++ ledger.cache.build.toList

/-- The builds that are running. -/
def alive (ledger : Ledger) : List Build := ledger.builds.filter Build.isRunning

/-- What a turn makes of a ledger. -/
def turn (ledger : Ledger) (turn : Turn) : Ledger :=
  let cache := ledger.cache.answering turn.source
  { cache := cache.move turn.move, former := ledger.former ++ cache.released turn.move }

/-- The ledger of a new cache after some turns. -/
def after (source : Source) (turns : List Turn) : Ledger :=
  turns.foldl turn { cache := .new source }

theorem after_append (source : Source) (turns more : List Turn) :
    after source (turns ++ more) = more.foldl turn (after source turns) := List.foldl_append

/-- The cache is sound, and every build that it let go of has ended. -/
structure Sound (ledger : Ledger) : Prop where
  cache : ledger.cache.Sound
  former : ∀ build ∈ ledger.former, build.isRunning = false
  count : ledger.builds.length = ledger.cache.buildsStarted

theorem sound_new (source : Source) : Sound { cache := .new source } where
  cache := Cache.sound_new source
  former := by simp
  count := rfl

/-- At most the build that the cache knows is running. -/
theorem Sound.alive_eq {ledger : Ledger} (sound : ledger.Sound) :
    ledger.alive = ledger.cache.build.toList.filter Build.isRunning := by
  have ended : ledger.former.filter Build.isRunning = [] :=
    List.filter_eq_nil_iff.2 fun build member => by simp [sound.former build member]
  rw [alive, builds, List.filter_append, ended, List.nil_append]

theorem Sound.alive_length_le {ledger : Ledger} (sound : ledger.Sound) :
    ledger.alive.length ≤ 1 := by
  rw [sound.alive_eq]
  refine (List.length_filter_le _ _).trans ?_
  cases ledger.cache.build <;> simp

/-- A cache lets go of a build only after its end: a start finds no build, and a reset waits. -/
theorem released_ended {cache : Cache} (sound : cache.Sound) (move : Cache.Move) :
    ∀ build ∈ cache.released move, build.isRunning = false := by
  intro build member
  cases move with
  | beginBuild searchPath selector =>
      have absent : cache.released (.beginBuild searchPath selector) = [] := by
        simp only [Cache.released, sound.started_eq]
        cases cache.build <;> simp
      simp [absent] at member
  | step tree => simp [Cache.released] at member
  | reset tree =>
      have ended := Cache.isBuilding_proceed tree cache
      simp only [Cache.released, Option.mem_toList] at member
      simpa [Cache.isBuilding, member] using ended

/-- A move takes into the ledger what it takes from the cache. -/
theorem length_released {cache : Cache} (sound : cache.Sound) (move : Cache.Move) :
    (cache.released move).length + (cache.move move).build.toList.length +
      cache.buildsStarted = (cache.move move).buildsStarted + cache.build.toList.length := by
  have size : ∀ {a b : Option Build}, a.isSome = b.isSome → a.toList.length = b.toList.length := by
    intro a b h
    cases a <;> cases b <;> simp_all
  cases move with
  | beginBuild searchPath selector =>
      cases hbuild : cache.build with
      | none =>
          simp [Cache.released, Cache.move, Cache.beginBuild, sound.started_eq, hbuild]
          omega
      | some build =>
          simp [Cache.released, Cache.move, Cache.beginBuild, sound.started_eq, hbuild]
          omega
  | step tree =>
      obtain ⟨-, -, starts, builds⟩ := Cache.afterStep_keeps tree cache
      have same := size builds
      simp only [Cache.afterStep] at starts same
      simp only [Cache.released, Cache.move, List.length_nil, starts, same]
      omega
  | reset tree =>
      obtain ⟨starts, builds⟩ := Cache.proceed_keeps tree cache
      have same := size builds
      simp only [Cache.released, Cache.move, Cache.reset, starts, same, Option.toList_none,
        List.length_nil]
      omega

/-- No turn breaks the ledger. -/
theorem Sound.turn {ledger : Ledger} (sound : ledger.Sound) (turn : Turn) :
    (ledger.turn turn).Sound := by
  have answered := sound.cache.answering turn.source
  refine ⟨answered.move turn.move, fun build member => ?_, ?_⟩
  · obtain old | new := List.mem_append.1 member
    · exact sound.former build old
    · exact released_ended answered turn.move build new
  · have moved := length_released answered turn.move
    have counted := sound.count
    simp only [builds, List.length_append] at counted ⊢
    simp only [Ledger.turn, List.length_append, Cache.answering] at moved ⊢
    omega

theorem Sound.foldl {ledger : Ledger} (sound : ledger.Sound) (turns : List Turn) :
    (turns.foldl Ledger.turn ledger).Sound := by
  induction turns generalizing ledger with
  | nil => exact sound
  | cons turn rest ih => exact ih (sound.turn turn)

theorem sound_after (source : Source) (turns : List Turn) : (after source turns).Sound :=
  (sound_new source).foldl turns

/-- Turns keep what older generations hold, and the current one only grows. -/
theorem Sound.later_foldl {ledger : Ledger} (sound : ledger.Sound) (turns : List Turn) :
    ledger.cache.Later (turns.foldl Ledger.turn ledger).cache := by
  induction turns generalizing ledger with
  | nil => exact .refl _
  | cons turn rest ih =>
      have first := (sound.cache.answering turn.source).later_move turn.move
      exact first.of_answering.trans (ih (sound.turn turn))

/-- Without a reset the current generation stays the current one. -/
theorem current_foldl (turns : List Turn) (ledger : Ledger)
    (noReset : ∀ turn ∈ turns, turn.move.isReset = false) :
    (turns.foldl Ledger.turn ledger).cache.current = ledger.cache.current := by
  induction turns generalizing ledger with
  | nil => rfl
  | cons turn rest ih =>
      have first : (ledger.turn turn).cache.current = ledger.cache.current := by
        obtain ⟨tree, reset⟩ | same := Cache.current_move (ledger.cache.answering turn.source) turn.move
        · simpa [reset, Cache.Move.isReset] using noReset turn List.mem_cons_self
        · exact same
      rw [List.foldl_cons, ih _ fun other member => noReset other (List.mem_cons_of_mem _ member)]
      exact first

/-- Builds are counted when they are the first of their generation. -/
theorem buildsStarted_foldl (turns : List Turn) (ledger : Ledger) :
    (turns.foldl Ledger.turn ledger).cache.buildsStarted = ledger.cache.buildsStarted +
      Cache.countFirst ledger.cache.started (turns.map Turn.move) := by
  induction turns generalizing ledger with
  | nil => rfl
  | cons turn rest ih =>
      obtain ⟨started, starts⟩ :=
        Cache.move_starts (ledger.cache.answering turn.source) turn.move
      rw [List.foldl_cons, ih, List.map_cons, Cache.countFirst]
      simp only [Ledger.turn, Cache.answering] at started starts ⊢
      rw [started, starts, Nat.add_assoc]
      rfl

/-- The tasks that a reset waits for are turns of the build. -/
theorem foldl_steps (tree : FileTree) (count : Nat) (ledger : Ledger) :
    ((List.replicate count ⟨ledger.cache.source, .step tree⟩).foldl turn ledger).cache =
      (Cache.afterStep tree)^[count] ledger.cache := by
  induction count generalizing ledger with
  | zero => rfl
  | succ count ih =>
      have first : (ledger.turn ⟨ledger.cache.source, .step tree⟩).cache =
          ledger.cache.afterStep tree := rfl
      have rest := ih (ledger.turn ⟨ledger.cache.source, .step tree⟩)
      rw [first, (Cache.afterStep_keeps tree ledger.cache).1] at rest
      rw [List.replicate_succ, List.foldl_cons, Function.iterate_succ_apply]
      exact rest

/-- After a reset there is no build and nothing is published. -/
theorem cache_after_reset (source : Source) (turns : List Turn) (reset : Turn)
    (h : reset.move.isReset = true) :
    (after source (turns ++ [reset])).cache.build = none ∧
      (after source (turns ++ [reset])).cache.published = [] := by
  rw [after_append]
  obtain ⟨answers, move⟩ := reset
  cases move with
  | reset tree =>
      refine ⟨rfl, ?_⟩
      exact congrArg Generation.published
        (Cache.generation_current_reset tree ((after source turns).cache.answering answers))
  | beginBuild | step => cases h

/-- In every history at most one build is running, and one was started for each request that was the
first of its generation. The stages of the current generation are published in one order, they only
grow until a reset, and after it there are none and no build is left. What is published is there, and
neither a later build nor a reset changes it. What can be seen while a reset waits is what can be seen
while the build goes on by itself. -/
theorem builds_take_turns (source : Source) (turns : List Turn) :
    let ledger := after source turns
    let cache := ledger.cache
    ((ledger.builds.filter Build.isRunning).length ≤ 1 ∧
      ledger.builds.length = cache.buildsStarted ∧
      cache.buildsStarted = Cache.countFirst false (turns.map Turn.move)) ∧
    (cache.published <+:
        [.biosCount, .sortedList, .filterIndex, .keys .shortname, .keys .description,
          .keys .manufacturerDescription, .keys .defaultDescription,
          .keys .manufacturerDefaultDescription] ∧
      (∀ more : List Turn, (∀ turn ∈ more, turn.move.isReset = false) →
        cache.published <+: (after source (turns ++ more)).cache.published) ∧
      ∀ reset : Turn, reset.move.isReset = true →
        (after source (turns ++ [reset])).cache.published = [] ∧
          (after source (turns ++ [reset])).builds.filter Build.isRunning = []) ∧
    (∀ number, ∀ stage ∈ (cache.generation number).published,
      (cache.generation number).Holds stage) ∧
    (∀ more : List Turn, cache.Later (after source (turns ++ more)).cache) ∧
    ∀ tree count, (cache.advance tree none count).1 =
      (after source (turns ++ List.replicate count ⟨cache.source, .step tree⟩)).cache := by
  intro ledger cache
  have sound : ledger.Sound := sound_after source turns
  refine ⟨⟨sound.alive_length_le, sound.count, ?_⟩, ⟨?_, fun more noReset => ?_, fun reset h => ?_⟩,
    fun number => (sound.cache.inOrder_generation number).backed, fun more => ?_,
    fun tree count => ?_⟩
  · rw [← Nat.zero_add (Cache.countFirst _ _)]
    exact buildsStarted_foldl turns { cache := .new source }
  · exact (sound.cache.inOrder_generation cache.current).published
  · rw [after_append]
    simp only [Cache.published]
    rw [current_foldl more (after source turns) noReset]
    exact (sound.later_foldl more).grows.published
  · have next : (after source (turns ++ [reset])).Sound := sound_after source _
    have opened := cache_after_reset source turns reset h
    refine ⟨opened.2, ?_⟩
    have alive := next.alive_eq
    rwa [opened.1] at alive
  · rw [after_append]
    exact sound.later_foldl more
  · rw [after_append, Cache.advance_eq_iterate]
    exact (foldl_steps tree count ledger).symm

end Ledger

end SystemMenu
