import SystemMenu.Staging.Stage

/-!
# Watching a build

A watcher reports each stage when it sees it published. It asks first whether the build is running and
looks at the published stages afterwards, so that a build which was not running has published
everything that the watcher then sees. It ends when all stages are there or the build was not running.

## Main declarations

* `Watch`: a watcher between two of its looks.
* `Watch.step`: one look at the build.
* `Watch.ofEnded`: watching a build that has ended.
-/

namespace SystemMenu

/-- What a watcher does next. -/
inductive Watch.Phase where
  /-- It asks whether the build is running. -/
  | asking
  /-- It looks at the published stages, knowing whether the build was running. -/
  | looking (running : Bool)
  | ended
  deriving Repr, DecidableEq

/-- A watcher. -/
structure Watch where
  phase : Watch.Phase := .asking
  /-- The stages that it saw last. -/
  seen : List Stage := []
  /-- The stages in the order of their reports. -/
  reports : List Stage := []
  deriving Repr, DecidableEq

namespace Watch

/-- One look at a build that is running or not and has published some stages. -/
def step (running : Bool) (published : List Stage) (watch : Watch) : Watch :=
  match watch.phase with
  | .asking => { watch with phase := .looking running }
  | .looking wasRunning =>
    let now := Stage.shown published
    let fresh := now.filter fun stage => !watch.seen.contains stage
    { phase := if now = Stage.all ∨ !wasRunning then .ended else .asking
      seen := now
      reports := watch.reports ++ fresh }
  | .ended => watch

/-- Watching a build that has ended takes two looks. -/
def ofEnded (published : List Stage) : Watch :=
  (({} : Watch).step false published).step false published

/-- The stages that a watcher of a build that has ended did not see. -/
def missing (watch : Watch) : List Stage :=
  Stage.all.filter fun stage => !watch.seen.contains stage

/-- A watcher of a build that has ended has ended, too. -/
@[simp] theorem phase_ofEnded (published : List Stage) : (ofEnded published).phase = .ended := by
  simp [ofEnded, step]

/-- A watcher of a build that has ended reports what was published. -/
@[simp] theorem reports_ofEnded (published : List Stage) :
    (ofEnded published).reports = Stage.shown published := by
  simp [ofEnded, step]

end Watch

end SystemMenu
