import SystemMenu.Staging.Stage

/-!
# The latch of a generation

Threads wait at a latch until the stages that they want have been published. A waiter first looks
without the lock; if that is not enough, it takes the lock, looks again, and either returns or parks,
which gives the lock back in the same moment. A publisher takes the lock, sets its stages, notifies all
parked waiters and gives the lock back. A waiter that is notified, or wakes for no reason, takes the
lock and looks again.

## Main declarations

* `Waiter`, `Publisher`: threads at a latch and how far they are.
* `Latch`: the published stages, the lock and all threads.
* `Latch.move?`: one step of one thread, if it can be made.
* `Latch.Reachable`: what can become of a latch.
-/

namespace SystemMenu

/-- How far a waiter is. -/
inductive Waiter.Phase where
  /-- It is about to look without the lock. -/
  | outside
  /-- It is about to take the lock. -/
  | entering
  /-- It has the lock and is about to look. -/
  | checking
  /-- It has the lock and has looked. -/
  | checked (offered : Bool)
  /-- It sleeps without the lock until it is woken. -/
  | parked
  /-- It was woken and is about to take the lock again. -/
  | woken
  | returned
  deriving Repr, DecidableEq

/-- A thread that waits for stages. -/
structure Waiter where
  wanted : List Stage
  phase : Waiter.Phase := .outside
  deriving Repr, DecidableEq

/-- How far a publisher is. -/
inductive Publisher.Phase where
  /-- It is about to take the lock. -/
  | entering
  /-- It has the lock and is about to set its stages. -/
  | setting
  /-- It has the lock and is about to notify. -/
  | notifying
  /-- It is about to give the lock back. -/
  | leaving
  | done
  deriving Repr, DecidableEq

/-- A thread that publishes stages. -/
structure Publisher where
  stages : List Stage
  phase : Publisher.Phase := .entering
  deriving Repr, DecidableEq

/-- A thread at a latch, by its number. -/
inductive Latch.Member where
  | waiter (index : Nat)
  | publisher (index : Nat)
  deriving Repr, DecidableEq

/-- A latch with all threads at it. -/
structure Latch where
  published : List Stage := []
  /-- The thread that has the lock. -/
  holder : Option Latch.Member := none
  waiters : List Waiter := []
  publishers : List Publisher := []
  deriving Repr, DecidableEq

namespace Latch

/-- What can happen at a latch. -/
inductive Move where
  /-- A waiter makes its next step. -/
  | waiter (index : Nat)
  /-- A publisher makes its next step. -/
  | publisher (index : Nat)
  /-- A parked waiter wakes for no reason. -/
  | wake (index : Nat)
  deriving Repr, DecidableEq

/-- Every one of some stages has been published. -/
def offers (latch : Latch) (wanted : List Stage) : Bool :=
  wanted.all fun stage => latch.published.contains stage

/-- A parked waiter is notified; all others are where they were. -/
def notify (waiter : Waiter) : Waiter :=
  if waiter.phase = .parked then { waiter with phase := .woken } else waiter

/-- Gives a waiter another phase. -/
def setWaiter (latch : Latch) (index : Nat) (waiter : Waiter) (phase : Waiter.Phase) : Latch :=
  { latch with waiters := latch.waiters.set index { waiter with phase := phase } }

/-- Gives a publisher another phase. -/
def setPublisher (latch : Latch) (index : Nat) (publisher : Publisher) (phase : Publisher.Phase) :
    Latch :=
  { latch with publishers := latch.publishers.set index { publisher with phase := phase } }

/-- The next step of a waiter; none while it is parked, has returned or cannot have the lock. -/
def stepWaiter? (latch : Latch) (index : Nat) (waiter : Waiter) : Option Latch :=
  match waiter.phase with
  | .outside =>
    some (latch.setWaiter index waiter (if latch.offers waiter.wanted then .returned else .entering))
  | .entering | .woken =>
    if latch.holder = none then
      some { latch.setWaiter index waiter .checking with holder := some (.waiter index) }
    else none
  | .checking => some (latch.setWaiter index waiter (.checked (latch.offers waiter.wanted)))
  | .checked offered =>
    some
      { latch.setWaiter index waiter (if offered then .returned else .parked) with holder := none }
  | .parked | .returned => none

/-- The next step of a publisher; none if it is done or cannot have the lock. -/
def stepPublisher? (latch : Latch) (index : Nat) (publisher : Publisher) : Option Latch :=
  match publisher.phase with
  | .entering =>
    if latch.holder = none then
      some { latch.setPublisher index publisher .setting with holder := some (.publisher index) }
    else none
  | .setting =>
    some
      { latch.setPublisher index publisher .notifying with
          published := latch.published ++ publisher.stages }
  | .notifying =>
    some
      { latch.setPublisher index publisher .leaving with waiters := latch.waiters.map notify }
  | .leaving => some { latch.setPublisher index publisher .done with holder := none }
  | .done => none

/-- A parked waiter wakes. -/
def wake? (latch : Latch) (index : Nat) (waiter : Waiter) : Option Latch :=
  if waiter.phase = .parked then some (latch.setWaiter index waiter .woken) else none

/-- What a move makes of a latch, if it can be made. -/
def move? (latch : Latch) : Move → Option Latch
  | .waiter index => latch.waiters[index]?.bind (latch.stepWaiter? index)
  | .publisher index => latch.publishers[index]?.bind (latch.stepPublisher? index)
  | .wake index => latch.waiters[index]?.bind (latch.wake? index)

/-- A latch at which nothing has happened, with threads that want and publish some stages. -/
def start (wanted publications : List (List Stage)) : Latch where
  waiters := wanted.map fun stages => { wanted := stages }
  publishers := publications.map fun stages => { stages := stages }

/-- What can become of a latch at which nothing has happened. -/
inductive Reachable : Latch → Prop where
  | start (wanted publications : List (List Stage)) : Reachable (start wanted publications)
  | move {latch next : Latch} (move : Move) (reachable : Reachable latch)
      (h : latch.move? move = some next) : Reachable next

/-- Published stages stay published. -/
theorem offers_append (latch : Latch) (wanted more : List Stage) (h : latch.offers wanted = true) :
    { latch with published := latch.published ++ more : Latch }.offers wanted = true := by
  simp only [offers, List.all_eq_true, List.contains_iff_mem, List.mem_append] at h ⊢
  exact fun stage member => .inl (h stage member)

/-- Nobody is left parked by a notification. -/
theorem phase_notify (waiter : Waiter) : (notify waiter).phase ≠ .parked := by
  unfold notify
  split
  · simp
  · assumption

end Latch

end SystemMenu
