import SystemMenu.Proofs.Staging.Latches

/-!
# No wakeup is lost

Between the look with which a waiter decides to be parked and its parking nothing can be published, since
the waiter has the lock; and between setting its stages and notifying a publisher does not give the lock
back. So a waiter is parked for stages that are there only while a publisher has the lock and is about to
wake everybody.

The look that a waiter takes before it has the lock plays no part in this: if it does not find its stages,
the waiter looks again.

## Main statements

* `Latch.Reachable.sound`: the invariant of a latch along every sequence of moves.
* `Latch.Sound.notifier_of_parked`: who has the lock while somebody is parked for nothing.
* `Latch.Step.offers_of_returns`: what a waiter has seen when it returns.
* `Latch.Reachable.no_wakeup_lost`: nobody sleeps through a publication or returns without one.
-/

namespace SystemMenu.Latch

variable {latch next : Latch}

/-- At first nobody has the lock and nobody has looked. -/
theorem sound_start (wanted publications : List (List Stage)) : (start wanted publications).Sound where
  locked member := by
    cases member with
    | waiter index => cases h : wanted[index]? <;> simp [start, hasLock, h, Waiter.Phase.hasLock]
    | publisher index =>
        cases h : publications[index]? <;> simp [start, hasLock, h, Publisher.Phase.hasLock]
  attentive waiter member := by
    obtain ⟨stages, -, rfl⟩ := List.mem_map.1 member
    constructor <;> simp

/-- What becomes of a latch is sound, whatever threads are at it and in whatever order they go on. -/
theorem Reachable.sound (reachable : Reachable latch) : latch.Sound := by
  induction reachable with
  | start wanted publications => exact sound_start wanted publications
  | move move _ h ih => exact ih.move h

/-- While somebody is parked for stages that are there, a publisher has the lock to notify. -/
theorem Sound.notifier_of_parked (sound : latch.Sound) {waiter : Waiter}
    (member : waiter ∈ latch.waiters) (parked : waiter.phase = .parked)
    (offered : latch.offers waiter.wanted = true) :
    ∃ index publisher, latch.holder = some (.publisher index) ∧
      latch.publishers[index]? = some publisher ∧ publisher.phase = .notifying := by
  obtain ⟨publisher, there, notifying⟩ := (sound.attentive waiter member).parked parked offered
  obtain ⟨index, here⟩ := List.mem_iff_getElem?.1 there
  refine ⟨index, publisher, (sound.locked _).2 ?_, here, notifying⟩
  rw [hasLock_publisher here, notifying]
  rfl

/-- A publisher that is about to notify can do so at once, and afterwards nobody is parked. -/
theorem exists_notified {index : Nat} {publisher : Publisher}
    (here : latch.publishers[index]? = some publisher) (notifying : publisher.phase = .notifying) :
    ∃ next, latch.move? (.publisher index) = some next ∧
      ∀ waiter ∈ next.waiters, waiter.phase ≠ .parked := by
  refine ⟨{ latch.setPublisher index publisher .leaving with waiters := latch.waiters.map notify },
    by simp [move?, here, stepPublisher?, notifying], fun waiter member => ?_⟩
  obtain ⟨old, -, rfl⟩ := List.mem_map.1 member
  exact phase_notify old

/-- A step of one waiter gives this waiter its new phase and leaves all others where they were. -/
theorem getElem?_setWaiter {index position : Nat} {waiter before after : Waiter}
    {phase : Waiter.Phase} (here : latch.waiters[index]? = some waiter)
    (old : latch.waiters[position]? = some before)
    (new : (latch.setWaiter index waiter phase).waiters[position]? = some after) :
    before = waiter ∧ after = { waiter with phase := phase } ∨ after = before := by
  by_cases same : position = index
  · subst same
    have inside := (List.getElem?_eq_some_iff.1 here).1
    refine .inl ⟨Option.some.inj (old.symm.trans here), ?_⟩
    simpa [setWaiter, inside] using new.symm
  · rw [setWaiter, List.getElem?_set_ne (Ne.symm same), old] at new
    exact .inr (Option.some.inj new.symm)

/-- A waiter returns after it has found its stages, at its first look or at its last one with the lock. -/
theorem Step.looked_of_returns (step : latch.Step next) {position : Nat} {before after : Waiter}
    (old : latch.waiters[position]? = some before) (new : next.waiters[position]? = some after)
    (waits : before.phase ≠ .returned) (returned : after.phase = .returned) :
    after.wanted = before.wanted ∧
      (before.phase = .checked true ∨ latch.offers before.wanted = true) := by
  cases step with
  | @look index waiter here phase =>
      obtain ⟨rfl, rfl⟩ | rfl := getElem?_setWaiter here old new
      · refine ⟨rfl, .inr ?_⟩
        simpa using returned
      · exact absurd returned waits
  | @leave index waiter offered here phase =>
      obtain ⟨rfl, rfl⟩ | rfl := getElem?_setWaiter here old new
      · refine ⟨rfl, .inl ?_⟩
        cases offered with
        | true => exact phase
        | false => simp at returned
      · exact absurd returned waits
  | enter here | check here | wake here =>
      obtain ⟨rfl, rfl⟩ | rfl := getElem?_setWaiter here old new
      · cases returned
      · exact absurd returned waits
  | begin | set | finish =>
      obtain rfl : before = after := Option.some.inj (old.symm.trans new)
      exact absurd returned waits
  | notify =>
      obtain ⟨waiter, same, rfl⟩ := Option.map_eq_some_iff.1 (List.getElem?_map ▸ new)
      obtain rfl : before = waiter := Option.some.inj (old.symm.trans same)
      unfold Latch.notify at returned
      split at returned
      · cases returned
      · exact absurd returned waits

/-- When a waiter returns, everything that it wants has been published. -/
theorem Sound.offers_of_returns (sound : latch.Sound) (step : latch.Step next) {position : Nat}
    {before after : Waiter} (old : latch.waiters[position]? = some before)
    (new : next.waiters[position]? = some after) (waits : before.phase ≠ .returned)
    (returned : after.phase = .returned) :
    after.wanted = before.wanted ∧ latch.offers before.wanted = true := by
  obtain ⟨same, granted | offered⟩ := step.looked_of_returns old new waits returned
  · exact ⟨same, (sound.attentive before (List.mem_of_getElem? old)).granted (.inl granted)⟩
  · exact ⟨same, offered⟩

/-- What a sequence of moves makes of a latch, if all can be made. -/
def moves? (latch : Latch) (moves : List Move) : Option Latch := moves.foldlM move? latch

/-- Whatever a sequence of moves makes of a reachable latch is reachable. -/
theorem Reachable.moves (reachable : Reachable latch) (moves : List Move)
    (h : latch.moves? moves = some next) : Reachable next := by
  induction moves generalizing latch with
  | nil =>
      cases h
      exact reachable
  | cons first rest ih =>
      obtain ⟨between, made, others⟩ := Option.bind_eq_some_iff.1 h
      exact ih (.move first reachable made) others

/-- Whatever threads wait and publish, and in whatever order they go on: while nobody has the lock, no
waiter is parked for stages that have all been published. If one is while somebody has the lock, it is a
publisher whose next step, which it can make at once, wakes everybody. A waiter returns when everything
that it wants has been published, and whoever has returned finds it published from then on. -/
theorem Reachable.no_wakeup_lost (reachable : Reachable latch) :
    (latch.holder = none → ∀ waiter ∈ latch.waiters, waiter.phase = .parked →
      latch.offers waiter.wanted = false) ∧
    (∀ waiter ∈ latch.waiters, waiter.phase = .parked → latch.offers waiter.wanted = true →
      ∃ index next, latch.holder = some (.publisher index) ∧
        latch.move? (.publisher index) = some next ∧
        ∀ waiter ∈ next.waiters, waiter.phase ≠ .parked) ∧
    (∀ (move : Move) (next : Latch), latch.move? move = some next →
      ∀ (position : Nat) (before after : Waiter), latch.waiters[position]? = some before →
        next.waiters[position]? = some after → before.phase ≠ .returned →
          after.phase = .returned →
            after.wanted = before.wanted ∧ latch.offers before.wanted = true) ∧
    ∀ waiter ∈ latch.waiters, waiter.phase = .returned → latch.offers waiter.wanted = true := by
  have sound := reachable.sound
  refine ⟨fun free waiter member parked => ?_, fun waiter member parked offered => ?_,
    fun move next made position before after old new waits returned =>
      sound.offers_of_returns (.of_move? made) old new waits returned,
    fun waiter member returned => (sound.attentive waiter member).granted (.inr returned)⟩
  · rw [Bool.eq_false_iff]
    intro offered
    obtain ⟨index, _, holder, -⟩ := sound.notifier_of_parked member parked offered
    rw [free] at holder
    cases holder
  · obtain ⟨index, publisher, holder, here, notifying⟩ :=
      sound.notifier_of_parked member parked offered
    obtain ⟨next, made, awake⟩ := exists_notified here notifying
    exact ⟨index, next, holder, made, awake⟩

/-- The second waiter is parked. The first one looks in vain, and before it can take the lock the list is
published. It then finds the list and returns, while the other one, woken by the publication and after
that for no reason, is parked again each time. -/
def overtaken : List Move :=
  List.replicate 4 (.waiter 1) ++ .waiter 0 :: List.replicate 4 (.publisher 0) ++
    List.replicate 3 (.waiter 0) ++ List.replicate 3 (.waiter 1) ++
    .wake 1 :: List.replicate 3 (.waiter 1)

theorem Reachable.no_wakeup_lost_overtaken :
    ∃ latch, Reachable latch ∧ latch.holder = none ∧
      latch.waiters = [⟨[.sortedList], .returned⟩, ⟨[.sortedList, .biosCount], .parked⟩] ∧
      latch.offers [.sortedList] = true ∧ latch.offers [.sortedList, .biosCount] = false := by
  let latch : Latch :=
    { published := [.sortedList]
      waiters := [⟨[.sortedList], .returned⟩, ⟨[.sortedList, .biosCount], .parked⟩]
      publishers := [⟨[.sortedList], .done⟩] }
  have made : (Latch.start [[.sortedList], [.sortedList, .biosCount]] [[.sortedList]]).moves?
      overtaken = some latch := by decide +kernel
  have reachable : Reachable latch := .moves (.start ..) overtaken made
  obtain ⟨asleep, -, -, served⟩ := reachable.no_wakeup_lost
  refine ⟨latch, reachable, rfl, rfl, ?_, ?_⟩
  · exact served ⟨[.sortedList], .returned⟩ List.mem_cons_self rfl
  · exact asleep rfl ⟨[.sortedList, .biosCount], .parked⟩ (List.mem_of_mem_tail List.mem_cons_self) rfl

end SystemMenu.Latch
