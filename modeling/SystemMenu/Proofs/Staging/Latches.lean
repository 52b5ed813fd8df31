import SystemMenu.Staging.Latch

/-!
# What a latch keeps

A waiter keeps the lock from its look until it returns or is parked, and a publisher keeps it from before
it sets its stages until after it has notified. So nothing is published between the look of a waiter and
its parking, and whoever is parked while its stages are there is about to be notified.

## Main statements

* `Latch.Step.of_move?`: what one step of one thread can do.
* `Latch.Locked.step`: only the holder of the lock is in a phase with the lock.
* `Latch.Attentive.step`: no waiter is mistaken, and none is passed over.
* `Latch.Sound.move`: both hold along every sequence of moves.
-/

namespace SystemMenu

/-- A waiter has the lock from before its look until it returns or is parked. -/
def Waiter.Phase.hasLock : Waiter.Phase → Bool
  | .checking | .checked _ => true
  | .outside | .entering | .parked | .woken | .returned => false

/-- A publisher has the lock from before it sets its stages until it gives the lock back. -/
def Publisher.Phase.hasLock : Publisher.Phase → Bool
  | .setting | .notifying | .leaving => true
  | .entering | .done => false

namespace Latch

/-- What one step of one thread can do. -/
inductive Step (latch : Latch) : Latch → Prop where
  | look {index : Nat} {waiter : Waiter} (here : latch.waiters[index]? = some waiter)
      (phase : waiter.phase = .outside) :
      Step latch (latch.setWaiter index waiter
        (if latch.offers waiter.wanted then .returned else .entering))
  | enter {index : Nat} {waiter : Waiter} (here : latch.waiters[index]? = some waiter)
      (phase : waiter.phase = .entering ∨ waiter.phase = .woken) (free : latch.holder = none) :
      Step latch { latch.setWaiter index waiter .checking with holder := some (.waiter index) }
  | check {index : Nat} {waiter : Waiter} (here : latch.waiters[index]? = some waiter)
      (phase : waiter.phase = .checking) :
      Step latch (latch.setWaiter index waiter (.checked (latch.offers waiter.wanted)))
  | leave {index : Nat} {waiter : Waiter} {offered : Bool}
      (here : latch.waiters[index]? = some waiter) (phase : waiter.phase = .checked offered) :
      Step latch
        { latch.setWaiter index waiter (if offered then .returned else .parked) with holder := none }
  | wake {index : Nat} {waiter : Waiter} (here : latch.waiters[index]? = some waiter)
      (phase : waiter.phase = .parked) : Step latch (latch.setWaiter index waiter .woken)
  | begin {index : Nat} {publisher : Publisher} (here : latch.publishers[index]? = some publisher)
      (phase : publisher.phase = .entering) (free : latch.holder = none) :
      Step latch
        { latch.setPublisher index publisher .setting with holder := some (.publisher index) }
  | set {index : Nat} {publisher : Publisher} (here : latch.publishers[index]? = some publisher)
      (phase : publisher.phase = .setting) :
      Step latch
        { latch.setPublisher index publisher .notifying with
            published := latch.published ++ publisher.stages }
  | notify {index : Nat} {publisher : Publisher}
      (here : latch.publishers[index]? = some publisher) (phase : publisher.phase = .notifying) :
      Step latch
        { latch.setPublisher index publisher .leaving with
            waiters := latch.waiters.map Latch.notify }
  | finish {index : Nat} {publisher : Publisher}
      (here : latch.publishers[index]? = some publisher) (phase : publisher.phase = .leaving) :
      Step latch { latch.setPublisher index publisher .done with holder := none }

variable {latch next : Latch}

theorem Step.of_stepWaiter? {index : Nat} {waiter : Waiter}
    (here : latch.waiters[index]? = some waiter) (h : latch.stepWaiter? index waiter = some next) :
    latch.Step next := by
  cases phase : waiter.phase with
  | outside =>
      simp only [stepWaiter?, phase, Option.some.injEq] at h
      exact h ▸ .look here phase
  | entering | woken =>
      simp only [stepWaiter?, phase, Option.ite_none_right_eq_some, Option.some.injEq] at h
      exact h.2 ▸ .enter here (by simp [phase]) h.1
  | checking =>
      simp only [stepWaiter?, phase, Option.some.injEq] at h
      exact h ▸ .check here phase
  | checked offered =>
      simp only [stepWaiter?, phase, Option.some.injEq] at h
      exact h ▸ .leave here phase
  | parked | returned => simp [stepWaiter?, phase] at h

theorem Step.of_stepPublisher? {index : Nat} {publisher : Publisher}
    (here : latch.publishers[index]? = some publisher)
    (h : latch.stepPublisher? index publisher = some next) : latch.Step next := by
  cases phase : publisher.phase with
  | entering =>
      simp only [stepPublisher?, phase, Option.ite_none_right_eq_some, Option.some.injEq] at h
      exact h.2 ▸ .begin here phase h.1
  | setting =>
      simp only [stepPublisher?, phase, Option.some.injEq] at h
      exact h ▸ .set here phase
  | notifying =>
      simp only [stepPublisher?, phase, Option.some.injEq] at h
      exact h ▸ .notify here phase
  | leaving =>
      simp only [stepPublisher?, phase, Option.some.injEq] at h
      exact h ▸ .finish here phase
  | done => simp [stepPublisher?, phase] at h

/-- Every move at a latch is a step of one thread. -/
theorem Step.of_move? {move : Move} (h : latch.move? move = some next) : latch.Step next := by
  cases move with
  | waiter index =>
      obtain ⟨waiter, here, made⟩ := Option.bind_eq_some_iff.1 h
      exact .of_stepWaiter? here made
  | publisher index =>
      obtain ⟨publisher, here, made⟩ := Option.bind_eq_some_iff.1 h
      exact .of_stepPublisher? here made
  | wake index =>
      obtain ⟨waiter, here, made⟩ := Option.bind_eq_some_iff.1 h
      simp only [wake?, Option.ite_none_right_eq_some, Option.some.injEq] at made
      exact made.2 ▸ .wake here made.1

/-- A thread at the latch is in a phase with the lock. -/
def hasLock (latch : Latch) : Member → Bool
  | .waiter index => (latch.waiters[index]?).any fun waiter => waiter.phase.hasLock
  | .publisher index => (latch.publishers[index]?).any fun publisher => publisher.phase.hasLock

/-- The thread that has the lock is the one whose phase says so. -/
def Locked (latch : Latch) : Prop :=
  ∀ member, latch.holder = some member ↔ latch.hasLock member = true

theorem hasLock_waiter {index : Nat} {waiter : Waiter} (here : latch.waiters[index]? = some waiter) :
    latch.hasLock (.waiter index) = waiter.phase.hasLock := by
  simp [hasLock, here]

theorem hasLock_publisher {index : Nat} {publisher : Publisher}
    (here : latch.publishers[index]? = some publisher) :
    latch.hasLock (.publisher index) = publisher.phase.hasLock := by
  simp [hasLock, here]

theorem hasLock_setWaiter {index : Nat} {waiter : Waiter}
    (here : latch.waiters[index]? = some waiter) (phase : Waiter.Phase) (member : Member) :
    (latch.setWaiter index waiter phase).hasLock member =
      if member = .waiter index then phase.hasLock else latch.hasLock member := by
  have inside := (List.getElem?_eq_some_iff.1 here).1
  cases member with
  | waiter other =>
      by_cases same : other = index
      · simp [hasLock, setWaiter, same, inside]
      · simp [hasLock, setWaiter, same, Ne.symm same]
  | publisher other => simp [hasLock, setWaiter]

theorem hasLock_setPublisher {index : Nat} {publisher : Publisher}
    (here : latch.publishers[index]? = some publisher) (phase : Publisher.Phase) (member : Member) :
    (latch.setPublisher index publisher phase).hasLock member =
      if member = .publisher index then phase.hasLock else latch.hasLock member := by
  have inside := (List.getElem?_eq_some_iff.1 here).1
  cases member with
  | waiter other => simp [hasLock, setPublisher]
  | publisher other =>
      by_cases same : other = index
      · simp [hasLock, setPublisher, same, inside]
      · simp [hasLock, setPublisher, same, Ne.symm same]

/-- A notification gives nobody the lock and takes it from nobody. -/
theorem hasLock_notify (waiters : List Waiter) (member : Member) :
    ({ latch with waiters := waiters.map notify } : Latch).hasLock member =
      ({ latch with waiters := waiters } : Latch).hasLock member := by
  have same : ∀ waiter : Waiter, (notify waiter).phase.hasLock = waiter.phase.hasLock := by
    intro waiter
    unfold notify
    split
    · rename_i parked
      simp [parked, Waiter.Phase.hasLock]
    · rfl
  cases member with
  | waiter index => cases h : waiters[index]? <;> simp [hasLock, h, same]
  | publisher index => rfl

namespace Locked

/-- A thread goes on without taking the lock or giving it back. -/
theorem keep (locked : latch.Locked) (holder : next.holder = latch.holder)
    (same : ∀ member, next.hasLock member = latch.hasLock member) : next.Locked := by
  intro member
  rw [holder, same]
  exact locked member

/-- A thread takes the free lock. -/
theorem take (locked : latch.Locked) (free : latch.holder = none) {taker : Member}
    (holder : next.holder = some taker)
    (taken : ∀ member, next.hasLock member = if member = taker then true else latch.hasLock member) :
    next.Locked := by
  intro member
  have without := locked member
  rw [free] at without
  rw [holder, taken]
  split
  · simp [*]
  · grind

/-- The thread that has the lock gives it back. -/
theorem giveBack (locked : latch.Locked) {giver : Member} (has : latch.hasLock giver = true)
    (holder : next.holder = none)
    (given : ∀ member, next.hasLock member = if member = giver then false else latch.hasLock member) :
    next.Locked := by
  intro member
  have giving := (locked giver).2 has
  rw [holder, given]
  split
  · simp
  · have := locked member
    grind

/-- A waiter goes on in a phase that has the lock if the phase before had it. -/
theorem setWaiter (locked : latch.Locked) {index : Nat} {waiter : Waiter} {phase : Waiter.Phase}
    (here : latch.waiters[index]? = some waiter) (same : phase.hasLock = waiter.phase.hasLock) :
    (latch.setWaiter index waiter phase).Locked := by
  refine locked.keep rfl fun member => ?_
  rw [hasLock_setWaiter here, same]
  split
  · rename_i h
    rw [h, hasLock_waiter here]
  · rfl

theorem setPublisher (locked : latch.Locked) {index : Nat} {publisher : Publisher}
    {phase : Publisher.Phase} (here : latch.publishers[index]? = some publisher)
    (same : phase.hasLock = publisher.phase.hasLock) :
    (latch.setPublisher index publisher phase).Locked := by
  refine locked.keep rfl fun member => ?_
  rw [hasLock_setPublisher here, same]
  split
  · rename_i h
    rw [h, hasLock_publisher here]
  · rfl

/-- No step breaks the rule of the lock. -/
theorem step (locked : latch.Locked) (step : latch.Step next) : next.Locked := by
  cases step with
  | look here phase =>
      apply locked.setWaiter here
      rw [phase]
      split <;> rfl
  | enter here phase free => exact locked.take free rfl (hasLock_setWaiter here _)
  | check here phase => exact locked.setWaiter here (by rw [phase]; rfl)
  | @leave index waiter offered here phase =>
      have has : latch.hasLock (.waiter index) = true := by
        rw [hasLock_waiter here, phase]
        rfl
      refine locked.giveBack has rfl fun member => (hasLock_setWaiter here _ member).trans ?_
      cases offered <;> rfl
  | wake here phase => exact locked.setWaiter here (by rw [phase]; rfl)
  | begin here phase free => exact locked.take free rfl (hasLock_setPublisher here _)
  | set here phase => exact locked.setPublisher here (by rw [phase]; rfl)
  | notify here phase =>
      refine (locked.setPublisher here ?_).keep rfl (hasLock_notify latch.waiters)
      rw [phase]
      rfl
  | @finish index publisher here phase =>
      have has : latch.hasLock (.publisher index) = true := by
        rw [hasLock_publisher here, phase]
        rfl
      exact locked.giveBack has rfl (hasLock_setPublisher here _)

end Locked

/-- Some publisher has set its stages and is about to notify. -/
def AboutToNotify (latch : Latch) : Prop :=
  ∃ publisher ∈ latch.publishers, publisher.phase = .notifying

/-- A waiter is not mistaken about what has been published, and it is not left parked for what has been,
unless a publisher is about to notify. -/
structure Serves (latch : Latch) (waiter : Waiter) : Prop where
  granted : waiter.phase = .checked true ∨ waiter.phase = .returned →
    latch.offers waiter.wanted = true
  refused : waiter.phase = .checked false → latch.offers waiter.wanted = false
  parked : waiter.phase = .parked → latch.offers waiter.wanted = true → latch.AboutToNotify

/-- Every waiter at the latch is served. -/
def Attentive (latch : Latch) : Prop := ∀ waiter ∈ latch.waiters, latch.Serves waiter

/-- A publisher that goes on leaves those that are about to notify where they are. -/
theorem AboutToNotify.setPublisher (about : latch.AboutToNotify) {index : Nat}
    {publisher : Publisher} (here : latch.publishers[index]? = some publisher)
    (other : publisher.phase ≠ .notifying) (phase : Publisher.Phase) :
    (latch.setPublisher index publisher phase).AboutToNotify := by
  obtain ⟨notifier, member, notifying⟩ := about
  obtain ⟨position, there⟩ := List.mem_iff_getElem?.1 member
  have elsewhere : index ≠ position := by
    rintro rfl
    rw [here] at there
    cases there
    exact other notifying
  refine ⟨notifier, List.mem_iff_getElem?.2 ⟨position, ?_⟩, notifying⟩
  rw [Latch.setPublisher, List.getElem?_set_ne elsewhere]
  exact there

namespace Attentive

/-- Who has the lock makes no difference. -/
theorem withHolder (attentive : latch.Attentive) (holder : Option Member) :
    ({ latch with holder := holder } : Latch).Attentive := by
  intro waiter member
  have serves := attentive waiter member
  exact ⟨serves.granted, serves.refused, serves.parked⟩

/-- A step of one waiter makes no difference to the others. -/
theorem setWaiter (attentive : latch.Attentive) {index : Nat} {waiter : Waiter}
    {phase : Waiter.Phase} (serves : latch.Serves { waiter with phase := phase }) :
    (latch.setWaiter index waiter phase).Attentive := by
  intro other member
  have unchanged : latch.Serves other := by
    obtain old | rfl := List.mem_or_eq_of_mem_set member
    · exact attentive other old
    · exact serves
  exact ⟨unchanged.granted, unchanged.refused, unchanged.parked⟩

/-- A publisher that does not set its stages and has not just done so makes no difference. -/
theorem setPublisher (attentive : latch.Attentive) {index : Nat} {publisher : Publisher}
    (here : latch.publishers[index]? = some publisher) (other : publisher.phase ≠ .notifying)
    (phase : Publisher.Phase) : (latch.setPublisher index publisher phase).Attentive := by
  intro waiter member
  have serves := attentive waiter member
  exact ⟨serves.granted, serves.refused,
    fun parked offered => (serves.parked parked offered).setPublisher here other phase⟩

/-- Nobody who has been refused is still to be parked when stages are set: that waiter would have the
lock. -/
theorem set (attentive : latch.Attentive) (locked : latch.Locked) {index : Nat}
    {publisher : Publisher} (here : latch.publishers[index]? = some publisher)
    (phase : publisher.phase = .setting) :
    ({ latch.setPublisher index publisher .notifying with
        published := latch.published ++ publisher.stages } : Latch).Attentive := by
  have inside := (List.getElem?_eq_some_iff.1 here).1
  have holder : latch.holder = some (.publisher index) :=
    (locked _).2 (by rw [hasLock_publisher here, phase]; rfl)
  intro waiter (member : waiter ∈ latch.waiters)
  have serves := attentive waiter member
  refine ⟨fun said => ?_, fun refused => ?_, fun _ _ => ?_⟩
  · exact latch.offers_append waiter.wanted publisher.stages (serves.granted said)
  · obtain ⟨position, there⟩ := List.mem_iff_getElem?.1 member
    have other := (locked (.waiter position)).2 (by rw [hasLock_waiter there, refused]; rfl)
    rw [holder] at other
    cases other
  · exact ⟨_, List.mem_set inside _, rfl⟩

/-- After a notification nobody is parked. -/
theorem notify (attentive : latch.Attentive) (publishers : List Publisher) :
    ({ latch with waiters := latch.waiters.map Latch.notify, publishers := publishers } :
      Latch).Attentive := by
  intro waiter member
  obtain ⟨old, oldMember, rfl⟩ := List.mem_map.1 member
  have serves := attentive old oldMember
  refine ⟨fun said => ?_, fun refused => ?_, fun parked => absurd parked (phase_notify old)⟩
  · unfold Latch.notify at said ⊢
    split
    · simp_all
    · exact serves.granted (by simp_all)
  · unfold Latch.notify at refused ⊢
    split
    · simp_all
    · exact serves.refused (by simp_all)

/-- No step leaves a waiter behind. -/
theorem step (attentive : latch.Attentive) (locked : latch.Locked) (step : latch.Step next) :
    next.Attentive := by
  cases step with
  | @look index waiter here phase =>
      apply attentive.setWaiter
      cases offered : latch.offers waiter.wanted <;> constructor <;> simp [offered]
  | @enter index waiter here phase free =>
      have checking : latch.Serves { waiter with phase := .checking } := by constructor <;> simp
      exact (attentive.setWaiter checking).withHolder _
  | @check index waiter here phase =>
      apply attentive.setWaiter
      cases offered : latch.offers waiter.wanted <;> constructor <;> simp [offered]
  | @leave index waiter offered here phase =>
      have serves := attentive waiter (List.mem_of_getElem? here)
      have left : latch.Serves
          { waiter with phase := if offered then .returned else .parked } := by
        cases offered with
        | true => constructor <;> simp [serves.granted (.inl phase)]
        | false => constructor <;> simp [serves.refused phase]
      exact (attentive.setWaiter left).withHolder _
  | wake here phase => exact attentive.setWaiter (by constructor <;> simp)
  | begin here phase free =>
      exact (attentive.setPublisher here (by simp [phase]) .setting).withHolder _
  | set here phase => exact attentive.set locked here phase
  | notify here phase => exact attentive.notify _
  | finish here phase =>
      exact (attentive.setPublisher here (by simp [phase]) .done).withHolder _

end Attentive

/-- The lock is kept as it should be, and nobody is passed over. -/
structure Sound (latch : Latch) : Prop where
  locked : latch.Locked
  attentive : latch.Attentive

theorem sound_empty : Sound {} where
  locked member := by cases member <;> simp [hasLock]
  attentive := by simp [Attentive]

namespace Sound

/-- No move breaks the invariant. -/
theorem move (sound : latch.Sound) {move : Move} (h : latch.move? move = some next) :
    next.Sound where
  locked := sound.locked.step (.of_move? h)
  attentive := sound.attentive.step sound.locked (.of_move? h)

/-- A waiter that comes has not looked yet. -/
theorem addWaiter (sound : latch.Sound) (wanted : List Stage) :
    ({ latch with waiters := latch.waiters ++ [{ wanted := wanted }] } : Latch).Sound where
  locked := by
    refine sound.locked.keep rfl fun member => ?_
    cases member with
    | waiter index =>
        simp only [hasLock, List.getElem?_append, List.getElem?_singleton]
        grind [Waiter.Phase.hasLock]
    | publisher index => rfl
  attentive := by
    intro waiter member
    obtain old | new := List.mem_append.1 member
    · have serves := sound.attentive waiter old
      exact ⟨serves.granted, serves.refused, serves.parked⟩
    · rw [List.mem_singleton.1 new]
      constructor <;> simp

/-- A publisher that comes does not have the lock yet. -/
theorem addPublisher (sound : latch.Sound) (stages : List Stage) :
    ({ latch with publishers := latch.publishers ++ [{ stages := stages }] } : Latch).Sound where
  locked := by
    refine sound.locked.keep rfl fun member => ?_
    cases member with
    | waiter index => rfl
    | publisher index =>
        simp only [hasLock, List.getElem?_append, List.getElem?_singleton]
        grind [Publisher.Phase.hasLock]
  attentive := by
    intro waiter member
    have serves := sound.attentive waiter member
    refine ⟨serves.granted, serves.refused, fun parked offered => ?_⟩
    obtain ⟨publisher, there, notifying⟩ := serves.parked parked offered
    exact ⟨publisher, List.mem_append_left _ there, notifying⟩

end Sound

end Latch

end SystemMenu
