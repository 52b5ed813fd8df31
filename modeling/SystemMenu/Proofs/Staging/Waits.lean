import SystemMenu.Proofs.Staging.Latches
import SystemMenu.Staging.Lobby

/-!
# Threads that wait across generations

A thread waits at the latch of the generation that was current when it came, and a reset does not send it
on. As long as its generation is the current one it is notified as soon as its stages are there. If the
generation was given up before, because no build was started for it or the build failed, the thread is
parked for good, even when a later generation publishes everything that it waits for.

A caller that looks twice before it takes the lock is after the first look where it was before, so it is
one of the waiters here.

## Main statements

* `Lobby.Sound.move`: no move breaks the invariant.
* `Lobby.Sound.keeps_moves`: nothing is ever published for an older generation.
* `Lobby.Reachable.parked_only_if_given_up`: who is still parked when stages are there.
* `Lobby.parked_after_reset`: a thread that is parked for good.
-/

namespace SystemMenu

namespace Latch

variable {latch next : Latch}

/-- Nothing more was published, and the same waiters want the same. -/
structure Stays (before after : Latch) : Prop where
  published : after.published = before.published
  wanted : after.waiters.map Waiter.wanted = before.waiters.map Waiter.wanted

theorem Stays.refl (latch : Latch) : latch.Stays latch := ⟨rfl, rfl⟩

theorem Stays.trans {a b c : Latch} (first : a.Stays b) (second : b.Stays c) : a.Stays c :=
  ⟨second.published.trans first.published, second.wanted.trans first.wanted⟩

theorem wanted_setWaiter {index : Nat} {waiter : Waiter} (here : latch.waiters[index]? = some waiter)
    (phase : Waiter.Phase) :
    (latch.setWaiter index waiter phase).waiters.map Waiter.wanted =
      latch.waiters.map Waiter.wanted := by
  obtain ⟨inside, rfl⟩ := List.getElem?_eq_some_iff.1 here
  rw [setWaiter, List.map_set, ← List.getElem_map Waiter.wanted (h := by simpa using inside),
    List.set_getElem_self]

theorem Stays.offers_eq {before after : Latch} (stays : before.Stays after) (wanted : List Stage) :
    after.offers wanted = before.offers wanted := by
  rw [offers, offers, stays.published]

/-- The waiter at a position is still there. -/
theorem Stays.getElem?_waiters {before after : Latch} (stays : before.Stays after) {index : Nat}
    {waiter : Waiter} (here : before.waiters[index]? = some waiter) :
    ∃ later, after.waiters[index]? = some later ∧ later.wanted = waiter.wanted := by
  have same := congrArg (·[index]?) stays.wanted
  simp only [List.getElem?_map, here, Option.map_some] at same
  exact Option.map_eq_some_iff.1 same

/-- Where all publishers are done, nobody is parked for stages that are there. -/
theorem Sound.not_offered_of_parked (sound : latch.Sound) (quiet : Lobby.isQuiet latch = true)
    {waiter : Waiter} (member : waiter ∈ latch.waiters) (parked : waiter.phase = .parked) :
    latch.offers waiter.wanted = false := by
  rw [Bool.eq_false_iff]
  intro offered
  obtain ⟨publisher, there, notifying⟩ := (sound.attentive waiter member).parked parked offered
  have done : publisher.phase = .done := by simpa using List.all_eq_true.1 quiet publisher there
  rw [notifying] at done
  cases done

/-- A thread whose wait has returned was served. -/
theorem Sound.offered_of_returned (sound : latch.Sound) {waiter : Waiter}
    (member : waiter ∈ latch.waiters) (returned : waiter.phase = .returned) :
    latch.offers waiter.wanted = true :=
  (sound.attentive waiter member).granted (.inr returned)

/-- Where all publishers are done, a step publishes nothing. -/
theorem Step.stays (step : latch.Step next) (quiet : Lobby.isQuiet latch = true) :
    latch.Stays next ∧ Lobby.isQuiet next = true := by
  have done : ∀ (index : Nat) (publisher : Publisher),
      latch.publishers[index]? = some publisher → publisher.phase = .done := by
    intro index publisher here
    simpa using List.all_eq_true.1 quiet publisher (List.mem_of_getElem? here)
  cases step with
  | look here phase | check here phase | wake here phase | enter here phase | leave here phase =>
      exact ⟨⟨rfl, wanted_setWaiter here _⟩, quiet⟩
  | begin here phase | set here phase | notify here phase | finish here phase =>
      rw [done _ _ here] at phase
      cases phase

end Latch

namespace Lobby

variable {lobby next : Lobby}

@[simp] theorem current_setLatch (lobby : Lobby) (number : Nat) (latch : Latch) :
    (lobby.setLatch number latch).current = lobby.current := by
  simp [setLatch, current]

theorem latch_setLatch_of_ne (lobby : Lobby) {number other : Nat} (latch : Latch)
    (elsewhere : other ≠ number) : (lobby.setLatch number latch).latch other = lobby.latch other := by
  simp [setLatch, Lobby.latch, List.getElem?_set_ne (Ne.symm elsewhere)]

theorem latch_setLatch_self (lobby : Lobby) {number : Nat} (latch : Latch)
    (inside : number < lobby.latches.length) : (lobby.setLatch number latch).latch number = latch := by
  simp [setLatch, Lobby.latch, inside]

/-- What a build does when it begins to publish a stage. -/
theorem publish?_eq_some (h : lobby.publish? = some next) :
    ∃ number stage todo, lobby.work = some ⟨number, stage :: todo⟩ ∧
      next = { lobby.setLatch number { lobby.latch number with
          publishers := (lobby.latch number).publishers ++ [{ stages := [stage] }] } with
        work := some ⟨number, todo⟩ } := by
  unfold publish? at h
  split at h
  · rename_i number stage todo running
    simp only [Option.ite_none_right_eq_some, Option.some.injEq] at h
    exact ⟨number, stage, todo, running, h.2.symm⟩
  · cases h

/-- What a build does when it ends. -/
theorem endBuild?_eq_some (h : lobby.endBuild? = some next) :
    ∃ work, lobby.work = some work ∧ isQuiet (lobby.latch work.generation) = true ∧
      next = { lobby with work := none } := by
  unfold endBuild? at h
  split at h
  · rename_i work running
    simp only [Option.ite_none_right_eq_some, Option.some.injEq] at h
    exact ⟨work, running, h.1, h.2.symm⟩
  · cases h

/-- A latch of a generation that was just opened is like one that does not exist yet. -/
theorem latch_reset (h : lobby.reset? = some next) (number : Nat) :
    next.latch number = lobby.latch number := by
  simp only [reset?, Option.ite_none_right_eq_some, Option.some.injEq] at h
  obtain ⟨-, rfl⟩ := h
  simp only [Lobby.latch, List.getElem?_append, List.getElem?_singleton]
  split
  · rfl
  · rename_i beyond
    rw [List.getElem?_eq_none (by omega)]
    split <;> rfl

/-- Every latch is sound, a build publishes for the current generation, and nobody else publishes. -/
structure Sound (lobby : Lobby) : Prop where
  nonempty : lobby.latches ≠ []
  latches : ∀ latch ∈ lobby.latches, latch.Sound
  ahead : ∀ work, lobby.work = some work → work.generation = lobby.current
  quiet : ∀ number, lobby.work = none ∨ number ≠ lobby.current →
    isQuiet (lobby.latch number) = true

namespace Sound

theorem current_lt (sound : lobby.Sound) : lobby.current < lobby.latches.length := by
  have := List.length_pos_iff.2 sound.nonempty
  simp only [current]
  omega

theorem latch (sound : lobby.Sound) (number : Nat) : (lobby.latch number).Sound := by
  simp only [Lobby.latch]
  cases h : lobby.latches[number]? with
  | none => exact Latch.sound_empty
  | some latch => exact sound.latches latch (List.mem_of_getElem? h)

/-- The latch of a generation is replaced. -/
theorem setLatch (sound : lobby.Sound) {number : Nat} (inside : number < lobby.latches.length)
    {latch : Latch} (kept : latch.Sound)
    (quiet : lobby.work = none ∨ number ≠ lobby.current → isQuiet latch = true) :
    (lobby.setLatch number latch).Sound where
  nonempty := by simpa [Lobby.setLatch] using sound.nonempty
  latches other member := by
    obtain old | rfl := List.mem_or_eq_of_mem_set member
    · exact sound.latches other old
    · exact kept
  ahead work known := by
    rw [current_setLatch]
    exact sound.ahead work known
  quiet other idle := by
    rw [current_setLatch] at idle
    by_cases here : other = number
    · subst here
      rw [latch_setLatch_self _ _ inside]
      exact quiet idle
    · rw [latch_setLatch_of_ne _ _ here]
      exact sound.quiet other idle

/-- While a build runs, only the latch of the current generation may be in use by publishers. -/
theorem withWork (sound : lobby.Sound) {work : Work} (ahead : work.generation = lobby.current)
    (started : Bool) :
    ({ lobby with started := started, work := some work } : Lobby).Sound where
  nonempty := sound.nonempty
  latches := sound.latches
  ahead other known := by
    cases known
    exact ahead
  quiet number idle := by
    obtain none | older := idle
    · cases none
    · exact sound.quiet number (.inr older)

theorem arrive (sound : lobby.Sound) (wanted : List Stage) : (lobby.arrive wanted).Sound :=
  sound.setLatch sound.current_lt ((sound.latch _).addWaiter wanted) (sound.quiet _)

theorem atLatch (sound : lobby.Sound) {number : Nat} {latch after : Latch} {move : Latch.Move}
    (here : lobby.latches[number]? = some latch) (made : latch.move? move = some after) :
    (lobby.setLatch number after).Sound := by
  have same : lobby.latch number = latch := by simp [Lobby.latch, here]
  have kept := sound.latches latch (List.mem_of_getElem? here)
  refine sound.setLatch (List.getElem?_eq_some_iff.1 here).1 (kept.move made) fun idle => ?_
  have quiet := sound.quiet number idle
  rw [same] at quiet
  exact ((Latch.Step.of_move? made).stays quiet).2

theorem publish (sound : lobby.Sound) (h : lobby.publish? = some next) : next.Sound := by
  obtain ⟨number, stage, todo, running, rfl⟩ := publish?_eq_some h
  have ahead : number = lobby.current := sound.ahead _ running
  have inside : number < lobby.latches.length := ahead ▸ sound.current_lt
  have published := sound.setLatch inside ((sound.latch number).addPublisher [stage])
    (by simp [running, ahead])
  exact published.withWork (ahead.trans (current_setLatch ..).symm) lobby.started

theorem beginBuild (sound : lobby.Sound) : lobby.beginBuild.Sound := by
  unfold Lobby.beginBuild
  split
  · exact sound
  · exact sound.withWork rfl true

theorem endBuild (sound : lobby.Sound) (h : lobby.endBuild? = some next) : next.Sound := by
  obtain ⟨work, running, ended, rfl⟩ := endBuild?_eq_some h
  refine ⟨sound.nonempty, sound.latches, by simp, fun number _ => ?_⟩
  by_cases here : number = lobby.current
  · rw [sound.ahead work running] at ended
    rw [here]
    exact ended
  · exact sound.quiet number (.inr here)

theorem reset (sound : lobby.Sound) (h : lobby.reset? = some next) : next.Sound := by
  have same := latch_reset h
  simp only [reset?, Option.ite_none_right_eq_some, Option.some.injEq] at h
  obtain ⟨idle, rfl⟩ := h
  refine ⟨by simp, fun latch member => ?_, by simp, fun number _ => ?_⟩
  · obtain old | new := List.mem_append.1 member
    · exact sound.latches latch old
    · rw [List.mem_singleton.1 new]
      exact Latch.sound_empty
  · rw [same]
    exact sound.quiet number (.inl idle)

/-- No move breaks the invariant. -/
theorem move (sound : lobby.Sound) {move : Move} (h : lobby.move? move = some next) :
    next.Sound := by
  cases move with
  | arrive wanted =>
      cases h
      exact sound.arrive wanted
  | atLatch number move =>
      obtain ⟨latch, here, made⟩ := Option.bind_eq_some_iff.1 h
      obtain ⟨after, moved, rfl⟩ := Option.map_eq_some_iff.1 made
      exact sound.atLatch here moved
  | beginBuild =>
      cases h
      exact sound.beginBuild
  | publish => exact sound.publish h
  | endBuild => exact sound.endBuild h
  | reset => exact sound.reset h

end Sound

/-- Threads wait in generations that have been opened. -/
theorem le_current_of_mem {number : Nat} {waiter : Waiter}
    (member : waiter ∈ (lobby.latch number).waiters) : number ≤ lobby.current := by
  by_cases inside : number < lobby.latches.length
  · simp only [current]
    omega
  · simp [latch, List.getElem?_eq_none (Nat.le_of_not_lt inside)] at member

theorem Reachable.sound (reachable : Reachable lobby) : lobby.Sound := by
  induction reachable with
  | start =>
      refine ⟨by simp, by simp [Latch.sound_empty], by simp, fun number _ => ?_⟩
      cases number <;> rfl
  | move move _ h ih => exact ih.move h

/-- What becomes of the latches of older generations. -/
structure Keeps (before after : Lobby) : Prop where
  current_le : before.current ≤ after.current
  older : ∀ number, number < before.current → (before.latch number).Stays (after.latch number)

namespace Keeps

theorem refl (lobby : Lobby) : lobby.Keeps lobby := ⟨Nat.le_refl _, fun _ _ => .refl _⟩

theorem trans {a b c : Lobby} (first : a.Keeps b) (second : b.Keeps c) : a.Keeps c where
  current_le := Nat.le_trans first.current_le second.current_le
  older number old :=
    (first.older number old).trans (second.older number (Nat.lt_of_lt_of_le old first.current_le))

/-- Only the latch of the current generation is touched. -/
theorem setLatch (lobby : Lobby) (latch : Latch) :
    lobby.Keeps (lobby.setLatch lobby.current latch) where
  current_le := Nat.le_of_eq (current_setLatch ..).symm
  older number old := by
    rw [latch_setLatch_of_ne _ _ (Nat.ne_of_lt old)]
    exact .refl _

end Keeps

/-- A move at the latch of an older generation publishes nothing there. -/
theorem Sound.keeps_atLatch (sound : lobby.Sound) {number : Nat} {latch after : Latch}
    {move : Latch.Move} (here : lobby.latches[number]? = some latch)
    (made : latch.move? move = some after) : lobby.Keeps (lobby.setLatch number after) where
  current_le := Nat.le_of_eq (current_setLatch ..).symm
  older other old := by
    by_cases same : other = number
    · subst same
      have quiet := sound.quiet other (.inr (Nat.ne_of_lt old))
      have found : lobby.latch other = latch := by simp [Lobby.latch, here]
      rw [latch_setLatch_self _ _ (List.getElem?_eq_some_iff.1 here).1, found]
      rw [found] at quiet
      exact ((Latch.Step.of_move? made).stays quiet).1
    · rw [latch_setLatch_of_ne _ _ same]
      exact .refl _

/-- A move publishes nothing for an older generation, and nobody comes to wait for it. -/
theorem Sound.keeps (sound : lobby.Sound) {move : Move} (h : lobby.move? move = some next) :
    lobby.Keeps next := by
  cases move with
  | arrive wanted =>
      cases h
      exact .setLatch lobby _
  | atLatch number move =>
      obtain ⟨latch, here, made⟩ := Option.bind_eq_some_iff.1 h
      obtain ⟨after, moved, rfl⟩ := Option.map_eq_some_iff.1 made
      exact sound.keeps_atLatch here moved
  | beginBuild =>
      cases h
      unfold Lobby.beginBuild
      split
      · exact .refl lobby
      · exact ⟨Nat.le_refl _, fun _ _ => .refl _⟩
  | publish =>
      obtain ⟨number, stage, todo, running, rfl⟩ := publish?_eq_some h
      obtain rfl : number = lobby.current := sound.ahead _ running
      have kept := Keeps.setLatch lobby { lobby.latch lobby.current with
        publishers := (lobby.latch lobby.current).publishers ++ [{ stages := [stage] }] }
      exact ⟨kept.current_le, kept.older⟩
  | endBuild =>
      obtain ⟨work, -, -, rfl⟩ := endBuild?_eq_some h
      exact ⟨Nat.le_refl _, fun _ _ => .refl _⟩
  | reset =>
      have same := latch_reset h
      simp only [move?, reset?, Option.ite_none_right_eq_some, Option.some.injEq] at h
      obtain ⟨-, rfl⟩ := h
      refine ⟨by simp [current], fun number _ => ?_⟩
      rw [same]
      exact .refl _

/-- Whatever happens, nothing more is published for an older generation. -/
theorem Sound.keeps_moves (sound : lobby.Sound) {moves : List Move}
    (h : lobby.moves? moves = some next) : lobby.Keeps next := by
  induction moves generalizing lobby with
  | nil =>
      cases h
      exact .refl _
  | cons first rest ih =>
      obtain ⟨between, made, others⟩ := Option.bind_eq_some_iff.1 h
      exact (sound.keeps made).trans (ih (sound.move made) others)

/-- A thread comes to wait for the list and is parked before any build was started. After a reset a build
publishes the number of BIOS sets and the list, one after the other. -/
def waitThenReset : List Move :=
  .arrive [.sortedList] :: List.replicate 4 (.atLatch 0 (.waiter 0)) ++
    [.reset, .beginBuild] ++
    .publish :: List.replicate 4 (.atLatch 1 (.publisher 0)) ++
    .publish :: List.replicate 4 (.atLatch 1 (.publisher 1))

/-- While the current generation has published some stages and no publication is in progress, a thread
that waits for them is parked only if its own generation was given up without them. So nobody is parked
if every older generation served those who came to wait for these stages. A thread that was not served by
its generation stays: whatever happens later, its wait does not return. -/
theorem Reachable.parked_only_if_given_up (reachable : Reachable lobby) {wanted : List Stage}
    (offered : (lobby.latch lobby.current).offers wanted = true)
    (quiet : isQuiet (lobby.latch lobby.current) = true) :
    (∀ number, ∀ waiter ∈ (lobby.latch number).waiters, waiter.wanted = wanted →
      waiter.phase = .parked →
        number < lobby.current ∧ (lobby.latch number).offers wanted = false) ∧
    ((∀ number, number < lobby.current → ∀ waiter ∈ (lobby.latch number).waiters,
        waiter.wanted = wanted → (lobby.latch number).offers wanted = true) →
      ∀ number, ∀ waiter ∈ (lobby.latch number).waiters, waiter.wanted = wanted →
        waiter.phase ≠ .parked) ∧
    ∀ number, number < lobby.current → (lobby.latch number).offers wanted = false →
      ∀ (moves : List Move) (next : Lobby), lobby.moves? moves = some next →
        (next.latch number).offers wanted = false ∧
        ∀ (index : Nat) (waiter : Waiter), (lobby.latch number).waiters[index]? = some waiter →
          waiter.wanted = wanted →
            ∃ later, (next.latch number).waiters[index]? = some later ∧ later.wanted = wanted ∧
              later.phase ≠ .returned := by
  have sound := reachable.sound
  have unserved : ∀ number, ∀ waiter ∈ (lobby.latch number).waiters, waiter.wanted = wanted →
      waiter.phase = .parked →
        number < lobby.current ∧ (lobby.latch number).offers wanted = false := by
    rintro number waiter member rfl parked
    obtain older | rfl := Nat.lt_or_eq_of_le (le_current_of_mem member)
    · have settled := sound.quiet number (.inr (Nat.ne_of_lt older))
      exact ⟨older, (sound.latch number).not_offered_of_parked settled member parked⟩
    · rw [(sound.latch _).not_offered_of_parked quiet member parked] at offered
      cases offered
  refine ⟨unserved, ?_, ?_⟩
  · intro served number waiter member wants parked
    obtain ⟨older, missing⟩ := unserved number waiter member wants parked
    rw [served number older waiter member wants] at missing
    cases missing
  · intro number older missing moves next made
    have stays := (sound.keeps_moves made).older number older
    have still : (next.latch number).offers wanted = false := by
      rw [stays.offers_eq]
      exact missing
    refine ⟨still, fun index waiter here wants => ?_⟩
    obtain ⟨later, there, same⟩ := stays.getElem?_waiters here
    refine ⟨later, there, same.trans wants, fun returned => ?_⟩
    have served := ((reachable.moves moves made).sound.latch number).offered_of_returned
      (List.mem_of_getElem? there) returned
    rw [same, wants, still] at served
    cases served

theorem Reachable.parked_only_if_given_up_waitThenReset :
    ∃ lobby waiter, Reachable lobby ∧ (lobby.latch lobby.current).offers [.sortedList] = true ∧
      isQuiet (lobby.latch lobby.current) = true ∧ waiter ∈ (lobby.latch 0).waiters ∧
      waiter.wanted = [.sortedList] ∧ waiter.phase = .parked ∧ 0 < lobby.current ∧
      (lobby.latch 0).offers [.sortedList] = false := by
  let lobby := (({} : Lobby).moves? waitThenReset).getD {}
  have reachable : Reachable lobby := .moves .start waitThenReset rfl
  have offered : (lobby.latch lobby.current).offers [.sortedList] = true := by decide
  have quiet : isQuiet (lobby.latch lobby.current) = true := by decide
  have waits : ⟨[.sortedList], .parked⟩ ∈ (lobby.latch 0).waiters := by decide
  obtain ⟨unserved, -⟩ := reachable.parked_only_if_given_up offered quiet
  exact ⟨lobby, _, reachable, offered, quiet, waits, rfl, rfl, unserved 0 _ waits rfl rfl⟩

/-- A reset can leave a thread behind: one that came to wait before it is still parked after the stage
that it waits for has been published, with no publication in progress anywhere. -/
theorem parked_after_reset :
    ∃ lobby, ({} : Lobby).moves? waitThenReset = some lobby ∧
      (lobby.latch lobby.current).offers [.sortedList] = true ∧
      (∀ latch ∈ lobby.latches, isQuiet latch = true) ∧
      ∃ waiter ∈ (lobby.latch 0).waiters, waiter.wanted = [.sortedList] ∧ waiter.phase = .parked :=
  ⟨_, rfl, by decide, by decide, by decide⟩

end Lobby

end SystemMenu
