import SystemMenu.Staging.Latch

/-!
# Waiting across generations

Every generation has a latch of its own. A thread that comes to wait goes to the latch of the generation
that is current then, and stays there. The build publishes at the latch of the generation for which it
was started, one stage after the other. A reset waits for the build to end, with all stages or with
those it published before it failed, and opens a new generation; it is never in progress together with
the start of a build.

## Main declarations

* `Lobby`: the latches of all generations and the build.
* `Lobby.move?`: one step, if it can be made.
* `Lobby.Reachable`: what can become of a lobby.
-/

namespace SystemMenu

/-- A build as waiting threads see it. -/
structure Lobby.Work where
  /-- Generation for which the build was started. -/
  generation : Nat
  /-- The stages that it has not begun to publish. -/
  todo : List Stage
  deriving Repr, DecidableEq

/-- The latches of all generations, the current one last, and the build. -/
structure Lobby where
  latches : List Latch := [{}]
  /-- A build was started for the current generation. -/
  started : Bool := false
  /-- The build, while it runs. -/
  work : Option Lobby.Work := none
  deriving Repr, DecidableEq

namespace Lobby

/-- What can happen in a lobby. -/
inductive Move where
  /-- A thread comes to wait for some stages. -/
  | arrive (wanted : List Stage)
  /-- Something happens at the latch of a generation. -/
  | atLatch (generation : Nat) (move : Latch.Move)
  | beginBuild
  /-- The build begins to publish its next stage. -/
  | publish
  /-- The build ends: it has published everything, or it fails. -/
  | endBuild
  | reset
  deriving Repr, DecidableEq

/-- Number of the current generation. -/
def current (lobby : Lobby) : Nat := lobby.latches.length - 1

/-- The latch of a generation. -/
def latch (lobby : Lobby) (generation : Nat) : Latch := (lobby.latches[generation]?).getD {}

/-- Replaces the latch of a generation. -/
def setLatch (lobby : Lobby) (generation : Nat) (latch : Latch) : Lobby :=
  { lobby with latches := lobby.latches.set generation latch }

/-- Every publisher at a latch is done. -/
def isQuiet (latch : Latch) : Bool := latch.publishers.all fun publisher => publisher.phase = .done

/-- A thread goes to the latch of the current generation. -/
def arrive (lobby : Lobby) (wanted : List Stage) : Lobby :=
  let latch := lobby.latch lobby.current
  lobby.setLatch lobby.current { latch with waiters := latch.waiters ++ [{ wanted := wanted }] }

/-- A build is started, unless one was started for this generation. -/
def beginBuild (lobby : Lobby) : Lobby :=
  if lobby.started then lobby
  else
    { lobby with
        started := true
        work := some { generation := lobby.current, todo := Stage.publicationOrder } }

/-- The build begins to publish its next stage, once it is done with the one before. -/
def publish? (lobby : Lobby) : Option Lobby :=
  match lobby.work with
  | some { generation, todo := stage :: todo } =>
    let latch := lobby.latch generation
    if isQuiet latch then
      let lobby := lobby.setLatch generation
        { latch with publishers := latch.publishers ++ [{ stages := [stage] }] }
      some { lobby with work := some { generation := generation, todo := todo } }
    else none
  | _ => none

/-- The build ends between two publications. -/
def endBuild? (lobby : Lobby) : Option Lobby :=
  match lobby.work with
  | some work =>
    if isQuiet (lobby.latch work.generation) then some { lobby with work := none } else none
  | none => none

/-- A new generation, once no build runs. -/
def reset? (lobby : Lobby) : Option Lobby :=
  if lobby.work = none then some { latches := lobby.latches ++ [{}], started := false } else none

/-- What a move makes of a lobby, if it can be made. -/
def move? (lobby : Lobby) : Move → Option Lobby
  | .arrive wanted => some (lobby.arrive wanted)
  | .atLatch generation move =>
    lobby.latches[generation]?.bind fun latch => (latch.move? move).map (lobby.setLatch generation)
  | .beginBuild => some lobby.beginBuild
  | .publish => lobby.publish?
  | .endBuild => lobby.endBuild?
  | .reset => lobby.reset?

/-- What a sequence of moves makes of a lobby, if all can be made. -/
def moves? (lobby : Lobby) (moves : List Move) : Option Lobby := moves.foldlM move? lobby

/-- What can become of an empty lobby. -/
inductive Reachable : Lobby → Prop where
  | start : Reachable {}
  | move {lobby next : Lobby} (move : Move) (reachable : Reachable lobby)
      (h : lobby.move? move = some next) : Reachable next

/-- Whatever a sequence of moves makes of a reachable lobby is reachable. -/
theorem Reachable.moves {lobby next : Lobby} (reachable : Reachable lobby) (moves : List Move)
    (h : lobby.moves? moves = some next) : Reachable next := by
  induction moves generalizing lobby with
  | nil =>
      cases h
      exact reachable
  | cons move rest ih =>
      simp only [moves?, List.foldlM_cons, Option.bind_eq_bind, Option.bind_eq_some_iff] at h
      obtain ⟨between, first, others⟩ := h
      exact ih (.move move reachable first) others

end Lobby

end SystemMenu
