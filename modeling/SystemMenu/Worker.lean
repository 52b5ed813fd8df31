import SystemMenu.Event

/-!
# Worker threads

Long work runs on threads of its own. Each has a name and a kind of work, which are noted when it
starts. A job that fails leaves something behind, which is a message if it is text.
-/

namespace SystemMenu.Worker

/-- The kinds of work. -/
inductive Work where
  /-- Waiting for files, such as reading directories. -/
  | files
  /-- Computing, such as sorting. -/
  | computing
  deriving Repr, DecidableEq

/-- The name of a kind of work. -/
def Work.name : Work → String
  | files => "io_blocking"
  | computing => "cpu_blocking"

/-- What a failed job leaves behind. -/
inductive Remains where
  | text (message : String)
  | other
  deriving Repr, DecidableEq

/-- The message of a failed job, if it left one. -/
def Remains.message? : Remains → Option String
  | text message => some message
  | other => none

/-- A job, as far as it can be observed: it succeeds with a value or it fails. -/
abbrev Job (α : Type) := String → Except Remains α

/-- How a thread ends. -/
inductive Outcome (α : Type) where
  | value (value : α)
  | failed (message : Option String)
  deriving Repr, DecidableEq

/-- How a job ends on a thread with a name, which the job can see. -/
def Job.outcome {α : Type} (job : Job α) (name : String) : Outcome α :=
  match job name with
  | .ok value => .value value
  | .error remains => .failed remains.message?

/-- A thread can have any name that is free of the character zero. -/
def isThreadName (name : String) : Bool := !name.toList.contains '\x00'

/-- Runs a job on a thread of its own; nothing if the thread cannot have its name. -/
def run? {α : Type} (work : Work) (name : String) (job : Job α) :
    Option (Outcome α × List Event) :=
  if isThreadName name then some (job.outcome name, [.threadSpawned work.name name]) else none

end SystemMenu.Worker
