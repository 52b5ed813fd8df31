import SystemMenu.Catalog.Record

/-!
# Sources of records

The list of systems is built from a numbered sequence of records. Reading may fail with a message,
which ends the build. One record, the placeholder, stands for no system; where it is has to be asked
for, and the answer may depend on how often it was asked for before.
-/

namespace SystemMenu

/-- A numbered sequence of records. -/
structure Source where
  /-- Number of records, with the placeholder. -/
  size : Nat
  /-- The record with a number, or why it cannot be read. -/
  recordAt : Nat → Except String SystemRecord
  /-- The number of the record with a short name. -/
  find? : String → Option Nat
  /-- The number of the placeholder, if there is one, or why it cannot be told; depends on the number
  of earlier requests. -/
  placeholder : Nat → Except String (Option Nat)

namespace Source

/-- The number of a record's parent, if that is catalogued and no BIOS set. -/
def cloneOf (source : Source) (index : Nat) : Except String (Option Nat) := do
  match (← source.recordAt index).parent.bind source.find? with
  | none => return none
  | some parent =>
    return if (← source.recordAt parent).traits.biosRoot then none else some parent

end Source

end SystemMenu
