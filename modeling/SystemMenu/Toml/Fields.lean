import SystemMenu.Toml.Value

/-!
# Typed reading of document values

A record is written as a table of its fields, where an unknown key is refused, or as an array of its
fields in their declared order, where items beyond the last field are ignored. A field that is left
out takes its default if it has one. A choice is written as its name, or as a table with the name as
its only key and nothing in it.

## Main declarations

* `readFields`: the values of a record's fields.
* `required`, `withDefault`: reading one field.
* `readString`, `readBoolean`, `readNatural`, `readChoice`, `readList`: the kinds of values.
-/

namespace SystemMenu.Toml

/-- The values written for the fields of a record. -/
abbrev Fields := String → Option Value

/-- The items of an array, however it was written. -/
def Value.items? : Value → Option (List Value)
  | .array items => some items
  | .tables items => some (items.map (.table .header))
  | _ => none

/-- The fields of a record written as a table. -/
def fieldsOfTable (names : List String) (entries : Entries) : Except Error Fields :=
  match entries.find? fun entry => !names.contains entry.1 with
  | some entry => .error (.unknownKey entry.1)
  | none => .ok fun name => entries.lookup name

/-- The values written for the named fields of a record. -/
def readFields (names : List String) (value : Value) : Except Error Fields :=
  match value with
  | .table _ entries => fieldsOfTable names entries
  | _ =>
    match value.items? with
    | some items => .ok fun name => (names.idxOf? name).bind fun i => items[i]?
    | none => .error .wrongType

/-- Reads a field that has to be written. -/
def required {α : Type} (fields : Fields) (name : String) (read : Value → Except Error α) :
    Except Error α :=
  match fields name with
  | some value => read value
  | none => .error (.missingKey name)

/-- Reads a field that may be left out. -/
def withDefault {α : Type} (fields : Fields) (name : String) (default : α)
    (read : Value → Except Error α) : Except Error α :=
  match fields name with
  | some value => read value
  | none => .ok default

/-- Reads a text. -/
def readString : Value → Except Error String
  | .string text => .ok text
  | _ => .error .wrongType

/-- Reads a truth value. -/
def readBoolean : Value → Except Error Bool
  | .boolean value => .ok value
  | _ => .error .wrongType

/-- Numbers of a document field lie below this bound. -/
def naturalBound : Nat := UInt64.size

/-- Reads a number that is not negative and fits into 64 bits. -/
def readNatural : Value → Except Error Nat
  | .integer (.ofNat n) => if n < naturalBound then .ok n else .error .wrongType
  | _ => .error .wrongType

/-- The table or array holds nothing. -/
def Value.isEmptyCollection : Value → Bool
  | .table _ entries => entries.isEmpty
  | value => (value.items?.map List.isEmpty).getD false

/-- Reads the name of a choice. -/
def readChoiceName : Value → Except Error String
  | .string name => .ok name
  | .table _ [(name, value)] => if value.isEmptyCollection then .ok name else .error .wrongType
  | _ => .error .wrongType

/-- Reads one of the named choices. -/
def readChoice {α : Type} (choices : List (String × α)) (value : Value) : Except Error α := do
  let name ← readChoiceName value
  match choices.lookup name with
  | some choice => .ok choice
  | none => .error .wrongType

/-- Reads a list, item by item. -/
def readList {α : Type} (read : Value → Except Error α) (value : Value) : Except Error (List α) :=
  match value.items? with
  | some items => items.mapM read
  | none => .error .wrongType

end SystemMenu.Toml
