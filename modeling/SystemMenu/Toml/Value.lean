/-!
# Values of a settings document

A document is a table of values. How a table came about decides whether later lines may add to it,
so each table keeps its origin while the document is read.

## Main declarations

* `Value`: strings, numbers, booleans, moments in time, arrays and tables.
* `changeTable`: changes the table that a path leads to, making the tables missing on the way.
* `insertKey`, `openTable`, `openItem`: what a `key = value` line, a `[table]` line and an
  `[[item]]` line do to a document.
-/

namespace SystemMenu.Toml

/-- Why a document is refused. -/
inductive Error where
  | syntaxError
  | redefinedKey (key : String)
  | unknownKey (key : String)
  | missingKey (key : String)
  | wrongType
  deriving Repr, DecidableEq

/-- How a table came about. -/
inductive Origin where
  /-- On the way to a table of a header. -/
  | implied
  /-- By a header of its own. -/
  | header
  /-- By a dotted key. -/
  | dotted
  /-- Between braces; nothing is added to it later. -/
  | inline
  deriving Repr, DecidableEq

/-- A value of a document. -/
inductive Value where
  | string (text : String)
  | integer (value : Int)
  | boolean (value : Bool)
  /-- A number with a fraction or an exponent, as it is written. -/
  | float (text : String)
  /-- A date, a time or both, as it is written. -/
  | moment (text : String)
  | array (items : List Value)
  /-- An array of tables made by `[[item]]` headers. -/
  | tables (items : List (List (String × Value)))
  | table (origin : Origin) (entries : List (String × Value))

/-- The keys of a table with their values, in the order in which they were written. -/
abbrev Entries := List (String × Value)

/-- Puts another value in place of the first one with a key. -/
def replaceKey (key : String) (value : Value) : Entries → Entries
  | [] => []
  | (k, v) :: rest => if k = key then (k, value) :: rest else (k, v) :: replaceKey key value rest

/-- Changes the table that a path leads to. Tables missing on the way are made. The way leads through
the last item of an array of tables, but not into a table between braces, and along a dotted key not
into a table with a header of its own. -/
def changeTable (alongDots : Bool) (change : Origin → Entries → Except Error Entries) :
    List String → Origin → Entries → Except Error Entries
  | [], origin, entries => change origin entries
  | key :: path, _, entries =>
    let made : Origin := if alongDots then .dotted else .implied
    match entries.lookup key with
    | none => do
      let inner ← changeTable alongDots change path made []
      return entries ++ [(key, .table made inner)]
    | some (.tables items) =>
      match items.getLast? with
      | none => .error (.redefinedKey key)
      | some item => do
        let inner ← changeTable alongDots change path .header item
        return replaceKey key (.tables (items.dropLast ++ [inner])) entries
    | some (.table origin inner) =>
      if origin = .inline ∨ (alongDots ∧ origin = .header) then .error (.redefinedKey key)
      else do
        let inner ← changeTable alongDots change path origin inner
        return replaceKey key (.table origin inner) entries
    | some _ => .error (.redefinedKey key)

/-- Adds a key to a table. A key reached along dots goes only into a table made by dotted keys, a
plain one only into one that was not. -/
def insertPlain (alongDots : Bool) (key : String) (value : Value) (origin : Origin)
    (entries : Entries) : Except Error Entries :=
  if decide (origin = .dotted) ≠ alongDots ∨ (entries.lookup key).isSome then
    .error (.redefinedKey key)
  else .ok (entries ++ [(key, value)])

/-- Adds a value under a dotted key, given by the keys on the way and the last one. -/
def insertKey (path : List String) (key : String) (value : Value) (origin : Origin)
    (entries : Entries) : Except Error Entries :=
  changeTable true (insertPlain (!path.isEmpty) key value) path origin entries

/-- Opens the table of a header. One that is only implied so far may still be opened. -/
def openTable (path : List String) (key : String) (document : Entries) : Except Error Entries :=
  changeTable false (fun _ entries =>
    match entries.lookup key with
    | none => .ok (entries ++ [(key, .table .header [])])
    | some (.table .implied inner) => .ok (replaceKey key (.table .header inner) entries)
    | some _ => .error (.redefinedKey key)) path .header document

/-- Opens a further item of an array of tables. -/
def openItem (path : List String) (key : String) (document : Entries) : Except Error Entries :=
  changeTable false (fun _ entries =>
    match entries.lookup key with
    | none => .ok (entries ++ [(key, .tables [[]])])
    | some (.tables items) => .ok (replaceKey key (.tables (items ++ [[]])) entries)
    | some _ => .error (.redefinedKey key)) path .header document

end SystemMenu.Toml
