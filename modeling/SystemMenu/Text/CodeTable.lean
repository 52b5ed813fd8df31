/-!
# Tables keyed by code point

Character properties are given as rows, one for each range of code points. A search tree built from
the rows answers look-ups; the rows must be in increasing order and must not overlap.

## Main declarations

* `Row`: a closed range with its value.
* `CodeTable.ofRows`: the balanced search tree of a list of rows.
* `CodeTable.find?`: the row whose range holds a code point.
* `CodeTable.hasMember`: membership for tables whose value is a stride.
-/

namespace SystemMenu.Text

/-- The value shared by the code points from `first` to `last`. -/
structure Row (α : Type) where
  first : Nat
  last : Nat
  value : α
  deriving Repr

/-- A search tree of rows. -/
inductive CodeTable (α : Type) where
  | empty
  | node (before : CodeTable α) (row : Row α) (after : CodeTable α)

namespace CodeTable

variable {α : Type}

/-- Builds a tree of at most the given depth from the first rows; also returns the rows left. -/
def grow : Nat → List (Row α) → CodeTable α × List (Row α)
  | 0, rows => (.empty, rows)
  | depth + 1, rows =>
    let (before, rest) := grow depth rows
    match rest with
    | [] => (before, [])
    | row :: rest =>
      let (after, rest) := grow depth rest
      (.node before row after, rest)

/-- The balanced search tree of rows in increasing order. -/
def ofRows (rows : List (Row α)) : CodeTable α := (grow (rows.length.log2 + 1) rows).1

/-- The rows of a tree, in order. -/
def toList : CodeTable α → List (Row α)
  | empty => []
  | node before row after => before.toList ++ row :: after.toList

/-- The row whose range holds a code point. -/
def find? : CodeTable α → Nat → Option (Row α)
  | empty, _ => none
  | node before row after, code =>
    if code < row.first then before.find? code
    else if row.last < code then after.find? code
    else some row

/-- A row that is found is a row of the tree and its range holds the code point. -/
theorem find?_eq_some {table : CodeTable α} {code : Nat} {row : Row α}
    (h : table.find? code = some row) :
    row ∈ table.toList ∧ row.first ≤ code ∧ code ≤ row.last := by
  induction table with
  | empty => simp [find?] at h
  | node before middle after ihBefore ihAfter =>
      simp only [find?] at h
      split at h
      · have := ihBefore h
        simp [toList, this]
      · split at h
        · have := ihAfter h
          simp [toList, this]
        · cases h
          simp [toList]
          omega

/-- Membership in a table whose values are strides: every `stride`-th code point of a range, from
its first on, is a member. -/
def hasMember (table : CodeTable Nat) (code : Nat) : Bool :=
  match table.find? code with
  | some row => (code - row.first) % row.value = 0
  | none => false

end CodeTable

end SystemMenu.Text
