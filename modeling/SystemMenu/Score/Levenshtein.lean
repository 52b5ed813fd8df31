import SystemMenu.Score.Jaro

/-!
# Levenshtein similarity

The least number of insertions, deletions and replacements of one character that turn one text into
the other, as a share of the longer length.

## Main declarations

* `nextRow`: one row of the table of distances from the row before it.
* `editDistance`: the least number of edits.
* `normalizedLevenshtein`: the similarity, rounded after each operation.
-/

namespace SystemMenu.Score

/-- Continues a row of distances: `left` is the entry to the left, `diagonal` the one above it, and
`above` holds the entries above those still to come. -/
def rowFrom (c : Char) (left diagonal : Nat) : List Char → List Nat → List Nat
  | d :: candidate, up :: above =>
    let entry := min (min (up + 1) (left + 1)) (if c = d then diagonal else diagonal + 1)
    entry :: rowFrom c entry up candidate above
  | _, _ => []

/-- The row of distances for a query that is one character longer than that of the given row. -/
def nextRow (candidate : List Char) (row : List Nat) (c : Char) : List Nat :=
  match row with
  | [] => []
  | first :: above => (first + 1) :: rowFrom c (first + 1) first candidate above

/-- The least number of edits that turn one text into the other. -/
def editDistance (query candidate : List Char) : Nat :=
  ((query.foldl (nextRow candidate) (List.range (candidate.length + 1))).getLast?).getD 0

/-- Levenshtein similarity of a query and a candidate. -/
def normalizedLevenshtein (query candidate : List Char) : Rat :=
  if query = [] ∧ candidate = [] then 1
  else
    subRounded 1
      (divRounded (editDistance query candidate) (max query.length candidate.length : Nat))

end SystemMenu.Score
