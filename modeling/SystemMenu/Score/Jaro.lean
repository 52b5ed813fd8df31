import SystemMenu.Score.Rounding

/-!
# Jaro and Jaro–Winkler similarity

Two texts are similar if many characters of one are found in the other near the same place. Each
character of the query takes the first character of the candidate that is equal, not yet taken and
within a window around its own position; characters taken out of order count as half a transposition
each. The Winkler form raises a similarity above 0.7 for every character of a common start, up to
four.

## Main declarations

* `occupy`: takes the first free occurrence of a character within a window.
* `jaro`, `jaroWinkler`: the two similarities, rounded after each operation.
-/

namespace SystemMenu.Score

/-- A character of the candidate and whether it has been taken. -/
abbrev Slot := Char × Bool

/-- Takes the first free slot that holds `c`, among the positions from `low` to `high`; the slots
given start at position `j`. -/
def occupy (c : Char) (low high : Nat) (j : Nat) : List Slot → Option (List Slot)
  | [] => none
  | (d, taken) :: rest =>
    if low ≤ j ∧ j ≤ high ∧ taken = false ∧ d = c then some ((d, true) :: rest)
    else (occupy c low high (j + 1) rest).map ((d, taken) :: ·)

/-- Lets each character, the first at position `i`, take a slot; gives the characters that took one
and the slots afterwards. -/
def occupyAll (range : Nat) (i : Nat) : List Char → List Slot → List Char × List Slot
  | [], slots => ([], slots)
  | c :: rest, slots =>
    match occupy c (i - range) (i + range) 0 slots with
    | some slots =>
      let (matched, slots) := occupyAll range (i + 1) rest slots
      (c :: matched, slots)
    | none => occupyAll range (i + 1) rest slots

/-- Number of positions at which two lists differ, up to the length of the shorter. -/
def differences (a b : List Char) : Nat := ((a.zip b).filter fun pair => pair.1 ≠ pair.2).length

/-- A sum, rounded. -/
def addRounded (a b : Rat) : Rat := roundBinary (a + b)

/-- A difference, rounded. -/
def subRounded (a b : Rat) : Rat := roundBinary (a - b)

/-- A product, rounded. -/
def mulRounded (a b : Rat) : Rat := roundBinary (a * b)

/-- A quotient, rounded. -/
def divRounded (a b : Rat) : Rat := roundBinary (a / b)

/-- Jaro similarity of a query and a candidate. -/
def jaro (query candidate : List Char) : Rat :=
  if query = [] ∧ candidate = [] then 1
  else if query = [] ∨ candidate = [] then 0
  else
    let range := max query.length candidate.length / 2 - 1
    let (fromQuery, slots) := occupyAll range 0 query (candidate.map (·, false))
    let fromCandidate := (slots.filter (·.2)).map (·.1)
    let found : Nat := fromQuery.length
    if found = 0 then 0
    else
      let transpositions := differences fromQuery fromCandidate / 2
      let shares := addRounded
        (addRounded (divRounded found query.length) (divRounded found candidate.length))
        (divRounded (found - transpositions : Nat) found)
      divRounded shares 3

/-- Length of the common start of two texts, at most four. -/
def commonStart (a b : List Char) : Nat :=
  (((a.take 4).zip b).takeWhile fun pair => pair.1 = pair.2).length

/-- Jaro–Winkler similarity of a query and a candidate. -/
def jaroWinkler (query candidate : List Char) : Rat :=
  let similarity := jaro query candidate
  if roundBinary (7 / 10) < similarity then
    let weight := mulRounded (roundBinary (1 / 10)) (commonStart query candidate)
    addRounded similarity (mulRounded weight (subRounded 1 similarity))
  else similarity

end SystemMenu.Score
