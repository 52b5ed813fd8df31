import SystemMenu.Listing.Entry
import SystemMenu.Text.Collation

/-!
# Display order

Clones stand after their parent. Two entries that are no clones are compared by their names; clones
of one parent, too; otherwise a clone is represented by the name of its parent, and a parent comes
before its own clones. Ties are decided by the short name of the group, then parents before clones,
then by the entry's own name and at last by its short name.

## Main declarations

* `SortKeys`: the collation keys of an entry, made once.
* `compareEntries`: the comparison.
* `arrange`: stable sorting by insertion.
* `sortEntries`: a list in display order.
* `orderViolation?`: the first neighbours in the wrong order.
-/

namespace SystemMenu

open Text (CollationKey)

/-- Collation keys of the names by which an entry is sorted. -/
structure SortKeys where
  display : CollationKey
  parentDisplay : CollationKey

namespace Entry

/-- The sort keys of an entry. -/
def sortKeys (entry : Entry) : SortKeys where
  display := .ofText entry.displayName
  parentDisplay := .ofText entry.parentDisplayName

/-- Short name of the parent, empty if there is none. -/
def parentName (entry : Entry) : String := entry.record.parent.getD ""

/-- Short name of the entry that heads the group of an entry. -/
def groupName (entry : Entry) : String :=
  if entry.isClone then entry.parentName else entry.shortname

end Entry

/-- Decides a tie of the names: by the group, parents before clones, own names and short names. -/
def breakTies (byName : Ordering) (a : Entry) (aKeys : SortKeys) (b : Entry) (bKeys : SortKeys) :
    Ordering :=
  byName.then <|
    (compare a.groupName b.groupName).then <|
      (compare a.isClone b.isClone).then <|
        (compare aKeys.display bKeys.display).then <|
          compare a.shortname b.shortname

/-- Compares two entries, given their sort keys. -/
def compareKeyed (a : Entry) (aKeys : SortKeys) (b : Entry) (bKeys : SortKeys) : Ordering :=
  match a.isClone, b.isClone with
  | false, false => breakTies (compare aKeys.display bKeys.display) a aKeys b bKeys
  | true, true =>
    if a.parentName = b.parentName then
      breakTies (compare aKeys.display bKeys.display) a aKeys b bKeys
    else breakTies (compare aKeys.parentDisplay bKeys.parentDisplay) a aKeys b bKeys
  | false, true =>
    if a.shortname = b.parentName then .lt
    else breakTies (compare aKeys.display bKeys.parentDisplay) a aKeys b bKeys
  | true, false =>
    if a.parentName = b.shortname then .gt
    else breakTies (compare aKeys.parentDisplay bKeys.display) a aKeys b bKeys

/-- Compares two entries for display. -/
def compareEntries (a b : Entry) : Ordering := compareKeyed a a.sortKeys b b.sortKeys

/-- Puts an element into a list with the last first, after all elements that it does not precede. -/
def place {α : Type} (precedes : α → α → Bool) (x : α) : List α → List α
  | [] => [x]
  | y :: rest => if precedes x y then y :: place precedes x rest else x :: y :: rest

/-- Stable sorting: each element in turn is placed among those before it. -/
def arrange {α : Type} (precedes : α → α → Bool) (xs : List α) : List α :=
  (xs.foldl (fun sorted x => place precedes x sorted) []).reverse

/-- Entries in display order. -/
def sortEntries (entries : List Entry) : List Entry :=
  let keyed := entries.map fun entry => (entry, entry.sortKeys)
  (arrange (fun a b => compareKeyed a.1 a.2 b.1 b.2 = .lt) keyed).map (·.1)

/-- The first position from `position` on whose entry has to stand after the one that follows it. -/
def orderViolationFrom? (position : Nat) : List (Entry × SortKeys) → Option Nat
  | a :: b :: rest =>
    if compareKeyed b.1 b.2 a.1 a.2 = .lt then some position
    else orderViolationFrom? (position + 1) (b :: rest)
  | _ => none

/-- The first position whose entry has to stand after the one that follows it. -/
def orderViolation? (entries : List Entry) : Option Nat :=
  orderViolationFrom? 0 (entries.map fun entry => (entry, entry.sortKeys))

/-- Placing an element keeps all others. -/
theorem place_perm {α : Type} (precedes : α → α → Bool) (x : α) (xs : List α) :
    (place precedes x xs).Perm (x :: xs) := by
  induction xs with
  | nil => exact .refl _
  | cons y rest ih =>
      simp only [place]
      split
      · exact (ih.cons y).trans (.swap x y rest)
      · exact .refl _

/-- Sorting keeps all elements. -/
theorem arrange_perm {α : Type} (precedes : α → α → Bool) (xs : List α) :
    (arrange precedes xs).Perm xs := by
  have hfold : ∀ sorted : List α,
      (xs.foldl (fun sorted x => place precedes x sorted) sorted).Perm (xs ++ sorted) := by
    induction xs with
    | nil => exact fun sorted => .refl _
    | cons x rest ih =>
        intro sorted
        exact (ih (place precedes x sorted)).trans
          (((place_perm precedes x sorted).append_left rest).trans List.perm_middle)
  exact (List.reverse_perm _).trans (by simpa using hfold [])

end SystemMenu
