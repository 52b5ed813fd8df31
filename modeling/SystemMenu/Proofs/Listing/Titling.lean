import SystemMenu.Listing.Titles
import SystemMenu.Proofs.Catalog.Lookup

/-!
# What titles leave alone

A title file changes how entries are called and read aloud. It does not change which record an entry
stands for, its number and whether it is a clone, and neither does what clones take over from their
parents; no entry comes, goes or moves.

## Main statements

* `identity_applyTitles`, `identity_inheritTitles`: entries stand for what they stood for.
* `displayName_inheritTitle`, `parentDisplayName_inheritTitle`: the names that clones take over.
-/

namespace SystemMenu

open Text.Utf8 (Bytes)

/-- What an entry stands for, whatever its title is. -/
def Entry.identity (entry : Entry) : SystemRecord × Nat × Bool :=
  (entry.record, entry.index, entry.isClone)

/-- An element may be replaced by one that looks the same. -/
theorem map_set_of_eq {α β : Type} {f : α → β} {xs : List α} {i : Nat} {x y : α}
    (h : xs[i]? = some x) (same : f y = f x) : (xs.set i y).map f = xs.map f := by
  obtain ⟨hi, rfl⟩ := List.getElem?_eq_some_iff.1 h
  rw [List.map_set, same, ← List.getElem_map f (h := by simpa using hi), List.set_getElem_self]

namespace TitlePass

theorem identity_addTitle (pass : TitlePass) (position : Nat) (title : String) :
    (pass.addTitle position title).entries.map Entry.identity =
      pass.entries.map Entry.identity := by
  unfold addTitle
  split
  · rfl
  · rename_i entry here
    split
    · rfl
    · split
      · rfl
      · exact map_set_of_eq here rfl

theorem identity_addReading (pass : TitlePass) (position : Nat) (reading : String) :
    (pass.addReading position reading).entries.map Entry.identity =
      pass.entries.map Entry.identity := by
  unfold addReading
  split
  · rfl
  · rename_i entry here
    split
    · rfl
    · split
      · rfl
      · exact map_set_of_eq here rfl

/-- A line changes titles and readings only. -/
theorem identity_addLine (pass : TitlePass) (line : List Char) :
    (pass.addLine line).entries.map Entry.identity = pass.entries.map Entry.identity := by
  unfold addLine
  split
  · rfl
  · split
    · rfl
    · split
      rw [← identity_addTitle pass]
      split
      · exact identity_addReading _ _ _
      · rfl

theorem identity_fillTitles (entries : List Entry) :
    (fillTitles entries).map Entry.identity = entries.map Entry.identity := by
  simp only [fillTitles, List.map_map]
  apply List.map_congr_left
  intro entry _
  simp only [Function.comp_apply]
  split <;> rfl

end TitlePass

/-- After a title file every entry stands for what it stood for. -/
theorem identity_applyTitles (bytes : Bytes) (entries : List Entry) :
    (applyTitles bytes entries).entries.map Entry.identity = entries.map Entry.identity := by
  have lines : ∀ (lines : List (List Char)) (pass : TitlePass),
      (lines.foldl TitlePass.addLine pass).entries.map Entry.identity =
        pass.entries.map Entry.identity := by
    intro lines
    induction lines with
    | nil => exact fun _ => rfl
    | cons line rest ih => exact fun pass => (ih _).trans (pass.identity_addLine line)
  exact (TitlePass.identity_fillTitles _).trans (lines _ _)

theorem identity_inheritTitle (entries : List Entry) (entry : Entry) :
    (inheritTitle entries entry).identity = entry.identity := by
  unfold inheritTitle
  split
  · rfl
  · split <;> rfl

theorem identity_inheritTitles (entries : List Entry) :
    (inheritTitles entries).map Entry.identity = entries.map Entry.identity := by
  rw [inheritTitles, List.map_map]
  exact List.map_congr_left fun entry _ => identity_inheritTitle entries entry

/-- An entry keeps its own name when it takes over that of its parent. -/
theorem displayName_inheritTitle (entries : List Entry) (entry : Entry) :
    (inheritTitle entries entry).displayName = entry.displayName := by
  unfold inheritTitle
  split
  · rfl
  · split <;> rfl

/-- The name taken over from a listed parent is the parent's own. -/
theorem parentDisplayName_inheritTitle {entries : List Entry} {entry parent : Entry} {name : String}
    {position : Nat} (h : entry.record.parent = some name)
    (found : entryPosition? entries name = some position)
    (here : entries[position]? = some parent) :
    (inheritTitle entries entry).parentDisplayName = parent.displayName := by
  simp [inheritTitle, h, found, here, Entry.parentDisplayName, Entry.displayName]

/-- In a list that increases by short names every entry is found where it stands. -/
theorem entryPosition?_eq_some {entries : List Entry} {entry : Entry} {position : Nat}
    (increasing : entries.Pairwise fun a b => compare a.shortname b.shortname = .lt)
    (here : entries[position]? = some entry) :
    entryPosition? entries entry.shortname = some position :=
  (Lookup.locate?_eq_some_iff (Lookup.ascending_of_pairwise increasing entry.shortname)).2
    ⟨entry, here, Std.LawfulEqOrd.compare_eq_iff_eq.2 rfl⟩

end SystemMenu
