import Mathlib.Data.List.Basic
import SystemMenu.Proofs.Listing.Titling

/-!
# What a title file says

A title file can be read without any list of entries: every line with a tab names a system, and the first
title and the first reading that are not blank count for it. Applying the file to a list gives every
entry just that, wherever it stands; what the file says about other systems makes no difference to it.

## Main statements

* `TitleFile.title?`, `TitleFile.reading?`: what a file says about a short name.
* `entries_applyTitles`: a file that is applied to entries names each of them.
* `Entry.namedBy_of_untitled`: the title that an entry without any gets.
-/

namespace SystemMenu

open Text.Utf8 (Bytes)

namespace TitleFile

/-- What a line says: how a system is called and read aloud; both are empty where it says nothing. -/
structure Naming where
  shortname : String
  title : String
  reading : String
  deriving Repr, DecidableEq

/-- What a line with a tab says. -/
def naming? (line : List Char) : Option Naming :=
  (Text.cutAtFirst? (· = '\t') line).map fun cut =>
    let fields := splitFields cut.2
    { shortname := .ofList cut.1
      title := .ofList (Text.trim fields.1)
      reading := (fields.2.map fun reading => String.ofList (Text.trim reading)).getD "" }

/-- What the lines of a file say, in order. -/
def namings (bytes : Bytes) : List Naming := (lines bytes).filterMap naming?

/-- The first text that is not empty among those for a short name. -/
def firstGiven? (part : Naming → String) (namings : List Naming) (name : String) : Option String :=
  ((namings.filter (·.shortname = name)).map part).find? (· ≠ "")

/-- The title that a file gives a short name. -/
def title? (bytes : Bytes) (name : String) : Option String :=
  firstGiven? Naming.title (namings bytes) name

/-- The reading that a file gives a short name. -/
def reading? (bytes : Bytes) (name : String) : Option String :=
  firstGiven? Naming.reading (namings bytes) name

theorem ne_empty_of_firstGiven? {part : Naming → String} {namings : List Naming}
    {name text : String} (h : firstGiven? part namings name = some text) : text ≠ "" := by
  simpa using List.find?_some h

/-- A line counts only if it is for the short name and says something. -/
theorem getD_firstGiven?_cons (part : Naming → String) (naming : Naming) (rest : List Naming)
    (name : String) :
    (firstGiven? part (naming :: rest) name).getD "" =
      if naming.shortname = name ∧ part naming ≠ "" then part naming
      else (firstGiven? part rest name).getD "" := by
  by_cases here : naming.shortname = name
  · by_cases blank : part naming = ""
    · simp [firstGiven?, here, blank]
    · simp [firstGiven?, here, blank]
  · simp [firstGiven?, here]

end TitleFile

open TitleFile (Naming)

namespace Entry

/-- An entry that takes a title, unless it is empty or the entry has one. -/
def takeTitle (title : String) (entry : Entry) : Entry :=
  if title = "" ∨ entry.description ≠ "" then entry else { entry with description := title }

/-- An entry that takes a reading with its search keys, unless it is empty or the entry has one. -/
def takeReading (reading : String) (entry : Entry) : Entry :=
  if reading = "" ∨ entry.reading ≠ "" then entry
  else
    { entry with
      reading := reading
      readingKey := Text.searchKey reading
      manufacturerReadingKey := Text.searchKeyJoined entry.record.manufacturer reading }

/-- An entry after a line, which may be for another one. -/
def hear (entry : Entry) (naming : Naming) : Entry :=
  if naming.shortname = entry.shortname then
    (entry.takeTitle naming.title).takeReading naming.reading
  else entry

/-- An entry with the catalog's title, unless it has one already. -/
def fillTitle (entry : Entry) : Entry :=
  if entry.description = "" then { entry with description := entry.record.description } else entry

/-- An entry after a whole file. -/
def namedBy (bytes : Bytes) (entry : Entry) : Entry :=
  ((entry.takeTitle ((TitleFile.title? bytes entry.shortname).getD "")).takeReading
    ((TitleFile.reading? bytes entry.shortname).getD "")).fillTitle

section Taking

variable (entry : Entry)

@[simp] theorem takeTitle_empty : entry.takeTitle "" = entry := by simp [takeTitle]

@[simp] theorem takeReading_empty : entry.takeReading "" = entry := by simp [takeReading]

@[simp] theorem shortname_takeTitle (title : String) :
    (entry.takeTitle title).shortname = entry.shortname := by
  unfold takeTitle
  split <;> rfl

@[simp] theorem shortname_takeReading (reading : String) :
    (entry.takeReading reading).shortname = entry.shortname := by
  unfold takeReading
  split <;> rfl

@[simp] theorem shortname_hear (naming : Naming) :
    (entry.hear naming).shortname = entry.shortname := by
  unfold hear
  split <;> simp

/-- Of two titles the first counts, if it is not empty. -/
theorem takeTitle_takeTitle (first second : String) :
    (entry.takeTitle first).takeTitle second =
      entry.takeTitle (if first ≠ "" then first else second) := by
  by_cases blank : first = ""
  · simp [blank]
  · by_cases titled : entry.description = "" <;> simp [takeTitle, blank, titled]

/-- Of two readings the first counts, if it is not empty. -/
theorem takeReading_takeReading (first second : String) :
    (entry.takeReading first).takeReading second =
      entry.takeReading (if first ≠ "" then first else second) := by
  by_cases blank : first = ""
  · simp [blank]
  · by_cases read : entry.reading = "" <;> simp [takeReading, blank, read]

/-- Titles and readings are taken independently. -/
theorem takeTitle_takeReading (title reading : String) :
    (entry.takeReading reading).takeTitle title =
      (entry.takeTitle title).takeReading reading := by
  by_cases noTitle : title = "" ∨ entry.description ≠ "" <;>
    by_cases noReading : reading = "" ∨ entry.reading ≠ "" <;>
      simp only [takeTitle, takeReading, noTitle, noReading, if_true, if_false]

/-- After some lines an entry has taken the first title and the first reading that are for it. -/
theorem foldl_hear (namings : List Naming) :
    namings.foldl hear entry =
      (entry.takeTitle ((TitleFile.firstGiven? Naming.title namings entry.shortname).getD "")).takeReading
        ((TitleFile.firstGiven? Naming.reading namings entry.shortname).getD "") := by
  induction namings generalizing entry with
  | nil => simp [TitleFile.firstGiven?]
  | cons naming rest ih =>
      rw [List.foldl_cons, ih, shortname_hear, TitleFile.getD_firstGiven?_cons,
        TitleFile.getD_firstGiven?_cons]
      by_cases here : naming.shortname = entry.shortname
      · rw [hear, if_pos here, takeTitle_takeReading, takeTitle_takeTitle, takeReading_takeReading]
        simp only [here, true_and]
      · rw [hear, if_neg here]
        simp only [here, false_and, if_false]

end Taking

/-- An entry without a title gets the one that the file gives it, or else the catalog's. -/
theorem namedBy_of_untitled (bytes : Bytes) {entry : Entry} (untitled : entry.description = "") :
    entry.namedBy bytes =
      { (entry.takeReading ((TitleFile.reading? bytes entry.shortname).getD "")) with
        description := (TitleFile.title? bytes entry.shortname).getD entry.record.description } := by
  have record : ∀ reading, (entry.takeReading reading).record = entry.record := by
    intro reading
    unfold takeReading
    split <;> rfl
  have description : ∀ reading, (entry.takeReading reading).description = "" := by
    intro reading
    unfold takeReading
    split <;> exact untitled
  rw [namedBy, ← takeTitle_takeReading]
  cases given : TitleFile.title? bytes entry.shortname with
  | none => simp [fillTitle, description, record]
  | some title =>
      have said : title ≠ "" := TitleFile.ne_empty_of_firstGiven? given
      simp [fillTitle, takeTitle, description, said]

end Entry

/-- An element that is put where it is changes nothing. -/
theorem set_of_getElem? {α : Type} {xs : List α} {i : Nat} {x : α} (h : xs[i]? = some x) :
    xs.set i x = xs := by
  obtain ⟨inside, rfl⟩ := List.getElem?_eq_some_iff.1 h
  exact List.set_getElem_self inside

namespace TitlePass

theorem entries_addTitle (pass : TitlePass) (position : Nat) (title : String) :
    (pass.addTitle position title).entries =
      pass.entries.modify position (Entry.takeTitle title) := by
  rw [List.modify_eq_set_getElem?]
  unfold addTitle
  split
  · rename_i none
    simp [none]
  · rename_i entry here
    split
    · rename_i blank
      simp [here, Entry.takeTitle, blank, set_of_getElem? here]
    · rename_i said
      split
      · rename_i titled
        simp [here, Entry.takeTitle, titled, set_of_getElem? here]
      · rename_i untitled
        simp only [ne_eq, Decidable.not_not] at untitled
        simp [here, Entry.takeTitle, said, untitled]

theorem entries_addReading (pass : TitlePass) (position : Nat) (reading : String) :
    (pass.addReading position reading).entries =
      pass.entries.modify position (Entry.takeReading reading) := by
  rw [List.modify_eq_set_getElem?]
  unfold addReading
  split
  · rename_i none
    simp [none]
  · rename_i entry here
    split
    · rename_i blank
      simp [here, Entry.takeReading, blank, set_of_getElem? here]
    · rename_i said
      split
      · rename_i read
        simp [here, Entry.takeReading, read, set_of_getElem? here]
      · rename_i unread
        simp only [ne_eq, Decidable.not_not] at unread
        simp [here, Entry.takeReading, said, unread]

end TitlePass

section Lines

variable {entries : List Entry}

/-- In a list that increases by short names a change at the position of one is a change of all entries
that have it. -/
theorem modify_position (increasing : entries.Pairwise fun a b => compare a.shortname b.shortname = .lt)
    {name : String} {position : Nat} (found : entryPosition? entries name = some position)
    (change : Entry → Entry) :
    entries.modify position change =
      entries.map fun entry => if name = entry.shortname then change entry else entry := by
  obtain ⟨entry, here, same⟩ := Lookup.of_locate?_eq_some found
  have named : entry.shortname = name := Std.LawfulEqOrd.eq_of_compare same
  apply List.ext_getElem?
  intro i
  rw [List.getElem?_modify, List.getElem?_map]
  cases hi : entries[i]? with
  | none => rfl
  | some other =>
      -- The same name stands at the same position only.
      have same_iff : position = i ↔ name = other.shortname := by
        constructor
        · rintro rfl
          rw [here] at hi
          rw [← Option.some.inj hi, named]
        · intro theirs
          have again := entryPosition?_eq_some increasing hi
          rw [← theirs, found] at again
          exact Option.some.inj again
      simp [same_iff]

/-- A short name that is not found is the name of no entry. -/
theorem ne_shortname_of_not_found
    (increasing : entries.Pairwise fun a b => compare a.shortname b.shortname = .lt) {name : String}
    (unknown : entryPosition? entries name = none) : ∀ entry ∈ entries, name ≠ entry.shortname := by
  rintro entry member rfl
  obtain ⟨position, here⟩ := List.mem_iff_getElem?.1 member
  rw [entryPosition?_eq_some increasing here] at unknown
  cases unknown

/-- A line is heard by every entry, and matters to the one that it is for. -/
theorem entries_addLine {pass : TitlePass}
    (increasing : pass.entries.Pairwise fun a b => compare a.shortname b.shortname = .lt)
    (line : List Char) :
    (pass.addLine line).entries =
      pass.entries.map fun entry => (TitleFile.naming? line).elim entry entry.hear := by
  unfold TitlePass.addLine TitleFile.naming?
  split
  · rename_i malformed
    simp [malformed]
  · rename_i shortname rest cut
    simp only [cut, Option.map_some, Option.elim_some]
    split
    · rename_i unknown
      have nobody := ne_shortname_of_not_found increasing unknown
      refine (List.map_id _).symm.trans (List.map_congr_left fun entry member => ?_)
      simp [Entry.hear, nobody entry member]
    · rename_i position found
      cases reading : (TitleFile.splitFields rest).2 with
      | none =>
          simp only [TitlePass.entries_addTitle, modify_position increasing found, Option.map_none,
            Option.getD_none]
          simp only [Entry.hear, Entry.takeReading_empty]
      | some reading =>
          rw [TitlePass.entries_addReading, TitlePass.entries_addTitle, List.modify_modify_eq,
            modify_position increasing found]
          simp only [Entry.hear, Function.comp_apply, Option.map_some, Option.getD_some]

/-- Lines are heard one after the other. -/
theorem entries_foldl_addLine (lines : List (List Char)) (pass : TitlePass)
    (increasing : pass.entries.Pairwise fun a b => compare a.shortname b.shortname = .lt) :
    (lines.foldl TitlePass.addLine pass).entries =
      pass.entries.map fun entry => (lines.filterMap TitleFile.naming?).foldl Entry.hear entry := by
  induction lines generalizing pass with
  | nil => simp
  | cons line rest ih =>
      have heard := entries_addLine increasing line
      -- No line changes a short name, so the list stays in order.
      have still : (pass.addLine line).entries.Pairwise fun a b =>
          compare a.shortname b.shortname = .lt := by
        rw [heard, List.pairwise_map]
        apply increasing.imp
        intro a b before
        cases TitleFile.naming? line with
        | none => exact before
        | some naming => simpa using before
      rw [List.foldl_cons, ih _ still, heard, List.map_map]
      apply List.map_congr_left
      intro entry _
      cases said : TitleFile.naming? line with
      | none => simp [said]
      | some naming => simp [said]

/-- A file that is applied to entries names each of them. -/
theorem entries_applyTitles
    (increasing : entries.Pairwise fun a b => compare a.shortname b.shortname = .lt)
    (bytes : Bytes) : (applyTitles bytes entries).entries = entries.map (Entry.namedBy bytes) := by
  have lines := entries_foldl_addLine (TitleFile.lines bytes) { entries := entries } increasing
  simp only [applyTitles, TitlePass.fillTitles, lines, List.map_map]
  apply List.map_congr_left
  intro entry _
  rw [Function.comp_apply, ← TitleFile.namings, Entry.foldl_hear]
  rfl

end Lines

end SystemMenu
