import Mathlib.Data.List.DropRight
import SystemMenu.Proofs.Listing.TitleLines
import SystemMenu.Proofs.Listing.WorkingList

/-!
# A title file as a table

A title file is a table: its rows are the lines, cut at line feeds, and its columns stand between tabs.
The first column names a system. The title of a system is the first text in the second column of a row
for it that is more than blanks, and its reading the first such text in the third column. Both are sought
apart from each other, so a row may give one of them and not the other.

Applying the file to the entries that a catalog was made into gives every entry just that, and leaves
everything else about it as it was.

## Main statements

* `Text.pieces_eq_splitOn`, `Text.pieces_eq_cut`: what cutting at every separator gives.
* `TitleFile.title?_eq`, `TitleFile.reading?_eq`: what a file says, read off its columns.
* `Catalog.foldlM_addRecord`: the entries that a catalog is made into.
* `Catalog.titles_by_columns`: what a title file makes of them.
-/

namespace SystemMenu

open Text.Utf8 (Bytes)

namespace Text

variable {α : Type}

theorem pieces_eq_splitOn [DecidableEq α] (separator : α) (xs : List α) :
    pieces (· = separator) xs = xs.splitOn separator := by
  have test : (fun x => decide (x = separator)) = (· == separator) := rfl
  rw [test, List.splitOn]
  induction xs with
  | nil => rfl
  | cons x rest ih =>
      rw [List.splitOnP_cons_eq_if_modifyHead, ← ih, pieces]
      split
      · rfl
      · cases hpieces : pieces (· == separator) rest with
        | nil => exact absurd hpieces (pieces_ne_nil _ _)
        | cons piece others => rfl

/-- Cutting at every separator is cutting at the first one, and then what follows it. -/
theorem pieces_eq_cut (isSeparator : α → Bool) (xs : List α) :
    pieces isSeparator xs = (cutAtFirst? isSeparator xs).elim [xs] fun cut =>
      cut.1 :: pieces isSeparator cut.2 := by
  induction xs with
  | nil => rfl
  | cons x rest ih =>
      rw [pieces, cutAtFirst?]
      split
      · rfl
      · rw [ih]
        cases cutAtFirst? isSeparator rest with
        | none => rfl
        | some cut => rfl

theorem head?_pieces (isSeparator : α → Bool) (xs : List α) :
    (pieces isSeparator xs)[0]? = some (xs.takeWhile fun x => !isSeparator x) := by
  induction xs with
  | nil => rfl
  | cons x rest ih =>
      rw [pieces]
      split
      · rename_i here
        simp [here]
      · rename_i elsewhere
        cases hpieces : pieces isSeparator rest with
        | nil => exact absurd hpieces (pieces_ne_nil _ _)
        | cons piece others =>
            rw [hpieces] at ih
            simp [elsewhere, Option.some.inj ih]

end Text

namespace TitleFile

/-- Texts without the byte order marks in front of the first. -/
def withoutMarks : List (List Char) → List (List Char)
  | [] => []
  | first :: rest => first.dropWhile (· = '\uFEFF') :: rest

/-- The rows of a file: its lines as texts, without line ends, the first without the marks in front of
it. -/
def rows (bytes : Bytes) : List (List Char) :=
  withoutMarks ((bytes.splitOn 10).map fun line =>
    (Text.Utf8.decodeLossy line).rdropWhile fun c => c = '\n' ∨ c = '\r')

/-- The columns of a row. -/
def columns (row : List Char) : List (List Char) := row.splitOn '\t'

/-- What a row says about a system in a column: the text without the blanks around it, if the first
column is the system's short name and this leaves something. -/
def cell? (column : Nat) (name : String) (row : List Char) : Option String :=
  if (columns row)[0]? = some name.toList then
    ((columns row)[column]?.map fun text => String.ofList (Text.trim text)).filter (· ≠ "")
  else none

/-- What the first row says about a system in a column that says anything about it there. -/
def firstCell? (bytes : Bytes) (column : Nat) (name : String) : Option String :=
  (rows bytes).findSome? (cell? column name)

/-- What a line says about a short name, if anything. -/
def Naming.given? (part : Naming → String) (name : String) (naming : Naming) : Option String :=
  if naming.shortname = name ∧ part naming ≠ "" then some (part naming) else none

theorem firstGiven?_filterMap (part : Naming → String) (name : String) (lines : List (List Char)) :
    firstGiven? part (lines.filterMap naming?) name =
      lines.findSome? fun line => (naming? line).bind (Naming.given? part name) := by
  induction lines with
  | nil => rfl
  | cons line rest ih =>
      rw [List.findSome?_cons, ← ih]
      cases said : naming? line with
      | none => simp [said]
      | some naming =>
          simp only [List.filterMap_cons, said, firstGiven?, Option.bind_some, Naming.given?]
          by_cases here : naming.shortname = name
          · by_cases blank : part naming = ""
            · simp [here, blank]
            · simp [here, blank]
          · simp [here]

theorem columns_eq_cut (row : List Char) :
    columns row = (Text.cutAtFirst? (· = '\t') row).elim [row] fun cut =>
      cut.1 :: columns cut.2 := by
  simp only [columns, ← Text.pieces_eq_splitOn]
  exact Text.pieces_eq_cut _ row

/-- The fields after the short name are the next two columns. -/
theorem splitFields_eq (rest : List Char) :
    (columns rest)[0]? = some (splitFields rest).1 ∧
      (columns rest)[1]? = (splitFields rest).2 := by
  rw [splitFields, columns_eq_cut]
  cases Text.cutAtFirst? (· = '\t') rest with
  | none => exact ⟨rfl, rfl⟩
  | some cut =>
      refine ⟨rfl, ?_⟩
      have next := Text.head?_pieces (· = '\t') cut.2
      rw [Text.pieces_eq_splitOn] at next
      simpa [columns] using next

theorem ofList_eq_iff {text : List Char} {name : String} :
    String.ofList text = name ↔ text = name.toList := by
  rw [← String.toList_inj, String.toList_ofList]

section Rows

variable (name : String) (row : List Char)

theorem cell?_eq_title : cell? 1 name row = (naming? row).bind (Naming.given? Naming.title name) := by
  rw [cell?, naming?, columns_eq_cut]
  cases Text.cutAtFirst? (· = '\t') row with
  | none => simp
  | some cut =>
      have title := (splitFields_eq cut.2).1
      simp [Naming.given?, title, Option.filter_some, ofList_eq_iff, ite_and]

theorem cell?_eq_reading :
    cell? 2 name row = (naming? row).bind (Naming.given? Naming.reading name) := by
  rw [cell?, naming?, columns_eq_cut]
  cases Text.cutAtFirst? (· = '\t') row with
  | none => simp
  | some cut =>
      have reading := (splitFields_eq cut.2).2
      cases hreading : (splitFields cut.2).2 with
      | none => simp [Naming.given?, reading, hreading]
      | some text =>
          simp [Naming.given?, reading, hreading, Option.filter_some, ofList_eq_iff, ite_and]

end Rows

/-- A row without any text at the end of a file makes no difference. -/
theorem findSome?_withoutMarks_concat {α : Type} (texts : List (List Char))
    {said? : List Char → Option α} (silent : said? [] = none) :
    (withoutMarks (texts ++ [[]])).findSome? said? = (withoutMarks texts).findSome? said? := by
  cases texts with
  | nil => simp [withoutMarks, silent]
  | cons first rest =>
      rw [List.cons_append, withoutMarks, withoutMarks, ← List.cons_append, List.findSome?_append]
      simp [silent]

theorem findSome?_rows {α : Type} (bytes : Bytes) {said? : List Char → Option α}
    (silent : said? [] = none) : (rows bytes).findSome? said? = (lines bytes).findSome? said? := by
  have empty : decodeLine [] = [] := by
    rw [decodeLine, Text.Utf8.decodeLossy, Text.Utf8.decode]
    rfl
  have marked : lines bytes = withoutMarks ((rawLines bytes).map decodeLine) := by
    rw [lines]
    cases (rawLines bytes).map decodeLine <;> rfl
  change (withoutMarks ((bytes.splitOn 10).map decodeLine)).findSome? said? = _
  rw [marked, rawLines, ← Text.pieces_eq_splitOn]
  by_cases last : (Text.pieces (· = 10) bytes).getLast? = some []
  · obtain ⟨cut, whole⟩ := List.getLast?_eq_some_iff.1 last
    rw [if_pos last, whole, List.dropLast_concat, List.map_append, List.map_singleton, empty]
    exact findSome?_withoutMarks_concat _ silent
  · rw [if_neg last]

theorem title?_eq (bytes : Bytes) (name : String) : title? bytes name = firstCell? bytes 1 name := by
  have silent : cell? 1 name [] = none := by simp [cell?, columns]
  rw [firstCell?, findSome?_rows bytes silent, title?, namings, firstGiven?_filterMap]
  simp only [← cell?_eq_title]

theorem reading?_eq (bytes : Bytes) (name : String) :
    reading? bytes name = firstCell? bytes 2 name := by
  have silent : cell? 2 name [] = none := by simp [cell?, columns]
  rw [firstCell?, findSome?_rows bytes silent, reading?, namings, firstGiven?_filterMap]
  simp only [← cell?_eq_reading]

end TitleFile

/-- An entry without a reading that takes one has its search keys, too. -/
theorem Entry.takeReading_of_unread {entry : Entry} (unread : entry.reading = "")
    (noKey : entry.readingKey = "") (noOtherKey : entry.manufacturerReadingKey = "")
    (reading : String) :
    entry.takeReading reading =
      { entry with
        reading := reading
        readingKey := if reading = "" then "" else Text.searchKey reading
        manufacturerReadingKey :=
          if reading = "" then "" else Text.searchKeyJoined entry.record.manufacturer reading } := by
  by_cases blank : reading = ""
  · subst blank
    rw [takeReading_empty]
    cases entry
    simp_all
  · simp [takeReading, unread, blank]

namespace Catalog

/-- The entries of the first records of a catalog, made one after the other. -/
theorem foldlM_addRecord (catalog : Catalog) (copyTitles : Bool) {count : Nat}
    (inside : count ≤ catalog.records.length) :
    (List.range count).foldlM (fun (draft : Draft) index =>
      draft.addRecord catalog.source (some catalog.placeholder) copyTitles index) {} =
        .ok (catalog.draft copyTitles count) := by
  induction count with
  | zero => rw [draft_zero]; rfl
  | succ count ih =>
      have here := List.getElem?_eq_getElem (l := catalog.records) inside
      rw [List.range_succ, List.foldlM_append, ih (by omega)]
      simp only [bind, Except.bind, List.foldlM_cons, List.foldlM_nil, addRecord_draft here, pure,
        Except.pure]

/-- Before titles are applied no entry has a title or a reading. -/
theorem untitled_draft (catalog : Catalog) (count : Nat) :
    ∀ entry ∈ (catalog.draft false count).entries, entry.description = "" ∧ entry.reading = "" ∧
      entry.readingKey = "" ∧ entry.manufacturerReadingKey = "" := by
  intro entry member
  obtain ⟨index, _, rfl⟩ := List.mem_mapIdx.1 member
  unfold entryOf
  split <;> exact ⟨rfl, rfl, rfl, rfl⟩

/-- Applied to the entries of all records of a catalog, a title file gives each the first text that it
has for it in its second column, or else the catalog's title, and the first that it has for it in its
third column as the reading, with its search keys. Nothing else about an entry changes. -/
theorem titles_by_columns {records : List SystemRecord} {catalog : Catalog}
    (accepted : ofRecords records = .ok catalog) (bytes : Bytes) :
    ∃ draft : Draft,
      (List.range catalog.records.length).foldlM (fun (draft : Draft) index =>
        draft.addRecord catalog.source (some catalog.placeholder) false index) {} = .ok draft ∧
      draft.entries.map Entry.record = catalog.records ∧
      (applyTitles bytes draft.entries).entries = draft.entries.map fun entry =>
        let title := TitleFile.firstCell? bytes 1 entry.shortname
        let reading := (TitleFile.firstCell? bytes 2 entry.shortname).getD ""
        { entry with
          description := title.getD entry.record.description
          reading := reading
          readingKey := if reading = "" then "" else Text.searchKey reading
          manufacturerReadingKey :=
            if reading = "" then ""
            else Text.searchKeyJoined entry.record.manufacturer reading } := by
  have enumerates := Enumerates.draft catalog false
  refine ⟨_, catalog.foldlM_addRecord false (Nat.le_refl _), enumerates.map_record, ?_⟩
  rw [entries_applyTitles (enumerates.increasing (ordered_of_ofRecords accepted))]
  apply List.map_congr_left
  intro entry member
  obtain ⟨untitled, unread, noKey, noOtherKey⟩ := untitled_draft catalog _ entry member
  rw [Entry.namedBy_of_untitled bytes untitled,
    Entry.takeReading_of_unread unread noKey noOtherKey, TitleFile.title?_eq, TitleFile.reading?_eq]

/-- A small catalog. -/
def arcade : Catalog where
  records := [placeholderRecord, { name := "board", description := "Board" },
    { name := "pac", description := "Zeta", manufacturer := "Namco" }]
  placeholder := 0

theorem ofRecords_arcade : ofRecords arcade.records = .ok arcade := by
  refine ofRecords_eq_ok ?_ ⟨?_, placeholderRecord, rfl, rfl⟩
  · decide +kernel
  · rw [Increasing]
    decide +kernel

/-- A file with a mark in front, a blank title beside a reading, a title that comes later, a system that
is not there, a row without columns, a malformed byte, and no line end at its end. -/
def arcadeTitles : Bytes :=
  Text.Utf8.encode
      "\uFEFFpac\t \tPakkuman\tx\r\nvoid\tVoid\n\npac\t Puckman \npac\tPac\tPac\nboard\t".toList ++
    [0xFF, 13]

theorem titles_by_columns_arcade :
    ∃ draft : Draft,
      (List.range arcade.records.length).foldlM (fun (draft : Draft) index =>
        draft.addRecord arcade.source (some arcade.placeholder) false index) {} = .ok draft ∧
      (applyTitles arcadeTitles draft.entries).entries.map
          (fun entry => (entry.shortname, entry.description, entry.reading)) =
        [("___empty", "Empty driver", ""), ("board", "\uFFFD", ""),
          ("pac", "Puckman", "Pakkuman")] := by
  obtain ⟨draft, made, records, named⟩ := titles_by_columns ofRecords_arcade arcadeTitles
  refine ⟨draft, made, ?_⟩
  -- What is told of an entry depends on its record alone.
  have told : draft.entries.map ((fun record : SystemRecord =>
      (record.name, (TitleFile.firstCell? arcadeTitles 1 record.name).getD record.description,
        (TitleFile.firstCell? arcadeTitles 2 record.name).getD "")) ∘ Entry.record) =
      [("___empty", "Empty driver", ""), ("board", "\uFFFD", ""),
        ("pac", "Puckman", "Pakkuman")] := by
    rw [← List.map_map, records]
    decide +kernel
  rw [named, List.map_map]
  exact told

end Catalog

end SystemMenu
