import SystemMenu.Proofs.Files.Trees
import SystemMenu.Proofs.Listing.FilterText
import SystemMenu.Proofs.Staging.UsedLists
import SystemMenu.Proofs.Text.Utf8

/-!
# Saved lists of available systems

A saved list holds the short name of each available system on a line of its own. A short name has no
blanks, so no line is cut, trimmed or passed over as blank when the list is read. But a name may start
like a comment, and then it is passed over, or like a section, and then nothing from it on is read. All
other names come back.

## Main statements

* `SavedList.rawLines_encode`: the lines of a file are those that were written.
* `SavedList.load_save`: what is read from a list that was saved.
* `Cache.InUse.saved_list`: when a saved list tells every entry what it was told before.
-/

namespace SystemMenu

namespace Text

/-- A piece that holds no separator ends where one follows it. -/
theorem pieces_append_cons {α : Type} {isSeparator : α → Bool} {piece : List α}
    (none : ∀ x ∈ piece, isSeparator x = false) {separator : α}
    (here : isSeparator separator = true) (after : List α) :
    pieces isSeparator (piece ++ separator :: after) = piece :: pieces isSeparator after := by
  induction piece with
  | nil => simp [pieces, here]
  | cons x rest ih =>
      have first := none x List.mem_cons_self
      simp [pieces, first, ih fun y member => none y (List.mem_cons_of_mem x member)]

/-- Pieces that hold no separator are found again where one follows each of them. -/
theorem pieces_flatMap {α : Type} {isSeparator : α → Bool} {parts : List (List α)}
    (none : ∀ part ∈ parts, ∀ x ∈ part, isSeparator x = false) {separator : α}
    (here : isSeparator separator = true) :
    pieces isSeparator (parts.flatMap (· ++ [separator])) = parts ++ [[]] := by
  induction parts with
  | nil => rfl
  | cons part rest ih =>
      rw [List.flatMap_cons, List.append_assoc, List.singleton_append,
        pieces_append_cons (none part List.mem_cons_self) here,
        ih fun other member => none other (List.mem_cons_of_mem part member), List.cons_append]

/-- A text without blanks is tidy. -/
theorem Tidy.of_solid {text : List Char} (solid : ∀ c ∈ text, isBlank c = false) : Tidy text where
  first c h := solid c (List.mem_of_head? h)
  last c h := solid c (List.mem_of_getLast? h)

end Text

namespace SavedList

open Text.Utf8 (Bytes encode)

/-- A text of one line: neither of the characters that end a line is in it. -/
def IsLine (text : List Char) : Prop := '\n' ∉ text ∧ '\r' ∉ text

/-- The lines of a file are those that were written. -/
theorem rawLines_encode {lines : List (List Char)} (single : ∀ line ∈ lines, IsLine line) :
    rawLines (encode (lines.flatMap (· ++ ['\n']))) = lines.map encode := by
  have bytes : encode (lines.flatMap (· ++ ['\n'])) = (lines.map encode).flatMap (· ++ [10]) := by
    rw [encode, List.flatMap_assoc, List.flatMap_map]
    congr
    funext line
    rw [← encode, Text.Utf8.encode_append]
    rfl
  have whole : ∀ line ∈ lines.map encode, (10 : UInt8) ∉ line ∧ (13 : UInt8) ∉ line := by
    intro line member
    obtain ⟨text, here, rfl⟩ := List.mem_map.1 member
    constructor
    · exact fun among => (single text here).1 (Text.Utf8.mem_of_mem_encode (by decide) among)
    · exact fun among => (single text here).2 (Text.Utf8.mem_of_mem_encode (by decide) among)
  have cut : Text.pieces (· = 10) ((lines.map encode).flatMap (· ++ [10])) =
      lines.map encode ++ [[]] := by
    refine Text.pieces_flatMap (fun line member b among => ?_) (by decide)
    exact decide_eq_false fun newline => (whole line member).1 (newline ▸ among)
  have kept : (lines.map encode).map
      (fun line => if line.getLast? = some 13 then line.dropLast else line) = lines.map encode := by
    refine (List.map_congr_left fun line member => ?_).trans (List.map_id _)
    exact if_neg fun last => (whole line member).2 (List.mem_of_getLast? last)
  rw [bytes, rawLines, cut]
  simp only [List.dropLast_concat, List.getLast?_concat]
  exact kept

theorem decodeLine_encode (line : String) : decodeLine (encode line.toList) = .ok line := by
  rw [decodeLine, Text.Utf8.decodeStrict?_encode]
  exact congrArg Except.ok (String.ofList_toList)

/-- The name is taken for a comment. -/
def isComment (name : String) : Bool := name.toList.head? = some '#'

/-- The name is taken for the start of a section. -/
def opensSection (name : String) : Bool := name.toList.head? = some '['

/-- The name is taken for what it is. -/
def isPlain (name : String) : Bool := !isComment name && !opensSection name

/-- The names that come back: those before the first section that are no comments. -/
def kept (names : List String) : List String :=
  (names.takeWhile fun name => !opensSection name).filter fun name => !isComment name

theorem isPlain_of_mem_kept {names : List String} {name : String} (member : name ∈ kept names) :
    isPlain name = true := by
  obtain ⟨before, noComment⟩ := List.mem_filter.1 member
  have noSection := List.mem_takeWhile_imp before
  rw [isPlain, noComment, noSection]
  rfl

/-- Plain names all come back, in their order. -/
theorem kept_of_isPlain {names : List String} (plain : ∀ name ∈ names, isPlain name = true) :
    kept names = names := by
  have parts : ∀ name ∈ names, isComment name = false ∧ opensSection name = false := by
    intro name member
    simpa [isPlain] using plain name member
  rw [kept, List.takeWhile_eq_self_iff.2 fun name member => by simp [(parts name member).2],
    List.filter_eq_self.2 fun name member => by simp [(parts name member).1]]

/-- Exactly the plain names are read where all are written. -/
theorem kept_iff {names : List String} :
    (∀ name, name ∈ kept names ↔ name ∈ names) ↔ ∀ name ∈ names, isPlain name = true := by
  constructor
  · exact fun all name member => isPlain_of_mem_kept ((all name).2 member)
  · intro plain name
    rw [kept_of_isPlain plain]

theorem solid_of_isShortname {name : String} (valid : Catalog.isShortname name = true) :
    ∀ c ∈ name.toList, Text.isBlank c = false := by
  simpa [Catalog.isShortname] using (Bool.and_eq_true_iff.1 valid).2

/-- A text without blanks is on one line. -/
theorem IsLine.of_solid {text : List Char} (solid : ∀ c ∈ text, Text.isBlank c = false) :
    IsLine text := by
  constructor
  · exact fun member => absurd (solid _ member) (by decide)
  · exact fun member => absurd (solid _ member) (by decide)

/-- Reading the lines of short names gives the names that come back. -/
theorem readNames_encode {names : List String}
    (valid : ∀ name ∈ names, Catalog.isShortname name = true) :
    readNames (names.map fun name => encode name.toList) = .ok (kept names) := by
  induction names with
  | nil => rfl
  | cons name rest ih =>
      have here := valid name List.mem_cons_self
      have rest := ih fun other member => valid other (List.mem_cons_of_mem name member)
      have trimmed : Text.trimmed name = name := by
        rw [Text.trimmed, (Text.Tidy.of_solid (solid_of_isShortname here)).trim_eq,
          String.ofList_toList]
      have said : name ≠ "" := by
        rintro rfl
        cases here
      simp only [List.map_cons, readNames, decodeLine_encode, bind, Except.bind, trimmed, rest, said,
        false_or]
      split
      · rename_i comment
        have noSection : opensSection name = false := by simp [opensSection, comment]
        simp [kept, isComment, comment, noSection]
      split
      · rename_i noComment sectionStart
        have opens : opensSection name = true := by simp [opensSection, sectionStart]
        simp [kept, opens, pure, Except.pure]
      · rename_i noComment noSection
        simp [kept, isComment, opensSection, noComment, noSection, pure, Except.pure]

/-- The short names of the available entries. -/
def availableNames (entries : List Entry) : List String :=
  (entries.filter (·.available)).map Entry.shortname

theorem mem_availableNames {entries : List Entry} {name : String} :
    name ∈ availableNames entries ↔
      ∃ entry ∈ entries, entry.available = true ∧ entry.shortname = name := by
  simp [availableNames, and_assoc]

theorem toList_write (version : String) (entries : List Entry) :
    (write version entries).toList =
      ((header :: version :: availableNames entries).map String.toList).flatMap (· ++ ['\n']) := by
  rw [write, availableNames, String.toList_join, List.flatMap_map, List.flatMap_map]
  simp only [String.toList_append]
  rfl

/-- What is read from the text of a list are the names that come back. -/
theorem read_write {entries : List Entry}
    (valid : ∀ entry ∈ entries, Catalog.isShortname entry.shortname = true) :
    read version (encode (write version entries).toList) =
      .ok (.names (kept (availableNames entries))) := by
  have names : ∀ name ∈ availableNames entries, Catalog.isShortname name = true := by
    intro name member
    obtain ⟨entry, here, -, rfl⟩ := mem_availableNames.1 member
    exact valid entry here
  have single : ∀ line ∈ (header :: version :: availableNames entries).map String.toList,
      IsLine line := by
    intro line member
    obtain ⟨text, among, rfl⟩ := List.mem_map.1 member
    obtain _ | ⟨_, _ | ⟨_, name⟩⟩ := among
    · exact ⟨by decide, by decide⟩
    · exact ⟨by decide, by decide⟩
    · exact .of_solid (solid_of_isShortname (names text name))
  have lines : rawLines (encode (write version entries).toList) =
      encode header.toList :: encode version.toList ::
        (availableNames entries).map fun name => encode name.toList := by
    rw [toList_write, rawLines_encode single, List.map_map]
    rfl
  have tag : String.ofList (Text.trimEnd version.toList) = version := by decide
  simp only [read, lines, decodeLine_encode, read.checkVersion, tag, readNames_encode names, bind,
    Except.bind, pure, Except.pure, if_pos]

/-- A list that was saved is read as the names that come back, wherever something can be written. -/
theorem load_save {tree probe : FileTree} (complete : tree.Complete) {path : String}
    (writable : tree.write path [] = .ok probe) {entries : List Entry}
    (valid : ∀ entry ∈ entries, Catalog.isShortname entry.shortname = true) :
    ∃ after, save tree path version entries = .ok after ∧
      load after path version = .ok (some (kept (availableNames entries)), []) := by
  obtain ⟨after, written⟩ :=
    FileTree.exists_write writable (encode (write version entries).toList)
  refine ⟨after, by rw [save, written], ?_⟩
  rw [load, complete.readBytes_write written]
  simp only [read_write valid]

/-- The names of a list tell another list of the same catalog what this one was told, if and only if all
names of available systems are plain. -/
theorem applyNames_iff {catalog : Catalog} {list again : List Entry} (lists : catalog.ListsTold list)
    (others : catalog.ListsTold again) :
    (∀ before ∈ list, ∀ entry ∈ again, entry.shortname = before.shortname →
        (applyNames (kept (availableNames list)) entry).available = before.available) ↔
      ∀ name ∈ availableNames list, isPlain name = true := by
  constructor
  · intro restored name member
    obtain ⟨before, here, available, rfl⟩ := mem_availableNames.1 member
    obtain ⟨entry, there, record, -⟩ := lists.exists_same others here
    have same : entry.shortname = before.shortname := congrArg SystemRecord.name record
    have told := restored before here entry there same
    rw [applyNames, available, List.contains_iff_mem, same] at told
    exact isPlain_of_mem_kept told
  · intro plain before here entry there same
    rw [applyNames, kept_of_isPlain plain, same, Bool.eq_iff_iff, List.contains_iff_mem,
      mem_availableNames]
    constructor
    · rintro ⟨other, otherHere, available, named⟩
      rwa [← lists.eq_of_shortname otherHere here named]
    · exact fun available => ⟨before, here, available, rfl⟩

end SavedList

/-- Records whose names start like a comment and like a section, and one whose name does not. -/
def Catalog.signs : Catalog where
  records := [{ name := "#cart", description := "Cartridge" },
    { name := "[board", description := "Board" }, placeholderRecord,
    { name := "pong", description := "Pong" }]
  placeholder := 2

theorem Catalog.ofRecords_signs : ofRecords signs.records = .ok signs := by
  refine ofRecords_eq_ok ?_ ⟨?_, placeholderRecord, rfl, rfl⟩
  · decide +kernel
  · rw [Increasing]
    decide +kernel

namespace Cache.InUse

variable {records : List SystemRecord} {catalog : Catalog} {cache : Cache}

/-- Over a catalog that is accepted there is a list whose entries were told anything one likes. -/
theorem exists_told (accepted : Catalog.ofRecords records = .ok catalog)
    (isAvailable : Entry → Bool) :
    ∃ (cache : Cache) (number : Nat) (list : List Entry), InUse catalog.source cache ∧
      (cache.generation number).sorted = some (list.map (Entry.mark isAvailable)) ∧
      (list.map Entry.record).Perm catalog.listed := by
  obtain ⟨cache, reachable, offered⟩ := exists_published catalog "" "" (.empty [])
  have inUse := reachable.inUse
  obtain ⟨list, stored⟩ := (inUse.sound.inOrder_generation cache.current).exists_sorted
    (Generation.mem_published offered (by decide))
  refine ⟨cache.mark cache.current isAvailable, cache.current, list, inUse.use (.mark ..), ?_,
    (inUse.listsTold (Catalog.ordered_of_ofRecords accepted) stored).map_record_perm⟩
  rw [generation_mark, if_pos rfl, Generation.mark, stored]
  rfl

/-- A list can be saved wherever something can be written, whatever its entries were told, and reading it
gives the names that come back. These are exactly the names of its available systems, and every list of
the catalog is told by them what this list was told, if and only if no name of an available system starts
like a comment or a section. -/
theorem saved_list (accepted : Catalog.ofRecords records = .ok catalog)
    (inUse : InUse catalog.source cache) {number : Nat} {list : List Entry}
    (stored : (cache.generation number).sorted = some list) {tree probe : FileTree}
    (complete : tree.Complete) {path : String} (writable : tree.write path [] = .ok probe) :
    ∃ after names, SavedList.save tree path SavedList.version list = .ok after ∧
      SavedList.load after path SavedList.version = .ok (some names, []) ∧
      names = SavedList.kept (SavedList.availableNames list) ∧
      ((∀ name, name ∈ names ↔ ∃ entry ∈ list, entry.available = true ∧ entry.shortname = name) ↔
        ∀ entry ∈ list, entry.available = true → SavedList.isPlain entry.shortname = true) ∧
      ∀ other next again, InUse catalog.source other →
        (other.generation next).sorted = some again →
          ((∀ before ∈ list, ∀ entry ∈ again, entry.shortname = before.shortname →
              (SavedList.applyNames names entry).available = before.available) ↔
            ∀ entry ∈ list, entry.available = true →
              SavedList.isPlain entry.shortname = true) := by
  have ordered := Catalog.ordered_of_ofRecords accepted
  have lists := inUse.listsTold ordered stored
  have valid : ∀ entry ∈ list, Catalog.isShortname entry.shortname = true :=
    fun entry member => Catalog.isShortname_of_ofRecords accepted _ (lists.of_mem member).1
  have plain : (∀ name ∈ SavedList.availableNames list, SavedList.isPlain name = true) ↔
      ∀ entry ∈ list, entry.available = true → SavedList.isPlain entry.shortname = true := by
    constructor
    · intro plain entry member available
      exact plain _ (SavedList.mem_availableNames.2 ⟨entry, member, available, rfl⟩)
    · intro plain name member
      obtain ⟨entry, here, available, rfl⟩ := SavedList.mem_availableNames.1 member
      exact plain entry here available
  obtain ⟨after, saved, loaded⟩ := SavedList.load_save complete writable valid
  refine ⟨after, _, saved, loaded, rfl, ?_, ?_⟩
  · rw [← plain, ← SavedList.kept_iff]
    simp only [SavedList.mem_availableNames]
  · intro other next again others rebuilt
    rw [← plain]
    exact SavedList.applyNames_iff lists (others.listsTold ordered rebuilt)

theorem saved_list_signs :
    ∃ (cache : Cache) (number : Nat) (list : List Entry) (after : FileTree) (names : List String),
      InUse Catalog.signs.source cache ∧ (cache.generation number).sorted = some list ∧
      SavedList.save (.empty []) "available.ini" SavedList.version list = .ok after ∧
      SavedList.load after "available.ini" SavedList.version = .ok (some names, []) ∧
      "pong" ∈ names ∧ "#cart" ∉ names ∧
      ∀ entry ∈ list, (SavedList.applyNames names entry).available = entry.available := by
  obtain ⟨cache, number, list, inUse, stored, records⟩ :=
    exists_told Catalog.ofRecords_signs fun entry => entry.shortname = "pong"
  obtain ⟨probe, writable⟩ : ∃ probe, (FileTree.empty []).write "available.ini" [] = .ok probe :=
    ⟨_, rfl⟩
  obtain ⟨after, names, saved, loaded, -, agrees, restores⟩ :=
    saved_list Catalog.ofRecords_signs inUse stored (FileTree.complete_empty []) writable
  have told : ∀ entry ∈ list.map (Entry.mark fun entry => entry.shortname = "pong"),
      entry.available = true → entry.shortname = "pong" := by
    intro entry member available
    obtain ⟨before, -, rfl⟩ := List.mem_map.1 member
    exact of_decide_eq_true available
  have plain : ∀ entry ∈ list.map (Entry.mark fun entry => entry.shortname = "pong"),
      entry.available = true → SavedList.isPlain entry.shortname = true := by
    intro entry member available
    rw [told entry member available]
    decide
  refine ⟨cache, number, _, after, names, inUse, stored, saved, loaded, ?_, ?_, ?_⟩
  · obtain ⟨record, listed, named⟩ : ∃ record ∈ Catalog.signs.listed, record.name = "pong" := by
      decide +kernel
    obtain ⟨entry, member, rfl⟩ := List.mem_map.1 (records.mem_iff.2 listed)
    exact (agrees.2 plain "pong").2 ⟨_, List.mem_map_of_mem member, decide_eq_true named, named⟩
  · intro read
    obtain ⟨entry, member, available, named⟩ := (agrees.2 plain "#cart").1 read
    exact absurd (named.symm.trans (told entry member available)) (by decide)
  · intro entry member
    exact (restores cache number _ inUse stored).2 plain entry member entry member rfl

/-- An available system whose name starts like a comment is not available once its list was saved and
read. -/
theorem comment_not_restored :
    ∃ (cache : Cache) (number : Nat) (list : List Entry) (after : FileTree) (names : List String),
      InUse Catalog.signs.source cache ∧ (cache.generation number).sorted = some list ∧
      SavedList.save (.empty []) "available.ini" SavedList.version list = .ok after ∧
      SavedList.load after "available.ini" SavedList.version = .ok (some names, []) ∧
      ∃ entry ∈ list, entry.available = true ∧ entry.shortname = "#cart" ∧ "#cart" ∉ names ∧
        (SavedList.applyNames names entry).available = false := by
  obtain ⟨cache, number, list, inUse, stored, records⟩ :=
    exists_told Catalog.ofRecords_signs fun _ => true
  have lists := inUse.listsTold (Catalog.ordered_of_ofRecords Catalog.ofRecords_signs) stored
  obtain ⟨probe, writable⟩ : ∃ probe, (FileTree.empty []).write "available.ini" [] = .ok probe :=
    ⟨_, rfl⟩
  obtain ⟨after, saved, loaded⟩ := SavedList.load_save (FileTree.complete_empty []) writable
    fun entry member => Catalog.isShortname_of_ofRecords Catalog.ofRecords_signs _
      (lists.of_mem member).1
  obtain ⟨record, listed, named⟩ : ∃ record ∈ Catalog.signs.listed, record.name = "#cart" := by
    decide +kernel
  obtain ⟨entry, member, rfl⟩ := List.mem_map.1 (records.mem_iff.2 listed)
  have lost : "#cart" ∉
      SavedList.kept (SavedList.availableNames (list.map (Entry.mark fun _ => true))) :=
    fun read => absurd (SavedList.isPlain_of_mem_kept read) (by decide)
  refine ⟨cache, number, _, after, _, inUse, stored, saved, loaded, _, List.mem_map_of_mem member, rfl,
    named, lost, ?_⟩
  have same : (entry.mark fun _ => true).shortname = "#cart" := named
  rw [SavedList.applyNames, same, ← Bool.not_eq_true, List.contains_iff_mem]
  exact lost

end Cache.InUse

end SystemMenu
