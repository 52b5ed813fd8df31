import SystemMenu.Media.Scan
import SystemMenu.Proofs.Catalog.Ordered

/-!
# What a search for media marks

A search marks the records that some file stands for and then, in one pass in the order of the catalog,
those that need no media of their own. When the pass comes to a clone, its parent is marked if a file
stands for it, or if the parent comes earlier and needs no media either. So what is marked can be told
from the names that were found, by a rule that does not mention the order of the names and the directories,
and more names mark more.

## Main statements

* `Catalog.Present`: which records are present by the rule, if a clone sees only some parents.
* `Media.mem_readNames_iff`: the names that are found.
* `Media.exists_pass`: what one pass marks.
* `Media.exists_scan`: a search over a catalog does not fail, and what it marks.
* `Media.scan_by_names`: a search depends on the names alone, and more names mark more.
-/

namespace SystemMenu

/-- A clone finds all files with a parent: both have the same files, or for every file that the clone
needs the parent needs one with the same content. -/
def SystemRecord.FindsAllIn (clone parent : SystemRecord) : Prop :=
  clone.roms = parent.roms ∨
    ∀ rom ∈ clone.requiredRoms, ∃ other ∈ parent.requiredRoms, other.sameDump rom = true

namespace Catalog

/-- A file among some names stands for the record with a number. -/
def IsNamed (catalog : Catalog) (found : String → Prop) (index : Nat) : Prop :=
  ∃ record name, catalog.records[index]? = some record ∧ found name ∧
    record.name = Media.stem name

/-- A record other than the placeholder needs no media of its own, given which records are present: no
file has to be there for it, or it finds all files with its parent, which is present. -/
def NeedsNoMedia (catalog : Catalog) (present : Nat → Prop) (index : Nat) : Prop :=
  index ≠ catalog.placeholder ∧ ∃ record, catalog.records[index]? = some record ∧
    (record.requiredRoms = [] ∨
      ∃ parent parentRecord, catalog.cloneOf? index = some parent ∧
        catalog.records[parent]? = some parentRecord ∧ present parent ∧
        record.FindsAllIn parentRecord)

variable {catalog : Catalog} {present others : Nat → Prop} {index : Nat}

/-- A record that needs no media needs none either if more is present. -/
theorem NeedsNoMedia.mono (more : ∀ parent, present parent → others parent)
    (none : catalog.NeedsNoMedia present index) : catalog.NeedsNoMedia others index := by
  obtain ⟨real, record, here, free | ⟨parent, parentRecord, clone, there, shown, shares⟩⟩ := none
  · exact ⟨real, record, here, .inl free⟩
  · exact ⟨real, record, here,
      .inr ⟨parent, parentRecord, clone, there, more parent shown, shares⟩⟩

theorem needsNoMedia_congr (same : ∀ parent, present parent ↔ others parent) :
    catalog.NeedsNoMedia present index ↔ catalog.NeedsNoMedia others index :=
  ⟨.mono fun parent => (same parent).1, .mono fun parent => (same parent).2⟩

theorem NeedsNoMedia.lt_length (none : catalog.NeedsNoMedia present index) :
    index < catalog.records.length := by
  obtain ⟨-, record, here, -⟩ := none
  exact (List.getElem?_eq_some_iff.1 here).1

/-- The parent of a clone is in the catalog. -/
theorem exists_parentRecord {parent : Nat} (clone : catalog.cloneOf? index = some parent) :
    ∃ record, catalog.records[parent]? = some record := by
  simp only [cloneOf?, Option.bind_eq_bind, Option.bind_eq_some_iff] at clone
  obtain ⟨-, -, -, -, found, -, record, here, real⟩ := clone
  split at real
  · cases real
  · cases real
    exact ⟨record, here⟩

theorem IsNamed.mono {found more : String → Prop} (names : ∀ name, found name → more name)
    (named : catalog.IsNamed found index) : catalog.IsNamed more index := by
  obtain ⟨record, name, here, among, same⟩ := named
  exact ⟨record, name, here, names name among, same⟩

/-- The records that are present if some names are found: those that a file stands for, and those that
need no media of their own, where a clone sees its parent only under some condition. -/
inductive Present (catalog : Catalog) (found : String → Prop) (visible : Nat → Nat → Prop) :
    Nat → Prop
  | named {index : Nat} : catalog.IsNamed found index → Present catalog found visible index
  | free {index : Nat} {record : SystemRecord} : index ≠ catalog.placeholder →
      catalog.records[index]? = some record → record.requiredRoms = [] →
      Present catalog found visible index
  | shared {index parent : Nat} {record parentRecord : SystemRecord} :
      index ≠ catalog.placeholder → catalog.records[index]? = some record →
      catalog.cloneOf? index = some parent → catalog.records[parent]? = some parentRecord →
      visible index parent → Present catalog found visible parent →
      record.FindsAllIn parentRecord → Present catalog found visible index

/-- A clone sees its parent in one pass in the order of the catalog: a file stands for the parent, or the
parent comes earlier. -/
def InReach (catalog : Catalog) (found : String → Prop) (index parent : Nat) : Prop :=
  catalog.IsNamed found parent ∨ parent < index

/-- The records that count as present, with those that need no media or without them. -/
def Counts (catalog : Catalog) (found : String → Prop) (hideRomless : Bool) : Nat → Prop :=
  if hideRomless then catalog.IsNamed found
  else catalog.Present found (catalog.InReach found)

section Present

variable {found more : String → Prop} {visible further : Nat → Nat → Prop}

/-- A record is present if a file stands for it, or if it needs none given the parents that it sees. -/
theorem present_iff :
    catalog.Present found visible index ↔ catalog.IsNamed found index ∨
      catalog.NeedsNoMedia
        (fun parent => visible index parent ∧ catalog.Present found visible parent) index := by
  constructor
  · intro present
    cases present with
    | named named => exact .inl named
    | free real here free => exact .inr ⟨real, _, here, .inl free⟩
    | shared real here clone there seen shown shares =>
        exact .inr ⟨real, _, here, .inr ⟨_, _, clone, there, ⟨seen, shown⟩, shares⟩⟩
  · rintro (named | ⟨real, record, here, free | ⟨parent, parentRecord, clone, there, shown, shares⟩⟩)
    · exact .named named
    · exact .free real here free
    · exact .shared real here clone there shown.1 shown.2 shares

/-- With more names and more parents in sight, more is present. -/
theorem Present.mono (names : ∀ name, found name → more name)
    (sight : ∀ index parent, visible index parent → further index parent)
    (present : catalog.Present found visible index) : catalog.Present more further index := by
  induction present with
  | named named => exact .named (named.mono names)
  | free real here free => exact .free real here free
  | shared real here clone there seen _ shares shown =>
      exact .shared real here clone there (sight _ _ seen) shown shares

theorem Counts.mono {hideRomless : Bool} (names : ∀ name, found name → more name)
    (counts : catalog.Counts found hideRomless index) : catalog.Counts more hideRomless index := by
  cases hideRomless with
  | true => exact IsNamed.mono names counts
  | false => exact Present.mono names (fun _ _ reach => reach.imp_left (.mono names)) counts

end Present

end Catalog

/-- A file that several systems need. -/
def Rom.board : Rom := { name := "board.bin", length := 4, hashes := "CRC(c1e6ab10)" }

/-- Three systems that need the same file, each a clone of the next. -/
def Catalog.chain : Catalog where
  records := [placeholderRecord,
    { name := "alpha", description := "Alpha", parent := some "beta", roms := [.board] },
    { name := "beta", description := "Beta", parent := some "gamma", roms := [.board] },
    { name := "gamma", description := "Gamma", roms := [.board] }]
  placeholder := 0

theorem Catalog.ofRecords_chain : ofRecords chain.records = .ok chain := by
  refine ofRecords_eq_ok ?_ ⟨?_, placeholderRecord, rfl, rfl⟩
  · decide +kernel
  · rw [Increasing]
    decide +kernel

namespace Media

section Names

/-- A name is that of an entry of some directory that can be read. -/
def Found (tree : FileTree) (directories : List String) (name : String) : Prop :=
  ∃ directory ∈ directories, ∃ names, tree.names directory = .ok names ∧ name ∈ names

theorem mem_readNames_iff {tree : FileTree} {directories : List String} {name : String} :
    name ∈ (readNames tree directories).1 ↔ Found tree directories name := by
  induction directories with
  | nil => simp [readNames, Found]
  | cons directory rest ih =>
      have split : Found tree (directory :: rest) name ↔
          (∃ names, tree.names directory = .ok names ∧ name ∈ names) ∨ Found tree rest name := by
        simp [Found]
      rw [split, ← ih]
      simp only [readNames]
      cases tree.names directory with
      | ok names => simp
      | error cause => simp

end Names

section Marking

variable {included : List Bool} {index other : Nat}

theorem isMarked_replicate (size index : Nat) :
    isMarked (List.replicate size false) index = false := by
  simp only [isMarked, List.getElem?_replicate]
  split <;> rfl

/-- Marking a record leaves all other marks as they are. -/
theorem isMarked_set :
    isMarked (included.set index true) other = true ↔
      isMarked included other = true ∨ other = index ∧ index < included.length := by
  simp only [isMarked, List.getElem?_set]
  grind

theorem length_markFile (source : Source) (included : List Bool) (file : String) :
    (markFile source included file).length = included.length := by
  unfold markFile
  split <;> simp

theorem length_foldl_markFile (source : Source) (files : List String) (included : List Bool) :
    (files.foldl (markFile source) included).length = included.length := by
  induction files generalizing included with
  | nil => rfl
  | cons file rest ih => rw [List.foldl_cons, ih, length_markFile]

/-- A file marks the record that it stands for. -/
theorem isMarked_markFile {source : Source} {file : String}
    (bounded : ∀ index, source.find? (stem file) = some index → index < included.length) :
    isMarked (markFile source included file) other = true ↔
      isMarked included other = true ∨ source.find? (stem file) = some other := by
  unfold markFile
  split
  · rename_i index known
    rw [isMarked_set, known, Option.some.injEq, and_iff_left (bounded index known),
      eq_comm (a := other)]
  · rename_i unknown
    simp [unknown]

/-- Files mark the records that they stand for, in whatever order they come. -/
theorem isMarked_foldl_markFile {source : Source} {files : List String}
    (bounded : ∀ file ∈ files, ∀ index, source.find? (stem file) = some index →
      index < included.length) :
    isMarked (files.foldl (markFile source) included) other = true ↔
      isMarked included other = true ∨ ∃ file ∈ files, source.find? (stem file) = some other := by
  induction files generalizing included with
  | nil => simp
  | cons file rest ih =>
      rw [List.foldl_cons, ih, isMarked_markFile (bounded file List.mem_cons_self)]
      · simp [or_assoc]
      · intro later member
        rw [length_markFile]
        exact bounded later (List.mem_cons_of_mem file member)

end Marking

section Pass

variable (catalog : Catalog) {included : List Bool} {index : Nat}

theorem sharesAll_eq_true_iff {clone parent : SystemRecord} :
    sharesAll clone parent = true ↔ clone.FindsAllIn parent := by
  simp [sharesAll, SystemRecord.FindsAllIn]

/-- Over a catalog it can always be told whether a record needs media of its own. -/
theorem exists_needsNothingElse {record : SystemRecord}
    (here : catalog.records[index]? = some record) (included : List Bool) :
    ∃ answer, needsNothingElse catalog.source included index = .ok answer ∧
      (answer = true ↔ record.requiredRoms = [] ∨
        ∃ parent parentRecord, catalog.cloneOf? index = some parent ∧
          catalog.records[parent]? = some parentRecord ∧ isMarked included parent = true ∧
          record.FindsAllIn parentRecord) := by
  have read := catalog.recordAt_source here
  have asked := catalog.cloneOf_source here
  by_cases free : record.requiredRoms = []
  · refine ⟨true, ?_, by simp [free]⟩
    simp [needsNothingElse, read, free, bind, Except.bind, pure, Except.pure]
  · cases clone : catalog.cloneOf? index with
    | none =>
        refine ⟨false, ?_, by simp [free]⟩
        simp [needsNothingElse, read, asked, clone, free, bind, Except.bind, pure, Except.pure]
    | some parent =>
        obtain ⟨parentRecord, there⟩ := Catalog.exists_parentRecord clone
        have readParent := catalog.recordAt_source there
        by_cases shown : isMarked included parent = true
        · refine ⟨sharesAll record parentRecord, ?_, ?_⟩
          · simp [needsNothingElse, read, asked, clone, free, shown, readParent, bind, Except.bind,
              pure, Except.pure]
          · simp [sharesAll_eq_true_iff, free, there, shown]
        · refine ⟨false, ?_, by simp [free, shown]⟩
          simp [needsNothingElse, read, asked, clone, free, shown, bind, Except.bind, pure,
            Except.pure]

/-- One record of the pass. -/
theorem exists_markFree (inside : index < catalog.records.length)
    (size : included.length = catalog.records.length) :
    ∃ after, markFree catalog.source (some catalog.placeholder) included index = .ok after ∧
      after.length = included.length ∧
      ∀ other, isMarked after other = true ↔ isMarked included other = true ∨
        other = index ∧ catalog.NeedsNoMedia (isMarked included · = true) index := by
  have here := List.getElem?_eq_getElem inside
  obtain ⟨answer, told, means⟩ := exists_needsNothingElse catalog here included
  have needs : catalog.NeedsNoMedia (isMarked included · = true) index ↔
      index ≠ catalog.placeholder ∧ answer = true := by
    rw [means]
    simp [Catalog.NeedsNoMedia, here]
  rw [markFree]
  by_cases settled : isMarked included index = true ∨ some catalog.placeholder = some index
  · refine ⟨included, by rw [if_pos settled]; rfl, rfl, fun other => ?_⟩
    rw [needs]
    constructor
    · exact .inl
    · rintro (marked | ⟨rfl, real, -⟩)
      · exact marked
      · obtain marked | placeholder := settled
        · exact marked
        · exact absurd (Option.some.inj placeholder).symm real
  · rw [if_neg settled, told]
    rw [not_or, Option.some.injEq] at settled
    cases answer with
    | true =>
        refine ⟨included.set index true, rfl, List.length_set, fun other => ?_⟩
        rw [isMarked_set, needs]
        simp [size, inside, Ne.symm settled.2]
    | false =>
        refine ⟨included, rfl, rfl, fun other => ?_⟩
        simp [needs]

/-- A pass over the first records of a catalog. What it sees of a parent when it comes to a clone is
whether the parent is present, among those in reach. -/
theorem exists_pass {found : String → Prop} (size : included.length = catalog.records.length)
    (start : ∀ index, isMarked included index = true ↔ catalog.IsNamed found index) {count : Nat}
    (inside : count ≤ catalog.records.length) :
    ∃ after, (List.range count).foldlM (markFree catalog.source (some catalog.placeholder))
        included = .ok after ∧
      after.length = catalog.records.length ∧
      ∀ index, isMarked after index = true ↔ catalog.IsNamed found index ∨
        index < count ∧ catalog.Present found (catalog.InReach found) index := by
  induction count with
  | zero => exact ⟨included, rfl, size, by simpa using start⟩
  | succ count ih =>
      obtain ⟨before, passed, beforeSize, marked⟩ := ih (by omega)
      obtain ⟨after, done, afterSize, added⟩ := exists_markFree catalog inside beforeSize
      refine ⟨after, ?_, afterSize.trans beforeSize, fun index => ?_⟩
      · rw [List.range_succ, List.foldlM_append, passed]
        simp [done, bind, Except.bind, pure, Except.pure]
      -- The marks so far are those of the parents that the next record sees.
      have seen : ∀ parent, isMarked before parent = true ↔
          catalog.InReach found count parent ∧
            catalog.Present found (catalog.InReach found) parent := by
        intro parent
        rw [marked, Catalog.InReach, or_and_right, and_iff_left_of_imp Catalog.Present.named]
      have next : catalog.Present found (catalog.InReach found) count ↔
          catalog.IsNamed found count ∨
            catalog.NeedsNoMedia (isMarked before · = true) count := by
        rw [Catalog.present_iff, Catalog.needsNoMedia_congr seen]
      rw [added, marked]
      constructor
      · rintro ((named | ⟨less, present⟩) | ⟨rfl, none⟩)
        · exact .inl named
        · exact .inr ⟨by omega, present⟩
        · exact .inr ⟨by omega, next.2 (.inr none)⟩
      · rintro (named | ⟨less, present⟩)
        · exact .inl (.inl named)
        · obtain rfl | less := Nat.eq_or_lt_of_le (Nat.le_of_lt_succ less)
          · exact (next.1 present).imp .inl fun none => ⟨rfl, none⟩
          · exact .inl (.inr ⟨less, present⟩)

/-- Files mark the records that they stand for, and nothing else. -/
theorem isMarked_files {catalog : Catalog} (ordered : catalog.Ordered) {files : List String}
    {found : String → Prop} (names : ∀ name, name ∈ files ↔ found name) {index : Nat} :
    isMarked (files.foldl (markFile catalog.source)
        (List.replicate catalog.records.length false)) index = true ↔
      catalog.IsNamed found index := by
  have bounded : ∀ file ∈ files, ∀ index, catalog.source.find? (stem file) = some index →
      index < (List.replicate catalog.records.length false).length := by
    intro file _ index known
    obtain ⟨record, here, -⟩ := Catalog.of_find?_eq_some known
    rw [List.length_replicate]
    exact (List.getElem?_eq_some_iff.1 here).1
  rw [isMarked_foldl_markFile bounded, isMarked_replicate]
  constructor
  · rintro (marked | ⟨file, member, known⟩)
    · cases marked
    · obtain ⟨record, here, same⟩ := Catalog.of_find?_eq_some known
      exact ⟨record, file, here, (names file).1 member, same⟩
  · rintro ⟨record, file, here, among, same⟩
    exact .inr ⟨file, (names file).2 among, ordered.find?_eq_some_iff.2 ⟨record, here, same⟩⟩

/-- A search over a catalog does not fail. It marks the records that count as present given the names
in the directories that can be read. -/
theorem exists_scan {catalog : Catalog} (ordered : catalog.Ordered) (requests : Nat)
    (tree : FileTree) (directories : List String) (hideRomless : Bool) :
    ∃ included, (scan catalog.source requests tree directories hideRomless).1 = .ok included ∧
      included.length = catalog.records.length ∧
      ∀ index, isMarked included index = true ↔
        catalog.Counts (Found tree directories) hideRomless index := by
  have searched : (scan catalog.source requests tree directories hideRomless).1 =
      mark catalog.source requests (readNames tree directories).1 hideRomless := rfl
  have named : ∀ index, isMarked ((readNames tree directories).1.foldl (markFile catalog.source)
      (List.replicate catalog.records.length false)) index = true ↔
        catalog.IsNamed (Found tree directories) index :=
    fun _ => isMarked_files ordered fun _ => mem_readNames_iff
  have size := (length_foldl_markFile catalog.source (readNames tree directories).1
    (List.replicate catalog.records.length false)).trans List.length_replicate
  rw [searched]
  cases hideRomless with
  | true => exact ⟨_, rfl, size, named⟩
  | false =>
      obtain ⟨after, passed, afterSize, marked⟩ := exists_pass catalog size named (Nat.le_refl _)
      refine ⟨after, passed, afterSize, fun index => ?_⟩
      rw [marked]
      constructor
      · rintro (named | ⟨-, present⟩)
        · exact .named named
        · exact present
      · intro present
        obtain named | none := Catalog.present_iff.1 present
        · exact .inl named
        · exact .inr ⟨none.lt_length, present⟩

/-- Marks are determined by which records they mark. -/
theorem eq_of_isMarked_iff {a b : List Bool} (size : a.length = b.length)
    (same : ∀ index, isMarked a index = true ↔ isMarked b index = true) : a = b := by
  apply List.ext_getElem size
  intro index inside insideToo
  have marks := same index
  simp only [isMarked, List.getElem?_eq_getElem inside, List.getElem?_eq_getElem insideToo,
    Option.getD_some] at marks
  exact Bool.eq_iff_iff.2 marks

/-- A search that finds all names that another one finds marks all records that the other one marks. If
both find the same names, they mark the same records. -/
theorem exists_scan_of_names {catalog : Catalog} (ordered : catalog.Ordered) {requests : Nat}
    {tree other : FileTree} {directories others : List String} {hideRomless : Bool}
    {included : List Bool}
    (searched : (scan catalog.source requests tree directories hideRomless).1 = .ok included)
    (names : ∀ name, Found tree directories name → Found other others name) (later : Nat) :
    ∃ more, (scan catalog.source later other others hideRomless).1 = .ok more ∧
      (∀ index, isMarked included index = true → isMarked more index = true) ∧
      ((∀ name, Found other others name → Found tree directories name) → more = included) := by
  obtain ⟨same, found, size, marks⟩ := exists_scan ordered requests tree directories hideRomless
  obtain rfl : same = included := Except.ok.inj (found.symm.trans searched)
  obtain ⟨more, moreFound, moreSize, marksMore⟩ := exists_scan ordered later other others hideRomless
  refine ⟨more, moreFound, fun index marked => ?_, fun back => ?_⟩
  · exact (marksMore index).2 (((marks index).1 marked).mono names)
  · apply eq_of_isMarked_iff (moreSize.trans size.symm)
    intro index
    rw [marksMore, marks]
    exact ⟨.mono back, .mono names⟩

end Pass

/-- A search over a catalog always has a result. If systems without media are hidden, it marks exactly the
records whose names are the stems of some names that were found. All of these are marked if they are not
hidden, and the placeholder then only if a stem is its name. A search that finds all names that another
one finds, in whatever directories and in whatever order, marks all records that the other one marks, and
two searches that find the same names have the same result. -/
theorem scan_by_names {records : List SystemRecord} {catalog : Catalog}
    (accepted : Catalog.ofRecords records = .ok catalog) (requests : Nat) (tree : FileTree)
    (directories : List String) :
    ∃ named all : List Bool,
      (scan catalog.source requests tree directories true).1 = .ok named ∧
      (scan catalog.source requests tree directories false).1 = .ok all ∧
      named.length = catalog.records.length ∧ all.length = catalog.records.length ∧
      (∀ index, isMarked named index = true ↔ ∃ record name,
        catalog.records[index]? = some record ∧ Found tree directories name ∧
          record.name = stem name) ∧
      (∀ index, isMarked named index = true → isMarked all index = true) ∧
      (isMarked all catalog.placeholder = true ↔
        ∃ name, Found tree directories name ∧ stem name = "___empty") ∧
      ∀ (later : Nat) (other : FileTree) (others : List String),
        (∀ name, Found tree directories name → Found other others name) →
        ∃ moreNamed more : List Bool,
          (scan catalog.source later other others true).1 = .ok moreNamed ∧
          (scan catalog.source later other others false).1 = .ok more ∧
          (∀ index, isMarked named index = true → isMarked moreNamed index = true) ∧
          (∀ index, isMarked all index = true → isMarked more index = true) ∧
          ((∀ name, Found other others name → Found tree directories name) →
            moreNamed = named ∧ more = all) := by
  have ordered := Catalog.ordered_of_ofRecords accepted
  obtain ⟨named, namedIs, namedSize, marksNamed⟩ := exists_scan ordered requests tree directories true
  obtain ⟨all, allIs, allSize, marksAll⟩ := exists_scan ordered requests tree directories false
  refine ⟨named, all, namedIs, allIs, namedSize, allSize, marksNamed, ?_, ?_, ?_⟩
  · intro index marked
    exact (marksAll index).2 (.named ((marksNamed index).1 marked))
  · obtain ⟨record, here, placeholder⟩ := ordered.placeholder
    rw [marksAll]
    constructor
    · intro present
      obtain ⟨found, name, there, among, same⟩ | ⟨real, -⟩ := Catalog.present_iff.1 present
      · obtain rfl : found = record := Option.some.inj (there.symm.trans here)
        exact ⟨name, among, same.symm.trans placeholder⟩
      · exact absurd rfl real
    · rintro ⟨name, among, same⟩
      exact .named ⟨record, name, here, among, placeholder.trans same.symm⟩
  · intro later other others names
    obtain ⟨moreNamed, moreNamedIs, keepsNamed, sameNamed⟩ :=
      exists_scan_of_names ordered namedIs names later
    obtain ⟨more, moreIs, keeps, same⟩ := exists_scan_of_names ordered allIs names later
    exact ⟨moreNamed, more, moreNamedIs, moreIs, keepsNamed, keeps,
      fun back => ⟨sameNamed back, same back⟩⟩

/-- A directory with one file, for the last system of the chain. -/
def oneFile : FileTree := ⟨[], [(["roms"], .directory), (["roms", "Gamma.zip"], .file 0)], [[]]⟩

theorem scan_by_names_chain :
    ∃ (copies : FileTree) (directories : List String) (named all : List Bool),
      (readNames copies directories).1 = ["Gamma.zip", "Gamma.zip"] ∧
      (scan Catalog.chain.source 0 oneFile ["roms"] true).1 = .ok named ∧
      (scan Catalog.chain.source 0 oneFile ["roms"] false).1 = .ok all ∧
      (scan Catalog.chain.source 1 copies directories true).1 = .ok named ∧
      (scan Catalog.chain.source 1 copies directories false).1 = .ok all ∧
      isMarked named 3 = true ∧ isMarked all 3 = true ∧ isMarked all 0 = false := by
  let copies : FileTree := ⟨[], [(["cold"], .directory), (["hot"], .directory),
    (["hot", "Gamma.zip"], .file 0), (["cold", "Gamma.zip"], .directory)], [[]]⟩
  have one : (readNames oneFile ["roms"]).1 = ["Gamma.zip"] := by decide +kernel
  have two : (readNames copies ["hot", "none", "cold"]).1 = ["Gamma.zip", "Gamma.zip"] := by
    decide +kernel
  have same : ∀ name, Found oneFile ["roms"] name ↔ Found copies ["hot", "none", "cold"] name := by
    intro name
    rw [← mem_readNames_iff, ← mem_readNames_iff, one, two]
    simp
  obtain ⟨named, all, namedIs, allIs, -, -, marks, keeps, placeholder, others⟩ :=
    scan_by_names Catalog.ofRecords_chain 0 oneFile ["roms"]
  obtain ⟨moreNamed, more, moreNamedIs, moreIs, -, -, equal⟩ :=
    others 1 copies ["hot", "none", "cold"] fun name => (same name).1
  obtain ⟨rfl, rfl⟩ := equal fun name => (same name).2
  have last : isMarked moreNamed 3 = true := by
    refine (marks 3).2 ⟨_, "Gamma.zip", rfl, mem_readNames_iff.1 ?_, by decide +kernel⟩
    rw [one]
    exact List.mem_singleton_self _
  refine ⟨copies, _, moreNamed, more, two, namedIs, allIs, moreNamedIs, moreIs, last, keeps 3 last, ?_⟩
  rw [← Bool.not_eq_true]
  intro marked
  obtain ⟨name, found, stem⟩ := placeholder.1 marked
  rw [← mem_readNames_iff, one, List.mem_singleton] at found
  subst found
  exact absurd stem (by decide +kernel)

end Media

end SystemMenu
