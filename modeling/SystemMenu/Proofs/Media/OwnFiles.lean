import Mathlib.Data.List.TakeWhile
import SystemMenu.Proofs.Media.Scans

/-!
# Files with a system's own name

A file stands for the system whose short name is the name of the file up to its first dot, in lowercase. So
a file that is called like a system, with or without an extension, stands for that system if the short name
has no dot and is in lowercase. A catalog accepts other short names too, and their own files stand for
other systems or for none.

## Main statements

* `Media.stem_of_isOwnFile`: what the file of a system stands for.
* `Media.scan_own_file`: a system is marked if there is a file with its own name.
* `Media.own_file_missed`: systems that are missed although there are files with their own names.
-/

namespace SystemMenu

namespace Media

/-- A file is called like a system, or this with an extension. -/
def IsOwnFile (shortname file : String) : Prop :=
  file = shortname ∨ ∃ extension, file = shortname ++ "." ++ extension

variable {shortname file : String}

/-- A name without a dot is taken as a whole, whether an extension follows it or not. -/
theorem takeWhile_of_isOwnFile (plain : '.' ∉ shortname.toList) (own : IsOwnFile shortname file) :
    file.toList.takeWhile (· ≠ '.') = shortname.toList := by
  have inside : ∀ c ∈ shortname.toList, decide (c ≠ '.') = true := by
    intro c member
    rw [decide_eq_true_iff]
    rintro rfl
    exact plain member
  obtain rfl | ⟨extension, rfl⟩ := own
  · exact List.takeWhile_eq_self_iff.2 inside
  · rw [String.toList_append, String.toList_append, List.append_assoc,
      List.takeWhile_append_of_pos inside]
    simp

/-- The file of a system stands for the lowercase form of the short name. -/
theorem stem_of_isOwnFile (plain : '.' ∉ shortname.toList) (own : IsOwnFile shortname file) :
    stem file = Text.lowercaseText shortname := by
  rw [stem, takeWhile_of_isOwnFile plain own, String.ofList_toList]

/-- A search marks every system whose file is in one of the directories, with systems without media hidden
or not, if the short name is in lowercase and has no dot. -/
theorem scan_own_file {records : List SystemRecord} {catalog : Catalog}
    (accepted : Catalog.ofRecords records = .ok catalog) {index : Nat} {record : SystemRecord}
    (here : catalog.records[index]? = some record) (plain : '.' ∉ record.name.toList)
    (lower : Text.lowercaseText record.name = record.name) {tree : FileTree}
    {directories : List String} {file : String} (found : Found tree directories file)
    (own : IsOwnFile record.name file) (requests : Nat) (hideRomless : Bool) :
    ∃ included, (scan catalog.source requests tree directories hideRomless).1 = .ok included ∧
      isMarked included index = true := by
  obtain ⟨included, searched, -, marks⟩ :=
    exists_scan (Catalog.ordered_of_ofRecords accepted) requests tree directories hideRomless
  have named : catalog.IsNamed (Found tree directories) index :=
    ⟨record, file, here, found, by rw [stem_of_isOwnFile plain own, lower]⟩
  refine ⟨included, searched, (marks index).2 ?_⟩
  cases hideRomless with
  | true => exact named
  | false => exact .named named

end Media

/-- Systems whose own files stand for no system: one name is not in lowercase, the other has a dot. -/
def Catalog.odd : Catalog where
  records := [{ name := "Pong", description := "Pong", roms := [.board] }, placeholderRecord,
    { name := "a.b", description := "Dotted", roms := [.board] }]
  placeholder := 1

theorem Catalog.ofRecords_odd : ofRecords odd.records = .ok odd := by
  refine ofRecords_eq_ok ?_ ⟨?_, placeholderRecord, rfl, rfl⟩
  · decide +kernel
  · rw [Increasing]
    decide +kernel

namespace Media

/-- A directory with a file for the last system of the chain, with two extensions. -/
def archived : FileTree := ⟨[], [(["roms"], .directory), (["roms", "gamma.tar.gz"], .file 0)], [[]]⟩

theorem scan_own_file_gamma :
    ∃ included, (scan Catalog.chain.source 0 archived ["none", "roms"] true).1 = .ok included ∧
      isMarked included 3 = true := by
  have found : Found archived ["none", "roms"] "gamma.tar.gz" := by
    rw [← mem_readNames_iff]
    decide +kernel
  have own : IsOwnFile "gamma" "gamma.tar.gz" := .inr ⟨"tar.gz", by decide +kernel⟩
  exact scan_own_file Catalog.ofRecords_chain rfl (by decide) (by decide +kernel) found own 0 true

/-- A directory with a file for each of the systems with odd names. -/
def misfiled : FileTree :=
  ⟨[], [(["roms"], .directory), (["roms", "Pong.zip"], .file 0), (["roms", "a.b.zip"], .file 0)], [[]]⟩

/-- The files of both systems are there, but neither of them is marked. -/
theorem own_file_missed :
    ∃ tree : FileTree, Found tree ["roms"] "Pong.zip" ∧ Found tree ["roms"] "a.b.zip" ∧
      IsOwnFile "Pong" "Pong.zip" ∧ IsOwnFile "a.b" "a.b.zip" ∧
      Catalog.ofRecords Catalog.odd.records = .ok Catalog.odd ∧
      (∃ record, Catalog.odd.records[0]? = some record ∧ record.name = "Pong") ∧
      (∃ record, Catalog.odd.records[2]? = some record ∧ record.name = "a.b") ∧
      ∃ included, (scan Catalog.odd.source 0 tree ["roms"] true).1 = .ok included ∧
        isMarked included 0 = false ∧ isMarked included 2 = false := by
  have marks : (scan Catalog.odd.source 0 misfiled ["roms"] true).1.toOption =
      some [false, false, false] := by decide +kernel
  obtain ⟨included, searched, -⟩ :=
    exists_scan (Catalog.ordered_of_ofRecords Catalog.ofRecords_odd) 0 misfiled ["roms"] true
  rw [searched] at marks
  cases marks
  exact ⟨misfiled, mem_readNames_iff.1 (by decide +kernel), mem_readNames_iff.1 (by decide +kernel),
    .inr ⟨"zip", by decide +kernel⟩, .inr ⟨"zip", by decide +kernel⟩, Catalog.ofRecords_odd,
    ⟨_, rfl, rfl⟩, ⟨_, rfl, rfl⟩, _, searched, rfl, rfl⟩

end Media

end SystemMenu
