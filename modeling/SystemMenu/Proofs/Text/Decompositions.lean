import Mathlib.Data.List.Chain
import SystemMenu.Proofs.Text.CodeTables
import SystemMenu.Text.Decomposition

/-!
# What decompositions consist of

Every part of a decomposition stands alone: it is no syllable, is not listed and is no ideograph that stands
for another one. So decomposing a second time changes nothing. The tables are checked row by row; they are
cut into blocks for this, so that each code point is looked up in a small tree.

## Main statements

* `find?_decompositionTable`: the table of decompositions, block by block.
* `decompose_inv`: what a character can decompose into.
* `decompose_of_mem_decompose`: decompositions are full.
* `listed?_eq_none`: a character that is left alone is not listed.
-/

namespace SystemMenu.Text

section Blocks

/-- The rows of the table of decompositions, block by block. -/
def decompositionBlocks : List (Row (List (Row (List Nat)))) := [
    ⟨0x00C0, 0x0233, latinRows⟩, ⟨0x0340, 0x1B43, greekToMyanmarRows⟩,
    ⟨0x1E00, 0x1EF9, latinAdditionalRows⟩, ⟨0x1F00, 0x1FFD, greekExtendedRows⟩,
    ⟨0x2000, 0x2ADC, symbolRows⟩, ⟨0x304C, 0x30FE, kanaRows⟩, ⟨0xFB1D, 0xFB4E, hebrewFormRows⟩,
    ⟨0x105C9, 0x1D1C0, supplementaryRows⟩]

/-- The code points that a code point is listed with. -/
def listed? (code : Nat) : Option (List Nat) :=
  (((CodeTable.ofRows decompositionBlocks).find? code).bind fun block =>
    (CodeTable.ofRows block.value).find? code).map Row.value

theorem decompositionTable_eq :
    decompositionTable = .ofRows (decompositionBlocks.flatMap Row.value) := by
  simp only [decompositionTable, decompositionBlocks, List.flatMap_cons, List.flatMap_nil,
    List.append_nil, List.append_assoc]

/-- The table of decompositions, block by block. -/
theorem find?_decompositionTable (code : Nat) :
    (decompositionTable.find? code).map Row.value = listed? code := by
  have increasing : (decompositionBlocks.flatMap Row.value).IsChain Row.Before := by decide +kernel
  have apart : decompositionBlocks.IsChain Row.Before := by decide +kernel
  have within : ∀ block ∈ decompositionBlocks, ∀ row ∈ block.value,
      block.first ≤ row.first ∧ row.last ≤ block.last := by decide +kernel
  rw [decompositionTable_eq, CodeTable.find?_ofRows_flatMap (List.isChain_iff_pairwise.1 increasing)
    (List.isChain_iff_pairwise.1 apart) within, listed?]

/-- Something is listed for every listed character, and no such character is among the first 192. -/
theorem proper_of_mem_blocks : ∀ block ∈ decompositionBlocks, ∀ row ∈ block.value,
    row.value ≠ [] ∧ 0xC0 ≤ row.first := by decide +kernel

/-- A listed code point has a row in one of the blocks. -/
theorem exists_row_of_listed? {code : Nat} {parts : List Nat} (listed : listed? code = some parts) :
    ∃ block ∈ decompositionBlocks, ∃ row ∈ block.value, row.Holds code ∧ row.value = parts := by
  obtain ⟨row, found, rfl⟩ := Option.map_eq_some_iff.1 listed
  obtain ⟨block, chosen, found⟩ := Option.bind_eq_some_iff.1 found
  exact ⟨block, CodeTable.mem_of_find?_ofRows chosen, row, CodeTable.mem_of_find?_ofRows found,
    (CodeTable.find?_eq_some found).2, rfl⟩

end Blocks

section Parts

/-- The code point is not in a block of syllables or of ideographs that stand for another one. -/
def IsOrdinary (code : Nat) : Prop :=
  code < 0xAC00 ∨ 0xFB00 ≤ code ∧ code < 0x2F800 ∨ 0x2FA20 ≤ code ∧ code < 0x110000

instance (code : Nat) : Decidable (IsOrdinary code) := inferInstanceAs (Decidable (_ ∨ _))

/-- A character with this code point is left alone by decomposition. -/
def StandsAlone (code : Nat) : Prop := IsOrdinary code ∧ listed? code = none

instance (code : Nat) : Decidable (StandsAlone code) := inferInstanceAs (Decidable (_ ∧ _))

theorem IsOrdinary.toNat_ofNat {code : Nat} (ordinary : IsOrdinary code) :
    (Char.ofNat code).toNat = code := by
  have valid : code.isValidChar := by
    unfold IsOrdinary at ordinary
    unfold Nat.isValidChar
    omega
  rw [Char.ofNat, dif_pos valid]
  rfl

theorem IsOrdinary.isSyllable_eq_false {code : Nat} (ordinary : IsOrdinary code) :
    Hangul.isSyllable code = false := by
  rw [Hangul.isSyllable, Bool.and_eq_false_iff, decide_eq_false_iff_not, decide_eq_false_iff_not]
  unfold IsOrdinary at ordinary
  unfold Hangul.firstSyllable Hangul.syllableCount
  omega

/-- The code point is one that has a narrow form. -/
def IsWide (code : Nat) : Prop := code = 0x3000 ∨ 0xFF01 ≤ code ∧ code ≤ 0xFF5E

instance (code : Nat) : Decidable (IsWide code) := inferInstanceAs (Decidable (_ ∨ _))

/-- The code point is one that other characters may decompose into. -/
def IsPart (code : Nat) : Prop := StandsAlone code ∧ ¬IsWide code

instance (code : Nat) : Decidable (IsPart code) := inferInstanceAs (Decidable (_ ∧ _))

theorem isPart_of_mem_blocks : ∀ block ∈ decompositionBlocks, ∀ row ∈ block.value,
    ∀ part ∈ row.value, IsPart part := by decide +kernel

theorem isPart_of_mem_runs : ∀ run ∈ ideographRuns, ∀ part ∈ run.2, IsPart part := by decide +kernel

/-- The parts of a syllable are in the block of conjoining letters. -/
theorem isPart_of_mem_jamo {code part : Nat} (syllable : Hangul.isSyllable code = true)
    (member : part ∈ Hangul.jamo code) : IsPart part := by
  have block : ∀ i < 0x100, IsPart (0x1100 + i) := by decide +kernel
  obtain ⟨i, small, rfl⟩ : ∃ i < 0x100, part = 0x1100 + i := by
    have high : code < Hangul.firstSyllable + 11172 :=
      of_decide_eq_true (Bool.and_eq_true_iff.1 syllable).2
    refine ⟨part - 0x1100, ?_⟩
    simp only [Hangul.jamo] at member
    split at member <;> simp only [List.mem_cons, List.not_mem_nil, or_false] at member <;> omega
  exact block i small

/-- An ideograph that stands for another one is in its block, and the other one stands alone. -/
theorem of_find?_ideographTable {code : Nat} {row : Row (List Nat)}
    (found : ideographTable.find? code = some row) :
    ¬IsOrdinary code ∧ ∃ part, IsPart part ∧ row.value = [part] := by
  have inside := (CodeTable.find?_eq_some found).2
  rw [ideographTable, ideographRows] at found
  obtain ⟨run, listed, member⟩ := List.mem_flatMap.1 (CodeTable.mem_of_find?_ofRows found)
  obtain ⟨⟨part, i⟩, among, rfl⟩ := List.mem_map.1 member
  have here : run.2[i]? = some part := List.mem_zipIdx_iff_getElem?.1 among
  obtain ⟨bound, -⟩ := List.getElem?_eq_some_iff.1 here
  have range : ∀ run ∈ ideographRuns, 0xF900 ≤ run.1 ∧ run.1 + run.2.length ≤ 0xFB00 ∨
      0x2F800 ≤ run.1 ∧ run.1 + run.2.length ≤ 0x2FA20 := by decide +kernel
  refine ⟨?_, part, isPart_of_mem_runs run listed part (List.mem_of_getElem? here), rfl⟩
  have := range run listed
  simp only at inside
  unfold IsOrdinary
  omega

/-- What a character can decompose into: the parts of a syllable, what it is listed with, the ideograph that
it stands for, or itself. -/
theorem decompose_inv (c : Char) :
    (Hangul.isSyllable c.toNat = true ∧ decompose c = (Hangul.jamo c.toNat).map Char.ofNat) ∨
    (∃ parts, listed? c.toNat = some parts ∧ decompose c = parts.map Char.ofNat) ∨
    (¬IsOrdinary c.toNat ∧ ∃ part, IsPart part ∧ decompose c = [Char.ofNat part]) ∨
    (listed? c.toNat = none ∧ decompose c = [c]) := by
  rw [decompose, ← find?_decompositionTable]
  by_cases syllable : Hangul.isSyllable c.toNat = true
  · exact .inl ⟨syllable, if_pos syllable⟩
  · rw [if_neg syllable]
    cases decompositionTable.find? c.toNat with
    | some row => exact .inr (.inl ⟨row.value, rfl, rfl⟩)
    | none =>
        cases found : ideographTable.find? c.toNat with
        | some row =>
            obtain ⟨elsewhere, part, single, value⟩ := of_find?_ideographTable found
            exact .inr (.inr (.inl ⟨elsewhere, part, single, congrArg (List.map Char.ofNat) value⟩))
        | none => exact .inr (.inr (.inr ⟨rfl, rfl⟩))

/-- An ordinary character decomposes into what it is listed with, or stands alone. -/
theorem IsOrdinary.decompose_eq {c : Char} (ordinary : IsOrdinary c.toNat) :
    decompose c = ((listed? c.toNat).getD [c.toNat]).map Char.ofNat := by
  obtain ⟨syllable, -⟩ | ⟨parts, listed, h⟩ | ⟨ideograph, -⟩ | ⟨unlisted, h⟩ := decompose_inv c
  · rw [ordinary.isSyllable_eq_false] at syllable
    cases syllable
  · rw [h, listed, Option.getD_some]
  · exact absurd ordinary ideograph
  · rw [h, unlisted, Option.getD_none, List.map_singleton, c.ofNat_toNat]

/-- A character that stands alone is left alone. -/
theorem StandsAlone.decompose_eq {c : Char} (alone : StandsAlone c.toNat) : decompose c = [c] := by
  obtain ⟨ordinary, unlisted⟩ := alone
  rw [ordinary.decompose_eq, unlisted, Option.getD_none, List.map_singleton, c.ofNat_toNat]

theorem isPart_of_listed? {code : Nat} {parts : List Nat} (listed : listed? code = some parts) :
    ∀ part ∈ parts, IsPart part := by
  obtain ⟨block, known, row, inside, -, rfl⟩ := exists_row_of_listed? listed
  exact isPart_of_mem_blocks block known row inside

/-- A character that is not left alone decomposes into parts. -/
theorem decompose_cases_isPart (c : Char) :
    decompose c = [c] ∨ ∀ d ∈ decompose c, IsPart d.toNat := by
  have known : ∀ parts : List Nat, (∀ part ∈ parts, IsPart part) →
      ∀ d ∈ parts.map Char.ofNat, IsPart d.toNat := by
    intro parts all d member
    obtain ⟨part, inside, rfl⟩ := List.mem_map.1 member
    rw [(all part inside).1.1.toNat_ofNat]
    exact all part inside
  obtain ⟨syllable, h⟩ | ⟨parts, listed, h⟩ | ⟨-, part, single, h⟩ | ⟨-, h⟩ := decompose_inv c
  · rw [h]
    exact .inr (known _ fun part member => isPart_of_mem_jamo syllable member)
  · rw [h]
    exact .inr (known _ (isPart_of_listed? listed))
  · rw [h]
    exact .inr (known [part] (by simpa using single))
  · exact .inl h

/-- Decompositions are full: what a character decomposes into is left alone. -/
theorem decompose_of_mem_decompose {c d : Char} (member : d ∈ decompose c) : decompose d = [d] := by
  obtain self | parts := decompose_cases_isPart c
  · rw [self, List.mem_singleton] at member
    rwa [member]
  · exact (parts d member).1.decompose_eq

/-- A character that is left alone is not listed. -/
theorem listed?_eq_none {c : Char} (self : decompose c = [c]) : listed? c.toNat = none := by
  have of_part : ∀ part, IsPart part → [Char.ofNat part] = [c] → listed? c.toNat = none := by
    intro part isPart same
    obtain rfl := List.singleton_inj.1 same
    rw [isPart.1.1.toNat_ofNat]
    exact isPart.1.2
  obtain ⟨-, h⟩ | ⟨parts, listed, h⟩ | ⟨-, part, isPart, h⟩ | ⟨unlisted, -⟩ := decompose_inv c
  · have shape := congrArg List.length (h.symm.trans self)
    rw [Hangul.jamo] at shape
    split at shape <;> simp at shape
  · obtain ⟨part, rfl, same⟩ := List.map_eq_singleton_iff.1 (h.symm.trans self)
    exact of_part part (isPart_of_listed? listed part List.mem_cons_self) (congrArg (fun d => [d]) same)
  · exact of_part part isPart (h.symm.trans self)
  · exact unlisted

/-- A character decomposes into one at least. -/
theorem decompose_ne_nil (c : Char) : decompose c ≠ [] := by
  obtain ⟨-, h⟩ | ⟨parts, listed, h⟩ | ⟨-, part, -, h⟩ | ⟨-, h⟩ := decompose_inv c
  · rw [h, Hangul.jamo]
    simp only [ne_eq, List.map_eq_nil_iff]
    split <;> simp
  · obtain ⟨block, known, row, inside, -, rfl⟩ := exists_row_of_listed? listed
    simpa [h] using (proper_of_mem_blocks block known row inside).1
  · simp [h]
  · simp [h]

/-- The first characters, those of ASCII among them, stand for themselves. -/
theorem decompose_eq_self {c : Char} (low : c.toNat < 0xC0) : decompose c = [c] := by
  refine StandsAlone.decompose_eq ⟨.inl (Nat.lt_trans low (by decide)), ?_⟩
  refine Option.eq_none_iff_forall_ne_some.2 fun parts listed => ?_
  obtain ⟨block, known, row, inside, holds, -⟩ := exists_row_of_listed? listed
  have above := (proper_of_mem_blocks block known row inside).2
  exact absurd (Nat.le_trans above holds.1) (Nat.not_le.2 low)

end Parts

end SystemMenu.Text
