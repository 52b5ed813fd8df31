import SystemMenu.Proofs.Text.Decompositions
import SystemMenu.Text.Collation

/-!
# Width, case and marks of a character

What a search key and a collation key do to one character is compared with what they do to its narrow form,
to its lowercase form and to its parts. A character with a narrow form stands alone and has no marks, so
narrowing commutes with decomposing. A capital that stands alone has a lowercase form that stands alone; any
other capital has the letters of its lowercase form, marks aside. The tables are checked row by row.

## Main statements

* `decompose_foldWidth`: narrowing before decomposing is narrowing afterwards.
* `isMark_of_combiningClass_ne_zero`, `isMark_of_mem_decompose`: only marks move, and their parts are marks.
* `foldChar_of_decompose_eq`: a character that is left alone has a folded form that is left alone.
* `letters_foldChar`: the letters of a character are those of its folded form.
-/

namespace SystemMenu.Text

section Width

/-- All code points that have a narrow form. -/
def wideCodes : List Nat := 0x3000 :: (List.range 0x5E).map (0xFF01 + ·)

theorem mem_wideCodes {code : Nat} (wide : IsWide code) : code ∈ wideCodes := by
  obtain rfl | ⟨low, high⟩ := wide
  · exact List.mem_cons_self
  · refine List.mem_cons_of_mem _ (List.mem_map.2 ⟨code - 0xFF01, List.mem_range.2 (by omega), by omega⟩)

theorem foldWidth_of_not_isWide {c : Char} (narrow : ¬IsWide c.toNat) : foldWidth c = c := by
  rw [foldWidth, if_neg fun range => narrow (.inr range), if_neg]
  rintro rfl
  exact narrow (.inl rfl)

/-- A wide character and its narrow form are letters or signs of their own, and the narrow form is plain. -/
theorem of_isWide {c : Char} (wide : IsWide c.toNat) :
    StandsAlone c.toNat ∧ (foldWidth c).toNat < 0x80 ∧ isMark c = false ∧ isMark (foldWidth c) = false := by
  have each : ∀ code ∈ wideCodes, StandsAlone code ∧ (foldWidth (.ofNat code)).toNat < 0x80 ∧
      isMark (.ofNat code) = false ∧ isMark (foldWidth (.ofNat code)) = false := by decide +kernel
  simpa using each c.toNat (mem_wideCodes wide)

theorem not_isWide_foldWidth (c : Char) : ¬IsWide (foldWidth c).toNat := by
  by_cases wide : IsWide c.toNat
  · obtain ⟨-, plain, -⟩ := of_isWide wide
    unfold IsWide
    omega
  · rwa [foldWidth_of_not_isWide wide]

@[simp] theorem foldWidth_foldWidth (c : Char) : foldWidth (foldWidth c) = foldWidth c :=
  foldWidth_of_not_isWide (not_isWide_foldWidth c)

@[simp] theorem foldChar_foldWidth (c : Char) : foldChar (foldWidth c) = foldChar c := by
  rw [foldChar, foldWidth_foldWidth, foldChar]

@[simp] theorem isMark_foldWidth (c : Char) : isMark (foldWidth c) = isMark c := by
  by_cases wide : IsWide c.toNat
  · obtain ⟨-, -, mark, foldMark⟩ := of_isWide wide
    rw [mark, foldMark]
  · rw [foldWidth_of_not_isWide wide]

/-- Narrowing before decomposing is narrowing afterwards. -/
theorem decompose_foldWidth (c : Char) : decompose (foldWidth c) = (decompose c).map foldWidth := by
  by_cases wide : IsWide c.toNat
  · obtain ⟨alone, plain, -⟩ := of_isWide wide
    rw [alone.decompose_eq, decompose_eq_self (Nat.lt_trans plain (by decide)), List.map_singleton]
  · have narrow : ∀ d ∈ decompose c, foldWidth d = d := by
      intro d member
      obtain self | parts := decompose_cases_isPart c
      · rw [self, List.mem_singleton] at member
        rw [member, foldWidth_of_not_isWide wide]
      · exact foldWidth_of_not_isWide (parts d member).2
    rw [foldWidth_of_not_isWide wide, List.map_congr_left narrow, List.map_id']

end Width

section Marks

/-- Only marks have a combining class. -/
theorem isMark_of_combiningClass_ne_zero {c : Char} (moves : combiningClass c ≠ 0) : isMark c = true := by
  have increasing : markRows.IsChain Row.Before := by decide +kernel
  have covered : ∀ row ∈ combiningClassRows,
      (markTable.find? row.first).any (fun marks => marks.value = 1 ∧ row.last ≤ marks.last) = true := by
    decide +kernel
  cases found : combiningClassTable.find? c.toNat with
  | none => simp [combiningClass, found] at moves
  | some row =>
      have holds := (CodeTable.find?_eq_some found).2
      obtain ⟨marks, known, unit, reaches⟩ : ∃ marks, markTable.find? row.first = some marks ∧
          marks.value = 1 ∧ row.last ≤ marks.last := by
        simpa [Option.any_eq_true] using covered row (CodeTable.mem_of_find?_ofRows found)
      have here : markTable.find? c.toNat = some marks := by
        refine (CodeTable.find?_ofRows_eq_some_iff (List.isChain_iff_pairwise.1 increasing)).2
          ⟨CodeTable.mem_of_find?_ofRows known, ?_⟩
        have bounds := (CodeTable.find?_eq_some known).2
        exact ⟨Nat.le_trans bounds.1 holds.1, Nat.le_trans holds.2 reaches⟩
      simp [isMark, CodeTable.hasMember, here, unit, Nat.mod_one]

/-- A character that is no mark never moves. -/
theorem combiningClass_eq_zero {c : Char} (letter : isMark c = false) : combiningClass c = 0 := by
  by_contra moves
  rw [isMark_of_combiningClass_ne_zero moves] at letter
  cases letter

/-- The narrow form has the same combining class. -/
@[simp] theorem combiningClass_foldWidth (c : Char) : combiningClass (foldWidth c) = combiningClass c := by
  by_cases wide : IsWide c.toNat
  · obtain ⟨-, -, mark, foldMark⟩ := of_isWide wide
    rw [combiningClass_eq_zero mark, combiningClass_eq_zero foldMark]
  · rw [foldWidth_of_not_isWide wide]

theorem holds_of_isMark {c : Char} (mark : isMark c = true) : ∃ row ∈ markRows, row.Holds c.toNat := by
  rw [isMark, CodeTable.hasMember] at mark
  cases found : markTable.find? c.toNat with
  | none => simp [found] at mark
  | some row => exact ⟨row, CodeTable.mem_of_find?_ofRows found, (CodeTable.find?_eq_some found).2⟩

/-- A mark decomposes into marks. -/
theorem isMark_of_mem_decompose {c d : Char} (mark : isMark c = true) (member : d ∈ decompose c) :
    isMark d = true := by
  have listedMarks : ∀ block ∈ decompositionBlocks, ∀ row ∈ block.value, row.first = row.last ∧
      (isMark (.ofNat row.first) = true → ∀ part ∈ row.value, isMark (.ofNat part) = true) := by
    decide +kernel
  have elsewhere : ∀ row ∈ markRows, row.last < 0xAC00 ∨ 0xFB00 ≤ row.first ∧ row.last < 0x2F800 ∨
      0x2FA20 ≤ row.first ∧ row.last < 0x110000 := by decide +kernel
  have ordinary : IsOrdinary c.toNat := by
    obtain ⟨marks, known, low, high⟩ := holds_of_isMark mark
    have := elsewhere marks known
    unfold IsOrdinary
    omega
  rw [ordinary.decompose_eq] at member
  obtain ⟨part, among, rfl⟩ := List.mem_map.1 member
  cases listed : listed? c.toNat with
  | none =>
      rw [listed, Option.getD_none, List.mem_singleton] at among
      rw [among, c.ofNat_toNat]
      exact mark
  | some parts =>
      rw [listed, Option.getD_some] at among
      obtain ⟨block, listing, row, here, holds, rfl⟩ := exists_row_of_listed? listed
      obtain ⟨single, marked⟩ := listedMarks block listing row here
      have code : c.toNat = row.first := Nat.le_antisymm (single ▸ holds.2) holds.1
      rw [← code, c.ofNat_toNat] at marked
      exact marked mark part among

end Marks

section Case

/-- The folded letters of a character, without its marks. -/
def letters (c : Char) : List Char := ((decompose c).filter fun d => !isMark d).flatMap foldChar

/-- The letters of an ordinary code point, which stands alone or is listed. -/
def codeLetters (code : Nat) : List Char :=
  ((((listed? code).getD [code]).map Char.ofNat).filter fun d => !isMark d).flatMap foldChar

theorem letters_eq_codeLetters {c : Char} (ordinary : IsOrdinary c.toNat) :
    letters c = codeLetters c.toNat := by
  rw [letters, codeLetters, ordinary.decompose_eq]

/-- What is to be checked of a capital and its lowercase form: if the capital is not listed, both are letters
that stand alone, and lowercase is the end of it; otherwise both have the same letters. -/
def IsCasePair (capital small : Nat) : Prop :=
  IsOrdinary capital ∧ IsOrdinary small ∧ (IsWide small → IsWide capital) ∧
    (listed? capital = none → listed? small = none ∧ markTable.hasMember capital = false ∧
      markTable.hasMember small = false ∧ lowercase (.ofNat small) = [.ofNat small]) ∧
    (listed? capital ≠ none → codeLetters capital = codeLetters small)

instance (capital small : Nat) : Decidable (IsCasePair capital small) :=
  inferInstanceAs (Decidable (_ ∧ _))

theorem isCasePair_of_mem_lowercaseRows : ∀ row ∈ lowercaseRows, ∀ i < row.last - row.first + 1,
    i % row.value.stride = 0 →
      IsCasePair (row.first + i) ((row.first + i : Nat) + row.value.distance).toNat := by
  decide +kernel

/-- What the lowercase form of a character can be. -/
theorem lowercase_cases (c : Char) :
    c = dottedCapitalI ∨ lowercase c = [c] ∨
      ∃ small, IsCasePair c.toNat small ∧ lowercase c = [Char.ofNat small] := by
  by_cases dotted : c = dottedCapitalI
  · exact .inl dotted
  · rw [lowercase, if_neg dotted]
    cases found : lowercaseTable.find? c.toNat with
    | none => exact .inr (.inl rfl)
    | some row =>
        obtain ⟨low, high⟩ := (CodeTable.find?_eq_some found).2
        simp only
        split
        · rename_i inStride
          have pair := isCasePair_of_mem_lowercaseRows row (CodeTable.mem_of_find?_ofRows found)
            (c.toNat - row.first) (by omega) inStride
          rw [Nat.add_sub_cancel' low] at pair
          exact .inr (.inr ⟨_, pair, rfl⟩)
        · exact .inr (.inl rfl)

/-- Narrowing does not change the letters. -/
theorem letters_foldWidth (c : Char) : letters (foldWidth c) = letters c := by
  simp only [letters, decompose_foldWidth, List.filter_map, List.flatMap_map, Function.comp_def,
    isMark_foldWidth, foldChar_foldWidth]

/-- A narrow capital that stands alone has a lowercase form that stands alone; neither is a mark. -/
theorem IsCasePair.small_alone {c : Char} {small : Nat} (pair : IsCasePair c.toNat small)
    (narrow : ¬IsWide c.toNat) (unlisted : listed? c.toNat = none) :
    decompose (.ofNat small) = [.ofNat small] ∧ isMark c = false ∧ isMark (.ofNat small) = false ∧
      ¬IsWide (Char.ofNat small).toNat ∧ lowercase (.ofNat small) = [.ofNat small] := by
  obtain ⟨-, ordinary, wide, alone, -⟩ := pair
  obtain ⟨standing, letter, letterSmall, fixed⟩ := alone unlisted
  have code := ordinary.toNat_ofNat
  refine ⟨StandsAlone.decompose_eq ?_, letter, ?_, ?_, fixed⟩
  · rw [code]
    exact ⟨ordinary, standing⟩
  · rw [isMark, code]
    exact letterSmall
  · rw [code]
    exact fun wideSmall => narrow (wide wideSmall)

/-- A narrow character that stands alone has a lowercase form of one character, which stands alone as well
and is its own lowercase form; both move in the same way. -/
theorem lowercase_of_decompose_eq {c : Char} (self : decompose c = [c]) (narrow : ¬IsWide c.toNat) :
    ∃ d, lowercase c = [d] ∧ decompose d = [d] ∧ combiningClass d = combiningClass c ∧
      ¬IsWide d.toNat ∧ lowercase d = [d] := by
  have unlisted := listed?_eq_none self
  obtain rfl | same | ⟨small, pair, lower⟩ := lowercase_cases c
  · have listed : listed? dottedCapitalI.toNat ≠ none := by decide +kernel
    exact absurd unlisted listed
  · exact ⟨c, same, self, rfl, narrow, same⟩
  · obtain ⟨alone, letter, letterSmall, narrowSmall, fixed⟩ := pair.small_alone narrow unlisted
    refine ⟨.ofNat small, lower, alone, ?_, narrowSmall, fixed⟩
    rw [combiningClass_eq_zero letter, combiningClass_eq_zero letterSmall]

/-- A character that is left alone has a folded form of one character, which is left alone as well and is
its own folded form; both move in the same way. -/
theorem foldChar_of_decompose_eq {c : Char} (self : decompose c = [c]) :
    ∃ d, foldChar c = [d] ∧ decompose d = [d] ∧ combiningClass d = combiningClass c ∧
      foldChar d = [d] := by
  have selfFold : decompose (foldWidth c) = [foldWidth c] := by
    rw [decompose_foldWidth, self, List.map_singleton]
  obtain ⟨d, lower, alone, sameClass, narrow, fixed⟩ :=
    lowercase_of_decompose_eq selfFold (not_isWide_foldWidth c)
  refine ⟨d, lower, alone, by rw [sameClass, combiningClass_foldWidth], ?_⟩
  rw [foldChar, foldWidth_of_not_isWide narrow, fixed]

/-- The letters of a narrow letter that is left alone are its lowercase form. -/
theorem letters_of_decompose_eq {c : Char} (self : decompose c = [c]) (letter : isMark c = false)
    (narrow : ¬IsWide c.toNat) : letters c = lowercase c := by
  simp [letters, self, letter, foldChar, foldWidth_of_not_isWide narrow]

/-- The letters of a narrow character are those of its lowercase form. -/
theorem letters_lowercase {c : Char} (narrow : ¬IsWide c.toNat) :
    (lowercase c).flatMap letters = letters c := by
  obtain rfl | same | ⟨small, pair, lower⟩ := lowercase_cases c
  · have parts : codeLetters 0x69 ++ codeLetters 0x307 = codeLetters 0x130 := by decide +kernel
    rw [lowercase, if_pos rfl, List.flatMap_cons, List.flatMap_singleton,
      letters_eq_codeLetters (.inl (by decide)), letters_eq_codeLetters (.inl (by decide)),
      letters_eq_codeLetters (.inl (by decide))]
    exact parts
  · rw [same, List.flatMap_singleton]
  · rw [lower, List.flatMap_singleton]
    by_cases unlisted : listed? c.toNat = none
    · obtain ⟨alone, letter, letterSmall, narrowSmall, fixed⟩ := pair.small_alone narrow unlisted
      have self : decompose c = [c] := StandsAlone.decompose_eq ⟨pair.1, unlisted⟩
      calc letters (.ofNat small)
        _ = [Char.ofNat small] := by rw [letters_of_decompose_eq alone letterSmall narrowSmall, fixed]
        _ = letters c := by rw [letters_of_decompose_eq self letter narrow, lower]
    · obtain ⟨ordinary, ordinarySmall, -, -, alike⟩ := pair
      have code := ordinarySmall.toNat_ofNat
      rw [letters_eq_codeLetters (by rwa [code]), code, letters_eq_codeLetters ordinary, alike unlisted]

/-- The letters of a character are those of its folded form. -/
theorem letters_foldChar (c : Char) : (foldChar c).flatMap letters = letters c := by
  rw [foldChar, letters_lowercase (not_isWide_foldWidth c), letters_foldWidth]

end Case

end SystemMenu.Text
