import SystemMenu.Text.DecompositionRows

/-!
# Canonical decomposition of one character

A Hangul syllable splits into its leading consonant, its vowel and, if it has one, its trailing
consonant by arithmetic on its code point. Every other character is looked up; a character that is
not listed stands for itself.
-/

namespace SystemMenu.Text

/-- Search tree of the listed decompositions. -/
def decompositionTable : CodeTable (List Nat) :=
  .ofRows (latinRows ++ greekToMyanmarRows ++ latinAdditionalRows ++ greekExtendedRows ++
    symbolRows ++ kanaRows ++ hebrewFormRows ++ supplementaryRows)

/-- One row for each member of a run of ideographs. -/
def ideographRows : List (Row (List Nat)) :=
  ideographRuns.flatMap fun run =>
    run.2.zipIdx.map fun (target, i) => ⟨run.1 + i, run.1 + i, [target]⟩

/-- Search tree of the ideographs that stand for another one. -/
def ideographTable : CodeTable (List Nat) := .ofRows ideographRows

namespace Hangul

/-- Code point of the first syllable. -/
def firstSyllable : Nat := 0xAC00

/-- Number of syllables. -/
def syllableCount : Nat := 11172

/-- The code point is a syllable. -/
def isSyllable (code : Nat) : Bool :=
  firstSyllable ≤ code && code < firstSyllable + syllableCount

/-- The two or three jamo of a syllable: there are 21 vowels and, with none, 28 endings. -/
def jamo (code : Nat) : List Nat :=
  let offset := code - firstSyllable
  let leading := 0x1100 + offset / 588
  let vowel := 0x1161 + offset % 588 / 28
  if offset % 28 = 0 then [leading, vowel] else [leading, vowel, 0x11A7 + offset % 28]

end Hangul

/-- Full canonical decomposition of a character. -/
def decompose (c : Char) : List Char :=
  if Hangul.isSyllable c.toNat then (Hangul.jamo c.toNat).map Char.ofNat
  else
    match decompositionTable.find? c.toNat with
    | some row => row.value.map Char.ofNat
    | none =>
      match ideographTable.find? c.toNat with
      | some row => row.value.map Char.ofNat
      | none => [c]

end SystemMenu.Text
