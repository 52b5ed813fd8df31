import Mathlib.Tactic.IntervalCases
import SystemMenu.Text.Utf8

/-!
# Reading text back from its bytes

The bytes of a text are read as that text. One character is taken off at a time: its first byte says how
many bytes follow and which part of the code point it brings, and each byte that follows brings six more
bits. All bytes of a sequence of more than one byte are above those of plain characters, so a plain byte
stands for itself wherever it is found.

## Main statements

* `decodeFirst_encode`: the bytes of one character are read as that character.
* `decodeStrict?_encode`: the bytes of a text are read as that text.
* `mem_of_mem_encode`: a plain byte stands for its character.
-/

namespace SystemMenu.Text.Utf8

/-- A plain character has one byte. -/
theorem sequenceShape?_plain {n : Nat} (h : n ≤ 0x7F) :
    sequenceShape? (.ofNat n) = some ⟨0, 0x80, 0xBF, n⟩ := by
  have small : n % 256 = n := Nat.mod_eq_of_lt (by omega)
  rw [sequenceShape?, if_pos (by simpa [UInt8.le_iff_toNat_le, small] using h), UInt8.toNat_ofNat',
    Nat.mod_eq_of_lt (by omega)]

theorem sequenceShape?_two {n : Nat} (low : 2 ≤ n) (high : n < 0x20) :
    sequenceShape? (.ofNat (n + 0xC0)) = some ⟨1, 0x80, 0xBF, n⟩ := by
  interval_cases n <;> rfl

/-- Short sequences for small numbers and those for half pairs are ruled out by the second byte. -/
theorem sequenceShape?_three {n : Nat} (high : n < 0x10) :
    sequenceShape? (.ofNat (n + 0xE0)) =
      some ⟨2, if n = 0 then 0xA0 else 0x80, if n = 0x0D then 0x9F else 0xBF, n⟩ := by
  interval_cases n <;> rfl

theorem sequenceShape?_four {n : Nat} (high : n ≤ 4) :
    sequenceShape? (.ofNat (n + 0xF0)) =
      some ⟨3, if n = 0 then 0x90 else 0x80, if n = 4 then 0x8F else 0xBF, n⟩ := by
  interval_cases n <;> rfl

/-- A byte that follows brings six bits. -/
theorem readFollowing_cons {low high : UInt8} {n : Nat} (code count : Nat) (rest : Bytes)
    (above : low.toNat ≤ n % 0x40 + 0x80) (below : n % 0x40 + 0x80 ≤ high.toNat) :
    readFollowing low high code (count + 1) (.ofNat (n % 0x40 + 0x80) :: rest) =
      readFollowing 0x80 0xBF (code * 0x40 + n % 0x40) count rest := by
  have byte : (UInt8.ofNat (n % 0x40 + 0x80)).toNat = n % 0x40 + 0x80 := by
    rw [UInt8.toNat_ofNat']
    omega
  have bits : (n % 0x40 + 0x80) % 0x40 = n % 0x40 := by omega
  rw [readFollowing, if_pos (by simpa only [UInt8.le_iff_toNat_le, byte] using ⟨above, below⟩), byte,
    bits]

section Sequences

variable {n : Nat} (after : Bytes)

theorem decodeFirst_plain (small : n ≤ 0x7F) :
    decodeFirst (.ofNat n) after = (some (.ofNat n), after) := by
  rw [decodeFirst, sequenceShape?_plain small]
  rfl

theorem decodeFirst_two (low : 0x7F < n) (high : n ≤ 0x7FF) :
    decodeFirst (.ofNat (n / 64 % 0x20 + 0xC0)) (.ofNat (n % 0x40 + 0x80) :: after) =
      (some (.ofNat n), after) := by
  rw [decodeFirst, sequenceShape?_two (by omega) (by omega)]
  simp only
  rw [readFollowing_cons _ _ _ (by simp) (by simp; omega)]
  have whole : n / 64 % 0x20 * 0x40 + n % 0x40 = n := by omega
  simp [readFollowing, whole]

theorem decodeFirst_three (low : 0x7FF < n) (high : n ≤ 0xFFFF) (valid : n < 0xD800 ∨ 0xDFFF < n) :
    decodeFirst (.ofNat (n / 4096 % 0x10 + 0xE0))
        (.ofNat (n / 64 % 0x40 + 0x80) :: .ofNat (n % 0x40 + 0x80) :: after) =
      (some (.ofNat n), after) := by
  rw [decodeFirst, sequenceShape?_three (by omega)]
  simp only
  rw [readFollowing_cons _ _ _ (by split <;> simp; omega) (by split <;> simp <;> omega),
    readFollowing_cons _ _ _ (by simp) (by simp; omega)]
  have whole : (n / 4096 % 0x10 * 0x40 + n / 64 % 0x40) * 0x40 + n % 0x40 = n := by omega
  simp [readFollowing, whole]

theorem decodeFirst_four (low : 0xFFFF < n) (high : n < 0x110000) :
    decodeFirst (.ofNat (n / 262144 % 0x08 + 0xF0))
        (.ofNat (n / 4096 % 0x40 + 0x80) :: .ofNat (n / 64 % 0x40 + 0x80) ::
          .ofNat (n % 0x40 + 0x80) :: after) =
      (some (.ofNat n), after) := by
  rw [decodeFirst, sequenceShape?_four (by omega)]
  simp only
  rw [readFollowing_cons _ _ _ (by split <;> simp; omega) (by split <;> simp <;> omega),
    readFollowing_cons _ _ _ (by simp) (by simp; omega),
    readFollowing_cons _ _ _ (by simp) (by simp; omega)]
  have whole : ((n / 262144 % 0x08 * 0x40 + n / 4096 % 0x40) * 0x40 + n / 64 % 0x40) * 0x40 +
      n % 0x40 = n := by omega
  simp [readFollowing, whole]

end Sequences

/-- The bytes of a character are read as the character, whatever follows them. -/
theorem decodeFirst_encode (c : Char) (after : Bytes) :
    ∃ lead rest, String.utf8EncodeChar c = lead :: rest ∧
      decodeFirst lead (rest ++ after) = (some c, after) := by
  have code : Char.ofNat c.val.toNat = c := c.ofNat_toNat
  have valid : c.val.toNat < 0xD800 ∨ 0xDFFF < c.val.toNat ∧ c.val.toNat < 0x110000 := c.valid
  unfold String.utf8EncodeChar
  generalize c.val.toNat = n at code valid
  subst code
  dsimp only
  split
  · exact ⟨_, _, rfl, decodeFirst_plain after (by assumption)⟩
  split
  · exact ⟨_, _, rfl, decodeFirst_two after (by omega) (by assumption)⟩
  split
  · exact ⟨_, _, rfl, decodeFirst_three after (by omega) (by assumption) (by omega)⟩
  · exact ⟨_, _, rfl, decodeFirst_four after (by omega) (by omega)⟩

theorem encode_cons (c : Char) (text : List Char) :
    encode (c :: text) = String.utf8EncodeChar c ++ encode text := List.flatMap_cons

theorem encode_append (before after : List Char) :
    encode (before ++ after) = encode before ++ encode after := List.flatMap_append

theorem decode_encode (text : List Char) : decode (encode text) = text.map some := by
  induction text with
  | nil => rw [encode, List.flatMap_nil, decode, List.map_nil]
  | cons c rest ih =>
      obtain ⟨lead, others, bytes, first⟩ := decodeFirst_encode c (encode rest)
      rw [encode_cons, bytes, List.cons_append, decode, first, ih, List.map_cons]

/-- Strict reading gives back what was written. -/
theorem decodeStrict?_encode (text : List Char) : decodeStrict? (encode text) = some text := by
  rw [decodeStrict?, decode_encode]
  induction text with
  | nil => rfl
  | cons c rest ih => simp [ih]

/-- A byte of a longer sequence is no plain one. -/
theorem not_plain_of_le {n : Nat} (low : 0x80 ≤ n) (high : n < 0x100) :
    ¬(UInt8.ofNat n).toNat < 0x80 := by
  rw [UInt8.toNat_ofNat']
  omega

/-- A plain byte stands for its character: no part of a longer sequence is as small. -/
theorem mem_of_mem_encode {b : UInt8} (plain : b.toNat < 0x80) {text : List Char}
    (member : b ∈ encode text) : Char.ofNat b.toNat ∈ text := by
  obtain ⟨c, here, among⟩ := List.mem_flatMap.1 member
  suffices h : Char.ofNat b.toNat = c by rwa [h]
  have code : Char.ofNat c.val.toNat = c := c.ofNat_toNat
  unfold String.utf8EncodeChar at among
  generalize c.val.toNat = n at code among
  subst code
  dsimp only at among
  split at among
  · rename_i small
    rw [List.mem_singleton.1 among, UInt8.toNat_ofNat', Nat.mod_eq_of_lt (by omega)]
  split at among
  · simp only [List.mem_cons, List.not_mem_nil, or_false] at among
    obtain rfl | rfl := among <;> exact absurd plain (not_plain_of_le (by omega) (by omega))
  split at among
  · simp only [List.mem_cons, List.not_mem_nil, or_false] at among
    obtain rfl | rfl | rfl := among <;> exact absurd plain (not_plain_of_le (by omega) (by omega))
  · simp only [List.mem_cons, List.not_mem_nil, or_false] at among
    obtain rfl | rfl | rfl | rfl := among <;>
      exact absurd plain (not_plain_of_le (by omega) (by omega))

end SystemMenu.Text.Utf8
