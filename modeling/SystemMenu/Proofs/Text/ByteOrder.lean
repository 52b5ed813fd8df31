import SystemMenu.Proofs.Text.Utf8

/-!
# Texts are ordered like their bytes

Of two characters the one with the greater code point has the greater bytes: a longer sequence starts
with a greater byte, and in sequences of the same length the bits of the code point stand in order. So
comparing texts character by character is the same as comparing their bytes.

## Main statements

* `encodeChar_append_lt`: the order of two characters is that of their bytes, whatever follows.
* `encode_lt_encode_iff`: the order of two texts is that of their bytes.
-/

namespace SystemMenu.Text.Utf8

/-- Of two characters the lesser has the lesser bytes, whatever follows them. -/
theorem encodeChar_append_lt {c d : Char} (less : c < d) (s t : Bytes) :
    String.utf8EncodeChar c ++ s < String.utf8EncodeChar d ++ t := by
  have codes : c.val.toNat < d.val.toNat := less
  have valid : d.val.toNat < 0xD800 ∨ 0xDFFF < d.val.toNat ∧ d.val.toNat < 0x110000 := d.valid
  unfold String.utf8EncodeChar
  generalize c.val.toNat = m at codes
  generalize d.val.toNat = n at codes valid
  dsimp only
  -- Both lengths are told apart; the first byte that differs is found by arithmetic.
  repeat' split
  all_goals
    simp only [List.cons_append, List.nil_append, List.cons_lt_cons_iff, UInt8.lt_iff_toNat_lt,
      ← UInt8.toNat_inj, UInt8.toNat_ofNat']
    simp (disch := omega) only [Nat.reducePow, Nat.mod_eq_of_lt]
    omega

theorem encode_lt_of_lt {a b : List Char} (less : a < b) : encode a < encode b := by
  induction a generalizing b with
  | nil =>
      cases b with
      | nil => exact absurd less (List.lt_irrefl [])
      | cons d rest =>
          obtain ⟨lead, others, bytes, -⟩ := decodeFirst_encode d []
          rw [encode_cons, bytes]
          exact List.nil_lt_cons _ _
  | cons c before ih =>
      cases b with
      | nil => exact absurd less (List.not_lt_nil _)
      | cons d after =>
          rw [encode_cons, encode_cons]
          obtain earlier | ⟨rfl, later⟩ := List.cons_lt_cons_iff.1 less
          · exact encodeChar_append_lt earlier _ _
          · exact List.append_left_lt (ih later)

/-- The order of two texts is that of their bytes. -/
theorem encode_lt_encode_iff {a b : List Char} : encode a < encode b ↔ a < b := by
  constructor
  · intro less
    obtain before | rfl | after := Std.lt_trichotomy a b
    · exact before
    · exact absurd less (List.lt_irrefl _)
    · exact absurd less (List.lt_asymm (encode_lt_of_lt after))
  · exact encode_lt_of_lt

/-- Comparing two texts is comparing their bytes. -/
theorem compare_eq_lt_iff {a b : String} :
    compare a b = .lt ↔ encode a.toList < encode b.toList := by
  rw [encode_lt_encode_iff, ← String.lt_iff]
  exact compareOfLessAndEq_eq_lt

theorem compare_isLE_iff {a b : String} :
    (compare a b).isLE = true ↔ encode a.toList ≤ encode b.toList := by
  rw [← List.not_lt, ← compare_eq_lt_iff, Std.OrientedOrd.eq_swap (a := a)]
  cases compare b a <;> decide

end SystemMenu.Text.Utf8
