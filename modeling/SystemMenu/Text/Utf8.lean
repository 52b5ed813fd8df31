/-!
# Bytes and characters

Files hold bytes. They are read either strictly, where one malformed sequence refuses the text, or
leniently, where each malformed sequence becomes one replacement character. A malformed sequence is
the longest start of a well-formed one, or a single byte if there is none.

## Main declarations

* `decodeFirst`: takes the first character, well-formed or not, off a list of bytes.
* `decodeLossy`, `decodeStrict?`: the lenient and the strict reading.
* `encode`: the bytes of a text.
-/

namespace SystemMenu.Text.Utf8

/-- Contents of a file. -/
abbrev Bytes := List UInt8

/-- What a malformed sequence becomes. -/
def replacement : Char := '\uFFFD'

/-- What a leading byte promises: how many bytes follow, the bounds on the first of them, and the bits
that it brings itself. -/
structure SequenceShape where
  following : Nat
  low : UInt8
  high : UInt8
  payload : Nat

/-- The shape of a sequence, or nothing for a byte that leads none. -/
def sequenceShape? (lead : UInt8) : Option SequenceShape :=
  if lead ≤ 0x7F then some ⟨0, 0x80, 0xBF, lead.toNat⟩
  else if 0xC2 ≤ lead ∧ lead ≤ 0xDF then some ⟨1, 0x80, 0xBF, lead.toNat % 0x20⟩
  else if lead = 0xE0 then some ⟨2, 0xA0, 0xBF, 0⟩
  else if lead = 0xED then some ⟨2, 0x80, 0x9F, 0x0D⟩
  else if 0xE1 ≤ lead ∧ lead ≤ 0xEF then some ⟨2, 0x80, 0xBF, lead.toNat % 0x10⟩
  else if lead = 0xF0 then some ⟨3, 0x90, 0xBF, 0⟩
  else if 0xF1 ≤ lead ∧ lead ≤ 0xF3 then some ⟨3, 0x80, 0xBF, lead.toNat % 0x08⟩
  else if lead = 0xF4 then some ⟨3, 0x80, 0x8F, 4⟩
  else none

/-- Reads the bytes that follow a leading one, the first of them within the given bounds; gives the
code point, or nothing if a byte does not fit, and the bytes that are left. -/
def readFollowing (low high : UInt8) (code : Nat) : Nat → Bytes → Option Nat × Bytes
  | 0, bytes => (some code, bytes)
  | _ + 1, [] => (none, [])
  | count + 1, b :: rest =>
    if low ≤ b ∧ b ≤ high then
      readFollowing 0x80 0xBF (code * 0x40 + b.toNat % 0x40) count rest
    else (none, b :: rest)

/-- Takes the first character off: the character, or nothing for a malformed sequence, and the bytes
that are left. -/
def decodeFirst (lead : UInt8) (rest : Bytes) : Option Char × Bytes :=
  match sequenceShape? lead with
  | none => (none, rest)
  | some shape =>
    let read := readFollowing shape.low shape.high shape.payload shape.following rest
    (read.1.map Char.ofNat, read.2)

/-- Reading the bytes that follow never lengthens what is left. -/
theorem length_readFollowing (low high : UInt8) (code count : Nat) (bytes : Bytes) :
    (readFollowing low high code count bytes).2.length ≤ bytes.length := by
  induction count generalizing low high code bytes with
  | zero => simp [readFollowing]
  | succ count ih =>
      cases bytes with
      | nil => simp [readFollowing]
      | cons b rest =>
          simp only [readFollowing]
          split
          · exact Nat.le_succ_of_le (ih ..)
          · exact Nat.le_refl _

/-- Taking a character off leaves no more than the bytes after the first. -/
theorem length_decodeFirst (lead : UInt8) (rest : Bytes) :
    (decodeFirst lead rest).2.length ≤ rest.length := by
  unfold decodeFirst
  split
  · exact Nat.le_refl _
  · exact length_readFollowing ..

/-- The characters of a list of bytes, with nothing in place of each malformed sequence. -/
def decode : Bytes → List (Option Char)
  | [] => []
  | lead :: rest => (decodeFirst lead rest).1 :: decode (decodeFirst lead rest).2
  termination_by bytes => bytes.length
  decreasing_by
    have := length_decodeFirst lead rest
    simp
    omega

/-- Lenient reading. -/
def decodeLossy (bytes : Bytes) : List Char := (decode bytes).map (·.getD replacement)

/-- Strict reading. -/
def decodeStrict? (bytes : Bytes) : Option (List Char) := (decode bytes).mapM id

/-- The bytes of a text. -/
def encode (text : List Char) : Bytes := text.flatMap String.utf8EncodeChar

end SystemMenu.Text.Utf8
