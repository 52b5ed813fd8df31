/-!
# Blanks and pieces of texts

Blanks are the characters of the White_Space property. Trimming removes them from the ends of a text;
`pieces` cuts a list at every separator.
-/

namespace SystemMenu.Text

/-- The character is white space. -/
def isBlank (c : Char) : Bool :=
  let n := c.toNat
  (9 ≤ n && n ≤ 13) || n == 0x20 || n == 0x85 || n == 0xA0 || n == 0x1680 ||
    (0x2000 ≤ n && n ≤ 0x200A) || n == 0x2028 || n == 0x2029 || n == 0x202F || n == 0x205F ||
    n == 0x3000

/-- Removes the longest end whose members satisfy a test. -/
def dropEndWhile {α : Type} (test : α → Bool) (xs : List α) : List α :=
  (xs.reverse.dropWhile test).reverse

/-- Removes blanks at the start. -/
def trimStart (text : List Char) : List Char := text.dropWhile isBlank

/-- Removes blanks at the end. -/
def trimEnd (text : List Char) : List Char := dropEndWhile isBlank text

/-- Removes blanks at both ends. -/
def trim (text : List Char) : List Char := trimEnd (trimStart text)

/-- A text without the blanks at its ends. -/
def trimmed (text : String) : String := .ofList (trim text.toList)

/-- Cuts a list at every separator; there is one piece more than there are separators. -/
def pieces {α : Type} (isSeparator : α → Bool) : List α → List (List α)
  | [] => [[]]
  | x :: rest =>
    if isSeparator x then [] :: pieces isSeparator rest
    else
      match pieces isSeparator rest with
      | [] => [[x]]
      | piece :: others => (x :: piece) :: others

/-- Cuts a list at its first separator, or gives nothing if there is none. -/
def cutAtFirst? {α : Type} (isSeparator : α → Bool) : List α → Option (List α × List α)
  | [] => none
  | x :: rest =>
    if isSeparator x then some ([], rest)
    else (cutAtFirst? isSeparator rest).map fun cut => (x :: cut.1, cut.2)

/-- There is at least one piece. -/
theorem pieces_ne_nil {α : Type} (isSeparator : α → Bool) (xs : List α) :
    pieces isSeparator xs ≠ [] := by
  cases xs with
  | nil => simp [pieces]
  | cons x rest =>
      simp only [pieces]
      split
      · simp
      · split <;> simp

/-- A cut puts nothing but one separator between its two parts. -/
theorem cutAtFirst?_eq_some {α : Type} {isSeparator : α → Bool} {xs before after : List α}
    (h : cutAtFirst? isSeparator xs = some (before, after)) :
    ∃ separator, isSeparator separator ∧ xs = before ++ separator :: after := by
  induction xs generalizing before with
  | nil => simp [cutAtFirst?] at h
  | cons x rest ih =>
      simp only [cutAtFirst?] at h
      split at h
      · rename_i hx
        cases h
        exact ⟨x, hx, rfl⟩
      · obtain ⟨⟨b, a⟩, hcut, heq⟩ := Option.map_eq_some_iff.1 h
        cases heq
        obtain ⟨s, hs, rfl⟩ := ih hcut
        exact ⟨s, hs, rfl⟩

end SystemMenu.Text
