import SystemMenu.Proofs.Toml.Strings
import SystemMenu.Toml.Parser

/-!
# Written values are read back

A value that ends its line is read as the text, the number or the truth value that was written. A number
is written in base ten and without needless zeros in front, so it is taken neither for a number in another
base nor for a moment in time.

## Main statements

* `readDecimal?_toDigits`: the digits of a number are read as the number.
* `readsAs_word`: a word is read as its value.
* `readsAs_writeString`, `readsAs_toString`, `readsAs_writeBoolean`: the kinds of written values.
-/

namespace SystemMenu.Toml

/-- A written value is read as this one, whatever lines follow. -/
def ReadsAs (written : String) (value : Value) : Prop :=
  ∀ after, readValue? (skipSpaces (written.toList ++ '\n' :: after)) = .ok (value, '\n' :: after)

/-- A text starts neither like an array or a table nor with a space. -/
def StartsPlain (text : List Char) : Prop := ∀ c ∈ [' ', '\t', '[', '\x7b'], StartsOther c text

/-- What starts like neither of these is a string or a word. -/
theorem readValue?_of_plain {text : List Char} (plain : StartsPlain text) :
    readValue? (skipSpaces text) =
      match readString? text with
      | some (content, rest) => .ok (.string (.ofList content), rest)
      | none =>
        let (word, rest) := splitWord text
        match wordValue? word with
        | some value => .ok (value, rest)
        | none => .error .syntaxError := by
  have start : skipSpaces text = text :=
    skipSpaces_of_other (plain ' ' (by decide)) (plain '\t' (by decide))
  rw [start, readValue?]
  unfold valueWithin?
  split
  · exact absurd rfl ((plain '[' (by decide)).ne_cons _)
  · exact absurd rfl ((plain '\x7b' (by decide)).ne_cons _)
  · rfl

section Numbers

theorem digitValue?_digitChar {digit : Nat} (small : digit < 10) :
    digitValue? 10 digit.digitChar = some digit := by
  interval_cases digit <;> rfl

theorem readDigits?_digitChar (value : Nat) (open_ : Bool) {digit : Nat} (small : digit < 10)
    (rest : List Char) :
    readDigits? 10 value open_ (digit.digitChar :: rest) =
      readDigits? 10 (value * 10 + digit) false rest := by
  have noGap : digit.digitChar ≠ '_' := by interval_cases digit <;> decide
  rw [readDigits?, digitValue?_digitChar small]
  · rfl
  · exact fun gap => noGap gap

/-- Reading the digits of a number leads to the number. -/
theorem readDigits?_toDigits (n : Nat) (rest : List Char) :
    readDigits? 10 0 true (Nat.toDigits 10 n ++ rest) = readDigits? 10 n false rest := by
  induction n using Nat.strongRecOn generalizing rest with
  | ind n ih =>
      rcases Nat.lt_or_ge n 10 with small | large
      · rw [Nat.toDigits_of_lt_base small, List.cons_append, List.nil_append,
          readDigits?_digitChar 0 true small, Nat.zero_mul, Nat.zero_add]
      · have last : n % 10 < 10 := Nat.mod_lt n (by decide)
        rw [Nat.toDigits_of_base_le (by decide) large, List.append_assoc,
          ih (n / 10) (Nat.div_lt_self (by omega) (by decide)), List.cons_append, List.nil_append,
          readDigits?_digitChar (n / 10) false last, Nat.div_add_mod']

/-- Only zero is written with a zero in front. -/
theorem startsOther_toDigits {n : Nat} (pos : 0 < n) : StartsOther '0' (Nat.toDigits 10 n) := by
  induction n using Nat.strongRecOn with
  | ind n ih =>
      rcases Nat.lt_or_ge n 10 with small | large
      · rw [Nat.toDigits_of_lt_base small]
        interval_cases n <;> simp [StartsOther, Nat.digitChar]
      · have earlier := ih (n / 10) (Nat.div_lt_self pos (by decide)) (Nat.div_pos large (by decide))
        rw [Nat.toDigits_of_base_le (by decide) large]
        cases digits : Nat.toDigits 10 (n / 10) with
        | nil => exact absurd digits Nat.toDigits_ne_nil
        | cons c rest =>
            rw [digits] at earlier
            exact earlier

theorem readDecimal?_toDigits (n : Nat) : readDecimal? (Nat.toDigits 10 n) = some n := by
  have digits := readDigits?_toDigits n []
  rw [List.append_nil, readDigits?] at digits
  unfold readDecimal?
  split
  · rename_i digit rest written
    rcases Nat.eq_zero_or_pos n with rfl | pos
    · cases written
    · exact absurd (by rw [written]; rfl) (startsOther_toDigits pos)
  · exact digits

theorem isDigit_of_mem_toDigits {n : Nat} {c : Char} (member : c ∈ Nat.toDigits 10 n) :
    c.isDigit = true :=
  Nat.isDigit_of_mem_toDigits (by decide) (by decide) member

theorem readInteger?_toDigits (n : Nat) : readInteger? (Nat.toDigits 10 n) = some (n : Int) := by
  -- Neither a sign nor the letter of another base is a digit.
  have digit : ∀ c ∈ Nat.toDigits 10 n, c.isDigit = true := fun c => isDigit_of_mem_toDigits
  have unsigned : splitSign (Nat.toDigits 10 n) = (false, Nat.toDigits 10 n) := by
    unfold splitSign
    split
    · rename_i written
      rw [written] at digit
      exact absurd (digit '+' List.mem_cons_self) (by decide)
    · rename_i written
      rw [written] at digit
      exact absurd (digit '-' List.mem_cons_self) (by decide)
    · rfl
  unfold readInteger?
  split
  · rename_i written
    rw [written] at digit
    exact absurd (digit 'x' (by simp)) (by decide)
  · rename_i written
    rw [written] at digit
    exact absurd (digit 'o' (by simp)) (by decide)
  · rename_i written
    rw [written] at digit
    exact absurd (digit 'b' (by simp)) (by decide)
  · simp [unsigned, readDecimal?_toDigits]

end Numbers

section Words

theorem isWordChar_of_isDigit {c : Char} (digit : c.isDigit = true) : isWordChar c = true := by
  simp [isWordChar, Char.isAlphanum, digit]

theorem readString?_of_isWordChar {c : Char} (wordChar : isWordChar c = true) (rest : List Char) :
    readString? (c :: rest) = none := by
  unfold readString?
  split
  all_goals first
    | rfl
    | rename_i same
      rw [(List.cons.inj same).1] at wordChar
      cases wordChar

theorem splitWord_append {word : List Char} (wordChars : ∀ c ∈ word, isWordChar c = true)
    (after : List Char) : splitWord (word ++ '\n' :: after) = (word, '\n' :: after) := by
  have lineEnd : isWordChar '\n' = false := by decide
  simp [splitWord, List.takeWhile_append_of_pos wordChars, List.dropWhile_append_of_pos wordChars,
    lineEnd]

/-- A word that has a value is read as the value. -/
theorem readsAs_word {word : List Char} {value : Value} (some_ : word ≠ [])
    (wordChars : ∀ c ∈ word, isWordChar c = true) (h : wordValue? word = some value) :
    ReadsAs (.ofList word) value := by
  intro after
  obtain ⟨c, rest, rfl⟩ := List.exists_cons_of_ne_nil some_
  have first := wordChars c List.mem_cons_self
  have plain : StartsPlain (c :: rest ++ '\n' :: after) := by
    intro other member same
    have none : [' ', '\t', '[', '\x7b'].all (fun d => !isWordChar d) = true := by decide
    have noWordChar := List.all_eq_true.1 none other member
    rw [← Option.some.inj same, first] at noWordChar
    cases noWordChar
  have noString : readString? (c :: rest ++ '\n' :: after) = none :=
    readString?_of_isWordChar first (rest ++ '\n' :: after)
  rw [String.toList_ofList, readValue?_of_plain plain, noString, splitWord_append wordChars]
  simp only [h]

theorem readsAs_toString (n : Nat) : ReadsAs (toString n) (.integer n) := by
  have digit : ∀ c ∈ Nat.toDigits 10 n, c.isDigit = true := fun c => isDigit_of_mem_toDigits
  have word : wordValue? (Nat.toDigits 10 n) = some (.integer n) := by
    have noTrue : Nat.toDigits 10 n ≠ "true".toList := by
      intro same
      rw [same] at digit
      exact absurd (digit 't' (by decide)) (by decide)
    have noFalse : Nat.toDigits 10 n ≠ "false".toList := by
      intro same
      rw [same] at digit
      exact absurd (digit 'f' (by decide)) (by decide)
    rw [wordValue?, if_neg noTrue, if_neg noFalse, readInteger?_toDigits]
  rw [Nat.toString_eq_ofList_toDigits]
  exact readsAs_word Nat.toDigits_ne_nil (fun c member => isWordChar_of_isDigit (digit c member)) word

theorem readsAs_writeBoolean (value : Bool) : ReadsAs (writeBoolean value) (.boolean value) := by
  cases value with
  | false =>
      have wordChars : "false".toList.all isWordChar = true := by decide
      exact readsAs_word (by decide) (List.all_eq_true.1 wordChars) rfl
  | true =>
      have wordChars : "true".toList.all isWordChar = true := by decide
      exact readsAs_word (by decide) (List.all_eq_true.1 wordChars) rfl

end Words

/-- A written text starts with a quote. -/
theorem exists_writeAs_eq_cons (form : StringForm) (text : List Char) :
    ∃ quote rest, writeAs form text = quote :: rest ∧ (quote = '"' ∨ quote = '\'') := by
  cases form with
  | basic => exact ⟨_, _, rfl, .inl rfl⟩
  | literal => exact ⟨_, _, rfl, .inr rfl⟩
  | longBasic => exact ⟨_, _, rfl, .inl rfl⟩
  | longLiteral => exact ⟨_, _, rfl, .inr rfl⟩

theorem readsAs_writeString (text : String) : ReadsAs (writeString text) (.string text) := by
  intro after
  have content : readString? (writeAs (.choose text.toList) text.toList ++ '\n' :: after) =
      some (text.toList, '\n' :: after) :=
    readString?_writeAs text.toList (by simp [StartsOther]) (by simp [StartsOther])
  have plain : StartsPlain (writeAs (.choose text.toList) text.toList ++ '\n' :: after) := by
    obtain ⟨quote, rest, written, isQuote⟩ := exists_writeAs_eq_cons (.choose text.toList) text.toList
    rw [written]
    rcases isQuote with rfl | rfl <;> simp [StartsPlain, StartsOther]
  rw [writeString, String.toList_ofList, readValue?_of_plain plain, content]
  simp only [String.ofList_toList]

end SystemMenu.Toml
