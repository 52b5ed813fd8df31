import Mathlib.Tactic.IntervalCases
import SystemMenu.Toml.Strings
import SystemMenu.Toml.Writer

/-!
# Written strings are read back

Whatever form is chosen for a text, reading it gives the text and what follows it. In the forms between
double quotes every character is written as itself or as an escape that stands for it. In the forms of
several lines a text may hold one or two quotes in a row, also right before the closing ones: up to two
quotes that have been passed do not matter, since the closing ones are the last three of a run.

## Main statements

* `escape?_eq_some`: an escape is read as the character it was written for.
* `readBasic?_escapeFrom`, `readLongBasic?_escapeFrom`: the forms between double quotes.
* `readLiteral?_append`, `readLongLiteral?_append`: the forms between single quotes.
* `readString?_writeAs`: the form that is chosen for a text is read as the text.
-/

namespace SystemMenu.Toml

section Escapes

theorem hexValue?_hexDigit {n : Nat} (small : n < 16) : hexValue? (hexDigit n) = some n := by
  interval_cases n <;> rfl

/-- Four hexadecimal digits are read as the character whose code point they write. -/
theorem unescape?_codeEscape {c : Char} (small : c.toNat < 0x10000) (after : List Char) :
    unescape? ('u' :: hexDigit (c.toNat / 4096 % 16) :: hexDigit (c.toNat / 256 % 16) ::
      hexDigit (c.toNat / 16 % 16) :: hexDigit (c.toNat % 16) :: after) = some (c, after) := by
  have digit : ∀ n, hexValue? (hexDigit (n % 16)) = some (n % 16) :=
    fun n => hexValue?_hexDigit (Nat.mod_lt n (by decide))
  have whole : ((c.toNat / 4096 % 16 * 16 + c.toNat / 256 % 16) * 16 + c.toNat / 16 % 16) * 16 +
      c.toNat % 16 = c.toNat := by omega
  have valid : c.toNat.isValidChar := c.valid
  simp [unescape?, shortEscapes, codeEscapes, List.lookup_cons, codePoint?, hexNumber?, digit, whole,
    valid]

theorem toNat_of_isForbidden {c : Char} (forbidden : isForbidden c = true) : c.toNat < 0x10000 := by
  simp only [isForbidden, Bool.or_eq_true, Bool.and_eq_true, decide_eq_true_eq] at forbidden
  omega

/-- An escape is a backslash with letters that stand for the character; the first of them begins no line
end and is no space. -/
theorem escape?_eq_some {long : Bool} {c : Char} {written : List Char}
    (h : escape? long c = some written) :
    ∃ letter rest, written = '\\' :: letter :: rest ∧
      (isSpace letter = false ∧ letter ≠ '\n' ∧ letter ≠ '\r') ∧
      ∀ after, unescape? (letter :: rest ++ after) = some (c, after) := by
  unfold escape? at h
  repeat' split at h
  all_goals cases h
  -- All but the last of these are single letters for the character that was compared.
  any_goals
    subst c
    exact ⟨_, _, rfl, by decide, fun after => rfl⟩
  rename_i forbidden
  exact ⟨_, _, rfl, by decide, unescape?_codeEscape (toNat_of_isForbidden forbidden)⟩

/-- A character that is written as itself. -/
theorem escape?_eq_none {long : Bool} {c : Char} (h : escape? long c = none) :
    c ≠ '\\' ∧ (c ≠ '\n' → isForbidden c = false) ∧ (long = false → c ≠ '\n') := by
  refine ⟨?_, fun noLineEnd => ?_, ?_⟩
  · rintro rfl
    cases long <;> cases h
  · by_contra forbidden
    rw [Bool.not_eq_false] at forbidden
    simp only [escape?, noLineEnd, forbidden, if_true, if_false] at h
    repeat' split at h
    all_goals cases h
  · rintro rfl rfl
    cases h

end Escapes

section Basic

theorem readBasic?_escape {c : Char} {text rest : List Char} (h : unescape? text = some (c, rest)) :
    readBasic? ('\\' :: text) = (readBasic? rest).map fun read => (c :: read.1, read.2) := by
  rw [readBasic?]
  split
  · rename_i none
    rw [none] at h
    cases h
  · rename_i other left found
    rw [found] at h
    cases h
    rfl

theorem readBasic?_plain {c : Char} (noQuote : c ≠ '"') (noBackslash : c ≠ '\\')
    (allowed : isForbidden c = false) (rest : List Char) :
    readBasic? (c :: rest) = (readBasic? rest).map fun read => (c :: read.1, read.2) := by
  rw [readBasic?]
  · simp [allowed]
  · simpa using noQuote
  · simpa using noBackslash

/-- A character other than a quote is read as it was written. -/
theorem readBasic?_written {c : Char} (noQuote : c ≠ '"') (rest : List Char) :
    readBasic? ((escape? false c).getD [c] ++ rest) =
      (readBasic? rest).map fun read => (c :: read.1, read.2) := by
  cases h : escape? false c with
  | some written =>
      obtain ⟨letter, others, rfl, -, stands⟩ := escape?_eq_some h
      exact readBasic?_escape (stands rest)
  | none =>
      obtain ⟨noBackslash, allowed, noLineEnd⟩ := escape?_eq_none h
      exact readBasic?_plain noQuote noBackslash (allowed (noLineEnd rfl)) rest

/-- The content of a basic string is read up to the closing quote. -/
theorem readBasic?_escapeFrom (text after : List Char) (run : Nat) :
    readBasic? (escapeFrom false run text ++ '"' :: after) = some (text, after) := by
  induction text generalizing run with
  | nil => rw [escapeFrom, List.nil_append, readBasic?]
  | cons c rest ih =>
      by_cases quote : c = '"'
      · subst quote
        have letter : unescape? ('"' :: (escapeFrom false 0 rest ++ '"' :: after)) =
          some ('"', escapeFrom false 0 rest ++ '"' :: after) := rfl
        simp [escapeFrom, readBasic?_escape letter, ih]
      · rw [escapeFrom, List.append_assoc, readBasic?_written quote, ih]
        · rfl
        · exact fun same => quote same

end Basic

/-- A text starts with another character, if with any. -/
def StartsOther (x : Char) (text : List Char) : Prop := text.head? ≠ some x

theorem StartsOther.ne_cons {x : Char} {text : List Char} (other : StartsOther x text)
    (rest : List Char) : text ≠ x :: rest := by
  rintro rfl
  exact other rfl

theorem skipSpaces_of_other {text : List Char} (noSpace : StartsOther ' ' text)
    (noTab : StartsOther '\t' text) : skipSpaces text = text := by
  cases text with
  | nil => rfl
  | cons c rest =>
      have plain : isSpace c = false := by simp_all [StartsOther, isSpace]
      rw [skipSpaces, List.dropWhile_cons, plain]
      rfl

theorem closeLong_replicate {quote : Char} {after : List Char} (other : StartsOther quote after)
    {run : Nat} (few : run ≤ 2) :
    closeLong quote (List.replicate run quote ++ after) = (List.replicate run quote, after) := by
  interval_cases run
  · match after with
    | [] => rfl
    | [a] => simp_all [StartsOther, closeLong]
    | a :: b :: rest => simp_all [StartsOther, closeLong]
  · match after with
    | [] => simp [closeLong]
    | b :: rest => simp_all [StartsOther, closeLong]
  · simp [closeLong]

theorem ne_of_allowed {c : Char} (allowed : isForbidden c = false) : c ≠ '\n' ∧ c ≠ '\r' := by
  constructor
  · rintro rfl
    cases allowed
  · rintro rfl
    cases allowed

theorem replicate_append_cons (x : Char) (run : Nat) (text : List Char) :
    List.replicate run x ++ x :: text = List.replicate (run + 1) x ++ text := by
  rw [List.replicate_succ', List.append_assoc]
  rfl

/-- Quotes before the closing ones may as well stand after them. -/
theorem replicate_closing {quote : Char} {run : Nat} (few : run ≤ 2) (after : List Char) :
    List.replicate run quote ++ quote :: quote :: quote :: after =
      quote :: quote :: quote :: (List.replicate run quote ++ after) := by
  interval_cases run <;> rfl

/-- One or two quotes that another character follows belong to the content, where a quote does that is
not followed by two more. -/
theorem read_replicate {read : List Char → Option (List Char × List Char)} {quote : Char}
    (single : ∀ rest, (∀ after, rest ≠ quote :: quote :: after) →
      read (quote :: rest) = (read rest).map fun result => (quote :: result.1, result.2))
    {text : List Char} (other : StartsOther quote text) {run : Nat} (few : run ≤ 2) :
    read (List.replicate run quote ++ text) =
      (read text).map fun result => (List.replicate run quote ++ result.1, result.2) := by
  have first := single text fun after => other.ne_cons _
  have second := single (quote :: text) fun after more => other.ne_cons _ (List.cons.inj more).2
  interval_cases run
  · simp
  · exact first
  · simp [second, first, Function.comp_def]

section LongBasic

theorem readLongBasic?_escape {c : Char} {text rest : List Char}
    (noLineEnd : afterLineEnd? (skipSpaces text) = none) (h : unescape? text = some (c, rest)) :
    readLongBasic? ('\\' :: text) = (readLongBasic? rest).map fun read => (c :: read.1, read.2) := by
  rw [readLongBasic?]
  split
  · rename_i next found
    rw [found] at noLineEnd
    cases noLineEnd
  · split
    · rename_i none
      rw [none] at h
      cases h
    · rename_i other left found
      rw [found] at h
      cases h
      rfl

theorem readLongBasic?_lineEnd (rest : List Char) :
    readLongBasic? ('\n' :: rest) = (readLongBasic? rest).map fun read => ('\n' :: read.1, read.2) := by
  rw [readLongBasic?]

theorem readLongBasic?_plain {c : Char} (noBackslash : c ≠ '\\') (allowed : isForbidden c = false)
    {rest : List Char} (open_ : c = '"' → ∀ after, rest ≠ '"' :: '"' :: after) :
    readLongBasic? (c :: rest) = (readLongBasic? rest).map fun read => (c :: read.1, read.2) := by
  obtain ⟨noLineEnd, noReturn⟩ := ne_of_allowed allowed
  rw [readLongBasic?]
  · simp [allowed]
  · exact fun after quote more => open_ quote after more
  · exact fun backslash => noBackslash backslash
  · exact fun lineEnd => noLineEnd lineEnd
  · exact fun _ return_ => (noReturn return_).elim

theorem readLongBasic?_quote {rest : List Char} (open_ : ∀ after, rest ≠ '"' :: '"' :: after) :
    readLongBasic? ('"' :: rest) = (readLongBasic? rest).map fun read => ('"' :: read.1, read.2) :=
  readLongBasic?_plain (by decide) (by decide) fun _ => open_

theorem afterLineEnd?_skipSpaces {letter : Char} (noSpace : isSpace letter = false)
    (noLineEnd : letter ≠ '\n') (noReturn : letter ≠ '\r') (rest : List Char) :
    afterLineEnd? (skipSpaces (letter :: rest)) = none := by
  rw [skipSpaces, List.dropWhile_cons, noSpace]
  unfold afterLineEnd?
  split <;> simp_all

/-- A character other than a quote is read as it was written. -/
theorem readLongBasic?_written {c : Char} (noQuote : c ≠ '"') (rest : List Char) :
    readLongBasic? ((escape? true c).getD [c] ++ rest) =
      (readLongBasic? rest).map fun read => (c :: read.1, read.2) := by
  cases h : escape? true c with
  | some written =>
      obtain ⟨letter, others, rfl, ⟨noSpace, noLineEnd, noReturn⟩, stands⟩ := escape?_eq_some h
      exact readLongBasic?_escape (afterLineEnd?_skipSpaces noSpace noLineEnd noReturn _)
        (stands rest)
  | none =>
      obtain ⟨noBackslash, allowed, -⟩ := escape?_eq_none h
      by_cases lineEnd : c = '\n'
      · subst lineEnd
        exact readLongBasic?_lineEnd rest
      · exact readLongBasic?_plain noBackslash (allowed lineEnd) fun quote => absurd quote noQuote

theorem startsOther_written {long : Bool} {c : Char} (noQuote : c ≠ '"') (rest : List Char) :
    StartsOther '"' ((escape? long c).getD [c] ++ rest) := by
  cases h : escape? long c with
  | some written =>
      obtain ⟨letter, others, rfl, -, -⟩ := escape?_eq_some h
      simp [StartsOther]
  | none => simpa [StartsOther] using noQuote

/-- The content of a basic string of several lines is read up to the closing quotes. Quotes that have
been written right before are taken into account, since they could be the first of the closing ones. -/
theorem readLongBasic?_escapeFrom {after : List Char} (other : StartsOther '"' after)
    (text : List Char) {run : Nat} (few : run ≤ 2) :
    readLongBasic? (List.replicate run '"' ++
        (escapeFrom true run text ++ '"' :: '"' :: '"' :: after)) =
      some (List.replicate run '"' ++ text, after) := by
  induction text generalizing run with
  | nil =>
      rw [escapeFrom, List.nil_append, replicate_closing few, readLongBasic?,
        closeLong_replicate other few, List.append_nil]
  | cons c rest ih =>
      have next := ih (Nat.zero_le 2)
      simp only [List.replicate_zero, List.nil_append] at next
      by_cases quote : c = '"'
      · subst quote
        simp only [escapeFrom, if_true]
        split
        · -- A third quote in a row is escaped, which ends the run.
          have letter : unescape? ('"' :: (escapeFrom true 0 rest ++ '"' :: '"' :: '"' :: after)) =
            some ('"', escapeFrom true 0 rest ++ '"' :: '"' :: '"' :: after) := rfl
          have read := readLongBasic?_escape rfl letter
          rw [next] at read
          rw [List.append_assoc,
            read_replicate (fun _ => readLongBasic?_quote) (by simp [StartsOther]) few]
          simp [read]
        · rw [List.cons_append, replicate_append_cons, replicate_append_cons]
          exact ih (by omega)
      · rw [escapeFrom, List.append_assoc,
          read_replicate (fun _ => readLongBasic?_quote) (startsOther_written quote _) few,
          readLongBasic?_written quote, next]
        · rfl
        · exact fun same => quote same

end LongBasic

section Literal

theorem readLiteral?_append {text : List Char}
    (plain : ∀ c ∈ text, c ≠ '\'' ∧ isForbidden c = false) (after : List Char) :
    readLiteral? (text ++ '\'' :: after) = some (text, after) := by
  induction text with
  | nil => rw [List.nil_append, readLiteral?]
  | cons c rest ih =>
      obtain ⟨noQuote, allowed⟩ := plain c List.mem_cons_self
      rw [List.cons_append, readLiteral?, allowed,
        ih fun d member => plain d (List.mem_cons_of_mem c member)]
      · rfl
      · exact fun quote => noQuote quote

end Literal

section LongLiteral

theorem le_longestRunAfter (x : Char) (run : Nat) (text : List Char) :
    run ≤ longestRunAfter x run text := by
  induction text generalizing run with
  | nil => exact Nat.le_refl run
  | cons c rest ih =>
      rw [longestRunAfter]
      split
      · exact Nat.le_of_succ_le (ih (run + 1))
      · exact Nat.le_max_left _ _

/-- A character that is there has a run of its own. -/
theorem longestRunAfter_pos {x : Char} {text : List Char} (member : x ∈ text) (run : Nat) :
    0 < longestRunAfter x run text := by
  induction text generalizing run with
  | nil => cases member
  | cons c rest ih =>
      rw [longestRunAfter]
      split
      · exact Nat.lt_of_lt_of_le (Nat.succ_pos run) (le_longestRunAfter x (run + 1) rest)
      · rename_i other
        have later := (List.mem_cons.1 member).resolve_left (Ne.symm other)
        exact Nat.lt_of_lt_of_le (ih later 0) (Nat.le_max_right _ _)

theorem readLongLiteral?_lineEnd (rest : List Char) :
    readLongLiteral? ('\n' :: rest) =
      (readLongLiteral? rest).map fun read => ('\n' :: read.1, read.2) := by
  rw [readLongLiteral?]

theorem readLongLiteral?_plain {c : Char} (allowed : isForbidden c = false) {rest : List Char}
    (open_ : c = '\'' → ∀ after, rest ≠ '\'' :: '\'' :: after) :
    readLongLiteral? (c :: rest) =
      (readLongLiteral? rest).map fun read => (c :: read.1, read.2) := by
  obtain ⟨noLineEnd, noReturn⟩ := ne_of_allowed allowed
  rw [readLongLiteral?]
  · simp [allowed]
  · exact fun after quote more => open_ quote after more
  · exact fun lineEnd => noLineEnd lineEnd
  · exact fun _ return_ => (noReturn return_).elim

theorem readLongLiteral?_quote {rest : List Char} (open_ : ∀ after, rest ≠ '\'' :: '\'' :: after) :
    readLongLiteral? ('\'' :: rest) =
      (readLongLiteral? rest).map fun read => ('\'' :: read.1, read.2) :=
  readLongLiteral?_plain (by decide) fun _ => open_

/-- The content of a literal string of several lines is read up to the closing quotes, if it has no three
quotes in a row, counted with those written right before. -/
theorem readLongLiteral?_append {after : List Char} (other : StartsOther '\'' after)
    {text : List Char} (plain : ∀ c ∈ text, needsEscape c = false) {run : Nat}
    (few : longestRunAfter '\'' run text ≤ 2) :
    readLongLiteral? (List.replicate run '\'' ++ (text ++ '\'' :: '\'' :: '\'' :: after)) =
      some (List.replicate run '\'' ++ text, after) := by
  induction text generalizing run with
  | nil =>
      rw [longestRunAfter] at few
      rw [List.nil_append, replicate_closing few, readLongLiteral?, closeLong_replicate other few,
        List.append_nil]
  | cons c rest ih =>
      have plainRest : ∀ d ∈ rest, needsEscape d = false :=
        fun d member => plain d (List.mem_cons_of_mem c member)
      rw [longestRunAfter] at few
      by_cases quote : c = '\''
      · subst quote
        rw [if_pos rfl] at few
        rw [List.cons_append, replicate_append_cons, replicate_append_cons]
        exact ih plainRest few
      · rw [if_neg quote] at few
        have next := ih plainRest (Nat.le_trans (Nat.le_max_right _ _) few)
        rw [List.replicate_zero, List.nil_append, List.nil_append] at next
        rw [List.cons_append, read_replicate (fun _ => readLongLiteral?_quote)
          (by simpa [StartsOther] using quote) (Nat.le_trans (Nat.le_max_left _ _) few)]
        by_cases lineEnd : c = '\n'
        · subst lineEnd
          rw [readLongLiteral?_lineEnd, next]
          rfl
        · have allowed : isForbidden c = false := by
            simpa [needsEscape, lineEnd] using plain c List.mem_cons_self
          rw [readLongLiteral?_plain allowed fun same => absurd same quote, next]
          rfl

end LongLiteral

section Forms

variable {text : List Char}

theorem choose_eq_literal (h : StringForm.choose text = .literal) :
    ∀ c ∈ text, c ≠ '\'' ∧ isForbidden c = false := by
  unfold StringForm.choose at h
  simp only at h
  split at h
  · cases h
  · split at h
    · rename_i fits
      simp only [Bool.and_eq_true, Bool.not_eq_true', List.any_eq_false, decide_eq_true_eq] at fits
      obtain ⟨⟨noControl, noLineEnd⟩, noQuotes⟩ := fits
      intro c member
      constructor
      · rintro rfl
        exact absurd noQuotes (Nat.ne_of_gt (longestRunAfter_pos member 0))
      · have other : c ≠ '\n' := by
          rintro rfl
          simp [member] at noLineEnd
        simpa [needsEscape, other] using noControl c member
    · repeat' split at h
      all_goals cases h

theorem choose_eq_longLiteral (h : StringForm.choose text = .longLiteral) :
    (∀ c ∈ text, needsEscape c = false) ∧ longestRun '\'' text ≤ 2 := by
  unfold StringForm.choose at h
  simp only at h
  split at h
  · cases h
  split at h
  · cases h
  split at h
  · cases h
  split at h
  · rename_i fits
    simpa using fits
  · split at h <;> cases h

theorem dropFirstLineEnd_of_other {body : List Char} (noLineEnd : StartsOther '\n' body)
    (noReturn : StartsOther '\r' body) : dropFirstLineEnd body = body := by
  unfold dropFirstLineEnd afterLineEnd?
  split
  · exact absurd rfl noLineEnd
  · exact absurd rfl noReturn
  · rfl

/-- The line end that is put after opening quotes is dropped, and no other. -/
theorem dropFirstLineEnd_firstLineEnd {body : List Char}
    (noLineEnd : '\n' ∉ text → StartsOther '\n' body) (noReturn : StartsOther '\r' body) :
    dropFirstLineEnd (firstLineEnd text ++ body) = body := by
  rw [firstLineEnd]
  split
  · rfl
  · rename_i single
    rw [List.contains_iff_mem] at single
    exact dropFirstLineEnd_of_other (noLineEnd single) noReturn

theorem readString?_basic {body : List Char} (single : ∀ rest, body ≠ '"' :: '"' :: rest) :
    readString? ('"' :: body) = readBasic? body := by
  unfold readString?
  split
  · rename_i rest more
    exact absurd (List.cons.inj more).2 (single rest)
  · rename_i more
    cases more
  · rename_i more
    rw [(List.cons.inj more).2]
  · rename_i more
    cases more
  · simp_all

theorem readString?_literal {body : List Char} (single : ∀ rest, body ≠ '\'' :: '\'' :: rest) :
    readString? ('\'' :: body) = readLiteral? body := by
  unfold readString?
  split
  · rename_i more
    cases more
  · rename_i rest more
    exact absurd (List.cons.inj more).2 (single rest)
  · rename_i more
    cases more
  · rename_i more
    rw [(List.cons.inj more).2]
  · simp_all

/-- What stands between double quotes does not look as if they were three. -/
theorem escapeFrom_append_ne (text after : List Char) (other : StartsOther '"' after) (rest : List Char) :
    escapeFrom false 0 text ++ '"' :: after ≠ '"' :: '"' :: rest := by
  cases text with
  | nil =>
      intro same
      rw [escapeFrom, List.nil_append] at same
      exact other.ne_cons _ (List.cons.inj same).2
  | cons c text =>
      by_cases quote : c = '"'
      · subst quote
        simp [escapeFrom]
      · rw [escapeFrom, List.append_assoc]
        · exact (startsOther_written quote _).ne_cons _
        · exact fun again => quote again

/-- The content of a string of several lines starts with a line end only if it has one, and never with a
carriage return. -/
theorem head_written {c : Char} (rest : List Char) :
    (c ≠ '\n' → StartsOther '\n' ((escape? true c).getD [c] ++ rest)) ∧
      StartsOther '\r' ((escape? true c).getD [c] ++ rest) := by
  cases h : escape? true c with
  | some written =>
      obtain ⟨letter, others, rfl, -, -⟩ := escape?_eq_some h
      simp [StartsOther]
  | none =>
      obtain ⟨-, allowed, -⟩ := escape?_eq_none h
      constructor
      · intro other
        simpa [StartsOther] using other
      · intro same
        rw [Option.getD_none, List.cons_append, List.head?_cons, Option.some.injEq] at same
        subst same
        cases allowed (by decide)

theorem head_escapeFrom (text after : List Char) :
    ('\n' ∉ text → StartsOther '\n' (escapeFrom true 0 text ++ '"' :: after)) ∧
      StartsOther '\r' (escapeFrom true 0 text ++ '"' :: after) := by
  cases text with
  | nil => simp [escapeFrom, StartsOther]
  | cons c text =>
      by_cases quote : c = '"'
      · subst quote
        simp [escapeFrom, StartsOther]
      · rw [escapeFrom, List.append_assoc]
        · obtain ⟨noLineEnd, noReturn⟩ := head_written (c := c) (escapeFrom true 0 text ++ '"' :: after)
          refine ⟨fun single => noLineEnd ?_, noReturn⟩
          rintro rfl
          exact single List.mem_cons_self
        · exact fun again => quote again

/-- The form that is chosen for a text is read as the text. -/
theorem readString?_writeAs (text : List Char) {after : List Char} (noDouble : StartsOther '"' after)
    (noSingle : StartsOther '\'' after) :
    readString? (writeAs (.choose text) text ++ after) = some (text, after) := by
  cases form : StringForm.choose text with
  | basic =>
      have written : writeAs .basic text ++ after =
          '"' :: (escapeFrom false 0 text ++ '"' :: after) := by
        simp [writeAs]
      rw [written, readString?_basic (escapeFrom_append_ne text after noDouble),
        readBasic?_escapeFrom]
  | literal =>
      have plain := choose_eq_literal form
      have written : writeAs .literal text ++ after = '\'' :: (text ++ '\'' :: after) := by
        simp [writeAs]
      have single : ∀ rest, text ++ '\'' :: after ≠ '\'' :: '\'' :: rest := by
        intro rest same
        cases text with
        | nil => exact noSingle.ne_cons _ (List.cons.inj same).2
        | cons c text => exact (plain c List.mem_cons_self).1 (List.cons.inj same).1
      rw [written, readString?_literal single, readLiteral?_append plain]
  | longBasic =>
      have written : writeAs .longBasic text ++ after = '"' :: '"' :: '"' ::
          (firstLineEnd text ++ (escapeFrom true 0 text ++ '"' :: '"' :: '"' :: after)) := by
        simp [writeAs]
      obtain ⟨noLineEnd, noReturn⟩ := head_escapeFrom text ('"' :: '"' :: after)
      have read := readLongBasic?_escapeFrom noDouble text (Nat.zero_le 2)
      rw [List.replicate_zero, List.nil_append, List.nil_append] at read
      rw [written, readString?, dropFirstLineEnd_firstLineEnd noLineEnd noReturn, read]
  | longLiteral =>
      obtain ⟨plain, few⟩ := choose_eq_longLiteral form
      have written : writeAs .longLiteral text ++ after = '\'' :: '\'' :: '\'' ::
          (firstLineEnd text ++ (text ++ '\'' :: '\'' :: '\'' :: after)) := by
        simp [writeAs]
      have noLineEnd : '\n' ∉ text → StartsOther '\n' (text ++ '\'' :: '\'' :: '\'' :: after) := by
        intro single
        cases text with
        | nil => simp [StartsOther]
        | cons c text =>
            intro same
            exact single (List.mem_cons.2 (.inl (Option.some.inj same).symm))
      have noReturn : StartsOther '\r' (text ++ '\'' :: '\'' :: '\'' :: after) := by
        cases text with
        | nil => simp [StartsOther]
        | cons c text =>
            have allowed := plain c List.mem_cons_self
            intro same
            rw [Option.some.inj same] at allowed
            cases allowed
      have read := readLongLiteral?_append noSingle plain few
      rw [List.replicate_zero, List.nil_append, List.nil_append] at read
      rw [written, readString?, dropFirstLineEnd_firstLineEnd noLineEnd noReturn, read]

end Forms

end SystemMenu.Toml
