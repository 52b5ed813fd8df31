import SystemMenu.Toml.Layout

/-!
# Reading the strings of a settings document

A basic string stands between double quotes and has escapes; a literal one stands between single
quotes and has none. Three quotes make a string that may run over several lines: a line end right
after the opening quotes is dropped, up to two quotes may stand next to the closing ones, and in the
basic form a backslash at the end of a line joins it to the next text.

Each reader takes the text after the opening quotes and gives the content and what follows the
closing quotes.
-/

namespace SystemMenu.Toml

/-- Value of a hexadecimal digit. -/
def hexValue? (c : Char) : Option Nat :=
  if '0' ≤ c ∧ c ≤ '9' then some (c.toNat - '0'.toNat)
  else if 'a' ≤ c ∧ c ≤ 'f' then some (c.toNat - 'a'.toNat + 10)
  else if 'A' ≤ c ∧ c ≤ 'F' then some (c.toNat - 'A'.toNat + 10)
  else none

/-- Value of a list of hexadecimal digits, continuing a number. -/
def hexNumber? (start : Nat) : List Char → Option Nat
  | [] => some start
  | c :: rest => do
    let digit ← hexValue? c
    hexNumber? (start * 16 + digit) rest

/-- The character with the code point written by the first `count` digits, and what follows. -/
def codePoint? (count : Nat) (text : List Char) : Option (Char × List Char) := do
  if text.length < count then none
  else
    let code ← hexNumber? 0 (text.take count)
    if code.isValidChar then some (Char.ofNat code, text.drop count) else none

/-- A code point takes only characters of the text. -/
theorem length_codePoint? {count : Nat} {text rest : List Char} {c : Char}
    (h : codePoint? count text = some (c, rest)) : rest.length ≤ text.length := by
  unfold codePoint? at h
  split at h
  · cases h
  · simp only [Option.bind_eq_bind, Option.bind_eq_some_iff] at h
    obtain ⟨code, _, h⟩ := h
    split at h
    · cases h
      exact (List.drop_sublist count text).length_le
    · cases h

/-- The letters that stand for one character each after a backslash. -/
def shortEscapes : List (Char × Char) :=
  [('b', '\x08'), ('t', '\t'), ('n', '\n'), ('f', '\x0c'), ('r', '\r'), ('e', '\x1b'), ('"', '"'),
    ('\\', '\\')]

/-- The letters after which a code point is written, with the number of its digits. -/
def codeEscapes : List (Char × Nat) := [('x', 2), ('u', 4), ('U', 8)]

/-- The character that an escape stands for, given the text after the backslash. -/
def unescape? : List Char → Option (Char × List Char)
  | [] => none
  | c :: rest =>
    match shortEscapes.lookup c with
    | some meaning => some (meaning, rest)
    | none => (codeEscapes.lookup c).bind fun count => codePoint? count rest

/-- An escape takes at least one character. -/
theorem length_unescape? {text rest : List Char} {c : Char}
    (h : unescape? text = some (c, rest)) : rest.length < text.length := by
  unfold unescape? at h
  split at h
  · cases h
  · split at h
    · cases h
      exact Nat.lt_succ_self _
    · obtain ⟨count, _, h⟩ := Option.bind_eq_some_iff.1 h
      exact Nat.lt_succ_of_le (length_codePoint? h)

/-- What follows the blanks and line ends at the start. -/
def dropLayout : List Char → List Char
  | '\n' :: rest => dropLayout rest
  | '\r' :: '\n' :: rest => dropLayout rest
  | c :: rest => if isSpace c then dropLayout rest else c :: rest
  | [] => []

/-- Dropping layout never lengthens a text. -/
theorem length_dropLayout (text : List Char) : (dropLayout text).length ≤ text.length := by
  fun_induction dropLayout text <;> simp_all <;> omega

/-- What follows a line end at the start, if there is one. -/
def afterLineEnd? : List Char → Option (List Char)
  | '\n' :: rest => some rest
  | '\r' :: '\n' :: rest => some rest
  | _ => none

/-- A line end takes at least one character. -/
theorem length_afterLineEnd? {text rest : List Char} (h : afterLineEnd? text = some rest) :
    rest.length < text.length := by
  unfold afterLineEnd? at h
  split at h
  · cases h
    simp only [List.length_cons]
    omega
  · cases h
    simp only [List.length_cons]
    omega
  · cases h

/-- Reads a basic string. -/
def readBasic? (text : List Char) : Option (List Char × List Char) :=
  match text with
  | [] => none
  | '"' :: rest => some ([], rest)
  | '\\' :: rest =>
    match h : unescape? rest with
    | none => none
    | some (c, rest') =>
      have := length_unescape? h
      (readBasic? rest').map fun read => (c :: read.1, read.2)
  | c :: rest =>
    if isForbidden c then none else (readBasic? rest).map fun read => (c :: read.1, read.2)
  termination_by text.length

/-- Reads a literal string. -/
def readLiteral? : List Char → Option (List Char × List Char)
  | [] => none
  | '\'' :: rest => some ([], rest)
  | c :: rest =>
    if isForbidden c then none else (readLiteral? rest).map fun read => (c :: read.1, read.2)

/-- Content and rest after three closing quotes: up to two more quotes belong to the content. -/
def closeLong (quote : Char) : List Char → List Char × List Char
  | a :: b :: rest =>
    if a = quote then (if b = quote then ([quote, quote], rest) else ([quote], b :: rest))
    else ([], a :: b :: rest)
  | [a] => if a = quote then ([quote], []) else ([], [a])
  | [] => ([], [])

/-- Reads a basic string of several lines. -/
def readLongBasic? (text : List Char) : Option (List Char × List Char) :=
  match text with
  | [] => none
  | '"' :: '"' :: '"' :: rest => some (closeLong '"' rest)
  | '\\' :: rest =>
    match hjoin : afterLineEnd? (skipSpaces rest) with
    | some next =>
      have := length_afterLineEnd? hjoin
      have := (List.dropWhile_sublist isSpace (l := rest)).length_le
      have := length_dropLayout next
      have : (dropLayout next).length < (skipSpaces rest).length := by omega
      have : (skipSpaces rest).length ≤ rest.length := by simpa [skipSpaces]
      readLongBasic? (dropLayout next)
    | none =>
      match h : unescape? rest with
      | none => none
      | some (c, rest') =>
        have := length_unescape? h
        (readLongBasic? rest').map fun read => (c :: read.1, read.2)
  | '\n' :: rest => (readLongBasic? rest).map fun read => ('\n' :: read.1, read.2)
  | '\r' :: '\n' :: rest => (readLongBasic? rest).map fun read => ('\n' :: read.1, read.2)
  | c :: rest =>
    if isForbidden c then none else (readLongBasic? rest).map fun read => (c :: read.1, read.2)
  termination_by text.length

/-- Reads a literal string of several lines. -/
def readLongLiteral? : List Char → Option (List Char × List Char)
  | [] => none
  | '\'' :: '\'' :: '\'' :: rest => some (closeLong '\'' rest)
  | '\n' :: rest => (readLongLiteral? rest).map fun read => ('\n' :: read.1, read.2)
  | '\r' :: '\n' :: rest => (readLongLiteral? rest).map fun read => ('\n' :: read.1, read.2)
  | c :: rest =>
    if isForbidden c then none else (readLongLiteral? rest).map fun read => (c :: read.1, read.2)

/-- Drops a line end right after opening quotes. -/
def dropFirstLineEnd (text : List Char) : List Char := (afterLineEnd? text).getD text

/-- Reads a string of any form; gives nothing if the text does not start with a quote. -/
def readString? : List Char → Option (List Char × List Char)
  | '"' :: '"' :: '"' :: rest => readLongBasic? (dropFirstLineEnd rest)
  | '\'' :: '\'' :: '\'' :: rest => readLongLiteral? (dropFirstLineEnd rest)
  | '"' :: rest => readBasic? rest
  | '\'' :: rest => readLiteral? rest
  | _ => none

end SystemMenu.Toml
