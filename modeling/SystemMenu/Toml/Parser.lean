import SystemMenu.Toml.Scalars
import SystemMenu.Toml.Strings
import SystemMenu.Toml.Value

/-!
# Reading a settings document

A document is a sequence of lines: `[table]` and `[[item]]` headers, `key = value` lines, and blanks
and comments between them.

## Main declarations

* `readKey?`: a dotted key.
* `readValue?`: a value of any kind.
* `Statement`, `readStatement?`: one line of a document.
* `parse`: the table that a document describes.
-/

namespace SystemMenu.Toml

/-- Characters of a key without quotes. -/
def isBareKeyChar (c : Char) : Bool :=
  ('a' ≤ c && c ≤ 'z') || ('A' ≤ c && c ≤ 'Z') || ('0' ≤ c && c ≤ '9') || c = '_' || c = '-'

/-- Reads one part of a key. -/
def readKeyPart? : List Char → Option (String × List Char)
  | '"' :: rest => (readBasic? rest).map fun read => (.ofList read.1, read.2)
  | '\'' :: rest => (readLiteral? rest).map fun read => (.ofList read.1, read.2)
  | text =>
    let part := text.takeWhile isBareKeyChar
    if part.isEmpty then none else some (.ofList part, text.dropWhile isBareKeyChar)

/-- Reads a dotted key of at most so many parts. -/
def readKeyParts? : Nat → List Char → Option (List String × String × List Char)
  | 0, _ => none
  | count + 1, text => do
    let (part, rest) ← readKeyPart? (skipSpaces text)
    match skipSpaces rest with
    | '.' :: rest =>
      let (path, last, rest) ← readKeyParts? count rest
      return (part :: path, last, rest)
    | rest => return ([], part, rest)

/-- Reads a dotted key, with spaces around its dots and at its ends; gives the parts on the way, the
last part and what follows. A text has at most one part more than it has characters. -/
def readKey? (text : List Char) : Option (List String × String × List Char) :=
  readKeyParts? (text.length + 1) text

/-- Characters of a word: a number, a boolean or a moment. -/
def isWordChar (c : Char) : Bool :=
  c.isAlphanum || c = '+' || c = '-' || c = '_' || c = '.' || c = ':'

/-- The first word of a text and what follows. A date may go on with a time after one space. -/
def splitWord (text : List Char) : List Char × List Char :=
  let word := text.takeWhile isWordChar
  let rest := text.dropWhile isWordChar
  match rest with
  | ' ' :: next =>
    if afterDate? word = some [] ∧ next.head?.any Char.isDigit then
      (word ++ ' ' :: next.takeWhile isWordChar, next.dropWhile isWordChar)
    else (word, rest)
  | _ => (word, rest)

/-- The value of a word. -/
def wordValue? (word : List Char) : Option Value :=
  if word = "true".toList then some (.boolean true)
  else if word = "false".toList then some (.boolean false)
  else
    match readInteger? word with
    | some n => some (.integer n)
    | none =>
      if isFloat word then some (.float (.ofList word))
      else if isMoment word then some (.moment (.ofList word))
      else none

mutual

/-- Reads a value in at most so many steps. -/
def valueWithin? : Nat → List Char → Except Error (Value × List Char)
  | 0, _ => .error .syntaxError
  | steps + 1, text =>
    match text with
    | '[' :: rest => do
      let (items, rest) ← itemsWithin? steps [] rest
      return (.array items, rest)
    | '\x7b' :: rest => do
      let (entries, rest) ← pairsWithin? steps [] rest
      return (.table .inline entries, rest)
    | _ =>
      match readString? text with
      | some (content, rest) => .ok (.string (.ofList content), rest)
      | none =>
        let (word, rest) := splitWord text
        match wordValue? word with
        | some value => .ok (value, rest)
        | none => .error .syntaxError

/-- Reads the items of an array after those already read, up to the closing bracket. -/
def itemsWithin? : Nat → List Value → List Char → Except Error (List Value × List Char)
  | 0, _, _ => .error .syntaxError
  | steps + 1, items, text =>
    match skipLayout? false text with
    | some (']' :: rest) => .ok (items, rest)
    | some text => do
      let (value, rest) ← valueWithin? steps text
      match skipLayout? false rest with
      | some (',' :: rest) => itemsWithin? steps (items ++ [value]) rest
      | some (']' :: rest) => .ok (items ++ [value], rest)
      | _ => .error .syntaxError
    | none => .error .syntaxError

/-- Reads the keys and values of a table between braces, up to the closing brace. -/
def pairsWithin? : Nat → Entries → List Char → Except Error (Entries × List Char)
  | 0, _, _ => .error .syntaxError
  | steps + 1, entries, text =>
    match skipLayout? false text with
    | some ('\x7d' :: rest) => .ok (entries, rest)
    | some text =>
      match readKey? text with
      | some (path, key, '=' :: rest) => do
        let (value, rest) ← valueWithin? steps (skipSpaces rest)
        let entries ← insertKey path key value .inline entries
        match skipLayout? false rest with
        | some (',' :: rest) => pairsWithin? steps entries rest
        | some ('\x7d' :: rest) => .ok (entries, rest)
        | _ => .error .syntaxError
      | _ => .error .syntaxError
    | none => .error .syntaxError

end

/-- Reads a value. Two steps take at least one character, so there are enough of them. -/
def readValue? (text : List Char) : Except Error (Value × List Char) :=
  valueWithin? (2 * text.length + 1) text

/-- One line of a document. -/
inductive Statement where
  | tableHeader (path : List String) (key : String)
  | itemHeader (path : List String) (key : String)
  | pair (path : List String) (key : String) (value : Value)

/-- Reads a line up to its end, but not the end itself. -/
def readStatement? (text : List Char) : Except Error (Statement × List Char) :=
  match text with
  | '[' :: '[' :: rest =>
    match readKey? rest with
    | some (path, key, ']' :: ']' :: rest) => .ok (.itemHeader path key, rest)
    | _ => .error .syntaxError
  | '[' :: rest =>
    match readKey? rest with
    | some (path, key, ']' :: rest) => .ok (.tableHeader path key, rest)
    | _ => .error .syntaxError
  | _ =>
    match readKey? text with
    | some (path, key, '=' :: rest) => do
      let (value, rest) ← readValue? (skipSpaces rest)
      return (.pair path key value, rest)
    | _ => .error .syntaxError

/-- A document as far as it has been read: its root table and the path of the table that `key = value`
lines go to. -/
structure Draft where
  root : Entries
  here : List String

/-- The draft before the first line. -/
def Draft.start : Draft := ⟨[], []⟩

/-- What one line does to the draft. -/
def Draft.add (draft : Draft) : Statement → Except Error Draft
  | .tableHeader path key => do
    return ⟨← openTable path key draft.root, path ++ [key]⟩
  | .itemHeader path key => do
    return ⟨← openItem path key draft.root, path ++ [key]⟩
  | .pair path key value => do
    let root ← changeTable false (insertKey path key value) draft.here .header draft.root
    return ⟨root, draft.here⟩

/-- Reads at most so many lines that follow a draft. -/
def readLines (draft : Draft) : Nat → List Char → Except Error Entries
  | 0, _ => .error .syntaxError
  | count + 1, text =>
    match skipLayout? false text with
    | none => .error .syntaxError
    | some [] => .ok draft.root
    | some text => do
      let (statement, rest) ← readStatement? text
      let draft ← draft.add statement
      match skipLineEnd? false rest with
      | some rest => readLines draft count rest
      | none => .error .syntaxError

/-- A text without the byte order mark that may stand in front of it. -/
def withoutMark : List Char → List Char
  | '\uFEFF' :: rest => rest
  | text => text

/-- The root table of a document. Each line takes at least one character. -/
def parse (text : String) : Except Error Entries :=
  let text := withoutMark text.toList
  readLines .start (text.length + 1) text

end SystemMenu.Toml
