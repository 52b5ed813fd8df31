import SystemMenu.Toml.Layout

/-!
# Writing a settings document

A string is written in the plainest form that can hold it: between double quotes, between single
quotes, between three double or three single quotes, and with escapes only if none of these will do.

## Main declarations

* `StringForm`, `StringForm.choose`: the forms and the choice between them.
* `writeString`: the written form of a text.
* `writePair`, `writeTable`: a line and a table of a document.
-/

namespace SystemMenu.Toml

/-- The ways of writing a string. -/
inductive StringForm where
  | basic
  | literal
  | longBasic
  | longLiteral
  deriving Repr, DecidableEq

/-- A control character that only an escape can stand for. -/
def needsEscape (c : Char) : Bool := isForbidden c && c ≠ '\n'

/-- Length of the longest run of a character, given the length of the run just before. -/
def longestRunAfter (x : Char) (run : Nat) : List Char → Nat
  | [] => run
  | c :: rest =>
    if c = x then longestRunAfter x (run + 1) rest else max run (longestRunAfter x 0 rest)

/-- Length of the longest run of a character. -/
def longestRun (x : Char) (text : List Char) : Nat := longestRunAfter x 0 text

/-- The first form that can hold a text; one with escapes if none can hold it as it is. -/
def StringForm.choose (text : List Char) : StringForm :=
  let hasControl := text.any needsEscape
  let hasLineEnd := text.contains '\n'
  let hasBackslash := text.contains '\\'
  if !hasControl && !hasBackslash && !hasLineEnd && longestRun '"' text = 0 then .basic
  else if !hasControl && !hasLineEnd && longestRun '\'' text = 0 then .literal
  else if !hasControl && !hasBackslash && longestRun '"' text ≤ 2 then .longBasic
  else if !hasControl && longestRun '\'' text ≤ 2 then .longLiteral
  else if hasLineEnd then .longBasic
  else .basic

/-- A hexadecimal digit. -/
def hexDigit (n : Nat) : Char :=
  if n < 10 then Char.ofNat ('0'.toNat + n) else Char.ofNat ('A'.toNat + (n - 10))

/-- A control character as an escape with four digits. -/
def codeEscape (c : Char) : List Char :=
  ['\\', 'u', hexDigit (c.toNat / 4096 % 16), hexDigit (c.toNat / 256 % 16),
    hexDigit (c.toNat / 16 % 16), hexDigit (c.toNat % 16)]

/-- The escape of a character in a form between double quotes, if it has to be escaped there. -/
def escape? (long : Bool) (c : Char) : Option (List Char) :=
  if c = '\x08' then some ['\\', 'b']
  else if c = '\t' then some ['\\', 't']
  else if c = '\n' then (if long then none else some ['\\', 'n'])
  else if c = '\x0c' then some ['\\', 'f']
  else if c = '\r' then some ['\\', 'r']
  else if c = '\\' then some ['\\', '\\']
  else if isForbidden c then some (codeEscape c)
  else none

/-- The content of a form between double quotes. So many quotes in a row are written as they are,
`run` of which have just been written; the one after them is escaped. -/
def escapeFrom (long : Bool) (run : Nat) : List Char → List Char
  | [] => []
  | '"' :: rest =>
    if (if long then 2 else 0) < run + 1 then ['\\', '"'] ++ escapeFrom long 0 rest
    else '"' :: escapeFrom long (run + 1) rest
  | c :: rest => (escape? long c).getD [c] ++ escapeFrom long 0 rest

/-- A line end for forms of several lines, after their opening quotes, if the text has one. -/
def firstLineEnd (text : List Char) : List Char := if text.contains '\n' then ['\n'] else []

/-- A text in a given form. -/
def writeAs (form : StringForm) (text : List Char) : List Char :=
  match form with
  | .basic => '"' :: escapeFrom false 0 text ++ ['"']
  | .literal => '\'' :: text ++ ['\'']
  | .longBasic =>
    ['"', '"', '"'] ++ firstLineEnd text ++ escapeFrom true 0 text ++ ['"', '"', '"']
  | .longLiteral => ['\'', '\'', '\''] ++ firstLineEnd text ++ text ++ ['\'', '\'', '\'']

/-- The written form of a text. -/
def writeString (text : String) : String :=
  .ofList (writeAs (.choose text.toList) text.toList)

/-- The written form of a truth value. -/
def writeBoolean (value : Bool) : String := if value then "true" else "false"

/-- A line that gives a key its value. -/
def writePair (key value : String) : String := key ++ " = " ++ value ++ "\n"

/-- A table with its header. -/
def writeTable (name : String) (pairs : List (String × String)) : String :=
  "[" ++ name ++ "]\n" ++ String.join (pairs.map fun pair => writePair pair.1 pair.2)

/-- A document of tables, with an empty line between them. -/
def writeDocument (tables : List (String × List (String × String))) : String :=
  "\n".intercalate (tables.map fun table => writeTable table.1 table.2)

end SystemMenu.Toml
