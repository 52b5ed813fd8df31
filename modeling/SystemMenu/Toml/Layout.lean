/-!
# Blanks, comments and line ends of a settings document

A line ends with a line feed, which a carriage return may precede. A comment runs from a number sign
to the end of its line and holds no control character other than tabs.
-/

namespace SystemMenu.Toml

/-- Space or tab. -/
def isSpace (c : Char) : Bool := c = ' ' || c = '\t'

/-- Control characters other than the tab; a document holds them only as line ends. -/
def isForbidden (c : Char) : Bool := (c.toNat < 0x20 && c ≠ '\t') || c.toNat = 0x7F

/-- What follows the spaces and tabs at the start. -/
def skipSpaces (text : List Char) : List Char := text.dropWhile isSpace

/-- What follows the blanks, comments and line ends at the start. -/
def skipLayout? (inComment : Bool) : List Char → Option (List Char)
  | [] => some []
  | '\n' :: rest => skipLayout? false rest
  | '\r' :: '\n' :: rest => skipLayout? false rest
  | c :: rest =>
    if inComment then (if isForbidden c then none else skipLayout? true rest)
    else if isSpace c then skipLayout? false rest
    else if c = '#' then skipLayout? true rest
    else some (c :: rest)

/-- What follows the rest of a line that may hold nothing more than a comment. -/
def skipLineEnd? (inComment : Bool) : List Char → Option (List Char)
  | [] => some []
  | '\n' :: rest => some rest
  | '\r' :: '\n' :: rest => some rest
  | c :: rest =>
    if inComment then (if isForbidden c then none else skipLineEnd? true rest)
    else if isSpace c then skipLineEnd? false rest
    else if c = '#' then skipLineEnd? true rest
    else none

end SystemMenu.Toml
