import SystemMenu.Text.Visible

/-!
# Quoted names

A name inside a message is put in double quotes. Quotes, backslashes and the usual control characters
have short escapes; every other character that cannot be shown on its own is written as its code
point in hexadecimal.
-/

namespace SystemMenu.Text

/-- Hexadecimal digits of a number, in lowercase and without leading zeros. -/
def hexDigits (n : Nat) : List Char := Nat.toDigits 16 n

/-- How one character of a quoted name is written. -/
def quoteChar (c : Char) : List Char :=
  if c = '\x00' then ['\\', '0']
  else if c = '\t' then ['\\', 't']
  else if c = '\r' then ['\\', 'r']
  else if c = '\n' then ['\\', 'n']
  else if c = '\\' then ['\\', '\\']
  else if c = '"' then ['\\', '"']
  else if isVisible c then [c]
  else ['\\', 'u', '\x7b'] ++ hexDigits c.toNat ++ ['\x7d']

/-- A name in double quotes. -/
def quoted (name : String) : String :=
  .ofList ('"' :: name.toList.flatMap quoteChar ++ ['"'])

end SystemMenu.Text
