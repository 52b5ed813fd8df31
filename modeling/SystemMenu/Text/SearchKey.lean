import SystemMenu.Text.CanonicalForm
import SystemMenu.Text.Case

/-!
# Search keys

A query and the texts it is compared with are both brought into a form in which case, full or half
width of ASCII letters, and the way marks are written no longer matter.

## Main declarations

* `foldWidth`: narrow form of a fullwidth ASCII variant or of the ideographic space.
* `foldChar`: narrow and lowercase form of a character.
* `searchKey`: the key of a text.
* `searchKeyJoined`: the key of two texts joined by a space.
-/

namespace SystemMenu.Text

/-- Narrow form of a fullwidth ASCII variant or of the ideographic space. -/
def foldWidth (c : Char) : Char :=
  if 0xFF01 ≤ c.toNat ∧ c.toNat ≤ 0xFF5E then Char.ofNat (c.toNat - 0xFEE0)
  else if c = '\u3000' then ' '
  else c

/-- Narrow, lowercase form of a decomposed character. -/
def foldChar (c : Char) : List Char := lowercase (foldWidth c)

/-- Search key of a sequence of characters. -/
def searchKeyChars (text : List Char) : List Char := (canonicalForm text).flatMap foldChar

/-- Search key of a text. -/
def searchKey (text : String) : String := .ofList (searchKeyChars text.toList)

/-- Search key of two texts with a space between them; each is put in canonical form alone, which
is the same because no mark moves across the space. -/
def searchKeyJoined (first second : String) : String :=
  .ofList ((canonicalForm first.toList ++ ' ' :: canonicalForm second.toList).flatMap foldChar)

end SystemMenu.Text
