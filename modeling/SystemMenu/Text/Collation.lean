import SystemMenu.Text.Mark
import SystemMenu.Text.SearchKey

/-!
# Dictionary order

Display texts are ordered as a dictionary orders them: first by letters without regard to case and
marks, then by marks, then by case with lowercase first, and at last by code point so that different
texts are never equal. A key holds the four levels, so that sorting does not decompose a text again
at each comparison.

## Main declarations

* `CollationKey.ofText`: the key of a text.
* `CollationKey.compare`: comparison of keys, level by level.
* `CollationKey.SamePrimary`: equality on the first level.
-/

namespace SystemMenu.Text

/-- The four levels of a display text. -/
structure CollationKey where
  /-- Folded letters without marks. -/
  letters : List Char
  /-- Folded letters with their marks. -/
  marked : List Char
  /-- For each character that is not a mark, whether it is uppercase. -/
  capitals : List Bool
  /-- The text itself. -/
  text : String
  deriving DecidableEq

namespace CollationKey

/-- The key of a text. -/
def ofText (text : String) : CollationKey :=
  let form := canonicalForm text.toList
  let base := form.filter fun c => !isMark c
  { letters := base.flatMap foldChar
    marked := form.flatMap foldChar
    capitals := base.map isUppercase
    text := text }

/-- Compares keys level by level; a later level decides only when all before it are equal. -/
protected def compare (a b : CollationKey) : Ordering :=
  (compare a.letters b.letters).then <|
    (compare a.marked b.marked).then <|
      (compare a.capitals b.capitals).then <|
        compare a.text b.text

instance : Ord CollationKey := ⟨CollationKey.compare⟩

/-- Both keys have the same letters, whatever their marks and case. -/
def SamePrimary (a b : CollationKey) : Prop := a.letters = b.letters

instance (a b : CollationKey) : Decidable (a.SamePrimary b) :=
  inferInstanceAs (Decidable (a.letters = b.letters))

@[simp] theorem text_ofText (text : String) : (ofText text).text = text := rfl

/-- A key determines its text, so equal keys come from equal texts. -/
theorem ofText_injective {a b : String} (h : ofText a = ofText b) : a = b := by
  simpa using congrArg CollationKey.text h

end CollationKey

/-- Dictionary order of two texts. -/
def collate (a b : String) : Ordering := compare (CollationKey.ofText a) (CollationKey.ofText b)

/-- Sorts texts into dictionary order. -/
def sortCollated (texts : List String) : List String :=
  let keyed := texts.map fun text => (CollationKey.ofText text, text)
  (keyed.mergeSort fun a b => (compare a.1 b.1).isLE).map (·.2)

end SystemMenu.Text
