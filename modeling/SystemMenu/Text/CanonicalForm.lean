import SystemMenu.Text.CombiningClass
import SystemMenu.Text.Decomposition

/-!
# Canonical decomposition form

A text is put in canonical form by decomposing every character and then sorting each run of marks by
combining class, marks of equal class staying in the order in which they were written. Texts that a
reader cannot tell apart get the same form.

## Main declarations

* `insertMark`: puts a character before a reordered text, at its place among the marks there.
* `reorder`: canonical ordering of a text.
* `canonicalForm`: decomposition followed by canonical ordering.
-/

namespace SystemMenu.Text

/-- Puts a character before a text: it passes the marks of a smaller class, other than zero. -/
def insertMark (c : Char) : List Char → List Char
  | [] => [c]
  | d :: rest =>
    if combiningClass d ≠ 0 ∧ combiningClass d < combiningClass c then d :: insertMark c rest
    else c :: d :: rest

/-- Sorts every run of marks by combining class; the order within a class is kept. -/
def reorder : List Char → List Char
  | [] => []
  | c :: rest => insertMark c (reorder rest)

/-- Canonical decomposition form of a text. -/
def canonicalForm (text : List Char) : List Char := reorder (text.flatMap decompose)

/-- Inserting a character keeps all the others. -/
theorem insertMark_perm (c : Char) (text : List Char) : (insertMark c text).Perm (c :: text) := by
  induction text with
  | nil => exact .refl _
  | cons d rest ih =>
      simp only [insertMark]
      split
      · exact (ih.cons d).trans (.swap c d rest)
      · exact .refl _

/-- Canonical ordering only moves characters. -/
theorem reorder_perm (text : List Char) : (reorder text).Perm text := by
  induction text with
  | nil => exact .refl _
  | cons c rest ih => exact (insertMark_perm c (reorder rest)).trans (ih.cons c)

/-- A character of class zero stays in front. -/
theorem insertMark_of_class_zero {c : Char} (h : combiningClass c = 0) (text : List Char) :
    insertMark c text = c :: text := by
  cases text <;> simp [insertMark, h]

end SystemMenu.Text
