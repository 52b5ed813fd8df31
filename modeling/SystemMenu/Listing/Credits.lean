import SystemMenu.Text.Blank

/-!
# Manufacturer credits

A credit names one or more companies, separated by a slash between spaces; a company may be followed
by a remark in parentheses, which is no part of its name.

## Main declarations

* `splitCredit`: the credit cut at its separators.
* `withoutRemark`: a company's name without the remark after it.
* `companies`: the companies of a credit.
-/

namespace SystemMenu.Credits

/-- Cuts a credit at every slash between two spaces. -/
def splitCredit : List Char → List (List Char)
  | [] => [[]]
  | ' ' :: '/' :: ' ' :: rest => [] :: splitCredit rest
  | c :: rest =>
    match splitCredit rest with
    | [] => [[c]]
    | part :: others => (c :: part) :: others

/-- Of a text written backwards, what follows the first opening parenthesis that a space follows. -/
def afterOpening? : List Char → Option (List Char)
  | [] => none
  | '(' :: ' ' :: rest => some rest
  | _ :: rest => afterOpening? rest

/-- A company's name without blanks around it and without the remark after it: the remark starts at
the last opening parenthesis after a space, and the text ends with a closing one. -/
def withoutRemark (part : List Char) : List Char :=
  let name := Text.trim part
  match name.reverse with
  | ')' :: backwards =>
    match afterOpening? (')' :: backwards) with
    | some before => Text.trimEnd before.reverse
    | none => name
  | _ => name

/-- The companies of a credit, in order. -/
def companyNames (credit : List Char) : List (List Char) :=
  ((splitCredit credit).map withoutRemark).filter (· ≠ [])

/-- The companies of a credit, in order. -/
def companies (credit : String) : List String := (companyNames credit.toList).map String.ofList

end SystemMenu.Credits
