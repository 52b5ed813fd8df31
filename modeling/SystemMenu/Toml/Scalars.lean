/-!
# Numbers, booleans and moments

A value without quotes or brackets is one word. Integers are written in base ten, or in base 16, 8 or
2 after `0x`, `0o` or `0b`; single underscores may stand between digits. Numbers with a fraction or an
exponent and moments in time are only checked for their form.

## Main declarations

* `readInteger?`: the value of an integer word.
* `isFloat`, `isMoment`: the forms of the other words.
-/

namespace SystemMenu.Toml

/-- The value of a digit in a base of at most sixteen. -/
def digitValue? (base : Nat) (c : Char) : Option Nat :=
  let value? :=
    if '0' ≤ c ∧ c ≤ '9' then some (c.toNat - '0'.toNat)
    else if 'a' ≤ c ∧ c ≤ 'f' then some (c.toNat - 'a'.toNat + 10)
    else if 'A' ≤ c ∧ c ≤ 'F' then some (c.toNat - 'A'.toNat + 10)
    else none
  value?.filter (· < base)

/-- Reads digits with single underscores between them, continuing a number; `open_` says that a
digit has to come next. -/
def readDigits? (base : Nat) (value : Nat) (open_ : Bool) : List Char → Option Nat
  | [] => if open_ then none else some value
  | '_' :: rest => if open_ then none else readDigits? base value true rest
  | c :: rest => do
    let digit ← digitValue? base c
    readDigits? base (value * base + digit) false rest

/-- Reads a number in base ten without needless zeros in front. -/
def readDecimal? (word : List Char) : Option Nat :=
  match word with
  | '0' :: _ :: _ => none
  | _ => readDigits? 10 0 true word

/-- Splits a sign off; `true` stands for minus. -/
def splitSign : List Char → Bool × List Char
  | '+' :: rest => (false, rest)
  | '-' :: rest => (true, rest)
  | word => (false, word)

/-- The value of an integer word. -/
def readInteger? (word : List Char) : Option Int :=
  match word with
  | '0' :: 'x' :: digits => (readDigits? 16 0 true digits).map Int.ofNat
  | '0' :: 'o' :: digits => (readDigits? 8 0 true digits).map Int.ofNat
  | '0' :: 'b' :: digits => (readDigits? 2 0 true digits).map Int.ofNat
  | _ =>
    let (negative, digits) := splitSign word
    (readDecimal? digits).map fun n => if negative then -(n : Int) else n

/-- The word is a run of digits with single underscores between them. -/
def isDigits (word : List Char) : Bool := (readDigits? 10 0 true word).isSome

/-- The word is a number with a fraction, an exponent or both, an infinity or no number. -/
def isFloat (word : List Char) : Bool :=
  let digits := (splitSign word).2
  if digits = ['i', 'n', 'f'] ∨ digits = ['n', 'a', 'n'] then true
  else
    let isExponent := fun c => c == 'e' || c == 'E'
    let mantissa := digits.takeWhile fun c => !isExponent c
    let exponent := digits.dropWhile fun c => !isExponent c
    let whole := mantissa.takeWhile (· ≠ '.')
    let fraction := mantissa.dropWhile (· ≠ '.')
    (readDecimal? whole).isSome && (fraction.isEmpty || isDigits (fraction.drop 1)) &&
      (exponent.isEmpty || isDigits (splitSign (exponent.drop 1)).2) &&
      !(fraction.isEmpty && exponent.isEmpty)

/-- Exactly `count` digits at the start: their number and what follows. -/
def takeNumber? (count : Nat) (word : List Char) : Option (Nat × List Char) :=
  let digits := word.take count
  if digits.length = count ∧ digits.all Char.isDigit then
    some (digits.foldl (fun n c => n * 10 + (c.toNat - '0'.toNat)) 0, word.drop count)
  else none

/-- Days of a month. -/
def daysIn (year month : Nat) : Nat :=
  if month = 2 then (if year % 4 = 0 ∧ (year % 100 ≠ 0 ∨ year % 400 = 0) then 29 else 28)
  else if month = 4 ∨ month = 6 ∨ month = 9 ∨ month = 11 then 30
  else 31

/-- What follows a date at the start. -/
def afterDate? (word : List Char) : Option (List Char) := do
  let (year, rest) ← takeNumber? 4 word
  let rest ← if rest.head? = some '-' then some (rest.drop 1) else none
  let (month, rest) ← takeNumber? 2 rest
  let rest ← if rest.head? = some '-' then some (rest.drop 1) else none
  let (day, rest) ← takeNumber? 2 rest
  if 1 ≤ month ∧ month ≤ 12 ∧ 1 ≤ day ∧ day ≤ daysIn year month then some rest else none

/-- What follows a time of day at the start; seconds and their fraction may be missing. -/
def afterTime? (word : List Char) : Option (List Char) := do
  let (hour, rest) ← takeNumber? 2 word
  let rest ← if rest.head? = some ':' then some (rest.drop 1) else none
  let (minute, rest) ← takeNumber? 2 rest
  if hour ≤ 23 ∧ minute ≤ 59 then
    if rest.head? = some ':' then
      let (second, rest) ← takeNumber? 2 (rest.drop 1)
      if 60 < second then none
      else if rest.head? = some '.' then
        if (rest.drop 1).head?.any Char.isDigit then some ((rest.drop 1).dropWhile Char.isDigit)
        else none
      else some rest
    else some rest
  else none

/-- The word is the offset of a time zone. -/
def isOffset (word : List Char) : Bool :=
  if word = ['Z'] ∨ word = ['z'] then true
  else if word.head? = some '+' ∨ word.head? = some '-' then
    match takeNumber? 2 (word.drop 1) with
    | some (hour, ':' :: rest) =>
      match takeNumber? 2 rest with
      | some (minute, []) => hour ≤ 23 && minute ≤ 59
      | _ => false
    | _ => false
  else false

/-- The word is a date, a time of day, or a date with a time and perhaps an offset. -/
def isMoment (word : List Char) : Bool :=
  match afterDate? word with
  | some [] => true
  | some (c :: rest) =>
    (c = 'T' || c = 't' || c = ' ') &&
      match afterTime? rest with
      | some tail => tail.isEmpty || isOffset tail
      | none => false
  | none => afterTime? word == some []

end SystemMenu.Toml
