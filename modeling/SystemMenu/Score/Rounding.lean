/-!
# Rounding of exact fractions

Scores are fractions that are rounded after each operation to 53 significant binary digits, and to a
fixed number of decimal places when they are shown. In both cases a value half way between two
neighbours goes to the even one.

## Main declarations

* `nearestInt`: the nearest integer.
* `roundBinary`: rounding to 53 significant binary digits.
* `fixedDecimal`: the text of a fraction with a fixed number of decimal places.
-/

namespace SystemMenu.Score

/-- The nearest integer; of two equally near ones, the even one. -/
def nearestInt (q : Rat) : Int :=
  let below := q.floor
  let rest := q - below
  if rest < 1 / 2 then below
  else if 1 / 2 < rest then below + 1
  else if below % 2 = 0 then below
  else below + 1

/-- A power of two with any integer exponent. -/
def powerOfTwo (exponent : Int) : Rat :=
  if 0 ≤ exponent then 2 ^ exponent.toNat else 1 / 2 ^ (-exponent).toNat

/-- The exponent of the greatest power of two that is not greater than a positive fraction. -/
def binaryExponent (q : Rat) : Int :=
  let guess : Int := (q.num.natAbs.log2 : Int) - (q.den.log2 : Int)
  if powerOfTwo guess ≤ q then guess else guess - 1

/-- Rounds a fraction that is not negative to 53 significant binary digits. -/
def roundBinary (q : Rat) : Rat :=
  if q = 0 then 0
  else
    let unit := powerOfTwo (binaryExponent q - 52)
    nearestInt (q / unit) * unit

/-- Digits of a number, filled with zeros on the left up to a width. -/
def paddedDigits (width n : Nat) : String :=
  let digits := toString n
  "".pushn '0' (width - digits.length) ++ digits

/-- A fraction that is not negative, written with a fixed number of decimal places. -/
def fixedDecimal (places : Nat) (q : Rat) : String :=
  let unit := Nat.pow 10 places
  let scaled := (nearestInt (q * unit)).toNat
  toString (scaled / unit) ++ "." ++ paddedDigits places (scaled % unit)

/-- Rounding to an integer moves a fraction by at most one half. -/
theorem nearestInt_cases (q : Rat) :
    (nearestInt q = q.floor ∧ q - q.floor ≤ 1 / 2) ∨
      (nearestInt q = q.floor + 1 ∧ 1 / 2 ≤ q - q.floor) := by
  simp only [nearestInt]
  split
  · exact .inl ⟨rfl, by grind⟩
  · split
    · exact .inr ⟨rfl, by grind⟩
    · split
      · exact .inl ⟨rfl, by grind⟩
      · exact .inr ⟨rfl, by grind⟩

end SystemMenu.Score
