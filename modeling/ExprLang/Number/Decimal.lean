/-!
# Decimal fractions

Non-negative decimal fractions as a coefficient and a power of ten, read from digits and written in
positional notation.

## Main definitions

* `Decimal`: `coefficient * 10 ^ exponent`.
* `Decimal.ofDigits`: the value of digits before and after a point.
* `Decimal.digits`, `Decimal.leadExponent`: the digits and the power of ten of the first of them.
* `Decimal.trimmed`: the same value without trailing zeros in the coefficient.
* `Decimal.positional`: digits with a point, and never an exponent.
-/

namespace ExprLang

/-- The fraction `coefficient * 10 ^ exponent`. -/
structure Decimal where
  coefficient : Nat
  exponent : Int
  deriving DecidableEq, Repr

namespace Decimal

/-- The fraction over `denominator`. -/
def numerator (d : Decimal) : Nat :=
  d.coefficient * Nat.pow 10 d.exponent.toNat

/-- A power of ten that clears the fraction. -/
def denominator (d : Decimal) : Nat :=
  Nat.pow 10 (-d.exponent).toNat

/-- The fraction has a denominator that is not zero. -/
theorem denominator_pos (d : Decimal) : 0 < d.denominator :=
  Nat.pow_pos (by decide)

/-- The value of the digits before and after a point. -/
def ofDigits (whole fraction : List Char) : Decimal where
  coefficient := Nat.ofDigitChars 10 (whole ++ fraction) 0
  exponent := -fraction.length

/-- The digits of the coefficient. -/
def digits (d : Decimal) : List Char :=
  Nat.toDigits 10 d.coefficient

/-- The power of ten that the first digit counts. -/
def leadExponent (d : Decimal) : Int :=
  d.exponent + d.digits.length - 1

/-- The coefficient divided by ten as often as it goes, the exponent raised as often. -/
def trimCoefficient (coefficient : Nat) (exponent : Int) : Decimal :=
  if 0 < coefficient ∧ coefficient % 10 = 0 then
    trimCoefficient (coefficient / 10) (exponent + 1)
  else
    ⟨coefficient, exponent⟩
termination_by coefficient
decreasing_by omega

/-- The same fraction with no trailing zero in the coefficient; zero has the exponent zero. -/
def trimmed (d : Decimal) : Decimal :=
  if d.coefficient = 0 then ⟨0, 0⟩ else trimCoefficient d.coefficient d.exponent

/-- Digits with a point where the exponent puts it and at least one digit on either side of the
point; a fraction without decimal places has no point. -/
def positional (d : Decimal) : List Char :=
  let places := (-d.exponent).toNat
  if places = 0 then
    d.digits ++ List.replicate d.exponent.toNat '0'
  else
    let padded := List.replicate (places + 1 - d.digits.length) '0' ++ d.digits
    padded.take (padded.length - places) ++ '.' :: padded.drop (padded.length - places)

end Decimal

end ExprLang
