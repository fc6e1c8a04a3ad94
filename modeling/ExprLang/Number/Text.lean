import ExprLang.Number.Basic

/-!
# Number text

Two written forms of a number, both with the fewest digits that read back, and a reader for decimal
text. The compact form turns to an exponent for numbers far from one and always shows that the
number is not an integer; the plain form has neither a point nor decimal places on a whole number,
whose digits are exact, and never an exponent.

A finite magnitude is written with as few decimal digits as round back to it, and among those of
that length with the ones nearest to it. The search tries the decimal grids from the leading digit
on; on each grid only the two neighbours of the magnitude can be the answer. Both conditions are
tested with `Magnitude.nearest?` itself, so what is chosen reads back by construction.

## Main definitions

* `Magnitude.onGrid?`: the best multiple of a power of ten that reads back.
* `Magnitude.shortest`: the decimal with the fewest digits.
* `Number.compact`, `Number.plain`: the two forms.
* `Number.ofText?`: the number nearest to a decimal text.
-/

namespace ExprLang

/-! ### The fewest digits that read back -/

namespace Magnitude

/-- The power of ten that the first digit counts. The scale `10 ^ 324` makes the least positive
magnitude exceed one. -/
def leadExponent (m : Magnitude) : Int :=
  (Nat.toDigits 10 (m.ticks * Nat.pow 10 324 / ticksPerUnit)).length - 325

/-- Whether a decimal rounds to the magnitude. -/
def ReadsBack (m : Magnitude) (d : Decimal) : Prop :=
  nearest? d = some m

instance (m : Magnitude) (d : Decimal) : Decidable (m.ReadsBack d) :=
  inferInstanceAs (Decidable (_ = _))

/-- The neighbours of the magnitude among the multiples of a power of ten, the nearer one first;
of two that are equally near the one with the even coefficient comes first. -/
def neighbours (m : Magnitude) (exponent : Int) : List Decimal :=
  let unit : Decimal := ⟨1, exponent⟩
  let numerator := m.ticks * unit.denominator
  let denominator := ticksPerUnit * unit.numerator
  let floor := numerator / denominator
  [roundDiv numerator denominator, floor, floor + 1].map (⟨·, exponent⟩)

/-- The nearest multiple of a power of ten that reads back, if there is one. -/
def onGrid? (m : Magnitude) (exponent : Int) : Option Decimal :=
  (m.neighbours exponent).find? fun d => m.ReadsBack d

/-- The decimal with the fewest digits that reads back. Seventeen digits are enough; the exact value
stands behind them. -/
def shortest (m : Magnitude) : Decimal :=
  let grids := (List.range 17).map fun (place : Nat) => m.leadExponent - place
  ((grids.findSome? m.onGrid?).getD m.exact).trimmed

end Magnitude

/-! ### Written forms -/

namespace Decimal

/-- One digit before the point, and the power of ten as a signed exponent of at least two digits. -/
def scientific (d : Decimal) : List Char :=
  let fraction := if d.digits.length = 1 then [] else '.' :: d.digits.tail
  let exponent := Nat.toDigits 10 d.leadExponent.natAbs
  d.digits.take 1 ++ fraction ++ ['e', if d.leadExponent < 0 then '-' else '+'] ++
    List.replicate (2 - exponent.length) '0' ++ exponent

/-- Positional with at least one decimal place for numbers from `0.0001` to below `10 ^ 16`, and
scientific outside. -/
def compact (d : Decimal) : List Char :=
  if -4 ≤ d.leadExponent ∧ d.leadExponent < 16 then
    if d.exponent < 0 then d.positional else d.positional ++ ['.', '0']
  else
    d.scientific

end Decimal

namespace Number

/-- The sign in front of a text. -/
def signed (negative : Bool) (text : List Char) : String :=
  String.ofList (if negative then '-' :: text else text)

/-- The fewest digits that read back, with an exponent where the number is far from one. -/
def compact : Number → String
  | .finite negative m => signed negative m.shortest.compact
  | .infinite negative => signed negative ['i', 'n', 'f']
  | .nan _ => "nan"

/-- A whole number as its exact integer, without a sign on zero; any other finite number with the
fewest digits that read back, in positional notation. -/
def plain : Number → String
  | .finite negative m =>
    if m.isWhole then
      signed (negative && m.floor != 0) (Nat.toDigits 10 m.floor)
    else
      signed negative m.shortest.positional
  | number => number.compact

/-- Splits a sign off a text. -/
def splitSign : List Char → Bool × List Char
  | '-' :: text => (true, text)
  | '+' :: text => (false, text)
  | text => (false, text)

/-- The exponent behind the digits of a decimal text; no text counts as zero. -/
def exponentOfText? : List Char → Option Int
  | [] => some 0
  | mark :: text =>
    let (negative, digits) := splitSign text
    if (mark = 'e' ∨ mark = 'E') ∧ digits ≠ [] ∧ digits.all Char.isDigit then
      let magnitude : Int := Nat.ofDigitChars 10 digits 0
      some (if negative then -magnitude else magnitude)
    else
      none

/-- A decimal text without a sign. An exponent out of all proportion to the digits is brought to a
value that rounds alike: the result is zero or too large either way. -/
def decimalOfText? (text : List Char) : Option Decimal := do
  let whole := text.takeWhile Char.isDigit
  let behind := text.dropWhile Char.isDigit
  let fractional := behind.head? == some '.'
  let fraction := if fractional then behind.tail.takeWhile Char.isDigit else []
  let behind := if fractional then behind.tail.dropWhile Char.isDigit else behind
  guard (whole ++ fraction ≠ [])
  let shift ← exponentOfText? behind
  let d := Decimal.ofDigits whole fraction
  let margin : Int := 400 + (whole ++ fraction).length
  return { d with exponent := max (-margin) (min margin (d.exponent + shift)) }

/-- The number nearest to a decimal text; the names of the infinities are read too, and that of a
not-a-number, which becomes the object given. -/
def ofText? (text : String) (object : Nat := 0) : Option Number :=
  let (negative, text) := splitSign text.toList
  if text = "inf".toList ∨ text = "infinity".toList then
    some (.infinite negative)
  else if text = "nan".toList then
    some (.nan object)
  else
    (decimalOfText? text).map (ofDecimal negative)

end Number

end ExprLang
