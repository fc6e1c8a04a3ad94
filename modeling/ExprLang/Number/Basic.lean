import ExprLang.Number.Decimal

/-!
# Binary64 numbers

The numbers of the expression language are the IEEE 754 binary64 data. A finite magnitude is counted
in ticks, the gap between neighbouring subnormals, of which `2 ^ 1074` make one; the magnitudes are
the counts below `2 ^ 2098` whose binary digits span at most 53 places. Decimals are rounded to the
nearest magnitude, half-way cases to the one with the even significand.

Numbers are objects, but only of a not-a-number can it be seen which object it is: it differs from
every other not-a-number, and from itself it does not. Any other number is told by what it amounts
to, and so a datum carries the object that it is only when it is a not-a-number.

## Main definitions

* `Magnitude`: the finite magnitudes.
* `Number`: signed magnitudes, signed infinities and not-a-numbers.
* `Magnitude.nearest?`: the nearest magnitude to a decimal, if the decimal is not too large.
* `Number.ofDecimal`: rounding with overflow to infinity.
-/

namespace ExprLang

/-- How many ticks make one. -/
def ticksPerUnit : Nat := Nat.pow 2 1074

/-- The least number of ticks that is too large for a finite number. -/
def tickBound : Nat := Nat.pow 2 2098

/-- The gap, in ticks, between neighbouring magnitudes around a number of ticks. -/
def tickSpacing (ticks : Nat) : Nat := Nat.pow 2 (ticks.log2 - 52)

/-- A finite magnitude, in ticks. -/
structure Magnitude where
  ticks : Nat
  spacing_dvd : tickSpacing ticks ∣ ticks
  ticks_lt : ticks < tickBound
  deriving DecidableEq

/-- A binary64 datum. -/
inductive Number where
  | finite (negative : Bool) (magnitude : Magnitude)
  | infinite (negative : Bool)
  /-- A not-a-number, with the object that it is. -/
  | nan (object : Nat)
  deriving DecidableEq

/-- The whole number nearest to a quotient, the even one of two that are equally near. -/
def roundDiv (numerator denominator : Nat) : Nat :=
  let floor := numerator / denominator
  let twice := 2 * (numerator % denominator)
  if twice < denominator ∨ (twice = denominator ∧ floor % 2 = 0) then floor else floor + 1

/-- Rounding goes up by one at most. -/
theorem roundDiv_le_succ (n d : Nat) : roundDiv n d ≤ n / d + 1 := by
  grind [roundDiv]

namespace Magnitude

/-- The number of ticks nearest to a fraction among those that are spaced as magnitudes are. -/
def nearestTicks (numerator denominator : Nat) : Nat :=
  let scaled := numerator * ticksPerUnit
  let spacing := tickSpacing (scaled / denominator)
  roundDiv scaled (denominator * spacing) * spacing

/-- A significand of at most 53 binary digits, times a power of two, is spaced as magnitudes are.
This also holds of the significand that rounding up has carried to the next power of two. -/
theorem tickSpacing_dvd_mul {q k : Nat} (bound : q ≤ Nat.pow 2 53) :
    tickSpacing (q * Nat.pow 2 k) ∣ q * Nat.pow 2 k := by
  simp only [tickSpacing, Nat.pow_eq] at *
  rcases Nat.lt_or_eq_of_le bound with small | rfl
  · refine Nat.dvd_trans (Nat.pow_dvd_pow 2 ?_) (Nat.dvd_mul_left _ _)
    rcases Nat.eq_zero_or_pos (q * 2 ^ k) with zero | pos
    · simp [zero]
    · have : q * 2 ^ k < 2 ^ (53 + k) := by
        rw [Nat.pow_add]
        exact Nat.mul_lt_mul_of_pos_right small (Nat.pow_pos (by decide))
      have := (Nat.log2_lt (Nat.ne_of_gt pos)).2 this
      omega
  · rw [← Nat.pow_add, Nat.log2_two_pow]
    exact Nat.pow_dvd_pow 2 (by omega)

/-- What is rounded to is spaced as magnitudes are, so that it is a magnitude when it is not too
large. -/
theorem spacing_dvd_nearestTicks (n d : Nat) :
    tickSpacing (nearestTicks n d) ∣ nearestTicks n d := by
  refine tickSpacing_dvd_mul ?_
  generalize n * ticksPerUnit = scaled
  have floor : scaled / (d * tickSpacing (scaled / d)) < 2 ^ 53 := by
    rw [← Nat.div_div_eq_div_mul, tickSpacing, Nat.pow_eq,
      Nat.div_lt_iff_lt_mul (Nat.two_pow_pos _), ← Nat.pow_add]
    exact Nat.lt_of_lt_of_le Nat.lt_log2_self (Nat.pow_le_pow_right (by decide) (by omega))
  exact Nat.le_trans (roundDiv_le_succ _ _) floor

/-- The magnitude nearest to a decimal, or nothing when that would be too large. -/
def nearest? (d : Decimal) : Option Magnitude :=
  let ticks := nearestTicks d.numerator d.denominator
  if fits : ticks < tickBound then
    some ⟨ticks, spacing_dvd_nearestTicks _ _, fits⟩
  else
    none

/-- Whether the magnitude is a whole number. -/
def isWhole (m : Magnitude) : Bool :=
  m.ticks % ticksPerUnit = 0

/-- The whole number below the magnitude. -/
def floor (m : Magnitude) : Nat :=
  m.ticks / ticksPerUnit

/-- The magnitude as a decimal, exactly: a tick is `5 ^ 1074 / 10 ^ 1074`. -/
def exact (m : Magnitude) : Decimal :=
  ⟨m.ticks * Nat.pow 5 1074, -1074⟩

end Magnitude

namespace Number

/-- The number nearest to a signed decimal; past the largest finite number it is infinite. -/
def ofDecimal (negative : Bool) (d : Decimal) : Number :=
  match Magnitude.nearest? d with
  | some magnitude => .finite negative magnitude
  | none => .infinite negative

end Number

end ExprLang
