import ExprLang.Number.Text

/-!
# Rounding decimals

Rounding depends on the value of a decimal and not on how it is written, and a decimal that is
exactly a magnitude rounds to it. So the digits that are found for a magnitude round back to it.

## Main statements

* `Magnitude.nearestTicks_congr`: equal fractions are rounded alike.
* `Magnitude.nearest?_eq_some`: a decimal that is a magnitude.
* `Magnitude.nearest?_trimmed`: trailing zeros do not matter.
* `Magnitude.nearest?_shortest`: the fewest digits read back.
-/

namespace ExprLang

variable {n d n' d' k coefficient : Nat} {exponent : Int}

/-! ### Quotients -/

/-- A quotient is rounded alike when its fraction is expanded. -/
theorem roundDiv_mul_left (pos : 0 < k) : roundDiv (k * n) (k * d) = roundDiv n d := by
  have twice : 2 * (k * (n % d)) = k * (2 * (n % d)) := Nat.mul_left_comm 2 k _
  rw [roundDiv, roundDiv, Nat.mul_div_mul_left _ _ pos, Nat.mul_mod_mul_left, twice]
  simp only [Nat.mul_lt_mul_left pos, Nat.mul_right_inj (Nat.ne_of_gt pos)]

/-- A whole quotient stays as it is. -/
theorem roundDiv_mul_right (pos : 0 < d) : roundDiv (d * k) d = k := by
  rw [roundDiv, Nat.mul_mod_right, Nat.mul_div_cancel_left k pos]
  exact if_pos (.inl pos)

theorem tickSpacing_pos (ticks : Nat) : 0 < tickSpacing ticks :=
  Nat.pow_pos (by decide)

-- The powers are not to be computed, so their exponent is generalised first.
theorem ticksPerUnit_pos : 0 < ticksPerUnit := by
  unfold ticksPerUnit
  generalize 1074 = k
  exact Nat.pow_pos (by decide)

/-- Decimal places do not count in the numerator. -/
theorem Decimal.numerator_neg (coefficient places : Nat) :
    (⟨coefficient, -places⟩ : Decimal).numerator = coefficient := by
  rw [numerator, Int.toNat_neg_natCast]
  exact Nat.mul_one _

/-- Decimal places count in the denominator. -/
theorem Decimal.denominator_neg (coefficient places : Nat) :
    (⟨coefficient, -places⟩ : Decimal).denominator = Nat.pow 10 places := by
  rw [denominator, Int.neg_neg, Int.toNat_natCast]

namespace Magnitude

variable {m : Magnitude}

/-- A fraction may be expanded before it is rounded. -/
theorem nearestTicks_mul_left (pos : 0 < k) :
    nearestTicks (k * n) (k * d) = nearestTicks n d := by
  simp only [nearestTicks, Nat.mul_assoc]
  rw [Nat.mul_div_mul_left _ _ pos, roundDiv_mul_left pos]

/-- Equal fractions are rounded alike. -/
theorem nearestTicks_congr (pos : 0 < d) (pos' : 0 < d') (same : n * d' = n' * d) :
    nearestTicks n d = nearestTicks n' d' := by
  calc nearestTicks n d
      = nearestTicks (d' * n) (d' * d) := (nearestTicks_mul_left pos').symm
    _ = nearestTicks (d * n') (d * d') := by
        rw [Nat.mul_comm d' n, same, Nat.mul_comm n' d, Nat.mul_comm d' d]
    _ = nearestTicks n' d' := nearestTicks_mul_left pos

/-- The ticks of a magnitude are rounded to themselves, since they are a multiple of their spacing.
-/
theorem nearestTicks_ticks (m : Magnitude) : nearestTicks m.ticks ticksPerUnit = m.ticks := by
  obtain ⟨q, whole⟩ := m.spacing_dvd
  have rounded : roundDiv m.ticks (tickSpacing m.ticks) = q := by
    conv => lhs; arg 1; rw [whole]
    exact roundDiv_mul_right (tickSpacing_pos _)
  simp only [nearestTicks]
  rw [Nat.mul_div_cancel _ ticksPerUnit_pos, Nat.mul_comm m.ticks ticksPerUnit,
    roundDiv_mul_left ticksPerUnit_pos, rounded, Nat.mul_comm]
  exact whole.symm

/-! ### Decimals -/

/-- Decimals of equal value round to the same magnitude. -/
theorem nearest?_congr {d d' : Decimal}
    (same : d.numerator * d'.denominator = d'.numerator * d.denominator) :
    nearest? d = nearest? d' := by
  have ticks := nearestTicks_congr d.denominator_pos d'.denominator_pos same
  simp only [nearest?, ticks]

/-- A decimal that is exactly a magnitude rounds to it. -/
theorem nearest?_eq_some {d : Decimal}
    (same : d.numerator * ticksPerUnit = m.ticks * d.denominator) : nearest? d = some m := by
  have ticks : nearestTicks d.numerator d.denominator = m.ticks :=
    (nearestTicks_congr d.denominator_pos ticksPerUnit_pos same).trans m.nearestTicks_ticks
  simp only [nearest?, ticks, dif_pos m.ticks_lt]

/-- The exact decimal of a magnitude rounds to it. -/
theorem nearest?_exact (m : Magnitude) : nearest? m.exact = some m := by
  refine nearest?_eq_some ?_
  have places : (-1074 : Int) = -((1074 : Nat) : Int) := rfl
  unfold exact ticksPerUnit
  rewrite [places]
  generalize 1074 = k
  rw [Decimal.numerator_neg, Decimal.denominator_neg, Nat.mul_assoc]
  exact congrArg (m.ticks * ·) (Nat.mul_pow 5 2 k).symm

/-- The digits of a whole magnitude round to it. -/
theorem nearest?_floor (whole : m.isWhole = true) : nearest? ⟨m.floor, 0⟩ = some m := by
  refine nearest?_eq_some ?_
  have exactly : m.floor * ticksPerUnit = m.ticks :=
    Nat.div_mul_cancel (Nat.dvd_of_mod_eq_zero (of_decide_eq_true whole))
  change m.floor * 1 * ticksPerUnit = m.ticks * 1
  rw [Nat.mul_one, Nat.mul_one, exactly]

/-- No exponent matters to zero. -/
theorem nearest?_zero : nearest? ⟨0, exponent⟩ = nearest? ⟨0, 0⟩ :=
  nearest?_congr (by simp [Decimal.numerator])

/-- Counting the exponent up is putting a zero behind the coefficient. -/
theorem nearest?_succ :
    nearest? ⟨coefficient, exponent + 1⟩ = nearest? ⟨coefficient * 10, exponent⟩ := by
  refine nearest?_congr ?_
  simp only [Decimal.numerator, Decimal.denominator, Nat.pow_eq]
  rcases Int.lt_or_le exponent 0 with neg | nonneg
  · obtain ⟨up, down, lower⟩ : (exponent + 1).toNat = 0 ∧ exponent.toNat = 0 ∧
        (-exponent).toNat = (-(exponent + 1)).toNat + 1 := by omega
    rw [up, down, lower, Nat.pow_succ]
    ac_rfl
  · obtain ⟨up, down, lower⟩ : (exponent + 1).toNat = exponent.toNat + 1 ∧
        (-exponent).toNat = 0 ∧ (-(exponent + 1)).toNat = 0 := by omega
    rw [up, down, lower, Nat.pow_succ]
    ac_rfl

theorem nearest?_shift (coefficient k : Nat) :
    nearest? ⟨coefficient, k⟩ = nearest? ⟨Nat.pow 10 k * coefficient, 0⟩ := by
  refine nearest?_congr ?_
  simp only [Decimal.numerator, Decimal.denominator, Nat.pow_eq]
  simp [Nat.mul_comm]

/-- Zeros taken off the coefficient are counted by the exponent. -/
theorem nearest?_trimCoefficient (coefficient : Nat) (exponent : Int) :
    nearest? (Decimal.trimCoefficient coefficient exponent) = nearest? ⟨coefficient, exponent⟩ := by
  fun_induction Decimal.trimCoefficient coefficient exponent with
  | case1 coefficient exponent more ih =>
    rw [ih, nearest?_succ, Nat.div_mul_cancel (Nat.dvd_of_mod_eq_zero more.2)]
  | case2 coefficient exponent last => rfl

/-- Trailing zeros do not matter. -/
theorem nearest?_trimmed (d : Decimal) : nearest? d.trimmed = nearest? d := by
  obtain ⟨coefficient, exponent⟩ := d
  unfold Decimal.trimmed
  split
  · next zero =>
    obtain rfl : coefficient = 0 := zero
    exact nearest?_zero.symm
  · exact nearest?_trimCoefficient coefficient exponent

/-! ### The fewest digits -/

/-- What is found on a grid reads back. -/
theorem readsBack_of_onGrid? {d : Decimal} (found : m.onGrid? exponent = some d) :
    m.ReadsBack d := by
  unfold onGrid? at found
  have reads := List.find?_some found
  rwa [decide_eq_true_eq] at reads

/-- The fewest digits read back. -/
theorem nearest?_shortest (m : Magnitude) : nearest? m.shortest = some m := by
  rw [shortest, nearest?_trimmed]
  cases search : ((List.range 17).map fun (place : Nat) => m.leadExponent - place).findSome?
    m.onGrid? with
  | none => exact m.nearest?_exact
  | some d =>
    obtain ⟨exponent, -, found⟩ := List.exists_of_findSome?_eq_some search
    exact readsBack_of_onGrid? found

end Magnitude

namespace Number

variable {negative : Bool} {d d' : Decimal} {m : Magnitude}

/-- A decimal stands for its nearest magnitude, or for the infinity of its sign when it has none. -/
theorem ofDecimal_eq_elim (negative : Bool) (d : Decimal) : ofDecimal negative d =
    (Magnitude.nearest? d).elim (.infinite negative) (.finite negative) := by
  -- An unfolded application would be evaluated, and with it the bound on the ticks: the function is
  -- unfolded before it is applied.
  have unfolded : ofDecimal = ofDecimal := rfl
  conv at unfolded => rhs; delta ofDecimal
  rw [unfolded]
  simp only
  generalize Magnitude.nearest? d = nearest
  cases nearest with
  | none => rfl
  | some m => rfl

theorem ofDecimal_congr (h : Magnitude.nearest? d = Magnitude.nearest? d') :
    ofDecimal negative d = ofDecimal negative d' := by
  rw [ofDecimal_eq_elim, ofDecimal_eq_elim, h]

theorem ofDecimal_of_nearest? (h : Magnitude.nearest? d = some m) :
    ofDecimal negative d = .finite negative m := by
  rw [ofDecimal_eq_elim, h, Option.elim_some]

/-- No decimal stands for what is not a number. -/
theorem ofDecimal_eq_infinite_or_finite (negative : Bool) (d : Decimal) :
    ofDecimal negative d = .infinite negative ∨ ∃ m, ofDecimal negative d = .finite negative m := by
  rw [ofDecimal_eq_elim]
  cases Magnitude.nearest? d with
  | none => exact .inl rfl
  | some m => exact .inr ⟨m, rfl⟩

end Number

end ExprLang
