import ExprLang.Expr
import ExprLang.Proofs.Rounding

/-!
# Printing equal trees

Equal trees are printed alike, with one exception: a truth value equals the number that it counts
as, and the two are not printed alike. Numbers and integers of one amount are, however large they
are and whatever the sign of a zero is. So are all not-a-numbers, whichever objects they are.

## Main definitions

* `Magnitude.wholePart`: the integer that a whole number is.
* `Value.Confused`: a truth value on one side and a number on the other.
* `Expr.leafPairs`: the values at the same places of two trees.
* `Diverges`: texts that differ in a character behind the same beginning.

## Main statements

* `Number.quantity_eq_units_iff`, `Number.eq_or_zero_of_quantity_eq`: when amounts are the same.
* `Number.plain_eq_toString`: a number of a whole amount is printed as that integer.
* `Number.plain_eq_of_quantity_eq`: numbers of one amount are printed alike.
* `Value.render_of_equal`: equal values are printed alike or are confused.
* `Expr.render_of_equal`, `Expr.render_eq_iff_of_equal`: when equal trees are printed alike.
-/

namespace ExprLang

/-! ### Numbers -/

/-- A magnitude is given by its ticks. -/
theorem Magnitude.eq_of_ticks_eq {m m' : Magnitude} (h : m.ticks = m'.ticks) : m = m' := by
  cases m
  cases m'
  cases h
  rfl

/-- The whole number that a finite number rounds to, towards zero. -/
def Magnitude.wholePart (negative : Bool) (m : Magnitude) : Int :=
  if negative then -(m.floor : Int) else m.floor

/-- Whole amounts are equal when the integers are. -/
theorem Quantity.eq_of_units_eq {n k : Int}
    (h : finite (n * ticksPerUnit) = finite (k * ticksPerUnit)) : n = k := by
  have pos : (0 : Int) < ticksPerUnit := Int.natCast_pos.2 ticksPerUnit_pos
  exact Int.eq_of_mul_eq_mul_right (Int.ne_of_gt pos) (finite.inj h)

namespace Number

variable {a b number : Number} {m m' : Magnitude} {negative negative' : Bool} {n : Int}

/-- A whole number amounts to its whole part. -/
theorem quantity_of_isWhole (negative : Bool) (whole : m.isWhole = true) :
    (finite negative m).quantity = .finite (m.wholePart negative * ticksPerUnit) := by
  have ticks : m.ticks = m.floor * ticksPerUnit :=
    (Nat.div_mul_cancel (Nat.dvd_of_mod_eq_zero (of_decide_eq_true whole))).symm
  rw [quantity, Magnitude.wholePart, ticks, Int.natCast_mul]
  split
  · rw [Int.neg_mul]
  · rfl

/-- A finite number amounts to an integer when it is whole and that integer is its whole part. -/
theorem quantity_eq_units_iff : (finite negative m).quantity = .finite (n * ticksPerUnit) ↔
    m.isWhole = true ∧ m.wholePart negative = n := by
  constructor
  · intro same
    have divides : (ticksPerUnit : Int) ∣ m.ticks := by
      rw [quantity, Quantity.finite.injEq] at same
      split at same
      · exact Int.dvd_neg.1 ⟨n, same.trans (Int.mul_comm _ _)⟩
      · exact ⟨n, same.trans (Int.mul_comm _ _)⟩
    have whole : m.isWhole = true :=
      decide_eq_true (Nat.mod_eq_zero_of_dvd (Int.natCast_dvd_natCast.1 divides))
    exact ⟨whole, Quantity.eq_of_units_eq ((quantity_of_isWhole negative whole).symm.trans same)⟩
  · rintro ⟨whole, rfl⟩
    exact quantity_of_isWhole negative whole

/-- Finite numbers of one amount are the same, but for the sign of zero. -/
theorem quantity_finite_eq_iff : (finite negative m).quantity = (finite negative' m').quantity ↔
    m = m' ∧ (negative = negative' ∨ m.ticks = 0) := by
  rw [quantity, quantity, Quantity.finite.injEq]
  constructor
  · intro amounts
    have ticks : m.ticks = m'.ticks ∧ (negative = negative' ∨ m.ticks = 0) := by
      cases negative <;> cases negative' <;> simp at amounts ⊢ <;> omega
    exact ⟨Magnitude.eq_of_ticks_eq ticks.1, ticks.2⟩
  · rintro ⟨rfl, rfl | zero⟩
    · rfl
    · simp [zero]

/-- Numbers of one amount are the same, or both are zero. -/
theorem eq_or_zero_of_quantity_eq (same : a.quantity = b.quantity) :
    a = b ∨ ∃ negative negative' m, m.ticks = 0 ∧ a = finite negative m ∧
      b = finite negative' m := by
  cases a with
  | nan object =>
    cases b with
    | finite | infinite => cases same
    | nan object' =>
      cases same
      exact .inl rfl
  | infinite negative =>
    cases b with
    | finite | nan => cases same
    | infinite negative' =>
      cases same
      exact .inl rfl
  | finite negative m =>
    cases b with
    | infinite | nan => cases same
    | finite negative' m' =>
      obtain ⟨rfl, rfl | zero⟩ := quantity_finite_eq_iff.1 same
      · exact .inl rfl
      · exact .inr ⟨negative, negative', m, zero, rfl, rfl⟩

/-- An integer is printed with the digits of its amount and a sign if it is below zero. -/
theorem toString_eq_signed (n : Int) :
    toString n = signed (n < 0) (Nat.toDigits 10 n.natAbs) := by
  cases n with
  | ofNat k =>
    have sign : decide (Int.ofNat k < 0) = false :=
      decide_eq_false (Int.not_lt.2 (Int.natCast_nonneg k))
    rw [sign]
    rfl
  | negSucc k =>
    have sign : decide (Int.negSucc k < 0) = true := decide_eq_true (Int.negSucc_lt_zero k)
    rw [sign]
    show "-" ++ String.ofList (Nat.toDigits 10 (k + 1)) = _
    rw [signed, if_pos rfl, ← String.toList_inj, String.toList_append]
    simp

/-- The sign of a whole part is that of the number, except on zero. -/
theorem wholePart_lt_zero (negative : Bool) (m : Magnitude) :
    decide (m.wholePart negative < 0) = (negative && m.floor != 0) := by
  rw [Magnitude.wholePart]
  cases negative <;> cases m.floor <;> simp <;> omega

/-- A whole number is printed as its whole part. -/
theorem plain_of_isWhole (negative : Bool) (whole : m.isWhole = true) :
    (finite negative m).plain = toString (m.wholePart negative) := by
  have floor : (m.wholePart negative).natAbs = m.floor := by
    rw [Magnitude.wholePart]
    split
    · rw [Int.natAbs_neg, Int.natAbs_natCast]
    · rw [Int.natAbs_natCast]
  rw [toString_eq_signed, wholePart_lt_zero, floor, plain, if_pos whole]

/-- A number of a whole amount is printed as that integer. -/
theorem plain_eq_toString (h : number.quantity = .finite (n * ticksPerUnit)) :
    number.plain = toString n := by
  cases number with
  | infinite negative | nan => cases h
  | finite negative m =>
    obtain ⟨whole, rfl⟩ := quantity_eq_units_iff.1 h
    exact plain_of_isWhole negative whole

/-- Numbers of one amount are printed alike. -/
theorem plain_eq_of_quantity_eq (same : a.quantity = b.quantity) : a.plain = b.plain := by
  obtain rfl | ⟨negative, negative', m, zero, rfl, rfl⟩ := eq_or_zero_of_quantity_eq same
  · rfl
  · -- Zero is printed as the integer, whichever sign it has.
    have nothing : (finite negative m).quantity = .finite (0 * ticksPerUnit) := by
      rw [quantity, zero, Int.zero_mul]
      cases negative <;> rfl
    rw [plain_eq_toString nothing, plain_eq_toString (same.symm.trans nothing)]

end Number

/-! ### Values -/

namespace Value

/-- Whether the value is a truth value. -/
def isBool : Value → Bool
  | .bool _ => true
  | _ => false

/-- Whether the value is a number or an integer. -/
def isNumeric : Value → Bool
  | .number _ | .integer _ => true
  | _ => false

/-- Whether one of two values is a truth value and the other a number. -/
def Confused (v w : Value) : Prop :=
  v.isBool ∧ w.isNumeric ∨ v.isNumeric ∧ w.isBool

instance (v w : Value) : Decidable (v.Confused w) :=
  inferInstanceAs (Decidable (_ ∨ _))

/-- What is printed for a truth value and for the number that it counts as. -/
def confusedTexts : List (String × String) :=
  [("true", "1"), ("1", "true"), ("false", "0"), ("0", "false")]

variable {v w : Value} {q : Quantity}

/-- Values are equal when they are the same and no quantities, or have one amount. -/
theorem equal_iff : v.equal w = true ↔
    (v.quantity? = none ∧ w.quantity? = none ∧ v = w) ∨
      ∃ q, v.quantity? = some q ∧ w.quantity? = some q := by
  unfold equal
  cases left : v.quantity? with
  | none => cases right : w.quantity? <;> simp
  | some p =>
    cases right : w.quantity? with
    | none => simp
    | some q =>
      constructor
      · intro same
        obtain rfl := of_decide_eq_true same
        exact .inr ⟨p, rfl, rfl⟩
      · rintro (⟨⟨⟩, -⟩ | ⟨_, ⟨⟩, ⟨⟩⟩)
        exact decide_eq_true rfl

/-- A value that amounts to something is a truth value or a number. -/
theorem isBool_or_isNumeric (h : v.quantity? = some q) : v.isBool = true ∨ v.isNumeric = true := by
  cases v with
  | nil | text => cases h
  | bool => exact .inl rfl
  | number | integer => exact .inr rfl

theorem isNumeric_eq_false (h : v.isBool = true) : v.isNumeric = false := by
  cases v with
  | bool => rfl
  | nil | text | number | integer => cases h

/-- Numbers and integers of one amount are printed alike. -/
theorem render_eq_of_isNumeric (left : v.isNumeric = true) (right : w.isNumeric = true)
    (hv : v.quantity? = some q) (hw : w.quantity? = some q) : v.render = w.render := by
  cases v with
  | nil | bool | text => cases left
  | number a =>
    obtain rfl := Option.some.inj hv
    cases w with
    | nil | bool | text => cases right
    | number b => exact Number.plain_eq_of_quantity_eq (Option.some.inj hw).symm
    | integer k => exact Number.plain_eq_toString (Option.some.inj hw).symm
  | integer n =>
    obtain rfl := Option.some.inj hv
    cases w with
    | nil | bool | text => cases right
    | number b => exact (Number.plain_eq_toString (Option.some.inj hw)).symm
    | integer k =>
      rw [Quantity.eq_of_units_eq (Option.some.inj hw)]

/-- A truth value has the amount of one or of zero. -/
theorem quantity?_bool (b : Bool) :
    (bool b).quantity? = (integer (if b then 1 else 0)).quantity? := by
  cases b with
  | true => rw [quantity?, quantity?, if_pos rfl, if_pos rfl, Int.one_mul]
  | false =>
    rw [quantity?, quantity?, if_neg Bool.false_ne_true, if_neg Bool.false_ne_true, Int.zero_mul]

/-- Truth values of one amount are the same. -/
theorem eq_of_isBool (left : v.isBool = true) (right : w.isBool = true)
    (hv : v.quantity? = some q) (hw : w.quantity? = some q) : v = w := by
  cases v with
  | nil | text | number | integer => cases left
  | bool b =>
    cases w with
    | nil | text | number | integer => cases right
    | bool c =>
      rw [quantity?_bool] at hv hw
      have same := Quantity.eq_of_units_eq (Option.some.inj (hv.trans hw.symm))
      have apart : ∀ b c : Bool, (if b then (1 : Int) else 0) = (if c then 1 else 0) → b = c := by
        decide
      rw [apart b c same]

/-- What is printed for a truth value and for a number of its amount. -/
theorem render_of_isBool (left : v.isBool = true) (right : w.isNumeric = true)
    (hv : v.quantity? = some q) (hw : w.quantity? = some q) :
    ∃ b : Bool, v.render = (bool b).render ∧ w.render = if b then "1" else "0" := by
  cases v with
  | nil | text | number | integer => cases left
  | bool b =>
    rw [quantity?_bool] at hv
    have printed := render_eq_of_isNumeric rfl right hv hw
    refine ⟨b, rfl, printed.symm.trans ?_⟩
    cases b <;> rfl

/-- Equal values are printed alike, or a truth value is confused with one or with zero. -/
theorem render_of_equal (same : v.equal w = true) :
    (¬ v.Confused w ∧ v.render = w.render) ∨
      (v.Confused w ∧ (v.render, w.render) ∈ confusedTexts) := by
  obtain ⟨-, -, rfl⟩ | ⟨q, hv, hw⟩ := equal_iff.1 same
  · refine .inl ⟨?_, rfl⟩
    cases v <;> simp [Confused, isBool, isNumeric]
  obtain left | left := isBool_or_isNumeric hv <;> obtain right | right := isBool_or_isNumeric hw
  · refine .inl ⟨?_, congrArg render (eq_of_isBool left right hv hw)⟩
    simp [Confused, isNumeric_eq_false left, isNumeric_eq_false right]
  · obtain ⟨b, printed, printed'⟩ := render_of_isBool left right hv hw
    refine .inr ⟨.inl ⟨left, right⟩, ?_⟩
    rw [printed, printed']
    cases b <;> decide
  · obtain ⟨b, printed, printed'⟩ := render_of_isBool right left hw hv
    refine .inr ⟨.inr ⟨left, right⟩, ?_⟩
    rw [printed, printed']
    cases b <;> decide
  · refine .inl ⟨?_, render_eq_of_isNumeric left right hv hw⟩
    rintro (⟨truth, -⟩ | ⟨-, truth⟩)
    · rw [isNumeric_eq_false truth] at left
      cases left
    · rw [isNumeric_eq_false truth] at right
      cases right

end Value

/-! ### Texts -/

/-- Whether two texts differ in a character behind the same beginning. -/
def Diverges (a b : String) : Prop :=
  ∃ front c d behind behind', c ≠ d ∧
    a.toList = front ++ c :: behind ∧ b.toList = front ++ d :: behind'

namespace Diverges

variable {a b : String}

/-- Texts that diverge are different. -/
theorem ne (h : Diverges a b) : a ≠ b := by
  rintro rfl
  obtain ⟨front, c, d, behind, behind', other, left, right⟩ := h
  have same := List.append_cancel_left (left.symm.trans right)
  exact other (List.cons.inj same).1

/-- Texts that diverge still do behind the same text. -/
theorem prepend (h : Diverges a b) (text : String) : Diverges (text ++ a) (text ++ b) := by
  obtain ⟨front, c, d, behind, behind', other, left, right⟩ := h
  refine ⟨text.toList ++ front, c, d, behind, behind', other, ?_, ?_⟩
  · rw [String.toList_append, left, List.append_assoc]
  · rw [String.toList_append, right, List.append_assoc]

/-- Texts that diverge still do whatever is put behind them. -/
theorem append (h : Diverges a b) (text text' : String) : Diverges (a ++ text) (b ++ text') := by
  obtain ⟨front, c, d, behind, behind', other, left, right⟩ := h
  refine ⟨front, c, d, behind ++ text.toList, behind' ++ text'.toList, other, ?_, ?_⟩
  · rw [String.toList_append, left, List.append_assoc, List.cons_append]
  · rw [String.toList_append, right, List.append_assoc, List.cons_append]

/-- What is printed for a truth value and for its number diverges from the first character on. -/
theorem of_mem_confusedTexts (h : (a, b) ∈ Value.confusedTexts) : Diverges a b := by
  simp only [Value.confusedTexts, List.mem_cons, Prod.mk.injEq, List.not_mem_nil, or_false] at h
  obtain ⟨rfl, rfl⟩ | ⟨rfl, rfl⟩ | ⟨rfl, rfl⟩ | ⟨rfl, rfl⟩ := h
  · exact ⟨[], 't', '1', ['r', 'u', 'e'], [], by decide, rfl, rfl⟩
  · exact ⟨[], '1', 't', [], ['r', 'u', 'e'], by decide, rfl, rfl⟩
  · exact ⟨[], 'f', '0', ['a', 'l', 's', 'e'], [], by decide, rfl, rfl⟩
  · exact ⟨[], '0', 'f', [], ['a', 'l', 's', 'e'], by decide, rfl, rfl⟩

end Diverges

/-! ### Trees -/

/-- Equal tokens are printed alike, since only their texts are. -/
theorem Token.lexeme_eq_of_equal {a b : Token} (h : a.equal b = true) : a.lexeme = b.lexeme := by
  unfold equal at h
  simp only [Bool.and_eq_true, decide_eq_true_eq] at h
  exact h.1.1.2

namespace Expr

/-- The values at the same places of two trees of one shape, from left to right. -/
def leafPairs : Expr → Expr → List (Value × Value)
  | .literal v, .literal w => [(v, w)]
  | .grouping a, .grouping b => a.leafPairs b
  | .unary _ a, .unary _ b => a.leafPairs b
  | .binary a _ b, .binary c _ d => a.leafPairs c ++ b.leafPairs d
  | _, _ => []

variable {a b : Expr}

/-- Equal trees have equal values at the same places. -/
theorem equal_of_mem_leafPairs (same : a.equal b = true) :
    ∀ pair ∈ a.leafPairs b, pair.1.equal pair.2 = true := by
  fun_induction equal a b with
  | case1 v w => simpa [leafPairs] using same
  | case2 a b ih => exact ih same
  | case3 p a q b ih => exact ih (Bool.and_eq_true_iff.1 same).2
  | case4 a p b c q d first second =>
    simp only [Bool.and_eq_true] at same
    obtain ⟨⟨left, -⟩, right⟩ := same
    intro pair mem
    exact (List.mem_append.1 mem).elim (first left pair) (second right pair)
  | case5 => cases same

/-- Equal trees are printed alike, or a truth value is confused with a number somewhere, and then
the first place at which one is tells the texts apart. -/
theorem render_of_equal (same : a.equal b = true) :
    ((∀ pair ∈ a.leafPairs b, ¬ pair.1.Confused pair.2) ∧ a.render = b.render) ∨
      ((∃ pair ∈ a.leafPairs b, pair.1.Confused pair.2) ∧ Diverges a.render b.render) := by
  fun_induction equal a b with
  | case1 v w =>
    obtain ⟨clear, alike⟩ | ⟨confused, texts⟩ := Value.render_of_equal same
    · exact .inl ⟨List.forall_mem_singleton.2 clear, alike⟩
    · exact .inr ⟨⟨_, List.mem_singleton_self _, confused⟩, .of_mem_confusedTexts texts⟩
  | case2 a b ih =>
    obtain ⟨clear, alike⟩ | ⟨confused, apart⟩ := ih same
    · refine .inl ⟨clear, ?_⟩
      rw [render, render, alike]
    · exact .inr ⟨confused, (apart.prepend _).append _ _⟩
  | case3 p a q b ih =>
    obtain ⟨operators, operands⟩ := Bool.and_eq_true_iff.1 same
    rw [render, render, Token.lexeme_eq_of_equal operators]
    obtain ⟨clear, alike⟩ | ⟨confused, apart⟩ := ih operands
    · refine .inl ⟨clear, ?_⟩
      rw [alike]
    · exact .inr ⟨confused, (apart.prepend _).append _ _⟩
  -- The left operands decide if they are told apart, and else the right ones.
  | case4 a p b c q d first second =>
    simp only [Bool.and_eq_true] at same
    obtain ⟨⟨left, operators⟩, right⟩ := same
    rw [render, render, Token.lexeme_eq_of_equal operators]
    obtain ⟨clear, alike⟩ | ⟨⟨pair, mem, confused⟩, apart⟩ := first left
    · obtain ⟨clear', alike'⟩ | ⟨⟨pair, mem, confused⟩, apart⟩ := second right
      · refine .inl ⟨fun pair mem => ?_, ?_⟩
        · exact (List.mem_append.1 mem).elim (clear pair) (clear' pair)
        · rw [alike, alike']
      · -- The left operands are printed alike, and the texts part in the right ones.
        rw [alike]
        exact .inr ⟨⟨pair, List.mem_append_right _ mem, confused⟩, (apart.prepend _).append _ _⟩
    · refine .inr ⟨⟨pair, List.mem_append_left _ mem, confused⟩, ?_⟩
      exact (((apart.prepend _).append _ _).append _ _).append _ _
  | case5 => cases same

/-- Equal trees are printed alike exactly when at no place one of them has a truth value and the
other a number. Where they do, the one is printed as `true` and the other as `1`, or the one as
`false` and the other as `0`. -/
theorem render_eq_iff_of_equal (a b : Expr) (same : a.equal b = true) :
    (a.render = b.render ↔ ∀ pair ∈ a.leafPairs b, ¬ pair.1.Confused pair.2) ∧
      ∀ pair ∈ a.leafPairs b, pair.1.Confused pair.2 →
        (pair.1.render, pair.2.render) ∈ Value.confusedTexts := by
  constructor
  · obtain ⟨clear, alike⟩ | ⟨⟨pair, mem, confused⟩, apart⟩ := render_of_equal same
    · exact ⟨fun _ => clear, fun _ => alike⟩
    · exact ⟨fun alike => absurd alike apart.ne, fun clear => absurd confused (clear pair mem)⟩
  · intro pair mem confused
    obtain ⟨clear, -⟩ | ⟨-, texts⟩ := Value.render_of_equal (equal_of_mem_leafPairs same pair mem)
    · exact absurd confused clear
    · exact texts

/-- The number next to ten to the power of 23 and minus zero are printed like the integers of their
amounts. The truth value that minus zero is equal to as well is not printed like it. -/
theorem render_eq_iff_of_equal_large :
    let minus : Token := ⟨.minus, "-", .nil, 1⟩
    let a : Expr := .binary (.literal (.number (.ofDecimal false ⟨1, 23⟩))) minus
      (.literal (.number (.ofDecimal true ⟨0, 0⟩)))
    let b : Expr := .binary (.literal (.integer 99999999999999991611392)) minus
      (.literal (.integer 0))
    let c : Expr := .binary (.literal (.integer 99999999999999991611392)) minus
      (.literal (.bool false))
    a.equal b = true ∧ a.render = b.render ∧ a.equal c = true ∧ a.render ≠ c.render := by
  intro minus a b c
  have same : a.equal b = true := by decide +kernel
  have same' : a.equal c = true := by decide +kernel
  have clear : ∀ pair ∈ a.leafPairs b, ¬ pair.1.Confused pair.2 := by decide +kernel
  have confused : ¬ ∀ pair ∈ a.leafPairs c, ¬ pair.1.Confused pair.2 := by decide +kernel
  exact ⟨same, (render_eq_iff_of_equal a b same).1.2 clear, same',
    fun alike => confused ((render_eq_iff_of_equal a c same').1.1 alike)⟩

end Expr

end ExprLang
