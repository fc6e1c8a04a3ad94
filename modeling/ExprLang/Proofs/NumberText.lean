import ExprLang.Expr
import ExprLang.Proofs.Delimited
import ExprLang.Proofs.Rounding

/-!
# Reading printed numbers

A finite number that is not negative is printed as a numeral, and scanning the numeral gives the
number back. The numeral is the exact whole number or the fewest digits that read back, in
positional notation, and either is rounded to the number.

## Main definitions

* `IsNumeral`: digits, or digits on both sides of a point.

## Main statements

* `Decimal.lexeme_positional`: positional notation is a number lexeme for its decimal.
* `Number.lexeme_plain`: the printed form is a number lexeme for the number.
* `scan_render_number`: scanning what is printed for a number.
-/

namespace ExprLang

variable {text : List Char} {value : Value}

/-- Whether a text is digits, or digits on both sides of a point. -/
def IsNumeral (text : List Char) : Prop :=
  ∃ whole ≠ [], (∀ c ∈ whole, c.isDigit = true) ∧
    (text = whole ∨ ∃ places ≠ [], (∀ c ∈ places, c.isDigit = true) ∧ text = whole ++ '.' :: places)

/-- A number lexeme is a numeral, and it stands for a number that is not negative. -/
theorem Lexeme.of_number (h : Lexeme .number text value) : IsNumeral text ∧
    (value = .number (.infinite false) ∨ ∃ m, value = .number (.finite false m)) := by
  have number (d : Decimal) : Value.number (.ofDecimal false d) = .number (.infinite false) ∨
      ∃ m, Value.number (.ofDecimal false d) = .number (.finite false m) := by
    rcases Number.ofDecimal_eq_infinite_or_finite false d with infinite | ⟨m, finite⟩
    · exact .inl (congrArg Value.number infinite)
    · exact .inr ⟨m, congrArg Value.number finite⟩
  cases h with
  | symbol mem => exact absurd (by decide) (Kind.symbols_apart mem)
  | short mem => exact absurd (by decide) (Kind.operators_apart mem).1
  | long mem => exact absurd (by decide) (Kind.operators_apart mem).2
  | integer some all => exact ⟨⟨_, some, all, .inl rfl⟩, number _⟩
  | decimal some all some' all' => exact ⟨⟨_, some, all, .inr ⟨_, some', all', rfl⟩⟩, number _⟩

/-! ### Digits -/

theorem isDigit_digitChar : ∀ d < 10, (Nat.digitChar d).isDigit = true := by decide

/-- A natural number is written with digits. -/
theorem isDigit_of_mem_toDigits {n : Nat} : ∀ c ∈ Nat.toDigits 10 n, c.isDigit = true := by
  induction n using Nat.strong_induction_on with
  | _ n ih =>
    intro c mem
    rw [Nat.toDigits_eq_if (by decide)] at mem
    split at mem
    · next small =>
      rw [List.mem_singleton.1 mem]
      exact isDigit_digitChar n small
    · rcases List.mem_append.1 mem with front | last
      · exact ih (n / 10) (by omega) c front
      · rw [List.mem_singleton.1 last]
        exact isDigit_digitChar _ (Nat.mod_lt _ (by decide))

/-! ### Positional notation -/

namespace Decimal

theorem isDigit_of_mem_zeros {n : Nat} {c : Char} (mem : c ∈ List.replicate n '0') :
    c.isDigit = true := by
  rw [List.eq_of_mem_replicate mem]
  rfl

/-- Digits in front of the places that a negative exponent takes off. -/
theorem lexeme_split {d : Decimal} {padded : List Char} {n : Nat} (exponent : d.exponent = -n)
    (pos : 0 < n) (long : n < padded.length) (all : ∀ c ∈ padded, c.isDigit = true)
    (coefficient : Nat.ofDigitChars 10 padded 0 = d.coefficient) :
    Lexeme .number
      (padded.take (padded.length - n) ++ '.' :: padded.drop (padded.length - n))
      (.number (.ofDecimal false d)) := by
  -- The point changes the exponent and not the digits.
  have same : ofDigits (padded.take (padded.length - n)) (padded.drop (padded.length - n)) = d := by
    have count : (padded.drop (padded.length - n)).length = n := by
      rw [List.length_drop]
      omega
    rw [ofDigits, List.take_append_drop, coefficient, count, ← exponent]
  rw [← same]
  refine .decimal ?_ (fun c mem => all c (List.mem_of_mem_take mem)) ?_
    (fun c mem => all c (List.mem_of_mem_drop mem))
  · rw [← List.length_pos_iff, List.length_take]
    omega
  · rw [← List.length_pos_iff, List.length_drop]
    omega

/-- Positional notation is a numeral for the decimal. -/
theorem lexeme_positional (d : Decimal) :
    Lexeme .number d.positional (.number (.ofDecimal false d)) := by
  have all : ∀ c ∈ d.digits, c.isDigit = true := fun c mem => isDigit_of_mem_toDigits c mem
  have some : d.digits ≠ [] := Nat.toDigits_ne_nil
  have coefficient : Nat.ofDigitChars 10 d.digits 0 = d.coefficient := Nat.ofDigitChars_ten_toDigits
  unfold positional
  simp only
  split
  · next whole =>
    -- No places: the zeros behind the digits multiply the coefficient.
    have value : ofDigits (d.digits ++ List.replicate d.exponent.toNat '0') [] =
        ⟨Nat.pow 10 d.exponent.toNat * d.coefficient, 0⟩ := by
      rw [ofDigits, List.append_nil, Nat.ofDigitChars_append, Nat.ofDigitChars_replicate_zero,
        coefficient]
      rfl
    have exponent : (d.exponent.toNat : Int) = d.exponent := by omega
    have same := Magnitude.nearest?_shift d.coefficient d.exponent.toNat
    rw [exponent, ← value] at same
    rw [Number.ofDecimal_congr same]
    refine .integer (by simp [some]) fun c mem => ?_
    exact (List.mem_append.1 mem).elim (all c) isDigit_of_mem_zeros
  · next fraction =>
    refine lexeme_split (by omega) (Nat.pos_of_ne_zero fraction) ?_ ?_ ?_
    · rw [List.length_append, List.length_replicate]
      omega
    · intro c mem
      exact (List.mem_append.1 mem).elim isDigit_of_mem_zeros (all c)
    · rw [Nat.ofDigitChars_append, Nat.ofDigitChars_replicate_zero, Nat.mul_zero, coefficient]

end Decimal

/-- Without a sign the text is the digits. -/
theorem Number.toList_signed_false : (signed false text).toList = text :=
  String.toList_ofList

/-- What is printed for a number that is finite and not negative is a numeral for it. -/
theorem Number.lexeme_plain (m : Magnitude) :
    Lexeme .number (plain (.finite false m)).toList (.number (.finite false m)) := by
  unfold plain
  simp only
  split
  · next whole =>
    have value : Decimal.ofDigits (Nat.toDigits 10 m.floor) [] = ⟨m.floor, 0⟩ := by
      rw [Decimal.ofDigits, List.append_nil, Nat.ofDigitChars_ten_toDigits]
      rfl
    rw [← ofDecimal_of_nearest? (Magnitude.nearest?_floor whole), ← value, Bool.false_and,
      toList_signed_false]
    exact .integer Nat.toDigits_ne_nil isDigit_of_mem_toDigits
  · rw [← ofDecimal_of_nearest? m.nearest?_shortest, toList_signed_false]
    exact m.shortest.lexeme_positional

/-! ### Scanning -/

/-- A number that is finite and not negative is printed as a numeral, and scanning the numeral gives
the number back, so that printing it once more gives the same text. All numbers in sources are of
this form, unless they are too large. -/
theorem scan_render_number :
    (∀ m : Magnitude,
      let text := (Expr.literal (.number (.finite false m))).render
      IsNumeral text.toList ∧
      scan text = ⟨[⟨.number, text, .number (.finite false m), 1⟩, .endOfInput 1], []⟩ ∧
      ∀ token ∈ (scan text).tokens, token.kind = .number →
        (Expr.literal token.literal).render = text) ∧
    ∀ source, ∀ token ∈ (scan source).tokens, token.kind = .number →
      token.literal = .number (.infinite false) ∨
        ∃ m, token.literal = .number (.finite false m) := by
  refine ⟨fun m => ?_, fun source token mem number => ?_⟩
  · have lexeme := Number.lexeme_plain m
    have scanned := (ScansAs.lexeme lexeme (by decide)).scan_eq
    rw [String.ofList_toList] at scanned
    refine ⟨lexeme.of_number.1, scanned, fun token mem number => ?_⟩
    change token ∈ (scan (Number.plain (.finite false m))).tokens at mem
    rw [scanned, List.singleton_append, List.mem_pair] at mem
    rcases mem with rfl | rfl
    · rfl
    · cases number
  · have inside : token.isEnd = false := by
      rw [Token.isEnd, number]
      rfl
    obtain ⟨text, -, lexeme⟩ := exists_lexeme_of_mem_scan mem inside
    rw [number] at lexeme
    exact lexeme.of_number.2

end ExprLang
