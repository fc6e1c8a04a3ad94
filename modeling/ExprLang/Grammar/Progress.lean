import ExprLang.Grammar.Reads

/-!
# What reading leaves

Whatever a reading leaves is an end piece of the tokens it was given, and so is the place of a
fault; what is gone are tokens that expressions are made of. When a rule has been read, at least
one token is gone.

## Main definitions

* `Rule.operators`, `exprKinds`: the binary operators of a rule, and all the kinds of tokens in
  expressions.
* `Consumes`: one list is another without some tokens of expressions in front.
* `remaining`: the tokens that an outcome leaves.

## Main statements

* `Reads.consumes`, `Reads.length_lt`, `Reads.site`.
-/

namespace ExprLang

/-- The binary operators of the levels that a rule spans. -/
def Rule.operators (r : Rule) : List Kind :=
  r.levels.flatMap Level.operators

/-- The kinds of tokens that expressions are made of. -/
def exprKinds : List Kind :=
  .rightParen :: Grammar.primaryKinds ++ Grammar.unaryOperators ++ Rule.expression.operators

/-- The operators of every level are tokens of expressions. -/
theorem Level.operators_subset (level : Level) : level.operators ⊆ exprKinds := by
  cases level <;> decide

theorem Grammar.unaryOperators_subset : unaryOperators ⊆ exprKinds := by
  decide

theorem Grammar.literalKinds_subset : literalKinds ⊆ exprKinds := by
  decide

/-- Only tokens of the kinds of literals are read as literals. -/
theorem Grammar.mem_literalKinds {token : Token} {value : Value}
    (h : literal? token = some value) : token.kind ∈ literalKinds :=
  Decidable.byContradiction fun other => by
    rw [literal?_eq_none_iff.2 other] at h
    cases h

/-- Whether the tokens of expressions in front of one list leave the other. -/
def Consumes (tokens rest : List Token) : Prop :=
  ∃ used, tokens = used ++ rest ∧ ∀ token ∈ used, token.kind ∈ exprKinds

namespace Consumes

variable {token : Token} {tokens middle rest : List Token}

theorem refl (tokens : List Token) : Consumes tokens tokens :=
  ⟨[], rfl, by simp⟩

theorem cons (front : token.kind ∈ exprKinds) (h : Consumes tokens rest) :
    Consumes (token :: tokens) rest := by
  obtain ⟨used, rfl, plain⟩ := h
  exact ⟨token :: used, rfl, by simpa using ⟨front, plain⟩⟩

/-- What consumes first down to the middle and then from there on consumes all of it. -/
theorem trans (first : Consumes tokens middle) (second : Consumes middle rest) :
    Consumes tokens rest := by
  obtain ⟨a, rfl, ha⟩ := first
  obtain ⟨b, rfl, hb⟩ := second
  refine ⟨a ++ b, (List.append_assoc ..).symm, ?_⟩
  intro token mem
  exact (List.mem_append.1 mem).elim (ha token) (hb token)

/-- What is left after tokens have been consumed is a rear of what was there. -/
theorem isSuffix (h : Consumes tokens rest) : rest <:+ tokens := by
  obtain ⟨used, rfl, _⟩ := h
  exact List.suffix_append _ _

end Consumes

/-- The tokens that an outcome leaves. -/
def remaining : Except Failure (Expr × List Token) → List Token
  | .ok (_, rest) => rest
  | .error failure => failure.rest

namespace Reads

variable {limit : Int} {room : Nat} {task : Task} {r : Rule} {tokens rest : List Token}
  {tree : Expr} {failure : Failure} {outcome : Except Failure (Expr × List Token)}

/-- What is gone after a reading are tokens of expressions. -/
theorem consumes (h : Reads limit room task tokens outcome) :
    Consumes tokens (remaining outcome) := by
  -- Each way of reading takes off an operator, a literal or a parenthesis, or nothing, in front of
  -- what its parts take off.
  induction h with
  | expression _ ih | operand_failed _ _ ih | primary _ _ ih => exact ih
  | operand_read _ _ _ first second => exact first.trans second
  | chain_done | operand_missing => exact .refl _
  | @chain_failed _ level _ _ _ _ operator _ ih | @chain_tall _ level _ _ _ _ _ operator _ _ ih =>
    exact .cons (level.operators_subset operator) ih
  | @chain_read _ level _ _ _ _ _ _ operator _ _ _ first second =>
    exact .cons (level.operators_subset operator) (first.trans second)
  | unary_full operator => exact .cons (Grammar.unaryOperators_subset operator) (.refl _)
  | unary_failed operator _ ih | unary_tall operator _ _ ih | unary_read operator _ _ ih =>
    exact .cons (Grammar.unaryOperators_subset operator) ih
  | literal value =>
    exact .cons (Grammar.literalKinds_subset (Grammar.mem_literalKinds value)) (.refl _)
  | grouping_full opening => exact .cons (by rw [opening]; decide) (.refl _)
  | grouping_failed opening _ ih | grouping_unclosed opening _ _ ih =>
    exact .cons (by rw [opening]; decide) ih
  | grouping_tall opening _ closing _ ih | grouping_read opening _ closing _ ih =>
    exact .cons (by rw [opening]; decide) (ih.trans (.cons (by rw [closing]; decide) (.refl _)))

/-- Reading never leaves more tokens than there were. -/
theorem length_le (h : Reads limit room task tokens outcome) :
    (remaining outcome).length ≤ tokens.length :=
  h.consumes.isSuffix.length_le

/-- A rule that has been read took at least one token. -/
theorem length_lt (h : Reads limit room (.rule r) tokens (.ok (tree, rest))) :
    rest.length < tokens.length := by
  generalize which : Task.rule r = task, result : Except.ok (tree, rest) = outcome at h
  induction h generalizing r tree rest with
  | expression _ ih | primary _ _ ih => exact ih rfl result
  | operand_read _ _ chain first _ =>
    -- Only the first operand is sure to take a token. The chain behind it may take none.
    have := chain.length_le
    rw [← result] at this
    exact Nat.lt_of_le_of_lt this (first rfl rfl)
  | unary_read _ operand _ _ =>
    cases result
    exact Nat.lt_succ_of_le operand.length_le
  | literal => cases result; exact Nat.lt_succ_self _
  | grouping_read _ inner _ _ _ =>
    cases result
    have := inner.length_le
    simp only [remaining, List.length_cons] at this ⊢
    omega
  | chain_done | chain_read => cases which
  | _ => cases result

/-- The place of a fault is where reading stopped, or before it when a node is too tall. -/
theorem site (h : Reads limit room task tokens (.error failure)) :
    failure.site <:+ tokens ∧ Consumes failure.site failure.rest := by
  generalize result : Except.error failure = outcome at h
  induction h with
  | expression _ ih | primary _ _ ih | operand_failed _ _ ih => exact ih result
  | operand_read _ first _ _ ih =>
    have := ih result
    exact ⟨this.1.trans first.consumes.isSuffix, this.2⟩
  | chain_failed _ _ ih | unary_failed _ _ ih | grouping_failed _ _ ih =>
    have := ih result
    exact ⟨this.1.trans (List.suffix_cons _ _), this.2⟩
  | @chain_tall _ level _ _ _ _ _ operator right _ _ =>
    -- The fault is noticed at the operator, when its right operand has been read.
    cases result
    exact ⟨List.suffix_refl _, .cons (level.operators_subset operator) right.consumes⟩
  | chain_read _ right _ _ _ ih =>
    have := ih result
    exact ⟨(this.1.trans right.consumes.isSuffix).trans (List.suffix_cons _ _), this.2⟩
  | unary_tall operator operand _ _ =>
    cases result
    exact ⟨List.suffix_refl _, .cons (Grammar.unaryOperators_subset operator) operand.consumes⟩
  | unary_full | grouping_full => cases result; exact ⟨List.suffix_cons _ _, .refl _⟩
  | operand_missing => cases result; exact ⟨List.suffix_refl _, .refl _⟩
  | grouping_unclosed _ inner _ _ =>
    cases result
    exact ⟨inner.consumes.isSuffix.trans (List.suffix_cons _ _), .refl _⟩
  | grouping_tall _ inner closing _ _ =>
    cases result
    refine ⟨inner.consumes.isSuffix.trans (List.suffix_cons _ _), ?_⟩
    exact .cons (by rw [closing]; decide) (.refl _)
  | _ => cases result

end Reads

end ExprLang
