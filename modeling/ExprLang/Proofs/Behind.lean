import ExprLang.Grammar.Progress

/-!
# Tokens behind an expression

What is read of some tokens does not depend on the tokens behind them, as long as no expression can
go on there.

## Main definitions

* `leaving`: an outcome with further tokens behind the ones it was reached on.

## Main statements

* `Reads.append`, `Rule.read_append`: reading with further tokens behind.
-/

namespace ExprLang

/-- The outcome that leaves further tokens behind those of the given one. -/
def leaving (behind : List Token) :
    Except Failure (Expr × List Token) → Except Failure (Expr × List Token)
  | .ok (tree, rest) => .ok (tree, rest ++ behind)
  | .error failure =>
    .error ⟨failure.cause, failure.site ++ behind, failure.rest ++ behind⟩

/-- Tokens that cannot go on with some kinds cannot do so either when something that no expression
begins with stands behind them, even if they are none. -/
theorem not_beginsWith_of_append {kinds : List Kind} {tokens behind : List Token}
    (subset : kinds ⊆ exprKinds) (stop : ¬ BeginsWith exprKinds behind)
    (h : ¬ BeginsWith kinds tokens) : ¬ BeginsWith kinds (tokens ++ behind) := by
  cases tokens with
  | nil =>
    cases behind with
    | nil => exact h
    | cons token rest => exact fun mem => stop (subset mem)
  | cons token rest => exact h

theorem Grammar.primaryKinds_subset : primaryKinds ⊆ exprKinds := by
  decide

/-- Tokens that no expression can go on with are left as they are. -/
theorem Reads.append {limit : Int} {room : Nat} {task : Task} {tokens behind : List Token}
    {outcome : Except Failure (Expr × List Token)} (h : Reads limit room task tokens outcome)
    (stop : ¬ BeginsWith exprKinds behind) :
    Reads limit room task (tokens ++ behind) (leaving behind outcome) := by
  -- The conditions on the next token hold behind the tokens as well, since nothing there goes on
  -- with an expression.
  induction h with
  | expression _ ih => exact .expression ih
  | operand_failed level _ ih => exact .operand_failed level ih
  | operand_read level _ _ first second => exact .operand_read level first second
  | @chain_done _ level _ _ done =>
    exact .chain_done (not_beginsWith_of_append level.operators_subset stop done)
  | chain_failed operator _ ih => exact .chain_failed operator ih
  | chain_tall operator _ tall ih => exact .chain_tall operator ih tall
  | chain_read operator _ fits _ first second => exact .chain_read operator first fits second
  | unary_full operator => exact .unary_full operator
  | unary_failed operator _ ih => exact .unary_failed operator ih
  | unary_tall operator _ tall ih => exact .unary_tall operator ih tall
  | unary_read operator _ fits ih => exact .unary_read operator ih fits
  | primary other _ ih =>
    exact .primary (not_beginsWith_of_append Grammar.unaryOperators_subset stop other) ih
  | literal value => exact .literal value
  | operand_missing missing =>
    exact .operand_missing (not_beginsWith_of_append Grammar.primaryKinds_subset stop missing)
  | grouping_full opening => exact .grouping_full opening
  | grouping_failed opening _ ih => exact .grouping_failed opening ih
  | grouping_unclosed opening _ open_ ih =>
    refine .grouping_unclosed opening ih (not_beginsWith_of_append ?_ stop open_)
    decide
  | grouping_tall opening _ closing tall ih => exact .grouping_tall opening ih closing tall
  | grouping_read opening _ closing fits ih => exact .grouping_read opening ih closing fits

/-- Reading does not look behind a token that no expression can hold: the same is left, with what
stands behind it. -/
theorem Rule.read_append {r : Rule} {limit : Int} {room : Nat} {tokens behind : List Token}
    (stop : ¬ BeginsWith exprKinds behind) :
    r.read limit room (tokens ++ behind) = leaving behind (r.read limit room tokens) :=
  ((reads_read limit room (.rule r) tokens).append stop).read_eq

end ExprLang
