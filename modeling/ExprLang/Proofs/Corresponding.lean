import ExprLang.Grammar.Reads
import Mathlib.Data.List.Forall2

/-!
# Reading corresponding tokens

Only the kinds of tokens tell how they are read. When two lists correspond token by token, in any
relation of tokens of one kind, they are read alike: the same task is done with both or fails with
both, what is left corresponds, and so do the trees, which are made from corresponding tokens.

## Main definitions

* `KindPreserving`: relations of tokens of one kind.
* `Expr.Corresponds`: trees of one shape, made from corresponding tokens.
* `Failure.Corresponds`, `OutcomesCorrespond`: faults and outcomes of reading.

## Main statements

* `Expr.Corresponds.height_eq`: such trees are equally tall.
* `Reads.corresponds`: corresponding tokens are read alike.
-/

namespace ExprLang

/-- Whether a relation is one of tokens of the same kind. -/
def KindPreserving (R : Token → Token → Prop) : Prop :=
  ∀ a b, R a b → a.kind = b.kind

/-- Whether two trees have the same shape, with literals and operators from corresponding tokens. -/
inductive Expr.Corresponds (R : Token → Token → Prop) : Expr → Expr → Prop where
  | literal {a b : Token} {v w : Value} :
      R a b → Grammar.literal? a = some v → Grammar.literal? b = some w →
      Corresponds R (.literal v) (.literal w)
  | grouping {inner inner' : Expr} :
      Corresponds R inner inner' → Corresponds R (.grouping inner) (.grouping inner')
  | unary {operator operator' : Token} {operand operand' : Expr} :
      R operator operator' → Corresponds R operand operand' →
      Corresponds R (.unary operator operand) (.unary operator' operand')
  | binary {operator operator' : Token} {left left' right right' : Expr} :
      Corresponds R left left' → R operator operator' → Corresponds R right right' →
      Corresponds R (.binary left operator right) (.binary left' operator' right')

/-- Whether two faults are the same but for corresponding tokens. -/
structure Failure.Corresponds (R : Token → Token → Prop) (failure failure' : Failure) : Prop where
  cause_eq : failure.cause = failure'.cause
  site : List.Forall₂ R failure.site failure'.site
  rest : List.Forall₂ R failure.rest failure'.rest

/-- Whether two readings have come to the same but for corresponding tokens. -/
inductive OutcomesCorrespond (R : Token → Token → Prop) :
    Except Failure (Expr × List Token) → Except Failure (Expr × List Token) → Prop where
  | tree {tree tree' : Expr} {rest rest' : List Token} :
      tree.Corresponds R tree' → List.Forall₂ R rest rest' →
      OutcomesCorrespond R (.ok (tree, rest)) (.ok (tree', rest'))
  | fault {failure failure' : Failure} :
      failure.Corresponds R failure' → OutcomesCorrespond R (.error failure) (.error failure')

/-- Whether two tasks are the same but for corresponding tokens. -/
inductive Task.Corresponds (R : Token → Token → Prop) : Task → Task → Prop where
  | rule (r : Rule) : Corresponds R (.rule r) (.rule r)
  | chain {left left' : Expr} (level : Level) :
      left.Corresponds R left' → Corresponds R (.chain level left) (.chain level left')

variable {R : Token → Token → Prop}

/-- Trees of one shape are equally tall. -/
theorem Expr.Corresponds.height_eq {tree tree' : Expr} (h : tree.Corresponds R tree') :
    tree.height = tree'.height := by
  induction h with
  | literal _ _ _ => rfl
  | grouping _ ih | unary _ _ ih => rw [height, height, ih]
  | binary _ _ _ first second => rw [height, height, first, second]

/-- Corresponding tokens begin with the same kinds. -/
theorem KindPreserving.beginsWith_iff (same : KindPreserving R) {kinds : List Kind}
    {tokens tokens' : List Token} (h : List.Forall₂ R tokens tokens') :
    BeginsWith kinds tokens ↔ BeginsWith kinds tokens' := by
  cases h with
  | nil => exact Iff.rfl
  | cons first _ => rw [beginsWith_cons, beginsWith_cons, same _ _ first]

/-- A token of the kind of a literal is a literal. -/
theorem KindPreserving.exists_literal? (same : KindPreserving R) {a b : Token} (related : R a b)
    {value : Value} (h : Grammar.literal? a = some value) :
    ∃ value', Grammar.literal? b = some value' := by
  refine Option.ne_none_iff_exists'.1 fun none => ?_
  rw [Grammar.literal?_eq_none_iff, ← same a b related, ← Grammar.literal?_eq_none_iff, h] at none
  cases none

/-- Corresponding tokens are read alike. -/
theorem Reads.corresponds (same : KindPreserving R) {limit : Int} {room : Nat} {task task' : Task}
    {tokens tokens' : List Token} {outcome : Except Failure (Expr × List Token)}
    (h : Reads limit room task tokens outcome) (tasks : task.Corresponds R task')
    (lists : List.Forall₂ R tokens tokens') :
    ∃ outcome', Reads limit room task' tokens' outcome' ∧
      OutcomesCorrespond R outcome outcome' := by
  -- One case for each way of reading: the conditions look at kinds and at heights only, which
  -- correspond, so the same way is open for the other tokens.
  induction h generalizing task' tokens' with
  | expression _ ih =>
    cases tasks
    obtain ⟨outcome', reads, agree⟩ := ih (.rule _) lists
    exact ⟨outcome', .expression reads, agree⟩
  | operand_failed level _ ih =>
    cases tasks
    obtain ⟨_, reads, ⟨⟩ | fault⟩ := ih (.rule _) lists
    exact ⟨_, .operand_failed level reads, .fault fault⟩
  | operand_read level _ _ first second =>
    cases tasks
    obtain ⟨_, reads, ⟨left, rest⟩ | _⟩ := first (.rule _) lists
    obtain ⟨outcome', reads', agree⟩ := second (.chain level left) rest
    exact ⟨outcome', .operand_read level reads reads', agree⟩
  | chain_done stops =>
    obtain ⟨⟩ | ⟨_, left⟩ := tasks
    exact ⟨_, .chain_done (mt (same.beginsWith_iff lists).2 stops), .tree left lists⟩
  | chain_failed operator _ ih =>
    obtain ⟨⟩ | ⟨_, left⟩ := tasks
    obtain ⟨⟩ | ⟨first, rest⟩ := lists
    rw [same _ _ first] at operator
    obtain ⟨_, reads, ⟨⟩ | fault⟩ := ih (.rule _) rest
    exact ⟨_, .chain_failed operator reads, .fault fault⟩
  | chain_tall operator _ tall ih =>
    obtain ⟨⟩ | ⟨_, left⟩ := tasks
    obtain ⟨⟩ | ⟨first, rest⟩ := lists
    rw [same _ _ first] at operator
    obtain ⟨_, reads, ⟨right, behind⟩ | _⟩ := ih (.rule _) rest
    -- Trees of one shape are equally tall, and so both are too tall.
    rw [(Expr.Corresponds.binary left first right).height_eq] at tall
    exact ⟨_, .chain_tall operator reads tall, .fault ⟨rfl, .cons first rest, behind⟩⟩
  | chain_read operator _ fits _ ih ih' =>
    obtain ⟨⟩ | ⟨_, left⟩ := tasks
    obtain ⟨⟩ | ⟨first, rest⟩ := lists
    rw [same _ _ first] at operator
    obtain ⟨_, reads, ⟨right, behind⟩ | _⟩ := ih (.rule _) rest
    have node := Expr.Corresponds.binary left first right
    rw [node.height_eq] at fits
    obtain ⟨outcome', reads', agree⟩ := ih' (.chain _ node) behind
    exact ⟨outcome', .chain_read operator reads fits reads', agree⟩
  | unary_full operator =>
    cases tasks
    obtain ⟨⟩ | ⟨first, rest⟩ := lists
    rw [same _ _ first] at operator
    exact ⟨_, .unary_full operator, .fault ⟨rfl, rest, rest⟩⟩
  | unary_failed operator _ ih =>
    cases tasks
    obtain ⟨⟩ | ⟨first, rest⟩ := lists
    rw [same _ _ first] at operator
    obtain ⟨_, reads, ⟨⟩ | fault⟩ := ih (.rule _) rest
    exact ⟨_, .unary_failed operator reads, .fault fault⟩
  | unary_tall operator _ tall ih =>
    cases tasks
    obtain ⟨⟩ | ⟨first, rest⟩ := lists
    rw [same _ _ first] at operator
    obtain ⟨_, reads, ⟨operand, behind⟩ | _⟩ := ih (.rule _) rest
    rw [(Expr.Corresponds.unary first operand).height_eq] at tall
    exact ⟨_, .unary_tall operator reads tall, .fault ⟨rfl, .cons first rest, behind⟩⟩
  | unary_read operator _ fits ih =>
    cases tasks
    obtain ⟨⟩ | ⟨first, rest⟩ := lists
    rw [same _ _ first] at operator
    obtain ⟨_, reads, ⟨operand, behind⟩ | _⟩ := ih (.rule _) rest
    have node := Expr.Corresponds.unary first operand
    rw [node.height_eq] at fits
    exact ⟨_, .unary_read operator reads fits, .tree node behind⟩
  | primary other _ ih =>
    cases tasks
    obtain ⟨outcome', reads, agree⟩ := ih (.rule _) lists
    exact ⟨outcome', .primary (mt (same.beginsWith_iff lists).2 other) reads, agree⟩
  | literal value =>
    cases tasks
    obtain ⟨⟩ | ⟨first, rest⟩ := lists
    obtain ⟨_, value'⟩ := same.exists_literal? first value
    exact ⟨_, .literal value', .tree (.literal first value value') rest⟩
  | operand_missing missing =>
    cases tasks
    exact ⟨_, .operand_missing (mt (same.beginsWith_iff lists).2 missing),
      .fault ⟨rfl, lists, lists⟩⟩
  | grouping_full opening =>
    cases tasks
    obtain ⟨⟩ | ⟨first, rest⟩ := lists
    rw [same _ _ first] at opening
    exact ⟨_, .grouping_full opening, .fault ⟨rfl, rest, rest⟩⟩
  | grouping_failed opening _ ih =>
    cases tasks
    obtain ⟨⟩ | ⟨first, rest⟩ := lists
    rw [same _ _ first] at opening
    obtain ⟨_, reads, ⟨⟩ | fault⟩ := ih (.rule _) rest
    exact ⟨_, .grouping_failed opening reads, .fault fault⟩
  | grouping_unclosed opening _ unclosed ih =>
    cases tasks
    obtain ⟨⟩ | ⟨first, rest⟩ := lists
    rw [same _ _ first] at opening
    obtain ⟨_, reads, ⟨_, behind⟩ | _⟩ := ih (.rule _) rest
    exact ⟨_, .grouping_unclosed opening reads (mt (same.beginsWith_iff behind).2 unclosed),
      .fault ⟨rfl, behind, behind⟩⟩
  | grouping_tall opening _ closing tall ih =>
    cases tasks
    obtain ⟨⟩ | ⟨first, rest⟩ := lists
    rw [same _ _ first] at opening
    obtain ⟨_, reads, ⟨inner, ⟨⟩ | ⟨last, behind⟩⟩ | _⟩ := ih (.rule _) rest
    rw [same _ _ last] at closing
    rw [(Expr.Corresponds.grouping inner).height_eq] at tall
    exact ⟨_, .grouping_tall opening reads closing tall, .fault ⟨rfl, .cons last behind, behind⟩⟩
  | grouping_read opening _ closing fits ih =>
    cases tasks
    obtain ⟨⟩ | ⟨first, rest⟩ := lists
    rw [same _ _ first] at opening
    obtain ⟨_, reads, ⟨inner, ⟨⟩ | ⟨last, behind⟩⟩ | _⟩ := ih (.rule _) rest
    have node := Expr.Corresponds.grouping inner
    rw [same _ _ last] at closing
    rw [node.height_eq] at fits
    exact ⟨_, .grouping_read opening reads closing fits, .tree node behind⟩

/-- Rules are read alike from corresponding tokens. -/
theorem Rule.corresponds_read (same : KindPreserving R) (limit : Int) (room : Nat) (r : Rule)
    {tokens tokens' : List Token} (lists : List.Forall₂ R tokens tokens') :
    OutcomesCorrespond R (r.read limit room tokens) (r.read limit room tokens') := by
  have reads := reads_read limit room (.rule r) tokens
  obtain ⟨_, reads', agree⟩ := reads.corresponds same (.rule r) lists
  rwa [← reads'.read_eq] at agree

end ExprLang
