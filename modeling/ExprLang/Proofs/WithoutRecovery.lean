import ExprLang.Proofs.Acceptance
import ExprLang.Proofs.DiagnosticOrder

/-!
# Parsing with and without recovery

A parser that recovers and one that stops at the first error differ only behind that error. They
answer the same, and where there is a tree they stop behind the same tokens. Where there is none,
the one error of the parser that stops is the first one of the parser that recovers, and the others
are those that recovery finds from where the first parser has stopped.

## Main definitions

* `Parser.recovering`: the same parser with recovery.

## Main statements

* `Parser.parse_recovering`: parsing with recovery is parsing without it and then recovering.
* `Parser.errors_isPrefix_recover`: recovery keeps the errors that have been recorded.
* `Parser.parse_with_and_without_recovery`: both ways of parsing an input.
-/

namespace ExprLang

namespace Parser

/-- The same parser with recovery. -/
def recovering (p : Parser) : Parser :=
  { p with recovers := true }

variable {p : Parser}

/-- Parsing with recovery is parsing without it and then, if there is no tree, recovering from where
that has stopped. -/
theorem parse_recovering (stops : p.recovers = false) : p.recovering.parse =
    (p.parse.1,
      if p.parse.1.isSome then p.parse.2.recovering else p.parse.2.recovering.recover) := by
  cases read : Rule.expression.read p.limit p.limit.toNat p.input.tokens with
  | ok result =>
    obtain ⟨tree, rest⟩ := result
    have read' : Rule.expression.read p.recovering.limit p.recovering.limit.toNat
        p.recovering.input.tokens = .ok (tree, rest) := read
    rw [parse_ok read, parse_ok read']
    rfl
  | error failure =>
    have read' : Rule.expression.read p.recovering.limit p.recovering.limit.toNat
        p.recovering.input.tokens = .error failure := read
    rw [parse_error read, parse_error read', stops]
    rfl

/-- Recovery keeps the errors that have been recorded. -/
theorem errors_isPrefix_recover (p : Parser) : p.errors <+: p.recover.errors := by
  rw [(recover_attempts p).2]
  exact List.prefix_append _ _

/-- Where there is a tree, it is that of the tokens in front of the cursor, and nothing behind them
has been read. -/
theorem derives_of_parse {tokens : List Token} {tree : Expr} (input : p.input = .ofTokens tokens)
    (h : p.parse.1 = some tree) :
    ∃ used behind, tokens = used ++ behind ∧ Derives .expression used tree ∧
      p.parse.2.current = used.length := by
  obtain ⟨rest, read, stop⟩ := parse_eq_tree_iff_read.1 ⟨h, rfl⟩
  have reads : Reads p.limit p.limit.toNat (.rule .expression) p.input.tokens _ := reads_iff.2 read
  obtain ⟨used, split, derives⟩ := reads.derives
  have front := Input.position_of_eq_append split
  rw [input] at split
  obtain ⟨behind, whole, -, -⟩ := Input.tokens_ofTokens_eq_append_iff.1 split
  exact ⟨used, behind, whole, derives, stop.symm.trans front⟩

/-- Whether a parser recovers does not matter to what it answers. If there is a tree, both ways of
parsing have read the tokens that derive it and nothing behind them, and neither has recorded an
error. If there is none, the parser that does not recover has recorded one error, and the parser
that recovers has recorded the same one first. So an answer is missing exactly when there are
errors. -/
theorem parse_with_and_without_recovery (tokens : List Token) (limit : Int) :
    let p := ofTokens tokens true limit
    let q := ofTokens tokens false limit
    p.parse.1 = q.parse.1 ∧
    ((∃ tree used behind, q.parse.1 = some tree ∧
        tokens = used ++ behind ∧ Derives .expression used tree ∧
        p.parse.2.current = used.length ∧ q.parse.2.current = used.length ∧
        p.parse.2.depth = q.parse.2.depth ∧
        p.parse.2.errors = [] ∧ q.parse.2.errors = []) ∨
      ∃ e more, q.parse.1 = none ∧ q.parse.2.errors = [e] ∧ p.parse.2.errors = e :: more) ∧
    (p.parse.1 = none ↔ p.parse.2.errors ≠ []) ∧ (q.parse.1 = none ↔ q.parse.2.errors ≠ []) := by
  intro p q
  have both : p.parse = _ := parse_recovering (p := q) rfl
  have same : p.parse.1 = q.parse.1 := by rw [both]
  have missing := parse_fst_eq_none_iff q
  refine ⟨same, ?_, parse_fst_eq_none_iff p, missing⟩
  cases answer : q.parse.1 with
  -- With a tree nothing is left to recover from, and both parsers stop behind it.
  | some tree =>
    left
    obtain ⟨used, behind, whole, derives, stop⟩ := derives_of_parse rfl answer
    have clean : q.parse.2.errors = [] := by
      by_contra some
      rw [missing.2 some] at answer
      cases answer
    rw [answer, Option.isSome_some, if_pos rfl] at both
    refine ⟨tree, used, behind, rfl, whole, derives, ?_, stop, ?_, ?_, clean⟩
    · rw [both]
      exact stop
    · rw [both]
      rfl
    · rw [both]
      exact clean
  -- Without a tree one parser stops at its error, from which the other goes on.
  | none =>
    right
    have noted := errors_parse_of_not_recovers (p := q) rfl
    have some := missing.1 answer
    cases fault : fault? q.limit q.input.tokens with
    | none =>
      rw [fault] at noted
      exact absurd noted some
    | some failure =>
      rw [fault] at noted
      obtain ⟨more, kept⟩ := errors_isPrefix_recover q.parse.2.recovering
      rw [answer, Option.isSome_none, if_neg Bool.false_ne_true] at both
      refine ⟨q.input.report failure, more, rfl, noted, ?_⟩
      rw [both, ← kept]
      exact congrArg (· ++ more) noted

end Parser

end ExprLang
