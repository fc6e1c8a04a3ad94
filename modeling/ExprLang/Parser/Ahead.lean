import ExprLang.Parser.Basic

/-!
# What a parser has ahead

How the steps of a parser change the tokens that have not been read.

## Main statements

* `Parser.ahead_skip`, `Parser.ahead_synchronize`, `Parser.ahead_attempt`: what is left.
* `Parser.length_ahead_attempt_lt`: an expression takes at least one token.
-/

namespace ExprLang

namespace Parser

/-- A parser that moves to a rear of the tokens ahead has that rear ahead. -/
theorem ahead_moveTo {p : Parser} {rest : List Token} (h : rest <:+ p.ahead) :
    (p.moveTo rest).ahead = rest :=
  (List.suffix_iff_eq_drop.1 (h.trans (List.drop_suffix _ _))).symm

/-- One token is passed over when there is one. -/
theorem ahead_skip (p : Parser) : p.skip.ahead = p.ahead.tail := by
  unfold skip atEnd
  split
  · next h =>
    rw [List.isEmpty_iff.1 h]
    rfl
  · simp [ahead]

/-- All tokens up to the next boundary of a statement are passed over. -/
theorem ahead_synchronize (p : Parser) :
    p.synchronize.ahead = p.ahead.drop (beforeBoundary p.previous p.ahead) := by
  simp [synchronize, ahead, List.drop_drop]

/-- What an attempt leaves ahead is what reading the tokens leaves. -/
theorem ahead_attempt (p : Parser) (rule : Rule) :
    (p.attempt rule).2.ahead = remaining (rule.read p.limit p.room p.ahead) := by
  have suffix := (reads_read p.limit p.room (.rule rule) p.ahead).consumes.isSuffix
  simp only [Task.read] at suffix
  unfold attempt
  split
  · next read =>
    rw [read] at suffix ⊢
    exact ahead_moveTo suffix
  · next read =>
    rw [read] at suffix ⊢
    exact ahead_moveTo suffix

/-- An attempt does not go back. -/
theorem length_ahead_attempt_le (p : Parser) (rule : Rule) :
    (p.attempt rule).2.ahead.length ≤ p.ahead.length := by
  rw [ahead_attempt]
  exact (reads_read p.limit p.room (.rule rule) p.ahead).length_le

/-- An attempt that comes to a tree takes up a token at least. -/
theorem length_ahead_attempt_lt {p q : Parser} {rule : Rule} {tree : Expr}
    (h : p.attempt rule = (.ok tree, q)) : q.ahead.length < p.ahead.length := by
  have left := ahead_attempt p rule
  rw [h] at left
  unfold attempt at h
  split at h
  · next rest read =>
    rw [read] at left
    rw [left]
    exact (reads_iff.2 read : Reads _ _ (.rule rule) _ _).length_lt
  · cases h

/-- Passing over a token goes on, unless the parser is at the end. -/
theorem length_ahead_skip_lt {p : Parser} (h : p.atEnd = false) :
    p.skip.ahead.length < p.ahead.length := by
  have : p.ahead ≠ [] := by simpa [atEnd] using h
  have := List.length_pos_iff.2 this
  rw [ahead_skip, List.length_tail]
  omega

/-- Looking for a place to resume at does not go back. -/
theorem length_ahead_resume_le (p : Parser) : p.resume.2.ahead.length ≤ p.ahead.length := by
  unfold resume
  split
  · rw [ahead_skip, List.length_tail]
    exact Nat.sub_le _ _
  · exact Nat.le_refl _

end Parser

end ExprLang
