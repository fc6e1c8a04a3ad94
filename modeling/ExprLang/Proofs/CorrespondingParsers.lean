import ExprLang.Parser.Parse
import ExprLang.Proofs.Corresponding

/-!
# Parsing corresponding tokens

Two parsers whose inputs correspond token by token stay so with every step: they make the same moves
and note the same faults at corresponding tokens, through all rounds of recovery. So they parse
alike.

## Main definitions

* `GrammarError.Corresponds`: errors that are the same but for corresponding tokens.
* `Parser.Corresponds`: parsers that are the same but for corresponding tokens.

## Main statements

* `Parser.Corresponds.attempt`: a rule at the cursor.
* `Parser.Corresponds.round`, `Parser.Corresponds.afterRounds`: recovery.
* `Parser.Corresponds.parse`: parsing.
* `Parser.corresponds_ofTokens`: parsers of corresponding lists of tokens.
-/

namespace ExprLang

/-- Whether two errors are the same but for corresponding tokens. -/
structure GrammarError.Corresponds (R : Token → Token → Prop) (e e' : GrammarError) : Prop where
  cause_eq : e.cause = e'.cause
  token : R e.token e'.token

/-- Whether two parsers are the same but for corresponding tokens. -/
structure Parser.Corresponds (R : Token → Token → Prop) (p p' : Parser) : Prop where
  tokens : List.Forall₂ R p.input.tokens p'.input.tokens
  stop : R p.input.stop p'.input.stop
  recovers_eq : p.recovers = p'.recovers
  limit_eq : p.limit = p'.limit
  current_eq : p.current = p'.current
  depth_eq : p.depth = p'.depth
  errors : List.Forall₂ (GrammarError.Corresponds R) p.errors p'.errors

namespace Parser.Corresponds

variable {R : Token → Token → Prop} {p p' : Parser} {rest rest' : List Token}

/-! ### Tokens around the cursor -/

/-- The tokens ahead of corresponding parsers correspond. -/
theorem ahead (h : p.Corresponds R p') : List.Forall₂ R p.ahead p'.ahead := by
  rw [Parser.ahead, Parser.ahead, h.current_eq]
  exact List.forall₂_drop _ h.tokens

/-- The token in front of corresponding rears is a corresponding one, also at the end of the inputs.
-/
theorem firstOf (h : p.Corresponds R p') (lists : List.Forall₂ R rest rest') :
    R (p.input.firstOf rest) (p'.input.firstOf rest') := by
  cases lists with
  | nil => exact h.stop
  | cons first _ => exact first

/-- The next tokens correspond. -/
theorem peek (h : p.Corresponds R p') : R p.peek p'.peek :=
  h.firstOf h.ahead

/-- Corresponding parsers come to the end together. -/
theorem atEnd_eq (h : p.Corresponds R p') : p.atEnd = p'.atEnd := by
  rw [atEnd, atEnd, Bool.eq_iff_iff, List.isEmpty_iff_length_eq_zero,
    List.isEmpty_iff_length_eq_zero, h.ahead.length_eq]

/-- The tokens passed last correspond, also where none has been passed yet. -/
theorem previous (h : p.Corresponds R p') : R p.previous p'.previous := by
  rw [Parser.previous, Parser.previous, h.current_eq]
  split
  · exact h.peek
  · exact h.firstOf (List.forall₂_drop _ h.tokens)

/-! ### Moves -/

theorem withCurrent (h : p.Corresponds R p') {current current' : Nat} (same : current = current') :
    { p with current := current }.Corresponds R { p' with current := current' } :=
  { h with current_eq := same }

theorem withErrors (h : p.Corresponds R p') {errors errors' : List GrammarError}
    (lists : List.Forall₂ (GrammarError.Corresponds R) errors errors') :
    { p with errors := errors }.Corresponds R { p' with errors := errors' } :=
  { h with errors := lists }

theorem withDepth (h : p.Corresponds R p') (depth : Nat) :
    { p with depth := depth }.Corresponds R { p' with depth := depth } :=
  { h with depth_eq := rfl }

/-- Corresponding parsers pass over tokens together. -/
theorem skip (h : p.Corresponds R p') : p.skip.Corresponds R p'.skip := by
  rw [Parser.skip, Parser.skip, h.atEnd_eq]
  split
  · exact h
  · exact h.withCurrent (congrArg (· + 1) h.current_eq)

/-- Corresponding parsers move to corresponding rears together. -/
theorem moveTo (h : p.Corresponds R p') (lists : List.Forall₂ R rest rest') :
    (p.moveTo rest).Corresponds R (p'.moveTo rest') := by
  refine h.withCurrent ?_
  rw [Input.position, Input.position, h.tokens.length_eq, lists.length_eq]

/-- Corresponding faults are reported as corresponding errors. -/
theorem report (h : p.Corresponds R p') {failure failure' : Failure}
    (faults : failure.Corresponds R failure') :
    (p.input.report failure).Corresponds R (p'.input.report failure') :=
  ⟨faults.cause_eq, h.firstOf faults.site⟩

/-- A rule is read at both cursors or fails at both. -/
theorem attempt (same : KindPreserving R) (h : p.Corresponds R p') (rule : Rule) :
    (∃ tree tree' q q', p.attempt rule = (.ok tree, q) ∧ p'.attempt rule = (.ok tree', q') ∧
      tree.Corresponds R tree' ∧ q.Corresponds R q') ∨
    ∃ e e' q q', p.attempt rule = (.error e, q) ∧ p'.attempt rule = (.error e', q') ∧
      e.Corresponds R e' ∧ q.Corresponds R q' := by
  have room : p'.room = p.room := by rw [Parser.room, Parser.room, h.limit_eq, h.depth_eq]
  have agree := rule.corresponds_read same p.limit p.room h.ahead
  rw [Parser.attempt, Parser.attempt, room, ← h.limit_eq]
  revert agree
  generalize rule.read p.limit p.room p.ahead = outcome
  generalize rule.read p.limit p.room p'.ahead = outcome'
  rintro (⟨trees, lists⟩ | faults)
  · exact .inl ⟨_, _, _, _, rfl, rfl, trees, h.moveTo lists⟩
  · exact .inr ⟨_, _, _, _, rfl, rfl, h.report faults, h.moveTo faults.rest⟩

/-- Boundaries of statements are as far away, since only kinds tell them. -/
theorem beforeBoundary_eq (same : KindPreserving R) {previous previous' : Token}
    (front : R previous previous') (lists : List.Forall₂ R rest rest') :
    beforeBoundary previous rest = beforeBoundary previous' rest' := by
  induction lists generalizing previous previous' with
  | nil => rfl
  | cons first _ ih =>
    rw [beforeBoundary, beforeBoundary, same _ _ front, same _ _ first, ih first]

/-- Corresponding parsers synchronise together. -/
theorem synchronize (same : KindPreserving R) (h : p.Corresponds R p') :
    p.synchronize.Corresponds R p'.synchronize := by
  refine h.withCurrent ?_
  rw [h.current_eq, beforeBoundary_eq same h.previous h.ahead]

/-- Corresponding parsers find a place to resume at, or none, together. -/
theorem resume (same : KindPreserving R) (h : p.Corresponds R p') :
    p.resume.1 = p'.resume.1 ∧ p.resume.2.Corresponds R p'.resume.2 := by
  rw [Parser.resume, Parser.resume, same _ _ h.peek, same _ _ h.previous, h.atEnd_eq]
  split
  · exact ⟨rfl, h.skip⟩
  · exact ⟨rfl, h⟩

/-- Corresponding parsers seek places for attempts together. -/
theorem seek (same : KindPreserving R) (h : p.Corresponds R p') (failed : Bool) :
    (p.seek failed).1 = (p'.seek failed).1 ∧
      (p.seek failed).2.Corresponds R (p'.seek failed).2 := by
  cases failed with
  | false => exact (h.synchronize same).resume same
  | true => exact (h.skip.synchronize same).resume same

/-! ### Recovery and parsing -/

/-- A round of recovery leads corresponding parsers to corresponding ones, with a failure in both or
in neither. -/
theorem round (same : KindPreserving R) (h : p.Corresponds R p') (failed : Bool) :
    (p.round failed).failed = (p'.round failed).failed ∧
      (p.round failed).parser.Corresponds R (p'.round failed).parser := by
  obtain ⟨may, place⟩ := h.seek same failed
  rw [Parser.round, Parser.round]
  revert may place
  generalize p.seek failed = sought
  generalize p'.seek failed = sought'
  obtain ⟨may, q⟩ := sought
  obtain ⟨may', q'⟩ := sought'
  rintro (rfl : may = may') (place : q.Corresponds R q')
  cases may with
  | false => exact ⟨rfl, place⟩
  -- Both parsers make an attempt, at corresponding places, and both have a tree or an error.
  | true =>
    obtain ⟨_, _, r, r', made, made', -, after⟩ | ⟨e, e', r, r', made, made', noted, after⟩ :=
      (place.withDepth 0).attempt same .expression
    · simp only [made, made']
      exact ⟨trivial, after⟩
    · simp only [made, made']
      exact ⟨trivial, after.withErrors (List.rel_append after.errors (.cons noted .nil))⟩

/-- All rounds lead corresponding parsers to corresponding ones. The induction is on the rounds of
the one parser, which the other goes through as well. -/
theorem afterRounds (same : KindPreserving R) (h : p.Corresponds R p') (failed : Bool) :
    (p.afterRounds failed).Corresponds R (p'.afterRounds failed) := by
  induction p, failed using rounds.induct generalizing p' with
  | case1 p failed done =>
    rw [afterRounds_of_atEnd failed done, afterRounds_of_atEnd failed (h.atEnd_eq ▸ done)]
    exact h
  | case2 p failed notEnd ih =>
    rw [Bool.not_eq_true] at notEnd
    obtain ⟨again, after⟩ := h.round same failed
    rw [afterRounds_of_not_atEnd failed notEnd,
      afterRounds_of_not_atEnd failed (h.atEnd_eq ▸ notEnd), ← again]
    exact ih after

/-- Corresponding parsers start over together. -/
theorem restart (h : p.Corresponds R p') : p.restart.Corresponds R p'.restart :=
  { h with current_eq := rfl, depth_eq := rfl, errors := .nil }

/-- Corresponding parsers parse alike. -/
theorem parse (same : KindPreserving R) (h : p.Corresponds R p') :
    Option.Rel (Expr.Corresponds R) p.parse.1 p'.parse.1 ∧
      p.parse.2.Corresponds R p'.parse.2 := by
  obtain ⟨_, _, q, q', made, made', trees, after⟩ | ⟨e, e', q, q', made, made', noted, after⟩ :=
    h.restart.attempt same .expression
  · simp only [Parser.parse, made, made']
    exact ⟨.some trees, after⟩
  · have first := after.withErrors (.cons noted .nil)
    simp only [Parser.parse, made, made', h.recovers_eq]
    refine ⟨.none, ?_⟩
    split
    · exact first.afterRounds same true
    · exact first

end Parser.Corresponds

/-! ### Inputs -/

section

variable {R : Token → Token → Prop} {tokens tokens' : List Token}

/-- Corresponding tokens end the input together. -/
theorem KindPreserving.isEnd_eq (same : KindPreserving R) {a b : Token} (related : R a b) :
    a.isEnd = b.isEnd := by
  rw [Token.isEnd, Token.isEnd, same a b related]

/-- Parsers of corresponding lists of tokens correspond, if the ends that are added to lists without
one do. -/
theorem Parser.corresponds_ofTokens (same : KindPreserving R)
    (ends : ∀ line line', R (.endOfInput line) (.endOfInput line'))
    (h : List.Forall₂ R tokens tokens') (recovers : Bool) (limit : Int) :
    (ofTokens tokens recovers limit).Corresponds R (ofTokens tokens' recovers limit) where
  tokens := by
    change List.Forall₂ R (tokens.takeWhile fun token => !token.isEnd)
      (tokens'.takeWhile fun token => !token.isEnd)
    induction h with
    | nil => exact .nil
    | cons first rest ih =>
      rw [List.takeWhile_cons, List.takeWhile_cons, same.isEnd_eq first]
      split
      · exact .cons first ih
      · exact .nil
  stop := by
    change R (Input.stopOf tokens) (Input.stopOf tokens')
    unfold Input.stopOf
    -- A list without an end may end on another line than its counterpart, so the two lines are
    -- arbitrary.
    generalize Option.getD _ (1 : Int) = line
    generalize Option.getD _ (1 : Int) = line'
    induction h with
    | nil => exact ends line line'
    | cons first rest ih =>
      rw [List.find?_cons, List.find?_cons, same.isEnd_eq first]
      split
      · exact first
      · exact ih
  recovers_eq := rfl
  limit_eq := rfl
  current_eq := rfl
  depth_eq := rfl
  errors := .nil

end

end ExprLang
