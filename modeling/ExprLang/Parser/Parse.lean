import ExprLang.Parser.Ahead

/-!
# Parsing a whole input

A parser parses its input from the beginning. After a fault it may go on in rounds, each of which
looks for a place where an expression may begin and reads it, until the whole input has been read.

## Main definitions

* `Parser.round`, `Parser.rounds`, `Parser.afterRounds`: one round of recovery, all of them, and the
  parser after them.
* `Parser.recover`, `Parser.parse`: the rest of an input after a fault, and the whole input.

## Main statements

* `Parser.round_cases`: what a round can come to.
* `Parser.round_progresses`: why the rounds end.
-/

namespace ExprLang

namespace Parser

/-- Looks for a place where an expression may begin. After a failure the token at the cursor is
passed over first. It is taken for the one that the fault was noticed at, where none begins. -/
def seek (p : Parser) (failed : Bool) : Bool × Parser :=
  (if failed then p.skip else p).synchronize.resume

/-- A round of recovery and the parser after it. -/
structure Round where
  /-- Where the round read an expression from, if it did. -/
  start? : Option Nat
  /-- Whether no expression could begin there or it was faulty. -/
  failed : Bool
  parser : Parser

/-- Looks for a place where an expression may begin and reads it. -/
def round (p : Parser) (failed : Bool) : Round :=
  match p.seek failed with
  | (false, q) => ⟨none, true, q⟩
  | (true, q) =>
    match { q with depth := 0 }.attempt .expression with
    | (.ok _, r) => ⟨some q.current, false, r⟩
    | (.error e, r) => ⟨some q.current, true, { r with errors := r.errors ++ [e] }⟩

/-- Seeking a place for the next attempt goes no further back than where it starts, which is behind
the token under the cursor after a failure. -/
theorem length_ahead_seek_le (p : Parser) (failed : Bool) :
    (p.seek failed).2.ahead.length ≤ (if failed then p.skip else p).ahead.length := by
  refine Nat.le_trans (length_ahead_resume_le _) ?_
  rw [ahead_synchronize, List.length_drop]
  exact Nat.sub_le _ _

/-- What a round can come to. -/
theorem round_cases (p : Parser) (failed : Bool) :
    (∃ q, p.seek failed = (false, q) ∧ p.round failed = ⟨none, true, q⟩) ∨
    (∃ q tree r, p.seek failed = (true, q) ∧
      { q with depth := 0 }.attempt .expression = (.ok tree, r) ∧
      p.round failed = ⟨some q.current, false, r⟩) ∨
    (∃ q e r, p.seek failed = (true, q) ∧
      { q with depth := 0 }.attempt .expression = (.error e, r) ∧
      p.round failed = ⟨some q.current, true, { r with errors := r.errors ++ [e] }⟩) := by
  cases place : p.seek failed with
  | mk may q =>
    cases may with
    | false => exact .inl ⟨q, rfl, by simp [round, place]⟩
    | true =>
      cases made : { q with depth := 0 }.attempt .expression with
      | mk result r =>
        cases result with
        | ok tree => exact .inr (.inl ⟨q, tree, r, rfl, made, by simp [round, place, made]⟩)
        | error e => exact .inr (.inr ⟨q, e, r, rfl, made, by simp [round, place, made]⟩)

/-- A round reads on, unless it ends in a failure that was not one before. -/
theorem round_progresses (p : Parser) (failed : Bool) (h : p.atEnd = false) :
    2 * (p.round failed).parser.ahead.length + (if (p.round failed).failed then 0 else 1) <
      2 * p.ahead.length + (if failed then 0 else 1) := by
  have sought := length_ahead_seek_le p failed
  have start : 2 * (if failed then p.skip else p).ahead.length <
      2 * p.ahead.length + (if failed then 0 else 1) := by
    have := length_ahead_skip_lt h
    cases failed with
    | false => exact Nat.lt_succ_self _
    | true =>
      simp only [if_true]
      omega
  obtain ⟨q, place, eq⟩ | ⟨q, tree, r, place, made, eq⟩ | ⟨q, e, r, place, made, eq⟩ :=
    round_cases p failed
  · rw [place] at sought
    rw [eq]
    exact Nat.lt_of_le_of_lt (Nat.mul_le_mul_left 2 sought) start
  · -- A tree takes up a token at least, which makes up for the failure that is forgotten.
    rw [place] at sought
    rw [eq]
    have less := length_ahead_attempt_lt made
    change r.ahead.length < q.ahead.length at less
    simp only [Bool.false_eq_true, if_false] at sought ⊢
    omega
  · rw [place] at sought
    rw [eq]
    have := length_ahead_attempt_le { q with depth := 0 } .expression
    rw [made] at this
    exact Nat.lt_of_le_of_lt (Nat.mul_le_mul_left 2 (Nat.le_trans this sought)) start

/-- All rounds of recovery, until the whole input has been read. -/
def rounds (p : Parser) (failed : Bool) : List Round :=
  if p.atEnd then [] else p.round failed :: (p.round failed).parser.rounds (p.round failed).failed
termination_by 2 * p.ahead.length + if failed then 0 else 1
decreasing_by
  exact round_progresses p failed (by simpa using ‹¬p.atEnd = true›)

/-- The parser after all rounds of recovery. -/
def afterRounds (p : Parser) (failed : Bool) : Parser :=
  ((p.rounds failed).getLast?.map Round.parser).getD p

/-- There are no rounds at the end of the input. -/
theorem rounds_of_atEnd {p : Parser} (failed : Bool) (h : p.atEnd = true) :
    p.rounds failed = [] := by
  rw [rounds, if_pos h]

/-- Before the end there is a round and then those that follow it. -/
theorem rounds_of_not_atEnd {p : Parser} (failed : Bool) (h : p.atEnd = false) : p.rounds failed =
    p.round failed :: (p.round failed).parser.rounds (p.round failed).failed := by
  rw [rounds, if_neg (by simp [h])]

/-- At the end of the input the parser stays as it is. -/
theorem afterRounds_of_atEnd {p : Parser} (failed : Bool) (h : p.atEnd = true) :
    p.afterRounds failed = p := by
  rw [afterRounds, rounds_of_atEnd failed h]
  rfl

/-- Before the end the parser goes on from where a round has left it. -/
theorem afterRounds_of_not_atEnd {p : Parser} (failed : Bool) (h : p.atEnd = false) :
    p.afterRounds failed =
      (p.round failed).parser.afterRounds (p.round failed).failed := by
  rw [afterRounds, rounds_of_not_atEnd failed h, List.getLast?_cons, afterRounds]
  cases (Parser.rounds _ _).getLast? <;> rfl

/-- Reads the rest of the input and records the faults of the expressions in it. -/
def recover (p : Parser) : Parser :=
  p.afterRounds true

/-- Goes back to the beginning and forgets the errors. -/
def restart (p : Parser) : Parser :=
  { p with current := 0, depth := 0, errors := [] }

/-- Parses the input from the beginning. Tokens behind the expression are left unread. After an
error there is no tree, and the rest of the input is searched for further errors if the parser
recovers. -/
def parse (p : Parser) : Option Expr × Parser :=
  match p.restart.attempt .expression with
  | (.ok tree, done) => (some tree, done)
  | (.error e, failed) =>
    let noted := { failed with errors := [e] }
    (none, if p.recovers then noted.recover else noted)

/-- An expression at the beginning of the input is the answer. -/
theorem parse_ok {p : Parser} {tree : Expr} {rest : List Token}
    (h : Rule.expression.read p.limit p.limit.toNat p.input.tokens = .ok (tree, rest)) :
    p.parse = (some tree, p.restart.moveTo rest) := by
  have : p.restart.attempt .expression = (.ok tree, p.restart.moveTo rest) := by
    simp [attempt, room, ahead, restart, h]
  simp [parse, this]

/-- A parser that has noted the fault at which its cursor stands. -/
def noted (p : Parser) (failure : Failure) : Parser :=
  { p.restart.moveTo failure.rest with errors := [p.input.report failure] }

/-- A fault at the beginning of the input is noted, and there is no answer. -/
theorem parse_error {p : Parser} {failure : Failure}
    (h : Rule.expression.read p.limit p.limit.toNat p.input.tokens = .error failure) :
    p.parse = (none, if p.recovers then (p.noted failure).recover else p.noted failure) := by
  have : p.restart.attempt .expression =
      (.error (p.input.report failure), p.restart.moveTo failure.rest) := by
    simp [attempt, room, ahead, restart, h]
  simp [parse, this, noted]

end Parser

end ExprLang
