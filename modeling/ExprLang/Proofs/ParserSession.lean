import ExprLang.Proofs.NestingCount
import ExprLang.Proofs.Rounds
import Mathlib.Data.List.Basic

/-!
# Sessions of a parser

A parser may be moved by tokens, by rules and to boundaries of statements, be given other settings,
recover and parse, in any order and whether or not a step fails. Between two steps it is outside of
all nesting, with the cursor at a token or at the end. Only parsing goes back, and parsing next
comes to the same as for a new parser with the settings that it has then.

## Main definitions

* `Parser.Move`, `Parser.move`, `Parser.run`: the steps of a session and what they lead to.
* `Parser.Settings`, `Parser.Move.settingsAfter`: the settings, and how a session changes them.
* `Parser.Settled`: a parser between two steps.
* `Parser.Onward`: what a step leads to that does not go back.

## Main statements

* `Parser.Settled.recover`: recovery goes on.
* `Parser.Settled.move`: every step but parsing goes on.
* `Parser.run_settled`: what holds after every session.
-/

namespace ExprLang

/-- An input has as many tokens as stand in front of the first end. -/
theorem Input.length_tokens_ofTokens (tokens : List Token) :
    (Input.ofTokens tokens).tokens.length = tokens.findIdx Token.isEnd := by
  have inside : tokens.findIdx Token.isEnd ≤ tokens.length := List.findIdx_le_length
  change (tokens.takeWhile fun token => !token.isEnd).length = _
  rw [List.takeWhile_eq_take_findIdx_not, List.length_take]
  simpa only [Bool.not_not] using Nat.min_eq_left inside

namespace Parser

/-! ### Sessions -/

/-- A step of a session. -/
inductive Move where
  | parse
  | recover
  | attempt (rule : Rule)
  | advance
  | accept (kinds : List Kind)
  | check (kind : Kind)
  | expect (kind : Kind) (message : String)
  | synchronize
  | resume
  | configure (recovers? : Option Bool) (limit? : Option Int)
  deriving DecidableEq

/-- The settings that govern parsing. -/
structure Settings where
  recovers : Bool
  limit : Int

/-- The settings after a move. -/
def Move.settingsAfter (settings : Settings) : Move → Settings
  | .configure recovers? limit? =>
    ⟨recovers?.getD settings.recovers, limit?.getD settings.limit⟩
  | _ => settings

/-- The settings of a parser. -/
def settings (p : Parser) : Settings :=
  ⟨p.recovers, p.limit⟩

/-- The same parser with other settings. -/
def withSettings (p : Parser) (settings : Settings) : Parser :=
  { p with recovers := settings.recovers, limit := settings.limit }

/-- The parser after a move, which may have failed. -/
def move (p : Parser) : Move → Parser
  | .parse => p.parse.2
  | .recover => p.recover
  | .attempt rule => (p.attempt rule).2
  | .advance => p.advance.2
  | .accept kinds => (p.accept kinds).2
  | .check _ => p
  | .expect kind message => (p.expect kind message).2
  | .synchronize => p.synchronize
  | .resume => p.resume.2
  | .configure recovers? limit? =>
    p.withSettings (Move.settingsAfter p.settings (.configure recovers? limit?))

/-- The parser after a session. -/
def run (p : Parser) (session : List Move) : Parser :=
  session.foldl move p

/-! ### Going on -/

/-- Whether a parser is outside of all nesting and its cursor among its tokens or at their end. -/
structure Settled (p : Parser) : Prop where
  depth_eq : p.depth = 0
  current_le : p.current ≤ p.input.tokens.length

/-- Whether a parser is settled further on in the input of another one, with the same settings. -/
structure Onward (p q : Parser) : Prop where
  settled : q.Settled
  input_eq : q.input = p.input
  settings_eq : q.settings = p.settings
  current_le : p.current ≤ q.current

variable {p q r : Parser}

theorem Settled.refl (h : p.Settled) : p.Onward p :=
  ⟨h, rfl, rfl, Nat.le_refl _⟩

/-- Going on twice is going on. -/
theorem Onward.trans (first : p.Onward q) (second : q.Onward r) : p.Onward r where
  settled := second.settled
  input_eq := second.input_eq.trans first.input_eq
  settings_eq := second.settings_eq.trans first.settings_eq
  current_le := Nat.le_trans first.current_le second.current_le

/-- Errors are no part of where a parser stands. -/
theorem Onward.withErrors (h : p.Onward q) (errors : List GrammarError) :
    p.Onward { q with errors := errors } :=
  ⟨⟨h.settled.depth_eq, h.settled.current_le⟩, h.input_eq, h.settings_eq, h.current_le⟩

/-- Whatever an attempt comes to, the cursor stands before what it leaves. -/
theorem snd_attempt (p : Parser) (rule : Rule) :
    (p.attempt rule).2 = p.moveTo (remaining (rule.read p.limit p.room p.ahead)) := by
  unfold attempt
  split
  · next read =>
    rw [read]
    rfl
  · next read =>
    rw [read]
    rfl

/-- The next boundary is not past the end. -/
theorem beforeBoundary_le (previous : Token) (tokens : List Token) :
    beforeBoundary previous tokens ≤ tokens.length := by
  induction tokens generalizing previous with
  | nil => exact Nat.le_refl _
  | cons token behind ih =>
    rw [beforeBoundary]
    split
    · exact Nat.zero_le _
    · exact Nat.succ_le_succ (ih token)

namespace Settled

/-- What has been read and what is ahead make up the input. -/
theorem length_ahead (h : p.Settled) : p.current + p.ahead.length = p.input.tokens.length := by
  have := h.current_le
  rw [ahead, List.length_drop]
  omega

/-- Passing over a token goes on, and stays where it is at the end. -/
theorem skip (h : p.Settled) : p.Onward p.skip := by
  unfold Parser.skip
  split
  · exact h.refl
  · next notEnd =>
    have some : p.ahead ≠ [] := by simpa [atEnd] using notEnd
    have := List.length_pos_iff.2 some
    have := h.length_ahead
    exact ⟨⟨h.depth_eq, by simp only; omega⟩, rfl, rfl, Nat.le_succ _⟩

/-- Moving to a rear of the tokens ahead goes on. -/
theorem moveTo (h : p.Settled) {rest : List Token} (suffix : rest <:+ p.ahead) :
    p.Onward (p.moveTo rest) := by
  refine ⟨⟨h.depth_eq, Nat.sub_le _ _⟩, rfl, rfl, ?_⟩
  have := suffix.length_le
  have := h.length_ahead
  simp only [Parser.moveTo, Input.position]
  omega

/-- A rule goes on, whether or not it can be read. -/
theorem attempt (h : p.Settled) (rule : Rule) : p.Onward (p.attempt rule).2 := by
  have suffix := (reads_read p.limit p.room (.rule rule) p.ahead).consumes.isSuffix
  rw [snd_attempt]
  exact h.moveTo suffix

/-- Going to the next boundary goes on. -/
theorem synchronize (h : p.Settled) : p.Onward p.synchronize := by
  have := beforeBoundary_le p.previous p.ahead
  have := h.length_ahead
  refine ⟨⟨h.depth_eq, ?_⟩, rfl, rfl, Nat.le_add_right _ _⟩
  simp only [Parser.synchronize]
  omega

/-- Accepting a token goes on. -/
theorem accept (h : p.Settled) (kinds : List Kind) : p.Onward (p.accept kinds).2 := by
  unfold Parser.accept
  split
  · exact h.skip
  · exact h.refl

/-- Expecting a token goes on, whether it is there or not. -/
theorem expect (h : p.Settled) (kind : Kind) (message : String) :
    p.Onward (p.expect kind message).2 := by
  unfold Parser.expect
  split
  · exact h.skip
  · exact h.refl

/-- Looking for a place to resume at goes on. -/
theorem resume (h : p.Settled) : p.Onward p.resume.2 := by
  unfold Parser.resume
  split
  · exact h.skip
  · exact h.refl

/-- Seeking a place to resume at goes on, after a failure and after a tree. -/
theorem seek (h : p.Settled) (failed : Bool) : p.Onward (p.seek failed).2 := by
  have start : p.Onward (if failed then p.skip else p) := by
    cases failed with
    | false => exact h.refl
    | true => exact h.skip
  have boundary := start.trans start.settled.synchronize
  exact boundary.trans boundary.settled.resume

/-- A round of recovery goes on. -/
theorem round (h : p.Settled) (failed : Bool) : p.Onward (p.round failed).parser := by
  have sought := h.seek failed
  obtain ⟨q, place, eq⟩ | ⟨q, tree, r, place, made, eq⟩ | ⟨q, e, r, place, made, eq⟩ :=
    round_cases p failed <;> rw [place] at sought <;> rw [eq]
  · exact sought
  -- The attempt is made outside of all nesting, where the parser is anyway.
  all_goals
    have clear : { q with depth := 0 } = q := by rw [← sought.settled.depth_eq]
    have attempted := sought.trans (sought.settled.attempt .expression)
    rw [clear] at made
    rw [made] at attempted
  · exact attempted
  · exact attempted.withErrors _

/-- All rounds together go on, by induction on the rounds. -/
theorem afterRounds (h : p.Settled) (failed : Bool) : p.Onward (p.afterRounds failed) := by
  induction p, failed using rounds.induct with
  | case1 p failed done =>
    rw [afterRounds_of_atEnd failed done]
    exact h.refl
  | case2 p failed notEnd ih =>
    rw [Bool.not_eq_true] at notEnd
    rw [afterRounds_of_not_atEnd failed notEnd]
    have round := h.round failed
    exact round.trans (ih round.settled)

/-- Recovery goes on. -/
theorem recover (h : p.Settled) : p.Onward p.recover :=
  h.afterRounds true

end Settled

/-! ### Moves -/

/-- A parser that starts over is settled. -/
theorem settled_restart (p : Parser) : p.restart.Settled :=
  ⟨rfl, Nat.zero_le _⟩

/-- Parsing goes on from the beginning. -/
theorem onward_parse (p : Parser) : p.restart.Onward p.parse.2 := by
  have attempted := p.settled_restart.attempt .expression
  unfold parse
  split
  · next tree q made =>
    rw [made] at attempted
    exact attempted
  · next e q made =>
    rw [made] at attempted
    have noted := attempted.withErrors [e]
    simp only
    split
    · exact noted.trans noted.settled.recover
    · exact noted

/-- What a move leads to: the parser is settled again, the input is the same, the settings are as
the move says, and only parsing goes back. -/
theorem Settled.move (h : p.Settled) (m : Move) :
    (p.move m).Settled ∧ (p.move m).input = p.input ∧
      (p.move m).settings = m.settingsAfter p.settings ∧
      (m ≠ .parse → p.current ≤ (p.move m).current) := by
  have onward {q : Parser} (went : p.Onward q) : q.Settled ∧ q.input = p.input ∧
      q.settings = p.settings ∧ (m ≠ .parse → p.current ≤ q.current) :=
    ⟨went.settled, went.input_eq, went.settings_eq, fun _ => went.current_le⟩
  cases m with
  | parse =>
    have went := p.onward_parse
    exact ⟨went.settled, went.input_eq, went.settings_eq, fun other => absurd rfl other⟩
  | recover => exact onward h.recover
  | attempt rule => exact onward (h.attempt rule)
  | advance => exact onward h.skip
  | accept kinds => exact onward (h.accept kinds)
  | check kind => exact onward h.refl
  | expect kind message => exact onward (h.expect kind message)
  | synchronize => exact onward h.synchronize
  | resume => exact onward h.resume
  | configure recovers? limit? =>
    exact ⟨⟨h.depth_eq, h.current_le⟩, rfl, rfl, fun _ => Nat.le_refl _⟩

/-- Passing over a token records no error. -/
theorem errors_skip (p : Parser) : p.skip.errors = p.errors := by
  rw [skip_frame]

/-- Only parsing and recovery record errors. -/
theorem errors_move (p : Parser) {m : Move} (noParse : m ≠ .parse) (noRecover : m ≠ .recover) :
    (p.move m).errors = p.errors := by
  cases m with
  | parse => exact absurd rfl noParse
  | recover => exact absurd rfl noRecover
  | attempt rule =>
    rw [move, snd_attempt]
    rfl
  | advance => exact p.errors_skip
  | accept kinds =>
    rw [move, accept]
    split
    · exact p.errors_skip
    · rfl
  | check kind => rfl
  | expect kind message =>
    rw [move, expect]
    split
    · exact p.errors_skip
    · rfl
  | synchronize => rfl
  | resume =>
    rw [move, resume]
    split
    · exact p.errors_skip
    · rfl
  | configure recovers? limit? => rfl

/-! ### Runs -/

/-- What a session leads to. -/
theorem Settled.run (h : p.Settled) (session : List Move) :
    (p.run session).Settled ∧ (p.run session).input = p.input ∧
      (p.run session).settings = session.foldl Move.settingsAfter p.settings := by
  induction session generalizing p with
  | nil => exact ⟨h, rfl, rfl⟩
  | cons m session ih =>
    obtain ⟨settled, input, settings, -⟩ := h.move m
    obtain ⟨settled', input', settings'⟩ := ih settled
    rw [input] at input'
    rw [settings] at settings'
    exact ⟨settled', input', settings'⟩

/-- Parsing depends on the input and the settings alone. -/
theorem parse_eq_of_input_eq {tokens : List Token} (h : p.input = .ofTokens tokens) :
    p.parse = (ofTokens tokens p.recovers p.limit).parse := by
  have restart : p.restart = (ofTokens tokens p.recovers p.limit).restart := by
    simp only [Parser.restart, ofTokens, h]
  simp only [parse, restart]
  rfl

/-- After every session a parser is outside of all nesting, with the cursor no further than the
first token that ends the input, or the end of the list when there is none. A rule that counts how
deep it is nested as it goes comes to the same as an attempt and ends outside of all nesting,
whether or not it can be read. From there only parsing goes back, only parsing and recovery record
errors, and parsing is as for a new parser with the settings that the session has left. -/
theorem run_settled (tokens : List Token) (settings : Settings) (session : List Move) :
    let p := (ofTokens tokens settings.recovers settings.limit).run session
    let now := session.foldl Move.settingsAfter settings
    p.depth = 0 ∧ p.current ≤ tokens.findIdx Token.isEnd ∧
      (∀ rule outcome depth, Counts p.limit (.rule rule) p.depth p.ahead outcome depth ↔
        rule.read p.limit p.room p.ahead = outcome ∧ depth = 0) ∧
      (∀ m, m ≠ .parse → p.current ≤ (p.move m).current) ∧
      (∀ m, m ≠ .parse → m ≠ .recover → (p.move m).errors = p.errors) ∧
      p.settings = now ∧ p.parse = (ofTokens tokens now.recovers now.limit).parse := by
  intro p now
  have fresh : (ofTokens tokens settings.recovers settings.limit).Settled := ⟨rfl, Nat.zero_le _⟩
  obtain ⟨settled, input, left⟩ := fresh.run session
  have inside := settled.current_le
  rw [input] at inside
  refine ⟨settled.depth_eq, ?_, fun rule outcome depth => ?_,
    fun m other => (settled.move m).2.2.2 other, ?_, left, ?_⟩
  · rw [← Input.length_tokens_ofTokens]
    exact inside
  · -- Between two steps the depth is zero, so the room is the whole limit.
    have counted : Counts p.limit (.rule rule) p.depth p.ahead outcome depth ↔
        rule.read p.limit p.room p.ahead = outcome ∧ depth = p.depth := counts_iff
    rwa [settled.depth_eq] at counted ⊢
  · exact fun m noParse noRecover => p.errors_move noParse noRecover
  · have again := parse_eq_of_input_eq input
    have recovers : p.recovers = now.recovers := congrArg Settings.recovers left
    have limit : p.limit = now.limit := congrArg Settings.limit left
    rwa [recovers, limit] at again

/-- A grouping that is not closed has been attempted, and then no nesting is allowed any more.
Another attempt fails at the end without being recorded, and parsing finds the parenthesis too deep
where a new parser would. -/
theorem run_settled_unclosed :
    let tokens : List Token := [⟨.leftParen, "(", .nil, 1⟩, ⟨.number, "1", .integer 1, 1⟩,
      .endOfInput 1]
    let session : List Move := [.attempt .expression, .configure none (some 0)]
    let p := (ofTokens tokens true defaultLimit).run session
    p.current = 2 ∧ Move.attempt .unary ≠ .parse ∧ Move.attempt .unary ≠ .recover ∧
      p.current ≤ (p.move (.attempt .unary)).current ∧
      (p.move (.attempt .unary)).errors = p.errors ∧
      p.parse = (ofTokens tokens true 0).parse ∧
      p.parse.2.errors.map GrammarError.cause = [.tooDeep 0] := by
  intro tokens session p
  have noParse : Move.attempt .unary ≠ .parse := by decide
  have noRecover : Move.attempt .unary ≠ .recover := by decide
  obtain ⟨-, -, -, onward, unrecorded, -, again⟩ := run_settled tokens ⟨true, defaultLimit⟩ session
  exact ⟨by decide +kernel, noParse, noRecover, onward _ noParse, unrecorded _ noParse noRecover,
    again, by decide +kernel⟩

end Parser

end ExprLang
