import ExprLang.Proofs.Resumption
import Mathlib.Order.Interval.Finset.Nat

/-!
# Errors in ascending order

Recovery reads the whole input and notices its faults at tokens further and further on, so that none
is reported twice and there is at most one more than there are tokens. The cursor alone does not
show this: a round of recovery need not read anything, and a fault may be noticed behind the cursor.
What ascends is the token of the fault, which never stands behind the token that the next attempt is
made from.

## Main definitions

* `Parser.surface`: a parser outside of all nesting.
* `Input.siteIndex`: the index of the token that a fault is noticed at.
* `Input.Ascending`: faults at tokens further and further on.
* `Input.Reported`: what follows for the errors that they are reported as.

## Main statements

* `Parser.recover_surface`: the nesting of a parser does not matter to recovery.
* `Parser.atEnd_afterRounds`, `Parser.length_rounds_le`: the rounds read the whole input.
* `attempts_ascending`: the faults of attempts.
* `Parser.errors_ascend`: the errors of recovery and of parsing.
-/

namespace ExprLang

namespace Parser

variable {p : Parser} {failed : Bool}

/-! ### Nesting -/

/-- The parser outside of all nesting. -/
def surface (p : Parser) : Parser :=
  { p with depth := 0 }

/-- The round with its parser outside of all nesting. -/
def Round.surface (r : Round) : Round :=
  { r with parser := r.parser.surface }

/-- Passing over a token does not look at the depth. -/
theorem skip_surface (p : Parser) : p.surface.skip = p.skip.surface := by
  have same : p.surface.atEnd = p.atEnd := rfl
  unfold skip
  rw [same]
  split <;> rfl

/-- Testing whether to resume does not look at the depth. -/
theorem resume_surface (p : Parser) : p.surface.resume = (p.resume.1, p.resume.2.surface) := by
  have same : p.surface.peek = p.peek := rfl
  unfold resume
  rw [same, skip_surface]
  split <;> rfl

/-- Seeking a place to resume at does not look at the depth. -/
theorem seek_surface (p : Parser) (failed : Bool) :
    p.surface.seek failed = ((p.seek failed).1, (p.seek failed).2.surface) := by
  have start : (if failed then p.surface.skip else p.surface) =
      (if failed then p.skip else p).surface := by
    cases failed with
    | false => rfl
    | true => exact skip_surface p
  unfold seek
  rw [start]
  exact resume_surface (if failed then p.skip else p).synchronize

/-- An attempt leaves the nesting as it is. -/
theorem depth_attempt (p : Parser) (rule : Rule) : (p.attempt rule).2.depth = p.depth := by
  unfold attempt
  split <;> rfl

/-- A parser that is at no depth is its own surface. -/
theorem surface_of_depth_eq (h : p.depth = 0) : p.surface = p := by
  rw [surface, ← h]

/-- A round makes its attempt outside of all nesting anyway. -/
theorem round_surface (p : Parser) (failed : Bool) :
    p.surface.round failed = (p.round failed).surface := by
  have sought := seek_surface p failed
  obtain ⟨q, found, eq⟩ | ⟨q, tree, r, found, made, eq⟩ | ⟨q, e, r, found, made, eq⟩ :=
    round_cases p failed <;> rw [found] at sought <;> rw [eq, Round.surface]
  · simp only [round, sought]
  all_goals
    have depth : r.depth = 0 := by
      have stays := depth_attempt { q with depth := 0 } .expression
      rwa [made] at stays
    have again : { q.surface with depth := 0 }.attempt .expression = (_, r) := made
    simp only [round, sought, again, surface_of_depth_eq depth]
  · rfl
  · rw [depth]
    rfl

/-- The rounds that a parser goes through are those of its surface. -/
theorem rounds_surface (p : Parser) (failed : Bool) :
    p.surface.rounds failed = (p.rounds failed).map Round.surface := by
  induction p, failed using rounds.induct with
  | case1 p failed done =>
    rw [rounds_of_atEnd failed done, rounds_of_atEnd failed (p := p.surface) done]
    rfl
  | case2 p failed notEnd ih =>
    rw [Bool.not_eq_true] at notEnd
    rw [rounds_of_not_atEnd failed notEnd, rounds_of_not_atEnd failed (p := p.surface) notEnd,
      round_surface, List.map_cons, ← ih]
    rfl

/-- The nesting of a parser does not matter to recovery. -/
theorem recover_surface (p : Parser) : p.surface.recover = p.recover.surface := by
  unfold recover afterRounds
  rw [rounds_surface, List.getLast?_map]
  cases (p.rounds true).getLast? <;> rfl

/-! ### Rounds -/

/-- The rounds of recovery go on until the whole input has been read. -/
theorem atEnd_afterRounds (p : Parser) (failed : Bool) : (p.afterRounds failed).atEnd = true := by
  induction p, failed using rounds.induct with
  | case1 p failed done =>
    rw [afterRounds_of_atEnd failed done]
    exact done
  | case2 p failed notEnd ih =>
    rw [Bool.not_eq_true] at notEnd
    rw [afterRounds_of_not_atEnd failed notEnd]
    exact ih

/-- A token takes at most two rounds: one that reads it, and one that finds no place for an
expression where an expression has just ended. -/
theorem length_rounds_le (p : Parser) (failed : Bool) :
    (p.rounds failed).length ≤ 2 * p.ahead.length + if failed then 0 else 1 := by
  induction p, failed using rounds.induct with
  | case1 p failed done =>
    rw [rounds_of_atEnd failed done]
    exact Nat.zero_le _
  | case2 p failed notEnd ih =>
    rw [Bool.not_eq_true] at notEnd
    have less := round_progresses p failed notEnd
    rw [rounds_of_not_atEnd failed notEnd, List.length_cons]
    omega

/-- What recovery notices are the faults of the attempts behind the token at the cursor. -/
theorem recover_attempts (p : Parser) :
    (p.rounds true).filterMap Round.start? =
      (attemptsFrom p.limit (resumePast p.ahead)).map p.input.position ∧
    p.recover.errors = p.errors ++
      ((attemptsFrom p.limit (resumePast p.ahead)).filterMap (fault? p.limit)).map
        p.input.report := by
  by_cases done : p.atEnd = true
  · have nothing : p.ahead = [] := List.isEmpty_iff.1 done
    rw [recover, afterRounds_of_atEnd true done, rounds_of_atEnd true done, nothing]
    simp [resumePast, attemptsFrom]
  · have inside : p.current < p.input.tokens.length := by
      rw [atEnd, List.isEmpty_iff, ahead, List.drop_eq_nil_iff] at done
      omega
    -- Recovery passes over a token first, as after a failure.
    have ready : p.surface.Ready true := by
      refine ⟨rfl, p.input.tokens.take p.current, p.ahead, ⟨?_, ?_⟩, by simp⟩
      · exact (List.take_append_drop _ _).symm
      · exact (List.length_take_of_le (Nat.le_of_lt inside)).symm
    constructor
    · have starts := ready.starts_rounds
      rw [rounds_surface, List.filterMap_map] at starts
      exact starts
    · have noted := ready.errors_afterRounds
      rw [← recover, recover_surface] at noted
      exact noted

end Parser

/-! ### Places of faults -/

/-- The index of the token that a fault is noticed at. At the end of the input it is the number of
tokens. -/
def Input.siteIndex (input : Input) (failure : Failure) : Nat :=
  input.position failure.site

/-- Whether faults are noticed at tokens of the input further and further on, from an index on. -/
structure Input.Ascending (input : Input) (low : Nat) (faults : List Failure) : Prop where
  site_isSuffix : ∀ failure ∈ faults, failure.site <:+ input.tokens
  increasing : (faults.map input.siteIndex).Pairwise (· < ·)
  low_le : ∀ failure ∈ faults, low ≤ input.siteIndex failure

namespace Input.Ascending

variable {input : Input} {low low' : Nat} {failure : Failure} {faults : List Failure}

theorem nil : input.Ascending low [] :=
  ⟨by simp, .nil, by simp⟩

/-- Indices that ascend from some index on ascend from any lower one on. -/
theorem mono (le : low' ≤ low) (h : input.Ascending low faults) : input.Ascending low' faults :=
  ⟨h.site_isSuffix, h.increasing, fun failure mem => Nat.le_trans le (h.low_le failure mem)⟩

/-- A fault no lower than the bound may stand before faults that ascend from behind it. -/
theorem cons (within : failure.site <:+ input.tokens) (le : low ≤ input.siteIndex failure)
    (h : input.Ascending (input.siteIndex failure + 1) faults) :
    input.Ascending low (failure :: faults) := by
  refine ⟨List.forall_mem_cons.2 ⟨within, h.site_isSuffix⟩, ?_, ?_⟩
  · rw [List.map_cons, List.pairwise_cons, List.forall_mem_map]
    exact ⟨h.low_le, h.increasing⟩
  · refine List.forall_mem_cons.2 ⟨le, fun later mem => ?_⟩
    have := h.low_le later mem
    omega

end Input.Ascending

section

variable {input : Input} {limit : Int} {made next : List Token} {failure : Failure}

/-- The attempt behind a fault is made behind the token of the fault. -/
theorem length_next_lt_of_fault (fault : fault? limit made = some failure)
    (h : nextAttempt limit made = some next) : next.length < failure.site.length := by
  have read := fault?_eq_some_iff.1 fault
  have reads : Reads _ _ (.rule .expression) made _ := reads_iff.2 read
  rw [nextAttempt, read] at h
  calc next.length < failure.rest.length := length_lt_of_resumePast h
    _ ≤ failure.site.length := reads.site.2.isSuffix.length_le

/-- The faults of attempts are noticed further and further on. -/
theorem attempts_ascending (within : made <:+ input.tokens) :
    input.Ascending (input.position made) ((attempts limit made).filterMap (fault? limit)) := by
  induction made using attempts.induct limit with
  | case1 made ih =>
    rw [attempts_eq]
    -- The later attempts are further on than any place that the next one is behind.
    have later (low : Nat) (passed : ∀ next, nextAttempt limit made = some next →
        low ≤ input.position next) : input.Ascending low
          ((attemptsFrom limit (nextAttempt limit made)).filterMap (fault? limit)) := by
      cases found : nextAttempt limit made with
      | none => exact .nil
      | some next =>
        have suffix := (nextAttempt_isSuffix found).1.trans within
        exact (ih next found suffix).mono (passed next found)
    cases fault : fault? limit made with
    | none =>
      rw [List.filterMap_cons_none fault]
      refine later _ fun next found => ?_
      have := (nextAttempt_isSuffix found).2
      unfold Input.position
      omega
    | some failure =>
      have reads : Reads _ _ (.rule .expression) made _ := reads_iff.2 (fault?_eq_some_iff.1 fault)
      have site := reads.site.1
      rw [List.filterMap_cons_some fault]
      refine .cons (site.trans within) ?_ (later _ fun next found => ?_)
      · have := site.length_le
        unfold Input.siteIndex Input.position
        omega
      · have := length_next_lt_of_fault fault found
        have := (site.trans within).length_le
        unfold Input.siteIndex Input.position
        omega

end

/-! ### Errors -/

/-- The errors that faults among the tokens are reported as, when the faults are noticed further and
further on, from an index on. -/
structure ReportedInOrder (tokens : List Token) (low : Nat) (faults : List Failure)
    (errors : List GrammarError) : Prop where
  errors_eq : errors = faults.map (Input.ofTokens tokens).report
  /-- An error is tied to the token that stands at the index of its fault. -/
  token_eq : ∀ failure ∈ faults, ∀ token ∈ tokens[(Input.ofTokens tokens).siteIndex failure]?,
    ((Input.ofTokens tokens).report failure).token = token
  increasing : (faults.map (Input.ofTokens tokens).siteIndex).Pairwise (· < ·)
  within : ∀ failure ∈ faults, low ≤ (Input.ofTokens tokens).siteIndex failure ∧
    (Input.ofTokens tokens).siteIndex failure ≤ (tokens.takeWhile fun token => !token.isEnd).length
  /-- Only the last error can be at the end of the input. -/
  last_of_isEnd : ∀ n e, errors[n]? = some e → e.token.isEnd = true → errors.length = n + 1
  length_le : errors.length ≤ (tokens.takeWhile fun token => !token.isEnd).length + 1 - low

/-- Ascending indices of a range are no more than the range has. -/
theorem length_le_of_pairwise_lt {indices : List Nat} {low high : Nat}
    (increasing : indices.Pairwise (· < ·)) (within : ∀ i ∈ indices, low ≤ i ∧ i ≤ high) :
    indices.length ≤ high + 1 - low := by
  have nodup : indices.Nodup := increasing.imp Nat.ne_of_lt
  have subset : indices.toFinset ⊆ Finset.Icc low high :=
    fun i mem => Finset.mem_Icc.2 (within i (List.mem_toFinset.1 mem))
  have card := Finset.card_le_card subset
  rwa [List.toFinset_card_of_nodup nodup, Nat.card_Icc] at card

/-- A fault whose token ends the input is noticed behind all tokens. -/
theorem Input.siteIndex_of_isEnd {input : Input} {failure : Failure}
    (within : failure.site <:+ input.tokens) (h : (input.report failure).token.isEnd = true) :
    input.siteIndex failure = input.tokens.length := by
  cases site : failure.site with
  | nil =>
    rw [siteIndex, position, site]
    rfl
  | cons token rest =>
    rw [site] at within
    have inside := input.not_isEnd token (within.subset List.mem_cons_self)
    have same : (input.report failure).token = token := by
      rw [report, site]
      rfl
    rw [same, inside] at h
    cases h

namespace Input.Ascending

variable {tokens : List Token} {low : Nat} {faults : List Failure}

/-- A fault at the end of the input is the last one, since no index follows that of the end. -/
theorem last_of_isEnd {input : Input} {n : Nat} {failure : Failure}
    (h : input.Ascending low faults) (found : faults[n]? = some failure)
    (isEnd : (input.report failure).token.isEnd = true) : faults.length = n + 1 := by
  obtain ⟨less, rfl⟩ := List.getElem?_eq_some_iff.1 found
  have last := siteIndex_of_isEnd (h.site_isSuffix _ (List.getElem_mem less)) isEnd
  by_contra other
  have next : n + 1 < faults.length := by omega
  -- The fault after it would have to be noticed behind the end.
  have behind := List.pairwise_iff_getElem.1 h.increasing n (n + 1) (by simpa using less)
    (by simpa using next) (Nat.lt_succ_self n)
  rw [List.getElem_map, List.getElem_map, last] at behind
  exact Nat.not_lt.2 (Nat.sub_le _ _) behind

/-- Faults in ascending order are reported in the order of their tokens. -/
theorem reported (h : (ofTokens tokens).Ascending low faults) :
    ReportedInOrder tokens low faults (faults.map (ofTokens tokens).report) := by
  have within : ∀ failure ∈ faults, low ≤ (ofTokens tokens).siteIndex failure ∧
      (ofTokens tokens).siteIndex failure ≤ (tokens.takeWhile fun token => !token.isEnd).length :=
    fun failure mem => ⟨h.low_le failure mem, Nat.sub_le _ _⟩
  refine ⟨rfl, ?_, h.increasing, within, ?_, ?_⟩
  · intro failure mem token found
    have read := firstOf_drop_ofTokens (within failure mem).2 found
    rwa [siteIndex, drop_position (h.site_isSuffix failure mem)] at read
  · intro n e found isEnd
    rw [List.getElem?_map] at found
    obtain ⟨failure, fault, rfl⟩ := Option.map_eq_some_iff.1 found
    rw [List.length_map]
    exact h.last_of_isEnd fault isEnd
  · have bound := length_le_of_pairwise_lt h.increasing (List.forall_mem_map.2 within)
    rwa [List.length_map] at bound ⊢

end Input.Ascending

namespace Parser

/-- The faults that recovery from a parser notices, in order. -/
def recoveryFaults (p : Parser) : List Failure :=
  ((p.rounds true).filterMap Round.start?).filterMap p.faultFrom?

/-- The faults that parsing an input notices, in order. -/
def faults (p : Parser) : List Failure :=
  p.attemptStarts.filterMap p.faultFrom?

/-- The faults at the positions of attempts are the faults of the attempts. -/
theorem filterMap_faultFrom? {p : Parser} {made : List (List Token)}
    (within : ∀ tokens ∈ made, tokens <:+ p.input.tokens) :
    (made.map p.input.position).filterMap p.faultFrom? = made.filterMap (fault? p.limit) := by
  rw [List.filterMap_map]
  refine List.filterMap_congr fun tokens mem => ?_
  rw [Function.comp, faultFrom?, Input.drop_position (within tokens mem)]

/-- Recovery notices faults behind its cursor only, in ascending order, and records them all. -/
theorem recoveryFaults_ascending (p : Parser) :
    p.input.Ascending (p.current + 1) p.recoveryFaults ∧
      p.recover.errors = p.errors ++ p.recoveryFaults.map p.input.report := by
  obtain ⟨starts, noted⟩ := p.recover_attempts
  rw [recoveryFaults, starts, noted]
  cases found : resumePast p.ahead with
  | none => exact ⟨.nil, rfl⟩
  | some next =>
    have suffix := (resumePast_isSuffix found).trans (List.tail_suffix _)
    have within : next <:+ p.input.tokens := suffix.trans (List.drop_suffix _ _)
    have behind : p.current + 1 ≤ p.input.position next := by
      have less := length_lt_of_resumePast found
      rw [ahead, List.length_drop] at less
      rw [Input.position]
      omega
    have made : ∀ tokens ∈ attempts p.limit next, tokens <:+ p.input.tokens :=
      fun tokens mem => (attempts_isSuffix mem).trans within
    rw [attemptsFrom, filterMap_faultFrom? made]
    exact ⟨(attempts_ascending within).mono behind, rfl⟩

/-- Parsing with recovery notices faults in ascending order from the first token on. -/
theorem faults_ascending {p : Parser} (recovers : p.recovers = true) :
    p.input.Ascending 0 p.faults := by
  cases read : Rule.expression.read p.limit p.limit.toNat p.input.tokens with
  | ok result =>
    have clean : p.faultFrom? 0 = none := by
      rw [faultFrom?, List.drop_zero]
      exact fault?_eq_none_iff.2 ⟨result.1, result.2, read⟩
    rw [faults, attemptStarts_of_clean clean, List.filterMap_cons_none clean]
    exact .nil
  | error failure =>
    have made : ∀ tokens ∈ attempts p.limit p.input.tokens, tokens <:+ p.input.tokens :=
      fun tokens mem => attempts_isSuffix mem
    rw [faults, attemptStarts_of_fault recovers read, filterMap_faultFrom? made]
    exact (attempts_ascending (List.suffix_refl _)).mono (Nat.zero_le _)

/-- Recovery from any place ends with the whole input read. What it notices are faults at tokens
behind the cursor, further and further on. Parsing notices the first fault in front of them, and so
it reports no token twice, at most one error at the end of the input and no more than one error
more than there are tokens. -/
theorem errors_ascend (tokens : List Token) (limit : Int) :
    (∀ (recovers : Bool) (current depth : Nat) (errors : List GrammarError),
      let p : Parser := ⟨.ofTokens tokens, recovers, limit, current, depth, errors⟩
      p.recover.atEnd = true ∧ (p.rounds true).length ≤ 2 * p.ahead.length ∧
      ∃ noted, p.recover.errors = errors ++ noted ∧
        ReportedInOrder tokens (current + 1) p.recoveryFaults noted) ∧
    let p := Parser.ofTokens tokens true limit
    ReportedInOrder tokens 0 p.faults p.parse.2.errors ∧
      (p.parse.1 = none → p.parse.2.atEnd = true) := by
  constructor
  · intro recovers current depth errors p
    obtain ⟨ascending, noted⟩ := p.recoveryFaults_ascending
    exact ⟨p.atEnd_afterRounds true, p.length_rounds_le true, _, noted, ascending.reported⟩
  · intro p
    have noted : p.parse.2.errors = p.faults.map p.input.report := errors_parse_eq rfl
    refine ⟨noted ▸ (faults_ascending (p := p) rfl).reported, ?_⟩
    intro missing
    cases read : Rule.expression.read p.limit p.limit.toNat p.input.tokens with
    | ok result =>
      rw [parse_ok read] at missing
      cases missing
    | error failure =>
      rw [parse_error read]
      exact atEnd_afterRounds _ true

/-- Two faults of `1 + 1 ; (` when no operator is allowed: the first is noticed at the operator,
behind which the cursor stands by then, and the second at the end. -/
theorem errors_ascend_tall :
    let tokens : List Token := [⟨.number, "1", .integer 1, 1⟩, ⟨.plus, "+", .nil, 1⟩,
      ⟨.number, "1", .integer 1, 1⟩, ⟨.semicolon, ";", .nil, 1⟩, ⟨.leftParen, "(", .nil, 1⟩,
      .endOfInput 1]
    let p := Parser.ofTokens tokens true 0
    p.parse.1 = none ∧ p.parse.2.atEnd = true ∧ p.faults.map p.input.siteIndex = [1, 5] ∧
      ReportedInOrder tokens 0 p.faults p.parse.2.errors := by
  intro tokens p
  obtain ⟨-, reported, ended⟩ := errors_ascend tokens 0
  have failed : p.parse.1 = none := by decide +kernel
  exact ⟨failed, ended failed, by decide +kernel, reported⟩

end Parser

end ExprLang
