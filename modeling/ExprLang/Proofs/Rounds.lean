import ExprLang.Parser.Parse
import ExprLang.Proofs.Attempts

/-!
# Rounds of recovery

The rounds of recovery make the attempts that their tokens ask for and record the faults of these
attempts. Between two rounds the cursor stands where the last attempt ended.

## Main definitions

* `Parser.At`: the cursor between the tokens read and the ones ahead.
* `Parser.Ready`: whether rounds may go on from a parser.
* `Parser.attemptStarts`: where the attempts of parsing an input start.

## Main statements

* `Parser.Ready.round`: what a round does.
* `Parser.Ready.starts_rounds`, `Parser.Ready.errors_afterRounds`: what all rounds do.
* `Parser.attemptStarts_of_fault`, `Parser.errors_parse`: the attempts of a parser.
-/

namespace ExprLang

namespace Parser

/-! ### Tokens around the cursor -/

/-- Whether the cursor of a parser stands between the two lists, which make up its input. -/
def At (p : Parser) (front rest : List Token) : Prop :=
  p.input.tokens = front ++ rest ∧ p.current = front.length

namespace At

variable {p : Parser} {front used rest : List Token} {token : Token}

/-- A cursor within the input stands between what is in front of it and what is ahead. -/
theorem of_current_le (h : p.current ≤ p.input.tokens.length) :
    p.At (p.input.tokens.take p.current) p.ahead :=
  ⟨(List.take_append_drop _ _).symm, (List.length_take_of_le h).symm⟩

theorem ahead_eq (h : p.At front rest) : p.ahead = rest := by
  rw [ahead, h.1, h.2, List.drop_left]

/-- The cursor is at the index of the tokens ahead. -/
theorem current_eq (h : p.At front rest) : p.current = p.input.position rest :=
  h.2.trans (Input.position_of_eq_append h.1).symm

/-- The parser looks at the first token ahead. -/
theorem peek_eq (h : p.At front (token :: rest)) : p.peek = token := by
  rw [peek, h.ahead_eq]
  rfl

/-- Behind all tokens the parser looks at the one that stops the input. -/
theorem peek_end (h : p.At front []) : p.peek.kind = .endOfInput := by
  have stop : p.input.stop.kind = .endOfInput := by
    simpa [Token.isEnd] using p.input.stop_isEnd
  rw [peek, h.ahead_eq]
  exact stop

theorem atEnd_iff (h : p.At front rest) : p.atEnd = true ↔ rest = [] := by
  rw [atEnd, h.ahead_eq, List.isEmpty_iff]

/-- The token read last is the last one in front of the cursor. -/
theorem previous_eq (h : p.At (front ++ [token]) rest) : p.previous = token := by
  have current : p.current = front.length + 1 := by rw [h.2, List.length_append]; rfl
  have front : p.input.tokens.drop front.length = token :: rest := by
    rw [h.1, List.append_assoc, List.drop_left]
    rfl
  rw [previous, if_neg (by omega), current, Nat.add_sub_cancel, front]
  rfl

/-- Moving to a rear of the tokens ahead leaves those in front of it behind the cursor. -/
theorem moveTo (h : p.At front (used ++ rest)) : (p.moveTo rest).At (front ++ used) rest := by
  have split : p.input.tokens = front ++ used ++ rest := by rw [h.1, List.append_assoc]
  exact ⟨split, Input.position_of_eq_append split⟩

theorem skip_eq (h : p.At front (token :: rest)) :
    p.skip = { p with current := p.current + 1 } := by
  rw [Parser.skip, if_neg (by simp [h.atEnd_iff])]

/-- Passing over a token leaves it behind the cursor. -/
theorem skip (h : p.At front (token :: rest)) : p.skip.At (front ++ [token]) rest := by
  rw [h.skip_eq]
  exact ⟨by rw [List.append_assoc]; exact h.1, by rw [List.length_append, ← h.2]; rfl⟩

end At

variable {p : Parser} {front tokens rest : List Token} {token : Token} {tree : Expr}
  {failure : Failure}

/-! ### Looking for an expression -/

/-- One step towards the next boundary. -/
theorem synchronize_cons (h : p.At front (token :: rest)) : p.synchronize =
    if p.previous.kind.endsStatement || token.kind.startsStatement then p
    else p.skip.synchronize := by
  have skipped := h.skip
  rw [synchronize, h.ahead_eq, beforeBoundary]
  split
  · rfl
  · rw [synchronize, skipped.ahead_eq, skipped.previous_eq, h.skip_eq, Nat.add_assoc,
      Nat.add_comm _ 1]

/-- Moving to a boundary passes no place for an expression. -/
theorem synchronize_spec (h : p.At (front ++ [token]) rest) :
    ∃ front' token' rest', p.synchronize.At (front' ++ [token']) rest' ∧
      resumeBehind token'.kind.endsStatement rest' =
        resumeBehind token.kind.endsStatement rest := by
  induction rest generalizing p front token with
  | nil =>
    have same : p.synchronize = p := by
      rw [synchronize, h.ahead_eq]
      rfl
    refine ⟨front, token, [], ?_, rfl⟩
    rw [same]
    exact h
  | cons next rest ih =>
    have step := synchronize_cons h
    rw [h.previous_eq] at step
    -- At a boundary the parser stays. Otherwise no expression may begin behind the next token.
    by_cases boundary : token.kind.endsStatement || next.kind.startsStatement
    · rw [if_pos boundary] at step
      refine ⟨front, token, next :: rest, ?_, rfl⟩
      rw [step]
      exact h
    · rw [if_neg boundary] at step
      rw [Bool.or_eq_true, not_or, Bool.not_eq_true, Bool.not_eq_true] at boundary
      obtain ⟨front', token', rest', place, same⟩ := ih h.skip
      refine ⟨front', token', rest', step.symm ▸ place, same.trans ?_⟩
      simp [resumeBehind, boundary.1, Kind.introducesExpr_eq_false boundary.2]

/-- A parser resumes where there is a place for an expression. Otherwise that is further on. -/
theorem resume_spec (h : p.At (front ++ [token]) rest) :
    ∃ front' rest', p.resume.2.At front' rest' ∧
      resumeBehind token.kind.endsStatement rest =
        if p.resume.1 then some rest' else resumePast rest' := by
  cases rest with
  | nil =>
    have stays : p.resume = (false, p) := by
      simp [resume, h.peek_end, h.atEnd_iff.2, Kind.introducesExpr]
    rw [stays]
    exact ⟨_, [], h, rfl⟩
  | cons next rest =>
    by_cases introduces : next.kind.introducesExpr
    · have moves : p.resume = (true, p.skip) := by
        rw [resume, h.peek_eq, if_pos introduces]
      rw [moves]
      refine ⟨_, rest, h.skip, ?_⟩
      simp [resumeBehind, introduces, Kind.startsStatement_of_introducesExpr introduces]
    · have notEnd : p.atEnd = false := by simp [← Bool.not_eq_true, h.atEnd_iff]
      have stays : p.resume =
          (token.kind.endsStatement && !next.kind.startsStatement, p) := by
        rw [resume, h.peek_eq, if_neg introduces, h.previous_eq, notEnd]
        rfl
      rw [stays]
      refine ⟨_, next :: rest, h, ?_⟩
      cases place : token.kind.endsStatement && !next.kind.startsStatement with
      | true => simp [resumeBehind, place]
      | false => simp [resumeBehind, resumePast, place, introduces]

/-- A search from where the last attempt ended finds the place for the next one, or passes none. -/
theorem seek_spec (h : p.At (front ++ [token]) rest) :
    ∃ front' rest', (p.seek false).2.At front' rest' ∧
      resumeBehind token.kind.endsStatement rest =
        if (p.seek false).1 then some rest' else resumePast rest' := by
  obtain ⟨_, _, _, place, same⟩ := synchronize_spec h
  obtain ⟨front', rest', there, next⟩ := resume_spec place
  exact ⟨front', rest', there, same.symm.trans next⟩

theorem skip_frame (p : Parser) : p.skip = { p with current := p.skip.current } := by
  unfold skip
  split <;> rfl

/-- A search moves the cursor and changes nothing else. -/
theorem seek_frame (p : Parser) (failed : Bool) :
    (p.seek failed).2 = { p with current := (p.seek failed).2.current } := by
  have resumed (q : Parser) : q.resume.2 = { q with current := q.resume.2.current } := by
    unfold resume
    split
    · exact skip_frame q
    · rfl
  have start : (if failed then p.skip else p) =
      { p with current := (if failed then p.skip else p).current } := by
    cases failed with
    | false => rfl
    | true => exact skip_frame p
  unfold seek
  rw [resumed, synchronize, start]

/-- An attempt reads the tokens ahead with the whole room. -/
theorem At.attempt_eq (h : p.At front tokens) :
    { p with depth := 0 }.attempt .expression =
      match Rule.expression.read p.limit p.limit.toNat tokens with
      | .ok (tree, rest) => (.ok tree, { p with depth := 0 }.moveTo rest)
      | .error failure =>
        (.error (p.input.report failure), { p with depth := 0 }.moveTo failure.rest) := by
  have ahead : { p with depth := 0 }.ahead = tokens := h.ahead_eq
  have room : { p with depth := 0 }.room = p.limit.toNat := by simp [room]
  cases read : Rule.expression.read p.limit p.limit.toNat tokens with
  | ok result => simp only [attempt, ahead, room, read]
  | error failure => simp only [attempt, ahead, room, read]

/-! ### Rounds -/

/-- Where the next attempt is made, given whether the last one failed. -/
def next? (p : Parser) (failed : Bool) : Option (List Token) :=
  if failed then resumePast p.ahead else resumeBehind false p.ahead

/-- Whether the rounds may go on from a parser. After an expression its last token is behind the
cursor, and that ends no statement. -/
structure Ready (p : Parser) (failed : Bool) : Prop where
  depth_eq : p.depth = 0
  place : ∃ front rest, p.At front rest ∧
    (failed = false → ∃ before token, front = before ++ [token] ∧ token.kind.endsStatement = false)

/-- A search finds the place that a parser is to go on at. -/
theorem Ready.seek {failed : Bool} (ready : p.Ready failed) (notEnd : p.atEnd = false) :
    ∃ front rest, (p.seek failed).2.At front rest ∧
      p.next? failed = if (p.seek failed).1 then some rest else resumePast rest := by
  obtain ⟨front, rest, place, clean⟩ := ready.place
  cases failed with
  | false =>
    obtain ⟨before, token, rfl, plain⟩ := clean rfl
    obtain ⟨front', rest', there, next⟩ := seek_spec place
    refine ⟨front', rest', there, ?_⟩
    rw [plain] at next
    rw [next?, if_neg (by simp), place.ahead_eq]
    exact next
  | true =>
    cases rest with
    | nil => simp [place.atEnd_iff.2] at notEnd
    | cons token rest =>
      obtain ⟨front', rest', there, next⟩ := seek_spec place.skip
      refine ⟨front', rest', there, ?_⟩
      rw [next?, if_pos rfl, place.ahead_eq, resumePast, next]
      rfl

/-- After an expression the rounds may go on, and they look for the attempt behind it. -/
theorem At.after_tree (h : p.At front tokens) (depth : p.depth = 0)
    (read : Rule.expression.read p.limit p.limit.toNat tokens = .ok (tree, rest)) :
    (p.moveTo rest).Ready false ∧ (p.moveTo rest).next? false = nextAttempt p.limit tokens := by
  have reads : Reads _ _ (.rule .expression) tokens _ := reads_iff.2 read
  have less := reads.length_lt
  obtain ⟨used, rfl, plain⟩ := reads.consumes
  simp only [remaining] at *
  obtain ⟨before, token, rfl⟩ : ∃ before token, used = before ++ [token] := by
    rcases List.eq_nil_or_concat used with rfl | ⟨before, token, same⟩
    · simp at less
    · exact ⟨before, token, by simpa using same⟩
  constructor
  · refine ⟨depth, _, _, h.moveTo, fun _ => ⟨front ++ before, token, by simp, ?_⟩⟩
    rw [← Bool.not_eq_true, Kind.endsStatement_iff]
    exact Kind.ne_semicolon (plain token (by simp))
  · rw [next?, if_neg (by simp), h.moveTo.ahead_eq, nextAttempt, read]

/-- After a fault the rounds may go on as well, and look behind the token at the cursor. -/
theorem At.after_fault (h : p.At front tokens) (depth : p.depth = 0)
    (read : Rule.expression.read p.limit p.limit.toNat tokens = .error failure) :
    (p.moveTo failure.rest).Ready true ∧
      (p.moveTo failure.rest).next? true = nextAttempt p.limit tokens := by
  have reads : Reads _ _ (.rule .expression) tokens _ := reads_iff.2 read
  obtain ⟨used, rfl, -⟩ := reads.consumes
  simp only [remaining] at h
  constructor
  · exact ⟨depth, _, _, h.moveTo, by simp⟩
  · rw [next?, if_pos rfl, h.moveTo.ahead_eq, nextAttempt, read]

/-- What a round does: it makes the next attempt, if there is one before the next round looks
again, and records its fault. -/
theorem Ready.round {failed : Bool} (ready : p.Ready failed) (notEnd : p.atEnd = false) :
    ∃ found : Option (List Token),
      (p.round failed).start? = found.map p.input.position ∧
      (∃ c, (p.round failed).parser = { p with
        current := c
        errors := p.errors ++ ((found.bind (fault? p.limit)).map p.input.report).toList }) ∧
      (p.round failed).parser.Ready (p.round failed).failed ∧
      attemptsFrom p.limit (p.next? failed) = found.toList ++
        attemptsFrom p.limit ((p.round failed).parser.next? (p.round failed).failed) := by
  obtain ⟨front, tokens, there, next⟩ := ready.seek notEnd
  have depth := ready.depth_eq
  have frame := seek_frame p failed
  have cases := round_cases p failed
  generalize p.seek failed = sought at *
  obtain ⟨may, q⟩ := sought
  obtain ⟨c, rfl⟩ : ∃ c, q = { p with current := c } := ⟨_, frame⟩
  obtain ⟨q, found, eq⟩ | ⟨q, tree, r, found, made, eq⟩ | ⟨q, e, r, found, made, eq⟩ := cases <;>
    cases found <;> rw [eq]
  -- No expression may begin where the round has looked, and the next round looks on from there.
  · refine ⟨none, rfl, ⟨c, by simp⟩, ⟨depth, _, _, there, by simp⟩, ?_⟩
    rw [next]
    simp [next?, there.ahead_eq]
  all_goals
    have clear : At { p with current := c, depth := 0 } front tokens := there
    have attempt := there.attempt_eq
    have again := attempts_eq p.limit tokens
    rw [made] at attempt
    rw [next, if_pos rfl, attemptsFrom, again]
    split at attempt <;> cases attempt
  · next rest read =>
    obtain ⟨after, later⟩ := clear.after_tree rfl read
    refine ⟨some tokens, congrArg some there.current_eq, ⟨p.input.position rest, ?_⟩, after, ?_⟩
    · simp [fault?, read, moveTo, depth]
    · rw [later]
      rfl
  · next failure read =>
    obtain ⟨after, later⟩ := clear.after_fault rfl read
    refine ⟨some tokens, congrArg some there.current_eq, ⟨p.input.position failure.rest, ?_⟩,
      ⟨rfl, after.place⟩, ?_⟩
    · simp [fault?, read, moveTo, depth]
    · exact congrArg (tokens :: attemptsFrom p.limit ·) later.symm

/-- The rounds make the attempts that follow, one by one. -/
theorem Ready.starts_rounds {failed : Bool} (ready : p.Ready failed) :
    (p.rounds failed).filterMap Round.start? =
      (attemptsFrom p.limit (p.next? failed)).map p.input.position := by
  induction p, failed using rounds.induct with
  | case1 p failed done =>
    rw [rounds_of_atEnd failed done, next?, List.isEmpty_iff.1 done]
    cases failed <;> rfl
  | case2 p failed notEnd ih =>
    rw [Bool.not_eq_true] at notEnd
    obtain ⟨found, start, ⟨c, same⟩, after, attempted⟩ := ready.round notEnd
    rw [rounds_of_not_atEnd failed notEnd, attempted, List.map_append, ← List.singleton_append,
      List.filterMap_append, ih after, same]
    cases found <;> simp [start]

/-- The rounds record the faults of the attempts that follow, one by one. -/
theorem Ready.errors_afterRounds {failed : Bool} (ready : p.Ready failed) :
    (p.afterRounds failed).errors = p.errors ++
      ((attemptsFrom p.limit (p.next? failed)).filterMap (fault? p.limit)).map p.input.report := by
  induction p, failed using rounds.induct with
  | case1 p failed done =>
    rw [afterRounds_of_atEnd failed done, next?, List.isEmpty_iff.1 done]
    cases failed <;> simp [resumePast, resumeBehind, attemptsFrom]
  | case2 p failed notEnd ih =>
    rw [Bool.not_eq_true] at notEnd
    obtain ⟨found, -, ⟨c, same⟩, after, attempted⟩ := ready.round notEnd
    rw [afterRounds_of_not_atEnd failed notEnd, attempted, List.filterMap_append, List.map_append,
      ih after, same]
    cases found with
    | none => simp
    | some tokens => cases faulty : fault? p.limit tokens <;> simp [faulty]

/-- Where the attempts of parsing the input start, in order. -/
def attemptStarts (p : Parser) : List Nat :=
  0 :: match p.restart.attempt .expression with
    | (.ok _, _) => []
    | (.error e, failed) =>
      if p.recovers then ({ failed with errors := [e] }.rounds true).filterMap Round.start? else []

/-- With a tree there is one attempt. -/
theorem attemptStarts_of_tree
    (read : Rule.expression.read p.limit p.limit.toNat p.input.tokens = .ok (tree, rest)) :
    p.attemptStarts = [0] := by
  have place : p.restart.At [] p.input.tokens := ⟨rfl, rfl⟩
  have attempt := place.attempt_eq
  rw [show p.restart.limit = p.limit from rfl, read] at attempt
  rw [attemptStarts, show p.restart.attempt .expression = _ from attempt]

/-- Behind the fault of the first attempt rounds may begin. -/
theorem ready_noted
    (read : Rule.expression.read p.limit p.limit.toNat p.input.tokens = .error failure) :
    (p.noted failure).Ready true ∧
      (p.noted failure).next? true = nextAttempt p.limit p.input.tokens := by
  have place : p.restart.At [] p.input.tokens := ⟨rfl, rfl⟩
  obtain ⟨after, later⟩ := place.after_fault rfl read
  exact ⟨⟨rfl, after.place⟩, later⟩

/-- With a fault the attempts are those that the tokens ask for. -/
theorem attemptStarts_of_fault (recovers : p.recovers = true)
    (read : Rule.expression.read p.limit p.limit.toNat p.input.tokens = .error failure) :
    p.attemptStarts = (attempts p.limit p.input.tokens).map p.input.position := by
  have place : p.restart.At [] p.input.tokens := ⟨rfl, rfl⟩
  have attempt := place.attempt_eq
  obtain ⟨ready, next⟩ := ready_noted read
  rw [show p.restart.limit = p.limit from rfl, read] at attempt
  rw [attemptStarts, show p.restart.attempt .expression = _ from attempt, attempts_eq,
    List.map_cons, Input.position, Nat.sub_self, ← next]
  simp only [if_pos recovers]
  exact congrArg (0 :: ·) ready.starts_rounds

/-- After a fault of the first attempt, a parser that recovers records the faults of all. -/
theorem errors_parse (recovers : p.recovers = true)
    (read : Rule.expression.read p.limit p.limit.toNat p.input.tokens = .error failure) :
    p.parse.2.errors =
      ((attempts p.limit p.input.tokens).filterMap (fault? p.limit)).map p.input.report := by
  obtain ⟨ready, next⟩ := ready_noted read
  have fault := fault?_eq_some_iff.2 read
  rw [parse_error read, if_pos recovers, recover, ready.errors_afterRounds, next, attempts_eq,
    List.filterMap_cons_some fault]
  rfl

end Parser

end ExprLang
