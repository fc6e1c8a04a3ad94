import ExprLang.Proofs.Behind
import ExprLang.Proofs.TokenIndices
import ExprLang.Proofs.WithoutRecovery

/-!
# The end of the input

A list of tokens is parsed up to the first token that ends the input. What stands behind that token
does not matter, and a list without such a token is parsed as if one stood behind it.

An input keeps only the tokens in front of its end. That this comes to the same as working on the
whole list is shown by a second description of parsing, which knows nothing but the list and an
index: it looks at the token at the index and at the one in front of it, and it hands the rules
everything from the index on, the end and the tokens behind it included.

## Main definitions

* `InList.synchronizeFrom`, `InList.resumeFrom`, `InList.attemptFrom`, `InList.turn`: the steps of
  parsing on a list.
* `InList.Recovers`, `InList.Parses`: recovery and parsing on a list.
* `InList.On`: a parser between two steps on a list.

## Main statements

* `Input.ofTokens_append`, `Input.ofTokens_append_endOfInput`: lists that stand for one input.
* `InList.On.attempt_eq`, `InList.On.round_eq`: an attempt and a round of recovery on the list.
* `InList.parses_iff`: parsing an input is parsing on the list.
* `Parser.parse_up_to_end`: what matters to parsing and what does not.
-/

namespace ExprLang

/-! ### Inputs -/

namespace Input

variable {tokens front : List Token} {k : Nat}

/-- An input is given by its tokens and the token that stops it. -/
theorem eq_of_tokens_eq_of_stop_eq {a b : Input} (same : a.tokens = b.tokens)
    (same' : a.stop = b.stop) : a = b := by
  cases a
  cases b
  cases same
  cases same'
  rfl

/-- What stands behind the end of the input is no part of it. -/
theorem ofTokens_append (ended : ∃ token ∈ front, token.isEnd = true) (behind : List Token) :
    ofTokens (front ++ behind) = ofTokens front := by
  obtain ⟨stop, found⟩ := Option.isSome_iff_exists.1 (List.find?_isSome.2 ended)
  have short : (front.takeWhile fun token => !token.isEnd).length ≠ front.length := by
    intro all
    have whole : (ofTokens front).tokens = front := (List.takeWhile_sublist _).eq_of_length all
    obtain ⟨token, mem, isEnd⟩ := ended
    have inside := (ofTokens front).not_isEnd token (by rw [whole]; exact mem)
    rw [isEnd] at inside
    cases inside
  apply eq_of_tokens_eq_of_stop_eq
  · show (front ++ behind).takeWhile _ = front.takeWhile _
    rw [List.takeWhile_append, if_neg short]
  · show stopOf (front ++ behind) = stopOf front
    rw [stopOf, stopOf, List.find?_append, found]
    rfl

/-- A list without a token for the end stands for the same input as with one behind it. -/
theorem ofTokens_append_endOfInput (notEnd : ∀ token ∈ tokens, token.isEnd = false) :
    ofTokens (tokens ++ [.endOfInput ((tokens.getLast?.map Token.line).getD 1)]) =
      ofTokens tokens := by
  have ends : (Token.endOfInput ((tokens.getLast?.map Token.line).getD 1)).kind = .endOfInput := rfl
  obtain ⟨same, stop⟩ := ofTokens_append_end notEnd ends
  apply eq_of_tokens_eq_of_stop_eq
  · rw [same, tokens_ofTokens_eq_self notEnd]
  · rw [stop]
    show _ = stopOf tokens
    rw [stopOf, find?_isEnd_eq_none notEnd, Option.getD_none]

/-- A list that has an end has one among the tokens up to its first. -/
theorem exists_isEnd_mem_take (h : tokens.findIdx Token.isEnd < tokens.length) :
    ∃ token ∈ tokens.take (tokens.findIdx Token.isEnd + 1), token.isEnd = true :=
  ⟨tokens[tokens.findIdx Token.isEnd], List.mem_take_iff_getElem.2 ⟨_, by omega, rfl⟩,
    List.findIdx_getElem⟩

/-- The tokens of a list from an index on are those of the input, and then the end with what stands
behind it, which no rule takes. -/
theorem drop_eq_append (le : k ≤ (ofTokens tokens).tokens.length) :
    ∃ behind, tokens.drop k = (ofTokens tokens).tokens.drop k ++ behind ∧
      tokens.length = (ofTokens tokens).tokens.length + behind.length ∧
      ¬ BeginsWith exprKinds behind := by
  have whole : (ofTokens tokens).tokens ++ tokens.dropWhile (fun token => !token.isEnd) = tokens :=
    List.takeWhile_append_dropWhile
  refine ⟨tokens.dropWhile fun token => !token.isEnd, ?_, ?_, ?_⟩
  · rw [← List.drop_append_of_le_length le, whole]
  · rw [← List.length_append, whole]
  · cases behind : tokens.dropWhile fun token => !token.isEnd with
    | nil => exact beginsWith_nil _
    | cons token rest =>
      have ends : token.isEnd = true := by
        have stopped := List.head?_dropWhile_not (fun token : Token => !token.isEnd) tokens
        rw [behind] at stopped
        simpa using stopped
      rw [beginsWith_cons, of_decide_eq_true ends]
      decide

end Input

namespace InList

/-! ### Parsing on a list -/

section

variable (tokens : List Token) (limit : Int)

/-- Whether the input ends at an index. -/
def endsAt (i : Nat) : Bool :=
  (tokenAt tokens i).isEnd

/-- The token in front of an index, or the first token when there is none in front. -/
def previousTo (i : Nat) : Token :=
  tokenAt tokens (i - 1)

/-- The index behind the token that is read, which is none at the end. -/
def skipFrom (i : Nat) : Nat :=
  if endsAt tokens i then i else i + 1

/-- An index at which a list does not end is one of its tokens. -/
theorem lt_length_of_endsAt {i : Nat} (h : ¬ endsAt tokens i) : i < tokens.length := by
  refine Nat.lt_of_not_le fun past => h ?_
  exact isEnd_tokenAt_of_length_le past

/-- The next boundary of a statement. -/
def synchronizeFrom (i : Nat) : Nat :=
  if endsAt tokens i then i
  else if (previousTo tokens i).kind.endsStatement || (tokenAt tokens i).kind.startsStatement then i
  else synchronizeFrom (i + 1)
termination_by tokens.length - i
decreasing_by
  have := lt_length_of_endsAt tokens ‹_›
  omega

/-- Whether an expression may begin at an index, and the index at which it does. -/
def resumeFrom (i : Nat) : Bool × Nat :=
  if (tokenAt tokens i).kind.introducesExpr then (true, skipFrom tokens i)
  else (!endsAt tokens i && (previousTo tokens i).kind.endsStatement &&
    !(tokenAt tokens i).kind.startsStatement, i)

/-- The place where an expression may begin, if there is one up to the next boundary. -/
def seekFrom (failed : Bool) (i : Nat) : Bool × Nat :=
  resumeFrom tokens (synchronizeFrom tokens (if failed then skipFrom tokens i else i))

/-- An expression from an index on. All tokens there are handed to the rules, the end of the input
and what stands behind it among them. -/
def attemptFrom (i : Nat) : Except GrammarError Expr × Nat :=
  match Rule.expression.read limit limit.toNat (tokens.drop i) with
  | .ok (tree, rest) => (.ok tree, tokens.length - rest.length)
  | .error failure =>
    (.error (errorAt tokens ⟨failure.cause, tokens.length - failure.site.length⟩),
      tokens.length - failure.rest.length)

/-- A turn of recovery: whether it has failed, the errors it records and the index it ends at. -/
def turn (failed : Bool) (i : Nat) : Bool × List GrammarError × Nat :=
  match seekFrom tokens failed i with
  | (false, k) => (true, [], k)
  | (true, k) =>
    match attemptFrom tokens limit k with
    | (.ok _, j) => (false, [], j)
    | (.error e, j) => (true, [e], j)

/-- What recovery records from an index on, and the index it ends at. -/
inductive Recovers : Bool → Nat → List GrammarError → Nat → Prop where
  | done {failed i} : endsAt tokens i = true → Recovers failed i [] i
  | turn {failed i errors stop} : endsAt tokens i = false →
      Recovers (turn tokens limit failed i).1 (turn tokens limit failed i).2.2 errors stop →
      Recovers failed i ((turn tokens limit failed i).2.1 ++ errors) stop

/-- What parsing a list answers, the errors it records and the index it ends at. -/
inductive Parses : Bool → Option Expr → List GrammarError → Nat → Prop where
  | tree {recovers tree stop} : attemptFrom tokens limit 0 = (.ok tree, stop) →
      Parses recovers (some tree) [] stop
  | fault {e stop} : attemptFrom tokens limit 0 = (.error e, stop) →
      Parses false none [e] stop
  | faults {e i errors stop} : attemptFrom tokens limit 0 = (.error e, i) →
      Recovers tokens limit true i errors stop →
      Parses true none (e :: errors) stop

end

/-! ### Parsers of a list -/

/-- A parser between two steps on a list. -/
structure On (tokens : List Token) (limit : Int) (p : Parser) : Prop where
  settled : p.Settled
  input_eq : p.input = .ofTokens tokens
  limit_eq : p.limit = limit

namespace On

variable {tokens : List Token} {limit : Int} {p q : Parser}

theorem onward (h : On tokens limit p) (went : p.Onward q) : On tokens limit q where
  settled := went.settled
  input_eq := went.input_eq.trans h.input_eq
  limit_eq := (congrArg Parser.Settings.limit went.settings_eq).trans h.limit_eq

/-- A list ends at the cursor when the parser is at the end. -/
theorem endsAt_eq (h : On tokens limit p) : endsAt tokens p.current = p.atEnd := by
  rw [endsAt, ← Parser.peek_eq_tokenAt h.input_eq h.settled, Parser.isEnd_peek]

/-- Passing over a token moves the cursor as it does on the list. -/
theorem skip_eq (h : On tokens limit p) : p.skip.current = skipFrom tokens p.current := by
  rw [skipFrom, h.endsAt_eq, Parser.skip]
  split <;> rfl

/-- The next boundary is at the same index on the list. The induction is on the tokens that are left
there. -/
theorem synchronize_eq (h : On tokens limit p) :
    p.synchronize.current = synchronizeFrom tokens p.current := by
  generalize left : p.ahead = rest
  induction rest generalizing p with
  | nil =>
    have same : p.synchronize = p := by
      rw [Parser.synchronize, left]
      rfl
    have ends : p.atEnd = true := List.isEmpty_iff.2 left
    rw [same, synchronizeFrom, h.endsAt_eq, if_pos ends]
  | cons token rest ih =>
    have place := Parser.At.of_current_le h.settled.current_le
    rw [left] at place
    have skipped := place.skip.ahead_eq
    have step := Parser.synchronize_cons place
    rw [synchronizeFrom, h.endsAt_eq, if_neg (by simp [place.atEnd_iff]), previousTo,
      ← Parser.previous_eq_tokenAt h.input_eq h.settled,
      ← Parser.peek_eq_tokenAt h.input_eq h.settled, place.peek_eq, step]
    split
    · rfl
    · rw [ih (h.onward h.settled.skip) skipped, place.skip_eq]

/-- An expression may begin at the same index on the list, or at none. -/
theorem resume_eq (h : On tokens limit p) :
    p.resume.1 = (resumeFrom tokens p.current).1 ∧
      p.resume.2.current = (resumeFrom tokens p.current).2 := by
  rw [resumeFrom, h.endsAt_eq, previousTo, ← Parser.peek_eq_tokenAt h.input_eq h.settled,
    ← Parser.previous_eq_tokenAt h.input_eq h.settled, Parser.resume]
  split
  · exact ⟨rfl, h.skip_eq⟩
  · exact ⟨rfl, rfl⟩

/-- The next attempt is made at the same index on the list, if at all. -/
theorem seek_eq (h : On tokens limit p) (failed : Bool) :
    (p.seek failed).1 = (seekFrom tokens failed p.current).1 ∧
      (p.seek failed).2.current = (seekFrom tokens failed p.current).2 := by
  have start : p.Onward (if failed then p.skip else p) := by
    cases failed with
    | false => exact h.settled.refl
    | true => exact h.settled.skip
  have current : (if failed then p.skip else p).current =
      if failed then skipFrom tokens p.current else p.current := by
    cases failed with
    | false => rfl
    | true => exact h.skip_eq
  have boundary := (h.onward start).synchronize_eq
  have resumed := (h.onward (start.trans start.settled.synchronize)).resume_eq
  rw [boundary, current] at resumed
  exact resumed

/-- An attempt comes to the same, and to the same index, on the list. -/
theorem attempt_eq (h : On tokens limit p) :
    (p.attempt .expression).1 = (attemptFrom tokens limit p.current).1 ∧
      (p.attempt .expression).2.current = (attemptFrom tokens limit p.current).2 := by
  have inside := h.settled.current_le
  have room : p.room = limit.toNat := by
    rw [Parser.room, h.settled.depth_eq, h.limit_eq, Int.natCast_zero, Int.sub_zero]
  rw [h.input_eq] at inside
  obtain ⟨behind, drop, length, stop⟩ := Input.drop_eq_append inside
  have shift (rest : List Token) : (Input.ofTokens tokens).position rest =
      tokens.length - (rest ++ behind).length := by
    rw [Input.position, List.length_append]
    omega
  rw [attemptFrom, drop, Rule.read_append stop, Parser.attempt, room, h.limit_eq, Parser.ahead,
    h.input_eq]
  cases read : Rule.expression.read limit limit.toNat
      ((Input.ofTokens tokens).tokens.drop p.current) with
  | ok result => exact ⟨rfl, h.input_eq ▸ shift result.2⟩
  | error failure =>
    have reads : Reads limit limit.toNat (.rule .expression) _ _ := reads_iff.2 read
    have reported := Input.report_eq_errorAt (reads.site.1.trans (List.drop_suffix _ _))
    rw [Input.siteIndex, shift failure.site] at reported
    exact ⟨congrArg Except.error reported, h.input_eq ▸ shift failure.rest⟩

/-- A round fails, reports and moves on as a turn on the list does. -/
theorem round_eq (h : On tokens limit p) (failed : Bool) :
    (p.round failed).failed = (turn tokens limit failed p.current).1 ∧
      (p.round failed).parser.errors = p.errors ++ (turn tokens limit failed p.current).2.1 ∧
      (p.round failed).parser.current = (turn tokens limit failed p.current).2.2 := by
  have sought := h.settled.seek failed
  obtain ⟨may, place⟩ := h.seek_eq failed
  have recorded : (p.seek failed).2.errors = p.errors := by rw [Parser.seek_frame]
  obtain ⟨q, found, eq⟩ | ⟨q, tree, r, found, made, eq⟩ | ⟨q, e, r, found, made, eq⟩ :=
    Parser.round_cases p failed <;> rw [found] at sought may place recorded <;> rw [eq]
  · have there : seekFrom tokens failed p.current = (false, q.current) :=
      Prod.ext may.symm place.symm
    rw [turn, there]
    exact ⟨rfl, recorded.trans (List.append_nil _).symm, rfl⟩
  -- An attempt is made at the index that the turn makes it at.
  all_goals
    have there : seekFrom tokens failed p.current = (true, q.current) :=
      Prod.ext may.symm place.symm
    have clear : { q with depth := 0 } = q := by rw [← sought.settled.depth_eq]
    rw [clear] at made
    obtain ⟨result, stop⟩ := (h.onward sought).attempt_eq
    have unrecorded := q.errors_move (m := .attempt .expression) nofun nofun
    rw [Parser.move, made, recorded] at unrecorded
    rw [made] at result stop
  · have attempted : attemptFrom tokens limit q.current = (.ok tree, r.current) :=
      Prod.ext result.symm stop.symm
    rw [turn, there]
    simp only [attempted]
    exact ⟨trivial, unrecorded.trans (List.append_nil _).symm, trivial⟩
  · have attempted : attemptFrom tokens limit q.current = (.error e, r.current) :=
      Prod.ext result.symm stop.symm
    rw [turn, there]
    simp only [attempted]
    exact ⟨trivial, congrArg (· ++ [e]) unrecorded, trivial⟩

/-- The rounds of recovery are the turns on the list. -/
theorem afterRounds_recovers (h : On tokens limit p) (failed : Bool) :
    ∃ errors, (p.afterRounds failed).errors = p.errors ++ errors ∧
      Recovers tokens limit failed p.current errors (p.afterRounds failed).current := by
  induction p, failed using Parser.rounds.induct with
  | case1 p failed done =>
    rw [Parser.afterRounds_of_atEnd failed done]
    exact ⟨[], (List.append_nil _).symm, .done (h.endsAt_eq.trans done)⟩
  | case2 p failed notEnd ih =>
    rw [Bool.not_eq_true] at notEnd
    obtain ⟨again, recorded, stop⟩ := h.round_eq failed
    obtain ⟨errors, later, recovers⟩ := ih (h.onward (h.settled.round failed))
    rw [Parser.afterRounds_of_not_atEnd failed notEnd]
    refine ⟨(turn tokens limit failed p.current).2.1 ++ errors, ?_, ?_⟩
    · rw [later, recorded, List.append_assoc]
    · refine .turn (h.endsAt_eq.trans notEnd) ?_
      rwa [← again, ← stop]

end On

/-! ### What a list determines -/

section

variable {tokens : List Token} {limit : Int} {recovers failed : Bool} {i stop stop' : Nat}
  {errors errors' : List GrammarError} {tree? tree?' : Option Expr}

/-- Recovery on a list comes to one result: the turns are determined. -/
theorem Recovers.unique (h : Recovers tokens limit failed i errors stop)
    (h' : Recovers tokens limit failed i errors' stop') : errors = errors' ∧ stop = stop' := by
  induction h generalizing errors' stop' with
  | done ends =>
    cases h' with
    | done => exact ⟨rfl, rfl⟩
    | turn notEnd _ =>
      rw [ends] at notEnd
      cases notEnd
  | turn notEnd _ ih =>
    cases h' with
    | done ends =>
      rw [ends] at notEnd
      cases notEnd
    | turn _ later =>
      obtain ⟨rfl, rfl⟩ := ih later
      exact ⟨rfl, rfl⟩

/-- Parsing a list comes to one result. -/
theorem Parses.unique (h : Parses tokens limit recovers tree? errors stop)
    (h' : Parses tokens limit recovers tree?' errors' stop') :
    tree? = tree?' ∧ errors = errors' ∧ stop = stop' := by
  -- The first attempt comes to one result, which tells the cases apart, and so does recovery.
  cases h with
  | tree made =>
    cases h' with
    | tree made' =>
      rw [made] at made'
      cases made'
      exact ⟨rfl, rfl, rfl⟩
    | fault made' | faults made' _ =>
      rw [made] at made'
      cases made'
  | fault made =>
    cases h' with
    | tree made' =>
      rw [made] at made'
      cases made'
    | fault made' =>
      rw [made] at made'
      cases made'
      exact ⟨rfl, rfl, rfl⟩
  | faults made recovered =>
    cases h' with
    | tree made' =>
      rw [made] at made'
      cases made'
    | faults made' recovered' =>
      rw [made] at made'
      cases made'
      obtain ⟨rfl, rfl⟩ := recovered.unique recovered'
      exact ⟨rfl, rfl, rfl⟩

/-- What a new parser comes to is what parsing its list by indices comes to, in either mode. -/
theorem parses_parse (tokens : List Token) (recovers : Bool) (limit : Int) :
    let p := Parser.ofTokens tokens recovers limit
    Parses tokens limit recovers p.parse.1 p.parse.2.errors p.parse.2.current := by
  intro p
  have fresh : On tokens limit p.restart := ⟨p.settled_restart, rfl, rfl⟩
  obtain ⟨result, stop⟩ := fresh.attempt_eq
  have went := p.settled_restart.attempt .expression
  have unrecorded := p.restart.errors_move (m := .attempt .expression) nofun nofun
  rw [Parser.move] at unrecorded
  rw [Parser.parse]
  cases made : p.restart.attempt .expression with
  | mk first q =>
    rw [made] at result stop went unrecorded
    cases first with
    | ok tree =>
      rw [unrecorded]
      exact .tree (Prod.ext result.symm stop.symm)
    | error e =>
      have attempted : attemptFrom tokens limit 0 = (.error e, q.current) :=
        Prod.ext result.symm stop.symm
      cases recovers with
      | false => exact .fault attempted
      | true =>
        -- The parser that goes on has recorded the first error and stands where the attempt has
        -- stopped.
        let noted : Parser := { q with errors := [e] }
        have stands : On tokens limit noted := fresh.onward (went.withErrors [e])
        obtain ⟨errors, later, recovered⟩ := stands.afterRounds_recovers true
        show Parses tokens limit true none (noted.afterRounds true).errors _
        rw [later]
        exact .faults attempted recovered

/-- Parsing an input comes to what parsing the list comes to. -/
theorem parses_iff (tokens : List Token) (recovers : Bool) (limit : Int) (tree? : Option Expr)
    (errors : List GrammarError) (stop : Nat) :
    let p := Parser.ofTokens tokens recovers limit
    Parses tokens limit recovers tree? errors stop ↔
      p.parse.1 = tree? ∧ p.parse.2.errors = errors ∧ p.parse.2.current = stop := by
  intro p
  have parsed := parses_parse tokens recovers limit
  constructor
  · exact parsed.unique
  · rintro ⟨rfl, rfl, rfl⟩
    exact parsed

end

end InList

namespace Parser

/-- A list is parsed up to the first token that ends the input. Parsing comes to what looking at the
list itself from index to index comes to, where a token for the end is taken to stand behind a list
that has none. So it makes no difference what stands behind the first token that ends the input or
whether anything does, nor to a list without such a token whether one is put behind it. The cursor
and the sites of all errors are no further than that token, and a tree is that of the tokens in
front of the cursor. -/
theorem parse_up_to_end (tokens : List Token) (recovers : Bool) (limit : Int) :
    let p := ofTokens tokens recovers limit
    let stop := tokens.findIdx Token.isEnd
    let last := tokens.getLast?.map Token.line
    (∀ tree? errors current, InList.Parses tokens limit recovers tree? errors current ↔
      p.parse.1 = tree? ∧ p.parse.2.errors = errors ∧ p.parse.2.current = current) ∧
    p.parse.2.depth = 0 ∧
    (stop < tokens.length → ∀ behind,
      (ofTokens (tokens.take (stop + 1) ++ behind) recovers limit).parse = p.parse) ∧
    (stop = tokens.length →
      (ofTokens (tokens ++ [.endOfInput (last.getD 1)]) recovers limit).parse = p.parse) ∧
    p.parse.2.current ≤ stop ∧
    (p.parse.2.errors = p.sites.map (errorAt tokens) ∧ ∀ site ∈ p.sites, site.index ≤ stop) ∧
    ∀ tree, p.parse.1 = some tree →
      Derives .expression (tokens.take p.parse.2.current) tree := by
  intro p stop last
  have parse_congr {a b : List Token} (same : Input.ofTokens a = Input.ofTokens b) :
      (ofTokens a recovers limit).parse = (ofTokens b recovers limit).parse := by
    rw [ofTokens, ofTokens, same]
  have went := p.onward_parse
  have inside := went.settled.current_le
  have length : p.input.tokens.length = stop := Input.length_tokens_ofTokens tokens
  rw [went.input_eq] at inside
  refine ⟨InList.parses_iff tokens recovers limit, went.settled.depth_eq, ?_, ?_, ?_, ?_, ?_⟩
  · -- The tokens up to the first end of the input are all that a parser is given.
    intro ended behind
    have front := Input.exists_isEnd_mem_take ended
    have whole := Input.ofTokens_append front (tokens.drop (stop + 1))
    rw [List.take_append_drop] at whole
    exact parse_congr ((Input.ofTokens_append front behind).trans whole.symm)
  · -- A list without an end is given one.
    intro unended
    have notEnd : ∀ token ∈ tokens, token.isEnd = false := List.findIdx_eq_length.1 unended
    exact parse_congr (Input.ofTokens_append_endOfInput notEnd)
  · exact Nat.le_trans inside (Nat.le_of_eq length)
  · refine ⟨errors_parse_sites rfl, fun site mem => ?_⟩
    exact Nat.le_trans (p.index_le_of_mem_sites site mem) (Nat.le_of_eq length)
  · intro tree answer
    obtain ⟨used, behind, whole, derives, current⟩ := derives_of_parse rfl answer
    rwa [current, whole, List.take_left]

/-- Behind `1 + ; print` no expression begins, whether the list stops there or goes on behind the
end of the input. The second error is about that end, given or not, and on the line of `print`. -/
theorem parse_up_to_end_print :
    let front : List Token := [⟨.number, "1", .integer 1, 1⟩, ⟨.plus, "+", .nil, 1⟩,
      ⟨.semicolon, ";", .nil, 1⟩, ⟨.keyword .kwPrint, "print", .nil, 2⟩]
    let ended := front ++ [.endOfInput 2, ⟨.number, "3", .integer 3, 3⟩]
    let p := ofTokens ended true defaultLimit
    let q := ofTokens front true defaultLimit
    ended.findIdx Token.isEnd = 4 ∧ 4 < ended.length ∧ front.findIdx Token.isEnd = front.length ∧
      (ofTokens (ended.take 5 ++ []) true defaultLimit).parse = p.parse ∧
      (ofTokens (front ++ [.endOfInput 2]) true defaultLimit).parse = q.parse ∧
      p.sites = [⟨.operandExpected, 2⟩, ⟨.operandExpected, 4⟩] ∧
      InList.Parses ended defaultLimit true none
        (p.sites.map (errorAt ended)) p.parse.2.current := by
  intro front ended p q
  have stop : ended.findIdx Token.isEnd = 4 := by decide
  have more : ended.findIdx Token.isEnd < ended.length := by decide
  have all : front.findIdx Token.isEnd = front.length := by decide
  obtain ⟨parses, -, cut, -, -, ⟨errors, -⟩, -⟩ := parse_up_to_end ended true defaultLimit
  obtain ⟨-, -, -, added, -⟩ := parse_up_to_end front true defaultLimit
  have cut := cut more []
  rw [stop] at cut more
  exact ⟨stop, more, all, cut, added all, by decide +kernel,
    (parses none _ _).2 ⟨by decide +kernel, errors, rfl⟩⟩

end Parser

end ExprLang
