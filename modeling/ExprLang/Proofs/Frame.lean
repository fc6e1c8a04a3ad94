import ExprLang.Proofs.Calls
import ExprLang.Proofs.TokenIndices

/-!
# What a call of a rule leaves alone

A call of a rule moves the cursor and does nothing else, whether it returns a tree or raises an
error: the depth comes back to where it was, and the input, the settings and the recorded errors are
the same. The cursor does not go back and only passes tokens of expressions. When a tree is
returned it has passed at least one, and when an error is raised it stands at the token that the
error is about, unless a node was too tall and that token has been passed. All calls on the way are
made inside the limit.

## Main statements

* `Parser.Performs.depth_calls`: the depths at which calls are made.
* `Consumes.kind_tokenAt`: the tokens that are passed.
* `Parser.call_frame`: what a call of a rule leaves alone.
-/

namespace ExprLang

/-- The tokens that are gone between two indices are tokens of expressions. -/
theorem Consumes.kind_tokenAt {tokens rest : List Token} {k i : Nat}
    (consumes : Consumes ((Input.ofTokens tokens).tokens.drop k) rest) (after : k ≤ i)
    (before : i < (Input.ofTokens tokens).position rest) : (tokenAt tokens i).kind ∈ exprKinds := by
  obtain ⟨used, split, plain⟩ := consumes
  have length := congrArg List.length split
  rw [List.length_drop, List.length_append] at length
  rw [Input.position] at before
  have there : (Input.ofTokens tokens).tokens.drop i = used.drop (i - k) ++ rest := by
    rw [← List.drop_append_of_le_length (by omega), ← split, List.drop_drop]
    congr
    omega
  rw [← Input.firstOf_drop_eq_tokenAt (by omega), there]
  cases taken : used.drop (i - k) with
  | nil =>
    have := List.drop_eq_nil_iff.1 taken
    omega
  | cons token behind =>
    exact plain token (List.mem_of_mem_drop (taken ▸ List.mem_cons_self))

namespace Parser

variable {p q : Parser} {task : Task} {outcome : Except Raised Expr} {calls : List Call}
  {raised : Raised}

/-- All calls are made no higher than the first one and no deeper than the limit. -/
theorem Performs.depth_calls (h : Performs p task outcome calls q) (inside : p.Inside)
    (nested : p.depth ≤ p.limit) :
    ∀ call ∈ calls, p.depth ≤ call.parser.depth ∧ call.parser.depth ≤ p.limit := by
  induction h with
  | expression _ ih | operand_failed _ _ ih =>
    exact List.forall_mem_cons.2 ⟨⟨Nat.le_refl _, nested⟩, ih inside nested⟩
  | operand_read _ operand _ first second =>
    obtain ⟨_, _, rfl, -⟩ := operand.counts inside
    refine List.forall_mem_cons.2 ⟨⟨Nat.le_refl _, nested⟩, ?_⟩
    exact List.forall_mem_append.2 ⟨first inside nested, second (inside_moveTo _ _) nested⟩
  | chain_failed accepted _ ih | chain_tall accepted _ _ ih =>
    obtain ⟨_, _, -, -, rfl⟩ := exists_of_accept inside accepted
    exact List.forall_mem_cons.2 ⟨⟨Nat.le_refl _, nested⟩, ih (inside_moveTo _ _) nested⟩
  | chain_read accepted operand _ _ first second =>
    obtain ⟨_, _, -, -, rfl⟩ := exists_of_accept inside accepted
    obtain ⟨_, _, rfl, -⟩ := operand.counts (inside_moveTo _ _)
    refine List.forall_mem_cons.2 ⟨⟨Nat.le_refl _, nested⟩, ?_⟩
    exact List.forall_mem_append.2
      ⟨first (inside_moveTo _ _) nested, second (inside_moveTo _ _) nested⟩
  | primary declined _ ih =>
    obtain ⟨-, rfl⟩ := eq_of_not_accept declined
    exact List.forall_mem_cons.2 ⟨⟨Nat.le_refl _, nested⟩, ih inside nested⟩
  | unary_failed accepted below _ ih | unary_read accepted below _ ih
  | grouping_failed accepted below _ ih | grouping_read accepted below _ ih =>
    -- The call is made one deeper, for which there is room, and the calls inside no higher.
    obtain ⟨_, _, -, -, rfl⟩ := exists_of_accept inside accepted
    refine List.forall_mem_cons.2 ⟨⟨Nat.le_succ _, below⟩, fun call mem => ?_⟩
    obtain ⟨deeper, within⟩ := ih (inside_moveTo _ _) below call mem
    exact ⟨Nat.le_of_succ_le deeper, within⟩
  | chain_done | unary_full | literal | operand_missing | grouping_full =>
    exact List.forall_mem_nil _

/-- A rear of the tokens ahead is at no position behind the cursor. -/
theorem Inside.current_le_position {rest : List Token} (h : p.Inside) (suffix : rest <:+ p.ahead) :
    p.current ≤ p.input.position rest := by
  have shorter := suffix.length_le
  have within : p.current ≤ p.input.tokens.length := h
  rw [ahead, List.length_drop] at shorter
  rw [Input.position]
  omega

/-- Of two rears of the tokens, the longer one is at the lower position. -/
theorem position_lt {rest about : List Token} (suffix : about <:+ p.ahead)
    (shorter : rest.length < about.length) : p.input.position about < p.input.position rest := by
  have within := (suffix.trans (List.drop_suffix _ _)).length_le
  rw [Input.position, Input.position]
  omega

/-- An error is about the next token, unless a node was too tall. Then it is about a token that has
been passed since the call. -/
theorem Performs.site_raised {tokens : List Token} (h : Performs p task (.error raised) calls q)
    (inside : p.Inside) (input : p.input = .ofTokens tokens) :
    raised.error.cause = raised.origin.cause p.limit ∧
      (raised.origin ≠ .height → raised.error.token = tokenAt tokens q.current) ∧
      (raised.origin = .height → ∃ i, p.current ≤ i ∧ i < q.current ∧
        raised.error.token = tokenAt tokens i) := by
  obtain ⟨rest, result, rfl, counts, lists⟩ := h.counts inside
  -- The tokens that are left tell their index in the list.
  have about {site : List Token} (suffix : site <:+ p.ahead) :
      p.input.firstOf site = tokenAt tokens (p.input.position site) := by
    have within := suffix.trans (List.drop_suffix _ _)
    rw [input] at within ⊢
    exact Input.firstOf_eq_tokenAt within
  cases lists with
  | next origin other =>
    have suffix := counts.reads.1.site.1
    exact ⟨rfl, fun _ => about suffix, fun tall => absurd tall other⟩
  | passed site shorter =>
    have suffix := counts.reads.1.site.1
    exact ⟨rfl, fun other => absurd rfl other, fun _ => ⟨p.input.position site,
      inside.current_le_position suffix, position_lt suffix shorter, about suffix⟩⟩

/-- A call of a rule on a parser, whose cursor is no further than the first token that ends the
input, or the end of the list when there is none, and that is not nested more deeply than the limit.
It returns or raises an error, as the attempt answers, and either way the depth is back where it was
and the input, the recorded errors and the settings are the same. The cursor has not gone back and
not passed the end, and what it has passed are tokens of expressions, no semicolons and no keywords
of statements. All calls that it makes are nested no more deeply than the limit. If it returns, it
has passed a token. If it raises an error for want of an operand, of a closing parenthesis or of
room for nesting, the error is about the token at the cursor. If it does because a node is too tall,
the error is about a token that has been passed. -/
theorem call_frame (tokens : List Token) (p : Parser) (rule : Rule)
    (input : p.input = .ofTokens tokens) (inside : p.current ≤ tokens.findIdx Token.isEnd)
    (nested : p.depth ≤ p.limit) :
    (∃ outcome calls q, Performs p (.rule rule) outcome calls q) ∧
    ∀ outcome calls q, Performs p (.rule rule) outcome calls q →
      p.attempt rule = (outcome.mapError Raised.error, q) ∧
      q.depth = p.depth ∧ q.input = p.input ∧ q.errors = p.errors ∧ q.settings = p.settings ∧
      p.current ≤ q.current ∧ q.current ≤ tokens.findIdx Token.isEnd ∧
      (∀ i, p.current ≤ i → i < q.current → (tokenAt tokens i).kind ∈ exprKinds ∧
        (tokenAt tokens i).kind ≠ .semicolon ∧
        (tokenAt tokens i).kind ∉ Kind.statementKeywords) ∧
      (∀ call ∈ calls, p.depth ≤ call.parser.depth ∧ call.parser.depth ≤ p.limit) ∧
      (∀ tree, outcome = .ok tree → p.current < q.current) ∧
      ∀ raised, outcome = .error raised →
        raised.error.cause = raised.origin.cause p.limit ∧
        (raised.origin ≠ .height → raised.error.token = tokenAt tokens q.current) ∧
        (raised.origin = .height → ∃ i, p.current ≤ i ∧ i < q.current ∧
          raised.error.token = tokenAt tokens i) := by
  have length : p.input.tokens.length = tokens.findIdx Token.isEnd := by
    rw [input, Input.length_tokens_ofTokens]
  have inside : p.Inside := Nat.le_trans inside (Nat.le_of_eq length.symm)
  refine ⟨exists_performs inside _, fun outcome calls q performs => ?_⟩
  have attempted := performs.attempt_eq inside
  have depths := performs.depth_calls inside nested
  -- The parser that is left differs from the first one in the cursor only, and the tokens passed
  -- are those that reading has consumed.
  obtain ⟨rest, result, rfl, counts, lists⟩ := performs.counts inside
  have consumes := counts.reads.1.consumes
  rw [lists.remaining_eq] at consumes
  refine ⟨attempted, rfl, rfl, rfl, rfl, inside.current_le_position consumes.isSuffix,
    Nat.le_trans (inside_moveTo p rest) (Nat.le_of_eq length), fun i after before => ?_, depths, ?_,
    ?_⟩
  · rw [ahead, input] at consumes
    have kind := consumes.kind_tokenAt after (input ▸ before)
    exact ⟨kind, Kind.ne_semicolon kind, Kind.not_mem_statementKeywords kind⟩
  · rintro tree rfl
    cases lists
    have whole := inside.current_le_position (List.suffix_refl p.ahead)
    exact Nat.lt_of_le_of_lt whole (position_lt (List.suffix_refl _) counts.reads.1.length_lt)
  · -- An error is about the token at the cursor, or about an operator or a parenthesis behind it.
    rintro raised rfl
    exact performs.site_raised inside input

/-- A product behind `print` whose right factor is as tall as allowed. The factor is read one
deeper, and the product is found too tall when it has been passed. The error is about the
operator. -/
theorem call_frame_product :
    let operator : Token := ⟨.star, "*", .nil, 1⟩
    let minus : Token := ⟨.minus, "-", .nil, 1⟩
    let tokens : List Token := [⟨.keyword .kwPrint, "print", .nil, 1⟩,
      ⟨.number, "2", .integer 2, 1⟩, operator, minus, ⟨.number, "3", .integer 3, 1⟩,
      ⟨.semicolon, ";", .nil, 1⟩]
    let p : Parser := { ofTokens tokens true 1 with current := 1 }
    let q : Parser := { p with current := 5 }
    let raised : Raised := ⟨.height, .tooDeep 1, operator⟩
    let calls : List Call := [⟨.unary, p⟩, ⟨.primary, p⟩, ⟨.unary, { p with current := 3 }⟩,
      ⟨.unary, { p with current := 4, depth := 1 }⟩,
      ⟨.primary, { p with current := 4, depth := 1 }⟩]
    p.input = .ofTokens tokens ∧ p.current ≤ tokens.findIdx Token.isEnd ∧ p.depth ≤ p.limit ∧
      Performs p (.rule .factor) (.error raised) calls q ∧
      p.attempt .factor = (.error raised.error, q) ∧ q.depth = p.depth ∧
      (∃ i, p.current ≤ i ∧ i < q.current ∧ raised.error.token = tokenAt tokens i) := by
  intro operator minus tokens p q raised calls
  have input : p.input = .ofTokens tokens := rfl
  have inside : p.current ≤ tokens.findIdx Token.isEnd := by decide
  have nested : p.depth ≤ p.limit := by decide
  have left : Performs p (.rule .unary) (.ok (.literal (.integer 2))) [⟨.primary, p⟩]
      { p with current := 2 } := .primary rfl (.literal rfl rfl)
  have inner : Performs { p with current := 4, depth := 1 } (.rule .unary)
      (.ok (.literal (.integer 3))) [⟨.primary, { p with current := 4, depth := 1 }⟩]
      { p with current := 5, depth := 1 } := .primary rfl (.literal rfl rfl)
  have right : Performs { p with current := 3 } (.rule .unary)
      (.ok (.unary minus (.literal (.integer 3))))
      [⟨.unary, { p with current := 4, depth := 1 }⟩,
        ⟨.primary, { p with current := 4, depth := 1 }⟩] q :=
    .unary_read (q := { p with current := 4 }) rfl Int.zero_lt_one inner
  have performs : Performs p (.rule .factor) (.error raised) calls q :=
    .operand_read .factor left (.chain_tall rfl right rfl)
  obtain ⟨attempted, depth, -, -, -, -, -, -, -, -, errors⟩ :=
    (call_frame tokens p .factor input inside nested).2 _ _ _ performs
  obtain ⟨-, -, passed⟩ := errors raised rfl
  exact ⟨input, inside, nested, performs, attempted, depth, passed rfl⟩

end Parser

end ExprLang
