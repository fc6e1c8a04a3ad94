import ExprLang.Proofs.ParserSession

/-!
# Calls of rules

An attempt describes what becomes of a whole rule. Here the rules are taken apart into single steps
of a parser: a token is accepted or expected, the depth is raised in front of what stands inside a
unary operator or a grouping and lowered behind it, a completed node is compared with the limit, and
a rule is called. Every call is noted together with the parser that it is made on, and every error
together with the step that it comes from.

## Main definitions

* `Parser.enter`, `Parser.leave`, `Parser.complete`, `Parser.close`: the steps that know the depth
  or the limit.
* `Parser.Origin`, `Parser.Raised`: the steps that raise errors, and an error with its step.
* `Parser.Call`, `Parser.Performs`: the calls of rules, and what becomes of a task step by step.
* `Parser.Lists`: outcomes on parsers and outcomes on lists of tokens.

## Main statements

* `Parser.Performs.counts`: what is performed is what reading with a counter comes to.
* `Parser.exists_performs`: every call of a rule is performed.
* `Parser.Performs.attempt_eq`: what is performed is what the attempt comes to.
-/

namespace ExprLang

namespace Parser

/-! ### Steps -/

/-- The steps that raise errors: there is no operand, no parenthesis to close a grouping, no room
for what a unary operator or a grouping holds, or a node that has been completed is too tall. -/
inductive Origin where
  | operand | closing | nesting | height
  deriving DecidableEq

/-- What is wrong when a step raises an error. -/
def Origin.cause (limit : Int) : Origin → GrammarError.Cause
  | .operand => .operandExpected
  | .closing => unclosedGrouping
  | .nesting | .height => .tooDeep limit

/-- An error and the step that has raised it. -/
structure Raised where
  origin : Origin
  error : GrammarError
  deriving DecidableEq

/-- The error that a step raises about a token. -/
def raise (p : Parser) (origin : Origin) (token : Token) : Raised :=
  ⟨origin, origin.cause p.limit, token⟩

/-- Goes inside a unary operator or a grouping. -/
def enter (p : Parser) : Parser :=
  { p with depth := p.depth + 1 }

/-- Comes out of a unary operator or a grouping. -/
def leave (p : Parser) : Parser :=
  { p with depth := p.depth - 1 }

/-- A node that has been completed with a token, unless it is too tall. -/
def complete (p : Parser) (node : Expr) (token : Token) : Except Raised Expr :=
  if p.limit < node.height then .error (p.raise .height token) else .ok node

/-- Completes the grouping of a tree with the parenthesis that has to follow. -/
def close (p : Parser) (tree : Expr) : Except Raised Expr × Parser :=
  match p.expect .rightParen "Expect ')' after expression." with
  | (.ok closing, q) => (q.complete (.grouping tree) closing, q)
  | (.error e, q) => (.error ⟨.closing, e⟩, q)

/-! ### Calls -/

/-- A call of a rule on a parser. -/
structure Call where
  rule : Rule
  parser : Parser

open Grammar in
/-- What a task on a parser comes to step by step, which calls are made on the way, in order, and
where that leaves the parser. -/
inductive Performs : Parser → Task → Except Raised Expr → List Call → Parser → Prop where
  | expression {p outcome calls q} :
      Performs p (.rule .equality) outcome calls q →
      Performs p (.rule .expression) outcome (⟨.equality, p⟩ :: calls) q
  | operand_failed {p raised calls q} (level : Level) :
      Performs p (.rule level.operand) (.error raised) calls q →
      Performs p (.rule level.rule) (.error raised) (⟨level.operand, p⟩ :: calls) q
  | operand_read {p left calls q outcome calls' r} (level : Level) :
      Performs p (.rule level.operand) (.ok left) calls q →
      Performs q (.chain level left) outcome calls' r →
      Performs p (.rule level.rule) outcome (⟨level.operand, p⟩ :: calls ++ calls') r
  | chain_done {p level left q} :
      p.accept level.operators = (false, q) →
      Performs p (.chain level left) (.ok left) [] q
  | chain_failed {p level left q raised calls r} :
      p.accept level.operators = (true, q) →
      Performs q (.rule level.operand) (.error raised) calls r →
      Performs p (.chain level left) (.error raised) (⟨level.operand, q⟩ :: calls) r
  | chain_tall {p level left q right calls r raised} :
      p.accept level.operators = (true, q) →
      Performs q (.rule level.operand) (.ok right) calls r →
      r.complete (.binary left q.previous right) q.previous = .error raised →
      Performs p (.chain level left) (.error raised) (⟨level.operand, q⟩ :: calls) r
  | chain_read {p level left q right calls r node outcome calls' s} :
      p.accept level.operators = (true, q) →
      Performs q (.rule level.operand) (.ok right) calls r →
      r.complete (.binary left q.previous right) q.previous = .ok node →
      Performs r (.chain level node) outcome calls' s →
      Performs p (.chain level left) outcome (⟨level.operand, q⟩ :: calls ++ calls') s
  | unary_full {p q} :
      p.accept unaryOperators = (true, q) → q.limit ≤ (q.depth : Int) →
      Performs p (.rule .unary) (.error (q.raise .nesting q.peek)) [] q
  | unary_failed {p q raised calls r} :
      p.accept unaryOperators = (true, q) → (q.depth : Int) < q.limit →
      Performs q.enter (.rule .unary) (.error raised) calls r →
      Performs p (.rule .unary) (.error raised) (⟨.unary, q.enter⟩ :: calls) r.leave
  | unary_read {p q operand calls r} :
      p.accept unaryOperators = (true, q) → (q.depth : Int) < q.limit →
      Performs q.enter (.rule .unary) (.ok operand) calls r →
      Performs p (.rule .unary) (r.leave.complete (.unary q.previous operand) q.previous)
        (⟨.unary, q.enter⟩ :: calls) r.leave
  | primary {p q outcome calls r} :
      p.accept unaryOperators = (false, q) →
      Performs q (.rule .primary) outcome calls r →
      Performs p (.rule .unary) outcome (⟨.primary, q⟩ :: calls) r
  | literal {p q value} :
      p.accept literalKinds = (true, q) → literal? q.previous = some value →
      Performs p (.rule .primary) (.ok (.literal value)) [] q
  | operand_missing {p q} :
      p.accept primaryKinds = (false, q) →
      Performs p (.rule .primary) (.error (q.raise .operand q.peek)) [] q
  | grouping_full {p q} :
      p.accept [.leftParen] = (true, q) → q.limit ≤ (q.depth : Int) →
      Performs p (.rule .primary) (.error (q.raise .nesting q.peek)) [] q
  | grouping_failed {p q raised calls r} :
      p.accept [.leftParen] = (true, q) → (q.depth : Int) < q.limit →
      Performs q.enter (.rule .expression) (.error raised) calls r →
      Performs p (.rule .primary) (.error raised) (⟨.expression, q.enter⟩ :: calls) r.leave
  | grouping_read {p q tree calls r} :
      p.accept [.leftParen] = (true, q) → (q.depth : Int) < q.limit →
      Performs q.enter (.rule .expression) (.ok tree) calls r →
      Performs p (.rule .primary) (r.leave.close tree).1 (⟨.expression, q.enter⟩ :: calls)
        (r.leave.close tree).2

variable {p q : Parser} {task : Task} {outcome : Except Raised Expr} {calls : List Call}
  {kinds : List Kind} {token : Token} {tokens rest : List Token} {tree node : Expr}
  {result : Except Failure (Expr × List Token)}

/-! ### Tokens -/

/-- Whether the cursor of a parser stands among its tokens or at their end. -/
def Inside (p : Parser) : Prop :=
  p.current ≤ p.input.tokens.length

/-- Moving to a rear of the tokens leaves the cursor inside. -/
theorem inside_moveTo (p : Parser) (rest : List Token) : (p.moveTo rest).Inside :=
  Nat.sub_le _ _

namespace Inside

/-- Moving to where the parser already is changes nothing. -/
theorem moveTo_ahead (h : p.Inside) : p.moveTo p.ahead = p := by
  rw [moveTo, ← (At.of_current_le h).current_eq]

/-- Passing over the next token is moving to the tokens behind it. -/
theorem skip_eq (h : p.Inside) (next : p.ahead = token :: rest) : p.skip = p.moveTo rest := by
  have place := At.of_current_le h
  rw [next] at place
  have split : p.input.tokens = p.input.tokens.take p.current ++ [token] ++ rest := by
    rw [List.append_assoc]
    exact place.1
  rw [place.skip_eq, moveTo, Input.position_of_eq_append split, List.length_append, ← place.2]
  rfl

/-- Behind a token that has been passed over, it is the previous one. -/
theorem previous_moveTo (h : p.Inside) (next : p.ahead = token :: rest) :
    (p.moveTo rest).previous = token := by
  have place := At.of_current_le h
  rw [next] at place
  rw [← h.skip_eq next, place.skip.previous_eq]

end Inside

theorem ahead_moveTo_tail (next : p.ahead = token :: rest) : (p.moveTo rest).ahead = rest := by
  refine ahead_moveTo ?_
  rw [next]
  exact List.suffix_cons _ _

/-- Behind a token that has been passed over, the one after it is next. -/
theorem peek_moveTo (next : p.ahead = token :: rest) :
    (p.moveTo rest).peek = p.input.firstOf rest := by
  rw [peek, ahead_moveTo_tail next]
  rfl

/-- A kind is checked for among the tokens ahead, where the end of the input is none of them. -/
theorem check_iff {kind : Kind} : p.check kind = true ↔ BeginsWith [kind] p.ahead := by
  rw [check, peek, atEnd, Input.firstOf]
  cases p.ahead with
  | nil => simp
  | cons token rest =>
    rw [beginsWith_cons, List.mem_singleton]
    exact decide_eq_true_iff

/-- The same with several kinds. -/
theorem any_check_iff : kinds.any p.check = true ↔ BeginsWith kinds p.ahead := by
  rw [List.any_eq_true]
  simp only [check_iff]
  cases p.ahead <;> simp

/-- A token of one of the kinds is accepted and passed over. -/
theorem accept_of_mem (h : p.Inside) (next : p.ahead = token :: rest) (mem : token.kind ∈ kinds) :
    p.accept kinds = (true, p.moveTo rest) := by
  have begins : BeginsWith kinds p.ahead := by rwa [next]
  rw [accept, if_pos (any_check_iff.2 begins), h.skip_eq next]

/-- A token of any other kind, or the end, is left where it is. -/
theorem accept_of_not_beginsWith (h : ¬ BeginsWith kinds p.ahead) :
    p.accept kinds = (false, p) := by
  rw [accept, if_neg (mt any_check_iff.1 h)]

/-- The next token has been accepted when one was. -/
theorem exists_of_accept (h : p.Inside) (accepted : p.accept kinds = (true, q)) :
    ∃ token rest, p.ahead = token :: rest ∧ token.kind ∈ kinds ∧ q = p.moveTo rest := by
  by_cases begins : BeginsWith kinds p.ahead
  · cases next : p.ahead with
    | nil =>
      rw [next] at begins
      exact begins.elim
    | cons token rest =>
      rw [next] at begins
      rw [accept_of_mem h next begins] at accepted
      exact ⟨token, rest, rfl, begins, (Prod.mk.inj accepted).2.symm⟩
  · rw [accept_of_not_beginsWith begins] at accepted
    cases accepted

/-- When nothing was accepted, the next token is of another kind and the parser is as it was. -/
theorem eq_of_not_accept (declined : p.accept kinds = (false, q)) :
    ¬ BeginsWith kinds p.ahead ∧ q = p := by
  have none : ¬ kinds.any p.check = true := by
    intro any
    rw [accept, if_pos any] at declined
    cases declined
  rw [accept, if_neg none] at declined
  exact ⟨mt any_check_iff.2 none, (Prod.mk.inj declined).2.symm⟩

/-! ### Outcomes -/

/-- What the outcome of a task on a parser is as an outcome on the tokens, given the tokens that are
left. An error is about the next token, or about one that has been read when a node is too tall. -/
inductive Lists (input : Input) (limit : Int) :
    Except Raised Expr → Except Failure (Expr × List Token) → List Token → Prop where
  | tree {found left} : Lists input limit (.ok found) (.ok (found, left)) left
  | next (origin : Origin) {left} : origin ≠ .height →
      Lists input limit (.error ⟨origin, origin.cause limit, input.firstOf left⟩)
        (.error ⟨origin.cause limit, left, left⟩) left
  | passed (about : List Token) {left} : left.length < about.length →
      Lists input limit (.error ⟨.height, .tooDeep limit, input.firstOf about⟩)
        (.error ⟨.tooDeep limit, about, left⟩) left

/-- The outcome on the tokens leaves the tokens that are given. -/
theorem Lists.remaining_eq {input : Input} {limit : Int}
    (h : Lists input limit outcome result rest) : remaining result = rest := by
  cases h <;> rfl

/-- A completed node is compared with the limit as on lists of tokens. -/
theorem complete_lists (p : Parser) (node : Expr) (token : Token)
    (shorter : rest.length ≤ tokens.length) :
    Lists p.input p.limit (p.complete node token)
      (Grammar.bounded p.limit node (token :: tokens) rest) rest := by
  rw [complete, Grammar.bounded]
  split
  · exact .passed (token :: tokens) (Nat.lt_succ_of_le shorter)
  · exact .tree

/-- A grouping is closed as on lists of tokens: by a parenthesis, which is passed over, or not at
all, with the parser left before the token found instead. -/
theorem close_lists (h : p.Inside) (tree : Expr) : ∃ rest, (p.close tree).2 = p.moveTo rest ∧
    Lists p.input p.limit (p.close tree).1 (Grammar.closeGrouping p.limit tree p.ahead) rest := by
  by_cases closed : BeginsWith [.rightParen] p.ahead
  · cases next : p.ahead with
    | nil =>
      rw [next] at closed
      exact closed.elim
    | cons closing rest =>
      have expected : p.expect .rightParen "Expect ')' after expression." =
          (.ok closing, p.moveTo rest) := by
        rw [expect, if_pos (check_iff.2 closed), h.skip_eq next, peek, next]
        rfl
      rw [next, beginsWith_cons, List.mem_singleton] at closed
      rw [close, expected, Grammar.closeGrouping_of_closing closed]
      exact ⟨rest, rfl, complete_lists p _ closing (Nat.le_refl _)⟩
  · -- Nothing is passed, and the error is about the token at the cursor.
    have missing : p.expect .rightParen "Expect ')' after expression." =
        (.error ⟨unclosedGrouping, p.peek⟩, p) := by
      rw [expect, if_neg (mt check_iff.1 closed)]
      rfl
    rw [close, missing, Grammar.closeGrouping_of_unclosed p.limit tree closed]
    exact ⟨p.ahead, h.moveTo_ahead.symm, .next .closing (by decide)⟩

/-! ### What is performed -/

/-- A node is only rejected for its height, with the limit in the error. -/
theorem complete_eq_error {raised : Raised} (h : p.complete node token = .error raised) :
    p.limit < node.height ∧ raised = p.raise .height token := by
  unfold complete at h
  split at h
  · next tall => exact ⟨tall, (Except.error.inj h).symm⟩
  · cases h

/-- A node that is not rejected is within the limit and unchanged. -/
theorem complete_eq_ok {node' : Expr} (h : p.complete node token = .ok node') :
    node.height ≤ p.limit ∧ node' = node := by
  unfold complete at h
  split at h
  · cases h
  · next fits => exact ⟨Int.not_lt.1 fits, (Except.ok.inj h).symm⟩

theorem ahead_enter (p : Parser) : p.enter.ahead = p.ahead := rfl

/-- Inside and out again leads to where the tokens inside have led. -/
theorem leave_moveTo_enter (p : Parser) (rest : List Token) :
    (p.enter.moveTo rest).leave = p.moveTo rest := rfl

/-- An error is a failure on the tokens. -/
theorem Lists.exists_failure {input : Input} {limit : Int} {raised : Raised}
    (h : Lists input limit (.error raised) result rest) : ∃ failure, result = .error failure := by
  cases h <;> exact ⟨_, rfl⟩

/-- The tokens that are left are ahead where the parser has moved to. -/
theorem Lists.ahead_eq {limit : Int} {depth depth' : Nat}
    (lists : Lists p.input limit outcome result rest)
    (counts : Counts limit task depth p.ahead result depth') : (p.moveTo rest).ahead = rest := by
  have suffix := counts.reads.1.consumes.isSuffix
  rw [lists.remaining_eq] at suffix
  exact ahead_moveTo suffix

/-- What is performed is what reading with a counter comes to, and the parser is left as it was but
for the cursor. -/
theorem Performs.counts (h : Performs p task outcome calls q) (inside : p.Inside) :
    ∃ rest result, q = p.moveTo rest ∧
      Counts p.limit task p.depth p.ahead result p.depth ∧
      Lists p.input p.limit outcome result rest := by
  -- After each part the cursor stands in front of the tokens that the relation leaves, which is
  -- what lets the next part be read on.
  induction h with
  | expression _ ih =>
    obtain ⟨rest, result, rfl, counts, lists⟩ := ih inside
    exact ⟨rest, result, rfl, .expression counts, lists⟩
  | operand_failed level _ ih =>
    obtain ⟨rest, _, rfl, counts, lists⟩ := ih inside
    obtain ⟨failure, rfl⟩ := lists.exists_failure
    exact ⟨rest, _, rfl, .operand_failed level counts, lists⟩
  | operand_read level _ _ first second =>
    obtain ⟨rest, _, rfl, operand, lists⟩ := first inside
    obtain ⟨rest', result, rfl, chain, lists'⟩ := second (inside_moveTo _ _)
    rw [lists.ahead_eq operand] at chain
    cases lists
    exact ⟨rest', result, rfl, .operand_read level operand chain, lists'⟩
  | chain_done declined =>
    obtain ⟨done, rfl⟩ := eq_of_not_accept declined
    exact ⟨_, _, inside.moveTo_ahead.symm, .chain_done done, .tree⟩
  | chain_failed accepted _ ih =>
    obtain ⟨operator, tokens, next, kind, rfl⟩ := exists_of_accept inside accepted
    obtain ⟨rest, _, rfl, operand, lists⟩ := ih (inside_moveTo _ _)
    obtain ⟨failure, rfl⟩ := lists.exists_failure
    rw [ahead_moveTo_tail next] at operand
    rw [next]
    exact ⟨rest, _, rfl, .chain_failed kind operand, lists⟩
  | chain_tall accepted _ completed ih =>
    obtain ⟨operator, tokens, next, kind, rfl⟩ := exists_of_accept inside accepted
    obtain ⟨rest, _, rfl, operand, lists⟩ := ih (inside_moveTo _ _)
    rw [ahead_moveTo_tail next] at operand
    rw [inside.previous_moveTo next] at completed
    obtain ⟨tall, rfl⟩ := complete_eq_error completed
    rw [next]
    cases lists
    -- The error is about the operator, which has been passed by then.
    refine ⟨rest, _, rfl, .chain_tall kind operand tall, .passed (operator :: tokens) ?_⟩
    exact Nat.lt_succ_of_le operand.reads.1.length_le
  | chain_read accepted _ completed _ first second =>
    obtain ⟨operator, tokens, next, kind, rfl⟩ := exists_of_accept inside accepted
    obtain ⟨rest, _, rfl, operand, lists⟩ := first (inside_moveTo _ _)
    obtain ⟨rest', result, rfl, chain, lists'⟩ := second (inside_moveTo _ _)
    rw [lists.ahead_eq operand] at chain
    rw [ahead_moveTo_tail next] at operand
    rw [inside.previous_moveTo next] at completed
    obtain ⟨fits, rfl⟩ := complete_eq_ok completed
    rw [next]
    cases lists
    exact ⟨rest', result, rfl, .chain_read kind operand fits chain, lists'⟩
  | unary_full accepted full =>
    obtain ⟨operator, tokens, next, kind, rfl⟩ := exists_of_accept inside accepted
    rw [peek_moveTo next, next]
    exact ⟨tokens, _, rfl, .unary_full kind full, .next .nesting nofun⟩
  | unary_failed accepted below _ ih =>
    obtain ⟨operator, tokens, next, kind, rfl⟩ := exists_of_accept inside accepted
    obtain ⟨rest, _, rfl, counts, lists⟩ := ih (inside_moveTo _ _)
    obtain ⟨failure, rfl⟩ := lists.exists_failure
    rw [ahead_enter, ahead_moveTo_tail next] at counts
    rw [next]
    exact ⟨rest, _, rfl, .unary kind below counts, lists⟩
  | unary_read accepted below _ ih =>
    obtain ⟨operator, tokens, next, kind, rfl⟩ := exists_of_accept inside accepted
    obtain ⟨rest, _, rfl, counts, lists⟩ := ih (inside_moveTo _ _)
    rw [ahead_enter, ahead_moveTo_tail next] at counts
    rw [inside.previous_moveTo next, next]
    cases lists
    exact ⟨rest, _, rfl, .unary kind below counts,
      complete_lists _ _ operator counts.reads.1.length_le⟩
  | primary declined _ ih =>
    obtain ⟨other, rfl⟩ := eq_of_not_accept declined
    obtain ⟨rest, result, rfl, counts, lists⟩ := ih inside
    exact ⟨rest, result, rfl, .primary other counts, lists⟩
  | literal accepted value =>
    obtain ⟨token, tokens, next, -, rfl⟩ := exists_of_accept inside accepted
    rw [inside.previous_moveTo next] at value
    rw [next]
    exact ⟨tokens, _, rfl, .literal value, .tree⟩
  | operand_missing declined =>
    obtain ⟨missing, rfl⟩ := eq_of_not_accept declined
    exact ⟨_, _, inside.moveTo_ahead.symm, .operand_missing missing, .next .operand nofun⟩
  | grouping_full accepted full =>
    obtain ⟨opening, tokens, next, kind, rfl⟩ := exists_of_accept inside accepted
    rw [peek_moveTo next, next]
    exact ⟨tokens, _, rfl, .grouping_full (List.mem_singleton.1 kind) full, .next .nesting nofun⟩
  | grouping_failed accepted below _ ih =>
    obtain ⟨opening, tokens, next, kind, rfl⟩ := exists_of_accept inside accepted
    obtain ⟨rest, _, rfl, counts, lists⟩ := ih (inside_moveTo _ _)
    obtain ⟨failure, rfl⟩ := lists.exists_failure
    rw [ahead_enter, ahead_moveTo_tail next] at counts
    rw [next]
    exact ⟨rest, _, rfl, .grouping (List.mem_singleton.1 kind) below counts, lists⟩
  | @grouping_read p _ tree _ _ accepted below _ ih =>
    obtain ⟨opening, tokens, next, kind, rfl⟩ := exists_of_accept inside accepted
    obtain ⟨rest, _, rfl, counts, lists⟩ := ih (inside_moveTo _ _)
    have left : ((p.moveTo tokens).moveTo rest).ahead = rest := lists.ahead_eq counts
    rw [ahead_enter, ahead_moveTo_tail next] at counts
    rw [leave_moveTo_enter, next]
    cases lists
    obtain ⟨rest', moved, closed⟩ := close_lists (inside_moveTo (p.moveTo tokens) rest) tree
    rw [left] at closed
    exact ⟨rest', _, moved, .grouping (List.mem_singleton.1 kind) below counts, closed⟩

/-! ### What can be performed -/

/-- Whether a parser has some tokens ahead, with the limit and the depth that they are read with. -/
structure Stands (limit : Int) (depth : Nat) (tokens : List Token) (p : Parser) : Prop where
  limit_eq : p.limit = limit
  depth_eq : p.depth = depth
  ahead_eq : p.ahead = tokens
  inside : p.Inside

section

variable {limit : Int} {depth depth' : Nat}

namespace Stands

/-- Behind the first token the others stand ahead. -/
theorem tail (h : Stands limit depth (token :: tokens) p) :
    Stands limit depth tokens (p.moveTo tokens) :=
  ⟨h.limit_eq, h.depth_eq, ahead_moveTo_tail h.ahead_eq, inside_moveTo _ _⟩

theorem enter (h : Stands limit depth tokens p) : Stands limit (depth + 1) tokens p.enter :=
  ⟨h.limit_eq, congrArg (· + 1) h.depth_eq, h.ahead_eq, h.inside⟩

/-- The first token is accepted if it is of one of the kinds. -/
theorem accept (h : Stands limit depth (token :: tokens) p) (mem : token.kind ∈ kinds) :
    p.accept kinds = (true, p.moveTo tokens) :=
  accept_of_mem h.inside h.ahead_eq mem

/-- Nothing is accepted of tokens that begin otherwise. -/
theorem decline (h : Stands limit depth tokens p) (other : ¬ BeginsWith kinds tokens) :
    p.accept kinds = (false, p) :=
  accept_of_not_beginsWith (h.ahead_eq ▸ other)

/-- The token that has been passed over is the previous one. -/
theorem previous (h : Stands limit depth (token :: tokens) p) :
    (p.moveTo tokens).previous = token :=
  h.inside.previous_moveTo h.ahead_eq

theorem depth_lt (h : Stands limit depth tokens p) (below : (depth : Int) < limit) :
    (p.depth : Int) < p.limit := by
  rwa [h.depth_eq, h.limit_eq]

theorem le_depth (h : Stands limit depth tokens p) (full : limit ≤ (depth : Int)) :
    p.limit ≤ (p.depth : Int) := by
  rwa [h.depth_eq, h.limit_eq]

end Stands

/-- What is performed is whatever reading with a counter comes to. -/
theorem Performs.lists (h : Performs p task outcome calls q) (stands : Stands limit depth tokens p)
    (counts : Counts limit task depth tokens result depth') :
    ∃ left, Lists p.input limit outcome result left ∧ Stands limit depth' left q := by
  obtain ⟨rfl, rfl, rfl, inside⟩ := stands
  obtain ⟨left, result', rfl, counts', lists⟩ := h.counts inside
  have left_eq := lists.ahead_eq counts'
  obtain rfl : result' = result := (counts_iff.1 counts').1.symm.trans (counts_iff.1 counts).1
  exact ⟨left, lists, rfl, counts.reads.2.symm, left_eq, inside_moveTo _ _⟩

/-- What is performed is a tree if reading with a counter comes to it, and the same tokens are left.
-/
theorem Performs.eq_tree (h : Performs p task outcome calls q)
    (stands : Stands limit depth tokens p)
    (counts : Counts limit task depth tokens (.ok (tree, rest)) depth') :
    outcome = .ok tree ∧ Stands limit depth' rest q := by
  obtain ⟨_, lists, after⟩ := h.lists stands counts
  cases lists
  exact ⟨rfl, after⟩

/-- What is performed is an error if reading with a counter fails. -/
theorem Performs.exists_raised {failure : Failure} (h : Performs p task outcome calls q)
    (stands : Stands limit depth tokens p)
    (counts : Counts limit task depth tokens (.error failure) depth') :
    ∃ raised, outcome = .error raised := by
  obtain ⟨_, lists, -⟩ := h.lists stands counts
  cases lists <;> exact ⟨_, rfl⟩

/-- What can be read with a counter can be performed. -/
theorem exists_performs_of_counts (h : Counts limit task depth tokens result depth')
    (stands : Stands limit depth tokens p) :
    ∃ outcome calls q, Performs p task outcome calls q := by
  induction h generalizing p with
  | expression _ ih =>
    obtain ⟨_, _, _, performs⟩ := ih stands
    exact ⟨_, _, _, .expression performs⟩
  -- The operand cannot have returned a tree, since what is read with a counter has failed.
  | operand_failed level counts ih =>
    obtain ⟨_, _, _, operand⟩ := ih stands
    obtain ⟨raised, rfl⟩ := operand.exists_raised stands counts
    exact ⟨_, _, _, .operand_failed level operand⟩
  | operand_read level counts _ first second =>
    obtain ⟨_, _, _, operand⟩ := first stands
    obtain ⟨rfl, after⟩ := operand.eq_tree stands counts
    obtain ⟨_, _, _, chain⟩ := second after
    exact ⟨_, _, _, .operand_read level operand chain⟩
  | chain_done done => exact ⟨_, _, _, .chain_done (stands.decline done)⟩
  | chain_failed kind counts ih =>
    obtain ⟨_, _, _, operand⟩ := ih stands.tail
    obtain ⟨raised, rfl⟩ := operand.exists_raised stands.tail counts
    exact ⟨_, _, _, .chain_failed (stands.accept kind) operand⟩
  | chain_tall kind counts tall ih =>
    obtain ⟨_, _, _, operand⟩ := ih stands.tail
    obtain ⟨rfl, after⟩ := operand.eq_tree stands.tail counts
    rw [← stands.previous, ← after.limit_eq] at tall
    exact ⟨_, _, _, .chain_tall (stands.accept kind) operand (if_pos tall)⟩
  | chain_read kind counts fits _ first second =>
    obtain ⟨_, _, _, operand⟩ := first stands.tail
    obtain ⟨rfl, after⟩ := operand.eq_tree stands.tail counts
    obtain ⟨_, _, _, chain⟩ := second after
    rw [← stands.previous] at fits chain
    rw [← after.limit_eq] at fits
    exact ⟨_, _, _, .chain_read (stands.accept kind) operand (if_neg (Int.not_lt.2 fits)) chain⟩
  | unary_full kind full =>
    exact ⟨_, _, _, .unary_full (stands.accept kind) (stands.tail.le_depth full)⟩
  -- One more level of nesting is entered, and it is left whatever comes of the operand.
  | unary kind below _ ih =>
    obtain ⟨outcome, _, _, inner⟩ := ih stands.tail.enter
    have room := stands.tail.depth_lt below
    cases outcome with
    | error raised => exact ⟨_, _, _, .unary_failed (stands.accept kind) room inner⟩
    | ok operand => exact ⟨_, _, _, .unary_read (stands.accept kind) room inner⟩
  | primary other _ ih =>
    obtain ⟨_, _, _, operand⟩ := ih stands
    exact ⟨_, _, _, .primary (stands.decline other) operand⟩
  | literal value =>
    have kind := Grammar.mem_literalKinds value
    rw [← stands.previous] at value
    exact ⟨_, _, _, .literal (stands.accept kind) value⟩
  | operand_missing missing => exact ⟨_, _, _, .operand_missing (stands.decline missing)⟩
  | grouping_full opening full =>
    have kind := List.mem_singleton.2 opening
    exact ⟨_, _, _, .grouping_full (stands.accept kind) (stands.tail.le_depth full)⟩
  | grouping opening below _ ih =>
    obtain ⟨outcome, _, _, inner⟩ := ih stands.tail.enter
    have kind := List.mem_singleton.2 opening
    have room := stands.tail.depth_lt below
    cases outcome with
    | error raised => exact ⟨_, _, _, .grouping_failed (stands.accept kind) room inner⟩
    | ok tree => exact ⟨_, _, _, .grouping_read (stands.accept kind) room inner⟩

end

/-- Every task can be performed. -/
theorem exists_performs (inside : p.Inside) (task : Task) :
    ∃ outcome calls q, Performs p task outcome calls q :=
  exists_performs_of_counts (counts_iff.2 ⟨rfl, rfl⟩) ⟨rfl, rfl, rfl, inside⟩

/-- What is performed when a rule is called is what the attempt comes to. -/
theorem Performs.attempt_eq {rule : Rule} (h : Performs p (.rule rule) outcome calls q)
    (inside : p.Inside) : p.attempt rule = (outcome.mapError Raised.error, q) := by
  obtain ⟨rest, result, rfl, counts, lists⟩ := h.counts inside
  have read : rule.read p.limit p.room p.ahead = result := (counts_iff.1 counts).1
  rw [attempt, read]
  cases lists <;> rfl

end Parser

end ExprLang
