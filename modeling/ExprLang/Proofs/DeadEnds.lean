import ExprLang.Proofs.Limits
import ExprLang.Proofs.Lookahead

/-!
# Dead ends

A fault in the order of tokens is noticed at the first token that no expression can go on with. The
tokens in front of it are the beginning of some expression, and they tell which fault it is: either
an operand is due behind them, or they end with a whole operand and a parenthesis is open.

## Main definitions

* `OperandDue`, `OperandComplete`, `ParenthesisOpen`: what the tokens in front of a fault tell.
* `Stuck`: the fault that goes with them.
* `Task.Viable`: tokens that a task can go on from.

## Main statements

* `Reads.viable`, `Reads.stuck`: the tokens in front of a fault.
* `Parser.parse_eq_none_of_reads`: the tokens up to a fault.
* `Parser.failsAt_dead_end`: the first error of parsing.
-/

namespace ExprLang

open GrammarError (Cause)

variable {limit : Int} {room : Nat} {task : Task} {r : Rule} {tokens used front rest : List Token}
  {tree : Expr} {token : Token} {failure : Failure} {cause : Cause}

/-! ### Ends of tokens -/

/-- Whether an operand has to follow the tokens: there are none, or an operator or an opening
parenthesis is the last. -/
def OperandDue (front : List Token) : Prop :=
  ∀ token ∈ front.getLast?,
    token.kind ∈ .leftParen :: (Grammar.unaryOperators ++ Kind.binaryOperators)

/-- Whether the tokens end with a literal or a grouping. -/
def OperandComplete (front : List Token) : Prop :=
  ∃ before operand tree, front = before ++ operand ∧ Derives .primary operand tree

/-- How many of the tokens are of a kind. -/
def countKind (kind : Kind) (tokens : List Token) : Nat :=
  tokens.countP fun token => token.kind = kind

/-- Whether more parentheses are opened than closed among the tokens. -/
def ParenthesisOpen (front : List Token) : Prop :=
  countKind .rightParen front < countKind .leftParen front

/-- The fault that is noticed behind the tokens. -/
inductive Stuck : Cause → List Token → Prop where
  | operand {front : List Token} : OperandDue front → Stuck .operandExpected front
  | closing {front : List Token} :
      OperandComplete front → ParenthesisOpen front → Stuck unclosedGrouping front

/-- Tokens of a kind are counted piece by piece. -/
theorem countKind_append (kind : Kind) (a b : List Token) :
    countKind kind (a ++ b) = countKind kind a + countKind kind b :=
  List.countP_append

/-- The first token counts when it is of the kind. -/
theorem countKind_cons (kind : Kind) (token : Token) (tokens : List Token) :
    countKind kind (token :: tokens) =
      countKind kind tokens + if token.kind = kind then 1 else 0 := by
  simp [countKind, List.countP_cons]

/-- Binary operators are no parentheses. -/
theorem Level.ne_paren {level : Level} {kind : Kind} (h : kind ∈ level.operators) :
    kind ≠ .leftParen ∧ kind ≠ .rightParen := by
  revert kind
  cases level <;> decide

/-- The parentheses of an expression are paired. -/
theorem Derives.balanced (h : Derives r used tree) :
    countKind .rightParen used = countKind .leftParen used := by
  induction h with
  | expression _ ih | operand _ _ ih | primary _ ih => exact ih
  | binary level _ joins _ first second =>
    obtain ⟨noOpening, noClosing⟩ := Level.ne_paren (Level.joins_iff.1 joins)
    simp only [countKind_append, countKind_cons, if_neg noOpening, if_neg noClosing]
    omega
  | unary operator _ ih =>
    rcases operator with bang | minus
    · simpa [countKind_cons, bang] using ih
    · simpa [countKind_cons, minus] using ih
  | number kind | string kind | true kind | false kind | nil kind => simp [countKind, kind]
  | grouping opening _ closing ih =>
    simp only [countKind_append, countKind_cons, opening, closing]
    simpa [countKind] using ih

/-- An expression ends with a whole operand. -/
theorem Derives.operandComplete (h : Derives r used tree) : OperandComplete used := by
  induction h with
  | expression _ ih | operand _ _ ih => exact ih
  | @binary left operator right _ _ _ _ _ _ _ ih =>
    obtain ⟨before, operand, tree, rfl, inner⟩ := ih
    exact ⟨left ++ operator :: before, operand, tree, by simp, inner⟩
  | @unary operator _ _ _ _ ih =>
    obtain ⟨before, operand, tree, rfl, inner⟩ := ih
    exact ⟨operator :: before, operand, tree, rfl, inner⟩
  | primary inner _ => exact ⟨[], _, _, rfl, inner⟩
  | number kind => exact ⟨[], _, _, rfl, .number kind⟩
  | string kind => exact ⟨[], _, _, rfl, .string kind⟩
  | true kind => exact ⟨[], _, _, rfl, .true kind⟩
  | false kind => exact ⟨[], _, _, rfl, .false kind⟩
  | nil kind => exact ⟨[], _, _, rfl, .nil kind⟩
  | grouping opening inner closing _ => exact ⟨[], _, _, rfl, .grouping opening inner closing⟩

/-- What is derived as a literal or a grouping ends in a literal or a closing parenthesis. -/
theorem Derives.getLast?_primary (h : Derives .primary used tree) :
    ∃ last, used.getLast? = some last ∧ last.kind ∈ .rightParen :: Grammar.literalKinds := by
  generalize which : Rule.primary = rule at h
  cases h with
  | expression | unary | primary => cases which
  | operand level | binary level => cases level <;> cases which
  | @number token kind | @string token kind | @true token kind | @false token kind
  | @nil token kind => exact ⟨token, rfl, by rw [kind]; decide⟩
  | @grouping opening tokens _ closing _ _ kind =>
    refine ⟨closing, ?_, by rw [kind]; decide⟩
    rw [← List.cons_append, List.getLast?_concat]

/-- An operand cannot be due and complete at once. -/
theorem not_operandComplete (due : OperandDue front) : ¬ OperandComplete front := by
  rintro ⟨before, operand, tree, rfl, inner⟩
  obtain ⟨last, at_end, ends⟩ := inner.getLast?_primary
  have begins := due last (by rw [List.getLast?_append, at_end]; rfl)
  generalize last.kind = kind at begins ends
  revert kind
  decide

/-! ### The tokens in front of a fault -/

namespace Stuck

/-- Tokens are stuck behind an opening parenthesis or an operator as they are without it. -/
theorem cons (h : Stuck cause front)
    (kind : token.kind ∈ .leftParen :: (Grammar.unaryOperators ++ Kind.binaryOperators)) :
    Stuck cause (token :: front) := by
  cases h with
  | operand due =>
    refine .operand fun last at_end => ?_
    rw [List.getLast?_cons] at at_end
    -- If nothing follows, the token itself is what an operand has to follow.
    cases found : front.getLast? with
    | none =>
      rw [found] at at_end
      cases at_end
      exact kind
    | some other =>
      rw [found] at at_end
      cases at_end
      exact due _ found
  | closing complete open_ =>
    obtain ⟨before, operand, tree, rfl, inner⟩ := complete
    refine .closing ⟨token :: before, operand, tree, rfl, inner⟩ ?_
    have other : token.kind ≠ .rightParen := by
      intro same
      rw [same] at kind
      revert kind
      decide
    rw [ParenthesisOpen] at open_ ⊢
    rw [countKind_cons, countKind_cons, if_neg other]
    omega

/-- Tokens are stuck behind balanced ones as they are without them. -/
theorem append (h : Stuck cause front) (some : front ≠ [])
    (balanced : countKind .rightParen used = countKind .leftParen used) :
    Stuck cause (used ++ front) := by
  cases h with
  | operand due =>
    refine .operand fun last at_end => due last ?_
    rwa [List.getLast?_append_of_ne_nil _ some] at at_end
  | closing complete open_ =>
    obtain ⟨before, operand, tree, same, inner⟩ := complete
    refine .closing ⟨used ++ before, operand, tree, by rw [same, List.append_assoc], inner⟩ ?_
    rw [ParenthesisOpen] at open_ ⊢
    rw [countKind_append, countKind_append]
    omega

end Stuck

/-- What is taken before a fault in a chain begins with an operator. -/
def Task.Begun : Task → List Token → Prop
  | .rule _, _ => True
  | .chain _ _, front => front ≠ []

/-- The operators of every level are binary operators. -/
theorem Level.operators_subset_binaryOperators (level : Level) :
    level.operators ⊆ Kind.binaryOperators := by
  cases level <;> decide

/-- The tokens that are taken before a fault tell which it is. -/
theorem Reads.stuck (h : Reads limit room task tokens (.error failure))
    (clean : ¬ TooDeep (.error failure)) :
    ∃ front, tokens = front ++ failure.rest ∧ Stuck failure.cause front ∧ task.Begun front := by
  generalize result : Except.error failure = outcome at h
  induction h with
  | expression _ ih | operand_failed _ _ ih =>
    obtain ⟨front, split, stuck, -⟩ := ih result
    exact ⟨front, split, stuck, trivial⟩
  | primary _ _ ih =>
    obtain ⟨front, split, stuck, -⟩ := ih result
    exact ⟨front, split, stuck, trivial⟩
  -- The first operand leaves no parenthesis open, so what follows it decides.
  | operand_read level first _ _ ih =>
    obtain ⟨front, rfl, stuck, begun⟩ := ih result
    obtain ⟨used, rfl, inner⟩ := first.derives
    exact ⟨used ++ front, (List.append_assoc ..).symm, stuck.append begun inner.balanced, trivial⟩
  | @chain_failed _ level _ token _ _ operator _ ih =>
    obtain ⟨front, rfl, stuck, -⟩ := ih result
    have kind := level.operators_subset_binaryOperators operator
    exact ⟨token :: front, rfl, stuck.cons (List.mem_cons_of_mem _ (List.mem_append_right _ kind)),
      List.cons_ne_nil _ _⟩
  | @chain_read _ level _ token _ _ _ _ operator operand _ _ _ ih =>
    obtain ⟨front, rfl, stuck, begun⟩ := ih result
    obtain ⟨used, rfl, inner⟩ := operand.derives
    have kind := level.operators_subset_binaryOperators operator
    refine ⟨token :: (used ++ front), by simp, ?_, List.cons_ne_nil _ _⟩
    exact (stuck.append begun inner.balanced).cons
      (List.mem_cons_of_mem _ (List.mem_append_right _ kind))
  | @unary_failed _ token _ _ operator _ ih =>
    obtain ⟨front, rfl, stuck, -⟩ := ih result
    exact ⟨token :: front, rfl,
      stuck.cons (List.mem_cons_of_mem _ (List.mem_append_left _ operator)), trivial⟩
  | operand_missing =>
    cases result
    exact ⟨[], rfl, .operand (by simp [OperandDue]), trivial⟩
  | @grouping_failed _ token _ _ opening _ ih =>
    obtain ⟨front, rfl, stuck, -⟩ := ih result
    exact ⟨token :: front, rfl, stuck.cons (by rw [opening]; exact List.mem_cons_self), trivial⟩
  -- What has been read inside is a whole operand, and the parenthesis in front of it is open.
  | @grouping_unclosed _ token _ _ _ opening inside _ _ =>
    cases result
    obtain ⟨used, rfl, inner⟩ := inside.derives
    obtain ⟨before, operand, tree, rfl, last⟩ := Derives.operandComplete inner
    refine ⟨token :: (before ++ operand), rfl,
      .closing ⟨token :: before, operand, tree, rfl, last⟩ ?_, trivial⟩
    have paired := Derives.balanced inner
    simp [ParenthesisOpen, countKind_cons, opening, paired]
  | chain_tall | unary_full | unary_tall | grouping_full | grouping_tall =>
    cases result
    exact absurd rfl clean
  | _ => cases result

/-- Whether a task can come to a tree on the tokens and some others behind them. -/
def Task.Viable : Task → List Token → Prop
  | .rule r, front => ∃ behind tree, ExprLang.Derives r (front ++ behind) tree
  | .chain level left, front => ∀ before, ExprLang.Derives level.rule before left →
      ∃ behind tree, ExprLang.Derives level.rule (before ++ front ++ behind) tree

/-- The tokens that are taken before a fault are the beginning of what a task can come to. -/
theorem Reads.viable (h : Reads limit room task tokens (.error failure))
    (clean : ¬ TooDeep (.error failure)) :
    ∃ front, tokens = front ++ failure.rest ∧ task.Viable front := by
  generalize result : Except.error failure = outcome at h
  induction h with
  | expression _ ih =>
    obtain ⟨front, split, behind, tree, derives⟩ := ih result
    exact ⟨front, split, behind, tree, .expression derives⟩
  | operand_failed level _ ih =>
    obtain ⟨front, split, behind, tree, derives⟩ := ih result
    exact ⟨front, split, behind, tree, .operand level derives⟩
  -- The first operand is complete, and whatever completes the chain completes it from there.
  | operand_read level first _ _ ih =>
    obtain ⟨front, rfl, viable⟩ := ih result
    obtain ⟨used, rfl, inner⟩ := first.derives
    obtain ⟨behind, tree, derives⟩ := viable used (.operand level inner)
    exact ⟨used ++ front, (List.append_assoc ..).symm, behind, tree, derives⟩
  | @chain_failed _ level left token _ _ operator _ ih =>
    obtain ⟨front, rfl, behind, tree, derives⟩ := ih result
    refine ⟨token :: front, rfl, fun before first => ⟨behind, .binary left token tree, ?_⟩⟩
    have whole := Derives.binary level first (Level.joins_iff.2 operator) derives
    simpa using whole
  | @chain_read _ level _ token _ _ _ _ operator operand _ _ _ ih =>
    obtain ⟨front, rfl, viable⟩ := ih result
    obtain ⟨used, rfl, inner⟩ := operand.derives
    refine ⟨token :: (used ++ front), by simp, fun before first => ?_⟩
    -- The node with the operand that has been read is what the rest of the chain goes on from.
    obtain ⟨behind, tree, derives⟩ :=
      viable _ (Derives.binary level first (Level.joins_iff.2 operator) inner)
    exact ⟨behind, tree, by simpa using derives⟩
  | @unary_failed _ token _ _ operator _ ih =>
    obtain ⟨front, rfl, behind, tree, derives⟩ := ih result
    exact ⟨token :: front, rfl, behind, _, .unary (Grammar.mem_unaryOperators.1 operator) derives⟩
  | primary _ _ ih =>
    obtain ⟨front, split, behind, tree, derives⟩ := ih result
    exact ⟨front, split, behind, tree, .primary derives⟩
  -- Where an operand is missing, a literal completes the expression.
  | operand_missing =>
    cases result
    exact ⟨[], rfl, [⟨.keyword .kwNil, "nil", .nil, 1⟩], _, .nil rfl⟩
  | @grouping_failed _ token _ _ opening _ ih =>
    obtain ⟨front, rfl, behind, tree, derives⟩ := ih result
    refine ⟨token :: front, rfl, behind ++ [⟨.rightParen, ")", .nil, 1⟩], .grouping tree, ?_⟩
    rw [List.cons_append, ← List.append_assoc]
    exact .grouping opening derives rfl
  | @grouping_unclosed _ token _ _ _ opening inside _ _ =>
    cases result
    obtain ⟨used, rfl, inner⟩ := inside.derives
    exact ⟨token :: used, rfl, [⟨.rightParen, ")", .nil, 1⟩], _, .grouping opening inner rfl⟩
  | chain_tall | unary_full | unary_tall | grouping_full | grouping_tall =>
    cases result
    exact absurd rfl clean
  | _ => cases result

/-! ### Parsing -/

/-- Only tokens of expressions are derived. -/
theorem Derives.plain (h : Derives r used tree) : ∀ token ∈ used, token.kind ∈ exprKinds := by
  have reads := (h.reads (Nat.le_refl _) (Int.le_refl _)).whole [] (beginsWith_nil _)
  obtain ⟨used', split, plain⟩ := reads.consumes
  obtain rfl : used = used' := by simpa [remaining] using split
  exact plain

/-- No token of an expression ends the input. -/
theorem isEnd_eq_false_of_mem_exprKinds (h : token.kind ∈ exprKinds) : token.isEnd = false := by
  refine decide_eq_false fun ends => ?_
  rw [ends] at h
  revert h
  decide

/-- A fault that is noticed at a token is noticed there whatever follows that token. -/
theorem Reads.exchange_behind {more : List Token}
    (h : Reads limit room task (front ++ (Input.ofTokens (token :: more)).tokens)
      (.error ⟨cause, (Input.ofTokens (token :: more)).tokens,
        (Input.ofTokens (token :: more)).tokens⟩)) (other : List Token) :
    Reads limit room task (front ++ (Input.ofTokens (token :: other)).tokens)
      (.error ⟨cause, (Input.ofTokens (token :: other)).tokens,
        (Input.ofTokens (token :: other)).tokens⟩) := by
  simp only [Input.tokens_ofTokens] at h ⊢
  cases isEnd : token.isEnd with
  | true => simpa [isEnd] using h
  | false =>
    rw [List.takeWhile_cons_of_pos (by simp [isEnd])] at h ⊢
    obtain ⟨seen, -, split, reads⟩ :=
      h.exchange (.error ⟨cause, [token], [token]⟩) rfl (List.cons_ne_nil _ _)
    obtain rfl : front ++ [token] = seen :=
      List.append_cancel_right (by rw [← split, List.append_assoc]; rfl)
    simpa [leaving] using reads _

namespace Parser

variable {body more : List Token} {stop : Token} {recovers : Bool} {e : GrammarError} {index : Nat}

/-- Where the first error of parsing is noticed, what stands in front of it and how it is read. -/
theorem FailsAt.exists_split (ends : stop.kind = .endOfInput)
    (h : (ofTokens (body ++ [stop]) recovers limit).FailsAt e index)
    (clean : e.cause.code ≠ .nestingTooDeep) :
    ∃ front token more, body ++ [stop] = front ++ token :: more ∧ front.length = index ∧
      e.token = token ∧
      Reads limit limit.toNat (.rule .expression)
        (front ++ (Input.ofTokens (token :: more)).tokens)
        (.error ⟨e.cause, (Input.ofTokens (token :: more)).tokens,
          (Input.ofTokens (token :: more)).tokens⟩) := by
  obtain ⟨⟨cause, site, rest⟩, read, rfl, rfl⟩ := failsAt_iff.1 h
  have reads : Reads limit limit.toNat (.rule .expression)
      (Input.ofTokens (body ++ [stop])).tokens _ := reads_iff.2 read
  obtain rfl : site = rest := reads.site_eq_rest clean
  obtain ⟨front, split⟩ := reads.consumes.isSuffix
  change front ++ site = _ at split
  obtain ⟨behind, whole, live, same⟩ := Input.tokens_ofTokens_eq_append_iff.1 split.symm
  cases behind with
  | nil =>
    -- The end of the input is never read.
    have inside := live stop (by rw [← List.append_nil front, ← whole]; simp)
    rw [Token.isEnd, ends] at inside
    cases inside
  | cons token more =>
    refine ⟨front, token, more, whole, (Input.position_of_eq_append split.symm).symm, ?_, ?_⟩
    · have within : front.length ≤ (Input.ofTokens (body ++ [stop])).tokens.length := by
        rw [← split, List.length_append]
        omega
      have next : (body ++ [stop])[front.length]? = some token := by
        rw [whole]
        simp
      have found := Input.firstOf_drop_ofTokens within next
      rwa [← split, List.drop_left] at found
    · rw [same, split]
      exact reads

/-- No tokens that begin like an input up to the token of a fault make up an expression, whatever
the limit. -/
theorem parse_eq_none_of_reads {front : List Token} {lower : Int}
    (h : Reads limit limit.toNat (.rule .expression)
      (front ++ (Input.ofTokens (token :: more)).tokens)
      (.error ⟨cause, (Input.ofTokens (token :: more)).tokens,
        (Input.ofTokens (token :: more)).tokens⟩))
    (clean : cause.code ≠ .nestingTooDeep) (other : List Token) :
    (ofTokens (front ++ token :: other) recovers lower).parse.1 = none := by
  obtain ⟨used, split, plain⟩ := h.consumes
  obtain rfl : front = used := List.append_cancel_right split
  have live (token : Token) (mem : token ∈ front) : token.isEnd = false :=
    isEnd_eq_false_of_mem_exprKinds (plain token mem)
  have input : (Input.ofTokens (front ++ token :: other)).tokens =
      front ++ (Input.ofTokens (token :: other)).tokens :=
    Input.tokens_ofTokens_eq_append_iff.2 ⟨_, rfl, live, rfl⟩
  rw [Option.eq_none_iff_forall_ne_some]
  intro tree parsed
  obtain ⟨rest, read, -⟩ := parse_eq_tree_iff_read.1 ⟨parsed, rfl⟩
  have reads : Reads lower lower.toNat (.rule .expression)
      (Input.ofTokens (front ++ token :: other)).tokens (.ok (tree, rest)) := reads_iff.2 read
  rw [input] at reads
  -- Under a limit above both, the tokens would be read in two ways.
  obtain ⟨_, whole, same⟩ := reads.raise (Int.le_max_left lower limit)
    (Nat.le_max_left lower.toNat limit.toNat)
  obtain ⟨_, fault, ⟨-, same'⟩ | ⟨deep, -⟩⟩ := (h.exchange_behind other).raise
    (Int.le_max_right lower limit) (Nat.le_max_right lower.toNat limit.toNat)
  · rw [same.eq_ok] at whole
    rw [same'] at fault
    cases whole.read_eq.symm.trans fault.read_eq
  · exact clean deep

/-- The tokens of an expression in front of the end of the input are read to the last. -/
theorem parse_of_derives (derives : Derives .expression used tree) (recovers : Bool)
    {limit : Nat} (low : tree.height ≤ limit) (ends : stop.kind = .endOfInput) :
    (ofTokens (used ++ [stop]) recovers limit).parse.1 = some tree ∧
      (ofTokens (used ++ [stop]) recovers limit).parse.2.errors = [] ∧
      (ofTokens (used ++ [stop]) recovers limit).parse.2.current = used.length := by
  have live : ∀ token ∈ used, token.isEnd = false := fun token mem =>
    isEnd_eq_false_of_mem_exprKinds (derives.plain token mem)
  have input : (Input.ofTokens (used ++ [stop])).tokens = used :=
    (Input.ofTokens_append_end live ends).1
  have read : Rule.expression.read limit limit (Input.ofTokens (used ++ [stop])).tokens =
      .ok (tree, []) := by
    rw [input]
    exact Rule.read_expression_iff.2
      ⟨used, (List.append_nil used).symm, derives, beginsWith_nil _, low⟩
  have whole : (Input.ofTokens (used ++ [stop])).position [] = used.length := by
    rw [Input.position, input]
    exact Nat.sub_zero _
  obtain ⟨parsed, current⟩ :
      (ofTokens (used ++ [stop]) recovers limit).parse.1 = some tree ∧
        (ofTokens (used ++ [stop]) recovers limit).parse.2.current = used.length :=
    parse_eq_tree_iff_read.2 ⟨[], read, whole⟩
  refine ⟨parsed, errors_parse_of_tree ?_, current⟩
  rw [← parse_fst, parsed]
  rfl

/-- The first error of parsing is noticed as early as possible, unless a tree is too tall. Nothing
that begins with the tokens up to there is an expression, under no limit. The tokens in front of it
can be completed to an expression, which is read to its end under every limit that its height does
not exceed. A closing parenthesis is missed exactly when these tokens end with a whole operand and
leave a parenthesis open, and an operand is missed exactly when one has to follow them. -/
theorem failsAt_dead_end (body : List Token) (stop : Token) (recovers : Bool) (limit : Nat)
    (e : GrammarError) (index : Nat) (ends : stop.kind = .endOfInput)
    (fails : (ofTokens (body ++ [stop]) recovers limit).FailsAt e index)
    (clean : e.cause.code ≠ .nestingTooDeep) :
    let tokens := body ++ [stop]
    let front := tokens.take index
    tokens[index]? = some e.token ∧
    (∀ other recovers limit,
      (ofTokens (tokens.take (index + 1) ++ other) recovers limit).parse.1 = none) ∧
    (∃ behind least, ∀ (limit : Nat) recovers last, least ≤ limit → last.kind = .endOfInput →
      let parsed := (ofTokens (front ++ behind ++ [last]) recovers limit).parse
      parsed.1.isSome ∧ parsed.2.errors = [] ∧
        parsed.2.current = (front ++ behind).length) ∧
    (e.cause.code = .missingToken ∧ e.expected? = some .rightParen ↔
      OperandComplete front ∧ ParenthesisOpen front) ∧
    (e.cause.code = .unexpectedToken ↔ OperandDue front) := by
  intro tokens
  obtain ⟨front, token, more, whole, rfl, noticed, reads⟩ := fails.exists_split ends clean
  have split : tokens.take front.length = front ∧
      tokens.take (front.length + 1) = front ++ [token] ∧
      tokens[front.length]? = some token := by
    simp only [tokens, whole]
    simp [List.take_append, List.take_of_length_le]
  obtain ⟨taken, upTo, here⟩ := split
  obtain ⟨front', same, viable⟩ := reads.viable clean
  obtain rfl := List.append_cancel_right same
  obtain ⟨front', same', stuck, -⟩ := reads.stuck clean
  obtain rfl := List.append_cancel_right same'
  simp only [taken, upTo, here]
  refine ⟨congrArg some noticed.symm, ?_, ?_, ?_⟩
  · -- Reading has not looked behind the token, so it fails there however the list goes on.
    intro other recovers lower
    rw [List.append_assoc, List.singleton_append]
    exact parse_eq_none_of_reads reads clean other
  · -- A tree that completes the front is read under every limit that its height does not exceed.
    obtain ⟨behind, tree, derives⟩ := viable
    refine ⟨behind, tree.height, fun limit recovers last low ends => ?_⟩
    obtain ⟨parsed, clean, current⟩ := parse_of_derives derives recovers low ends
    exact ⟨by rw [parsed]; rfl, clean, current⟩
  · -- The front is stuck in one of two ways, which exclude each other.
    obtain ⟨cause, _⟩ := e
    cases stuck with
    | operand due =>
      have incomplete := not_operandComplete due
      simp [Cause.code, due, incomplete]
    | closing complete open_ =>
      have notDue : ¬ OperandDue front := fun due => not_operandComplete due complete
      simp [Cause.code, GrammarError.expected?, complete, open_, notDue]

/-- In `(1 2` a closing parenthesis is missed at the second number. -/
theorem failsAt_dead_end_unclosed :
    let body : List Token := [⟨.leftParen, "(", .nil, 1⟩, ⟨.number, "1", .integer 1, 1⟩,
      ⟨.number, "2", .integer 2, 1⟩]
    let e : GrammarError := ⟨unclosedGrouping, ⟨.number, "2", .integer 2, 1⟩⟩
    let tokens := body ++ [.endOfInput 1]
    (ofTokens tokens true 64).FailsAt e 2 ∧ e.cause.code ≠ .nestingTooDeep ∧
      (∀ other recovers limit, (ofTokens (tokens.take 3 ++ other) recovers limit).parse.1 = none) ∧
      OperandComplete (tokens.take 2) ∧ ParenthesisOpen (tokens.take 2) := by
  intro body e tokens
  have fails : (ofTokens tokens true 64).FailsAt e 2 :=
    ⟨by decide +kernel, by decide +kernel, by decide +kernel⟩
  have clean : e.cause.code ≠ .nestingTooDeep := by decide
  obtain ⟨-, dead, -, closing, -⟩ := failsAt_dead_end body _ true 64 e 2 rfl fails clean
  exact ⟨fails, clean, dead, closing.1 ⟨rfl, rfl⟩⟩

end Parser

end ExprLang
