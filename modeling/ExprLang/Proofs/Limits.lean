import ExprLang.Proofs.Acceptance
import ExprLang.Proofs.Resumption
import ExprLang.Proofs.Statements

/-!
# Limits

How the limit on the height of trees bears on what is read. Under a higher limit the same is read,
unless the lower limit is exceeded; then reading gets at least as far under the higher one. A limit
that is not below the number of tokens is never exceeded.

## Main definitions

* `TooDeep`: the outcomes that a limit is to blame for.
* `Extends`: what an outcome may turn into under a higher limit.
* `Parser.FailsAt`: the first error of parsing and the index of its token.

## Main statements

* `Reads.raise`: reading under a higher limit.
* `Reads.low`, `Reads.not_tooDeep`: the height of a tree and the number of its tokens.
* `Parser.parse_limits`: parsing under two limits.
-/

namespace ExprLang

variable {limit higher : Int} {room more : Nat} {task : Task} {tokens rest : List Token}
  {tree left : Expr} {level : Level} {token : Token} {failure : Failure}
  {outcome outcome' : Except Failure (Expr × List Token)}

/-- Whether an outcome is the fault of a tree that is too tall. -/
def TooDeep : Except Failure (Expr × List Token) → Prop
  | .ok _ => False
  | .error failure => failure.cause.code = .nestingTooDeep

/-- Whether an outcome is another one, or gets at least as far where the other one is the fault of a
tree that is too tall. -/
def Extends (outcome outcome' : Except Failure (Expr × List Token)) : Prop :=
  (¬ TooDeep outcome ∧ outcome' = outcome) ∨
    (TooDeep outcome ∧ remaining outcome' <:+ remaining outcome)

/-- A tree is not extended to anything but itself. -/
theorem Extends.eq_ok (h : Extends (.ok (tree, rest)) outcome) : outcome = .ok (tree, rest) := by
  rcases h with ⟨-, same⟩ | ⟨deep, -⟩
  · exact same
  · exact deep.elim

/-! ### Going on from a part -/

namespace Reads

/-- What is read as an operand goes on as a level, and does not go back. -/
theorem exists_level (level : Level) (h : Reads limit room (.rule level.operand) tokens outcome) :
    ∃ whole, Reads limit room (.rule level.rule) tokens whole ∧
      remaining whole <:+ remaining outcome := by
  cases outcome with
  | error failure => exact ⟨_, .operand_failed level h, List.suffix_refl _⟩
  | ok result =>
    obtain ⟨left, rest⟩ := result
    have chain := reads_read limit room (.chain level left) rest
    exact ⟨_, .operand_read level h chain, chain.consumes.isSuffix⟩

/-- What is read behind an operator of a chain goes on as the chain, and does not go back. -/
theorem exists_chain (left : Expr) (operator : token.kind ∈ level.operators)
    (h : Reads limit room (.rule level.operand) tokens outcome) :
    ∃ whole, Reads limit room (.chain level left) (token :: tokens) whole ∧
      remaining whole <:+ remaining outcome := by
  cases outcome with
  | error failure => exact ⟨_, .chain_failed operator h, List.suffix_refl _⟩
  | ok result =>
    obtain ⟨right, rest⟩ := result
    by_cases fits : ((Expr.binary left token right).height : Int) ≤ limit
    · have chain := reads_read limit room (.chain level (.binary left token right)) rest
      exact ⟨_, .chain_read operator h fits chain, chain.consumes.isSuffix⟩
    · exact ⟨_, .chain_tall operator h (Int.not_le.1 fits), List.suffix_refl _⟩

/-- What is read behind a unary operator goes on as the node, with room for one more. -/
theorem exists_unary (operator : token.kind ∈ Grammar.unaryOperators)
    (h : Reads limit room (.rule .unary) tokens outcome) :
    ∃ whole, Reads limit (room + 1) (.rule .unary) (token :: tokens) whole ∧
      remaining whole <:+ remaining outcome := by
  cases outcome with
  | error failure => exact ⟨_, .unary_failed operator h, List.suffix_refl _⟩
  | ok result =>
    obtain ⟨operand, rest⟩ := result
    by_cases fits : ((Expr.unary token operand).height : Int) ≤ limit
    · exact ⟨_, .unary_read operator h fits, List.suffix_refl _⟩
    · exact ⟨_, .unary_tall operator h (Int.not_le.1 fits), List.suffix_refl _⟩

/-- What is read behind an opening parenthesis goes on as the grouping, with room for one more. -/
theorem exists_grouping (opening : token.kind = .leftParen)
    (h : Reads limit room (.rule .expression) tokens outcome) :
    ∃ whole, Reads limit (room + 1) (.rule .primary) (token :: tokens) whole ∧
      remaining whole <:+ remaining outcome := by
  cases outcome with
  | error failure => exact ⟨_, .grouping_failed opening h, List.suffix_refl _⟩
  | ok result =>
    obtain ⟨tree, rest⟩ := result
    by_cases closes : BeginsWith [.rightParen] rest
    · cases rest with
      | nil => exact closes.elim
      | cons closing rest =>
        have closing : closing.kind = .rightParen := by simpa using closes
        by_cases fits : ((Expr.grouping tree).height : Int) ≤ limit
        · exact ⟨_, .grouping_read opening h closing fits, List.suffix_cons _ _⟩
        · exact ⟨_, .grouping_tall opening h closing (Int.not_le.1 fits), List.suffix_cons _ _⟩
    · exact ⟨_, .grouping_unclosed opening h closes, List.suffix_refl _⟩

/-- What is read under a higher limit, and with more room for nesting. -/
theorem raise (h : Reads limit room task tokens outcome) (le : limit ≤ higher)
    (roomy : room ≤ more) :
    ∃ outcome', Reads higher more task tokens outcome' ∧ Extends outcome outcome' := by
  induction h generalizing more with
  | expression _ ih =>
    obtain ⟨_, reads, extends_⟩ := ih roomy
    exact ⟨_, .expression reads, extends_⟩
  -- An operand that was nested too deeply may be read with more room, and then the level goes on.
  | operand_failed level _ ih =>
    obtain ⟨_, reads, ⟨clean, rfl⟩ | ⟨deep, further⟩⟩ := ih roomy
    · exact ⟨_, .operand_failed level reads, .inl ⟨clean, rfl⟩⟩
    · obtain ⟨_, whole, suffix⟩ := reads.exists_level level
      exact ⟨_, whole, .inr ⟨deep, suffix.trans further⟩⟩
  | operand_read level _ _ first second =>
    obtain ⟨_, reads, same⟩ := first roomy
    obtain ⟨_, chain, extends_⟩ := second roomy
    rw [same.eq_ok] at reads
    exact ⟨_, .operand_read level reads chain, extends_⟩
  | chain_done done => exact ⟨_, .chain_done done, .inl ⟨id, rfl⟩⟩
  | chain_failed operator _ ih =>
    obtain ⟨_, reads, ⟨clean, rfl⟩ | ⟨deep, further⟩⟩ := ih roomy
    · exact ⟨_, .chain_failed operator reads, .inl ⟨clean, rfl⟩⟩
    · obtain ⟨_, whole, suffix⟩ := reads.exists_chain _ operator
      exact ⟨_, whole, .inr ⟨deep, suffix.trans further⟩⟩
  | chain_tall operator _ _ ih =>
    -- The node may be low enough for the higher limit, and then the chain goes on.
    obtain ⟨_, reads, same⟩ := ih roomy
    rw [same.eq_ok] at reads
    obtain ⟨_, whole, suffix⟩ := reads.exists_chain _ operator
    exact ⟨_, whole, .inr ⟨rfl, suffix⟩⟩
  | chain_read operator _ fits _ first second =>
    obtain ⟨_, reads, same⟩ := first roomy
    obtain ⟨_, chain, extends_⟩ := second roomy
    rw [same.eq_ok] at reads
    exact ⟨_, .chain_read operator reads (Int.le_trans fits le) chain, extends_⟩
  | @unary_full _ tokens operator =>
    cases more with
    | zero => exact ⟨_, .unary_full operator, .inr ⟨rfl, List.suffix_refl _⟩⟩
    | succ n =>
      have reads := reads_read higher n (.rule .unary) tokens
      obtain ⟨_, whole, suffix⟩ := reads.exists_unary operator
      exact ⟨_, whole, .inr ⟨rfl, suffix.trans reads.consumes.isSuffix⟩⟩
  | unary_failed operator _ ih =>
    obtain ⟨n, rfl⟩ : ∃ n, more = n + 1 := ⟨more - 1, by omega⟩
    obtain ⟨_, reads, ⟨clean, rfl⟩ | ⟨deep, further⟩⟩ := ih (Nat.le_of_succ_le_succ roomy)
    · exact ⟨_, .unary_failed operator reads, .inl ⟨clean, rfl⟩⟩
    · obtain ⟨_, whole, suffix⟩ := reads.exists_unary operator
      exact ⟨_, whole, .inr ⟨deep, suffix.trans further⟩⟩
  | unary_tall operator _ _ ih =>
    obtain ⟨n, rfl⟩ : ∃ n, more = n + 1 := ⟨more - 1, by omega⟩
    obtain ⟨_, reads, same⟩ := ih (Nat.le_of_succ_le_succ roomy)
    rw [same.eq_ok] at reads
    obtain ⟨_, whole, suffix⟩ := reads.exists_unary operator
    exact ⟨_, whole, .inr ⟨rfl, suffix⟩⟩
  | unary_read operator _ fits ih =>
    obtain ⟨n, rfl⟩ : ∃ n, more = n + 1 := ⟨more - 1, by omega⟩
    obtain ⟨_, reads, same⟩ := ih (Nat.le_of_succ_le_succ roomy)
    rw [same.eq_ok] at reads
    exact ⟨_, .unary_read operator reads (Int.le_trans fits le), .inl ⟨id, rfl⟩⟩
  | primary other _ ih =>
    obtain ⟨_, reads, extends_⟩ := ih roomy
    exact ⟨_, .primary other reads, extends_⟩
  | literal value => exact ⟨_, .literal value, .inl ⟨id, rfl⟩⟩
  | operand_missing missing => exact ⟨_, .operand_missing missing, .inl ⟨nofun, rfl⟩⟩
  | @grouping_full _ tokens opening =>
    cases more with
    | zero => exact ⟨_, .grouping_full opening, .inr ⟨rfl, List.suffix_refl _⟩⟩
    | succ n =>
      have reads := reads_read higher n (.rule .expression) tokens
      obtain ⟨_, whole, suffix⟩ := reads.exists_grouping opening
      exact ⟨_, whole, .inr ⟨rfl, suffix.trans reads.consumes.isSuffix⟩⟩
  | grouping_failed opening _ ih =>
    obtain ⟨n, rfl⟩ : ∃ n, more = n + 1 := ⟨more - 1, by omega⟩
    obtain ⟨_, reads, ⟨clean, rfl⟩ | ⟨deep, further⟩⟩ := ih (Nat.le_of_succ_le_succ roomy)
    · exact ⟨_, .grouping_failed opening reads, .inl ⟨clean, rfl⟩⟩
    · obtain ⟨_, whole, suffix⟩ := reads.exists_grouping opening
      exact ⟨_, whole, .inr ⟨deep, suffix.trans further⟩⟩
  | grouping_unclosed opening _ open_ ih =>
    obtain ⟨n, rfl⟩ : ∃ n, more = n + 1 := ⟨more - 1, by omega⟩
    obtain ⟨_, reads, same⟩ := ih (Nat.le_of_succ_le_succ roomy)
    rw [same.eq_ok] at reads
    exact ⟨_, .grouping_unclosed opening reads open_, .inl ⟨nofun, rfl⟩⟩
  | @grouping_tall _ _ _ tree _ _ opening _ closes _ ih =>
    obtain ⟨n, rfl⟩ : ∃ n, more = n + 1 := ⟨more - 1, by omega⟩
    obtain ⟨_, reads, same⟩ := ih (Nat.le_of_succ_le_succ roomy)
    rw [same.eq_ok] at reads
    -- Whether the grouping fits now or not, it ends behind the same parenthesis.
    by_cases fits : ((Expr.grouping tree).height : Int) ≤ higher
    · exact ⟨_, .grouping_read opening reads closes fits, .inr ⟨rfl, List.suffix_refl _⟩⟩
    · exact ⟨_, .grouping_tall opening reads closes (Int.not_le.1 fits),
        .inr ⟨rfl, List.suffix_refl _⟩⟩
  | grouping_read opening _ closes fits ih =>
    obtain ⟨n, rfl⟩ : ∃ n, more = n + 1 := ⟨more - 1, by omega⟩
    obtain ⟨_, reads, same⟩ := ih (Nat.le_of_succ_le_succ roomy)
    rw [same.eq_ok] at reads
    exact ⟨_, .grouping_read opening reads closes (Int.le_trans fits le), .inl ⟨id, rfl⟩⟩

end Reads

/-- Any other fault is noticed where reading stopped. -/
theorem Reads.site_eq_rest (h : Reads limit room task tokens (.error failure))
    (clean : ¬ TooDeep (.error failure)) : failure.site = failure.rest := by
  generalize result : Except.error failure = outcome at h
  induction h with
  | expression _ ih | operand_failed _ _ ih | operand_read _ _ _ _ ih | chain_failed _ _ ih
  | chain_read _ _ _ _ _ ih | unary_failed _ _ ih | primary _ _ ih
  | grouping_failed _ _ ih => exact ih result
  | operand_missing | grouping_unclosed => cases result; rfl
  | chain_tall | unary_tall | grouping_tall | unary_full | grouping_full =>
    cases result
    exact absurd rfl clean
  | _ => cases result

/-! ### The number of tokens -/

/-- A tree that has been read is lower than the number of its tokens. A chain adds to the height of
its left operand no more than the number of tokens that it takes. -/
def Task.Low : Task → List Token → Expr → List Token → Prop
  | .rule _, tokens, tree, rest => tree.height + rest.length < tokens.length
  | .chain _ left, tokens, tree, rest =>
    tree.height + rest.length ≤ left.height + tokens.length

/-- What is read is low: every token adds one to the height at most, and a literal none. -/
theorem Reads.low (h : Reads limit room task tokens (.ok (tree, rest))) :
    task.Low tokens tree rest := by
  -- Every node takes at least one token of its own, so the height is counted off the tokens used.
  generalize result : Except.ok (tree, rest) = outcome at h
  induction h generalizing tree rest with
  | expression _ ih | primary _ _ ih => exact ih result
  | operand_read _ _ _ first second => exact Nat.lt_of_le_of_lt (second result) (first rfl)
  | chain_done => cases result; exact Nat.le_refl _
  | chain_read _ _ _ _ first second =>
    have operand := first rfl
    have whole := second result
    simp only [Task.Low, Expr.height, List.length_cons] at operand whole ⊢
    omega
  | unary_read _ _ _ ih =>
    cases result
    have operand := ih rfl
    simp only [Task.Low, Expr.height, List.length_cons] at operand ⊢
    omega
  | literal => cases result; simp [Task.Low, Expr.height]
  | grouping_read _ _ _ _ ih =>
    cases result
    have inner := ih rfl
    simp only [Task.Low, Expr.height, List.length_cons] at inner ⊢
    omega
  | _ => cases result

/-- Whether all trees that can be read of the tokens stay below the limit. -/
def Task.Spares (limit : Int) : Task → List Token → Prop
  | .rule _, tokens => tokens.length ≤ limit
  | .chain _ left, tokens => left.height + tokens.length ≤ limit

/-- No fault is due to the limit when there are no more tokens than it allows. -/
theorem Reads.not_tooDeep (h : Reads limit room task tokens outcome) (roomy : tokens.length ≤ room)
    (spare : task.Spares limit tokens) : ¬ TooDeep outcome := by
  induction h with
  | expression _ ih | operand_failed _ _ ih | primary _ _ ih => exact ih roomy spare
  | operand_read _ first _ _ second =>
    have less := first.low
    have within := first.length_le
    simp only [Task.Spares, Task.Low, remaining] at spare less within ⊢
    exact second (by omega) (by simp only [Task.Spares]; omega)
  | chain_failed _ _ ih | unary_failed _ _ ih | grouping_failed _ _ ih =>
    simp only [Task.Spares, List.length_cons] at spare roomy ⊢
    exact ih (by omega) (by simp only [Task.Spares]; omega)
  -- A tree is no higher than there are tokens for it, and there are no more tokens than the limit.
  | chain_tall _ right tall | unary_tall _ right tall | grouping_tall _ right _ tall =>
    have less := right.low
    simp only [Task.Spares, Task.Low, Expr.height, List.length_cons] at spare less tall
    omega
  | chain_read _ right fits _ _ second =>
    have less := right.low
    simp only [Task.Spares, Task.Low, List.length_cons] at spare less roomy
    exact second (by omega) (by simp only [Task.Spares, Expr.height]; omega)
  | unary_full | grouping_full => cases roomy
  | chain_done | unary_read | literal | grouping_read => exact id
  | operand_missing | grouping_unclosed =>
    intro deep
    cases deep

/-! ### Parsing -/

/-- Reading under a higher limit extends reading under a lower one. -/
theorem Rule.extends_read (r : Rule) {limit higher : Nat} (le : limit ≤ higher)
    (tokens : List Token) :
    Extends (r.read limit limit tokens) (r.read higher higher tokens) := by
  have reads := reads_read limit limit (.rule r) tokens
  obtain ⟨_, reads', extends_⟩ := reads.raise (Int.ofNat_le.2 le) le
  rw [← reads'.read_eq] at extends_
  exact extends_

namespace Parser

/-- The index of the token at which the first error of parsing is noticed. -/
def firstErrorAt? (p : Parser) : Option Nat :=
  (fault? p.limit p.input.tokens).map fun failure => p.input.position failure.site

/-- Whether parsing answers no tree and the first error is the given one, noticed at the token with
the given index. -/
def FailsAt (p : Parser) (e : GrammarError) (index : Nat) : Prop :=
  p.parse.1 = none ∧ p.parse.2.errors.head? = some e ∧ p.firstErrorAt? = some index

variable {p : Parser} {e : GrammarError} {index : Nat}

/-- The first error of parsing is the fault of the first attempt, if that has one. -/
theorem head?_errors_parse (p : Parser) :
    p.parse.2.errors.head? = (fault? p.limit p.input.tokens).map p.input.report := by
  cases fault : fault? p.limit p.input.tokens with
  | none => rw [errors_parse_of_tree (fault?_eq_none_iff_tree?.1 fault)]; rfl
  | some failure =>
    cases recovers : p.recovers with
    | false => rw [errors_parse_of_not_recovers recovers, fault]; rfl
    | true =>
      rw [errors_parse recovers (fault?_eq_some_iff.1 fault), attempts_eq,
        List.filterMap_cons_some fault]
      rfl

/-- Parsing fails with the failure of reading an expression. -/
theorem failsAt_iff : p.FailsAt e index ↔ ∃ failure,
    Rule.expression.read p.limit p.limit.toNat p.input.tokens = .error failure ∧
      p.input.report failure = e ∧ p.input.position failure.site = index := by
  rw [FailsAt, head?_errors_parse, firstErrorAt?, parse_fst]
  constructor
  · rintro ⟨-, head, found⟩
    obtain ⟨failure, fault, rfl⟩ := Option.map_eq_some_iff.1 head
    rw [fault] at found
    exact ⟨failure, fault?_eq_some_iff.1 fault, rfl, Option.some.inj found⟩
  · rintro ⟨failure, read, rfl, rfl⟩
    rw [fault?_eq_some_iff.2 read, tree?, read]
    exact ⟨rfl, rfl, rfl⟩

/-- An error is the fault of an attempt on some end piece of the input. -/
theorem exists_fault?_of_mem_errors (h : e ∈ p.parse.2.errors) :
    ∃ made failure, made <:+ p.input.tokens ∧ fault? p.limit made = some failure ∧
      p.input.report failure = e := by
  cases first : fault? p.limit p.input.tokens with
  | none =>
    rw [errors_parse_of_tree (fault?_eq_none_iff_tree?.1 first)] at h
    cases h
  | some failure =>
    cases recovers : p.recovers with
    | false =>
      rw [errors_parse_of_not_recovers recovers, first] at h
      exact ⟨_, failure, List.suffix_refl _, first, (List.mem_singleton.1 h).symm⟩
    | true =>
      rw [errors_parse recovers (fault?_eq_some_iff.1 first)] at h
      obtain ⟨failure, found, rfl⟩ := List.mem_map.1 h
      obtain ⟨made, mem, fault⟩ := List.mem_filterMap.1 found
      exact ⟨made, failure, attempts_isSuffix mem, fault, rfl⟩

/-- With no more tokens than the limit is high, no error is one of nesting. -/
theorem code_ne_nestingTooDeep {limit : Nat} (limited : p.limit = limit)
    (few : p.input.tokens.length ≤ limit) (h : e ∈ p.parse.2.errors) :
    e.cause.code ≠ .nestingTooDeep := by
  obtain ⟨made, failure, suffix, fault, rfl⟩ := exists_fault?_of_mem_errors h
  have reads : Reads p.limit p.limit.toNat (.rule .expression) made (.error failure) :=
    reads_iff.2 (fault?_eq_some_iff.1 fault)
  have short := suffix.length_le
  rw [limited] at reads
  exact reads.not_tooDeep (by omega) (by simp only [Task.Spares]; omega)

section

variable {tokens : List Token} {recovers : Bool} {limit higher : Nat} {tree : Expr}

/-- A tree of a higher limit is one of any limit that it fits in, with the same cursor and no
errors. -/
theorem parse_of_height_le
    (h : (ofTokens tokens recovers higher).parse.1 = some tree) (fits : tree.height ≤ limit) :
    (ofTokens tokens recovers limit).parse.1 = some tree ∧
      (ofTokens tokens recovers limit).parse.2.current =
        (ofTokens tokens recovers higher).parse.2.current ∧
      (ofTokens tokens recovers limit).parse.2.errors = [] := by
  obtain ⟨rest, read, -⟩ := parse_eq_tree_iff_read.1 ⟨h, rfl⟩
  obtain ⟨used, split, derives, stops, -⟩ := Rule.read_expression_iff.1 read
  have low : Rule.expression.read limit limit (Input.ofTokens tokens).tokens = .ok (tree, rest) :=
    Rule.read_expression_iff.2 ⟨used, split, derives, stops, fits⟩
  rw [parse_ok (p := ofTokens tokens recovers limit) low, parse_ok read]
  exact ⟨rfl, rfl, rfl⟩

/-- Under a limit that the tree does not fit in, parsing fails with an error of nesting. -/
theorem failsAt_of_height_lt (le : limit ≤ higher)
    (h : (ofTokens tokens recovers higher).parse.1 = some tree) (tall : limit < tree.height) :
    ∃ e index, (ofTokens tokens recovers limit).FailsAt e index ∧
      e.cause.code = .nestingTooDeep := by
  obtain ⟨rest, read, -⟩ := parse_eq_tree_iff_read.1 ⟨h, rfl⟩
  obtain ⟨-, same⟩ | ⟨deep, -⟩ := Rule.expression.extends_read le (Input.ofTokens tokens).tokens
  · -- The tree would have been read under the lower limit, and so it would be lower.
    obtain ⟨_, _, _, _, fits⟩ := Rule.read_expression_iff.1 (same.symm.trans read)
    omega
  · cases low : Rule.expression.read limit limit (Input.ofTokens tokens).tokens with
    | ok result => rw [low] at deep; exact deep.elim
    | error failure =>
      rw [low] at deep
      exact ⟨_, _, failsAt_iff.2 ⟨failure, low, rfl, rfl⟩, deep⟩

/-- An error under a higher limit is the same under a lower one, or an error of nesting no further
on takes its place. -/
theorem failsAt_of_failsAt (le : limit ≤ higher)
    (h : (ofTokens tokens recovers higher).FailsAt e index) :
    ((ofTokens tokens recovers limit).FailsAt e index ∧ e.cause.code ≠ .nestingTooDeep) ∨
      ∃ e' index', (ofTokens tokens recovers limit).FailsAt e' index' ∧
        e'.cause.code = .nestingTooDeep ∧ (e.cause.code ≠ .nestingTooDeep → index' ≤ index) := by
  obtain ⟨failure, read, rfl, rfl⟩ := failsAt_iff.1 h
  change Rule.expression.read higher higher (Input.ofTokens tokens).tokens = _ at read
  have extends_ := Rule.expression.extends_read le (Input.ofTokens tokens).tokens
  rw [read] at extends_
  obtain ⟨clean, same⟩ | ⟨deep, further⟩ := extends_
  · rw [← same] at clean
    exact .inl ⟨failsAt_iff.2 ⟨failure, same.symm, rfl, rfl⟩, clean⟩
  · cases low : Rule.expression.read limit limit (Input.ofTokens tokens).tokens with
    | ok result => rw [low] at deep; exact deep.elim
    | error lower =>
      rw [low] at deep further
      refine .inr ⟨_, _, failsAt_iff.2 ⟨lower, low, rfl, rfl⟩, deep, fun clean => ?_⟩
      -- The fault under the higher limit is noticed where reading stopped, which is further on.
      have reads : Reads higher higher (.rule .expression) _ _ := reads_iff.2 read
      have lowReads : Reads limit limit (.rule .expression) _ _ := reads_iff.2 low
      have stop := reads.site_eq_rest clean
      have before := lowReads.site.2.isSuffix.length_le
      have after := further.length_le
      simp only [remaining] at after
      rw [stop]
      exact Nat.sub_le_sub_left (Nat.le_trans after before) _

end

/-- Parsing under two limits. A tree of the higher limit is found under the lower one as well unless
it is too tall for that, and then this is the error. Any other first error is the same under the
lower limit, unless a tree is too tall at the same token or before. A tree that is too tall for the
higher limit is too tall for the lower one. No tree is too tall for a limit that the number of
tokens does not exceed. -/
theorem parse_limits (tokens : List Token) (recovers : Bool) (limit higher : Nat)
    (le : limit ≤ higher) :
    let low := Parser.ofTokens tokens recovers limit
    let high := Parser.ofTokens tokens recovers higher
    (∀ tree, high.parse.1 = some tree → tree.height ≤ limit →
      low.parse.1 = some tree ∧ low.parse.2.current = high.parse.2.current ∧
        low.parse.2.errors = []) ∧
    (∀ tree, high.parse.1 = some tree → limit < tree.height →
      ∃ e index, low.FailsAt e index ∧ e.cause.code = .nestingTooDeep) ∧
    (∀ e index, high.FailsAt e index → e.cause.code ≠ .nestingTooDeep →
      low.FailsAt e index ∨
        ∃ e' index', low.FailsAt e' index' ∧ e'.cause.code = .nestingTooDeep ∧ index' ≤ index) ∧
    (∀ e index, high.FailsAt e index → e.cause.code = .nestingTooDeep →
      ∃ e' index', low.FailsAt e' index' ∧ e'.cause.code = .nestingTooDeep) ∧
    (tokens.length ≤ limit → ∀ e ∈ low.parse.2.errors, e.cause.code ≠ .nestingTooDeep) := by
  intro low high
  refine ⟨fun tree => parse_of_height_le, fun tree => failsAt_of_height_lt le, ?_, ?_, ?_⟩
  · -- An error of another kind is noticed under the lower limit too, or something is too tall
    -- before.
    intro e index fails clean
    rcases failsAt_of_failsAt le fails with ⟨same, -⟩ | ⟨e', index', lower, deep, before⟩
    · exact .inl same
    · exact .inr ⟨e', index', lower, deep, before clean⟩
  · intro e index fails deep
    rcases failsAt_of_failsAt le fails with ⟨-, clean⟩ | ⟨e', index', lower, deep', -⟩
    · exact absurd deep clean
    · exact ⟨e', index', lower, deep'⟩
  · intro few e
    refine code_ne_nestingTooDeep rfl (Nat.le_trans ?_ few)
    exact (List.takeWhile_prefix _).length_le

/-- The limits 0 and 1 for `-1`: its tree has the height 1. -/
theorem parse_limits_negation :
    let tokens : List Token :=
      [⟨.minus, "-", .nil, 1⟩, ⟨.number, "1", .integer 1, 1⟩, .endOfInput 1]
    let tree : Expr := .unary ⟨.minus, "-", .nil, 1⟩ (.literal (.integer 1))
    0 ≤ 1 ∧ (Parser.ofTokens tokens true 1).parse.1 = some tree ∧ 0 < tree.height ∧
      ∃ e index, (Parser.ofTokens tokens true 0).FailsAt e index ∧
        e.cause.code = .nestingTooDeep := by
  intro tokens tree
  have parsed : (Parser.ofTokens tokens true 1).parse.1 = some tree := by decide +kernel
  exact ⟨by decide, parsed, by decide,
    (parse_limits tokens true 0 1 (by decide)).2.1 tree parsed (by decide)⟩

end Parser

end ExprLang
