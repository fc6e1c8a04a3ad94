import ExprLang.Analysis
import ExprLang.Proofs.DeadEnds
import ExprLang.Proofs.Rendered

/-!
# Parsing printed expressions

What is printed for an expression is not a source for it: the operator stands in front of both
operands, and a grouping begins with a word. Only a chain of unary operators over a literal is an
expression as it is printed, with a grouping around each operator, and these groupings count for
its height. Anything else is refused with one error, so nothing is read as another expression.

## Main definitions

* `Expr.IsChain`: unary operators over a finite literal.
* `Expr.grouped`, `Expr.onLine`: groupings around unary operators, and operators on another line.

## Main statements

* `Expr.Spelled.derives`: what a printed chain derives.
* `Expr.Spelled.exists_failure`: nothing else is read.
* `Parser.errors_parse_of_plain`: one error where there is no place to go on from.
* `analyse_render`: the analysis of a printed expression.
-/

namespace ExprLang

variable {limit : Int} {room n : Nat} {tokens rest behind : List Token} {tree : Expr}
  {failure : Failure}

namespace Expr

/-- Whether an expression is so many unary operators over nothing, a truth value or a finite
number. -/
inductive IsChain : Nat → Expr → Prop where
  | nil : IsChain 0 (.literal .nil)
  | bool (b : Bool) : IsChain 0 (.literal (.bool b))
  | number (negative : Bool) (m : Magnitude) : IsChain 0 (.literal (.number (.finite negative m)))
  | unary {n : Nat} {operand : Expr} (operator : Token) :
      IsChain n operand → IsChain (n + 1) (.unary operator operand)

/-- The expression with a grouping around every unary operator and its operand. -/
def grouped : Expr → Expr
  | .literal value => .literal value
  | .grouping inner => .grouping inner.grouped
  | .unary operator operand => .grouping (.unary operator operand.grouped)
  | .binary left operator right => .binary left.grouped operator right.grouped

/-- The expression with all operators on a line. -/
def onLine (line : Int) : Expr → Expr
  | .literal value => .literal value
  | .grouping inner => .grouping (inner.onLine line)
  | .unary operator operand => .unary (operator.onLine line) (operand.onLine line)
  | .binary left operator right =>
    .binary (left.onLine line) (operator.onLine line) (right.onLine line)

end Expr

/-! ### Parentheses -/

theorem Derives.of_unary (h : Derives .unary tokens tree) : Derives .expression tokens tree :=
  .expression (.operand .equality (.operand .comparison (.operand .term (.operand .factor h))))

/-- Parentheses around an operator and its operand are a grouping. -/
theorem Derives.enclose (h : Derives .unary tokens tree) :
    Derives .primary (Token.enclose tokens) (.grouping tree) :=
  .grouping rfl h.of_unary rfl

namespace Reads

/-- Without room no parentheses are read. -/
theorem enclose_full (tokens behind : List Token) :
    ∃ failure, Reads limit 0 (.rule .primary) (Token.enclose tokens ++ behind) (.error failure) :=
  ⟨_, .grouping_full rfl⟩

/-- What is wrong inside parentheses is wrong with them. -/
theorem enclose_failed
    (h : Reads limit room (.rule .expression) (tokens ++ .closing :: behind) (.error failure)) :
    Reads limit (room + 1) (.rule .primary) (Token.enclose tokens ++ behind) (.error failure) := by
  have whole : Token.enclose tokens ++ behind = .opening :: (tokens ++ .closing :: behind) := by
    simp [Token.enclose]
  rw [whole]
  exact .grouping_failed rfl h

/-- What is wrong with the first operand is wrong with the expression. -/
theorem expression_failed (h : Reads limit room (.rule .unary) tokens (.error failure)) :
    Reads limit room (.rule .expression) tokens (.error failure) :=
  .expression (.operand_failed .equality (.operand_failed .comparison
    (.operand_failed .term (.operand_failed .factor h))))

/-- No expression begins with a token that is neither a unary operator nor the beginning of an
operand. -/
theorem expression_missing {token : Token}
    (apart : token.kind ∉ Grammar.unaryOperators ++ Grammar.primaryKinds) :
    ∃ failure, Reads limit room (.rule .expression) (token :: tokens) (.error failure) := by
  rw [List.mem_append, not_or] at apart
  exact ⟨_, expression_failed (.primary apart.1 (.operand_missing apart.2))⟩

/-- Parentheses and an operator in them take up the room of two. -/
theorem enclose_shallow {operator : Token} (unary : operator.kind ∈ Grammar.unaryOperators)
    (shallow : room < 2) (tokens behind : List Token) :
    ∃ failure, Reads limit room (.rule .primary)
      (Token.enclose (operator :: tokens) ++ behind) (.error failure) := by
  match room with
  | 0 => exact enclose_full _ _
  | 1 => exact ⟨_, enclose_failed (expression_failed (.unary_full unary))⟩

/-- Parentheses with a unary operator in them take up the room of two, and what is wrong with the
operand is wrong with them. -/
theorem enclose_unary_failed {operator : Token} (unary : operator.kind ∈ Grammar.unaryOperators)
    (operand : ¬ BeginsWith Grammar.unaryOperators (tokens ++ .closing :: behind))
    (h : Reads limit room (.rule .primary) (tokens ++ .closing :: behind) (.error failure)) :
    Reads limit (room + 2) (.rule .primary) (Token.enclose (operator :: tokens) ++ behind)
      (.error failure) :=
  enclose_failed (expression_failed (.unary_failed unary (.primary operand h)))

end Reads

/-! ### Printed expressions -/

namespace Expr

/-- Each operator of a chain counts twice once there is a grouping around it. -/
theorem IsChain.height_grouped (h : tree.IsChain n) : (tree.grouped.onLine 1).height = 2 * n := by
  induction h with
  | nil | bool | number => rfl
  | unary operator _ ih =>
    simp only [grouped, onLine, height, ih]
    omega

/-- What a printed chain derives. -/
theorem IsChain.derives (chain : tree.IsChain n) (spelled : tree.Spelled) :
    Derives .primary tree.printed (tree.grouped.onLine 1) := by
  induction chain with
  | nil => exact .nil rfl
  | bool b =>
    cases b
    · exact .false rfl
    · exact .true rfl
  | number negative m =>
    have number : (Value.number (.finite negative m)).token.kind = .number := rfl
    exact .number number
  | unary operator _ ih =>
    cases spelled with
    | unary operator operand =>
      exact .enclose (.unary (Grammar.mem_unaryOperators.1 operator.1) (.primary (ih operand)))

/-- A value is printed as a literal or a name. -/
theorem kind_token_mem {value : Value} (h : value.Spelled) :
    value.token.kind ∈ .identifier :: Grammar.primaryKinds := by
  cases h with
  | bool b => cases b <;> decide
  | finite m =>
    change Kind.number ∈ _
    decide
  | _ => decide

theorem unaryOperators_apart :
    ∀ kind ∈ .identifier :: Grammar.primaryKinds, kind ∉ Grammar.unaryOperators := by
  decide

namespace Spelled

/-- An expression is printed from a parenthesis, a literal or a name on. -/
theorem not_beginsWith (h : tree.Spelled) {kinds : List Kind}
    (apart : ∀ kind ∈ .identifier :: Grammar.primaryKinds, kind ∉ kinds) (behind : List Token) :
    ¬ BeginsWith kinds (tree.printed ++ behind) := by
  have opening : Token.opening.kind ∉ kinds := apart _ (by decide)
  cases h with
  | literal value => exact apart _ (kind_token_mem value)
  | _ => exact opening

/-- Names are the only tokens of a printed expression that are of no expression. -/
theorem kind_mem_printed (h : tree.Spelled) :
    ∀ token ∈ tree.printed, token.kind ∈ .identifier :: exprKinds := by
  have enclose {tokens : List Token}
      (inside : ∀ token ∈ tokens, token.kind ∈ .identifier :: exprKinds) :
      ∀ token ∈ Token.enclose tokens, token.kind ∈ .identifier :: exprKinds := by
    rw [Token.enclose, List.forall_mem_cons, List.forall_mem_append, List.forall_mem_singleton]
    exact ⟨by decide, inside, by decide⟩
  induction h with
  | literal value =>
    rw [printed, List.forall_mem_singleton]
    have primary : .identifier :: Grammar.primaryKinds ⊆ .identifier :: exprKinds := by decide
    exact primary (kind_token_mem value)
  | grouping _ ih => exact enclose (List.forall_mem_cons.2 ⟨by decide, ih⟩)
  | unary operator _ ih =>
    have mem := Grammar.unaryOperators_subset operator.1
    exact enclose (List.forall_mem_cons.2 ⟨List.mem_cons_of_mem _ mem, ih⟩)
  | binary operator _ _ first second =>
    have binary : Kind.binaryOperators ⊆ exprKinds := by decide
    have mem := List.mem_cons_of_mem Kind.identifier (binary operator.1)
    exact enclose (List.forall_mem_cons.2 ⟨mem, List.forall_mem_append.2 ⟨first, second⟩⟩)

/-- No statement ends or begins where an expression is printed. -/
theorem plain (h : tree.Spelled) : Plain tree.printed := by
  have apart : ∀ kind ∈ .identifier :: exprKinds, kind ≠ .semicolon ∧
      kind ∉ Kind.statementKeywords ∧ kind ≠ .endOfInput := by decide
  exact fun token mem => apart _ (h.kind_mem_printed token mem)

/-- A minus in front of two operands is taken for a unary operator on the first of them, and then
the closing parenthesis is missed at the second. -/
theorem exists_failure_second {left right : Expr} {operator : Token}
    (minus : operator.kind = .minus) (first : left.Spelled) (second : right.Spelled)
    (chain : left.IsChain n) (low : 2 * n ≤ room) (roomy : room + 2 ≤ limit)
    (behind : List Token) :
    ∃ failure, Reads limit (room + 2) (.rule .primary)
      ((Expr.binary left operator right).printed ++ behind) (.error failure) := by
  have derives : Derives .expression (operator.onLine 1 :: left.printed)
      (.unary (operator.onLine 1) (left.grouped.onLine 1)) :=
    Derives.of_unary (.unary (.inr minus) (.primary (chain.derives first)))
  have height : (Expr.unary (operator.onLine 1) (left.grouped.onLine 1)).height ≤ room + 1 := by
    rw [Expr.height, chain.height_grouped]
    omega
  have reads : Rule.expression.ReadsAs limit (room + 1) _ _ := derives.reads height (by omega)
  have whole : (Expr.binary left operator right).printed ++ behind = .opening ::
      (operator.onLine 1 :: left.printed ++ (right.printed ++ .closing :: behind)) := by
    simp [printed, Token.enclose]
  rw [whole]
  exact ⟨_, .grouping_unclosed rfl (reads.whole _ (second.not_beginsWith (by decide) _))
    (second.not_beginsWith (by decide) _)⟩

/-- Nothing is read where a minus is printed in front of two operands: what can be read of the
first as an operand of the minus is followed by the second. -/
theorem exists_failure_minus {left right : Expr} {operator : Token}
    (minus : operator.kind = .minus) (first : left.Spelled) (second : right.Spelled)
    (roomy : room + 2 ≤ limit)
    (deeper : (∀ n, left.IsChain n → room < 2 * n) → ∀ behind, ∃ failure,
      Reads limit room (.rule .primary) (left.printed ++ behind) (.error failure))
    (behind : List Token) :
    ∃ failure, Reads limit (room + 2) (.rule .primary)
      ((Expr.binary left operator right).printed ++ behind) (.error failure) := by
  by_cases low : ∃ n, left.IsChain n ∧ 2 * n ≤ room
  · obtain ⟨n, chain, low⟩ := low
    exact exists_failure_second minus first second chain low roomy behind
  · have taller (n : Nat) (chain : left.IsChain n) : room < 2 * n :=
      Nat.lt_of_not_le fun le => low ⟨n, chain, le⟩
    have unary : (operator.onLine 1).kind ∈ Grammar.unaryOperators :=
      Grammar.mem_unaryOperators.2 (.inr minus)
    have operands : left.printed ++ right.printed ++ .closing :: behind =
        left.printed ++ (right.printed ++ .closing :: behind) := List.append_assoc ..
    obtain ⟨failure, inner⟩ := deeper taller (right.printed ++ .closing :: behind)
    have operand := first.not_beginsWith unaryOperators_apart (right.printed ++ .closing :: behind)
    rw [← operands] at inner operand
    exact ⟨failure, Reads.enclose_unary_failed unary operand inner⟩

/-- No expression begins with a binary operator other than the minus. -/
theorem not_mem_of_ne_minus {kind : Kind} (operator : kind ∈ Kind.binaryOperators)
    (minus : kind ≠ .minus) : kind ∉ Grammar.unaryOperators ++ Grammar.primaryKinds := by
  revert kind
  decide

/-- Nothing but a low chain is read where it is printed. -/
theorem exists_failure (h : tree.Spelled) (roomy : (room : Int) ≤ limit)
    (tall : ∀ n, tree.IsChain n → room < 2 * n) (behind : List Token) :
    ∃ failure, Reads limit room (.rule .primary) (tree.printed ++ behind) (.error failure) := by
  induction h generalizing room behind with
  | @literal value spelled =>
    cases spelled with
    | nil => exact absurd (tall 0 .nil) (by omega)
    | bool b => exact absurd (tall 0 (.bool b)) (by omega)
    | finite m => exact absurd (tall 0 (.number false m)) (by omega)
    | infinite =>
      have name : (Value.number (.infinite false)).token.kind ∉ Grammar.primaryKinds := by decide
      exact ⟨_, .operand_missing name⟩
  | grouping _ _ =>
    cases room with
    | zero => exact Reads.enclose_full _ _
    | succ room =>
      -- The word that marks a grouping is a name, with which no operand begins.
      have name : Token.group.kind ∉ Grammar.unaryOperators ++ Grammar.primaryKinds := by decide
      obtain ⟨failure, missing⟩ := Reads.expression_missing name
      exact ⟨failure, Reads.enclose_failed missing⟩
  | @unary operator operand kind spelled ih =>
    have unary : (operator.onLine 1).kind ∈ Grammar.unaryOperators := kind.1
    rcases Nat.lt_or_ge room 2 with shallow | deep
    · exact Reads.enclose_shallow unary shallow _ _
    · -- The parentheses and the operator take the room of two, and the operand fails with what is
      -- left of it.
      obtain ⟨room, rfl⟩ := Nat.exists_eq_add_of_le' deep
      have taller (n : Nat) (chain : operand.IsChain n) : room < 2 * n := by
        have := tall (n + 1) (.unary operator chain)
        omega
      obtain ⟨failure, inner⟩ := ih (by omega) taller (.closing :: behind)
      have primary := spelled.not_beginsWith unaryOperators_apart (.closing :: behind)
      exact ⟨failure, Reads.enclose_unary_failed unary primary inner⟩
  | @binary left operator right kind spelled spelled' first _ =>
    -- Only a minus can be taken for a unary operator, and then its first operand for the only one.
    by_cases minus : operator.kind = .minus
    · have unary : (operator.onLine 1).kind ∈ Grammar.unaryOperators :=
        Grammar.mem_unaryOperators.2 (.inr minus)
      rcases Nat.lt_or_ge room 2 with shallow | deep
      · exact Reads.enclose_shallow unary shallow _ _
      · obtain ⟨room, rfl⟩ := Nat.exists_eq_add_of_le' deep
        exact exists_failure_minus minus spelled spelled' roomy (first (by omega)) behind
    · cases room with
      | zero => exact Reads.enclose_full _ _
      | succ room =>
        have other : (operator.onLine 1).kind ∉ Grammar.unaryOperators ++ Grammar.primaryKinds :=
          not_mem_of_ne_minus kind.1 minus
        obtain ⟨failure, missing⟩ := Reads.expression_missing other
        exact ⟨failure, Reads.enclose_failed missing⟩

end Spelled

end Expr

/-! ### Analyses -/

/-- After a fault among plain tokens there is no place to go on from. -/
theorem Parser.errors_parse_of_plain {p : Parser} (recovers : p.recovers = true)
    (plain : Plain p.input.tokens)
    (read : Rule.expression.read p.limit p.limit.toNat p.input.tokens = .error failure) :
    p.parse.2.errors = [p.input.report failure] := by
  rw [errors_parse recovers read, attempts_eq, nextAttempt_of_plain plain,
    List.filterMap_cons_some (fault?_eq_some_iff.2 read)]
  rfl

/-- A parser for a printed expression. -/
def Parser.ofPrinted (tree : Expr) : Parser :=
  .ofTokens (tree.printed ++ [.endOfInput 1]) true defaultLimit

namespace Expr.Spelled

/-- The analysis of a printed expression has no lexical errors, so it is what the parser makes of
the tokens. -/
theorem analyse_eq (h : tree.Spelled) :
    analyse tree.render = ⟨(Parser.ofPrinted tree).parse.1,
      (Parser.ofPrinted tree).parse.2.errors.map GrammarError.diagnostic⟩ := by
  rw [analyse, h.scan_render]
  rfl

/-- A chain is read as it is printed, each operator in its parentheses. -/
theorem analyse_chain (h : tree.Spelled) (chain : tree.IsChain n) (low : n ≤ 32) :
    analyse tree.render = ⟨some (tree.grouped.onLine 1), []⟩ := by
  have height : (tree.grouped.onLine 1).height ≤ 64 := by
    rw [chain.height_grouped]
    omega
  have derives := Derives.of_unary (.primary (chain.derives h))
  have ends : (Token.endOfInput 1).kind = .endOfInput := rfl
  obtain ⟨parsed, clean⟩ : (Parser.ofPrinted tree).parse.1 = some (tree.grouped.onLine 1) ∧
      (Parser.ofPrinted tree).parse.2.errors = [] := by
    obtain ⟨parsed, clean, -⟩ := Parser.parse_of_derives derives true height ends
    exact ⟨parsed, clean⟩
  rw [h.analyse_eq, parsed, clean]
  rfl

/-- Anything else is refused with one error. -/
theorem analyse_failure (h : tree.Spelled) (other : ∀ n ≤ 32, ¬ tree.IsChain n) :
    ∃ e : GrammarError, analyse tree.render = ⟨none, [e.diagnostic]⟩ := by
  have tall (n : Nat) (chain : tree.IsChain n) : 64 < 2 * n := by
    have : ¬ n ≤ 32 := fun low => other n low chain
    omega
  have input : (Parser.ofPrinted tree).input.tokens = tree.printed :=
    (Input.ofTokens_append_end (fun token mem => h.plain.isEnd mem) rfl).1
  have roomy : ((64 : Nat) : Int) ≤ defaultLimit := by decide
  obtain ⟨failure, primary⟩ := h.exists_failure roomy tall []
  have unary := Reads.primary (h.not_beginsWith unaryOperators_apart []) primary
  rw [List.append_nil, ← input] at unary
  have read : Rule.expression.read (Parser.ofPrinted tree).limit (Parser.ofPrinted tree).limit.toNat
      (Parser.ofPrinted tree).input.tokens = .error failure :=
    (Reads.expression_failed unary).read_eq
  have plain : Plain (Parser.ofPrinted tree).input.tokens := input ▸ h.plain
  refine ⟨(Parser.ofPrinted tree).input.report failure, ?_⟩
  rw [h.analyse_eq, Parser.errors_parse_of_plain rfl plain read, Parser.parse_error read]
  rfl

end Expr.Spelled

/-- The expression of a source is written as sources are. -/
theorem spelled_of_analyse {source : String} (parsed : (analyse source).expr? = some tree)
    (noText : ∀ s, .text s ∉ tree.literals) : tree.Spelled := by
  obtain ⟨rest, read, -⟩ := Parser.parse_eq_tree_iff_read.1 ⟨parsed, rfl⟩
  obtain ⟨used, split, derives, -⟩ := Rule.read_expression_iff.1 read
  refine derives.spelled (fun token mem => ?_) noText
  have inside : token ∈ (Input.ofTokens (scan source).tokens).tokens := by
    change token ∈ (Parser.ofTokens (scan source).tokens true defaultLimit).input.tokens
    rw [split]
    exact List.mem_append_left rest mem
  obtain ⟨text, spelled, lexeme⟩ :=
    exists_lexeme_of_mem_scan ((List.takeWhile_prefix _).subset inside)
      (Input.not_isEnd _ token inside)
  rw [spelled, String.toList_ofList]
  exact lexeme

/-- The analysis of what is printed for the expression of a source without texts. A chain of at most
32 unary operators over a finite literal comes back with a grouping around each operator, and
without any report. Any other expression does not come back: there is exactly one report, and it is
about the order of tokens. -/
theorem analyse_render (source : String) (tree : Expr)
    (parsed : (analyse source).expr? = some tree) (noText : ∀ s, .text s ∉ tree.literals) :
    (∀ n ≤ 32, tree.IsChain n → analyse tree.render = ⟨some (tree.grouped.onLine 1), []⟩) ∧
    ((∀ n ≤ 32, ¬ tree.IsChain n) →
      ∃ e : GrammarError, analyse tree.render = ⟨none, [e.diagnostic]⟩) := by
  have spelled := spelled_of_analyse parsed noText
  exact ⟨fun n low chain => spelled.analyse_chain chain low, spelled.analyse_failure⟩

/-- Both operators of `-!true` come back inside groupings, while a difference is refused although
its minus could stand in front of the first operand alone. -/
theorem analyse_render_minus :
    let minus : Token := ⟨.minus, "-", .nil, 1⟩
    let bang : Token := ⟨.bang, "!", .nil, 1⟩
    let chain : Expr := .unary minus (.unary bang (.literal (.bool true)))
    let difference : Expr := .binary (.literal .nil) minus (.literal (.bool true))
    (analyse "-!true").expr? = some chain ∧ (∀ s, .text s ∉ chain.literals) ∧
    analyse chain.render =
      ⟨some (.grouping (.unary minus (.grouping (.unary bang (.literal (.bool true)))))), []⟩ ∧
    (analyse "nil - true").expr? = some difference ∧ (∀ s, .text s ∉ difference.literals) ∧
    ∃ e : GrammarError, analyse difference.render = ⟨none, [e.diagnostic]⟩ := by
  intro minus bang chain difference
  have parsed : (analyse "-!true").expr? = some chain := by decide +kernel
  have parsed' : (analyse "nil - true").expr? = some difference := by decide +kernel
  have noText : ∀ s, .text s ∉ chain.literals := by simp [chain, Expr.literals]
  have noText' : ∀ s, .text s ∉ difference.literals := by simp [difference, Expr.literals]
  have two : chain.IsChain 2 := .unary minus (.unary bang (.bool true))
  have none : ∀ n ≤ 32, ¬ difference.IsChain n := by
    intro n _ isChain
    change (Expr.binary _ _ _).IsChain n at isChain
    cases isChain
  exact ⟨parsed, noText, (analyse_render _ chain parsed noText).1 2 (by decide) two,
    parsed', noText', (analyse_render _ difference parsed' noText').2 none⟩

end ExprLang
