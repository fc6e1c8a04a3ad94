import ExprLang.Grammar.Rule

/-!
# How expressions are read

The readers of the grammar as a relation: from which tokens a rule comes to which outcome, with one
constructor for every way in which a single step of reading can end. What holds of every reading is
an induction over it.

## Main definitions

* `BeginsWith`: the first of the tokens is of one of some kinds.
* `Level.rule`, `Level.operand`: the rule that a level of operators makes up, and the one it is
  made of.
* `Task`: what is being read.
* `Reads`: the relation.

## Main statements

* `reads_iff`: the relation is the graph of the readers.
-/

namespace ExprLang

/-- Whether the first of the tokens is of one of the kinds. -/
def BeginsWith (kinds : List Kind) : List Token → Prop
  | [] => False
  | token :: _ => token.kind ∈ kinds

@[simp] theorem beginsWith_nil (kinds : List Kind) : ¬ BeginsWith kinds [] := id

@[simp] theorem beginsWith_cons {kinds : List Kind} {token : Token} {rest : List Token} :
    BeginsWith kinds (token :: rest) ↔ token.kind ∈ kinds := Iff.rfl

namespace Level

/-- The rule that the operators of the level make up. -/
def rule : Level → Rule
  | .equality => .equality
  | .comparison => .comparison
  | .term => .term
  | .factor => .factor

/-- The rule that the operands of the level follow. -/
def operand : Level → Rule
  | .equality => .comparison
  | .comparison => .term
  | .term => .factor
  | .factor => .unary

end Level

namespace Grammar

/-- The kinds of tokens that are literals by themselves. -/
def literalKinds : List Kind :=
  [.keyword .kwFalse, .keyword .kwTrue, .keyword .kwNil, .number, .string]

/-- The kinds of tokens that a primary begins with. -/
def primaryKinds : List Kind :=
  .leftParen :: literalKinds

/-- A token is read as a literal exactly when its kind is one of those of literals. -/
theorem literal?_eq_none_iff {token : Token} :
    literal? token = none ↔ token.kind ∉ literalKinds := by
  unfold literal?
  split <;> simp_all [literalKinds]

/-- An opening parenthesis is not read as a literal, so groupings and literals are told apart. -/
theorem literal?_leftParen {token : Token} (h : token.kind = .leftParen) :
    literal? token = none := by
  simp [literal?, h]

end Grammar

namespace Rule

variable {limit : Int} {room : Nat}

/-- A level of binary operators reads a chain of what the next tighter level reads. -/
theorem read_level (level : Level) :
    level.rule.read limit room = Grammar.binary limit level (level.operand.read limit room) := by
  cases level <;> rfl

/-- Unary operators are read down to as many as there is room for. -/
theorem read_unary :
    unary.read limit room = Grammar.unaryOver limit (Grammar.deeper limit room) := by
  cases room <;> rfl

/-- What stands inside a grouping is read with the room that is left for it. -/
theorem read_primary : primary.read limit room =
    Grammar.primary limit ((Grammar.deeper limit room).map (Grammar.expression limit)) := rfl

theorem deeper_succ :
    Grammar.deeper limit (room + 1) = some (unary.read limit room) := rfl

theorem expression_deeper_succ :
    (Grammar.deeper limit (room + 1)).map (Grammar.expression limit) =
      some (expression.read limit room) := rfl

end Rule

/-- What is being read: a rule from its beginning, or what a level still adds to a left operand. -/
inductive Task where
  | rule (r : Rule)
  | chain (level : Level) (left : Expr)

/-- Reads what the task describes. -/
def Task.read (limit : Int) (room : Nat) : Task → Reader
  | .rule r => r.read limit room
  | .chain level left => Grammar.foldOperators limit level (level.operand.read limit room) left

open Grammar in
/-- From which tokens a task comes to which outcome, given the room for nesting. -/
inductive Reads (limit : Int) :
    Nat → Task → List Token → Except Failure (Expr × List Token) → Prop where
  | expression {room tokens outcome} :
      Reads limit room (.rule .equality) tokens outcome →
      Reads limit room (.rule .expression) tokens outcome
  | operand_failed {room tokens failure} (level : Level) :
      Reads limit room (.rule level.operand) tokens (.error failure) →
      Reads limit room (.rule level.rule) tokens (.error failure)
  | operand_read {room tokens left rest outcome} (level : Level) :
      Reads limit room (.rule level.operand) tokens (.ok (left, rest)) →
      Reads limit room (.chain level left) rest outcome →
      Reads limit room (.rule level.rule) tokens outcome
  | chain_done {room level left tokens} :
      ¬ BeginsWith level.operators tokens →
      Reads limit room (.chain level left) tokens (.ok (left, tokens))
  | chain_failed {room level left operator tokens failure} :
      operator.kind ∈ level.operators →
      Reads limit room (.rule level.operand) tokens (.error failure) →
      Reads limit room (.chain level left) (operator :: tokens) (.error failure)
  | chain_tall {room level left operator tokens right rest} :
      operator.kind ∈ level.operators →
      Reads limit room (.rule level.operand) tokens (.ok (right, rest)) →
      limit < (Expr.binary left operator right).height →
      Reads limit room (.chain level left) (operator :: tokens)
        (.error ⟨.tooDeep limit, operator :: tokens, rest⟩)
  | chain_read {room level left operator tokens right rest outcome} :
      operator.kind ∈ level.operators →
      Reads limit room (.rule level.operand) tokens (.ok (right, rest)) →
      (Expr.binary left operator right).height ≤ limit →
      Reads limit room (.chain level (.binary left operator right)) rest outcome →
      Reads limit room (.chain level left) (operator :: tokens) outcome
  | unary_full {operator tokens} :
      operator.kind ∈ unaryOperators →
      Reads limit 0 (.rule .unary) (operator :: tokens)
        (.error ⟨.tooDeep limit, tokens, tokens⟩)
  | unary_failed {room operator tokens failure} :
      operator.kind ∈ unaryOperators →
      Reads limit room (.rule .unary) tokens (.error failure) →
      Reads limit (room + 1) (.rule .unary) (operator :: tokens) (.error failure)
  | unary_tall {room operator tokens operand rest} :
      operator.kind ∈ unaryOperators →
      Reads limit room (.rule .unary) tokens (.ok (operand, rest)) →
      limit < (Expr.unary operator operand).height →
      Reads limit (room + 1) (.rule .unary) (operator :: tokens)
        (.error ⟨.tooDeep limit, operator :: tokens, rest⟩)
  | unary_read {room operator tokens operand rest} :
      operator.kind ∈ unaryOperators →
      Reads limit room (.rule .unary) tokens (.ok (operand, rest)) →
      (Expr.unary operator operand).height ≤ limit →
      Reads limit (room + 1) (.rule .unary) (operator :: tokens)
        (.ok (.unary operator operand, rest))
  | primary {room tokens outcome} :
      ¬ BeginsWith unaryOperators tokens →
      Reads limit room (.rule .primary) tokens outcome →
      Reads limit room (.rule .unary) tokens outcome
  | literal {room token tokens value} :
      literal? token = some value →
      Reads limit room (.rule .primary) (token :: tokens) (.ok (.literal value, tokens))
  | operand_missing {room tokens} :
      ¬ BeginsWith primaryKinds tokens →
      Reads limit room (.rule .primary) tokens (.error ⟨.operandExpected, tokens, tokens⟩)
  | grouping_full {opening tokens} :
      opening.kind = .leftParen →
      Reads limit 0 (.rule .primary) (opening :: tokens)
        (.error ⟨.tooDeep limit, tokens, tokens⟩)
  | grouping_failed {room opening tokens failure} :
      opening.kind = .leftParen →
      Reads limit room (.rule .expression) tokens (.error failure) →
      Reads limit (room + 1) (.rule .primary) (opening :: tokens) (.error failure)
  | grouping_unclosed {room opening tokens tree rest} :
      opening.kind = .leftParen →
      Reads limit room (.rule .expression) tokens (.ok (tree, rest)) →
      ¬ BeginsWith [.rightParen] rest →
      Reads limit (room + 1) (.rule .primary) (opening :: tokens)
        (.error ⟨unclosedGrouping, rest, rest⟩)
  | grouping_tall {room opening tokens tree closing rest} :
      opening.kind = .leftParen →
      Reads limit room (.rule .expression) tokens (.ok (tree, closing :: rest)) →
      closing.kind = .rightParen →
      limit < (Expr.grouping tree).height →
      Reads limit (room + 1) (.rule .primary) (opening :: tokens)
        (.error ⟨.tooDeep limit, closing :: rest, rest⟩)
  | grouping_read {room opening tokens tree closing rest} :
      opening.kind = .leftParen →
      Reads limit room (.rule .expression) tokens (.ok (tree, closing :: rest)) →
      closing.kind = .rightParen →
      (Expr.grouping tree).height ≤ limit →
      Reads limit (room + 1) (.rule .primary) (opening :: tokens) (.ok (.grouping tree, rest))

namespace Reads

variable {limit : Int} {room : Nat} {task : Task} {tokens : List Token}
  {outcome : Except Failure (Expr × List Token)}

/-- The relation says what the readers do. -/
theorem read_eq (h : Reads limit room task tokens outcome) :
    task.read limit room tokens = outcome := by
  -- Each way of reading is one branch of a reader. The hypotheses of the case are the conditions
  -- that lead into this branch, and the induction says what the readers that it calls come to.
  induction h with
  | expression _ ih => exact ih
  | operand_failed level _ ih =>
    simp only [Task.read] at ih ⊢
    rw [Rule.read_level, Grammar.binary, ih]
  | operand_read level _ _ first second =>
    simp only [Task.read] at first second ⊢
    rw [Rule.read_level, Grammar.binary, first]
    exact second
  | @chain_done _ level left tokens done =>
    simp only [Task.read]
    cases tokens with
    | nil => rw [Grammar.foldOperators]
    | cons token rest =>
      rw [beginsWith_cons] at done
      rw [Grammar.foldOperators, if_neg done]
  | chain_failed operator _ ih =>
    simp only [Task.read] at ih ⊢
    rw [Grammar.foldOperators, if_pos operator, ih]
  | chain_tall operator _ tall ih =>
    simp only [Task.read] at ih ⊢
    rw [Grammar.foldOperators, if_pos operator, ih]
    simp only [if_pos tall]
  | chain_read operator _ fits _ first second =>
    simp only [Task.read] at first second ⊢
    rw [Grammar.foldOperators, if_pos operator, first]
    simpa only [if_neg (Int.not_lt.2 fits)] using second
  | unary_full operator =>
    simp only [Task.read, Rule.read_unary, Grammar.unaryOver, if_pos operator, Grammar.deeper]
  | unary_failed operator _ ih =>
    simp only [Task.read] at ih ⊢
    rw [Rule.read_unary, Rule.deeper_succ, Grammar.unaryOver, if_pos operator]
    simp only [ih]
  | unary_tall operator _ tall ih =>
    simp only [Task.read] at ih ⊢
    rw [Rule.read_unary, Rule.deeper_succ, Grammar.unaryOver, if_pos operator]
    simp only [ih, Grammar.bounded, if_pos tall]
  | unary_read operator _ fits ih =>
    simp only [Task.read] at ih ⊢
    rw [Rule.read_unary, Rule.deeper_succ, Grammar.unaryOver, if_pos operator]
    simp only [ih, Grammar.bounded, if_neg (Int.not_lt.2 fits)]
  | @primary room tokens _ operand _ ih =>
    simp only [Task.read, Rule.read_primary] at ih ⊢
    rw [Rule.read_unary]
    cases tokens with
    | nil => exact ih
    | cons token rest =>
      rw [beginsWith_cons] at operand
      simpa only [Grammar.unaryOver, if_neg operand] using ih
  | literal value =>
    simp only [Task.read, Rule.read_primary, Grammar.primary, value]
  | @operand_missing _ tokens missing =>
    simp only [Task.read, Rule.read_primary]
    cases tokens with
    | nil => rfl
    | cons token rest =>
      simp only [beginsWith_cons, Grammar.primaryKinds, List.mem_cons, not_or] at missing
      simp only [Grammar.primary, Grammar.literal?_eq_none_iff.2 missing.2, if_neg missing.1]
  | grouping_full opening =>
    simp only [Task.read, Rule.read_primary, Grammar.primary, Grammar.literal?_leftParen opening,
      if_pos opening, Grammar.deeper, Option.map_none]
  | grouping_failed opening _ ih =>
    simp only [Task.read] at ih ⊢
    rw [Rule.read_primary, Rule.expression_deeper_succ, Grammar.primary]
    simp only [Grammar.literal?_leftParen opening, if_pos opening, ih]
  | @grouping_unclosed _ _ _ tree rest opening _ unclosed ih =>
    simp only [Task.read] at ih ⊢
    rw [Rule.read_primary, Rule.expression_deeper_succ, Grammar.primary]
    simp only [Grammar.literal?_leftParen opening, if_pos opening, ih]
    cases rest with
    | nil => rfl
    | cons token rest =>
      have other : token.kind ≠ .rightParen := by simpa using unclosed
      simp only [Grammar.closeGrouping, if_neg other]
  | grouping_tall opening _ closing tall ih =>
    simp only [Task.read] at ih ⊢
    rw [Rule.read_primary, Rule.expression_deeper_succ, Grammar.primary]
    simp only [Grammar.literal?_leftParen opening, if_pos opening, ih, Grammar.closeGrouping,
      if_pos closing, Grammar.bounded, if_pos tall]
  | grouping_read opening _ closing fits ih =>
    simp only [Task.read] at ih ⊢
    rw [Rule.read_primary, Rule.expression_deeper_succ, Grammar.primary]
    simp only [Grammar.literal?_leftParen opening, if_pos opening, ih, Grammar.closeGrouping,
      if_pos closing, Grammar.bounded, if_neg (Int.not_lt.2 fits)]

end Reads

section

variable {limit : Int} {room : Nat}

/-- What is shown of every rule: the relation has the outcome of its reader. -/
private abbrev ReadsRule (limit : Int) (room : Nat) (r : Rule) : Prop :=
  ∀ tokens, Reads limit room (.rule r) tokens (r.read limit room tokens)

/-- A level reads the chain behind its first operand. The induction is on the tokens that are left,
since every operator takes up at least one. -/
private theorem reads_chain (level : Level) (operand : ReadsRule limit room level.operand)
    (left : Expr) (tokens : List Token) :
    Reads limit room (.chain level left) tokens
      (Grammar.foldOperators limit level (level.operand.read limit room) left tokens) := by
  fun_induction Grammar.foldOperators limit level (level.operand.read limit room) left tokens with
  | case1 left => exact .chain_done (beginsWith_nil _)
  | case2 left token rest operator failure read =>
    exact .chain_failed operator (read ▸ operand rest)
  | case3 left token rest operator right behind read tall =>
    exact .chain_tall operator (read ▸ operand rest) tall
  | case4 left token rest operator right behind read fits ih =>
    exact .chain_read operator (read ▸ operand rest) (Int.not_lt.1 fits) ih
  | case5 left token rest other => exact .chain_done other

/-- A level reads if the level of its operands does. -/
private theorem reads_level (level : Level) (operand : ReadsRule limit room level.operand) :
    ReadsRule limit room level.rule := by
  intro tokens
  rw [Rule.read_level, Grammar.binary]
  cases read : level.operand.read limit room tokens with
  | error failure => exact .operand_failed level (read ▸ operand tokens)
  | ok result => exact .operand_read level (read ▸ operand tokens) (reads_chain level operand _ _)

/-- All levels read if unary operators do: they rest on one another, the tightest on these. -/
private theorem reads_levels (unary : ReadsRule limit room .unary) (level : Level) :
    ReadsRule limit room level.rule := by
  have factor := reads_level .factor unary
  have term := reads_level .term factor
  have comparison := reads_level .comparison term
  cases level with
  | equality => exact reads_level .equality comparison
  | comparison => exact comparison
  | term => exact term
  | factor => exact factor

/-- Expressions are read if unary operators are. -/
private theorem reads_expression (unary : ReadsRule limit room .unary) :
    ReadsRule limit room .expression :=
  fun tokens => .expression (reads_levels unary .equality tokens)

/-- A grouping is read if there is no room for it, or if expressions are read with one less. -/
private theorem reads_grouping {opening : Token} (h : opening.kind = .leftParen)
    (unary : ReadsRule limit room .unary) (tokens : List Token) :
    Reads limit (room + 1) (.rule .primary) (opening :: tokens)
      (match Rule.expression.read limit room tokens with
        | .error failure => .error failure
        | .ok (tree, rest) => Grammar.closeGrouping limit tree rest) := by
  have inner := reads_expression unary tokens
  split
  · next failure read => exact .grouping_failed h (read ▸ inner)
  · next tree rest read =>
    rw [read] at inner
    cases rest with
    | nil => exact .grouping_unclosed h inner (beginsWith_nil _)
    | cons closing rest =>
      rw [Grammar.closeGrouping]
      split
      · next closes =>
        rw [Grammar.bounded]
        split
        · next tall => exact .grouping_tall h inner closes tall
        · next fits => exact .grouping_read h inner closes (Int.not_lt.1 fits)
      · next other => exact .grouping_unclosed h inner (by simpa using other)

/-- Literals and groupings are read, given that everything is read with less room. -/
private theorem reads_primary (smaller : ∀ n, room = n + 1 → ReadsRule limit n .unary) :
    ReadsRule limit room .primary := by
  intro tokens
  rw [Rule.read_primary]
  cases tokens with
  | nil => exact .operand_missing (beginsWith_nil _)
  | cons token rest =>
    simp only [Grammar.primary]
    split
    · next value literal => exact .literal literal
    · next noLiteral =>
      by_cases opening : token.kind = .leftParen
      · rw [if_pos opening]
        cases room with
        | zero => exact .grouping_full opening
        | succ n => exact reads_grouping opening (smaller n rfl) rest
      · rw [if_neg opening]
        refine .operand_missing ?_
        simpa [Grammar.primaryKinds, opening] using Grammar.literal?_eq_none_iff.1 noLiteral

/-- A unary operator is read if there is no room for it, or if its operand is read with one less. -/
private theorem reads_prefixed {operator : Token} (h : operator.kind ∈ Grammar.unaryOperators)
    (unary : ReadsRule limit room .unary) (tokens : List Token) :
    Reads limit (room + 1) (.rule .unary) (operator :: tokens)
      (match Rule.unary.read limit room tokens with
        | .error failure => .error failure
        | .ok (operand, rest) =>
          Grammar.bounded limit (.unary operator operand) (operator :: tokens) rest) := by
  have inner := unary tokens
  split
  · next failure read => exact .unary_failed h (read ▸ inner)
  · next operand rest read =>
    rw [read] at inner
    rw [Grammar.bounded]
    split
    · next tall => exact .unary_tall h inner tall
    · next fits => exact .unary_read h inner (Int.not_lt.1 fits)

/-- Unary operators are read, given that everything is read with less room. -/
private theorem reads_unary_of (smaller : ∀ n, room = n + 1 → ReadsRule limit n .unary) :
    ReadsRule limit room .unary := by
  intro tokens
  have primary := reads_primary smaller tokens
  rw [Rule.read_unary]
  cases tokens with
  | nil => exact .primary (beginsWith_nil _) primary
  | cons token rest =>
    simp only [Grammar.unaryOver]
    by_cases operator : token.kind ∈ Grammar.unaryOperators
    · rw [if_pos operator]
      cases room with
      | zero => exact .unary_full operator
      | succ n => exact reads_prefixed operator (smaller n rfl) rest
    · rw [if_neg operator]
      exact .primary operator primary

/-- Unary operators are read, by induction on the room. -/
private theorem reads_unary : ReadsRule limit room .unary := by
  induction room with
  | zero => exact reads_unary_of (by simp)
  | succ room ih => exact reads_unary_of (by simpa using ih)

/-- Every rule is read, since every rule rests on unary operators. -/
private theorem reads_rule (r : Rule) : ReadsRule limit room r := by
  cases r with
  | expression => exact reads_expression reads_unary
  | equality => exact reads_levels reads_unary .equality
  | comparison => exact reads_levels reads_unary .comparison
  | term => exact reads_levels reads_unary .term
  | factor => exact reads_levels reads_unary .factor
  | unary => exact reads_unary
  | primary => exact reads_primary fun _ _ => reads_unary

end

/-- Every reader comes to an outcome that the relation has. -/
theorem reads_read (limit : Int) (room : Nat) (task : Task) (tokens : List Token) :
    Reads limit room task tokens (task.read limit room tokens) := by
  cases task with
  | rule r => exact reads_rule r tokens
  | chain level left => exact reads_chain level (reads_rule _) left tokens

/-- The relation is the graph of the readers. -/
theorem reads_iff {limit : Int} {room : Nat} {task : Task} {tokens : List Token}
    {outcome : Except Failure (Expr × List Token)} :
    Reads limit room task tokens outcome ↔ task.read limit room tokens = outcome :=
  ⟨Reads.read_eq, fun h => h ▸ reads_read limit room task tokens⟩

end ExprLang
