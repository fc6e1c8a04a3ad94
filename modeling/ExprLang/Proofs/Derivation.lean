import ExprLang.Grammar.Progress

/-!
# Derivations

The expression grammar as rules of derivation: which tokens make up what a rule describes, and the
tree that goes with them. A level of binary operators groups to the left, unary operators nest to
the right, and a grouping keeps its parentheses as a node.

What is read derives, and what derives is read when nothing in the tokens behind it could go on
with it and the tree is low enough.

## Main definitions

* `Kind.binaryOperators`: the operators of all levels.
* `Level.Joins`: the operators of a level.
* `Derives`: the rules of derivation.

## Main statements

* `Reads.derives`, `Reads.stops`, `Reads.fits`: what is read.
* `Derives.reads`: what derives.
-/

namespace ExprLang

/-- The operators that stand between their operands. -/
def Kind.binaryOperators : List Kind :=
  [.bangEqual, .equalEqual, .greater, .greaterEqual, .less, .lessEqual,
   .minus, .plus, .slash, .star]

/-- The operators that join the operands of a level. -/
def Level.Joins : Level → Kind → Prop
  | .equality, kind => kind = .bangEqual ∨ kind = .equalEqual
  | .comparison, kind =>
    kind = .greater ∨ kind = .greaterEqual ∨ kind = .less ∨ kind = .lessEqual
  | .term, kind => kind = .minus ∨ kind = .plus
  | .factor, kind => kind = .slash ∨ kind = .star

/-- The operators that a level joins are the ones that it reads. -/
theorem Level.joins_iff {level : Level} {kind : Kind} :
    level.Joins kind ↔ kind ∈ level.operators := by
  cases level <;> simp [Joins, operators]

/-- Which tokens a rule derives, and their tree. -/
inductive Derives : Rule → List Token → Expr → Prop where
  | expression {tokens tree} :
      Derives .equality tokens tree → Derives .expression tokens tree
  | operand {tokens tree} (level : Level) :
      Derives level.operand tokens tree → Derives level.rule tokens tree
  | binary {left operator right leftTree rightTree} (level : Level) :
      Derives level.rule left leftTree →
      level.Joins operator.kind →
      Derives level.operand right rightTree →
      Derives level.rule (left ++ operator :: right) (.binary leftTree operator rightTree)
  | unary {operator tokens tree} :
      operator.kind = .bang ∨ operator.kind = .minus →
      Derives .unary tokens tree →
      Derives .unary (operator :: tokens) (.unary operator tree)
  | primary {tokens tree} :
      Derives .primary tokens tree → Derives .unary tokens tree
  | number {token} : token.kind = .number → Derives .primary [token] (.literal token.literal)
  | string {token} : token.kind = .string → Derives .primary [token] (.literal token.literal)
  | true {token} :
      token.kind = .keyword .kwTrue → Derives .primary [token] (.literal (.bool .true))
  | false {token} :
      token.kind = .keyword .kwFalse → Derives .primary [token] (.literal (.bool .false))
  | nil {token} : token.kind = .keyword .kwNil → Derives .primary [token] (.literal .nil)
  | grouping {opening tokens tree closing} :
      opening.kind = .leftParen →
      Derives .expression tokens tree →
      closing.kind = .rightParen →
      Derives .primary (opening :: (tokens ++ [closing])) (.grouping tree)

/-- Within an expression all binary operators go on. -/
theorem Rule.operators_expression : Rule.expression.operators = Kind.binaryOperators := rfl

namespace Level

/-- Different levels are different rules. -/
theorem rule_injective {a b : Level} (h : a.rule = b.rule) : a = b := by
  cases a <;> cases b <;> first | rfl | cases h

/-- What goes on a level is its own operators and whatever goes on its operands. -/
theorem operators_rule (level : Level) :
    level.rule.operators = level.operators ++ level.operand.operators := by
  cases level <;> rfl

/-- No operator belongs to a level and to a tighter one. -/
theorem not_mem_operators_operand {level : Level} {kind : Kind} (h : kind ∈ level.operators) :
    kind ∉ level.operand.operators := by
  revert kind
  cases level <;> decide

end Level

/-- Beginning with one of two lists of kinds is beginning with a kind of either. -/
theorem beginsWith_append {a b : List Kind} {tokens : List Token} :
    BeginsWith (a ++ b) tokens ↔ BeginsWith a tokens ∨ BeginsWith b tokens := by
  cases tokens with
  | nil => simp
  | cons token rest => simp

/-! ### What is read derives -/

/-- A token that is read as a literal derives it. -/
theorem Derives.literal {token : Token} {value : Value}
    (h : Grammar.literal? token = some value) : Derives .primary [token] (.literal value) := by
  unfold Grammar.literal? at h
  split at h
  · next kind => cases h; exact .false kind
  · next kind => cases h; exact .true kind
  · next kind => cases h; exact .nil kind
  · next kind => cases h; exact .number kind
  · next kind => cases h; exact .string kind
  · cases h

/-- The unary operators are the exclamation mark and the minus sign. -/
theorem Grammar.mem_unaryOperators {kind : Kind} :
    kind ∈ unaryOperators ↔ kind = .bang ∨ kind = .minus := by
  simp [unaryOperators]

/-- What it means that tokens and a tree are the outcome of a task. Behind a left operand they have
to go on with the tokens of that operand. -/
def Task.Derives : Task → List Token → Expr → Prop
  | .rule r, tokens, tree => ExprLang.Derives r tokens tree
  | .chain level left, tokens, tree => ∀ before, ExprLang.Derives level.rule before left →
      ExprLang.Derives level.rule (before ++ tokens) tree

variable {limit : Int} {room : Nat} {task : Task} {r : Rule} {tokens rest : List Token}
  {tree : Expr}

/-- The tokens that a reading takes derive its tree. -/
theorem Reads.derives (h : Reads limit room task tokens (.ok (tree, rest))) :
    ∃ used, tokens = used ++ rest ∧ task.Derives used tree := by
  generalize result : Except.ok (tree, rest) = outcome at h
  induction h generalizing tree rest with
  | expression _ ih =>
    obtain ⟨used, rfl, inner⟩ := ih result
    exact ⟨used, rfl, .expression inner⟩
  | operand_read level _ _ first second =>
    obtain ⟨a, rfl, left⟩ := first rfl
    obtain ⟨b, rfl, chain⟩ := second result
    exact ⟨a ++ b, (List.append_assoc ..).symm, chain a (.operand level left)⟩
  | chain_done =>
    cases result
    exact ⟨[], rfl, fun before left => by simpa using left⟩
  | @chain_read _ level left operator _ right _ _ mem _ _ _ first second =>
    obtain ⟨a, rfl, operand⟩ := first rfl
    obtain ⟨b, rfl, chain⟩ := second result
    -- The node with the operand just read is the left operand of what the chain still adds.
    refine ⟨operator :: (a ++ b), by simp, fun before leftTree => ?_⟩
    have := chain (before ++ operator :: a) (.binary level leftTree (Level.joins_iff.2 mem) operand)
    simpa using this
  | @unary_read _ operator _ _ _ mem _ _ ih =>
    cases result
    obtain ⟨used, rfl, inner⟩ := ih rfl
    exact ⟨operator :: used, rfl, .unary (Grammar.mem_unaryOperators.1 mem) inner⟩
  | primary _ _ ih =>
    obtain ⟨used, rfl, inner⟩ := ih result
    exact ⟨used, rfl, .primary inner⟩
  | @literal _ token _ _ value =>
    cases result
    exact ⟨[token], rfl, .literal value⟩
  | @grouping_read _ opening _ _ closing _ opens _ closes _ ih =>
    cases result
    obtain ⟨used, rfl, inner⟩ := ih rfl
    exact ⟨opening :: (used ++ [closing]), by simp, .grouping opens inner closes⟩
  | _ => cases result

theorem not_beginsWith_nil (tokens : List Token) : ¬ BeginsWith [] tokens := by
  cases tokens <;> simp

/-- A reading goes on for as long as there are operators. What is left behind a left operand
depends on the tokens of that operand having been read to their end. -/
def Task.Stops : Task → List Token → List Token → Prop
  | .rule r, _, rest => ¬ BeginsWith r.operators rest
  | .chain level _, tokens, rest =>
    ¬ BeginsWith level.operand.operators tokens → ¬ BeginsWith level.rule.operators rest

/-- No operator of the rule that has been read comes next. -/
theorem Reads.stops (h : Reads limit room task tokens (.ok (tree, rest))) :
    task.Stops tokens rest := by
  generalize result : Except.ok (tree, rest) = outcome at h
  induction h generalizing tree rest with
  | expression _ ih => exact ih result
  | operand_read _ _ _ first second => exact second result (first rfl)
  | @chain_done _ level _ _ done =>
    cases result
    intro tighter
    rw [Level.operators_rule, beginsWith_append]
    exact not_or.2 ⟨done, tighter⟩
  | chain_read _ _ _ _ first second => exact fun _ => second result (first rfl)
  | unary_read | literal | grouping_read => exact not_beginsWith_nil _
  | primary => exact not_beginsWith_nil _
  | _ => cases result

/-- How tall the tree of a task may be, given that a left operand is low enough. -/
def Task.Fits (limit : Int) : Task → Expr → Prop
  | .rule _, tree => (tree.height : Int) ≤ limit
  | .chain _ left, tree => (left.height : Int) ≤ limit → (tree.height : Int) ≤ limit

/-- No tree is taller than the limit. -/
theorem Reads.fits (nonneg : 0 ≤ limit) (h : Reads limit room task tokens (.ok (tree, rest))) :
    task.Fits limit tree := by
  generalize result : Except.ok (tree, rest) = outcome at h
  induction h generalizing tree rest with
  | expression _ ih | primary _ _ ih => exact ih result
  | operand_read _ _ _ first second => exact second result (first rfl)
  | chain_done => cases result; exact id
  | chain_read _ _ fits _ _ second => exact fun _ => second result fits
  | unary_read _ _ fits _ | grouping_read _ _ _ fits _ => cases result; exact fits
  | literal => cases result; exact nonneg
  | _ => cases result

/-! ### What derives is read -/

/-- A primary begins with no operator. -/
theorem Reads.primary_head (h : Reads limit room (.rule .primary) tokens (.ok (tree, rest))) :
    ¬ BeginsWith Grammar.unaryOperators tokens := by
  generalize which : Task.rule .primary = task, result : Except.ok (tree, rest) = outcome at h
  cases h with
  | literal value =>
    have := Grammar.mem_literalKinds value
    rw [beginsWith_cons]
    revert this
    generalize Token.kind _ = kind
    revert kind
    decide
  | grouping_read opening => rw [beginsWith_cons, opening]; decide
  | operand_read level _ _ => cases level <;> cases which
  | chain_done | chain_read | expression | unary_read | primary => cases which
  | _ => cases result

/-- Whether a rule reads tokens as a tree, whatever tokens behind them do not go on with it. A
level of operators is to reach the tree as a left operand, so that the level itself may go on. -/
structure Rule.ReadsAs (limit : Int) (room : Nat) (r : Rule) (used : List Token) (tree : Expr) :
    Prop where
  whole : ∀ rest, ¬ BeginsWith r.operators rest →
    Reads limit room (.rule r) (used ++ rest) (.ok (tree, rest))
  left : ∀ level rest outcome, r = level.rule → ¬ BeginsWith level.operand.operators rest →
    Reads limit room (.chain level tree) rest outcome →
    Reads limit room (.rule r) (used ++ rest) outcome

namespace Rule.ReadsAs

variable {used left right : List Token} {leftTree rightTree : Expr} {operator : Token}

/-- A level that reaches a tree as a left operand reads it as a whole where its operators end. -/
theorem of_left {level : Level}
    (h : ∀ rest outcome, ¬ BeginsWith level.operand.operators rest →
      Reads limit room (.chain level tree) rest outcome →
      Reads limit room (.rule level.rule) (used ++ rest) outcome) :
    level.rule.ReadsAs limit room used tree where
  whole rest stops := by
    rw [Level.operators_rule, beginsWith_append, not_or] at stops
    exact h rest _ stops.2 (.chain_done stops.1)
  left other rest outcome same stops chain := by
    obtain rfl := Level.rule_injective same
    exact h rest outcome stops chain

/-- Outside the levels of operators there is nothing to go on with. -/
theorem of_whole (noLevel : ∀ level : Level, r ≠ level.rule)
    (h : ∀ rest, ¬ BeginsWith r.operators rest →
      Reads limit room (.rule r) (used ++ rest) (.ok (tree, rest))) :
    r.ReadsAs limit room used tree where
  whole := h
  left level _ _ same := absurd same (noLevel level)

/-- What is read as an operand of a level is read as that level, when no operator of the level
follows. -/
theorem operand {level : Level} (h : level.operand.ReadsAs limit room used tree) :
    level.rule.ReadsAs limit room used tree :=
  of_left fun rest _ stops chain => .operand_read level (h.whole rest stops) chain

/-- What is read as a level goes on with an operator of the level and an operand, as long as the
node is within the limit. -/
theorem binary {level : Level} (first : level.rule.ReadsAs limit room left leftTree)
    (mem : operator.kind ∈ level.operators)
    (second : level.operand.ReadsAs limit room right rightTree)
    (fits : ((Expr.binary leftTree operator rightTree).height : Int) ≤ limit) :
    level.rule.ReadsAs limit room (left ++ operator :: right)
      (.binary leftTree operator rightTree) := by
  refine of_left fun rest outcome stops chain => ?_
  -- The left operand ends at the operator, since no tighter level has it.
  have next : ¬ BeginsWith level.operand.operators (operator :: (right ++ rest)) :=
    Level.not_mem_operators_operand mem
  have := first.left level _ outcome rfl next
    (.chain_read mem (second.whole rest stops) fits chain)
  simpa using this

end Rule.ReadsAs

/-- What derives is read, if the tree is low enough and there is room for its nesting. -/
theorem Derives.reads {used : List Token} (h : Derives r used tree) (low : tree.height ≤ room)
    (roomy : (room : Int) ≤ limit) : r.ReadsAs limit room used tree := by
  induction h generalizing room with
  | expression _ ih =>
    refine .of_whole (by rintro ⟨⟩ ⟨⟩) fun rest stops => ?_
    exact .expression ((ih low roomy).whole rest stops)
  | operand level _ ih => exact (ih low roomy).operand
  | binary level _ joins _ first second =>
    rw [Expr.height] at low
    refine (first (by omega) roomy).binary (Level.joins_iff.1 joins) (second (by omega) roomy) ?_
    rw [Expr.height]
    omega
  | unary operator _ ih =>
    -- The operand is lower than the node by one, and so there is room for it one level deeper.
    rw [Expr.height] at low
    obtain ⟨n, rfl⟩ : ∃ n, room = n + 1 := ⟨room - 1, by omega⟩
    refine .of_whole (by rintro ⟨⟩ ⟨⟩) fun rest stops => ?_
    have inner : Rule.unary.ReadsAs limit n _ _ := ih (by omega) (by omega)
    exact .unary_read (Grammar.mem_unaryOperators.2 operator) (inner.whole rest stops)
      (by rw [Expr.height]; omega)
  | primary _ ih =>
    refine .of_whole (by rintro ⟨⟩ ⟨⟩) fun rest stops => ?_
    have inner := (ih low roomy).whole rest stops
    exact .primary inner.primary_head inner
  | number kind | string kind | true kind | false kind | nil kind =>
    exact .of_whole (by rintro ⟨⟩ ⟨⟩) fun rest _ => .literal (by simp [Grammar.literal?, kind])
  | grouping opening _ closing ih =>
    rw [Expr.height] at low
    obtain ⟨n, rfl⟩ : ∃ n, room = n + 1 := ⟨room - 1, by omega⟩
    refine .of_whole (by rintro ⟨⟩ ⟨⟩) fun rest _ => ?_
    rw [List.cons_append, List.append_assoc, List.singleton_append]
    have inner : Rule.expression.ReadsAs limit n _ _ := ih (by omega) (by omega)
    refine .grouping_read opening (inner.whole (_ :: rest) ?_) closing (by rw [Expr.height]; omega)
    rw [beginsWith_cons, closing]
    decide

end ExprLang
