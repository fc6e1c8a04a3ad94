import ExprLang.Expr
import ExprLang.Grammar.Error

/-!
# The expression grammar

Expressions are read from the front of a list of tokens. From loose to tight there are four levels
of binary operators, each folding its operands to the left, then the unary operators, which nest to
the right, then literals and groupings:

    equality    → comparison (("!=" | "==") comparison)*
    comparison  → term ((">" | ">=" | "<" | "<=") term)*
    term        → factor (("-" | "+") factor)*
    factor      → unary (("/" | "*") unary)*
    unary       → ("!" | "-") unary | primary
    primary     → NUMBER | STRING | "true" | "false" | "nil" | "(" equality ")"

No tree may be taller than a limit, and unary operators and groupings may not nest more deeply than
that either. The nesting still allowed is the `room`; it bounds the recursion.

## Main definitions

* `Failure`, `Reader`: how reading can end, and what reads.
* `Level`: the levels of binary operators.
* `binary`, `ladder`: one level, and several with the tighter ones inside.
* `primary`, `unary`: operands.
* `Rule`, `Rule.read`: every rule of the grammar as a reader.
-/

namespace ExprLang

/-- Why no expression could be read. -/
structure Failure where
  cause : GrammarError.Cause
  /-- The tokens from the one the fault is noticed at; none when it is noticed at the end. -/
  site : List Token
  /-- The tokens that had not been read. -/
  rest : List Token
  deriving DecidableEq

/-- Reads an expression off the front of the tokens and leaves the rest. -/
abbrev Reader := List Token → Except Failure (Expr × List Token)

/-- A level of binary operators. -/
inductive Level where
  | equality | comparison | term | factor
  deriving DecidableEq, Repr

namespace Level

/-- The operators of a level. -/
def operators : Level → List Kind
  | .equality => [.bangEqual, .equalEqual]
  | .comparison => [.greater, .greaterEqual, .less, .lessEqual]
  | .term => [.minus, .plus]
  | .factor => [.slash, .star]

end Level

/-- The message about a grouping that is not closed. -/
def unclosedGrouping : GrammarError.Cause :=
  .missing .rightParen "Expect ')' after expression."

namespace Grammar

/-- The operators that stand before their operand. -/
def unaryOperators : List Kind :=
  [.bang, .minus]

/-- The value of a token that is a literal by itself. -/
def literal? (token : Token) : Option Value :=
  match token.kind with
  | .keyword .kwFalse => some (.bool false)
  | .keyword .kwTrue => some (.bool true)
  | .keyword .kwNil => some .nil
  | .number | .string => some token.literal
  | _ => none

/-- A node that has just been completed, unless it is taller than the limit. -/
def bounded (limit : Int) (node : Expr) (site rest : List Token) :
    Except Failure (Expr × List Token) :=
  if limit < node.height then .error ⟨.tooDeep limit, site, rest⟩ else .ok (node, rest)

/-- Goes on from a left operand for as long as an operator of the level follows. -/
def foldOperators (limit : Int) (level : Level) (operand : Reader) (left : Expr) : Reader
  | [] => .ok (left, [])
  | token :: rest =>
    if token.kind ∈ level.operators then
      match operand rest with
      | .error failure => .error failure
      | .ok (right, behind) =>
        if limit < (Expr.binary left token right).height then
          .error ⟨.tooDeep limit, token :: rest, behind⟩
        else
          foldOperators limit level operand (.binary left token right) behind
    else
      .ok (left, token :: rest)
termination_by (limit - left.height).toNat
decreasing_by
  simp only [Expr.height] at *
  omega

/-- One level of binary operators over the given operands. -/
def binary (limit : Int) (level : Level) (operand : Reader) : Reader := fun tokens =>
  match operand tokens with
  | .error failure => .error failure
  | .ok (left, rest) => foldOperators limit level operand left rest

/-- Several levels of binary operators, the loosest first. -/
def ladder (limit : Int) (operand : Reader) : List Level → Reader
  | [] => operand
  | level :: tighter => binary limit level (ladder limit operand tighter)

/-- A whole expression over the given operands. -/
def expression (limit : Int) (operand : Reader) : Reader :=
  ladder limit operand [.equality, .comparison, .term, .factor]

/-- Completes the grouping of a tree with the parenthesis that has to follow. -/
def closeGrouping (limit : Int) (tree : Expr) : Reader
  | [] => .error ⟨unclosedGrouping, [], []⟩
  | token :: rest =>
    if token.kind = .rightParen then
      bounded limit (.grouping tree) (token :: rest) rest
    else
      .error ⟨unclosedGrouping, token :: rest, token :: rest⟩

/-- A literal, or a grouping if there is room for what is inside. -/
def primary (limit : Int) (inner : Option Reader) : Reader
  | [] => .error ⟨.operandExpected, [], []⟩
  | token :: rest =>
    match literal? token with
    | some value => .ok (.literal value, rest)
    | none =>
      if token.kind = .leftParen then
        match inner with
        | none => .error ⟨.tooDeep limit, rest, rest⟩
        | some read =>
          match read rest with
          | .error failure => .error failure
          | .ok (tree, behind) => closeGrouping limit tree behind
      else
        .error ⟨.operandExpected, token :: rest, token :: rest⟩

/-- A unary operator before its operand, or a primary. What is one level deeper is read with
`deeper`, unless there is no room. -/
def unaryOver (limit : Int) (deeper : Option Reader) : Reader
  | [] => primary limit none []
  | token :: rest =>
    if token.kind ∈ unaryOperators then
      match deeper with
      | none => .error ⟨.tooDeep limit, rest, rest⟩
      | some read =>
        match read rest with
        | .error failure => .error failure
        | .ok (operand, behind) => bounded limit (.unary token operand) (token :: rest) behind
    else
      primary limit (deeper.map (expression limit)) (token :: rest)

/-- A unary expression with room for so many unary operators and groupings inside each other. -/
def unary (limit : Int) : Nat → Reader
  | 0 => unaryOver limit none
  | room + 1 => unaryOver limit (some (unary limit room))

/-- The reader for what is one level deeper, if there is room. -/
def deeper (limit : Int) : Nat → Option Reader
  | 0 => none
  | room + 1 => some (unary limit room)

end Grammar

/-- A rule of the grammar. -/
inductive Rule where
  | expression | equality | comparison | term | factor | unary | primary
  deriving DecidableEq, Repr

namespace Rule

/-- The levels of binary operators that a rule spans, the loosest first. -/
def levels : Rule → List Level
  | .expression | .equality => [.equality, .comparison, .term, .factor]
  | .comparison => [.comparison, .term, .factor]
  | .term => [.term, .factor]
  | .factor => [.factor]
  | .unary | .primary => []

/-- Reads what a rule describes. -/
def read (limit : Int) (room : Nat) : Rule → Reader
  | .primary => Grammar.primary limit ((Grammar.deeper limit room).map (Grammar.expression limit))
  | rule => Grammar.ladder limit (Grammar.unary limit room) rule.levels

end Rule

end ExprLang
