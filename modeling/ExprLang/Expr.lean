import ExprLang.Token

/-!
# Expressions

Expression trees over literal values. Operators are kept as the tokens they were read from. A tree
has two written forms: fully parenthesised with the operator in front, and the constructor form.
Trees of any height are written and compared.

## Main definitions

* `Expr`: the trees.
* `Expr.height`: the operators and groupings on the longest way down to a literal.
* `Expr.equal`: equality of trees, with values compared by `Value.equal`.
* `Expr.render`, `Expr.debugText`: the written forms.
-/

namespace ExprLang

/-- An expression. -/
inductive Expr where
  | literal (value : Value)
  | grouping (inner : Expr)
  | unary (operator : Token) (operand : Expr)
  | binary (left : Expr) (operator : Token) (right : Expr)
  deriving DecidableEq

namespace Expr

/-- The number of operators and groupings on the longest way down to a literal. -/
def height : Expr → Nat
  | .literal _ => 0
  | .grouping inner => inner.height + 1
  | .unary _ operand => operand.height + 1
  | .binary left _ right => max left.height right.height + 1

/-- Equality of trees: the same shape with equal operator tokens and equal literals. Heights are not
compared. A not-a-number is equal to itself and to no other, so that it matters which objects two
trees have in common. -/
def equal : Expr → Expr → Bool
  | .literal v, .literal w => v.equal w
  | .grouping a, .grouping b => a.equal b
  | .unary p a, .unary q b => p.equal q && a.equal b
  | .binary a p b, .binary c q d => a.equal c && p.equal q && b.equal d
  | _, _ => false

/-- Equality of trees that may be missing. -/
def equal? : Option Expr → Option Expr → Bool
  | some a, some b => a.equal b
  | none, none => true
  | _, _ => false

/-- The expression fully parenthesised, with the lexeme of its operator in front of the operands,
however high the tree is. -/
def render : Expr → String
  | .literal value => value.render
  | .grouping inner => "(group " ++ inner.render ++ ")"
  | .unary operator operand => "(" ++ operator.lexeme ++ " " ++ operand.render ++ ")"
  | .binary left operator right =>
    "(" ++ operator.lexeme ++ " " ++ left.render ++ " " ++ right.render ++ ")"

/-- The expression in constructor form. -/
def debugText : Expr → String
  | .literal value => "Literal(value=" ++ value.debugText ++ ")"
  | .grouping inner => "Grouping(expression=" ++ inner.debugText ++ ")"
  | .unary operator operand =>
    "Unary(operator=" ++ operator.debugText ++ ", right=" ++ operand.debugText ++ ")"
  | .binary left operator right =>
    "Binary(left=" ++ left.debugText ++ ", operator=" ++ operator.debugText ++
      ", right=" ++ right.debugText ++ ")"

/-- A tree that may be missing in constructor form. -/
def debugText? : Option Expr → String
  | some e => e.debugText
  | none => "None"

end Expr

end ExprLang
