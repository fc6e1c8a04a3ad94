import ExprLang.Number.Text
import ExprLang.Text

/-!
# Values

What a literal can stand for: nothing, a truth value, a text, a number, or an integer of any size.
Truth values, numbers and integers are all quantities, and quantities are compared exactly, without
rounding either side. A not-a-number amounts to nothing but the object that it is: it is equal to
itself, wherever it stands, and to no other not-a-number.

Values are written out whole. In particular an integer has as many digits as it takes.

## Main definitions

* `Value`: the values.
* `Value.quantity?`: the quantity a value stands for.
* `Value.equal`: equality of values by quantity.
* `Value.render`, `Value.listing`, `Value.debugText`: a value in an expression, in a token list and
  in the constructor form.
-/

namespace ExprLang

/-- A literal value. -/
inductive Value where
  | nil
  | bool (b : Bool)
  | text (s : String)
  | number (n : Number)
  | integer (n : Int)
  deriving DecidableEq

/-- What a quantity amounts to, in ticks when it is finite. -/
inductive Quantity where
  | finite (ticks : Int)
  | infinite (negative : Bool)
  /-- Nothing, but one object is told from another. -/
  | undefined (object : Nat)
  deriving DecidableEq

namespace Number

/-- The exact amount of a number; the two zeros amount to the same. -/
def quantity : Number → Quantity
  | .finite negative m => .finite (if negative then -m.ticks else m.ticks)
  | .infinite negative => .infinite negative
  | .nan object => .undefined object

end Number

namespace Value

/-- The amount a value stands for; truth values count as one and zero. -/
def quantity? : Value → Option Quantity
  | .nil | .text _ => none
  | .bool b => some (.finite (if b then ticksPerUnit else 0))
  | .number n => some n.quantity
  | .integer n => some (.finite (n * ticksPerUnit))

/-- Equality of values as parts of tokens and trees, where an object is equal to itself whatever it
is. Two quantities are equal when they amount to the same, and two not-a-numbers when they are one
object; any other values are equal only when they are the same. -/
def equal (a b : Value) : Bool :=
  match a.quantity?, b.quantity? with
  | some p, some q => p = q
  | none, none => a = b
  | _, _ => false

/-- The value as it stands in an expression, however long that is. -/
def render : Value → String
  | .nil => "nil"
  | .bool b => if b then "true" else "false"
  | .text s => s
  | .number n => n.plain
  | .integer n => toString n

/-- The value as it stands in a list of tokens. -/
def listing : Value → String
  | .nil => "null"
  | .bool b => if b then "True" else "False"
  | .text s => s
  | .number n => n.compact
  | .integer n => toString n

/-- The value in constructor form, from which its kind can be told. -/
def debugText : Value → String
  | .nil => "None"
  | .bool b => if b then "True" else "False"
  | .text s => Text.quoted s
  | .number n => n.compact
  | .integer n => toString n

end Value

end ExprLang
