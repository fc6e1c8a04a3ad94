import ExprLang.Proofs.Reparse

/-!
# Unique reading of printed expressions

The tokens that an expression is printed as determine it, and they determine where it ends in a
longer list: a parenthesis tells a node from a literal, the token behind it tells the operator, and
the closing parenthesis tells how many operands there are. So two expressions of sources are printed
alike only if they are the same but for the lines that their operators stand on.

## Main statements

* `Value.Spelled.eq_of_token_eq`: a literal is determined by its token.
* `Expr.Spelled.printed_append_inj`: an expression is determined by its tokens.
* `Expr.Spelled.render_eq_iff`: an expression is determined by its printed form.
* `render_eq_iff_of_analyse`: the expressions of sources.
-/

namespace ExprLang

variable {a b : Expr} {tokens tokens' rest rest' : List Token} {v w : Value}

/-! ### Literals -/

namespace Value.Spelled

/-- A literal is read off the token it is printed as. Only the infinity is printed as a name. -/
theorem getD_literal?_token (h : v.Spelled) :
    (Grammar.literal? v.token).getD (.number (.infinite false)) = v := by
  cases h with
  | nil => rfl
  | bool b => cases b <;> rfl
  | finite m => rfl
  | infinite => rfl

/-- A literal is determined by its token. -/
theorem eq_of_token_eq (hv : v.Spelled) (hw : w.Spelled) (same : v.token = w.token) : v = w := by
  have read := hv.getD_literal?_token
  rw [same, hw.getD_literal?_token] at read
  exact read.symm

/-- No literal is printed as a parenthesis, which all other expressions begin with. -/
theorem kind_token_ne_leftParen (h : v.Spelled) : v.token.kind ≠ .leftParen := by
  cases h with
  | nil => decide
  | bool b => cases b <;> decide
  | finite m =>
    show Kind.number ≠ .leftParen
    decide
  | infinite => decide

end Value.Spelled

/-! ### Tokens -/

/-- Two texts in parentheses agree in the first token inside and in what follows it. -/
theorem Token.enclose_cons_append_inj {p q : Token}
    (same : enclose (p :: tokens) ++ rest = enclose (q :: tokens') ++ rest') :
    p = q ∧ tokens ++ closing :: rest = tokens' ++ closing :: rest' := by
  simpa [enclose] using same

/-- No operator is printed as the word that marks a grouping is. -/
theorem Token.Spelled.ne_group {kinds : List Kind} {operator : Token} (h : operator.Spelled kinds)
    (noName : .identifier ∉ kinds) : operator.onLine 1 ≠ .group := by
  intro same
  have kind : operator.kind = .identifier := congrArg Token.kind same
  exact noName (kind ▸ h.1)

namespace Expr.Spelled

/-- A literal is not printed as anything in parentheses. -/
theorem literal_ne_enclose (h : v.Spelled) :
    (Expr.literal v).printed ++ rest ≠ Token.enclose tokens ++ rest' := by
  intro same
  have first := (List.cons.inj same).1
  exact h.kind_token_ne_leftParen (congrArg Token.kind first)

/-- No expression is printed from a closing parenthesis on. -/
theorem printed_append_ne_closing (h : a.Spelled) :
    a.printed ++ rest ≠ .closing :: rest' := by
  intro same
  have apart : ¬ BeginsWith [.rightParen] (a.printed ++ rest) := h.not_beginsWith (by decide) rest
  rw [same] at apart
  exact apart (List.mem_singleton.2 rfl)

/-- An expression is determined by its tokens, and so is what stands behind them. -/
theorem printed_append_inj (ha : a.Spelled) (hb : b.Spelled)
    (same : a.printed ++ rest = b.printed ++ rest') :
    a.onLine 1 = b.onLine 1 ∧ rest = rest' := by
  induction ha generalizing b rest rest' with
  | @literal v spelled =>
    cases hb with
    | @literal w spelled' =>
      obtain ⟨token, behind⟩ := List.cons.inj same
      obtain rfl := spelled.eq_of_token_eq spelled' token
      exact ⟨rfl, behind⟩
    | grouping | unary | binary => exact absurd same (literal_ne_enclose spelled)
  | @grouping inner spelled ih =>
    cases hb with
    | literal spelled' => exact absurd same.symm (literal_ne_enclose spelled')
    | grouping spelled' =>
      obtain ⟨-, operands⟩ := Token.enclose_cons_append_inj same
      obtain ⟨inside, behind⟩ := ih spelled' operands
      exact ⟨congrArg Expr.grouping inside, (List.cons.inj behind).2⟩
    | unary operator | binary operator =>
      obtain ⟨mark, -⟩ := Token.enclose_cons_append_inj same
      exact absurd mark.symm (operator.ne_group (by decide))
  | @unary p e operator spelled ih =>
    cases hb with
    | literal spelled' => exact absurd same.symm (literal_ne_enclose spelled')
    | grouping =>
      obtain ⟨mark, -⟩ := Token.enclose_cons_append_inj same
      exact absurd mark (operator.ne_group (by decide))
    | unary _ spelled' =>
      obtain ⟨mark, operands⟩ := Token.enclose_cons_append_inj same
      obtain ⟨inside, behind⟩ := ih spelled' operands
      exact ⟨congrArg₂ Expr.unary mark inside, (List.cons.inj behind).2⟩
    | binary _ left right =>
      -- The minus is both a unary and a binary operator. What tells them apart is the token behind
      -- the first operand.
      obtain ⟨-, operands⟩ := Token.enclose_cons_append_inj same
      rw [List.append_assoc] at operands
      obtain ⟨-, behind⟩ := ih left operands
      exact absurd behind.symm (printed_append_ne_closing right)
  | @binary l p r operator left right first second =>
    cases hb with
    | literal spelled' => exact absurd same.symm (literal_ne_enclose spelled')
    | grouping =>
      obtain ⟨mark, -⟩ := Token.enclose_cons_append_inj same
      exact absurd mark (operator.ne_group (by decide))
    | unary _ spelled' =>
      obtain ⟨-, operands⟩ := Token.enclose_cons_append_inj same
      rw [List.append_assoc] at operands
      obtain ⟨-, behind⟩ := first spelled' operands
      exact absurd behind (printed_append_ne_closing right)
    | binary _ left' right' =>
      obtain ⟨mark, operands⟩ := Token.enclose_cons_append_inj same
      rw [List.append_assoc, List.append_assoc] at operands
      obtain ⟨on_left, operands⟩ := first left' operands
      obtain ⟨on_right, behind⟩ := second right' operands
      refine ⟨?_, (List.cons.inj behind).2⟩
      rw [Expr.onLine, Expr.onLine, on_left, mark, on_right]

end Expr.Spelled

/-! ### Printed forms -/

namespace Expr

/-- The lines of operators are not printed. -/
theorem render_onLine (e : Expr) (line : Int) : (e.onLine line).render = e.render := by
  induction e with
  | literal v => rfl
  | grouping inner ih => rw [onLine, render, ih, render]
  | unary operator operand ih => rw [onLine, render, ih, render, Token.onLine]
  | binary left operator right first second =>
    rw [onLine, render, first, second, render, Token.onLine]

/-- An expression is determined by its printed form, but for the lines of its operators. -/
theorem Spelled.render_eq_iff (ha : a.Spelled) (hb : b.Spelled) :
    a.render = b.render ↔ a.onLine 1 = b.onLine 1 := by
  constructor
  · intro same
    have scanned : a.printed ++ [.endOfInput 1] = b.printed ++ [.endOfInput 1] := by
      have scans := congrArg scan same
      rw [ha.scan_render, hb.scan_render] at scans
      exact congrArg Scan.tokens scans
    exact (ha.printed_append_inj hb scanned).1
  · intro same
    rw [← a.render_onLine 1, same, b.render_onLine]

end Expr

/-- Two expressions of sources without texts are printed alike if and only if they are the same in
all but the lines of their operators: in their nodes, in the kinds and the lexemes of their
operators and in the values of their literals. -/
theorem render_eq_iff_of_analyse (source source' : String) (a b : Expr)
    (parsed : (analyse source).expr? = some a) (parsed' : (analyse source').expr? = some b)
    (noText : ∀ s, .text s ∉ a.literals) (noText' : ∀ s, .text s ∉ b.literals) :
    a.render = b.render ↔ a.onLine 1 = b.onLine 1 :=
  (spelled_of_analyse parsed noText).render_eq_iff (spelled_of_analyse parsed' noText')

/-- A difference is printed alike on one line and on several, and unlike the negation of a
negation, although all of its operators are minuses as well. -/
theorem render_eq_iff_of_analyse_minus :
    let minus (line : Int) : Token := ⟨.minus, "-", .nil, line⟩
    let one : Expr := .binary (.unary (minus 1) (.literal .nil)) (minus 1) (.literal (.bool true))
    let several : Expr :=
      .binary (.unary (minus 2) (.literal .nil)) (minus 3) (.literal (.bool true))
    let negation : Expr := .unary (minus 1) (.unary (minus 1) (.literal .nil))
    (analyse "-nil - true").expr? = some one ∧ (∀ s, .text s ∉ one.literals) ∧
    (analyse "\n-nil\n- true").expr? = some several ∧ (∀ s, .text s ∉ several.literals) ∧
    (analyse "--nil").expr? = some negation ∧ (∀ s, .text s ∉ negation.literals) ∧
    one ≠ several ∧ one.render = several.render ∧ one.render ≠ negation.render := by
  intro minus one several negation
  have parsed : (analyse "-nil - true").expr? = some one := by decide +kernel
  have parsed' : (analyse "\n-nil\n- true").expr? = some several := by decide +kernel
  have parsed'' : (analyse "--nil").expr? = some negation := by decide +kernel
  have noText : ∀ s, .text s ∉ one.literals := by simp [one, Expr.literals]
  have noText' : ∀ s, .text s ∉ several.literals := by simp [several, Expr.literals]
  have noText'' : ∀ s, .text s ∉ negation.literals := by simp [negation, Expr.literals]
  have alike := render_eq_iff_of_analyse _ _ one several parsed parsed' noText noText'
  have unlike := render_eq_iff_of_analyse _ _ one negation parsed parsed'' noText noText''
  refine ⟨parsed, noText, parsed', noText', parsed'', noText'', by decide, alike.2 rfl, ?_⟩
  intro same
  exact absurd (unlike.1 same) (by decide)

end ExprLang
