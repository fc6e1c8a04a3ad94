import ExprLang.Proofs.Behind

/-!
# Lookahead

What is read of some tokens depends on the tokens that are taken and on the next one. All behind it
may be exchanged.

## Main statements

* `Reads.exchange`: reading with other tokens behind the next one.
-/

namespace ExprLang

variable {kinds : List Kind} {tokens rest seen behind other : List Token} {tree : Expr}
  {outcome : Except Failure (Expr × List Token)}

/-- Only the first token tells what tokens begin with. -/
theorem beginsWith_append_of_ne_nil (some : seen ≠ []) :
    BeginsWith kinds (seen ++ behind) ↔ BeginsWith kinds seen := by
  cases seen with
  | nil => exact absurd rfl some
  | cons token more => rfl

/-- A tree that is read with something left behind is read without it as well. -/
theorem ok_eq_leaving {known : Except Failure (Expr × List Token)}
    (h : .ok (tree, rest) = leaving behind known) :
    ∃ seen, known = .ok (tree, seen) ∧ rest = seen ++ behind := by
  cases known with
  | error failure => cases h
  | ok result =>
    obtain ⟨tree', seen⟩ := result
    cases h
    exact ⟨seen, rfl, rfl⟩

/-- A failure that leaves something behind is noticed and leaves off the same tokens without it. -/
theorem error_eq_leaving {known : Except Failure (Expr × List Token)}
    {cause : GrammarError.Cause} {site : List Token}
    (h : .error ⟨cause, site, rest⟩ = leaving behind known) :
    ∃ site' seen, known = .error ⟨cause, site', seen⟩ ∧ site = site' ++ behind ∧
      rest = seen ++ behind := by
  cases known with
  | ok result => cases h
  | error failure =>
    obtain ⟨cause, site', seen⟩ := failure
    cases h
    exact ⟨site', seen, rfl, rfl, rfl⟩

/-- An outcome that leaves at least one of the tokens in front of others does not depend on these
others. -/
theorem Reads.exchange {limit : Int} {room : Nat} {task : Task}
    (h : Reads limit room task tokens outcome) (known : Except Failure (Expr × List Token))
    (split : outcome = leaving behind known) (some : remaining known ≠ []) :
    ∃ seen, seen ≠ [] ∧ tokens = seen ++ behind ∧
      ∀ other, Reads limit room task (seen ++ other) (leaving other known) := by
  -- Each way of reading looks at the next token at most. That is one of those in front of the
  -- others, since one of these is left.
  induction h generalizing known with
  | expression _ ih =>
    obtain ⟨seen, ahead, same, reads⟩ := ih _ split some
    exact ⟨seen, ahead, same, fun other => .expression (reads other)⟩
  | @operand_failed _ _ failure level _ ih =>
    obtain ⟨site, left, rfl, -, -⟩ := error_eq_leaving split
    obtain ⟨seen, ahead, same, reads⟩ := ih _ split some
    exact ⟨seen, ahead, same, fun other => .operand_failed level (reads other)⟩
  | operand_read level _ _ first second =>
    -- The chain leaves what is in front of the others, and so the first operand does as well.
    obtain ⟨middle, more, rfl, chain⟩ := second _ split some
    obtain ⟨seen, ahead, same, reads⟩ := first (.ok (_, middle)) rfl more
    exact ⟨seen, ahead, same, fun other => .operand_read level (reads other) (chain other)⟩
  | chain_done done =>
    obtain ⟨seen, rfl, same⟩ := ok_eq_leaving split
    change seen ≠ [] at some
    rw [same, beginsWith_append_of_ne_nil some] at done
    refine ⟨seen, some, same, fun other => .chain_done ?_⟩
    rwa [beginsWith_append_of_ne_nil some]
  | @chain_failed _ _ _ token _ _ operator _ ih =>
    obtain ⟨site, left, rfl, -, -⟩ := error_eq_leaving split
    obtain ⟨seen, -, rfl, reads⟩ := ih _ split some
    exact ⟨token :: seen, List.cons_ne_nil _ _, rfl,
      fun other => .chain_failed operator (reads other)⟩
  | @chain_tall _ _ _ token _ _ _ operator _ tall ih =>
    obtain ⟨site, left, rfl, at_, rfl⟩ := error_eq_leaving split
    obtain ⟨seen, -, rfl, reads⟩ := ih (.ok (_, left)) rfl some
    obtain rfl : site = token :: seen := List.append_cancel_right at_.symm
    exact ⟨token :: seen, List.cons_ne_nil _ _, rfl,
      fun other => .chain_tall operator (reads other) tall⟩
  | @chain_read _ _ _ token _ _ _ _ operator _ fits _ first second =>
    obtain ⟨middle, more, rfl, chain⟩ := second _ split some
    obtain ⟨seen, -, rfl, reads⟩ := first (.ok (_, middle)) rfl more
    exact ⟨token :: seen, List.cons_ne_nil _ _, rfl,
      fun other => .chain_read operator (reads other) fits (chain other)⟩
  | @unary_full token _ operator =>
    obtain ⟨site, left, rfl, rfl, at_⟩ := error_eq_leaving split
    obtain rfl := List.append_cancel_right at_
    exact ⟨token :: site, List.cons_ne_nil _ _, rfl, fun other => .unary_full operator⟩
  | @unary_failed _ token _ _ operator _ ih =>
    obtain ⟨site, left, rfl, -, -⟩ := error_eq_leaving split
    obtain ⟨seen, -, rfl, reads⟩ := ih _ split some
    exact ⟨token :: seen, List.cons_ne_nil _ _, rfl,
      fun other => .unary_failed operator (reads other)⟩
  | @unary_tall _ token _ _ _ operator _ tall ih =>
    obtain ⟨site, left, rfl, at_, rfl⟩ := error_eq_leaving split
    obtain ⟨seen, -, rfl, reads⟩ := ih (.ok (_, left)) rfl some
    obtain rfl : site = token :: seen := List.append_cancel_right at_.symm
    exact ⟨token :: seen, List.cons_ne_nil _ _, rfl,
      fun other => .unary_tall operator (reads other) tall⟩
  | @unary_read _ token _ _ _ operator _ fits ih =>
    obtain ⟨left, rfl, rfl⟩ := ok_eq_leaving split
    obtain ⟨seen, -, rfl, reads⟩ := ih (.ok (_, left)) rfl some
    exact ⟨token :: seen, List.cons_ne_nil _ _, rfl,
      fun other => .unary_read operator (reads other) fits⟩
  | primary plain _ ih =>
    obtain ⟨seen, ahead, rfl, reads⟩ := ih _ split some
    rw [beginsWith_append_of_ne_nil ahead] at plain
    refine ⟨seen, ahead, rfl, fun other => .primary ?_ (reads other)⟩
    rwa [beginsWith_append_of_ne_nil ahead]
  | @literal _ token _ _ value =>
    obtain ⟨left, rfl, rfl⟩ := ok_eq_leaving split
    exact ⟨token :: left, List.cons_ne_nil _ _, rfl, fun other => .literal value⟩
  | operand_missing missing =>
    obtain ⟨site, left, rfl, rfl, at_⟩ := error_eq_leaving split
    obtain rfl := List.append_cancel_right at_
    change site ≠ [] at some
    rw [beginsWith_append_of_ne_nil some] at missing
    refine ⟨site, some, rfl, fun other => .operand_missing ?_⟩
    rwa [beginsWith_append_of_ne_nil some]
  | @grouping_full token _ opening =>
    obtain ⟨site, left, rfl, rfl, at_⟩ := error_eq_leaving split
    obtain rfl := List.append_cancel_right at_
    exact ⟨token :: site, List.cons_ne_nil _ _, rfl, fun other => .grouping_full opening⟩
  | @grouping_failed _ token _ _ opening _ ih =>
    obtain ⟨site, left, rfl, -, -⟩ := error_eq_leaving split
    obtain ⟨seen, -, rfl, reads⟩ := ih _ split some
    exact ⟨token :: seen, List.cons_ne_nil _ _, rfl,
      fun other => .grouping_failed opening (reads other)⟩
  | @grouping_unclosed _ token _ _ _ opening _ open_ ih =>
    obtain ⟨site, left, rfl, rfl, at_⟩ := error_eq_leaving split
    obtain rfl := List.append_cancel_right at_
    obtain ⟨seen, -, rfl, reads⟩ := ih (.ok (_, site)) rfl some
    change site ≠ [] at some
    rw [beginsWith_append_of_ne_nil some] at open_
    refine ⟨token :: seen, List.cons_ne_nil _ _, rfl,
      fun other => .grouping_unclosed opening (reads other) ?_⟩
    rwa [beginsWith_append_of_ne_nil some]
  | @grouping_tall _ token _ _ closing _ opening _ closes tall ih =>
    obtain ⟨site, left, rfl, at_, rfl⟩ := error_eq_leaving split
    obtain rfl : site = closing :: left := List.append_cancel_right at_.symm
    obtain ⟨seen, -, rfl, reads⟩ :=
      ih (.ok (_, closing :: left)) rfl (List.cons_ne_nil _ _)
    exact ⟨token :: seen, List.cons_ne_nil _ _, rfl,
      fun other => .grouping_tall opening (reads other) closes tall⟩
  | @grouping_read _ token _ _ closing _ opening _ closes fits ih =>
    obtain ⟨left, rfl, rfl⟩ := ok_eq_leaving split
    obtain ⟨seen, -, rfl, reads⟩ :=
      ih (.ok (_, closing :: left)) rfl (List.cons_ne_nil _ _)
    exact ⟨token :: seen, List.cons_ne_nil _ _, rfl,
      fun other => .grouping_read opening (reads other) closes fits⟩

end ExprLang
