import ExprLang.Proofs.CorrespondingParsers
import ExprLang.Proofs.TokenIndices
import ExprLang.Proofs.WithoutRecovery

/-!
# Tokens of the same kinds

Nothing but the kinds of the tokens steers a parser. Two lists of the same kinds are parsed alike,
whatever the texts, values and lines of their tokens are. The cursors stop at one index, faults are
noticed at the same indices, and two trees have one shape, with every literal and every operator of
one tree from the index that the other tree has it from.

## Main definitions

* `Expr.ReadAlike`: trees of one shape, read from the same indices of two lists.

## Main statements

* `attempts_corresponds`, `Parser.Corresponds.sites_eq`: the attempts on corresponding tokens, and
  where faults are noticed.
* `Derives.unique`: tokens derive one tree.
* `Derives.readAlike`: tokens of the same kinds derive trees that are read alike.
* `Parser.parse_of_kinds_eq`: parsing two lists of the same kinds.
-/

namespace ExprLang

/-! ### Attempts on corresponding tokens -/

section

variable {R : Token → Token → Prop} {tokens tokens' : List Token}

/-- A search looks at kinds only, so it ends at the same index. -/
theorem resumeBehind_corresponds (same : KindPreserving R) (ended : Bool)
    (lists : List.Forall₂ R tokens tokens') :
    Option.Rel (List.Forall₂ R) (resumeBehind ended tokens) (resumeBehind ended tokens') := by
  induction lists generalizing ended with
  | nil => exact .none
  | cons first rest ih =>
    rw [resumeBehind, resumeBehind, same _ _ first]
    split
    · exact .some (.cons first rest)
    · split
      · exact .some rest
      · exact ih _

/-- A search that discards a token first looks at kinds only as well. -/
theorem resumePast_corresponds (same : KindPreserving R) (lists : List.Forall₂ R tokens tokens') :
    Option.Rel (List.Forall₂ R) (resumePast tokens) (resumePast tokens') := by
  cases lists with
  | nil => exact .none
  | cons first rest =>
    rw [resumePast, resumePast, same _ _ first]
    exact resumeBehind_corresponds same _ rest

/-- The next attempt is at the same index. -/
theorem nextAttempt_corresponds (same : KindPreserving R) (limit : Int)
    (lists : List.Forall₂ R tokens tokens') :
    Option.Rel (List.Forall₂ R) (nextAttempt limit tokens) (nextAttempt limit tokens') := by
  have agree := Rule.expression.corresponds_read same limit limit.toNat lists
  rw [nextAttempt, nextAttempt]
  revert agree
  generalize Rule.expression.read limit limit.toNat tokens = outcome
  generalize Rule.expression.read limit limit.toNat tokens' = outcome'
  rintro (⟨-, rest⟩ | fault)
  · exact resumeBehind_corresponds same false rest
  · exact resumePast_corresponds same fault.rest

/-- On corresponding tokens the same attempts are made. -/
theorem attempts_corresponds (same : KindPreserving R) (limit : Int)
    (lists : List.Forall₂ R tokens tokens') :
    List.Forall₂ (List.Forall₂ R) (attempts limit tokens) (attempts limit tokens') := by
  induction tokens using attempts.induct limit generalizing tokens' with
  | case1 tokens ih =>
    have following := nextAttempt_corresponds same limit lists
    rw [attempts_eq, attempts_eq]
    refine .cons lists ?_
    generalize next : nextAttempt limit tokens = next? at following ⊢
    generalize nextAttempt limit tokens' = next?' at following ⊢
    cases following with
    | none => exact .nil
    | some behind => exact ih _ next behind

/-- Attempts fail alike. -/
theorem fault?_corresponds (same : KindPreserving R) (limit : Int)
    (lists : List.Forall₂ R tokens tokens') :
    Option.Rel (Failure.Corresponds R) (fault? limit tokens) (fault? limit tokens') := by
  have agree := Rule.expression.corresponds_read same limit limit.toNat lists
  rw [fault?, fault?]
  revert agree
  generalize Rule.expression.read limit limit.toNat tokens = outcome
  generalize Rule.expression.read limit limit.toNat tokens' = outcome'
  rintro (_ | fault)
  · exact .none
  · exact .some fault

namespace Parser.Corresponds

variable {p p' : Parser}

/-- Corresponding parsers notice corresponding faults. -/
theorem faults (same : KindPreserving R) (h : p.Corresponds R p') :
    List.Forall₂ (Failure.Corresponds R) p.faults p'.faults := by
  have first := fault?_corresponds same p.limit h.tokens
  have made := attempts_corresponds same p.limit h.tokens
  rw [faults_eq, faults_eq, ← h.limit_eq, ← h.recovers_eq]
  generalize fault? p.limit p.input.tokens = fault at first ⊢
  generalize fault? p.limit p'.input.tokens = fault' at first ⊢
  cases first with
  | none => exact .nil
  | some fault =>
    cases p.recovers with
    | false => exact .cons fault .nil
    | true =>
      exact List.rel_filterMap (fun _ _ lists => fault?_corresponds same p.limit lists) made

/-- Corresponding parsers notice the same at the same indices. -/
theorem sites_eq (same : KindPreserving R) (h : p.Corresponds R p') : p.sites = p'.sites := by
  have lists := h.faults same
  rw [sites, sites]
  generalize p.faults = faults at lists ⊢
  generalize p'.faults = faults' at lists ⊢
  induction lists with
  | nil => rfl
  | cons fault _ ih =>
    rw [List.map_cons, List.map_cons, ih, fault.cause_eq, Input.siteIndex, Input.siteIndex,
      Input.position, Input.position, h.tokens.length_eq, fault.site.length_eq]

end Parser.Corresponds

end

/-! ### Trees read alike -/

/-- Whether two trees have the same shape and are read from two lists between the same indices,
with the literals and the operators at the same places from tokens at the same index. -/
inductive Expr.ReadAlike (tokens tokens' : List Token) : Nat → Nat → Expr → Expr → Prop where
  | literal {i a b v w} :
      tokens[i]? = some a → tokens'[i]? = some b →
      Grammar.literal? a = some v → Grammar.literal? b = some w →
      ReadAlike tokens tokens' i (i + 1) (.literal v) (.literal w)
  | grouping {i j inner inner'} :
      ReadAlike tokens tokens' (i + 1) j inner inner' →
      ReadAlike tokens tokens' i (j + 1) (.grouping inner) (.grouping inner')
  | unary {i j operator operator' operand operand'} :
      tokens[i]? = some operator → tokens'[i]? = some operator' →
      ReadAlike tokens tokens' (i + 1) j operand operand' →
      ReadAlike tokens tokens' i j (.unary operator operand) (.unary operator' operand')
  | binary {i j k operator operator' left left' right right'} :
      ReadAlike tokens tokens' i k left left' →
      tokens[k]? = some operator → tokens'[k]? = some operator' →
      ReadAlike tokens tokens' (k + 1) j right right' →
      ReadAlike tokens tokens' i j (.binary left operator right) (.binary left' operator' right')

section

variable {tokens tokens' used used' : List Token} {tree tree' : Expr} {r : Rule} {i j : Nat}

/-- Trees that are read alike are of one height. -/
theorem Expr.ReadAlike.height_eq (h : tree.ReadAlike tokens tokens' i j tree') :
    tree.height = tree'.height := by
  induction h with
  | literal => rfl
  | grouping _ ih | unary _ _ _ ih => rw [height, height, ih]
  | binary _ _ _ _ first second => rw [height, height, first, second]

/-- Tokens derive one tree. -/
theorem Derives.unique (h : Derives r used tree) (h' : Derives r used tree') : tree = tree' := by
  have read {tree : Expr} (h : Derives r used tree) {n : Nat} (low : tree.height ≤ n) :
      r.read n n used = .ok (tree, []) := by
    have whole := (h.reads low (Int.le_refl n)).whole [] (beginsWith_nil _)
    rw [List.append_nil] at whole
    exact whole.read_eq
  have first := read h (Nat.le_max_left tree.height tree'.height)
  rw [read h' (Nat.le_max_right tree.height tree'.height)] at first
  cases first
  rfl

/-! ### Tokens of the same kinds -/

theorem drop_add_of_drop_eq_append {rest : List Token} (h : tokens.drop i = used ++ rest) :
    tokens.drop (i + used.length) = rest := by
  rw [← List.drop_drop, h, List.drop_left]

theorem getElem?_of_drop_eq_cons {token : Token} {rest : List Token}
    (h : tokens.drop i = token :: rest) : tokens[i]? = some token := by
  rw [← List.head?_drop, h, List.head?_cons]

theorem drop_succ_of_drop_eq_cons {token : Token} {rest : List Token}
    (h : tokens.drop i = token :: rest) : tokens.drop (i + 1) = rest := by
  rw [← List.drop_drop, h, List.drop_succ_cons, List.drop_zero]

theorem length_eq_of_kinds_eq (kinds : used.map Token.kind = used'.map Token.kind) :
    used.length = used'.length := by
  simpa only [List.length_map] using congrArg List.length kinds

/-- A token of the kind of a literal is read as one. -/
theorem exists_literal_readAlike {token : Token} {value : Value} {rest rest' : List Token}
    (h : Grammar.literal? token = some value)
    (kinds : [token].map Token.kind = used'.map Token.kind)
    (here : tokens.drop i = [token] ++ rest) (there : tokens'.drop i = used' ++ rest') :
    ∃ tree', Derives .primary used' tree' ∧
      (Expr.literal value).ReadAlike tokens tokens' i (i + [token].length) tree' := by
  obtain ⟨token', behind, rfl, kind, none⟩ := List.map_eq_cons_iff.1 kinds.symm
  obtain rfl := List.map_eq_nil_iff.1 none
  have same : KindPreserving fun a b => a.kind = b.kind := fun _ _ kind => kind
  obtain ⟨value', h'⟩ := same.exists_literal? kind.symm h
  exact ⟨.literal value', .literal h',
    .literal (getElem?_of_drop_eq_cons here) (getElem?_of_drop_eq_cons there) h h'⟩

/-- Tokens of the same kinds derive trees that are read alike. -/
theorem Derives.readAlike (h : Derives r used tree) (kinds : used.map Token.kind =
    used'.map Token.kind) {rest rest' : List Token} (here : tokens.drop i = used ++ rest)
    (there : tokens'.drop i = used' ++ rest') :
    ∃ tree', Derives r used' tree' ∧
      tree.ReadAlike tokens tokens' i (i + used.length) tree' := by
  -- The other tokens are cut where the kinds are, so each part of one list has its counterpart at
  -- the same indices of the other.
  induction h generalizing used' i rest rest' with
  | expression _ ih =>
    obtain ⟨tree', derives, alike⟩ := ih kinds here there
    exact ⟨tree', .expression derives, alike⟩
  | operand level _ ih =>
    obtain ⟨tree', derives, alike⟩ := ih kinds here there
    exact ⟨tree', .operand level derives, alike⟩
  | @binary left operator right _ _ level _ joins _ first second =>
    rw [List.map_append, List.map_cons] at kinds
    obtain ⟨left', _, rfl, lefts, tail⟩ := List.map_eq_append_iff.1 kinds.symm
    obtain ⟨operator', right', rfl, kind, rights⟩ := List.map_eq_cons_iff.1 tail
    rw [List.append_assoc, List.cons_append] at here there
    obtain ⟨leftTree, derives, alike⟩ := first lefts.symm here there
    -- Both left operands end at one index, where the operators stand.
    have front := drop_add_of_drop_eq_append here
    have front' := drop_add_of_drop_eq_append there
    rw [length_eq_of_kinds_eq lefts] at front'
    obtain ⟨rightTree, derives', alike'⟩ := second rights.symm
      (drop_succ_of_drop_eq_cons front) (drop_succ_of_drop_eq_cons front')
    have stop : i + (left ++ operator :: right).length = i + left.length + 1 + right.length := by
      rw [List.length_append, List.length_cons]
      omega
    rw [stop]
    exact ⟨.binary leftTree operator' rightTree, .binary level derives (kind ▸ joins) derives',
      .binary alike (getElem?_of_drop_eq_cons front) (getElem?_of_drop_eq_cons front') alike'⟩
  | @unary operator used _ mark _ ih =>
    obtain ⟨operator', behind, rfl, kind, inner⟩ := List.map_eq_cons_iff.1 kinds.symm
    obtain ⟨tree', derives, alike⟩ := ih inner.symm
      (drop_succ_of_drop_eq_cons here) (drop_succ_of_drop_eq_cons there)
    have stop : i + (operator :: used).length = i + 1 + used.length := by
      rw [List.length_cons]
      omega
    rw [stop]
    exact ⟨.unary operator' tree', .unary (kind ▸ mark) derives,
      .unary (getElem?_of_drop_eq_cons here) (getElem?_of_drop_eq_cons there) alike⟩
  | primary _ ih =>
    obtain ⟨tree', derives, alike⟩ := ih kinds here there
    exact ⟨tree', .primary derives, alike⟩
  | number kind | string kind | true kind | false kind | nil kind =>
    exact exists_literal_readAlike (by simp [Grammar.literal?, kind]) kinds here there
  | @grouping opening used _ closing opens _ closes ih =>
    obtain ⟨opening', _, rfl, kind, tail⟩ := List.map_eq_cons_iff.1 kinds.symm
    rw [List.map_append] at tail
    obtain ⟨used', _, rfl, inner, last⟩ := List.map_eq_append_iff.1 tail
    obtain ⟨closing', none, rfl, kind', empty⟩ := List.map_eq_cons_iff.1 last
    obtain rfl := List.map_eq_nil_iff.1 empty
    rw [List.cons_append, List.append_assoc] at here there
    obtain ⟨tree', derives, alike⟩ := ih inner.symm
      (drop_succ_of_drop_eq_cons here) (drop_succ_of_drop_eq_cons there)
    have stop : i + (opening :: (used ++ [closing])).length = i + 1 + used.length + 1 := by
      rw [List.length_cons, List.length_append, List.length_singleton]
      omega
    rw [stop]
    exact ⟨.grouping tree', .grouping (kind.trans opens) derives (kind'.trans closes),
      .grouping alike⟩

end

namespace Parser

/-- Two lists of tokens of the same kinds are parsed alike. Either both have a tree, or neither has.
The cursors stop at one index. Trees have one shape and height, and their literals and operators are
from the same indices. Errors agree one by one in what is wrong and in the index of the token that
they are about. -/
theorem parse_of_kinds_eq (tokens tokens' : List Token)
    (kinds : tokens.map Token.kind = tokens'.map Token.kind) (recovers : Bool) (limit : Int) :
    let p := ofTokens tokens recovers limit
    let p' := ofTokens tokens' recovers limit
    p.parse.2.current = p'.parse.2.current ∧ p.parse.2.depth = p'.parse.2.depth ∧
    ((∃ tree tree', p.parse.1 = some tree ∧ p'.parse.1 = some tree' ∧
        tree.ReadAlike tokens tokens' 0 p.parse.2.current tree' ∧ tree.height = tree'.height ∧
        p.sites = []) ∨
      p.parse.1 = none ∧ p'.parse.1 = none ∧ p.sites ≠ []) ∧
    p.sites = p'.sites ∧
    p.parse.2.errors = p.sites.map (errorAt tokens) ∧
    p'.parse.2.errors = p.sites.map (errorAt tokens') := by
  intro p p'
  have same : KindPreserving fun a b => a.kind = b.kind := fun _ _ kind => kind
  -- Equal kinds make the lists correspond token by token, and all that follows is about that.
  have lists : List.Forall₂ (fun a b => a.kind = b.kind) tokens tokens' := by
    have equal : List.Forall₂ (· = ·) (tokens.map Token.kind) (tokens'.map Token.kind) := by
      rw [List.forall₂_eq_eq_eq]
      exact kinds
    exact List.forall₂_map_left_iff.1 (List.forall₂_map_right_iff.1 equal)
  have alike : p.Corresponds _ p' := corresponds_ofTokens same (fun _ _ => rfl) lists recovers limit
  obtain ⟨trees, after⟩ := alike.parse same
  have sites := alike.sites_eq same
  have errors : p.parse.2.errors = p.sites.map (errorAt tokens) := errors_parse_sites rfl
  have errors' : p'.parse.2.errors = p'.sites.map (errorAt tokens') := errors_parse_sites rfl
  have missing := p.parse_fst_eq_none_iff
  rw [errors, Ne, List.map_eq_nil_iff] at missing
  refine ⟨after.current_eq, after.depth_eq, ?_, sites, errors, sites ▸ errors'⟩
  cases answer : p.parse.1 with
  | none =>
    rw [answer] at trees
    cases answer' : p'.parse.1 with
    | none => exact .inr ⟨rfl, rfl, missing.1 answer⟩
    | some tree' =>
      rw [answer'] at trees
      cases trees
  | some tree =>
    rw [answer] at trees missing
    cases answer' : p'.parse.1 with
    | none =>
      rw [answer'] at trees
      cases trees
    | some tree' =>
      have clean : p.sites = [] := by
        by_contra some
        cases missing.2 some
      obtain ⟨used, behind, whole, derives, current⟩ := derives_of_parse rfl answer
      obtain ⟨used', behind', whole', derives', current'⟩ := derives_of_parse rfl answer'
      have length : used.length = used'.length := by
        rw [← current, ← current', after.current_eq]
      rw [whole, whole', List.map_append, List.map_append] at kinds
      have front := List.append_inj_left kinds (by rw [List.length_map, List.length_map, length])
      -- The other tokens derive a tree that is read alike, and they derive one tree only.
      obtain ⟨found, again, read⟩ := derives.readAlike (i := 0) front whole whole'
      obtain rfl := again.unique derives'
      rw [Nat.zero_add, ← current] at read
      exact .inl ⟨tree, found, rfl, rfl, read, read.height_eq, clean⟩

/-- A product lacks its right operand in both lists. The tokens have hardly anything but their kinds
in common, and the errors are about the third one of either list. -/
theorem parse_of_kinds_eq_product :
    let tokens : List Token := [⟨.number, "2", .integer 2, 1⟩, ⟨.star, "*", .nil, 1⟩,
      ⟨.semicolon, ";", .nil, 1⟩]
    let tokens' : List Token := [⟨.number, "two", .text "two", 9⟩, ⟨.star, "", .bool true, 4⟩,
      ⟨.semicolon, "print", .nil, 7⟩]
    let p := ofTokens tokens true defaultLimit
    let p' := ofTokens tokens' true defaultLimit
    tokens.map Token.kind = tokens'.map Token.kind ∧ p.sites = [⟨.operandExpected, 2⟩] ∧
      p.parse.2.current = p'.parse.2.current ∧
      p'.parse.2.errors = [⟨.operandExpected, ⟨.semicolon, "print", .nil, 7⟩⟩] := by
  intro tokens tokens' p p'
  have kinds : tokens.map Token.kind = tokens'.map Token.kind := rfl
  have sites : p.sites = [⟨.operandExpected, 2⟩] := by decide +kernel
  obtain ⟨current, -, -, -, -, errors'⟩ := parse_of_kinds_eq tokens tokens' kinds true defaultLimit
  exact ⟨kinds, sites, current, errors'.trans (congrArg (List.map (errorAt tokens')) sites)⟩

end Parser

end ExprLang
