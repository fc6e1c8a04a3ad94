import ExprLang.Parser.Parse
import ExprLang.Proofs.Derivation

/-!
# What a parser accepts

A parser answers the tree of the derivation that its input begins with, for the tokens in front of
the first one that no operator can go on with, unless the tree is taller than the limit.

## Main statements

* `Rule.read_expression_iff`: what the rule for expressions reads.
* `Parser.parse_eq_tree_iff`: what a parser answers and where it stops.
-/

namespace ExprLang

/-- An expression is read exactly when the tokens in front derive it, no binary operator follows
them and the tree is not too tall. -/
theorem Rule.read_expression_iff {limit : Nat} {tokens rest : List Token} {tree : Expr} :
    Rule.expression.read limit limit tokens = .ok (tree, rest) ↔
      ∃ used, tokens = used ++ rest ∧ Derives .expression used tree ∧
        ¬ BeginsWith Kind.binaryOperators rest ∧ tree.height ≤ limit := by
  rw [← Rule.operators_expression]
  constructor
  · intro h
    have reads : Reads limit limit (.rule .expression) tokens _ := reads_iff.2 h
    obtain ⟨used, rfl, derives⟩ := reads.derives
    exact ⟨used, rfl, derives, reads.stops, Int.ofNat_le.1 (reads.fits (Int.natCast_nonneg _))⟩
  · rintro ⟨used, rfl, derives, stops, low⟩
    exact ((derives.reads low (Int.le_refl _)).whole rest stops).read_eq

/-- An input begins with what its tokens begin with, unless that is the end of the input. -/
theorem beginsWith_tokens_ofTokens {kinds : List Kind} (h : Kind.endOfInput ∉ kinds)
    (tokens : List Token) :
    BeginsWith kinds (Input.ofTokens tokens).tokens ↔ BeginsWith kinds tokens := by
  cases tokens with
  | nil => rfl
  | cons token rest =>
    by_cases isEnd : token.kind = .endOfInput
    · simp [Input.ofTokens, Token.isEnd, isEnd, h]
    · simp [Input.ofTokens, Token.isEnd, isEnd]

namespace Input

/-- An input is read up to the first token that ends it. -/
theorem tokens_ofTokens (tokens : List Token) :
    (ofTokens tokens).tokens = tokens.takeWhile fun token => !token.isEnd := rfl

/-- Tokens are in front of an input when none of them ends it. -/
theorem tokens_ofTokens_eq_append_iff {tokens used rest : List Token} :
    (ofTokens tokens).tokens = used ++ rest ↔
      ∃ behind, tokens = used ++ behind ∧ (∀ token ∈ used, token.isEnd = false) ∧
        (ofTokens behind).tokens = rest := by
  constructor
  · intro split
    have notEnd : ∀ token ∈ used, token.isEnd = false := fun token mem =>
      (ofTokens tokens).not_isEnd token (split ▸ List.mem_append_left rest mem)
    obtain ⟨dropped, whole⟩ := List.takeWhile_prefix (l := tokens) fun token => !token.isEnd
    have front : tokens = used ++ (rest ++ dropped) := by
      rw [← List.append_assoc, ← split]
      exact whole.symm
    refine ⟨_, front, notEnd, (List.append_right_inj used).1 ?_⟩
    rw [← split, tokens_ofTokens, tokens_ofTokens, ← List.takeWhile_append_of_pos, ← front]
    simpa using notEnd
  · rintro ⟨behind, rfl, notEnd, rfl⟩
    rw [tokens_ofTokens, tokens_ofTokens, List.takeWhile_append_of_pos]
    simpa using notEnd

end Input

/-- A list goes on with none of some kinds when the token at that index, if there is one, is of
another kind. -/
theorem not_beginsWith_drop_iff {kinds : List Kind} {tokens : List Token} {k : Nat} :
    ¬ BeginsWith kinds (tokens.drop k) ↔ ∀ token ∈ tokens[k]?, token.kind ∉ kinds := by
  rw [← List.head?_drop]
  cases tokens.drop k <;> simp

/-- What a parser answers, and where it stops, is what is read of its input. -/
theorem Parser.parse_eq_tree_iff_read {p : Parser} {tree : Expr} {k : Nat} :
    p.parse.1 = some tree ∧ p.parse.2.current = k ↔
      ∃ rest, Rule.expression.read p.limit p.limit.toNat p.input.tokens = .ok (tree, rest) ∧
        p.input.position rest = k := by
  cases read : Rule.expression.read p.limit p.limit.toNat p.input.tokens with
  | error failure => simp [parse_error read]
  | ok result =>
    obtain ⟨found, rest⟩ := result
    rw [parse_ok read]
    constructor
    · rintro ⟨same, stop⟩
      cases same
      exact ⟨rest, rfl, stop⟩
    · rintro ⟨rest, same, stop⟩
      cases same
      exact ⟨rfl, stop⟩

/-- A parser answers a tree and stops behind the first `k` tokens exactly when these derive the
tree as an expression, no binary operator follows them, and the tree is not taller than the
limit. -/
theorem Parser.parse_eq_tree_iff (tokens : List Token) (recovers : Bool) (limit : Nat)
    (tree : Expr) (k : Nat) :
    (Parser.ofTokens tokens recovers limit).parse.1 = some tree ∧
        (Parser.ofTokens tokens recovers limit).parse.2.current = k ↔
      k ≤ tokens.length ∧ (∀ token ∈ tokens.take k, token.isEnd = false) ∧
        Derives .expression (tokens.take k) tree ∧
        (∀ token ∈ tokens[k]?, token.kind ∉ Kind.binaryOperators) ∧
        tree.height ≤ limit := by
  have noEnd : Kind.endOfInput ∉ Kind.binaryOperators := by decide
  rw [parse_eq_tree_iff_read, ← not_beginsWith_drop_iff]
  change (∃ rest, Rule.expression.read limit limit (Input.ofTokens tokens).tokens = _ ∧
    (Input.ofTokens tokens).position rest = k) ↔ _
  constructor
  · -- What has been read is the front of the list up to the cursor.
    rintro ⟨rest, read, rfl⟩
    obtain ⟨used, split, derives, stops, low⟩ := Rule.read_expression_iff.1 read
    obtain ⟨behind, rfl, notEnd, rfl⟩ := Input.tokens_ofTokens_eq_append_iff.1 split
    rw [beginsWith_tokens_ofTokens noEnd] at stops
    rw [Input.position_of_eq_append split, List.take_left, List.drop_left]
    exact ⟨by simp, notEnd, derives, stops, low⟩
  · -- The front of the list is a front of the input, since no token in it ends the input.
    rintro ⟨inside, notEnd, derives, stops, low⟩
    have split : (Input.ofTokens tokens).tokens =
        tokens.take k ++ (Input.ofTokens (tokens.drop k)).tokens :=
      Input.tokens_ofTokens_eq_append_iff.2
        ⟨tokens.drop k, (List.take_append_drop k tokens).symm, notEnd, rfl⟩
    rw [← beginsWith_tokens_ofTokens noEnd] at stops
    refine ⟨_, Rule.read_expression_iff.2 ⟨_, split, derives, stops, low⟩, ?_⟩
    rw [Input.position_of_eq_append split, List.length_take, Nat.min_eq_left inside]

end ExprLang
