import ExprLang.Proofs.CorrespondingParsers
import ExprLang.Proofs.Reparse

/-!
# Respelling sources

The lexemes of a source with single blanks between them are a source for the same lexemes: none of
them runs on over a blank, and none of them needs what the source has had between them. This is a
normal form of the source, without its comments, its layout and what could not be scanned, and it
is parsed as the source is.

## Main definitions

* `respelled`: the lexemes of tokens with single blanks between them.
* `normalForm`: a source as its tokens are respelled.
* `Token.Alike`: tokens that differ in nothing but their lines.

## Main statements

* `Scan.ofSegments_respelled`: the scan of lexemes with blanks between them.
* `respelled_congr`: the line of a token does not matter.
* `scan_normalForm`: the normal form is scanned and parsed as the source is.
-/

namespace ExprLang

/-- The lexemes of tokens with single blanks between them. The end of the input is not written. -/
def respelled (tokens : List Token) : String :=
  " ".intercalate ((tokens.filter fun token => !token.isEnd).map Token.lexeme)

/-- A source as its tokens are respelled. -/
def normalForm (source : String) : String :=
  respelled (scan source).tokens

/-- Whether two tokens differ in nothing but their lines. -/
structure Token.Alike (a b : Token) : Prop where
  kind_eq : a.kind = b.kind
  lexeme_eq : a.lexeme = b.lexeme
  literal_eq : a.literal = b.literal

/-- The error with its token on a line. -/
def GrammarError.onLine (line : Int) (e : GrammarError) : GrammarError :=
  { e with token := e.token.onLine line }

variable {tokens tokens' : List Token}

/-! ### Tokens that are alike -/

namespace Token.Alike

/-- Tokens that are alike are of one kind. -/
theorem keeps_kind : KindPreserving Token.Alike :=
  fun _ _ h => h.kind_eq

theorem onLine_eq {a b : Token} (h : a.Alike b) (line : Int) : a.onLine line = b.onLine line := by
  rw [Token.onLine, Token.onLine, h.kind_eq, h.lexeme_eq, h.literal_eq]

/-- Tokens that are alike are the same literal, if they are one. -/
theorem literal?_eq {a b : Token} (h : a.Alike b) : Grammar.literal? a = Grammar.literal? b := by
  rw [Grammar.literal?, Grammar.literal?, h.kind_eq, h.literal_eq]

end Token.Alike

/-- Trees of alike tokens are the same with all operators on one line. -/
theorem Expr.Corresponds.onLine_eq {tree tree' : Expr} (h : tree.Corresponds Token.Alike tree')
    (line : Int) : tree.onLine line = tree'.onLine line := by
  induction h with
  | literal alike value value' =>
    rw [alike.literal?_eq, value'] at value
    cases value
    rfl
  | grouping _ ih => rw [onLine, onLine, ih]
  | unary operator _ ih => rw [onLine, onLine, operator.onLine_eq, ih]
  | binary _ operator _ first second =>
    rw [onLine, onLine, first, operator.onLine_eq, second]

/-- Errors about alike tokens are the same on one line. -/
theorem GrammarError.Corresponds.onLine_eq {e e' : GrammarError}
    (h : e.Corresponds Token.Alike e') (line : Int) : e.onLine line = e'.onLine line := by
  rw [onLine, onLine, h.cause_eq, h.token.onLine_eq]

/-- Trees that differ in nothing but lines, if there are trees. -/
theorem Expr.Corresponds.map_onLine_eq {tree? tree?' : Option Expr}
    (h : Option.Rel (Expr.Corresponds Token.Alike) tree? tree?') (line : Int) :
    tree?.map (Expr.onLine line) = tree?'.map (Expr.onLine line) := by
  cases h with
  | some trees => exact congrArg Option.some (trees.onLine_eq line)
  | none => rfl

theorem GrammarError.Corresponds.map_onLine_eq {errors errors' : List GrammarError}
    (h : List.Forall₂ (GrammarError.Corresponds Token.Alike) errors errors') (line : Int) :
    errors.map (GrammarError.onLine line) = errors'.map (GrammarError.onLine line) := by
  induction h with
  | nil => rfl
  | cons first _ ih => rw [List.map_cons, List.map_cons, first.onLine_eq, ih]

/-- Alike tokens are spelled out alike. -/
theorem respelled_congr (h : List.Forall₂ Token.Alike tokens tokens') :
    respelled tokens = respelled tokens' := by
  refine congrArg " ".intercalate ?_
  induction h with
  | nil => rfl
  | cons first _ ih =>
    rw [List.filter_cons, List.filter_cons, Token.Alike.keeps_kind.isEnd_eq first]
    split
    · rw [List.map_cons, List.map_cons, first.lexeme_eq, ih]
    · exact ih

/-! ### Scanning lexemes with blanks between them -/

/-- Behind the first of some lexemes there is a delimiter, and what is scanned from there on are the
others. -/
theorem exists_intercalate_eq (lexeme : String) (lexemes : List String) :
    ∃ behind, (" ".intercalate (lexeme :: lexemes)).toList = lexeme.toList ++ behind ∧
      Delimited behind ∧ ∀ line, Scan.ofSegments line (segments behind) =
        Scan.ofSegments line (segments (" ".intercalate lexemes).toList) := by
  cases lexemes with
  | nil => exact ⟨[], by simp, delimited_nil, fun _ => rfl⟩
  | cons next more =>
    refine ⟨' ' :: (" ".intercalate (next :: more)).toList, by simp, delimited_cons.2 (.inl rfl),
      fun line => ?_⟩
    rw [segments_blank]
    change Scan.ofSegments (line + 0) _ = _
    rw [Int.add_zero]

/-- Lexemes with blanks between them are scanned as these lexemes, without an error. -/
theorem Scan.ofSegments_respelled
    (lexemes : ∀ token ∈ tokens, Lexeme token.kind token.lexeme.toList token.literal)
    (line : Int) :
    ∃ tokens' last, Scan.ofSegments line
        (segments (" ".intercalate (tokens.map Token.lexeme)).toList) =
      ⟨tokens' ++ [.endOfInput last], []⟩ ∧ List.Forall₂ Token.Alike tokens tokens' := by
  induction tokens generalizing line with
  | nil =>
    refine ⟨[], line, ?_, .nil⟩
    simp [segments, Scan.ofSegments]
  | cons token rest ih =>
    rw [List.forall_mem_cons] at lexemes
    obtain ⟨lexeme, others⟩ := lexemes
    obtain ⟨behind, whole, ends, same⟩ :=
      exists_intercalate_eq token.lexeme (rest.map Token.lexeme)
    -- A text in quotes may go on over line ends, so the others begin on a line of their own.
    obtain ⟨tokens', last, scanned, alike⟩ :=
      ih others (line + (Segment.lexeme token.kind token.lexeme.toList).newlines)
    refine ⟨⟨token.kind, _, token.literal, line⟩ :: tokens', last, ?_,
      .cons ⟨rfl, (String.ofList_toList).symm, rfl⟩ alike⟩
    rw [List.map_cons, whole, segments_lexeme lexeme ends, Scan.ofSegments, same, scanned,
      Segment.token?, lexeme.value_eq]
    rfl

/-! ### The normal form -/

/-- The normal form has the tokens of the source and no lexical errors. -/
theorem exists_scan_normalForm (source : String) :
    ∃ tokens last tokens' last', (scan source).tokens = tokens ++ [.endOfInput last] ∧
      scan (normalForm source) = ⟨tokens' ++ [.endOfInput last'], []⟩ ∧
      List.Forall₂ Token.Alike tokens tokens' := by
  obtain ⟨⟨tokens, last, whole, -⟩, -⟩ := scan_denotes source
  have inside := isEnd_eq_false_of_scan whole
  have written : (scan source).tokens.filter (fun token => !token.isEnd) = tokens := by
    have kept : tokens.filter (fun token => !token.isEnd) = tokens :=
      List.filter_eq_self.2 fun token mem => congrArg (! ·) (inside token mem)
    rw [whole, List.filter_append, kept]
    exact List.append_nil tokens
  have lexemes : ∀ token ∈ tokens, Lexeme token.kind token.lexeme.toList token.literal := by
    intro token mem
    obtain ⟨text, spelled, lexeme⟩ := exists_lexeme_of_mem_scan
      (whole ▸ List.mem_append_left _ mem) (inside token mem)
    rwa [spelled, String.toList_ofList]
  obtain ⟨tokens', last', scanned, alike⟩ := Scan.ofSegments_respelled lexemes 1
  refine ⟨tokens, last, tokens', last', whole, ?_, alike⟩
  rw [scan, normalForm, respelled, written, scanned]

/-- The normal form of a source is scanned without an error, as the same kinds, lexemes and literals
and then the end of the input. It is its own normal form. However it is parsed, the tree and the
errors are those of the source, but for the lines. -/
theorem scan_normalForm (source : String) :
    (∃ tokens last tokens' last', (scan source).tokens = tokens ++ [.endOfInput last] ∧
      (∀ token ∈ tokens, token.isEnd = false) ∧
      scan (normalForm source) = ⟨tokens' ++ [.endOfInput last'], []⟩ ∧
      List.Forall₂ Token.Alike tokens tokens') ∧
    normalForm (normalForm source) = normalForm source ∧
    ∀ recovers limit,
      let p := Parser.ofTokens (scan source).tokens recovers limit
      let p' := Parser.ofTokens (scan (normalForm source)).tokens recovers limit
      p'.parse.1.map (Expr.onLine 1) = p.parse.1.map (Expr.onLine 1) ∧
      p'.parse.2.errors.map (GrammarError.onLine 1) =
        p.parse.2.errors.map (GrammarError.onLine 1) ∧
      p'.parse.2.current = p.parse.2.current ∧ p'.parse.2.depth = p.parse.2.depth := by
  obtain ⟨tokens, last, tokens', last', whole, scanned, alike⟩ := exists_scan_normalForm source
  have ends (line line' : Int) : (Token.endOfInput line).Alike (.endOfInput line') :=
    ⟨rfl, rfl, rfl⟩
  have lists : List.Forall₂ Token.Alike (scan source).tokens
      (scan (normalForm source)).tokens := by
    rw [whole, scanned]
    exact List.rel_append alike (.cons (ends last last') .nil)
  refine ⟨⟨tokens, last, tokens', last', whole, isEnd_eq_false_of_scan whole, scanned, alike⟩,
    (respelled_congr lists).symm, fun recovers limit => ?_⟩
  obtain ⟨trees, after⟩ :=
    (Parser.corresponds_ofTokens Token.Alike.keeps_kind ends lists recovers limit).parse
      Token.Alike.keeps_kind
  refine ⟨?_, ?_, after.current_eq.symm, after.depth_eq.symm⟩
  · exact (Expr.Corresponds.map_onLine_eq trees 1).symm
  · exact (GrammarError.Corresponds.map_onLine_eq after.errors 1).symm

/-- Comments, line ends and characters that begin nothing are gone, and a text in quotes is kept. -/
example : normalForm "x+// sum\n@1.50 \"a // b\"" = "x + 1.50 \"a // b\"" := by
  decide +kernel

end ExprLang
