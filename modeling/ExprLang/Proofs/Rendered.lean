import ExprLang.Proofs.Derivation
import ExprLang.Proofs.NumberText

/-!
# Scanning printed expressions

An expression that is written as sources are, without texts in quotes, is printed on one line and
without a lexical fault: its tokens are parentheses, its own operators and literals, the word that
marks a grouping, and the word that an infinity is printed as.

## Main definitions

* `Value.token`, `Expr.printed`: the tokens of printed values and expressions.
* `Value.Spelled`, `Token.Spelled`, `Expr.Spelled`: what is written as sources are.

## Main statements

* `Derives.spelled`: the expressions of sources.
* `Expr.Spelled.scan_render`: the scan of a printed expression.
-/

namespace ExprLang

/-! ### Printed tokens -/

/-- The token that a value is printed as. -/
def Value.token : Value → Token
  | .nil => ⟨.keyword .kwNil, "nil", .nil, 1⟩
  | .bool true => ⟨.keyword .kwTrue, "true", .nil, 1⟩
  | .bool false => ⟨.keyword .kwFalse, "false", .nil, 1⟩
  | .number (.finite negative m) =>
    ⟨.number, Number.plain (.finite negative m), .number (.finite negative m), 1⟩
  | value => ⟨.identifier, value.render, .nil, 1⟩

/-- The token on another line. -/
def Token.onLine (token : Token) (line : Int) : Token :=
  { token with line := line }

/-- The token of the word that marks a grouping. -/
def Token.group : Token :=
  ⟨.identifier, "group", .nil, 1⟩

namespace Expr

/-- The tokens that an expression is printed as. -/
def printed : Expr → List Token
  | .literal value => [value.token]
  | .grouping inner => Token.enclose (.group :: inner.printed)
  | .unary operator operand => Token.enclose (operator.onLine 1 :: operand.printed)
  | .binary left operator right =>
    Token.enclose (operator.onLine 1 :: (left.printed ++ right.printed))

/-- The values of the literals of an expression. -/
def literals : Expr → List Value
  | .literal value => [value]
  | .grouping inner => inner.literals
  | .unary _ operand => operand.literals
  | .binary left _ right => left.literals ++ right.literals

end Expr

/-! ### Expressions of sources -/

/-- Whether a value can be that of a literal that is not in quotes. -/
inductive Value.Spelled : Value → Prop where
  | nil : Spelled .nil
  | bool (b : Bool) : Spelled (.bool b)
  | finite (m : Magnitude) : Spelled (.number (.finite false m))
  | infinite : Spelled (.number (.infinite false))

/-- Whether a token is of one of the kinds and its text is a lexeme of its kind. -/
def Token.Spelled (kinds : List Kind) (token : Token) : Prop :=
  token.kind ∈ kinds ∧ Lexeme token.kind token.lexeme.toList token.literal

/-- Whether an expression can be that of a source, and has no texts. -/
inductive Expr.Spelled : Expr → Prop where
  | literal {value} : value.Spelled → Spelled (.literal value)
  | grouping {inner} : Spelled inner → Spelled (.grouping inner)
  | unary {operator operand} :
      operator.Spelled Grammar.unaryOperators → Spelled operand →
      Spelled (.unary operator operand)
  | binary {left operator right} :
      operator.Spelled Kind.binaryOperators → Spelled left → Spelled right →
      Spelled (.binary left operator right)

/-- What is in quotes stands for a text. -/
theorem Lexeme.exists_text {text : List Char} {value : Value} (h : Lexeme .string text value) :
    ∃ s, value = .text s := by
  cases h with
  | symbol mem => exact absurd (by decide) (Kind.symbols_apart mem)
  | short mem => exact absurd (by decide) (Kind.operators_apart mem).1
  | long mem => exact absurd (by decide) (Kind.operators_apart mem).2
  | string _ => exact ⟨_, rfl⟩

/-- The expression that lexemes make up, if there is no text among them. -/
theorem Derives.spelled {r : Rule} {used : List Token} {tree : Expr} (h : Derives r used tree)
    (lexemes : ∀ token ∈ used, Lexeme token.kind token.lexeme.toList token.literal)
    (noText : ∀ s, .text s ∉ tree.literals) : tree.Spelled := by
  induction h with
  | expression _ ih | operand _ _ ih | primary _ ih => exact ih lexemes noText
  | @binary left operator right _ _ level _ joins _ first second =>
    rw [Expr.literals] at noText
    simp only [List.mem_append, not_or] at noText
    refine .binary ⟨?_, lexemes operator (by simp)⟩ ?_ ?_
    · -- The operators of each level are operators of expressions.
      have mem := Level.joins_iff.1 joins
      revert mem
      generalize operator.kind = kind
      revert kind
      cases level <;> decide
    · exact first (fun token mem => lexemes token (by simp [mem])) fun s => (noText s).1
    · exact second (fun token mem => lexemes token (by simp [mem])) fun s => (noText s).2
  | @unary operator _ _ kind _ ih =>
    refine .unary ⟨Grammar.mem_unaryOperators.2 kind, lexemes operator (by simp)⟩ ?_
    exact ih (fun token mem => lexemes token (by simp [mem])) noText
  | @number token kind =>
    have lexeme := lexemes token (by simp)
    rw [kind] at lexeme
    -- A numeral stands for a magnitude or, when it is too large, for the infinity.
    rcases lexeme.of_number.2 with infinite | ⟨m, finite⟩
    · rw [infinite]
      exact .literal .infinite
    · rw [finite]
      exact .literal (.finite m)
  | @string token kind =>
    have lexeme := lexemes token (by simp)
    rw [kind] at lexeme
    obtain ⟨s, text⟩ := lexeme.exists_text
    exact absurd (List.mem_singleton.2 text.symm) (noText s)
  | true => exact .literal (.bool .true)
  | false => exact .literal (.bool .false)
  | nil => exact .literal .nil
  | grouping _ _ _ ih =>
    exact .grouping (ih (fun token mem => lexemes token (by simp [mem])) noText)

/-! ### The printed text -/

theorem lexeme_group : Lexeme .identifier ['g', 'r', 'o', 'u', 'p'] .nil :=
  .identifier (by decide) (List.all_eq_true.1 (by decide)) fun word => by cases word <;> decide

/-- The word that an infinity is printed as is a name like any other. -/
theorem lexeme_inf : Lexeme .identifier ['i', 'n', 'f'] .nil :=
  .identifier (by decide) (List.all_eq_true.1 (by decide)) fun word => by cases word <;> decide

/-- A printed value is scanned as its token. -/
theorem Value.Spelled.scansAs {value : Value} (h : value.Spelled) :
    ScansAs value.render.toList [value.token] := by
  cases h with
  | nil => exact .lexeme (.reserved .kwNil) (by decide)
  | bool b =>
    cases b
    · exact .lexeme (.reserved .kwFalse) (by decide)
    · exact .lexeme (.reserved .kwTrue) (by decide)
  | finite m =>
    have scans := ScansAs.lexeme (Number.lexeme_plain m) (by decide)
    rw [String.ofList_toList] at scans
    exact scans
  | infinite => exact .lexeme lexeme_inf (by decide)

/-- A printed operator is scanned as the operator on the first line. -/
theorem Token.Spelled.scansAs {kinds : List Kind} {token : Token} (h : token.Spelled kinds)
    (noText : .string ∉ kinds) : ScansAs token.lexeme.toList [token.onLine 1] := by
  have scans := ScansAs.lexeme h.2 fun text => noText (text ▸ h.1)
  rwa [String.ofList_toList] at scans

theorem Token.scansAs_group : ScansAs "group".toList [.group] :=
  .lexeme lexeme_group (by decide)

namespace Expr.Spelled

/-- The tokens of a printed expression, whatever delimiter follows. -/
theorem scansAs {tree : Expr} (h : tree.Spelled) : ScansAs tree.render.toList tree.printed := by
  induction h with
  | literal value => exact value.scansAs
  | grouping _ ih =>
    have scans := (Token.scansAs_group.spaced ih).enclosed
    simpa [render, printed] using scans
  | unary operator _ ih =>
    have scans := ((operator.scansAs (by decide)).spaced ih).enclosed
    simpa [render, printed] using scans
  | binary operator _ _ first second =>
    have scans := ((operator.scansAs (by decide)).spaced (first.spaced second)).enclosed
    simpa [render, printed] using scans

/-- The scan of a printed expression. -/
theorem scan_render {tree : Expr} (h : tree.Spelled) :
    scan tree.render = ⟨tree.printed ++ [.endOfInput 1], []⟩ := by
  have scanned := h.scansAs.scan_eq
  rwa [String.ofList_toList] at scanned

end Expr.Spelled

end ExprLang
