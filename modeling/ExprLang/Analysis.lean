import ExprLang.Expr
import ExprLang.Lexical.Segment
import ExprLang.Parser.Parse

/-!
# Analysis of a source

The whole way from a source to its expression and to the reports about it.

## Main definitions

* `analyse`: the expression of a source and its diagnostics, the lexical ones first.
* `renderRounds`: a source, its written expression, the written expression of that, and so on.
-/

namespace ExprLang

/-- The expression of a source, if it has one, and what is to be reported about the source. -/
structure Analysis where
  expr? : Option Expr
  diagnostics : List Diagnostic
  deriving DecidableEq

namespace Analysis

/-- The written form of the expression. -/
def rendered? (analysis : Analysis) : Option String :=
  analysis.expr?.map Expr.render

end Analysis

/-- Scans and parses a source. -/
def analyse (source : String) : Analysis :=
  let scanned := scan source
  let (tree?, parser) := (Parser.ofTokens scanned.tokens true defaultLimit).parse
  ⟨tree?, scanned.errors.map LexicalError.diagnostic ++ parser.errors.map GrammarError.diagnostic⟩

/-- The analyses of a source, of its written expression, and so on for a number of rounds. It ends
with a source that has no expression. -/
def renderRounds (source : String) : Nat → List Analysis
  | 0 => []
  | rounds + 1 =>
    let analysis := analyse source
    analysis :: match analysis.rendered? with
      | none => []
      | some text => renderRounds text rounds

end ExprLang
