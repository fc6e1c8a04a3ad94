import ExprLang.Diagnostic

/-!
# Grammar errors

The faults an order of tokens can have: a token where an operand should begin, a token missing, and
an expression taller than is allowed. Each is tied to the token it is noticed at.

## Main definitions

* `GrammarError`, `GrammarError.diagnostic`, `GrammarError.expected?`.
-/

namespace ExprLang

/-- What is wrong with an order of tokens. -/
inductive GrammarError.Cause where
  | operandExpected
  | missing (expected : Kind) (message : String)
  | tooDeep (limit : Int)
  deriving DecidableEq

/-- A fault in the order of tokens and the token it is noticed at. -/
structure GrammarError where
  cause : GrammarError.Cause
  token : Token
  deriving DecidableEq

namespace GrammarError

namespace Cause

/-- The class of the fault. -/
def code : Cause → ErrorCode
  | .operandExpected => .unexpectedToken
  | .missing _ _ => .missingToken
  | .tooDeep _ => .nestingTooDeep

/-- What is said about the fault. -/
def message : Cause → String
  | .operandExpected => "Expect expression."
  | .missing _ message => message
  | .tooDeep _ => "Expression nested too deeply."

/-- How a hint names a missing token: the closing parenthesis by its mark. -/
def display (expected : Kind) : String :=
  if expected = .rightParen then "')'" else expected.name

/-- The hint about the fault, given the kind of the token it is noticed at. -/
def help (found : Kind) : Cause → String
  | .operandExpected => s!"Found {found.name} where an expression should start."
  | .missing expected _ => s!"Add {display expected} before {found.name}."
  | .tooDeep limit => s!"Expressions may be at most {limit} operators or groupings deep."

end Cause

/-- The kind of token that was missing. -/
def expected? (e : GrammarError) : Option Kind :=
  match e.cause with
  | .missing expected _ => some expected
  | _ => none

/-- The report of a grammar error. -/
def diagnostic (e : GrammarError) : Diagnostic :=
  .atToken e.token e.cause.message (some e.cause.code.name) (some (e.cause.help e.token.kind))

end GrammarError

end ExprLang
