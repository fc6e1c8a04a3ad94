import ExprLang.Token

/-!
# Diagnostics

What is reported about a faulty source: a line, a message, the place in the line when there is a
token to name, a code for the class of fault and a hint.

## Main definitions

* `ErrorCode`: the classes of faults.
* `Diagnostic`, `Diagnostic.text`: a report and its one-line form.
* `Diagnostic.atToken`: a report about a token.
-/

namespace ExprLang

/-- A class of faults. -/
inductive ErrorCode where
  | unexpectedCharacter | unclosedText
  | unexpectedToken | missingToken | nestingTooDeep
  deriving DecidableEq, Repr

namespace ErrorCode

/-- The classes of faults in the text itself. -/
def lexical : List ErrorCode :=
  [.unexpectedCharacter, .unclosedText]

/-- The classes of faults in the order of tokens. -/
def grammatical : List ErrorCode :=
  [.unexpectedToken, .missingToken, .nestingTooDeep]

/-- The short code of a class. -/
def name : ErrorCode → String
  | .unexpectedCharacter => "L001"
  | .unclosedText => "L002"
  | .unexpectedToken => "P001"
  | .missingToken => "P002"
  | .nestingTooDeep => "P003"

/-- The description of a class. -/
def title : ErrorCode → String
  | .unexpectedCharacter => "Unexpected character"
  | .unclosedText => "Unterminated string literal"
  | .unexpectedToken => "Unexpected token"
  | .missingToken => "Expected token not found"
  | .nestingTooDeep => "Expression nested too deeply"

end ErrorCode

/-- A report. -/
structure Diagnostic where
  line : Int
  message : String
  location : String := ""
  severity : String := "error"
  code : Option String := none
  help : Option String := none
  deriving DecidableEq

namespace Diagnostic

/-- The report on one line. -/
def text (d : Diagnostic) : String :=
  s!"[line {d.line}] Error{d.location}: {d.message}"

/-- A report about a token, on its line and at its place. -/
def atToken (token : Token) (message : String) (code help : Option String) : Diagnostic where
  line := token.line
  message := message
  location := token.location
  code := code
  help := help

end Diagnostic

end ExprLang
