import ExprLang.Diagnostic

/-!
# Lexical errors

The two faults a text can have: a character that begins no lexeme, and a quote that is never closed.

## Main definitions

* `LexicalError`, `LexicalError.diagnostic`.
-/

namespace ExprLang

/-- What is wrong with a piece of text. -/
inductive LexicalError.Cause where
  | unexpected (c : Char)
  | unclosed
  deriving DecidableEq

/-- A fault in the text and the line it is noticed on. -/
structure LexicalError where
  cause : LexicalError.Cause
  line : Int
  deriving DecidableEq

namespace LexicalError

namespace Cause

/-- The class of the fault. -/
def code : Cause → ErrorCode
  | .unexpected _ => .unexpectedCharacter
  | .unclosed => .unclosedText

/-- What is said about the fault. -/
def message : Cause → String
  | .unexpected _ => "Unexpected character."
  | .unclosed => "Unterminated string."

/-- The hint about the fault. A character that cannot be shown is named by its code point. -/
def help : Cause → String
  | .unexpected c =>
    if Text.isPrintable c then
      s!"The character '{c}' is not valid in Vapor source code."
    else
      let codePoint := String.ofList (Text.upperHex 4 c.toNat)
      s!"Non-printable character (Unicode: U+{codePoint}) is not allowed."
  | .unclosed => "String literals must be closed with a matching \" quote."

end Cause

/-- The report of a lexical error. -/
def diagnostic (e : LexicalError) : Diagnostic where
  line := e.line
  message := e.cause.message
  code := some e.cause.code.name
  help := some e.cause.help

end LexicalError

end ExprLang
