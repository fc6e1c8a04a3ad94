import ExprLang.Lexical.Error

/-!
# Segments and scans

A text falls into segments: lexemes, blanks and comments, and the pieces no rule fits. The first
segment of a text is the longest that one of the rules allows, and the segments of a text are found
by cutting off the first until nothing is left, so that no character is lost and none is used twice.

A scan turns a source into its tokens and its lexical errors. Every lexeme gives a token with the
line it begins on; a token for the end of the input comes last.

## Main definitions

* `Segment`: a piece of text and what it is.
* `Segment.first`: the first segment of a text that is not empty.
* `segments`: all segments of a text.
* `Segment.token?`, `Segment.error?`: what a segment contributes to a scan.
* `Scan`, `Scan.ofSegments`, `scan`: the tokens and the errors of segments and of a source.
-/

namespace ExprLang

/-- A piece of text. -/
inductive Segment where
  /-- The text of a token. -/
  | lexeme (kind : Kind) (text : List Char)
  /-- A blank, a line feed or a comment. -/
  | skipped (text : List Char)
  /-- A character that begins no lexeme. -/
  | unexpected (c : Char)
  /-- A quote that is never closed, with all that follows. -/
  | unclosed (text : List Char)
  deriving DecidableEq

/-- Whether a name may begin with the character: an ASCII letter or the underscore. -/
def isNameStart (c : Char) : Bool :=
  c.isAlpha || c = '_'

/-- Whether a name may go on with the character: an ASCII letter or digit or the underscore. -/
def isNamePart (c : Char) : Bool :=
  isNameStart c || c.isDigit

/-- Whether the character separates lexemes and means nothing else. -/
def isBlank (c : Char) : Bool :=
  c = ' ' || c = '\r' || c = '\t' || c = '\n'

/-- The decimal places that a text begins with: a point and at least one ASCII digit. -/
def decimalPlaces : List Char → List Char
  | '.' :: digit :: rest =>
    if digit.isDigit then '.' :: digit :: rest.takeWhile Char.isDigit else []
  | _ => []

/-- The numeral that a text begins with: ASCII digits, and decimal places if there are any. -/
def numeral (text : List Char) : List Char :=
  text.takeWhile Char.isDigit ++ decimalPlaces (text.dropWhile Char.isDigit)

/-- The number that a numeral denotes, rounded. -/
def Number.ofNumeral (text : List Char) : Number :=
  .ofDecimal false (.ofDigits (text.takeWhile Char.isDigit) (text.dropWhile Char.isDigit).tail)

/-- The value of a lexeme: a text between its quotes, or a number. -/
def Value.ofLexeme : Kind → List Char → Value
  | .string, chars => .text (String.ofList chars.tail.dropLast)
  | .number, chars => .number (.ofNumeral chars)
  | _, _ => .nil

namespace Segment

/-- The characters of a segment. -/
def text : Segment → List Char
  | .lexeme _ chars => chars
  | .skipped chars => chars
  | .unexpected c => [c]
  | .unclosed chars => chars

/-- How many lines end within a segment. -/
def newlines (segment : Segment) : Nat :=
  segment.text.count '\n'

/-- The segment that an operator mark begins. -/
def ofOperator (mark : Char) (short long : Kind) (rest : List Char) : Segment :=
  if rest.head? = some '=' then .lexeme long [mark, '='] else .lexeme short [mark]

/-- The segment that a slash begins: a comment up to the end of the line, or the slash alone. -/
def ofSlash (rest : List Char) : Segment :=
  if rest.head? = some '/' then
    .skipped ('/' :: rest.takeWhile (· ≠ '\n'))
  else
    .lexeme .slash ['/']

/-- The segment that a quote begins: everything up to the next quote. -/
def ofQuote (rest : List Char) : Segment :=
  if '"' ∈ rest then
    .lexeme .string ('"' :: rest.takeWhile (· ≠ '"') ++ ['"'])
  else
    .unclosed ('"' :: rest)

/-- The segment that the first character of a word begins. -/
def ofWord (word : List Char) : Segment :=
  .lexeme (.ofWord (String.ofList word)) word

/-- The first segment of a text. -/
def first (c : Char) (rest : List Char) : Segment :=
  match Kind.symbols.lookup c, Kind.operators.lookup c with
  | some kind, _ => .lexeme kind [c]
  | none, some (short, long) => ofOperator c short long rest
  | none, none =>
    if c = '/' then ofSlash rest
    else if isBlank c then .skipped [c]
    else if c = '"' then ofQuote rest
    else if c.isDigit then .lexeme .number (numeral (c :: rest))
    else if isNameStart c then ofWord (c :: rest.takeWhile isNamePart)
    else .unexpected c

/-- The token of a segment that begins on a line. -/
def token? (line : Int) : Segment → Option Token
  | .lexeme kind chars => some ⟨kind, String.ofList chars, .ofLexeme kind chars, line⟩
  | _ => none

/-- The fault of a segment that begins on a line. An unclosed text is noticed where it ends. -/
def error? (line : Int) : Segment → Option LexicalError
  | .unexpected c => some ⟨.unexpected c, line⟩
  | .unclosed chars => some ⟨.unclosed, line + chars.count '\n'⟩
  | _ => none

end Segment

/-- The segments of a text. -/
def segments : List Char → List Segment
  | [] => []
  | c :: rest =>
    let segment := Segment.first c rest
    segment :: segments (rest.drop (segment.text.length - 1))
termination_by text => text.length
decreasing_by
  simp only [List.length_drop, List.length_cons]
  omega

/-! ### Scans -/

/-- The tokens and the lexical errors of a source, each in the order of the source. -/
structure Scan where
  tokens : List Token
  errors : List LexicalError
  deriving DecidableEq

/-- What segments contribute, the first of which begins on a line. -/
def Scan.ofSegments (line : Int) : List Segment → Scan
  | [] => ⟨[.endOfInput line], []⟩
  | segment :: rest =>
    let behind := ofSegments (line + segment.newlines) rest
    ⟨(segment.token? line).toList ++ behind.tokens, (segment.error? line).toList ++ behind.errors⟩

/-- The tokens and the lexical errors of a source. -/
def scan (source : String) : Scan :=
  .ofSegments 1 (segments source.toList)

end ExprLang
