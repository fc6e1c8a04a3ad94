import ExprLang.Value

/-!
# Tokens

A token is a kind with the text it was read from, the value of that text when it is a literal, and
the line on which the text begins.

There is one kind for every punctuation mark and every operator, one for names, texts and numbers
each, one for every reserved word, and one for the end of the input. The spellings that determine
them are tables. Some kinds tell where a statement ends or begins and where an expression follows.

## Main definitions

* `Keyword`, `Keyword.spelling`, `Keyword.ofSpelling?`: the reserved words.
* `Kind`, `Kind.name`, `Kind.all`: the kinds, in the order in which they are listed.
* `Kind.symbols`, `Kind.operators`: the marks of one character, and those that a following `=`
  lengthens.
* `Kind.ofWord`: the kind of a whole word.
* `Kind.endsStatement`, `Kind.startsStatement`, `Kind.introducesExpr`: the boundaries of statements.
* `Token`, `Token.endOfInput`.
* `Token.equal`: equality of all four parts, literals by `Value.equal`.
* `Token.listing`, `Token.debugText`, `Token.location`: a token in a list, in constructor form and
  in a message.
-/

namespace ExprLang

/-! ### Kinds -/

/-- A reserved word. -/
inductive Keyword where
  | kwAnd | kwClass | kwElse | kwFalse | kwFor | kwFun | kwIf | kwNil
  | kwOr | kwPrint | kwReturn | kwSuper | kwThis | kwTrue | kwVar | kwWhile
  deriving DecidableEq, Repr

namespace Keyword

/-- The reserved words in alphabetical order. -/
def all : List Keyword :=
  [.kwAnd, .kwClass, .kwElse, .kwFalse, .kwFor, .kwFun, .kwIf, .kwNil,
   .kwOr, .kwPrint, .kwReturn, .kwSuper, .kwThis, .kwTrue, .kwVar, .kwWhile]

/-- How a reserved word is written. -/
def spelling : Keyword → String
  | .kwAnd => "and"
  | .kwClass => "class"
  | .kwElse => "else"
  | .kwFalse => "false"
  | .kwFor => "for"
  | .kwFun => "fun"
  | .kwIf => "if"
  | .kwNil => "nil"
  | .kwOr => "or"
  | .kwPrint => "print"
  | .kwReturn => "return"
  | .kwSuper => "super"
  | .kwThis => "this"
  | .kwTrue => "true"
  | .kwVar => "var"
  | .kwWhile => "while"

/-- The reserved word with a spelling. -/
def ofSpelling? (text : String) : Option Keyword :=
  all.find? fun word => word.spelling = text

/-- No reserved word is missing from the list. -/
theorem mem_all (word : Keyword) : word ∈ all := by
  cases word <;> decide

end Keyword

/-- A kind of token. -/
inductive Kind where
  | leftParen | rightParen | leftBrace | rightBrace
  | comma | dot | minus | plus | semicolon | slash | star
  | bang | bangEqual | equal | equalEqual | greater | greaterEqual | less | lessEqual
  | identifier | string | number
  | keyword (word : Keyword)
  | endOfInput
  deriving DecidableEq, Repr

namespace Kind

/-- Every kind, in the order of listing. -/
def all : List Kind :=
  [.leftParen, .rightParen, .leftBrace, .rightBrace,
   .comma, .dot, .minus, .plus, .semicolon, .slash, .star,
   .bang, .bangEqual, .equal, .equalEqual, .greater, .greaterEqual, .less, .lessEqual,
   .identifier, .string, .number] ++ Keyword.all.map .keyword ++ [.endOfInput]

/-- No kind is missing from the list. -/
theorem mem_all (kind : Kind) : kind ∈ all := by
  cases kind with
  | keyword word => simp [all, Keyword.mem_all]
  | _ => simp [all]

/-- The name of a kind. -/
def name : Kind → String
  | .leftParen => "LEFT_PAREN"
  | .rightParen => "RIGHT_PAREN"
  | .leftBrace => "LEFT_BRACE"
  | .rightBrace => "RIGHT_BRACE"
  | .comma => "COMMA"
  | .dot => "DOT"
  | .minus => "MINUS"
  | .plus => "PLUS"
  | .semicolon => "SEMICOLON"
  | .slash => "SLASH"
  | .star => "STAR"
  | .bang => "BANG"
  | .bangEqual => "BANG_EQUAL"
  | .equal => "EQUAL"
  | .equalEqual => "EQUAL_EQUAL"
  | .greater => "GREATER"
  | .greaterEqual => "GREATER_EQUAL"
  | .less => "LESS"
  | .lessEqual => "LESS_EQUAL"
  | .identifier => "IDENTIFIER"
  | .string => "STRING"
  | .number => "NUMBER"
  | .keyword word => String.ofList (word.spelling.toList.map Char.toUpper)
  | .endOfInput => "EOF"

/-- The kind with a name. -/
def ofName? (name : String) : Option Kind :=
  all.find? fun kind => kind.name = name

/-- The names of the kinds with a property, sorted. -/
def sortedNames (property : Kind → Bool) : List String :=
  ((all.filter property).map Kind.name).mergeSort fun a b => a ≤ b

/-- The marks that are a token by themselves, whatever follows. -/
def symbols : List (Char × Kind) :=
  [('(', .leftParen), (')', .rightParen), ('{', .leftBrace), ('}', .rightBrace),
   (',', .comma), ('.', .dot), ('-', .minus), ('+', .plus), (';', .semicolon), ('*', .star)]

/-- The marks that a following `=` lengthens, with the kind of the short and of the long form. -/
def operators : List (Char × Kind × Kind) :=
  [('!', .bang, .bangEqual), ('=', .equal, .equalEqual),
   ('<', .less, .lessEqual), ('>', .greater, .greaterEqual)]

/-- The kind of a whole word: reserved words are no names. -/
def ofWord (text : String) : Kind :=
  match Keyword.ofSpelling? text with
  | some word => .keyword word
  | none => .identifier

/-- Whether the kind is a reserved word. -/
def isKeyword : Kind → Bool
  | .keyword _ => true
  | _ => false

/-- Whether the kind is that of names. -/
def isIdentifier (kind : Kind) : Bool :=
  kind = .identifier

/-- Whether a token of the kind is a literal. -/
def isLiteral : Kind → Bool
  | .number | .string | .keyword .kwTrue | .keyword .kwFalse | .keyword .kwNil => true
  | _ => false

/-- Whether a statement ends with the token. -/
def endsStatement (kind : Kind) : Bool :=
  kind = .semicolon

/-- Whether a statement begins with the token. -/
def startsStatement : Kind → Bool
  | .keyword .kwClass | .keyword .kwFun | .keyword .kwVar | .keyword .kwFor
  | .keyword .kwIf | .keyword .kwWhile | .keyword .kwPrint | .keyword .kwReturn => true
  | _ => false

/-- Whether a statement begins with the token and an expression follows it. -/
def introducesExpr : Kind → Bool
  | .keyword .kwPrint | .keyword .kwReturn => true
  | _ => false

end Kind

/-! ### Tokens -/

/-- A token. -/
structure Token where
  kind : Kind
  lexeme : String
  literal : Value
  line : Int
  deriving DecidableEq

namespace Token

/-- The token that ends an input. -/
def endOfInput (line : Int) : Token :=
  ⟨.endOfInput, "", .nil, line⟩

/-- Whether the token ends the input. -/
def isEnd (token : Token) : Bool :=
  token.kind = .endOfInput

/-- Equality of tokens, part by part. Not-a-numbers are equal when they are one object. -/
def equal (a b : Token) : Bool :=
  a.kind = b.kind && a.lexeme = b.lexeme && a.literal.equal b.literal && a.line = b.line

/-- The token as it stands in a list of tokens. -/
def listing (token : Token) : String :=
  s!"{token.kind.name} {token.lexeme} {token.literal.listing}"

/-- The token in constructor form. -/
def debugText (token : Token) : String :=
  s!"Token({token.kind.name}, {Text.quoted token.lexeme}, {token.literal.debugText}, {token.line})"

/-- Where a message says that the token stands. -/
def location (token : Token) : String :=
  if token.isEnd then " at end" else s!" at '{token.lexeme}'"

end Token

end ExprLang
