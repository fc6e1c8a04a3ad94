import ExprLang.Parser.Input

/-!
# Parsers

A parser is a cursor over an input, with the settings that govern parsing and the errors found. It
can be moved step by step: over single tokens, by the rules of the grammar, and to the boundaries of
statements.

## Main definitions

* `Parser`, `Parser.ofTokens`, `defaultLimit`.
* `Parser.peek`, `Parser.previous`, `Parser.advance`, `Parser.accept`, `Parser.expect`: tokens.
* `Parser.attempt`: one rule of the grammar at the cursor.
* `Parser.synchronize`, `Parser.resume`: boundaries of statements.
-/

namespace ExprLang

/-- How tall an expression may be unless it is said otherwise. -/
def defaultLimit : Int := 64

/-- A cursor over an input. -/
structure Parser where
  input : Input
  /-- Whether parsing goes on after an error to find further ones. -/
  recovers : Bool := true
  /-- How tall an expression may be. -/
  limit : Int := defaultLimit
  /-- How many tokens have been read. -/
  current : Nat := 0
  /-- How many unary operators and groupings the cursor is inside of. -/
  depth : Nat := 0
  errors : List GrammarError := []

namespace Parser

/-- A parser at the beginning of a list of tokens. -/
def ofTokens (tokens : List Token) (recovers : Bool) (limit : Int) : Parser :=
  { input := .ofTokens tokens, recovers := recovers, limit := limit }

/-- The tokens that have not been read. -/
def ahead (p : Parser) : List Token :=
  p.input.tokens.drop p.current

/-- The next token, which at the end is the one that ends the input. -/
def peek (p : Parser) : Token :=
  p.input.firstOf p.ahead

/-- Whether all tokens have been read. -/
def atEnd (p : Parser) : Bool :=
  p.ahead.isEmpty

/-- Whether errors have been recorded. -/
def hasErrors (p : Parser) : Bool :=
  !p.errors.isEmpty

/-- The token read last; before the first is read, the next token. -/
def previous (p : Parser) : Token :=
  if p.current = 0 then p.peek else p.input.firstOf (p.input.tokens.drop (p.current - 1))

/-- The parser with the cursor before an end piece of its tokens. -/
def moveTo (p : Parser) (rest : List Token) : Parser :=
  { p with current := p.input.position rest }

/-- Reads a token, unless all have been read. -/
def skip (p : Parser) : Parser :=
  if p.atEnd then p else { p with current := p.current + 1 }

/-- Reads a token and answers the token read last. -/
def advance (p : Parser) : Token × Parser :=
  (p.skip.previous, p.skip)

/-- Whether a token of a kind comes next; the end of the input has none. -/
def check (p : Parser) (kind : Kind) : Bool :=
  !p.atEnd && p.peek.kind = kind

/-- Reads the next token if it is of one of the kinds. -/
def accept (p : Parser) (kinds : List Kind) : Bool × Parser :=
  if kinds.any p.check then (true, p.skip) else (false, p)

/-- Reads a token that has to be of a kind. -/
def expect (p : Parser) (kind : Kind) (message : String) : Except GrammarError Token × Parser :=
  if p.check kind then (.ok p.peek, p.skip) else (.error ⟨.missing kind message, p.peek⟩, p)

/-- How much deeper unary operators and groupings may nest. -/
def room (p : Parser) : Nat :=
  (p.limit - p.depth).toNat

/-- Reads what a rule describes. The error of an attempt that fails is answered and not recorded,
and the cursor stays where the attempt ended. -/
def attempt (p : Parser) (rule : Rule) : Except GrammarError Expr × Parser :=
  match rule.read p.limit p.room p.ahead with
  | .ok (tree, rest) => (.ok tree, p.moveTo rest)
  | .error failure => (.error (p.input.report failure), p.moveTo failure.rest)

/-- How many tokens stand before the next boundary of a statement, given the token before them. -/
def beforeBoundary (previous : Token) : List Token → Nat
  | [] => 0
  | token :: behind =>
    if previous.kind.endsStatement || token.kind.startsStatement then 0
    else beforeBoundary token behind + 1

/-- Moves to the next boundary of a statement. -/
def synchronize (p : Parser) : Parser :=
  { p with current := p.current + beforeBoundary p.previous p.ahead }

/-- Whether an expression may begin at the cursor. A keyword that introduces one is read. -/
def resume (p : Parser) : Bool × Parser :=
  if p.peek.kind.introducesExpr then (true, p.skip)
  else (!p.atEnd && p.previous.kind.endsStatement && !p.peek.kind.startsStatement, p)

end Parser

end ExprLang
