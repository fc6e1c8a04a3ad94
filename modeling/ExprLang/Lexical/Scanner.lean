import ExprLang.Lexical.Segment

/-!
# Scanning step by step

A scanner is a cursor over a text with the tokens and the errors found so far. It can be moved one
character or one segment at a time, its text can be exchanged under the cursor, and it can be run
over the whole text from the beginning.

## Main definitions

* `Scanner`, `Scanner.ofSource`.
* `Scanner.advance`, `Scanner.accept`, `Scanner.peek`, `Scanner.peekNext`: single characters.
* `Scanner.step`: the next segment.
* `Scanner.tokenize`: all segments from the beginning.
-/

namespace ExprLang

/-- A cursor over a text. The cursor may stand past the end when the text has been exchanged. -/
structure Scanner where
  source : List Char
  /-- Where the segment read last begins. -/
  start : Nat := 0
  /-- How many characters have been read. -/
  current : Nat := 0
  line : Int := 1
  /-- The line of the segment read last. -/
  startLine : Int := 1
  tokens : Array Token := #[]
  errors : Array LexicalError := #[]

/-- Why nothing could be read. -/
inductive Scanner.Failure where
  | exhausted
  | fault (e : LexicalError)
  deriving DecidableEq

namespace Scanner

/-- A scanner at the beginning of a source. -/
def ofSource (source : String) : Scanner :=
  { source := source.toList }

/-- The same scanner over another source. -/
def withSource (s : Scanner) (source : String) : Scanner :=
  { s with source := source.toList }

/-- The text that has not been read. -/
def remaining (s : Scanner) : List Char :=
  s.source.drop s.current

/-- Whether the whole text has been read. -/
def atEnd (s : Scanner) : Bool :=
  s.source.length ≤ s.current

/-- Whether errors have been recorded. -/
def hasErrors (s : Scanner) : Bool :=
  !s.errors.isEmpty

/-- The next character, or the null character past the end. -/
def peek (s : Scanner) : Char :=
  s.source[s.current]?.getD '\x00'

/-- The character after the next, or the null character past the end. -/
def peekNext (s : Scanner) : Char :=
  s.source[s.current + 1]?.getD '\x00'

/-- Reads one character; lines are not counted. -/
def advance (s : Scanner) : Except Failure Char × Scanner :=
  match s.source[s.current]? with
  | some c => (.ok c, { s with current := s.current + 1 })
  | none => (.error .exhausted, s)

/-- Reads the next character if it is the given one. -/
def accept (s : Scanner) (c : Char) : Bool × Scanner :=
  if s.source[s.current]? = some c then (true, { s with current := s.current + 1 }) else (false, s)

/-- Begins a segment at the cursor. -/
def mark (s : Scanner) : Scanner :=
  { s with start := s.current, startLine := s.line }

/-- Reads a segment and keeps its token. -/
def absorb (s : Scanner) (segment : Segment) : Scanner :=
  { s.mark with
    current := s.current + segment.text.length
    line := s.line + segment.newlines
    tokens := s.tokens ++ (segment.token? s.line).toList }

/-- Reads a segment and keeps both its token and its fault. -/
def record (s : Scanner) (segment : Segment) : Scanner :=
  { s.absorb segment with errors := s.errors ++ (segment.error? s.line).toList }

/-- Reads the next segment and answers its token. A fault is answered and not kept, but what is
faulty has been read. -/
def step (s : Scanner) : Except Failure (Option Token) × Scanner :=
  match s.remaining with
  | [] => (.error .exhausted, s.mark)
  | c :: rest =>
    let segment := Segment.first c rest
    let outcome := match segment.error? s.line with
      | some e => .error (.fault e)
      | none => .ok (segment.token? s.line)
    (outcome, s.absorb segment)

/-- Goes back to the beginning and forgets what was found. The line of the segment read last is
left as it is. -/
def restart (s : Scanner) : Scanner :=
  { s with start := 0, current := 0, line := 1, tokens := #[], errors := #[] }

/-- Reads the whole text from the beginning and adds the token for the end. -/
def tokenize (s : Scanner) : Scanner :=
  let finished := (segments s.source).foldl record s.restart
  { finished with tokens := finished.tokens.push (.endOfInput finished.line) }

end Scanner

end ExprLang
