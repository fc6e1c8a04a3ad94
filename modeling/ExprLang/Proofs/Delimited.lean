import ExprLang.Proofs.LongestMatch

/-!
# Lexemes in front of a delimiter

A lexeme that is followed by a blank, by a closing parenthesis or by nothing is scanned as it
stands, since none of them can make it longer. So a text that is put together from lexemes with
blanks between them and parentheses around them is scanned as these lexemes in a row.

## Main definitions

* `Delimited`: texts that no lexeme runs on into.
* `Token.enclose`: parentheses around tokens.
* `ScansAs`: texts on one line that contribute the given tokens to a scan.

## Main statements

* `Segment.first_lexeme`: a lexeme in front of a delimiter is the first segment.
* `ScansAs.lexeme`, `ScansAs.spaced`, `ScansAs.enclosed`: how texts are put together.
* `ScansAs.scan_eq`: the scan of the whole text.
-/

namespace ExprLang

variable {kind : Kind} {c : Char} {text text' rest digits places : List Char} {value : Value}
  {tokens tokens' : List Token}

/-- Whether a text is empty or begins with a blank or a closing parenthesis. -/
def Delimited (rest : List Char) : Prop :=
  ∀ c ∈ rest.head?, c = ' ' ∨ c = ')'

theorem delimited_nil : Delimited [] := by
  simp [Delimited]

theorem delimited_cons : Delimited (c :: rest) ↔ c = ' ' ∨ c = ')' := by
  simp [Delimited]

namespace Delimited

/-- A run of characters that are neither blanks nor parentheses stops at a delimiter. -/
theorem stops {p : Char → Bool} (h : Delimited rest) (blank : p ' ' = false)
    (closing : p ')' = false) : ∀ c ∈ rest.head?, p c = false := by
  intro c mem
  rcases h c mem with rfl | rfl
  · exact blank
  · exact closing

/-- A delimited rest goes on with nothing but a blank or a closing parenthesis. -/
theorem head?_ne (h : Delimited rest) (blank : c ≠ ' ') (closing : c ≠ ')') :
    rest.head? ≠ some c :=
  fun head => (h c head).elim blank closing

end Delimited

/-! ### Numerals -/

/-- A delimited rest has no decimal places. -/
theorem decimalPlaces_of_delimited (ends : Delimited rest) : decimalPlaces rest = [] := by
  apply decimalPlaces_eq_nil
  exact ends.head?_ne (by decide) (by decide)

/-- Decimal places end where the rest is delimited. -/
theorem decimalPlaces_append (some : places ≠ []) (all : ∀ c ∈ places, c.isDigit = true)
    (ends : Delimited rest) : decimalPlaces ('.' :: places ++ rest) = '.' :: places := by
  rw [decimalPlaces_of_places some all, takeWhile_eq_of_head all (ends.stops rfl rfl)]

/-- A numeral without decimal places ends where the rest is delimited. -/
theorem numeral_of_digits (all : ∀ c ∈ digits, c.isDigit = true) (ends : Delimited rest) :
    numeral (digits ++ rest) = digits := by
  have stops : ∀ c ∈ rest.head?, c.isDigit = false := ends.stops rfl rfl
  rw [numeral, takeWhile_eq_of_head all stops, dropWhile_eq_of_head all stops,
    decimalPlaces_of_delimited ends, List.append_nil]

/-- A numeral with decimal places ends where the rest is delimited. -/
theorem numeral_of_places (all : ∀ c ∈ digits, c.isDigit = true) (some : places ≠ [])
    (all' : ∀ c ∈ places, c.isDigit = true) (ends : Delimited rest) :
    numeral (digits ++ '.' :: places ++ rest) = digits ++ '.' :: places := by
  have found := decimalPlaces_append some all' ends
  rw [List.cons_append] at found
  rw [List.append_assoc, List.cons_append, numeral_of_point all, found]

/-! ### The first segment -/

namespace Segment

/-- A word ends where the rest is delimited. -/
theorem first_word (start : isNameStart c = true) (part : ∀ d ∈ text, isNamePart d = true)
    (of_word : Kind.ofWord (String.ofList (c :: text)) = kind) (ends : Delimited rest) :
    first c (text ++ rest) = .lexeme kind (c :: text) := by
  rw [first_name start, takeWhile_eq_of_head part (ends.stops rfl rfl), ofWord, of_word]

/-- A lexeme in front of a delimiter is the first segment. -/
theorem first_lexeme (h : Lexeme kind text value) (ends : Delimited rest) :
    ∃ c more, text = c :: more ∧ first c (more ++ rest) = .lexeme kind text := by
  -- No delimiter goes on with a lexeme, so each lexeme ends where it is to end.
  cases h with
  | @symbol c _ mem => exact ⟨c, [], rfl, first_symbol mem⟩
  | @short c _ _ mem =>
    refine ⟨c, [], rfl, ?_⟩
    rw [first_operator mem, ofOperator, if_neg]
    exact ends.head?_ne (by decide) (by decide)
  | @long c _ _ mem => exact ⟨c, ['='], rfl, first_operator mem⟩
  | slash =>
    refine ⟨'/', [], rfl, ?_⟩
    rw [first_slash, ofSlash, if_neg]
    exact ends.head?_ne (by decide) (by decide)
  | @string body closed =>
    refine ⟨'"', body ++ ['"'], rfl, ?_⟩
    rw [List.append_assoc, List.singleton_append, first_quote, ofQuote_of_closed closed]
  | reserved word =>
    obtain ⟨c, run, spelled, name, part, of_word⟩ := word.exists_spelling_eq
    rw [spelled]
    exact ⟨c, run, rfl, first_word name part of_word ends⟩
  | @identifier c run name part free =>
    exact ⟨c, run, rfl, first_word name part (Kind.ofWord_eq_identifier free) ends⟩
  | integer some all =>
    have longest := numeral_of_digits all ends
    obtain ⟨c, more, rfl⟩ := List.exists_cons_of_ne_nil some
    refine ⟨c, more, rfl, ?_⟩
    rw [first_digit (all c List.mem_cons_self)]
    exact congrArg (Segment.lexeme .number) longest
  | decimal some all some' all' =>
    have longest := numeral_of_places all some' all' ends
    obtain ⟨c, more, rfl⟩ := List.exists_cons_of_ne_nil some
    refine ⟨c, _, rfl, ?_⟩
    rw [first_digit (all c List.mem_cons_self)]
    exact congrArg (Segment.lexeme .number) longest

end Segment

/-! ### Scans -/

/-- A blank is a segment of its own, whatever follows. -/
theorem segments_blank (rest : List Char) :
    segments (' ' :: rest) = .skipped [' '] :: segments rest := by
  have first : Segment.first ' ' ([] ++ rest) = .skipped [' '] := Segment.first_blank (by decide)
  exact segments_append rfl first

/-- A mark of one character is a segment of its own, whatever follows. -/
theorem segments_symbol (mem : (c, kind) ∈ Kind.symbols) (rest : List Char) :
    segments (c :: rest) = .lexeme kind [c] :: segments rest := by
  have first : Segment.first c ([] ++ rest) = .lexeme kind [c] := Segment.first_symbol mem
  exact segments_append rfl first

/-- A lexeme in front of a delimiter is cut off. -/
theorem segments_lexeme (h : Lexeme kind text value) (ends : Delimited rest) :
    segments (text ++ rest) = .lexeme kind text :: segments rest := by
  obtain ⟨c, more, rfl, found⟩ := Segment.first_lexeme h ends
  exact segments_append rfl found

/-- Only texts in quotes go on over the end of a line. -/
theorem Lexeme.newline_not_mem (h : Lexeme kind text value) (noText : kind ≠ .string) :
    '\n' ∉ text := by
  have run {p : Char → Bool} (apart : p '\n' = false) {run : List Char}
      (all : ∀ c ∈ run, p c = true) : '\n' ∉ run := by
    intro mem
    rw [all _ mem] at apart
    cases apart
  have symbols : ∀ mark ∈ Kind.symbols, '\n' ∉ [mark.1] := by decide
  have operators : ∀ mark ∈ Kind.operators, '\n' ∉ [mark.1, '='] := by decide
  cases h with
  | symbol mem => exact symbols _ mem
  | short mem => exact fun newline => operators _ mem (List.mem_of_mem_take (i := 1) newline)
  | long mem => exact operators _ mem
  | slash => decide
  | string _ => exact absurd rfl noText
  | reserved word => cases word <;> decide
  | identifier name part _ =>
    rw [List.mem_cons, not_or]
    exact ⟨fun same => absurd (same ▸ name) (by decide), run rfl part⟩
  | integer _ all => exact run rfl all
  | decimal _ all _ all' =>
    rw [List.mem_append, List.mem_cons, not_or, not_or]
    exact ⟨run rfl all, by decide, run rfl all'⟩

namespace Token

/-- An opening parenthesis on the first line. -/
def opening : Token :=
  ⟨.leftParen, "(", .nil, 1⟩

/-- A closing parenthesis on the first line. -/
def closing : Token :=
  ⟨.rightParen, ")", .nil, 1⟩

/-- Parentheses around tokens. -/
def enclose (tokens : List Token) : List Token :=
  opening :: (tokens ++ [closing])

end Token

/-- Whether a text on one line contributes the tokens to a scan, whatever delimiter follows. -/
def ScansAs (text : List Char) (tokens : List Token) : Prop :=
  ∀ rest, Delimited rest → Scan.ofSegments 1 (segments (text ++ rest)) =
    ⟨tokens ++ (Scan.ofSegments 1 (segments rest)).tokens,
      (Scan.ofSegments 1 (segments rest)).errors⟩

namespace ScansAs

/-- The scan of the whole text. -/
theorem scan_eq (h : ScansAs text tokens) :
    scan (String.ofList text) = ⟨tokens ++ [.endOfInput 1], []⟩ := by
  have whole := h [] delimited_nil
  rw [List.append_nil, segments] at whole
  rw [scan, String.toList_ofList, whole]
  rfl

/-- Every lexeme but a quoted text scans as the token that it stands for. -/
theorem lexeme (h : Lexeme kind text value) (noText : kind ≠ .string) :
    ScansAs text [⟨kind, String.ofList text, value, 1⟩] := by
  intro rest ends
  rw [segments_lexeme h ends, Scan.ofSegments_lexeme h (h.newline_not_mem noText)]
  rfl

/-- A blank between two texts. -/
theorem spaced (first : ScansAs text tokens) (second : ScansAs text' tokens') :
    ScansAs (text ++ ' ' :: text') (tokens ++ tokens') := by
  intro rest ends
  rw [List.append_assoc, List.cons_append, first _ (delimited_cons.2 (.inl rfl)), segments_blank]
  change Scan.mk (tokens ++ (Scan.ofSegments 1 (segments (text' ++ rest))).tokens)
    (Scan.ofSegments 1 (segments (text' ++ rest))).errors = _
  rw [second rest ends, List.append_assoc]

/-- Parentheses around a text. -/
theorem enclosed (h : ScansAs text tokens) :
    ScansAs ('(' :: (text ++ [')'])) (Token.enclose tokens) := by
  intro rest _
  have opening : ('(', Kind.leftParen) ∈ Kind.symbols := by decide
  have closing : (')', Kind.rightParen) ∈ Kind.symbols := by decide
  rw [List.cons_append, segments_symbol opening,
    Scan.ofSegments_lexeme (.symbol opening) (by decide), List.append_assoc,
    List.singleton_append, h _ (delimited_cons.2 (.inr rfl)), segments_symbol closing,
    Scan.ofSegments_lexeme (.symbol closing) (by decide)]
  simp [Token.enclose, Token.opening, Token.closing]

end ScansAs

end ExprLang
