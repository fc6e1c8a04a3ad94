import ExprLang.Lexical.Segment
import ExprLang.Proofs.SegmentForms
import Mathlib.Data.List.Forall2

/-!
# Longest matches

The first segment of a text is the longest one of any form that the text begins with, and the only
one of its length. So the segments of a text are the one way to cut it into longest matches, and a
scan has a token for each lexeme among them and an error for each segment of the other forms.

## Main definitions

* `Segment.IsLongest`: a segment that no segment of any form is longer than.
* `Munches`: texts cut into longest matches.

## Main statements

* `Segment.within_first`: any other segment is shorter than the first.
* `munches_iff`: the segments of a text are its longest matches.
* `scan_longest_matches`: what a scan makes of them.
-/

namespace ExprLang

/-- A reserved word is a word of its own kind. -/
theorem Keyword.exists_spelling_eq (word : Keyword) : ∃ c run, word.spelling.toList = c :: run ∧
    isNameStart c = true ∧ (∀ d ∈ run, isNamePart d = true) ∧
      Kind.ofWord (String.ofList (c :: run)) = .keyword word := by
  obtain ⟨c, run, spelled, name, part⟩ : ∃ c run, word.spelling.toList = c :: run ∧
      isNameStart c = true ∧ run.all isNamePart = true := by
    cases word <;> exact ⟨_, _, rfl, rfl, rfl⟩
  have of_word : Kind.ofWord word.spelling = .keyword word := by
    cases word <;> decide
  rw [← String.ofList_toList (s := word.spelling), spelled] at of_word
  exact ⟨c, run, spelled, name, List.all_eq_true.1 part, of_word⟩

/-- A word that is not reserved is a name. -/
theorem Kind.ofWord_eq_identifier {chars : List Char}
    (free : ∀ word : Keyword, word.spelling.toList ≠ chars) :
    ofWord (String.ofList chars) = .identifier := by
  have none : Keyword.ofSpelling? (String.ofList chars) = none := by
    refine List.find?_eq_none.2 fun word _ same => free word ?_
    rw [of_decide_eq_true same, String.toList_ofList]
  rw [ofWord, none]

namespace Segment

variable {c : Char} {rest behind : List Char}

/-- Whether a segment is another one or shorter. -/
def Within (other segment : Segment) : Prop :=
  other = segment ∨ other.text.length < segment.text.length

/-- No name or reserved word in front of a text is longer than the word that the text begins with.
-/
theorem within_ofWord {kind : Kind} {run : List Char} (name : isNameStart c = true)
    (part : ∀ d ∈ run, isNamePart d = true)
    (of_word : Kind.ofWord (String.ofList (c :: run)) = kind)
    (split : c :: run ++ behind = c :: rest) :
    Within (.lexeme kind (c :: run)) (first c rest) := by
  obtain rfl : run ++ behind = rest := by simpa using split
  rw [first_name name]
  rcases eq_takeWhile_or_length_lt part behind with whole | shorter
  · rw [← whole, ofWord, of_word]
    exact .inl rfl
  · exact .inr (Nat.succ_lt_succ shorter)

/-- No run of digits is longer than the numeral. -/
theorem within_numeral {digits : List Char} (h : c.isDigit = true)
    (all : ∀ d ∈ digits, d.isDigit = true) (split : digits ++ behind = c :: rest) :
    Within (.lexeme .number digits) (first c rest) := by
  rw [first_digit h, ← split, numeral]
  rcases eq_takeWhile_or_length_lt all behind with whole | shorter
  · -- Decimal places behind the digits make the numeral longer.
    rw [← whole]
    cases decimalPlaces ((digits ++ behind).dropWhile Char.isDigit) with
    | nil =>
      rw [List.append_nil]
      exact .inl rfl
    | cons point places => exact .inr (by simp [text])
  · right
    simp only [text, List.length_append]
    omega

/-- Digits with decimal places are no longer than the numeral that is found. -/
theorem within_decimal {digits places : List Char} (h : c.isDigit = true)
    (all : ∀ d ∈ digits, d.isDigit = true) (some : places ≠ [])
    (all' : ∀ d ∈ places, d.isDigit = true)
    (split : digits ++ '.' :: places ++ behind = c :: rest) :
    Within (.lexeme .number (digits ++ '.' :: places)) (first c rest) := by
  have found := decimalPlaces_of_places some all' behind
  rw [List.append_assoc, List.cons_append] at split
  rw [List.cons_append] at found
  rw [first_digit h, ← split, numeral_of_point all, found]
  rcases eq_takeWhile_or_length_lt all' behind with whole | shorter
  · rw [← whole]
    exact .inl rfl
  · right
    simp only [text, List.length_append, List.length_cons]
    omega

/-- No lexeme in front of a text is longer than the first segment. -/
theorem within_lexeme {kind : Kind} {chars : List Char} {value : Value}
    (h : Lexeme kind chars value) (split : chars ++ behind = c :: rest) :
    Within (.lexeme kind chars) (first c rest) := by
  -- A lexeme that is not the first segment itself is cut short: an equals sign, a slash, part of a
  -- name or a digit follows.
  cases h with
  | symbol mem =>
    obtain ⟨rfl, rfl⟩ := List.cons.inj split
    exact .inl (first_symbol mem).symm
  | short mem =>
    obtain ⟨rfl, rfl⟩ := List.cons.inj split
    rw [first_operator mem, ofOperator]
    split
    · exact .inr (by simp [text])
    · exact .inl rfl
  | long mem =>
    obtain ⟨rfl, rfl⟩ := List.cons.inj split
    rw [first_operator mem]
    exact .inl rfl
  | slash =>
    obtain ⟨rfl, rfl⟩ := List.cons.inj split
    rw [first_slash, ofSlash]
    split
    · next comment =>
      -- A second slash makes it a comment, which is longer.
      obtain ⟨body, same⟩ := List.head?_eq_some_iff.1 comment
      rw [same]
      exact .inr (by simp [text])
    · exact .inl rfl
  | @string body closed =>
    obtain ⟨rfl, rfl⟩ : '"' = c ∧ body ++ '"' :: behind = rest := by simpa using split
    rw [first_quote, ofQuote_of_closed closed]
    exact .inl rfl
  | reserved word =>
    obtain ⟨d, run, spelled, name, part, of_word⟩ := word.exists_spelling_eq
    rw [spelled] at split ⊢
    obtain ⟨rfl, -⟩ := List.cons.inj split
    exact within_ofWord name part of_word split
  | @identifier d run name part free =>
    obtain ⟨rfl, -⟩ := List.cons.inj split
    exact within_ofWord name part (Kind.ofWord_eq_identifier free) split
  | integer some all =>
    obtain ⟨d, more, rfl⟩ := List.exists_cons_of_ne_nil some
    obtain ⟨rfl, -⟩ := List.cons.inj split
    exact within_numeral (all _ List.mem_cons_self) all split
  | decimal some all some' all' =>
    obtain ⟨d, more, rfl⟩ := List.exists_cons_of_ne_nil some
    obtain ⟨rfl, -⟩ := List.cons.inj split
    exact within_decimal (all _ List.mem_cons_self) all some' all' split

/-- A segment of any form that a text begins with is the first one or shorter. -/
theorem within_first {other : Segment} (h : Fits other behind)
    (split : other.text ++ behind = c :: rest) : Within other (first c rest) := by
  cases h with
  | lexeme lexeme => exact within_lexeme lexeme split
  -- A comment that stops before the end of the line is shorter than the one that is read.
  | @comment body _ line =>
    obtain ⟨rfl, rfl⟩ : '/' = c ∧ '/' :: body ++ behind = rest := by simpa [text] using split
    have inside : ∀ d ∈ '/' :: body, decide (d ≠ '\n') = true := by
      intro d mem
      refine decide_eq_true fun same => ?_
      rcases List.mem_cons.1 mem with slash | mem
      · exact absurd (same.symm.trans slash) (by decide)
      · exact line (same ▸ mem)
    have comment : ('/' :: body ++ behind).head? = some '/' := rfl
    rw [first_slash, ofSlash, if_pos comment]
    rcases eq_takeWhile_or_length_lt inside behind with whole | shorter
    · rw [← whole]
      exact .inl rfl
    · exact .inr (Nat.succ_lt_succ shorter)
  | blank blank =>
    obtain ⟨rfl, rfl⟩ := List.cons.inj split
    exact .inl (first_blank blank).symm
  | @unclosed body unclosed =>
    obtain ⟨rfl, rfl⟩ : '"' = c ∧ body = rest := by simpa [text] using split
    rw [first_quote, ofQuote, if_neg unclosed]
    exact .inl rfl
  | @unexpected d _ mark slash blank quote digit name =>
    obtain ⟨rfl, rfl⟩ : d = c ∧ behind = rest := by simpa [text] using split
    exact .inl (first_unexpected mark slash blank quote digit name).symm

/-- Whether a segment has a form and is as long as any that the text begins with. -/
def IsLongest (segment : Segment) (behind : List Char) : Prop :=
  Fits segment behind ∧ ∀ other behind', other.text ++ behind' = segment.text ++ behind →
    Fits other behind' → other.text.length ≤ segment.text.length

/-- The longest match in front of a text is its first segment, and no other. -/
theorem isLongest_iff {segment : Segment} (split : segment.text ++ behind = c :: rest) :
    IsLongest segment behind ↔ segment = first c rest := by
  have whole := text_first_append_drop c rest
  constructor
  · rintro ⟨fits, longest⟩
    -- The first segment is a candidate too, and so it cannot be longer.
    have least := longest _ _ (whole.trans split.symm) (fits_first c rest)
    rcases within_first fits split with same | shorter
    · exact same
    · omega
  · rintro rfl
    have same := List.append_cancel_left (split.trans whole.symm)
    refine ⟨same ▸ fits_first c rest, fun other behind' front fits => ?_⟩
    rcases within_first fits (front.trans split) with rfl | shorter
    · exact Nat.le_refl _
    · exact Nat.le_of_lt shorter

/-- No segment is empty. -/
theorem Fits.text_ne_nil {segment : Segment} (h : Fits segment behind) : segment.text ≠ [] := by
  cases h with
  | lexeme lexeme => exact lexeme.ne_nil
  | _ => simp [text]

end Segment

/-- Whether a text is cut into the segments, each the longest at its place. -/
inductive Munches : List Char → List Segment → Prop where
  | nil : Munches [] []
  | cons {segment behind rest} : segment.IsLongest behind → Munches behind rest →
      Munches (segment.text ++ behind) (segment :: rest)

/-- There is one way to cut a text into longest matches. -/
theorem munches_iff {text : List Char} {pieces : List Segment} :
    Munches text pieces ↔ pieces = segments text := by
  constructor
  · -- Each segment of the cut is the first one of the text that is left, so it is the one that is
    -- read.
    intro h
    induction h with
    | nil => rw [segments]
    | @cons segment behind rest longest _ ih =>
      obtain ⟨c, more, split⟩ := List.exists_cons_of_ne_nil (l := segment.text ++ behind)
        (by simp [longest.1.text_ne_nil])
      rw [Segment.isLongest_iff split] at longest
      subst longest
      have whole := Segment.text_first_append_drop c more
      have same := List.append_cancel_left (split.trans whole.symm)
      rw [split, segments, ← same, ih]
  · rintro rfl
    fun_induction segments text with
    | case1 => exact .nil
    | case2 c rest segment ih =>
      have split := Segment.text_first_append_drop c rest
      have cut := Munches.cons ((Segment.isLongest_iff split).2 rfl) ih
      rwa [split] at cut

/-- The first segment of a text in front of the segments of what is behind it. -/
theorem segments_append {piece : Segment} {c : Char} {text rest : List Char}
    (whole : piece.text = c :: text) (found : Segment.first c (text ++ rest) = piece) :
    segments (c :: text ++ rest) = piece :: segments rest := by
  rw [List.cons_append, segments]
  simp only [found, whole, List.length_cons, Nat.add_sub_cancel, List.drop_left]

/-! ### Scans -/

namespace Segment

/-- The kind and the text of a lexeme. -/
def lexeme? : Segment → Option (Kind × List Char)
  | .lexeme kind chars => some (kind, chars)
  | _ => none

/-- What is wrong with a segment. -/
def cause? : Segment → Option LexicalError.Cause
  | .unexpected c => some (.unexpected c)
  | .unclosed _ => some .unclosed
  | _ => none

end Segment

/-- Whether a token is made from a lexeme. -/
def Token.Denotes (token : Token) (lexeme : Kind × List Char) : Prop :=
  token.kind = lexeme.1 ∧ token.lexeme = String.ofList lexeme.2 ∧
    Lexeme lexeme.1 lexeme.2 token.literal

/-- No lexeme is the end of the input. -/
theorem Lexeme.kind_ne_endOfInput {kind : Kind} {chars : List Char} {value : Value}
    (h : Lexeme kind chars value) : kind ≠ .endOfInput := by
  rintro rfl
  cases h with
  | symbol mem => exact absurd (by decide) (Kind.symbols_apart mem)
  | short mem => exact absurd (by decide) (Kind.operators_apart mem).1
  | long mem => exact absurd (by decide) (Kind.operators_apart mem).2

/-- Tokens of lexemes do not end the input. -/
theorem isEnd_eq_false_of_denotes {tokens : List Token} {lexemes : List (Kind × List Char)}
    (h : List.Forall₂ Token.Denotes tokens lexemes) : ∀ token ∈ tokens, token.isEnd = false := by
  induction h with
  | nil => simp
  | @cons token lexeme _ _ denotes _ ih =>
    rw [List.forall_mem_cons]
    refine ⟨?_, ih⟩
    rw [Token.isEnd, denotes.1]
    exact decide_eq_false denotes.2.2.kind_ne_endOfInput

/-- A scan has a token for each lexeme and an error for each segment that is no lexeme, blank or
comment. -/
theorem Scan.ofSegments_denotes {pieces : List Segment} (line : Int)
    (fits : ∀ piece ∈ pieces, ∃ behind, piece.Fits behind) :
    (∃ tokens last, (ofSegments line pieces).tokens = tokens ++ [.endOfInput last] ∧
      List.Forall₂ Token.Denotes tokens (pieces.filterMap Segment.lexeme?)) ∧
    (ofSegments line pieces).errors.map LexicalError.cause = pieces.filterMap Segment.cause? := by
  induction pieces generalizing line with
  | nil => exact ⟨⟨[], line, rfl, .nil⟩, rfl⟩
  | cons piece rest ih =>
    obtain ⟨behind, fit⟩ := fits piece List.mem_cons_self
    obtain ⟨⟨tokens, last, whole, denote⟩, errors⟩ :=
      ih (line + piece.newlines) fun piece mem => fits piece (List.mem_cons_of_mem _ mem)
    simp only [ofSegments, whole, List.map_append, errors]
    cases fit with
    | @lexeme kind chars value _ lexeme =>
      refine ⟨⟨⟨kind, _, _, line⟩ :: tokens, last, rfl, .cons ⟨rfl, rfl, ?_⟩ denote⟩, rfl⟩
      change Lexeme kind chars (Value.ofLexeme kind chars)
      rw [lexeme.value_eq]
      exact lexeme
    | comment _ | blank _ => exact ⟨⟨tokens, last, rfl, denote⟩, rfl⟩
    | unclosed _ | unexpected _ _ _ _ _ _ => exact ⟨⟨tokens, last, rfl, denote⟩, rfl⟩

/-- What a lexeme on one line contributes to a scan. -/
theorem Scan.ofSegments_lexeme {kind : Kind} {text : List Char} {value : Value} {line : Int}
    {pieces : List Segment} (h : Lexeme kind text value) (one : '\n' ∉ text) :
    ofSegments line (.lexeme kind text :: pieces) =
      ⟨⟨kind, String.ofList text, value, line⟩ :: (ofSegments line pieces).tokens,
        (ofSegments line pieces).errors⟩ := by
  have stays : line + (Segment.lexeme kind text).newlines = line := by
    rw [Segment.newlines, Segment.text, List.count_eq_zero.2 one]
    exact Int.add_zero line
  rw [ofSegments, stays, Segment.token?, h.value_eq]
  rfl

/-- All pieces that longest matches cut off are segments. -/
theorem Munches.fits {text : List Char} {pieces : List Segment} (h : Munches text pieces) :
    ∀ piece ∈ pieces, ∃ behind, piece.Fits behind := by
  induction h with
  | nil => simp
  | @cons segment behind _ longest _ ih =>
    intro piece mem
    rcases List.mem_cons.1 mem with rfl | mem
    · exact ⟨behind, longest.1⟩
    · exact ih piece mem

/-- What a scan makes of the segments of a source. -/
theorem scan_denotes (source : String) :
    (∃ tokens last, (scan source).tokens = tokens ++ [.endOfInput last] ∧
      List.Forall₂ Token.Denotes tokens ((segments source.toList).filterMap Segment.lexeme?)) ∧
    (scan source).errors.map LexicalError.cause =
      (segments source.toList).filterMap Segment.cause? := by
  have cut : Munches source.toList (segments source.toList) := munches_iff.2 rfl
  exact Scan.ofSegments_denotes 1 cut.fits

/-- Every token denotes one of the lexemes. -/
theorem exists_denotes_of_mem {tokens : List Token} {lexemes : List (Kind × List Char)}
    (h : List.Forall₂ Token.Denotes tokens lexemes) :
    ∀ token ∈ tokens, ∃ lexeme ∈ lexemes, token.Denotes lexeme := by
  induction h with
  | nil => simp
  | cons denotes _ ih =>
    rw [List.forall_mem_cons]
    refine ⟨⟨_, List.mem_cons_self, denotes⟩, fun token mem => ?_⟩
    obtain ⟨lexeme, more, denotes⟩ := ih token mem
    exact ⟨lexeme, List.mem_cons_of_mem _ more, denotes⟩

/-- The tokens of a source in front of the end of the input are made from lexemes. -/
theorem exists_lexeme_of_mem_scan {source : String} {token : Token}
    (mem : token ∈ (scan source).tokens) (inside : token.isEnd = false) :
    ∃ text, token.lexeme = String.ofList text ∧ Lexeme token.kind text token.literal := by
  obtain ⟨⟨tokens, last, whole, denote⟩, -⟩ := scan_denotes source
  rw [whole] at mem
  rcases List.mem_append.1 mem with front | ending
  · obtain ⟨lexeme, -, kind, spelled, form⟩ := exists_denotes_of_mem denote token front
    rw [kind]
    exact ⟨lexeme.2, spelled, form⟩
  · rw [List.mem_singleton.1 ending] at inside
    cases inside

/-- Nothing ends the input in front of the last token of what segments contribute. -/
theorem isEnd_eq_false_of_ofSegments {line : Int} {text : List Char} {tokens : List Token}
    {last : Int}
    (h : (Scan.ofSegments line (segments text)).tokens = tokens ++ [.endOfInput last]) :
    ∀ token ∈ tokens, token.isEnd = false := by
  have cut : Munches text (segments text) := munches_iff.2 rfl
  obtain ⟨⟨tokens', last', whole, denote⟩, -⟩ := Scan.ofSegments_denotes line cut.fits
  obtain ⟨rfl, -⟩ := List.append_inj' (h.symm.trans whole) rfl
  exact isEnd_eq_false_of_denotes denote

/-- In a scan only the last token ends the input. -/
theorem isEnd_eq_false_of_scan {source : String} {tokens : List Token} {last : Int}
    (h : (scan source).tokens = tokens ++ [.endOfInput last]) :
    ∀ token ∈ tokens, token.isEnd = false :=
  isEnd_eq_false_of_ofSegments h

/-- A source is cut into longest matches in exactly one way. Its scan has a token for each lexeme
among them, in order, and then the token for the end of the input, and it has an error for each
character that begins nothing and for a quote that is left open. -/
theorem scan_longest_matches (source : String) :
    ∃ pieces, Munches source.toList pieces ∧
      (∀ other, Munches source.toList other → other = pieces) ∧
      pieces.flatMap Segment.text = source.toList ∧
      (∃ tokens last, (scan source).tokens = tokens ++ [.endOfInput last] ∧
        (∀ token ∈ tokens, token.isEnd = false) ∧
        List.Forall₂ Token.Denotes tokens (pieces.filterMap Segment.lexeme?)) ∧
      (scan source).errors.map LexicalError.cause = pieces.filterMap Segment.cause? := by
  have cut : Munches source.toList (segments source.toList) := munches_iff.2 rfl
  obtain ⟨⟨tokens, last, whole, denote⟩, errors⟩ := Scan.ofSegments_denotes 1 cut.fits
  exact ⟨_, cut, fun other other_cut => munches_iff.1 other_cut, segments_flatMap_text _,
    ⟨tokens, last, whole, isEnd_eq_false_of_denotes denote, denote⟩, errors⟩

end ExprLang
