import ExprLang.Proofs.LongestMatch

/-!
# Lines of tokens and errors

A scan counts lines segment by segment. The line that it gives to a token or an error is the one
that counting the newlines of the source from its beginning gives, whichever segments these newlines
stand in: blanks, texts in quotes, comments and faulty pieces alike.

## Main definitions

* `lineAt`: the line at an offset of a text.
* `Place`, `placed`: segments and the offsets that they begin at.
* `Token.StandsAt`, `LexicalError.StandsAt`: what a place contributes to a scan.

## Main statements

* `isPrefix_of_mem_placed`: a placed segment is what the text holds at its offset.
* `Munches.ofSegments_lines`: the lines of a scan that begins inside a text.
* `scan_lines`: the lines of a whole scan.
-/

namespace ExprLang

/-- The line at an offset of a text: one more than the newlines in front of it. -/
def lineAt (text : List Char) (offset : Nat) : Int :=
  1 + (text.take offset).count '\n'

/-- A segment and how many characters stand in front of it. -/
structure Place where
  offset : Nat
  piece : Segment

/-- Segments that follow one another, the first of which begins at an offset. -/
def placed (offset : Nat) : List Segment → List Place
  | [] => []
  | piece :: rest => ⟨offset, piece⟩ :: placed (offset + piece.text.length) rest

namespace Place

/-- Whether the segment makes a token. -/
def isLexeme (place : Place) : Bool :=
  place.piece.lexeme?.isSome

/-- Whether the segment is faulty. -/
def isFaulty (place : Place) : Bool :=
  place.piece.cause?.isSome

end Place

/-- Whether a token is made from the lexeme at a place and carries the line of its first
character. -/
def Token.StandsAt (text : List Char) (token : Token) (place : Place) : Prop :=
  place.piece = .lexeme token.kind token.lexeme.toList ∧ token.line = lineAt text place.offset

/-- Whether an error is about the faulty segment at a place and carries the line it is noticed on:
that of the character itself, or the last one when a quote is left open. -/
def LexicalError.StandsAt (text : List Char) (e : LexicalError) (place : Place) : Prop :=
  (∃ c, place.piece = .unexpected c ∧ e = ⟨.unexpected c, lineAt text place.offset⟩) ∨
    ∃ chars, place.piece = .unclosed chars ∧ e = ⟨.unclosed, 1 + text.count '\n'⟩

variable {text front behind : List Char} {piece : Segment} {pieces : List Segment}

/-! ### Counting -/

/-- The line behind a text counts its newlines, whatever follows. -/
theorem lineAt_length_append (front behind : List Char) :
    lineAt (front ++ behind) front.length = 1 + front.count '\n' := by
  rw [lineAt, List.take_left]

theorem lineAt_length (text : List Char) : lineAt text text.length = 1 + text.count '\n' := by
  rw [lineAt, List.take_length]

/-- The line behind a segment. -/
theorem lineAt_add (whole : front ++ (piece.text ++ behind) = text) :
    lineAt text (front.length + piece.text.length) = lineAt text front.length + piece.newlines := by
  have before := lineAt_length_append front (piece.text ++ behind)
  have after := lineAt_length_append (front ++ piece.text) behind
  rw [List.append_assoc, List.length_append, List.count_append] at after
  rw [← whole, before, after, Segment.newlines]
  omega

/-- A quote that is left open is noticed on the last line. -/
theorem lineAt_of_unclosed {chars : List Char} (fits : (Segment.unclosed chars).Fits behind)
    (whole : front ++ (chars ++ behind) = text) :
    lineAt text front.length + chars.count '\n' = 1 + text.count '\n' := by
  obtain rfl : behind = [] := by
    cases fits
    rfl
  rw [List.append_nil] at whole
  rw [← whole, lineAt_length_append, List.count_append]
  omega

/-! ### Places -/

/-- A placed segment is what the text holds at its offset. -/
theorem isPrefix_of_mem_placed (whole : front ++ pieces.flatMap Segment.text = text) :
    ∀ place ∈ placed front.length pieces, place.piece.text <+: text.drop place.offset := by
  induction pieces generalizing front with
  | nil => simp [placed]
  | cons piece rest ih =>
    rw [List.flatMap_cons] at whole
    rw [placed, List.forall_mem_cons]
    constructor
    · rw [← whole, List.drop_left]
      exact List.prefix_append _ _
    · rw [← List.length_append]
      apply ih
      rw [List.append_assoc]
      exact whole

/-! ### Scans -/

/-- The lines of what is scanned behind a piece of the text. -/
theorem Munches.ofSegments_lines (h : Munches behind pieces) (whole : front ++ behind = text) :
    (∃ tokens, (Scan.ofSegments (lineAt text front.length) pieces).tokens =
        tokens ++ [.endOfInput (1 + text.count '\n')] ∧
      List.Forall₂ (Token.StandsAt text) tokens
        ((placed front.length pieces).filter Place.isLexeme)) ∧
    List.Forall₂ (LexicalError.StandsAt text)
      (Scan.ofSegments (lineAt text front.length) pieces).errors
      ((placed front.length pieces).filter Place.isFaulty) := by
  -- The text in front of a segment tells its line, so the front grows by each segment.
  induction h generalizing front with
  | nil =>
    rw [List.append_nil] at whole
    subst whole
    refine ⟨⟨[], ?_, .nil⟩, .nil⟩
    rw [lineAt_length]
    rfl
  | @cons piece behind rest longest _ ih =>
    have whole' : front ++ piece.text ++ behind = text := by rw [List.append_assoc, whole]
    obtain ⟨⟨tokens, found, stand⟩, faulty⟩ := ih whole'
    rw [List.length_append] at found stand faulty
    rw [lineAt_add whole] at found faulty
    simp only [Scan.ofSegments, placed, found]
    cases piece with
    | lexeme kind chars =>
      refine ⟨⟨⟨kind, String.ofList chars, _, lineAt text front.length⟩ :: tokens, rfl, ?_⟩, ?_⟩
      · refine .cons ⟨?_, rfl⟩ stand
        rw [String.toList_ofList]
      · exact faulty
    | skipped chars => exact ⟨⟨tokens, rfl, stand⟩, faulty⟩
    | unexpected c => exact ⟨⟨tokens, rfl, stand⟩, .cons (.inl ⟨c, rfl, rfl⟩) faulty⟩
    | unclosed chars =>
      refine ⟨⟨tokens, rfl, stand⟩, .cons (.inr ⟨chars, rfl, ?_⟩) faulty⟩
      rw [lineAt_of_unclosed longest.1 whole]

/-- Every token of a scan carries the line of its first character, and the token for the end of the
input the last line. An unexpected character is reported on its own line, and a quote that is left
open on the last one. -/
theorem scan_lines (source : String) :
    let text := source.toList
    ∃ pieces, Munches text pieces ∧
      (∀ place ∈ placed 0 pieces, place.piece.text <+: text.drop place.offset) ∧
      (∃ tokens, (scan source).tokens = tokens ++ [.endOfInput (1 + text.count '\n')] ∧
        (∀ token ∈ tokens, token.isEnd = false) ∧
        List.Forall₂ (Token.StandsAt text) tokens ((placed 0 pieces).filter Place.isLexeme)) ∧
      List.Forall₂ (LexicalError.StandsAt text) (scan source).errors
        ((placed 0 pieces).filter Place.isFaulty) := by
  intro text
  have cut : Munches text (segments text) := munches_iff.2 rfl
  have first : lineAt text ([] : List Char).length = 1 := rfl
  obtain ⟨⟨tokens, found, stand⟩, faulty⟩ := cut.ofSegments_lines (List.nil_append text)
  rw [first] at found faulty
  have whole : [] ++ (segments text).flatMap Segment.text = text := segments_flatMap_text text
  exact ⟨segments text, cut, isPrefix_of_mem_placed whole,
    ⟨tokens, found, isEnd_eq_false_of_scan found, stand⟩, faulty⟩

end ExprLang
