import ExprLang.Proofs.Delimited
import ExprLang.Proofs.EndsAlike
import ExprLang.Proofs.Places

/-!
# Scanning a text that goes on

Text that is appended to a source changes at most the segments that touch the last two characters of
it. Among these are a comment at the end and a text in quotes that is left open, which may take up
what is appended. All that is found in front of them is found alike, at the same place, and an
unexpected character is reported alike wherever it stands.

## Main statements

* `Munches.exists_common_places`: which places a text has in common with a longer one.
* `scan_append`: the tokens and the errors of a source that goes on.
-/

namespace ExprLang

variable {text behind more : List Char} {pieces : List Segment} {piece : Segment} {place : Place}
  {token : Token} {n : Nat}

/-! ### Common places -/

/-- A longest match in front of the longest matches of what is behind it. -/
theorem segments_of_isLongest (h : piece.IsLongest behind) :
    segments (piece.text ++ behind) = piece :: segments behind :=
  (munches_iff.1 (.cons h (munches_iff.2 rfl))).symm

/-- An unexpected character is a longest match whatever is behind it. -/
theorem Segment.IsLongest.of_unexpected (h : piece.IsLongest behind)
    (some : piece.unexpected? ≠ none) (rest : List Char) : piece.IsLongest rest := by
  obtain ⟨c, unexpected⟩ := Option.ne_none_iff_exists'.1 some
  obtain rfl := eq_unexpected_of_unexpected? unexpected
  exact (isLongest_iff rfl).2 (h.1.first_unexpected rest).symm

/-- The places that a text has in common with a longer one: all but some at the end that touch the
last two characters and hold no unexpected character. -/
theorem Munches.exists_common_places (h : Munches text pieces) (more : List Char) (offset : Nat) :
    ∃ front back back', placed offset pieces = front ++ back ∧
      placed offset (segments (text ++ more)) = front ++ back' ∧
      ∀ place ∈ back, offset + text.length < place.stop + 2 ∧ place.piece.unexpected? = none := by
  induction h generalizing offset with
  | nil => exact ⟨[], [], _, rfl, rfl, by simp⟩
  | @cons piece behind rest longest cut ih =>
    by_cases stays : piece.IsLongest (behind ++ more)
    · -- The segment stays the longest one in front of more, so its place is common to both texts.
      obtain ⟨front, back, back', common, common', touches⟩ := ih (offset + piece.text.length)
      refine ⟨⟨offset, piece⟩ :: front, back, back', ?_, ?_, ?_⟩
      · rw [placed, common]
        rfl
      · rw [List.append_assoc, segments_of_isLongest stays, placed, common']
        rfl
      · rwa [List.length_append, ← Nat.add_assoc]
    · -- A segment that may change has no more than a point behind it.
      have expected : piece.unexpected? = none := by
        by_contra some
        exact stays (longest.of_unexpected some _)
      have short : behind = [] ∨ behind = ['.'] := by
        by_contra long
        rw [not_or] at long
        exact stays (longest.congr (endsAlike_append long.1 long.2 more))
      refine ⟨[], placed offset (piece :: rest), _, rfl, rfl, ?_⟩
      rw [munches_iff.1 cut]
      rcases short with rfl | rfl
      · rw [segments, placed, placed, List.forall_mem_singleton]
        exact ⟨by simp [Place.stop], expected⟩
      · have point : ('.', Kind.dot) ∈ Kind.symbols := by decide
        rw [segments_symbol point, segments, placed, placed, placed, List.forall_mem_cons,
          List.forall_mem_singleton]
        refine ⟨⟨?_, expected⟩, ?_, rfl⟩
        · simp [Place.stop, ← Nat.add_assoc]
        · simp [Place.stop, Segment.text, Nat.add_assoc]

/-- The line at an offset does not depend on what is behind it. -/
theorem lineAt_append {offset : Nat} (within : offset ≤ text.length) :
    lineAt (text ++ more) offset = lineAt text offset := by
  rw [lineAt, lineAt, List.take_append_of_le_length within]

/-- A place within the text has the same token when text is appended, on the same line. -/
theorem Place.token?_append (within : place.offset ≤ text.length) :
    place.token? (text ++ more) = place.token? text := by
  rw [token?, token?, lineAt_append within]

/-- A place within the text has the same error when text is appended, on the same line. -/
theorem Place.error?_append (within : place.offset ≤ text.length) :
    place.error? (text ++ more) = place.error? text := by
  rw [error?, error?, lineAt_append within]

/-- A place of a text that is unexpected or does not touch the last two characters is found at the
same index among the places that pass a test, however the text goes on. -/
theorem getElem?_filter_places (q : Place → Bool)
    (h : ((places text).filter q)[n]? = some place)
    (stays : place.stop + 2 ≤ text.length ∨ place.piece.unexpected? ≠ none) (more : List Char) :
    ((places (text ++ more)).filter q)[n]? = some place := by
  have cut : Munches text (segments text) := munches_iff.2 rfl
  obtain ⟨front, back, back', common, common', touches⟩ := cut.exists_common_places more 0
  rw [places, common, List.filter_append] at h
  rw [places, common', List.filter_append]
  by_cases inside : n < (front.filter q).length
  · rw [List.getElem?_append_left inside] at h ⊢
    exact h
  · rw [List.getElem?_append_right (Nat.le_of_not_lt inside)] at h
    have mem := (List.mem_filter.1 (List.mem_of_getElem? h)).1
    obtain ⟨late, expected⟩ := touches place mem
    rcases stays with early | some
    · omega
    · exact absurd expected some

/-! ### Scans -/

/-- The tokens of a source in front of the end of the input are what its lexemes contribute. -/
theorem getElem?_tokens_iff {source : String} (inside : token.isEnd = false) :
    (scan source).tokens[n]? = some token ↔
      ∃ place, ((places source.toList).filter Place.isLexeme)[n]? = some place ∧
        place.token? source.toList = some token := by
  rw [scan_eq_places, ← Option.bind_eq_some_iff,
    ← getElem?_filterMap_of_filter (Place.isSome_token? _)]
  constructor
  · intro found
    rw [List.getElem?_append] at found
    split at found
    · exact found
    · have ending := List.mem_singleton.1 (List.mem_of_getElem? found)
      rw [ending] at inside
      cases inside
  · intro found
    rw [List.getElem?_append_left (List.getElem?_eq_some_iff.1 found).1]
    exact found

/-- The errors of a source are what its faulty segments contribute. -/
theorem getElem?_errors_iff {source : String} {e : LexicalError} :
    (scan source).errors[n]? = some e ↔
      ∃ place, ((places source.toList).filter Place.isFaulty)[n]? = some place ∧
        place.error? source.toList = some e := by
  rw [scan_eq_places, ← Option.bind_eq_some_iff,
    ← getElem?_filterMap_of_filter (Place.isSome_error? _)]

/-- What is reported as an unexpected character is about one, on its line. -/
theorem Place.exists_unexpected_of_error? {e : LexicalError} (h : place.error? text = some e)
    (cause : e.cause.code = .unexpectedCharacter) :
    ∃ c, place.piece = .unexpected c ∧ e = ⟨.unexpected c, lineAt text place.offset⟩ := by
  obtain ⟨offset, piece⟩ := place
  cases piece with
  | lexeme kind chars | skipped chars => cases h
  | unexpected c =>
    cases h
    exact ⟨c, rfl, rfl⟩
  | unclosed chars =>
    cases h
    cases cause

/-- What is found among the places of a text that pass a test stands in the text. -/
theorem held_of_getElem?_filter {q : Place → Bool}
    (found : ((places text).filter q)[n]? = some place) :
    place.piece.text <+: text.drop place.offset ∧ place.offset ≤ text.length := by
  have mem := (List.mem_filter.1 (List.mem_of_getElem? found)).1
  refine ⟨isPrefix_of_mem_places mem, ?_⟩
  exact Nat.le_trans (Nat.le_add_right _ _) (stop_le_of_mem_places mem)

/-- A token whose lexeme ends at least two characters before the end of a source is found at the
same index and at the same place, with the same kind, lexeme, literal and line, however the source
goes on. A character that begins nothing is reported at the same index and on the same line wherever
it stands. Of all segments, tokens or not, only those that touch the last two characters can
change. -/
theorem scan_append (a b : String) :
    let text := a.toList
    let longer := (a ++ b).toList
    (∀ (n : Nat) (token : Token), (scan a).tokens[n]? = some token → token.isEnd = false →
      ∃ place : Place, ((places text).filter Place.isLexeme)[n]? = some place ∧
        place.piece.text <+: text.drop place.offset ∧ token.StandsAt text place ∧
        (place.stop + 2 ≤ text.length →
          (scan (a ++ b)).tokens[n]? = some token ∧
            ((places longer).filter Place.isLexeme)[n]? = some place)) ∧
    (∀ (n : Nat) (e : LexicalError), (scan a).errors[n]? = some e →
      e.cause.code = .unexpectedCharacter →
      ∃ place : Place, ((places text).filter Place.isFaulty)[n]? = some place ∧
        place.piece.text <+: text.drop place.offset ∧ e.StandsAt text place ∧
        (scan (a ++ b)).errors[n]? = some e ∧
          ((places longer).filter Place.isFaulty)[n]? = some place) ∧
    ∀ (n : Nat) (place : Place), (places text)[n]? = some place → place.stop + 2 ≤ text.length →
      (places longer)[n]? = some place := by
  intro text longer
  have whole : longer = text ++ b.toList := String.toList_append
  refine ⟨?_, ?_, ?_⟩
  · -- Tokens: one that is found early enough is at a place that both texts have in common.
    intro n token found inside
    obtain ⟨place, index, made⟩ := (getElem?_tokens_iff inside).1 found
    obtain ⟨held, within⟩ := held_of_getElem?_filter index
    refine ⟨place, index, held, Place.standsAt_of_token? made, fun early => ?_⟩
    have index' := getElem?_filter_places _ index (.inl early) b.toList
    rw [← whole] at index'
    have made' : place.token? longer = some token := by
      rw [whole, Place.token?_append within]
      exact made
    exact ⟨(getElem?_tokens_iff inside).2 ⟨place, index', made'⟩, index'⟩
  · -- Errors: an unexpected character is at a common place wherever it stands.
    intro n e found cause
    obtain ⟨place, index, made⟩ := getElem?_errors_iff.1 found
    obtain ⟨c, piece, same⟩ := Place.exists_unexpected_of_error? made cause
    obtain ⟨held, within⟩ := held_of_getElem?_filter index
    have unexpected : place.piece.unexpected? ≠ none := by
      rw [piece]
      exact Option.some_ne_none c
    have index' := getElem?_filter_places _ index (.inr unexpected) b.toList
    rw [← whole] at index'
    have made' : place.error? longer = some e := by
      rw [whole, Place.error?_append within]
      exact made
    exact ⟨place, index, held, .inl ⟨c, piece, same⟩,
      getElem?_errors_iff.2 ⟨place, index', made'⟩, index'⟩
  · -- Places: the same for all of them, whatever segments they hold.
    intro n place found early
    have all (p : List Place) : p.filter (fun _ => true) = p := List.filter_true p
    rw [← all (places text)] at found
    have found' := getElem?_filter_places _ found (.inl early) b.toList
    rwa [all, ← whole] at found'

/-- A point and a digit behind `1` make it another numeral, but what is found in front of it stays,
and so does the error on the line above. -/
theorem scan_append_point :
    let less : Token := ⟨.less, "<", .nil, 1⟩
    let unexpected : LexicalError := ⟨.unexpected '@', 1⟩
    (scan "x @<\n1.").tokens[1]? = some less ∧ less.isEnd = false ∧
      (scan "x @<\n1.").errors[0]? = some unexpected ∧
      unexpected.cause.code = .unexpectedCharacter ∧
      (scan ("x @<\n1." ++ "5")).tokens[1]? = some less ∧
      (scan ("x @<\n1." ++ "5")).errors[0]? = some unexpected ∧
      (scan "x @<\n1.").tokens.map Token.lexeme = ["x", "<", "1", ".", ""] ∧
      (scan ("x @<\n1." ++ "5")).tokens.map Token.lexeme = ["x", "<", "1.5", ""] := by
  intro less unexpected
  have found : (scan "x @<\n1.").tokens[1]? = some less := by decide +kernel
  have reported : (scan "x @<\n1.").errors[0]? = some unexpected := by decide +kernel
  obtain ⟨tokens, errors, -⟩ := scan_append "x @<\n1." "5"
  obtain ⟨place, index, -, -, stays⟩ := tokens 1 less found rfl
  obtain ⟨-, -, -, -, reported', -⟩ := errors 0 unexpected reported rfl
  have stop : ((places "x @<\n1.".toList).filter Place.isLexeme)[1]?.map Place.stop = some 4 := by
    decide +kernel
  rw [index, Option.map_some, Option.some.injEq] at stop
  have early : place.stop + 2 ≤ "x @<\n1.".toList.length := by
    rw [stop]
    decide
  exact ⟨found, rfl, reported, rfl, (stays early).1, reported', by decide +kernel,
    by decide +kernel⟩

end ExprLang
