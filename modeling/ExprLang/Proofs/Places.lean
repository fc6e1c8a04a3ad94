import ExprLang.Proofs.Lines

/-!
# What a scan finds at its places

A scan is read off the places of its segments: each place contributes what its segment does on the
line that its offset stands on, and nothing else matters to it.

## Main definitions

* `places`: the segments of a text and the offsets that they begin at.
* `Place.stop`: where the segment at a place ends.
* `Place.token?`, `Place.error?`: what a place contributes.

## Main statements

* `stop_le_of_mem_placed`: places are within the text.
* `scan_eq_places`: a scan is what its places contribute.
* `getElem?_filterMap_of_filter`: which place contributes the token or the error at an index.
-/

namespace ExprLang

/-- The segments of a text and the offsets that they begin at. -/
def places (text : List Char) : List Place :=
  placed 0 (segments text)

/-- The unexpected character that a segment is. -/
def Segment.unexpected? : Segment → Option Char
  | .unexpected c => some c
  | _ => none

/-- An unexpected character is a whole segment. -/
theorem Segment.eq_unexpected_of_unexpected? {piece : Segment} {c : Char}
    (h : piece.unexpected? = some c) : piece = .unexpected c := by
  cases piece with
  | unexpected d =>
    cases h
    rfl
  | lexeme kind chars | skipped chars | unclosed chars => cases h

namespace Place

/-- Where the segment ends. -/
def stop (place : Place) : Nat :=
  place.offset + place.piece.text.length

/-- The token that a place of a text contributes. -/
def token? (text : List Char) (place : Place) : Option Token :=
  place.piece.token? (lineAt text place.offset)

/-- The error that a place of a text contributes. -/
def error? (text : List Char) (place : Place) : Option LexicalError :=
  place.piece.error? (lineAt text place.offset)

end Place

variable {text front : List Char} {pieces : List Segment} {place : Place} {token : Token}
  {e : LexicalError} {n : Nat}

/-! ### Contributions -/

namespace Place

/-- The places of lexemes are those that contribute tokens. -/
theorem isSome_token? (text : List Char) (place : Place) :
    (place.token? text).isSome = place.isLexeme := by
  obtain ⟨offset, piece⟩ := place
  cases piece <;> rfl

/-- The places of faulty pieces are those that contribute errors. -/
theorem isSome_error? (text : List Char) (place : Place) :
    (place.error? text).isSome = place.isFaulty := by
  obtain ⟨offset, piece⟩ := place
  cases piece <;> rfl

/-- The token of a place stands there. -/
theorem standsAt_of_token? (h : place.token? text = some token) : token.StandsAt text place := by
  obtain ⟨offset, piece⟩ := place
  cases piece with
  | lexeme kind chars =>
    cases h
    exact ⟨congrArg (Segment.lexeme kind) (String.toList_ofList).symm, rfl⟩
  | skipped chars | unexpected c | unclosed chars => cases h

end Place

/-- Where an option is present exactly for the elements that pass a test, the present options are
those of these elements, in order. -/
theorem getElem?_filterMap_of_filter {α β : Type} {f : α → Option β} {q : α → Bool}
    (same : ∀ x, (f x).isSome = q x) (l : List α) (n : Nat) :
    (l.filterMap f)[n]? = (l.filter q)[n]?.bind f := by
  induction l generalizing n with
  | nil => rfl
  | cons x rest ih =>
    have first := same x
    cases found : f x with
    | none =>
      rw [found] at first
      rw [List.filterMap_cons_none found, List.filter_cons_of_neg (by simp [← first]), ih]
    | some y =>
      rw [found] at first
      rw [List.filterMap_cons_some found, List.filter_cons_of_pos first.symm]
      cases n with
      | zero => exact found.symm
      | succ n => exact ih n

/-! ### Places in a text -/

/-- Places begin at the offset that the first of them begins at, and are within the text. -/
theorem stop_le_of_mem_placed {offset : Nat} (mem : place ∈ placed offset pieces) :
    offset ≤ place.offset ∧ place.stop ≤ offset + (pieces.flatMap Segment.text).length := by
  induction pieces generalizing offset with
  | nil => cases mem
  | cons piece rest ih =>
    rw [List.flatMap_cons, List.length_append]
    rcases List.mem_cons.1 mem with rfl | later
    · refine ⟨Nat.le_refl _, ?_⟩
      simp only [Place.stop]
      omega
    · have := ih later
      omega

/-- No place goes past the end of the text. -/
theorem stop_le_of_mem_places (mem : place ∈ places text) : place.stop ≤ text.length := by
  have within := (stop_le_of_mem_placed mem).2
  rwa [segments_flatMap_text, Nat.zero_add] at within

/-- The segments of a text are put together without anything in front. -/
theorem nil_append_flatMap_segments (text : List Char) :
    [] ++ (segments text).flatMap Segment.text = text :=
  segments_flatMap_text text

/-- A place of a text holds its segment there. -/
theorem isPrefix_of_mem_places (mem : place ∈ places text) :
    place.piece.text <+: text.drop place.offset :=
  isPrefix_of_mem_placed (nil_append_flatMap_segments text) place mem

/-- What is scanned behind a piece of a text is what its places contribute. -/
theorem Scan.ofSegments_placed (whole : front ++ pieces.flatMap Segment.text = text) :
    Scan.ofSegments (lineAt text front.length) pieces =
      ⟨(placed front.length pieces).filterMap (Place.token? text) ++
          [.endOfInput (1 + text.count '\n')],
        (placed front.length pieces).filterMap (Place.error? text)⟩ := by
  induction pieces generalizing front with
  | nil =>
    rw [List.flatMap_nil, List.append_nil] at whole
    subst whole
    rw [lineAt_length]
    rfl
  | cons piece rest ih =>
    rw [List.flatMap_cons] at whole
    have whole' : front ++ piece.text ++ rest.flatMap Segment.text = text := by
      rw [List.append_assoc, whole]
    have later := ih whole'
    rw [List.length_append, lineAt_add whole] at later
    simp only [List.filterMap_eq_flatMap_toList] at later ⊢
    rw [Scan.ofSegments, later, placed, List.flatMap_cons, List.flatMap_cons, List.append_assoc]
    rfl

/-- A scan is what the places of its source contribute, and the token for the end of the input. -/
theorem scan_eq_places (source : String) : scan source =
    ⟨(places source.toList).filterMap (Place.token? source.toList) ++
        [.endOfInput (1 + source.toList.count '\n')],
      (places source.toList).filterMap (Place.error? source.toList)⟩ :=
  Scan.ofSegments_placed (nil_append_flatMap_segments source.toList)

end ExprLang
