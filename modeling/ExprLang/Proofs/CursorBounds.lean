import ExprLang.Proofs.Lines
import ExprLang.Proofs.SteppingOn

/-!
# Bounds of the cursor

As long as its source is not exchanged, a scanner stays within the source, whatever it is made to do
and whether or not that fails. The cursor does not stand in front of the segment read last. Single
characters are read without counting lines, so the line that the scanner is on may lag behind the
one that the cursor stands on, but it never runs ahead of it.

## Main definitions

* `Scanner.Move.keepsSource`: moves that do not exchange the source.
* `Scanner.OnSource`, `Scanner.Bounded`: the bounds of the cursor, and those of the segment read
  last.

## Main statements

* `Scanner.OnSource.absorb`: a segment that is read puts both within their bounds.
* `Scanner.Bounded.move`: every move that keeps the source keeps the bounds.
* `Scanner.step_eq_exhausted_iff`, `Scanner.current_step_of_fault`: how far a step that fails has
  read.
* `Scanner.run_bounded`: what holds after every session.
-/

namespace ExprLang

/-! ### Faulty segments -/

namespace Segment

variable {c : Char} {rest chars : List Char} {line : Int} {piece : Segment} {e : LexicalError}

/-- What is wrong with a segment tells which segment it is. -/
theorem eq_of_error? (h : piece.error? line = some e) :
    (∃ c, piece = .unexpected c ∧ e.cause = .unexpected c) ∨
      ∃ chars, piece = .unclosed chars ∧ e.cause = .unclosed := by
  cases piece with
  | lexeme kind chars | skipped chars => cases h
  | unexpected c =>
    cases h
    exact .inl ⟨c, rfl, rfl⟩
  | unclosed chars =>
    cases h
    exact .inr ⟨chars, rfl, rfl⟩

/-- A quote that is left open takes the whole text. -/
theorem eq_of_first_eq_unclosed (h : first c rest = .unclosed chars) : chars = c :: rest := by
  have fits := fits_first c rest
  have whole := text_first_append_drop c rest
  rw [h] at fits whole
  generalize rest.drop _ = behind at fits whole
  cases fits
  rwa [List.append_nil] at whole

end Segment

/-- Lines do not go down further on in a text. -/
theorem lineAt_mono (text : List Char) {i j : Nat} (le : i ≤ j) :
    lineAt text i ≤ lineAt text j := by
  have fewer := (List.take_sublist_take_left (l := text) le).count_le '\n'
  unfold lineAt
  omega

namespace Scanner

/-! ### Bounds -/

/-- Whether a move leaves the source as it is. -/
def Move.keepsSource : Move → Bool
  | .replace _ => false
  | _ => true

/-- Whether the cursor stands in the source, no line in front of the one that is counted. -/
structure OnSource (s : Scanner) : Prop where
  current_le : s.current ≤ s.source.length
  one_le_line : 1 ≤ s.line
  line_le : s.line ≤ lineAt s.source s.current

/-- Whether moreover the segment read last does not begin behind the cursor or on a later line. -/
structure Bounded (s : Scanner) : Prop extends OnSource s where
  start_le : s.start ≤ s.current
  one_le_startLine : 1 ≤ s.startLine
  startLine_le : s.startLine ≤ s.line

variable {s : Scanner} {piece : Segment}

/-- A scanner that has not been moved is bounded. -/
theorem bounded_ofSource (source : String) : (ofSource source).Bounded where
  current_le := Nat.zero_le _
  one_le_line := Int.le_refl _
  line_le := Int.le_refl _
  start_le := Nat.le_refl _
  one_le_startLine := Int.le_refl _
  startLine_le := Int.le_refl _

/-! ### Segments -/

namespace OnSource

/-- Marking the beginning of a segment brings the mark up to the cursor. -/
theorem mark (h : s.OnSource) : s.mark.Bounded where
  current_le := h.current_le
  one_le_line := h.one_le_line
  line_le := h.line_le
  start_le := Nat.le_refl _
  one_le_startLine := h.one_le_line
  startLine_le := Int.le_refl _

/-- Reading a segment of what is left counts the lines that end in it, and no others. -/
theorem absorb (h : s.OnSource) (front : piece.text <+: s.remaining) :
    (s.absorb piece).Bounded := by
  obtain ⟨behind, left⟩ := front
  have whole : s.source.take s.current ++ (piece.text ++ behind) = s.source := by
    rw [left]
    exact List.take_append_drop s.current s.source
  have read : (s.source.take s.current).length = s.current := List.length_take_of_le h.current_le
  -- The line breaks of the segment are some of those in front of the new cursor.
  have counted := lineAt_add whole
  have length := congrArg List.length whole
  rw [read] at counted
  rw [List.length_append, List.length_append, read] at length
  have current_le := h.current_le
  have one_le_line := h.one_le_line
  have line_le := h.line_le
  refine ⟨⟨?_, ?_, ?_⟩, Nat.le_add_right _ _, one_le_line, ?_⟩
  · show s.current + piece.text.length ≤ s.source.length
    omega
  · show 1 ≤ s.line + piece.newlines
    omega
  · show s.line + piece.newlines ≤ lineAt s.source (s.current + piece.text.length)
    omega
  · show s.line ≤ s.line + piece.newlines
    omega

/-- A step keeps within the bounds, whether or not it fails. -/
theorem step (h : s.OnSource) : s.step.2.Bounded := by
  by_cases done : s.atEnd
  · rw [step_of_remaining_nil (atEnd_iff.1 done)]
    exact h.mark
  · obtain ⟨c, rest, left, step⟩ := exists_step done
    rw [step]
    exact h.absorb (left ▸ Segment.isPrefix_text_first c rest)

end OnSource

namespace Bounded

theorem withErrors (h : s.Bounded) (errors : Array LexicalError) : (s.withErrors errors).Bounded :=
  ⟨⟨h.current_le, h.one_le_line, h.line_le⟩, h.start_le, h.one_le_startLine, h.startLine_le⟩

/-- Steps to the end keep a scanner bounded, by induction on the steps. -/
theorem stepToEnd (h : s.Bounded) : s.stepToEnd.Bounded := by
  induction s using stepToEnd.induct with
  | case1 s done =>
    rw [Scanner.stepToEnd, if_pos done]
    exact h
  | case2 s notEnd ih =>
    rw [Scanner.stepToEnd, if_neg notEnd]
    apply ih
    rw [stepNoting_eq_step notEnd]
    exact h.toOnSource.step.withErrors _

/-! ### Moves -/

/-- A character may be passed over without counting the line that ends with it. -/
theorem passCharacter (h : s.Bounded) (inside : s.current < s.source.length) :
    Bounded { s with current := s.current + 1 } :=
  ⟨⟨inside, h.one_le_line, Int.le_trans h.line_le (lineAt_mono s.source (Nat.le_succ _))⟩,
    Nat.le_succ_of_le h.start_le, h.one_le_startLine, h.startLine_le⟩

/-- Reading a character keeps a scanner bounded. -/
theorem advance (h : s.Bounded) : s.advance.2.Bounded := by
  unfold Scanner.advance
  split
  · next found => exact h.passCharacter (List.getElem?_eq_some_iff.1 found).1
  · exact h

/-- So does accepting a character. -/
theorem accept (h : s.Bounded) (c : Char) : (s.accept c).2.Bounded := by
  unfold Scanner.accept
  split
  · next found => exact h.passCharacter (List.getElem?_eq_some_iff.1 found).1
  · exact h

/-- Going back to the beginning forgets all but the line of the segment read last, which may be
behind the first line by now. The first step sets it, and in an empty source it is the first line
anyway. -/
theorem tokenize (h : s.Bounded) : s.tokenize.Bounded := by
  have restarted : s.restart.OnSource := ⟨Nat.zero_le _, Int.le_refl _, Int.le_refl _⟩
  have finished : s.restart.stepToEnd.Bounded := by
    by_cases done : s.restart.atEnd
    · rw [Scanner.stepToEnd, if_pos done]
      have empty : s.source = [] := atEnd_iff.1 done
      have last : s.line ≤ 1 := by
        have line_le := h.line_le
        rw [empty] at line_le
        simpa [lineAt] using line_le
      exact ⟨restarted, Nat.le_refl _, h.one_le_startLine, Int.le_trans h.startLine_le last⟩
    · rw [Scanner.stepToEnd, if_neg done, stepNoting_eq_step done]
      exact (restarted.step.withErrors _).stepToEnd
  rw [tokenize_eq_stepToEnd]
  exact ⟨⟨finished.current_le, finished.one_le_line, finished.line_le⟩, finished.start_le,
    finished.one_le_startLine, finished.startLine_le⟩

/-- Every move that keeps the source keeps the bounds. -/
theorem move (h : s.Bounded) {m : Move} (keeps : m.keepsSource) : (s.move m).Bounded := by
  cases m with
  | tokenize => exact h.tokenize
  | step => exact h.toOnSource.step
  | advance => exact h.advance
  | accept c => exact h.accept c
  | peek | peekNext => exact h
  | replace source => cases keeps

/-- Every session that keeps the source keeps a scanner bounded, move by move. -/
theorem run (h : s.Bounded) {session : List Move} (keep : ∀ m ∈ session, m.keepsSource) :
    (s.run session).Bounded := by
  induction session generalizing s with
  | nil => exact h
  | cons m session ih =>
    rw [List.forall_mem_cons] at keep
    exact ih (h.move keep.1) keep.2

end Bounded

/-- A session of moves that keep the source ends with the source that it began with. -/
theorem sourceAfter_of_keepsSource {source : String} {session : List Move}
    (keep : ∀ m ∈ session, m.keepsSource) : session.foldl Move.sourceAfter source = source := by
  induction session with
  | nil => rfl
  | cons m session ih =>
    rw [List.forall_mem_cons] at keep
    have same : m.sourceAfter source = source := by
      cases m with
      | replace other => cases keep.1
      | tokenize | step | advance | accept c | peek | peekNext => rfl
    rw [List.foldl_cons, same]
    exact ih keep.2

/-! ### Steps that fail -/

/-- There is nothing to read exactly at the end. -/
theorem step_eq_exhausted_iff : s.step.1 = .error .exhausted ↔ s.atEnd = true := by
  constructor
  · intro exhausted
    by_contra notEnd
    obtain ⟨c, rest, -, step⟩ := exists_step notEnd
    rw [step] at exhausted
    exact Answer.ofSegment_ne_exhausted s.line _ exhausted
  · intro done
    rw [step_of_remaining_nil (atEnd_iff.1 done)]

/-- A step that comes to a fault has read the character that begins no lexeme, or all that is left
behind an open quote. -/
theorem current_step_of_fault {e : LexicalError} (h : s.step.1 = .error (.fault e)) :
    (∃ c, e.cause = .unexpected c ∧ s.step.2.current = s.current + 1) ∨
      e.cause = .unclosed ∧ s.step.2.current = s.source.length := by
  have notEnd : ¬ s.atEnd := by
    intro done
    rw [step_eq_exhausted_iff.2 done] at h
    cases h
  obtain ⟨c, rest, left, step⟩ := exists_step notEnd
  have fault : (Segment.first c rest).error? s.line = some e := by
    rw [step] at h
    rw [← Answer.fault?_ofSegment]
    exact congrArg Answer.fault? h
  have read : s.step.2.current = s.current + (Segment.first c rest).text.length := by
    rw [step]
    rfl
  rw [read]
  rcases Segment.eq_of_error? fault with ⟨d, piece, cause⟩ | ⟨chars, piece, cause⟩
  · rw [piece]
    exact .inl ⟨d, cause, rfl⟩
  · have whole : (Segment.first c rest).text = s.remaining := by
      rw [piece, left]
      exact Segment.eq_of_first_eq_unclosed piece
    have inside : s.current ≤ s.source.length := by
      simp only [atEnd, decide_eq_true_eq] at notEnd
      omega
    rw [whole, remaining, List.length_drop]
    exact .inr ⟨cause, by omega⟩

/-- A step that fails finds no token. -/
theorem tokens_step_of_error {failure : Failure} (h : s.step.1 = .error failure) :
    s.step.2.tokens = s.tokens := by
  by_cases done : s.atEnd
  · rw [step_of_remaining_nil (atEnd_iff.1 done)]
    rfl
  · have added := tokens_step done
    rw [h] at added
    exact Array.toList_inj.1 (added.trans (List.append_nil _))

/-! ### Sessions -/

/-- After every session that keeps the source, the segment read last begins at the cursor or in
front of it, the cursor is within the source, and the line of that segment, the line that is counted
and the line that the cursor stands on follow one another. A step from there has nothing to read
exactly at the end, and stays there. If it comes to a character that begins no lexeme, it has read
that character alone, and if it comes to an open quote, it has read the whole source. No step that
fails changes the tokens. -/
theorem run_bounded (source : String) (session : List Move)
    (keep : ∀ m ∈ session, m.keepsSource) :
    let s := (ofSource source).run session
    let text := source.toList
    s.source = text ∧
    s.start ≤ s.current ∧ s.current ≤ text.length ∧
    1 ≤ s.startLine ∧ s.startLine ≤ s.line ∧ s.line ≤ 1 + (text.take s.current).count '\n' ∧
    (s.step.1 = .error .exhausted ↔ s.current = text.length) ∧
    (s.step.1 = .error .exhausted → s.step.2.current = s.current ∧ s.step.2.line = s.line) ∧
    (∀ c line, s.step.1 = .error (.fault ⟨.unexpected c, line⟩) →
      s.step.2.current = s.current + 1) ∧
    (∀ line, s.step.1 = .error (.fault ⟨.unclosed, line⟩) → s.step.2.current = text.length) ∧
    ∀ failure, s.step.1 = .error failure → s.step.2.tokens = s.tokens := by
  intro s text
  have kept : s.source = text := by
    have after := source_run session (ofSource source) source rfl
    rwa [sourceAfter_of_keepsSource keep] at after
  -- Each step keeps the bounds, so they hold after the session.
  have bounded : s.Bounded := (bounded_ofSource source).run keep
  have current_le := bounded.current_le
  have line_le := bounded.line_le
  rw [kept] at current_le line_le
  have exhausted : s.step.1 = .error .exhausted ↔ s.current = text.length := by
    rw [step_eq_exhausted_iff, atEnd, decide_eq_true_eq, kept]
    omega
  refine ⟨kept, bounded.start_le, current_le, bounded.one_le_startLine, bounded.startLine_le,
    line_le, exhausted, ?_, ?_, ?_, fun failure => tokens_step_of_error⟩
  · intro ended
    rw [step_of_remaining_nil (atEnd_iff.1 (step_eq_exhausted_iff.1 ended))]
    exact ⟨rfl, rfl⟩
  · intro c line fault
    rcases current_step_of_fault fault with ⟨d, -, one⟩ | ⟨cause, -⟩
    · exact one
    · cases cause
  · intro line fault
    rcases current_step_of_fault fault with ⟨c, cause, -⟩ | ⟨-, all⟩
    · cases cause
    · exact all.trans (congrArg List.length kept)

/-- A line end that is passed over as a character is not counted, and then two steps in a row fail:
one at a character, and one at a quote that is left open and takes the rest. -/
theorem run_bounded_lagging :
    let session : List Move := [.advance, .step]
    let s := (ofSource "\n?\"x\ny").run session
    let text := "\n?\"x\ny".toList
    (∀ m ∈ session, m.keepsSource) ∧
    s.step.1 = .error (.fault ⟨.unclosed, 2⟩) ∧
    s.source = text ∧
    s.start ≤ s.current ∧ s.current ≤ text.length ∧
    1 ≤ s.startLine ∧ s.startLine ≤ s.line ∧ s.line ≤ 1 + (text.take s.current).count '\n' ∧
    s.line ≠ 1 + (text.take s.current).count '\n' ∧
    s.step.2.current = text.length ∧ s.step.2.tokens = s.tokens := by
  intro session s text
  have keep : ∀ m ∈ session, m.keepsSource := by decide
  have fault : s.step.1 = .error (.fault ⟨.unclosed, 2⟩) := by decide +kernel
  obtain ⟨kept, start, current, one, startLine, line, -, -, -, unclosed, tokens⟩ :=
    run_bounded "\n?\"x\ny" session keep
  exact ⟨keep, fault, kept, start, current, one, startLine, line, by decide +kernel,
    unclosed 2 fault, tokens _ fault⟩

end Scanner

end ExprLang
