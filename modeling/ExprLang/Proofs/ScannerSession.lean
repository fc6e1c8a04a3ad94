import ExprLang.Lexical.Lossless
import ExprLang.Lexical.Scanner
import Mathlib.Data.List.Basic

/-!
# Sessions of a scanner

A scanner may be moved by characters and by segments, run over its text and given another one, in
any order. Whatever state that leaves behind, running it over its text next has the same outcome as
for a new scanner: the cursor, the line and what was found begin anew, and where a segment begins is
set with each segment. Only when there is no segment does the line of the last one stay.

## Main definitions

* `Scanner.Move`, `Scanner.move`, `Scanner.run`: the steps of a session and what they lead to.
* `Scanner.stepToEnd`: steps until the whole text has been read.
* `Scanner.Passes`: what reading segments leads to.

## Main statements

* `Scanner.stepToEnd_eq`, `Scanner.tokenize_eq_stepToEnd`: a run over a text is stepping to its end.
* `Scanner.passes_foldl`: what reading segments one by one leads to.
* `Scanner.tokenize_congr`: nothing but the text matters to a run over it.
* `Scanner.tokenize_run`: a run over the text after any session.
-/

namespace ExprLang

namespace Scanner

/-! ### Sessions -/

/-- A step of a session. -/
inductive Move where
  | tokenize
  | step
  | advance
  | accept (c : Char)
  | peek
  | peekNext
  | replace (source : String)

/-- The scanner after a move, which may have failed. -/
def move (s : Scanner) : Move → Scanner
  | .tokenize => s.tokenize
  | .step => s.step.2
  | .advance => s.advance.2
  | .accept c => (s.accept c).2
  | .peek | .peekNext => s
  | .replace source => s.withSource source

/-- The scanner after a session. -/
def run (s : Scanner) (session : List Move) : Scanner :=
  session.foldl move s

/-- The source after a move. -/
def Move.sourceAfter (source : String) : Move → String
  | .replace other => other
  | _ => source

variable {s t : Scanner} {piece : Segment} {pieces : List Segment}

/-! ### Reading segments -/

/-- What reading segments leads to: the cursor stands behind them, the lines that end in them are
counted, and what they contribute to a scan has been found. -/
structure Passes (s : Scanner) (pieces : List Segment) (t : Scanner) : Prop where
  source_eq : t.source = s.source
  current_eq : t.current = s.current + (pieces.flatMap Segment.text).length
  line_eq : t.line = s.line + (pieces.flatMap Segment.text).count '\n'
  tokens_eq : ∃ tokens, t.tokens.toList = s.tokens.toList ++ tokens ∧
    (Scan.ofSegments s.line pieces).tokens = tokens ++ [.endOfInput t.line]
  errors_eq : t.errors.toList = s.errors.toList ++ (Scan.ofSegments s.line pieces).errors

/-- Reading no segment changes nothing. -/
theorem Passes.refl (s : Scanner) : s.Passes [] s where
  source_eq := rfl
  current_eq := rfl
  line_eq := by simp
  tokens_eq := ⟨[], by simp, rfl⟩
  errors_eq := by simp [Scan.ofSegments]

/-- Reading one segment more. -/
theorem Passes.cons (h : (s.record piece).Passes pieces t) : s.Passes (piece :: pieces) t where
  source_eq := h.source_eq
  current_eq := by
    rw [h.current_eq, List.flatMap_cons, List.length_append, ← Nat.add_assoc]
    rfl
  line_eq := by
    rw [h.line_eq, List.flatMap_cons, List.count_append, Int.natCast_add, ← Int.add_assoc]
    rfl
  tokens_eq := by
    obtain ⟨tokens, found, ending⟩ := h.tokens_eq
    refine ⟨(piece.token? s.line).toList ++ tokens, ?_, ?_⟩
    · rw [found, ← List.append_assoc]
      simp [record, absorb]
    · rw [Scan.ofSegments, List.append_assoc, ← ending]
      rfl
  errors_eq := by
    rw [h.errors_eq, Scan.ofSegments, ← List.append_assoc]
    simp [record, absorb, mark]

/-- What reading segments one by one leads to. -/
theorem passes_foldl (pieces : List Segment) (s : Scanner) :
    s.Passes pieces (pieces.foldl record s) := by
  induction pieces generalizing s with
  | nil => exact .refl s
  | cons piece rest ih => exact .cons (ih (s.record piece))

/-! ### Stepping to the end -/

/-- A step, the fault of which is kept. -/
def stepNoting (s : Scanner) : Scanner :=
  match s.step with
  | (.error (.fault e), t) => { t with errors := t.errors ++ [e] }
  | (_, t) => t

/-- Before the end a step reads the first segment of what is left. -/
theorem stepNoting_eq {c : Char} {rest : List Char} (h : s.remaining = c :: rest) :
    s.stepNoting = s.record (Segment.first c rest) := by
  simp only [stepNoting, step, h, record]
  cases (Segment.first c rest).error? s.line with
  | none =>
    have unchanged : s.errors ++ ([] : List LexicalError) = s.errors := by simp
    rw [Option.toList_none, unchanged]
    rfl
  | some e => rfl

/-- What is left behind a segment. -/
theorem remaining_record (s : Scanner) (piece : Segment) :
    (s.record piece).remaining = s.remaining.drop piece.text.length := by
  simp [remaining, record, absorb, mark, List.drop_drop]

theorem atEnd_iff : s.atEnd = true ↔ s.remaining = [] := by
  simp [atEnd, remaining]

/-- Before the end a step leaves less than there was. So stepping to the end stops. -/
theorem length_remaining_stepNoting_lt (h : s.atEnd = false) :
    s.stepNoting.remaining.length < s.remaining.length := by
  cases left : s.remaining with
  | nil => simp [atEnd_iff.2 left] at h
  | cons c rest =>
    have some := List.length_pos_iff.2 (Segment.text_first_ne_nil c rest)
    rw [stepNoting_eq left, remaining_record, left, List.length_drop, List.length_cons]
    omega

/-- Steps until the whole text has been read. -/
def stepToEnd (s : Scanner) : Scanner :=
  if s.atEnd then s else s.stepNoting.stepToEnd
termination_by s.remaining.length
decreasing_by exact length_remaining_stepNoting_lt (by simpa using ‹¬s.atEnd = true›)

/-- The steps to the end read the segments of what is left. -/
theorem stepToEnd_eq (s : Scanner) :
    s.stepToEnd = (segments s.remaining).foldl record s := by
  induction s using stepToEnd.induct with
  | case1 s done => rw [stepToEnd, if_pos done, atEnd_iff.1 done, segments, List.foldl_nil]
  | case2 s notEnd ih =>
    obtain ⟨c, rest, left⟩ := List.exists_cons_of_ne_nil (mt atEnd_iff.2 notEnd)
    have behind : (s.record (Segment.first c rest)).remaining =
        rest.drop ((Segment.first c rest).text.length - 1) := by
      have some := List.length_pos_iff.2 (Segment.text_first_ne_nil c rest)
      rw [remaining_record, left, List.drop_cons some]
    rw [stepToEnd, if_neg notEnd, ih, stepNoting_eq left, behind, left, segments, List.foldl_cons]

/-- A run over a text is stepping from its beginning to its end, and adds the token for the end. -/
theorem tokenize_eq_stepToEnd (s : Scanner) : s.tokenize =
    { s.restart.stepToEnd with
      tokens := s.restart.stepToEnd.tokens.push (.endOfInput s.restart.stepToEnd.line) } := by
  rw [stepToEnd_eq]
  rfl

/-! ### Running over the text -/

/-- Two scanners of one text differ only in the line of the segment read last when they begin anew,
and the first segment sets that. -/
theorem tokenize_congr (h : s.source = t.source) : s.tokenize =
    { t.tokenize with
      startLine := if s.source = [] then s.startLine else t.tokenize.startLine } := by
  unfold tokenize
  rw [← h]
  cases cut : segments s.source with
  | nil =>
    have empty : s.source = [] := by
      have whole := segments_flatMap_text s.source
      rwa [cut, eq_comm] at whole
    simp [restart, ← h, empty]
  | cons piece rest =>
    have some : s.source ≠ [] := by
      intro empty
      rw [empty, segments] at cut
      cases cut
    -- The first segment sets the only field in which the two scanners may differ.
    have same : s.restart.record piece = t.restart.record piece := by
      simp only [restart, record, absorb, mark, h]
    simp only [List.foldl_cons, same, if_neg some]

/-- Only an exchange of the source changes it. -/
theorem source_move (s : Scanner) (m : Move) (source : String) (h : s.source = source.toList) :
    (s.move m).source = (m.sourceAfter source).toList := by
  cases m with
  | tokenize => exact (passes_foldl _ _).source_eq.trans h
  | step =>
    rw [move, step]
    split <;> exact h
  | advance =>
    rw [move, advance]
    split <;> exact h
  | accept c =>
    rw [move, accept]
    split <;> exact h
  | peek | peekNext => exact h
  | replace other => rfl

/-- Only an exchange of the source changes it. -/
theorem source_run (session : List Move) (s : Scanner) (source : String)
    (h : s.source = source.toList) :
    (s.run session).source = (session.foldl Move.sourceAfter source).toList := by
  induction session generalizing s source with
  | nil => exact h
  | cons m session ih => exact ih (s.move m) (m.sourceAfter source) (source_move s m source h)

/-- Where the last segment of a text begins, or the beginning when there is none. -/
def lastStart (text : List Char) : Nat :=
  ((segments text).dropLast.flatMap Segment.text).length

/-- A run over the text ends with the last segment. -/
theorem start_tokenize (s : Scanner) : s.tokenize.start = lastStart s.source := by
  unfold tokenize lastStart
  rcases List.eq_nil_or_concat' (segments s.source) with none | ⟨front, last, cut⟩
  · rw [none]
    rfl
  · rw [cut, List.dropLast_concat, List.foldl_append]
    exact (passes_foldl front s.restart).current_eq.trans (Nat.zero_add _)

/-- A run over the text after any session has the outcome of a scan of the source that the scanner
has then, and leaves the scanner as a new one would be left. Only when the source is empty does the
line of the segment read last stay as it was. -/
theorem tokenize_run (source : String) (session : List Move) :
    let s := (ofSource source).run session
    let now := session.foldl Move.sourceAfter source
    let fresh := (ofSource now).tokenize
    s.source = now.toList ∧
    s.tokenize.tokens.toList = (scan now).tokens ∧
    s.tokenize.errors.toList = (scan now).errors ∧
    s.tokenize.current = now.toList.length ∧
    s.tokenize.line = 1 + now.toList.count '\n' ∧
    s.tokenize.start = lastStart now.toList ∧
    s.tokenize =
      { fresh with startLine := if now.toList = [] then s.startLine else fresh.startLine } := by
  intro s now fresh
  have source_eq : s.source = now.toList := source_run session (ofSource source) source rfl
  have passes := passes_foldl (segments s.source) s.restart
  have whole := segments_flatMap_text s.source
  obtain ⟨tokens, found, ending⟩ := passes.tokens_eq
  refine ⟨source_eq, ?_, ?_, ?_, ?_, ?_, ?_⟩
  · rw [scan, ← source_eq]
    have scanned : (Scan.ofSegments 1 (segments s.source)).tokens = _ := ending
    rw [scanned, tokenize, Array.toList_push, found]
    rfl
  · rw [scan, ← source_eq]
    exact passes.errors_eq
  · rw [← source_eq]
    exact passes.current_eq.trans (by rw [whole]; exact Nat.zero_add _)
  · rw [← source_eq]
    exact passes.line_eq.trans (by rw [whole]; rfl)
  · rw [start_tokenize, source_eq]
  · have congr := tokenize_congr (s := s) (t := ofSource now) source_eq
    rwa [source_eq] at congr

end Scanner

end ExprLang
