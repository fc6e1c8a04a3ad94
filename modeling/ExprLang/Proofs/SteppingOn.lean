import ExprLang.Proofs.LineBreaks
import ExprLang.Proofs.ScannerSession

/-!
# Reading out a text step by step

A scanner that steps on from wherever it stands, until the whole text has been read, finds what a
scan of the rest of the text alone finds. What stands in front of the cursor, what has been found
there and where the last segment begins do not matter. The lines are counted on from the line that
the scanner is on, and a fault is answered by the step that comes to it and not kept.

## Main definitions

* `Scanner.Answer`, `Answer.token?`, `Answer.failure?`: what a step answers.
* `Scanner.readOut`: steps until the whole text has been read, with their answers.

## Main statements

* `Scanner.lexeme_step`: the token of a step is cut out of the source where the step has been.
* `Scanner.step_withErrors`, `Scanner.readOut_withErrors`: recorded errors do not matter to steps.
* `Scanner.stepToEnd_eq_readOut`: steps whose faults are kept differ in nothing else.
* `Scanner.readOut_scan`: steps to the end find what a scan of the rest finds.
-/

namespace ExprLang

/-- The token of a segment carries the text of the segment. This is what `Scanner.lexeme_step` rests
on. -/
theorem Segment.lexeme_of_token? {line : Int} {piece : Segment} {token : Token}
    (h : piece.token? line = some token) : token.lexeme.toList = piece.text := by
  cases piece with
  | lexeme kind chars =>
    cases h
    exact String.toList_ofList
  | skipped chars | unexpected c | unclosed chars => cases h

namespace Scanner

/-- What a step answers. -/
abbrev Answer := Except Failure (Option Token)

namespace Answer

/-- The token that a step answers. -/
def token? : Answer → Option Token
  | .ok found => found
  | .error _ => none

/-- The failure that a step answers. -/
def failure? : Answer → Option Failure
  | .ok _ => none
  | .error failure => some failure

/-- The fault that a step comes to. -/
def fault? : Answer → Option LexicalError
  | .error (.fault e) => some e
  | _ => none

/-- The answer to a segment that begins on a line. -/
def ofSegment (line : Int) (piece : Segment) : Answer :=
  match piece.error? line with
  | some e => .error (.fault e)
  | none => .ok (piece.token? line)

/-- A step answers the token of its segment. -/
theorem token?_ofSegment (line : Int) (piece : Segment) :
    (ofSegment line piece).token? = piece.token? line := by
  cases piece <;> rfl

/-- A step fails with the error of its segment. -/
theorem fault?_ofSegment (line : Int) (piece : Segment) :
    (ofSegment line piece).fault? = piece.error? line := by
  cases piece <;> rfl

/-- Where there is a segment the text is not exhausted. -/
theorem ofSegment_ne_exhausted (line : Int) (piece : Segment) :
    ofSegment line piece ≠ .error .exhausted := by
  cases piece <;> nofun

/-- A step that does not find the text exhausted fails with faults only. -/
theorem failure?_eq_fault? {answer : Answer} (h : answer ≠ .error .exhausted) :
    answer.failure? = answer.fault?.map .fault := by
  match answer, h with
  | .ok _, _ => rfl
  | .error (.fault _), _ => rfl
  | .error .exhausted, h => exact absurd rfl h

end Answer

variable {s : Scanner} {c : Char} {rest : List Char}

/-! ### One step -/

/-- At the end a step fails, and only marks that a segment would begin there. -/
theorem step_of_remaining_nil (h : s.remaining = []) : s.step = (.error .exhausted, s.mark) := by
  rw [step, h]

/-- Before the end a step reads the first segment of what is left. -/
theorem step_of_remaining_cons (h : s.remaining = c :: rest) :
    s.step = (Answer.ofSegment s.line (.first c rest), s.absorb (.first c rest)) := by
  rw [step, h]
  rfl

/-- Before the end there is a segment to read. -/
theorem exists_step (h : ¬s.atEnd) : ∃ c rest, s.remaining = c :: rest ∧
    s.step = (Answer.ofSegment s.line (.first c rest), s.absorb (.first c rest)) := by
  have some : s.remaining ≠ [] := mt atEnd_iff.2 h
  obtain ⟨c, rest, left⟩ := List.exists_cons_of_ne_nil some
  exact ⟨c, rest, left, step_of_remaining_cons left⟩

/-- The same scanner with other errors. -/
def withErrors (s : Scanner) (errors : Array LexicalError) : Scanner :=
  { s with errors := errors }

/-- The errors that have been recorded do not matter to a step, which leaves them as they are. -/
theorem step_withErrors (s : Scanner) (errors : Array LexicalError) :
    (s.withErrors errors).step = (s.step.1, s.step.2.withErrors errors) := by
  cases left : s.remaining with
  | nil =>
    have left' : (s.withErrors errors).remaining = [] := left
    rw [step_of_remaining_nil left, step_of_remaining_nil left']
    rfl
  | cons c rest =>
    have left' : (s.withErrors errors).remaining = c :: rest := left
    rw [step_of_remaining_cons left, step_of_remaining_cons left']
    rfl

/-- A step whose fault is kept is a step. -/
theorem stepNoting_eq_step (h : ¬s.atEnd) : s.stepNoting =
    s.step.2.withErrors (s.errors ++ (Answer.fault? s.step.1).toList) := by
  obtain ⟨c, rest, left, step⟩ := exists_step h
  rw [stepNoting_eq left, step, Answer.fault?_ofSegment]
  rfl

/-- A step adds the token that it answers. -/
theorem tokens_step (h : ¬s.atEnd) :
    s.step.2.tokens.toList = s.tokens.toList ++ (Answer.token? s.step.1).toList := by
  obtain ⟨c, rest, -, step⟩ := exists_step h
  rw [step, Answer.token?_ofSegment]
  exact Array.toList_appendList

/-- The token of a step is what the source holds from where the step began to where it ended. This
is for an observer between two steps, who sees the source and where the scanner stands: it tells
which part of the source the token has been cut from, which the answers alone do not. -/
theorem lexeme_step {token : Token} (h : s.step.1 = .ok (some token)) :
    token.lexeme.toList = (s.source.take s.step.2.current).drop s.step.2.start := by
  by_cases done : s.atEnd
  · rw [step_of_remaining_nil (atEnd_iff.1 done)] at h
    cases h
  obtain ⟨c, rest, left, step⟩ := exists_step done
  have front : (Segment.first c rest).text =
      s.remaining.take (Segment.first c rest).text.length := by
    rw [left]
    exact List.prefix_iff_eq_take.1 (Segment.isPrefix_text_first c rest)
  have found : (Segment.first c rest).token? s.line = some token := by
    rw [step] at h
    exact (Answer.token?_ofSegment s.line _).symm.trans (congrArg Answer.token? h)
  rw [step]
  change _ = (s.source.take (s.current + _)).drop s.current
  rw [List.drop_take, Nat.add_sub_cancel_left]
  change _ = s.remaining.take _
  rw [← front, Segment.lexeme_of_token? found]

theorem errors_step (h : ¬s.atEnd) : s.step.2.errors = s.errors := by
  obtain ⟨c, rest, -, step⟩ := exists_step h
  rw [step]
  rfl

/-- Before the end a step leaves less than there was. So stepping to the end stops. -/
theorem length_remaining_step_lt (h : ¬s.atEnd) :
    s.step.2.remaining.length < s.remaining.length := by
  have less := length_remaining_stepNoting_lt (Bool.eq_false_iff.2 h)
  rwa [stepNoting_eq_step h] at less

/-! ### Steps to the end -/

/-- Steps until the whole text has been read, with what they answer. -/
def readOut (s : Scanner) : List Answer × Scanner :=
  if s.atEnd then ([], s)
  else (s.step.1 :: s.step.2.readOut.1, s.step.2.readOut.2)
termination_by s.remaining.length
decreasing_by all_goals exact length_remaining_step_lt ‹_›

theorem readOut_of_atEnd (h : s.atEnd) : s.readOut = ([], s) := by
  rw [readOut, if_pos h]

theorem readOut_of_not_atEnd (h : ¬s.atEnd) :
    s.readOut = (s.step.1 :: s.step.2.readOut.1, s.step.2.readOut.2) := by
  rw [readOut, if_neg h]

/-- The errors that have been recorded do not matter to steps. -/
theorem readOut_withErrors (s : Scanner) (errors : Array LexicalError) :
    (s.withErrors errors).readOut = (s.readOut.1, s.readOut.2.withErrors errors) := by
  induction s using readOut.induct with
  | case1 s done =>
    have done' : (s.withErrors errors).atEnd := done
    rw [readOut_of_atEnd done, readOut_of_atEnd done']
  | case2 s notEnd ih =>
    have notEnd' : ¬(s.withErrors errors).atEnd := notEnd
    rw [readOut_of_not_atEnd notEnd, readOut_of_not_atEnd notEnd', step_withErrors, ih]

/-- Steps to the end lead there. -/
theorem atEnd_readOut (s : Scanner) : s.readOut.2.atEnd = true := by
  induction s using readOut.induct with
  | case1 s done => rwa [readOut_of_atEnd done]
  | case2 s notEnd ih => rwa [readOut_of_not_atEnd notEnd]

/-- Steps leave the errors that have been recorded as they are. -/
theorem errors_readOut (s : Scanner) : s.readOut.2.errors = s.errors := by
  induction s using readOut.induct with
  | case1 s done => rw [readOut_of_atEnd done]
  | case2 s notEnd ih => rw [readOut_of_not_atEnd notEnd, ih, errors_step notEnd]

/-- The steps add the tokens that they answer. -/
theorem tokens_readOut (s : Scanner) :
    s.readOut.2.tokens.toList = s.tokens.toList ++ s.readOut.1.filterMap Answer.token? := by
  induction s using readOut.induct with
  | case1 s done => simp [readOut_of_atEnd done]
  | case2 s notEnd ih =>
    rw [readOut_of_not_atEnd notEnd, ih, tokens_step notEnd, List.append_assoc, List.filterMap_cons]
    cases Answer.token? s.step.1 <;> rfl

/-- There are no more steps than characters left. -/
theorem length_readOut_le (s : Scanner) : s.readOut.1.length ≤ s.remaining.length := by
  induction s using readOut.induct with
  | case1 s done => simp [readOut_of_atEnd done]
  | case2 s notEnd ih =>
    have less := length_remaining_step_lt notEnd
    rw [readOut_of_not_atEnd notEnd, List.length_cons]
    omega

/-- Steps to the end fail with faults only. -/
theorem filterMap_failure?_readOut (s : Scanner) : s.readOut.1.filterMap Answer.failure? =
    (s.readOut.1.filterMap Answer.fault?).map .fault := by
  rw [List.map_filterMap]
  apply List.filterMap_congr
  induction s using readOut.induct with
  | case1 s done => simp [readOut_of_atEnd done]
  | case2 s notEnd ih =>
    obtain ⟨c, rest, -, step⟩ := exists_step notEnd
    rw [readOut_of_not_atEnd notEnd, List.forall_mem_cons]
    refine ⟨Answer.failure?_eq_fault? ?_, ih⟩
    rw [step]
    exact Answer.ofSegment_ne_exhausted s.line _

/-- Steps to the end whose faults are kept differ from the steps in nothing but that. -/
theorem stepToEnd_eq_readOut (s : Scanner) : s.stepToEnd =
    s.readOut.2.withErrors (s.errors ++ s.readOut.1.filterMap Answer.fault?) := by
  induction s using stepToEnd.induct with
  | case1 s done => simp [stepToEnd, done, readOut_of_atEnd done, withErrors]
  | case2 s notEnd ih =>
    rw [stepToEnd, if_neg notEnd, ih, stepNoting_eq_step notEnd, readOut_withErrors,
      readOut_of_not_atEnd notEnd, List.filterMap_cons]
    cases Answer.fault? s.step.1 <;> simp [withErrors]

/-- What the steps to the end read, apart from the faults that they answer. -/
theorem passes_readOut (s : Scanner) : s.Passes (segments s.remaining)
    (s.readOut.2.withErrors (s.errors ++ s.readOut.1.filterMap Answer.fault?)) := by
  rw [← stepToEnd_eq_readOut, stepToEnd_eq]
  exact passes_foldl (segments s.remaining) s

/-- What the rest of the text contributes on the line that the scanner is on. -/
theorem ofSegments_remaining (s : Scanner) : Scan.ofSegments s.line (segments s.remaining) =
    (scan (String.ofList s.remaining)).later (s.line - 1) := by
  have counted : 1 + (s.line - 1) = s.line := by omega
  rw [scan, String.toList_ofList, ← Scan.ofSegments_add, counted]

/-- A scanner that steps on to the end of its text, wherever it stands, answers and adds the tokens
of a scan of the rest alone but the end of the input, and fails with the errors of that scan, with
all lines counted on from its own. It takes at most one step a character, and stands at the end with
the line breaks of the rest counted. -/
theorem readOut_scan (s : Scanner) (within : s.current ≤ s.source.length) :
    let rest := s.source.drop s.current
    let found := (scan (String.ofList rest)).later (s.line - 1)
    let answers := s.readOut.1
    let t := s.readOut.2
    (∃ tokens, found.tokens = tokens ++ [.endOfInput t.line] ∧
      (∀ token ∈ tokens, token.isEnd = false) ∧
      answers.filterMap Answer.token? = tokens ∧
      t.tokens.toList = s.tokens.toList ++ tokens) ∧
    answers.filterMap Answer.failure? = found.errors.map .fault ∧
    answers.length ≤ rest.length ∧
    t.atEnd = true ∧
    t.source = s.source ∧
    t.current = s.source.length ∧
    t.line = s.line + rest.count '\n' ∧
    t.errors = s.errors := by
  intro rest found answers t
  -- With their faults kept, the steps pass the segments of the rest. All that is claimed is read
  -- off from that and from what is known about the steps themselves.
  have passes := passes_readOut s
  have whole : (segments s.remaining).flatMap Segment.text = rest := segments_flatMap_text rest
  have scanned : Scan.ofSegments s.line (segments s.remaining) = found := ofSegments_remaining s
  obtain ⟨tokens, added, ending⟩ := passes.tokens_eq
  rw [scanned] at ending
  have answered : answers.filterMap Answer.token? = tokens :=
    List.append_cancel_left ((tokens_readOut s).symm.trans added)
  have faults : answers.filterMap Answer.fault? = found.errors := by
    have kept := passes.errors_eq
    rw [scanned] at kept
    simpa [withErrors] using kept
  refine ⟨⟨tokens, ending, ?_, answered, added⟩, ?_, length_readOut_le s, atEnd_readOut s,
    passes.source_eq, ?_, ?_, errors_readOut s⟩
  · rw [← scanned] at ending
    exact isEnd_eq_false_of_ofSegments ending
  · rw [filterMap_failure?_readOut, faults]
  · have stands := passes.current_eq
    rw [whole, List.length_drop] at stands
    change t.current = _ at stands
    omega
  · have counted := passes.line_eq
    rw [whole] at counted
    exact counted

/-- A scanner that has been run over one text and stands within a name of another: neither
what was found in the first text nor the front of the name matters. -/
theorem readOut_scan_within_name :
    let s := (ofSource "?\n#").run [.tokenize, .replace "#\n\tname\n@ <", .advance]
    let rest := s.source.drop s.current
    let found := (scan (String.ofList rest)).later (s.line - 1)
    let answers := s.readOut.1
    let t := s.readOut.2
    s.current ≤ s.source.length ∧
    (∃ tokens, found.tokens = tokens ++ [.endOfInput t.line] ∧
      (∀ token ∈ tokens, token.isEnd = false) ∧
      answers.filterMap Answer.token? = tokens ∧
      t.tokens.toList = s.tokens.toList ++ tokens) ∧
    answers.filterMap Answer.failure? = found.errors.map .fault ∧
    answers.length ≤ rest.length ∧
    t.atEnd = true ∧
    t.source = s.source ∧
    t.current = s.source.length ∧
    t.line = s.line + rest.count '\n' ∧
    t.errors = s.errors := by
  intro s
  have within : s.current ≤ s.source.length := by decide +kernel
  exact ⟨within, readOut_scan s within⟩

end Scanner

end ExprLang
