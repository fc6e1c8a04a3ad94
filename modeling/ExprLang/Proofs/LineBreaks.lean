import ExprLang.Proofs.LongestMatch

/-!
# Scanning across a line break

Only texts in quotes go on over the end of a line. So a line break behind a text without an open
quote is a segment by itself: the segments in front of it are those of the text alone, and those
behind it are cut as if the rest stood alone. The scan of the whole is the two scans in a row, with
the lines of the second counted on from the last line of the first.

## Main definitions

* `Token.later`, `LexicalError.later`, `Scan.later`: the same further down.

## Main statements

* `Segment.first_append_newline`: a line break does not change the first segment.
* `segments_append_newline`: the segments around a line break.
* `Scan.ofSegments_append`, `Scan.ofSegments_add`: scans one behind the other, and further down.
* `scan_append_newline`: the scan of two texts with a line break between them.
-/

namespace ExprLang

variable {c : Char} {text rest more : List Char}

/-! ### Runs in front of a line break -/

section

variable {p : Char → Bool}

/-- A run of characters that stops at a newline is the same with a newline and more behind the text.
-/
theorem takeWhile_append_newline (stop : p '\n' = false) :
    (text ++ '\n' :: more).takeWhile p = text.takeWhile p := by
  induction text with
  | nil => simp [stop]
  | cons c rest ih =>
    rw [List.cons_append, List.takeWhile_cons, List.takeWhile_cons, ih]

/-- What is left behind such a run goes on with the newline. -/
theorem dropWhile_append_newline (stop : p '\n' = false) :
    (text ++ '\n' :: more).dropWhile p = text.dropWhile p ++ '\n' :: more := by
  induction text with
  | nil => simp [stop]
  | cons c rest ih =>
    rw [List.cons_append, List.dropWhile_cons, List.dropWhile_cons, ih]
    split
    · rfl
    · rfl

end

/-- No character but the newline is next that was not next before. -/
theorem head?_append_newline (apart : c ≠ '\n') :
    (rest ++ '\n' :: more).head? = some c ↔ rest.head? = some c := by
  cases rest with
  | nil => simp [apart.symm]
  | cons d rest => rfl

/-- A point at the end of a line has no decimal places. -/
theorem decimalPlaces_append_newline :
    decimalPlaces (rest ++ '\n' :: more) = decimalPlaces rest := by
  by_cases point : rest.head? = some '.'
  · obtain ⟨tail, rfl⟩ := List.head?_eq_some_iff.1 point
    cases tail with
    | nil => rfl
    | cons d tail =>
      change (if d.isDigit then '.' :: d :: (tail ++ '\n' :: more).takeWhile Char.isDigit
      else []) = _
      rw [takeWhile_append_newline rfl]
      rfl
  · have point' : (rest ++ '\n' :: more).head? ≠ some '.' :=
      mt (head?_append_newline (by decide)).1 point
    rw [decimalPlaces_eq_nil point, decimalPlaces_eq_nil point']

/-- A numeral ends before a newline. -/
theorem numeral_append_newline : numeral (text ++ '\n' :: more) = numeral text := by
  rw [numeral, takeWhile_append_newline rfl, dropWhile_append_newline rfl,
    decimalPlaces_append_newline, numeral]

/-! ### The first segment -/

namespace Segment

/-- An operator mark is not lengthened by a newline. -/
theorem ofOperator_append_newline {short long : Kind} :
    ofOperator c short long (rest ++ '\n' :: more) = ofOperator c short long rest := by
  unfold ofOperator
  simp only [head?_append_newline (show '=' ≠ '\n' by decide)]

/-- A comment ends before a newline. -/
theorem ofSlash_append_newline : ofSlash (rest ++ '\n' :: more) = ofSlash rest := by
  unfold ofSlash
  simp only [head?_append_newline (show '/' ≠ '\n' by decide)]
  rw [takeWhile_append_newline (by decide)]

/-- A quoted text that is closed ends at the closing quote, whatever follows. -/
theorem ofQuote_append (closed : '"' ∈ rest) : ofQuote (rest ++ more) = ofQuote rest := by
  obtain ⟨body, behind, rfl, free⟩ := List.eq_append_cons_of_mem closed
  rw [List.append_assoc, List.cons_append, ofQuote_of_closed free, ofQuote_of_closed free]

/-- A line break behind a text does not change its first segment, unless that is left open. -/
theorem first_append_newline (closed : (first c rest).cause? ≠ some .unclosed) :
    first c (rest ++ '\n' :: more) = first c rest := by
  by_cases mark : c ∈ Kind.marks
  · rcases List.mem_append.1 mark with symbol | operator
    · obtain ⟨⟨_, kind⟩, mem, rfl⟩ := List.mem_map.1 symbol
      rw [first_symbol mem, first_symbol mem]
    · obtain ⟨⟨_, short, long⟩, mem, rfl⟩ := List.mem_map.1 operator
      rw [first_operator mem, first_operator mem, ofOperator_append_newline]
  by_cases quote : c = '"'
  · subst quote
    rw [first_quote] at closed ⊢
    rw [first_quote]
    apply ofQuote_append
    by_contra unclosed
    rw [ofQuote, if_neg unclosed] at closed
    exact closed rfl
  -- In all other cases both sides branch on the character alone.
  rw [first_of_not_mem_marks mark, first_of_not_mem_marks mark, if_neg quote, if_neg quote,
    ofSlash_append_newline, takeWhile_append_newline (by decide), ← List.cons_append,
    numeral_append_newline]

end Segment

/-! ### Segments -/

/-- A line break behind a text that leaves no quote open is a segment by itself. -/
theorem segments_append_newline
    (closed : ∀ piece ∈ segments text, piece.cause? ≠ some .unclosed) (more : List Char) :
    segments (text ++ '\n' :: more) = segments text ++ .skipped ['\n'] :: segments more := by
  fun_induction segments text with
  | case1 =>
    have first : Segment.first '\n' ([] ++ more) = .skipped ['\n'] :=
      Segment.first_blank (by decide)
    exact segments_append rfl first
  | case2 c rest piece ih =>
    rw [List.forall_mem_cons] at closed
    have within : piece.text.length - 1 ≤ rest.length := by
      have bound := (Segment.isPrefix_text_first c rest).length_le
      rw [List.length_cons] at bound
      exact Nat.sub_le_of_le_add bound
    rw [List.cons_append, segments, Segment.first_append_newline closed.1,
      List.drop_append_of_le_length within, ih closed.2]
    rfl

/-! ### Scans further down -/

/-- The same token a number of lines further down. -/
def Token.later (lines : Int) (token : Token) : Token :=
  { token with line := token.line + lines }

/-- The same error a number of lines further down. -/
def LexicalError.later (lines : Int) (e : LexicalError) : LexicalError :=
  { e with line := e.line + lines }

/-- The same tokens and errors a number of lines further down. -/
def Scan.later (lines : Int) (found : Scan) : Scan :=
  ⟨found.tokens.map (Token.later lines), found.errors.map (LexicalError.later lines)⟩

/-- The line of a token is counted on from that of its segment. -/
theorem Segment.token?_add (line lines : Int) (piece : Segment) :
    piece.token? (line + lines) = (piece.token? line).map (Token.later lines) := by
  cases piece <;> rfl

/-- The line of an error is counted on from that of its segment. -/
theorem Segment.error?_add (line lines : Int) (piece : Segment) :
    piece.error? (line + lines) = (piece.error? line).map (LexicalError.later lines) := by
  cases piece with
  | unclosed chars =>
    -- This one is reported on the line that the text ends on.
    simp only [error?, Option.map_some, LexicalError.later, Int.add_right_comm]
  | _ => rfl

namespace Scan

/-- Segments that begin further down contribute the same further down. -/
theorem ofSegments_add (line lines : Int) (pieces : List Segment) :
    ofSegments (line + lines) pieces = (ofSegments line pieces).later lines := by
  induction pieces generalizing line with
  | nil => rfl
  | cons piece rest ih =>
    have onward : line + lines + piece.newlines = line + piece.newlines + lines :=
      Int.add_right_comm ..
    simp only [ofSegments, onward, ih, Segment.token?_add, Segment.error?_add, later,
      List.map_append, Option.toList_map]

/-- Segments in a row contribute what they contribute one behind the other. -/
theorem ofSegments_append (line : Int) (front behind : List Segment) :
    ∃ tokens last, (ofSegments line front).tokens = tokens ++ [.endOfInput last] ∧
      ofSegments line (front ++ behind) =
        ⟨tokens ++ (ofSegments last behind).tokens,
          (ofSegments line front).errors ++ (ofSegments last behind).errors⟩ := by
  induction front generalizing line with
  | nil => exact ⟨[], line, rfl, rfl⟩
  | cons piece rest ih =>
    obtain ⟨tokens, last, ending, whole⟩ := ih (line + piece.newlines)
    refine ⟨(piece.token? line).toList ++ tokens, last, ?_, ?_⟩
    · rw [ofSegments, ending, List.append_assoc]
    · simp only [List.cons_append, ofSegments, whole, List.append_assoc]

end Scan

/-- A scan that reports no open quote has no segment that is one. -/
theorem cause?_ne_unclosed_of_scan {source : String}
    (closed : ∀ e ∈ (scan source).errors, e.cause ≠ .unclosed) :
    ∀ piece ∈ segments source.toList, piece.cause? ≠ some .unclosed := by
  obtain ⟨-, causes⟩ := scan_denotes source
  intro piece mem unclosed
  have reported := List.mem_filterMap.2 ⟨piece, mem, unclosed⟩
  rw [← causes] at reported
  obtain ⟨e, found, cause⟩ := List.mem_map.1 reported
  exact closed e found cause

/-- The scan of two texts with a line break between them, the first of which leaves no quote open:
the tokens of the first without the end of the input and then those of the second, the errors of the
first and then those of the second, and all lines of the second counted on from the last line of the
first. -/
theorem scan_append_newline (a b : String)
    (closed : ∀ e ∈ (scan a).errors, e.cause ≠ .unclosed) :
    ∃ tokens last, (scan a).tokens = tokens ++ [.endOfInput last] ∧
      (∀ token ∈ tokens, token.isEnd = false) ∧
      scan (a ++ "\n" ++ b) =
        ⟨tokens ++ ((scan b).later last).tokens,
          (scan a).errors ++ ((scan b).later last).errors⟩ := by
  have pieces := segments_append_newline (cause?_ne_unclosed_of_scan closed) b.toList
  obtain ⟨tokens, last, ending, whole⟩ := Scan.ofSegments_append 1 (segments a.toList)
    (.skipped ['\n'] :: segments b.toList)
  -- The line break itself contributes nothing but a line.
  have onward : Scan.ofSegments last (.skipped ['\n'] :: segments b.toList) =
      (scan b).later last := by
    rw [scan, ← Scan.ofSegments_add, Int.add_comm]
    rfl
  have source : (a ++ "\n" ++ b).toList = a.toList ++ '\n' :: b.toList := by simp
  refine ⟨tokens, last, ending, isEnd_eq_false_of_scan ending, ?_⟩
  rw [scan, source, pieces, whole, onward]
  rfl

/-- An operator at the end of a line does not go on in the next one. -/
theorem scan_append_newline_less :
    (∀ e ∈ (scan "a ? <").errors, e.cause ≠ .unclosed) ∧
      ∃ tokens last, (scan "a ? <").tokens = tokens ++ [.endOfInput last] ∧
        (∀ token ∈ tokens, token.isEnd = false) ∧
        scan ("a ? <" ++ "\n" ++ "= \"\n\" b") =
          ⟨tokens ++ ((scan "= \"\n\" b").later last).tokens,
            (scan "a ? <").errors ++ ((scan "= \"\n\" b").later last).errors⟩ := by
  have closed : ∀ e ∈ (scan "a ? <").errors, e.cause ≠ .unclosed := by decide +kernel
  exact ⟨closed, scan_append_newline _ _ closed⟩

end ExprLang
