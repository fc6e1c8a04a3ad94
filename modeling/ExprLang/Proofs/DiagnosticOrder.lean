import ExprLang.Analysis
import ExprLang.Proofs.Ascending
import ExprLang.Proofs.Limits
import ExprLang.Proofs.LongestMatch

/-!
# The order of diagnostics

The diagnostics of a source are two blocks, the lexical ones and the ones of the grammar, and in
each block the lines never decrease. For the lexical block this is how segments follow one another.
For the other one the tokens of a scan stand on lines that never decrease, and errors are tied to
tokens further and further on.

## Main definitions

* `Rising`: lines that never decrease and stay in a range.
* `Diagnostic.Block`: diagnostics of some classes of faults, on rising lines.

## Main statements

* `Scan.rising_ofSegments`: the lines of tokens and of lexical errors.
* `Munches.cause_ne_unclosed`: only the last lexical error can be about an open quote.
* `Input.Ascending.rising`: the lines of errors at tokens further and further on.
* `analyse_diagnostics`: the diagnostics of a source.
-/

namespace ExprLang

/-! ### Rising lines -/

/-- Whether lines never decrease and stay in a range. -/
structure Rising (low high : Int) (lines : List Int) : Prop where
  pairwise : lines.Pairwise (· ≤ ·)
  within : ∀ line ∈ lines, low ≤ line ∧ line ≤ high

namespace Rising

variable {low middle high line : Int} {lines lines' : List Int}

theorem nil : Rising low high [] :=
  ⟨.nil, by simp⟩

theorem singleton (above : low ≤ line) (below : line ≤ high) : Rising low high [line] :=
  ⟨List.pairwise_singleton _ _, by simpa using ⟨above, below⟩⟩

/-- Rising lines stay so when others follow that rise from where they have ended. -/
theorem append (first : Rising low middle lines) (second : Rising middle high lines')
    (le : low ≤ middle) (le' : middle ≤ high) : Rising low high (lines ++ lines') := by
  constructor
  · refine List.pairwise_append.2 ⟨first.pairwise, second.pairwise, fun a mem b mem' => ?_⟩
    exact Int.le_trans (first.within a mem).2 (second.within b mem').1
  · intro line mem
    rcases List.mem_append.1 mem with mem | mem
    · exact ⟨(first.within line mem).1, Int.le_trans (first.within line mem).2 le'⟩
    · exact ⟨Int.le_trans le (second.within line mem).1, (second.within line mem).2⟩

end Rising

/-! ### Scans -/

namespace Segment

/-- The token of a segment is on a line of the segment. -/
theorem rising_token? (line : Int) (piece : Segment) :
    Rising line (line + piece.newlines) ((piece.token? line).toList.map Token.line) := by
  have range : line ≤ line + piece.newlines := Int.le_add_of_nonneg_right (Int.natCast_nonneg _)
  cases piece with
  | lexeme kind chars => exact .singleton (Int.le_refl _) range
  | skipped chars | unexpected c | unclosed chars => exact .nil

/-- The error of a segment is on a line of the segment, also when it is noticed where that ends. -/
theorem rising_error? (line : Int) (piece : Segment) :
    Rising line (line + piece.newlines) ((piece.error? line).toList.map LexicalError.line) := by
  have range : line ≤ line + piece.newlines := Int.le_add_of_nonneg_right (Int.natCast_nonneg _)
  cases piece with
  | lexeme kind chars | skipped chars => exact .nil
  | unexpected c => exact .singleton (Int.le_refl _) range
  | unclosed chars => exact .singleton range (Int.le_refl _)

end Segment

/-- The lines of what segments contribute, which end as many lines as there are newlines. -/
theorem Scan.rising_ofSegments (line : Int) (pieces : List Segment) :
    let last := line + (pieces.flatMap Segment.text).count '\n'
    Rising line last ((ofSegments line pieces).tokens.map Token.line) ∧
      Rising line last ((ofSegments line pieces).errors.map LexicalError.line) := by
  induction pieces generalizing line with
  | nil => exact ⟨.singleton (Int.le_refl _) (by simp [Token.endOfInput]), .nil⟩
  | cons piece rest ih =>
    have onward : line + ((piece :: rest).flatMap Segment.text).count '\n' =
        line + piece.newlines + (rest.flatMap Segment.text).count '\n' := by
      rw [List.flatMap_cons, List.count_append, Segment.newlines]
      omega
    have first : line ≤ line + piece.newlines := by omega
    have second : line + piece.newlines ≤
        line + piece.newlines + (rest.flatMap Segment.text).count '\n' := by omega
    obtain ⟨tokens, errors⟩ := ih (line + piece.newlines)
    simp only [onward, ofSegments, List.map_append]
    exact ⟨(piece.rising_token? line).append tokens first second,
      (piece.rising_error? line).append errors first second⟩

/-- Nothing is left behind an open quote, and so only the last error can be about one. -/
theorem Munches.cause_ne_unclosed {text : List Char} {pieces : List Segment}
    (h : Munches text pieces) (line : Int) :
    ∀ e ∈ (Scan.ofSegments line pieces).errors.dropLast, e.cause ≠ .unclosed := by
  induction h generalizing line with
  | nil => simp [Scan.ofSegments]
  | @cons piece behind rest longest cut ih =>
    have later := ih (line + piece.newlines)
    rw [Scan.ofSegments]
    cases longest.1 with
    | lexeme _ | comment _ | blank _ => exact later
    | unclosed _ =>
      have none : rest = [] := by rw [munches_iff.1 cut, segments]
      simp [none, Scan.ofSegments, Segment.error?]
    | unexpected _ _ _ _ _ _ =>
      simp only [Segment.error?, Option.toList_some, List.singleton_append]
      generalize (Scan.ofSegments _ rest).errors = behind at later ⊢
      cases behind with
      | nil => simp
      | cons next errors => exact List.forall_mem_cons.2 ⟨LexicalError.Cause.noConfusion, later⟩

/-! ### Errors of the grammar -/

/-- The error that a fault is reported as is tied to the token at the index of the fault, where the
token that ends the input stands behind all others. -/
theorem Input.getElem?_siteIndex {input : Input} {failure : Failure}
    (within : failure.site <:+ input.tokens) :
    (input.tokens ++ [input.stop])[input.siteIndex failure]? =
      some (input.report failure).token := by
  obtain ⟨front, whole⟩ := within
  have index : input.siteIndex failure = front.length := position_of_eq_append whole.symm
  -- A fault that is noticed at no token is noticed at the end, behind all of them.
  rw [index, ← whole, List.append_assoc, List.getElem?_append_right (Nat.le_refl _), Nat.sub_self,
    report, firstOf]
  cases failure.site <;> rfl

/-- Errors at tokens further and further on stand on rising lines when the tokens do. -/
theorem Input.Ascending.rising {input : Input} {index : Nat} {faults : List Failure}
    {low high : Int}
    (h : input.Ascending index faults)
    (lines : Rising low high ((input.tokens ++ [input.stop]).map Token.line)) :
    Rising low high ((faults.map input.report).map fun e => e.token.line) := by
  have found (failure : Failure) (mem : failure ∈ faults) :
      ((input.tokens ++ [input.stop]).map Token.line)[input.siteIndex failure]? =
        some (input.report failure).token.line := by
    rw [List.getElem?_map, getElem?_siteIndex (h.site_isSuffix failure mem), Option.map_some]
  rw [List.map_map]
  constructor
  · rw [List.pairwise_map]
    refine (List.pairwise_map.1 h.increasing).imp_of_mem fun {a b} mem mem' less => ?_
    obtain ⟨inside, first⟩ := List.getElem?_eq_some_iff.1 (found a mem)
    obtain ⟨inside', second⟩ := List.getElem?_eq_some_iff.1 (found b mem')
    have ordered := List.pairwise_iff_getElem.1 lines.pairwise _ _ inside inside' less
    rwa [first, second] at ordered
  · rw [List.forall_mem_map]
    exact fun failure mem => lines.within _ (List.mem_of_getElem? (found failure mem))

namespace Parser

/-- There is no tree if and only if there is an error. -/
theorem parse_fst_eq_none_iff (p : Parser) : p.parse.1 = none ↔ p.parse.2.errors ≠ [] := by
  rw [ne_eq, ← List.head?_eq_none_iff, head?_errors_parse, Option.map_eq_none_iff,
    fault?_eq_none_iff_tree?, parse_fst, Option.not_isSome_iff_eq_none]

end Parser

/-! ### Diagnostics -/

/-- Whether diagnostics are about faults of the given classes, and stand on rising lines down to the
last. -/
structure Diagnostic.Block (classes : List ErrorCode) (last : Int) (reports : List Diagnostic) :
    Prop where
  code_mem : ∀ d ∈ reports, ∃ code ∈ classes, d.code = some code.name
  rising : Rising 1 last (reports.map Diagnostic.line)

/-- No class of lexical faults has the code of a class of faults in the grammar. -/
theorem ErrorCode.name_ne_name : ∀ code ∈ lexical, ∀ other ∈ grammatical,
    code.name ≠ other.name := by
  decide

namespace Diagnostic.Block

variable {last last' : Int} {reports reports' : List Diagnostic}

/-- Behind lexical diagnostics, those of the grammar are known by their codes. -/
theorem exists_grammatical_iff (lexical : Block ErrorCode.lexical last reports)
    (grammatical : Block ErrorCode.grammatical last' reports') :
    (∃ d ∈ reports ++ reports', ∃ code ∈ ErrorCode.grammatical, d.code = some code.name) ↔
      reports' ≠ [] := by
  constructor
  · rintro ⟨d, mem, code, faulty, named⟩ rfl
    rw [List.append_nil] at mem
    obtain ⟨other, harmless, named'⟩ := lexical.code_mem d mem
    rw [named'] at named
    exact ErrorCode.name_ne_name other harmless code faulty (Option.some.inj named)
  · intro some
    obtain ⟨d, mem⟩ := List.exists_mem_of_ne_nil _ some
    exact ⟨d, List.mem_append_right _ mem, grammatical.code_mem d mem⟩

/-- All reports are lexical when there are no grammatical ones, since no code is of both classes. -/
theorem forall_lexical_iff (lexical : Block ErrorCode.lexical last reports)
    (grammatical : Block ErrorCode.grammatical last' reports') :
    (∀ d ∈ reports ++ reports', ∃ code ∈ ErrorCode.lexical, d.code = some code.name) ↔
      reports' = [] := by
  constructor
  · intro harmless
    by_contra some
    obtain ⟨d, mem, code, faulty, named⟩ := (lexical.exists_grammatical_iff grammatical).2 some
    obtain ⟨other, mem', named'⟩ := harmless d mem
    rw [named'] at named
    exact ErrorCode.name_ne_name other mem' code faulty (Option.some.inj named)
  · rintro rfl
    rw [List.append_nil]
    exact lexical.code_mem

end Diagnostic.Block

/-- The tokens of a scan are the input of a parser and the token that ends it. -/
theorem Input.tokens_append_stop_of_scan (source : String) :
    (ofTokens (scan source).tokens).tokens ++ [(ofTokens (scan source).tokens).stop] =
      (scan source).tokens := by
  obtain ⟨⟨tokens, last, whole, denote⟩, -⟩ := scan_denotes source
  obtain ⟨inside, stop⟩ := ofTokens_append_end (isEnd_eq_false_of_denotes denote)
    (show (Token.endOfInput last).kind = .endOfInput from rfl)
  rw [whole, inside, stop]

/-- Lexical errors are reported on rising lines. -/
theorem block_lexical (source : String) :
    Diagnostic.Block ErrorCode.lexical (1 + source.toList.count '\n')
      ((scan source).errors.map LexicalError.diagnostic) := by
  have lines := (Scan.rising_ofSegments 1 (segments source.toList)).2
  rw [segments_flatMap_text] at lines
  constructor
  · rw [List.forall_mem_map]
    intro e _
    refine ⟨e.cause.code, ?_, rfl⟩
    cases e.cause <;> simp [LexicalError.Cause.code, ErrorCode.lexical]
  · rw [List.map_map]
    exact lines

/-- However tall an expression may be, the errors of the grammar are reported on rising lines. -/
theorem block_grammatical (source : String) (limit : Int) :
    Diagnostic.Block ErrorCode.grammatical (1 + source.toList.count '\n')
      ((Parser.ofTokens (scan source).tokens true limit).parse.2.errors.map
        GrammarError.diagnostic) := by
  have lines := (Scan.rising_ofSegments 1 (segments source.toList)).1
  rw [segments_flatMap_text, ← scan, ← Input.tokens_append_stop_of_scan] at lines
  constructor
  · rw [List.forall_mem_map]
    intro e _
    refine ⟨e.cause.code, ?_, rfl⟩
    cases e.cause <;> simp [GrammarError.Cause.code, ErrorCode.grammatical]
  · have ascending := Parser.faults_ascending
      (p := Parser.ofTokens (scan source).tokens true limit) rfl
    rw [Parser.errors_parse_eq rfl, List.map_map]
    exact ascending.rising lines

/-- The diagnostics of a source are a block of lexical ones and then a block of those of the
grammar, each on lines of the source that never decrease. An open quote is reported at the end of
the first block, and so at most once. A source has no tree if and only if one of its diagnostics is
about the grammar, and it has one if and only if all of them are lexical. -/
theorem analyse_diagnostics (source : String) :
    let found : Analysis := analyse source
    let last : Int := 1 + source.toList.count '\n'
    (∃ lexical grammatical, found.diagnostics = lexical ++ grammatical ∧
      Diagnostic.Block ErrorCode.lexical last lexical ∧
      Diagnostic.Block ErrorCode.grammatical last grammatical ∧
      ∀ d ∈ lexical.dropLast, d.code ≠ some ErrorCode.unclosedText.name) ∧
    (found.expr? = none ↔
      ∃ d ∈ found.diagnostics, ∃ code ∈ ErrorCode.grammatical, d.code = some code.name) ∧
    ((∃ tree, found.expr? = some tree) ↔
      ∀ d ∈ found.diagnostics, ∃ code ∈ ErrorCode.lexical, d.code = some code.name) := by
  intro found last
  let parsed := (Parser.ofTokens (scan source).tokens true defaultLimit).parse
  have lexical := block_lexical source
  have grammatical := block_grammatical source defaultLimit
  have missing : found.expr? = none ↔ parsed.2.errors.map GrammarError.diagnostic ≠ [] := by
    rw [ne_eq, List.map_eq_nil_iff]
    exact Parser.parse_fst_eq_none_iff _
  refine ⟨⟨_, _, rfl, lexical, grammatical, ?_⟩, ?_, ?_⟩
  · -- A quote that is left open takes all that follows, so its error is the last one.
    have cut : Munches source.toList (segments source.toList) := munches_iff.2 rfl
    rw [← List.map_dropLast, List.forall_mem_map]
    intro e mem
    have closed := cut.cause_ne_unclosed 1 e mem
    cases cause : e.cause with
    | unexpected c => simp [LexicalError.diagnostic, cause, LexicalError.Cause.code, ErrorCode.name]
    | unclosed => exact absurd cause closed
  · exact missing.trans (lexical.exists_grammatical_iff grammatical).symm
  · refine Iff.trans ?_ (lexical.forall_lexical_iff grammatical).symm
    rw [← Option.ne_none_iff_exists']
    exact (not_congr missing).trans not_not

end ExprLang
