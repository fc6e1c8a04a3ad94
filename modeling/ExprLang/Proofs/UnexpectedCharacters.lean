import ExprLang.Proofs.DiagnosticOrder
import ExprLang.Proofs.EndsAlike
import ExprLang.Proofs.Places

/-!
# Unexpected characters as blanks

A character that begins nothing separates what stands around it as a blank would, and it is a
segment by itself. So a source in which these characters are replaced by blanks has the same tokens
on the same lines, and it is parsed alike. Only the reports about these characters are gone.

## Main definitions

* `unexpectedAt`: where a text holds unexpected characters.
* `blanked`: a source with blanks in place of them.

## Main statements

* `mapIdx_blanked`: replacing the characters replaces their segments.
* `Munches.blanked`: longest matches stay longest matches.
* `scan_blanked`: the scan and the analysis of a source with blanks in place of the characters.
-/

namespace ExprLang

/-- The offsets of unexpected characters among places, with the characters. -/
def unexpectedIn (found : List Place) : List (Nat × Char) :=
  found.filterMap fun place => place.piece.unexpected?.map fun c => (place.offset, c)

/-- The offsets of the unexpected characters of a text, with the characters. -/
def unexpectedAt (text : List Char) : List (Nat × Char) :=
  unexpectedIn (places text)

/-- The source with blanks in place of its unexpected characters. -/
def blanked (source : String) : String :=
  String.ofList (source.toList.mapIdx fun i c =>
    if (i, c) ∈ unexpectedAt source.toList then ' ' else c)

/-- The segment with a blank in place of an unexpected character. -/
def Segment.blanked : Segment → Segment
  | .unexpected _ => .skipped [' ']
  | piece => piece

variable {text behind : List Char} {piece : Segment} {pieces : List Segment} {c : Char}

/-! ### Replacing characters -/

/-- The unexpected characters of a cut are that of its first segment, if it is one, and those
behind. -/
theorem unexpectedIn_placed_cons (offset : Nat) :
    unexpectedIn (placed offset (piece :: pieces)) =
      (piece.unexpected?.map fun c => (offset, c)).toList ++
        unexpectedIn (placed (offset + piece.text.length) pieces) := by
  simp only [unexpectedIn, List.filterMap_eq_flatMap_toList]
  rfl

/-- All unexpected characters of a cut are within it. -/
theorem le_of_mem_unexpectedIn {offset i : Nat}
    (mem : (i, c) ∈ unexpectedIn (placed offset pieces)) :
    offset ≤ i := by
  obtain ⟨place, found, at_⟩ := List.mem_filterMap.1 mem
  obtain ⟨d, -, same⟩ := Option.map_eq_some_iff.1 at_
  cases same
  exact (stop_le_of_mem_placed found).1

/-- Only unexpected characters are blanked. -/
theorem Segment.blanked_of_expected (h : piece.unexpected? = none) : piece.blanked = piece := by
  cases piece with
  | unexpected d => cases h
  | lexeme kind chars | skipped chars | unclosed chars => rfl

/-- Replacing the unexpected characters of a text replaces their segments. -/
theorem mapIdx_blanked (offset : Nat) (pieces : List Segment) :
    (pieces.flatMap Segment.text).mapIdx (fun i c =>
        if (offset + i, c) ∈ unexpectedIn (placed offset pieces) then ' ' else c) =
      (pieces.map Segment.blanked).flatMap Segment.text := by
  induction pieces generalizing offset with
  | nil => rfl
  | cons piece rest ih =>
    rw [List.flatMap_cons, List.map_cons, List.flatMap_cons, List.mapIdx_append,
      ← ih (offset + piece.text.length), unexpectedIn_placed_cons]
    cases found : piece.unexpected? with
    | none =>
      -- Nothing is replaced in this segment: what is replaced behind it stands further on.
      rw [Option.map_none, Option.toList_none, List.nil_append, Segment.blanked_of_expected found]
      congr 1
      · apply List.ext_getElem
        · rw [List.length_mapIdx]
        · intro i inside inside'
          rw [List.getElem_mapIdx, if_neg]
          intro mem
          have := le_of_mem_unexpectedIn mem
          omega
      · simp only [Nat.add_comm, Nat.add_left_comm]
    -- The segment is the character alone, so it is replaced and nothing else at its index is.
    | some c =>
      obtain rfl := Segment.eq_unexpected_of_unexpected? found
      have apart (i : Nat) (d : Char) : (offset + (i + 1), d) ≠ (offset, c) := by
        intro same
        have := congrArg Prod.fst same
        simp only at this
        omega
      simp only [Option.map_some, Option.toList_some, List.singleton_append, List.mem_cons,
        Segment.text, List.length_singleton, apart, false_or]
      congr 1
      · simp [Segment.blanked]
      · simp only [Nat.add_comm, Nat.add_left_comm]

/-! ### Segments -/

/-- A line break is never unexpected, so blanking keeps the lines. -/
theorem Segment.Fits.ne_newline (h : (Segment.unexpected c).Fits behind) : c ≠ '\n' := by
  rintro rfl
  cases h with
  | unexpected _ _ blank _ _ _ => exact blank (by decide)

namespace Munches

/-- What is replaced ends no line. -/
theorem spaced (h : Munches text pieces) :
    List.Forall₂ Spaced text ((pieces.map Segment.blanked).flatMap Segment.text) := by
  induction h with
  | nil => exact .nil
  | @cons piece behind rest longest _ ih =>
    rw [List.map_cons, List.flatMap_cons]
    refine List.rel_append ?_ ih
    cases found : piece.unexpected? with
    | none =>
      rw [Segment.blanked_of_expected found]
      exact List.forall₂_same.2 fun c _ => .inl rfl
    | some c =>
      obtain rfl := Segment.eq_unexpected_of_unexpected? found
      exact .cons (.inr ⟨longest.1.ne_newline, rfl⟩) .nil

/-- Longest matches stay longest matches when unexpected characters are replaced by blanks. -/
theorem blanked (h : Munches text pieces) :
    Munches ((pieces.map Segment.blanked).flatMap Segment.text) (pieces.map Segment.blanked) := by
  induction h with
  | nil => exact .nil
  | @cons piece behind rest longest cut ih =>
    rw [List.map_cons, List.flatMap_cons]
    refine .cons ?_ ih
    cases found : piece.unexpected? with
    | none =>
      rw [Segment.blanked_of_expected found]
      exact longest.congr (endsAlike_of_spaced cut.spaced)
    | some c =>
      obtain rfl := Segment.eq_unexpected_of_unexpected? found
      exact (Segment.isLongest_iff rfl).2 (Segment.first_blank (by decide)).symm

/-- A blank contributes nothing, and so only the errors about unexpected characters are gone. -/
theorem ofSegments_blanked (h : Munches text pieces) (line : Int) :
    Scan.ofSegments line (pieces.map Segment.blanked) =
      ⟨(Scan.ofSegments line pieces).tokens, (Scan.ofSegments line pieces).errors.filter
        fun e => e.cause.code ≠ .unexpectedCharacter⟩ := by
  induction h generalizing line with
  | nil => rfl
  | @cons piece behind rest longest _ ih =>
    rw [List.map_cons, Scan.ofSegments, Scan.ofSegments]
    cases piece with
    | unexpected c =>
      have stays : (Segment.unexpected c).newlines = 0 := by
        rw [Segment.newlines, Segment.text, List.count_eq_zero, List.mem_singleton]
        exact longest.1.ne_newline.symm
      rw [stays]
      exact ih (line + (0 : Nat))
    | lexeme kind chars | skipped chars | unclosed chars =>
      rw [Segment.blanked_of_expected rfl, ih]
      rfl

end Munches

/-! ### Scans -/

/-- A blanked source is made up of the blanked segments. -/
theorem toList_blanked (source : String) : (blanked source).toList =
    ((segments source.toList).map Segment.blanked).flatMap Segment.text := by
  have replaced := mapIdx_blanked 0 (segments source.toList)
  rw [segments_flatMap_text] at replaced
  simp only [Nat.zero_add] at replaced
  rw [blanked, String.toList_ofList, ← replaced]
  rfl

/-- The scan of a source with blanks in place of its unexpected characters. -/
theorem scan_blanked_eq (source : String) : scan (blanked source) =
    ⟨(scan source).tokens,
      (scan source).errors.filter fun e => e.cause.code ≠ .unexpectedCharacter⟩ := by
  have cut : Munches source.toList (segments source.toList) := munches_iff.2 rfl
  rw [scan, toList_blanked, ← munches_iff.1 cut.blanked, cut.ofSegments_blanked]
  rfl

/-- The unexpected characters of a source are what is reported as such, each on its line. -/
theorem errors_filter_unexpected (source : String) :
    ((scan source).errors.filter fun e => e.cause.code = .unexpectedCharacter) =
      (unexpectedAt source.toList).map fun found =>
        ⟨.unexpected found.2, lineAt source.toList found.1⟩ := by
  rw [scan_eq_places, unexpectedAt, unexpectedIn, List.filter_filterMap, List.map_filterMap]
  refine List.filterMap_congr fun place _ => ?_
  obtain ⟨offset, piece⟩ := place
  cases piece <;> rfl

/-- The characters are found where they are said to be. -/
theorem getElem?_of_mem_unexpectedAt {i : Nat} (mem : (i, c) ∈ unexpectedAt text) :
    text[i]? = some c := by
  obtain ⟨place, found, at_⟩ := List.mem_filterMap.1 mem
  obtain ⟨d, unexpected, same⟩ := Option.map_eq_some_iff.1 at_
  cases same
  have held := isPrefix_of_mem_places found
  rw [Segment.eq_unexpected_of_unexpected? unexpected] at held
  obtain ⟨behind, split⟩ := held
  rw [← List.head?_drop, ← split]
  rfl

/-- The diagnostics of a source without those of a class of lexical faults: the diagnostics of the
grammar are of other classes. -/
theorem filter_diagnostics (source : String) :
    (analyse source).diagnostics.filter
        (fun d => d.code ≠ some ErrorCode.unexpectedCharacter.name) =
      ((scan source).errors.filter fun e => e.cause.code ≠ .unexpectedCharacter).map
          LexicalError.diagnostic ++
        (Parser.ofTokens (scan source).tokens true defaultLimit).parse.2.errors.map
          GrammarError.diagnostic := by
  have kept := (block_grammatical source defaultLimit).code_mem
  change ((scan source).errors.map LexicalError.diagnostic ++
    (Parser.ofTokens (scan source).tokens true defaultLimit).parse.2.errors.map
      GrammarError.diagnostic).filter _ = _
  rw [List.filter_append, List.filter_map]
  congr 1
  · congr 1
    apply List.filter_congr
    intro e _
    obtain ⟨cause, line⟩ := e
    cases cause <;> simp [LexicalError.diagnostic, LexicalError.Cause.code, ErrorCode.name]
  · rw [List.filter_eq_self]
    intro d mem
    obtain ⟨code, faulty, named⟩ := kept d mem
    rw [named, decide_eq_true_iff, ne_eq, Option.some.injEq]
    exact fun same => ErrorCode.name_ne_name _ (by decide) code faulty same.symm

/-- Replacing every character that is reported as unexpected by a blank, and nothing else, gives a
source with the same tokens on the same lines. Its errors are the others of the source, it has the
same tree, and its diagnostics are the others of the source, among them all those about the
grammar. -/
theorem scan_blanked (source : String) :
    let text := source.toList
    ((scan source).errors.filter fun e => e.cause.code = .unexpectedCharacter) =
        (unexpectedAt text).map (fun found => ⟨.unexpected found.2, lineAt text found.1⟩) ∧
    (∀ found ∈ unexpectedAt text, text[found.1]? = some found.2) ∧
    (scan (blanked source)).tokens = (scan source).tokens ∧
    (scan (blanked source)).errors =
      (scan source).errors.filter (fun e => e.cause.code ≠ .unexpectedCharacter) ∧
    (analyse (blanked source)).expr? = (analyse source).expr? ∧
    (analyse (blanked source)).diagnostics = (analyse source).diagnostics.filter
      (fun d => d.code ≠ some ErrorCode.unexpectedCharacter.name) := by
  intro text
  have same := scan_blanked_eq source
  refine ⟨errors_filter_unexpected source, fun found mem => getElem?_of_mem_unexpectedAt mem, ?_,
    ?_, ?_, ?_⟩
  · rw [same]
  · rw [same]
  · rw [analyse, analyse, same]
  · rw [filter_diagnostics, analyse, same]

/-- The same mark is kept inside a text in quotes and in a comment. -/
example : blanked "1@.5 \"@\" # // @" = "1 .5 \"@\"   // @" := by
  decide +kernel

end ExprLang
