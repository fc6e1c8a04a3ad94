import ExprLang.Proofs.Rounds
import ExprLang.Proofs.SafePoint
import Mathlib.Data.List.Basic

/-!
# Where parsing resumes

A parser that recovers makes its attempts at safe points. After a fault the search starts behind the
token at the cursor, which need not be the token of the fault: when a tree is too tall, its last
operand has been read by then, and a keyword right behind that operand does not count.

## Main statements

* `firstWhere_nextAttempt_of_fault`, `firstWhere_nextAttempt_of_tree`: the attempt after an attempt.
* `firstWhere_safePoint_iff`: when this is the first safe point behind the token of the fault.
* `Parser.parse_resumes_at_safePoints`: the attempts and the errors of parsing.
-/

namespace ExprLang

section

variable {input : Input} {rest made : List Token} {failure : Failure} {limit : Int}

/-- A rear of the tokens is what stands behind its own index. -/
theorem Input.drop_position (h : rest <:+ input.tokens) :
    input.tokens.drop (input.position rest) = rest :=
  (List.suffix_iff_eq_drop.1 h).symm

/-- Only tokens of expressions stand between the token of a fault and the cursor. -/
theorem fault?_site (h : made <:+ input.tokens) (fault : fault? limit made = some failure) :
    failure.site <:+ input.tokens ∧
      input.position failure.site ≤ input.position failure.rest ∧
      ∀ k, input.position failure.site ≤ k → k < input.position failure.rest →
        kindAt input.tokens k ∈ exprKinds := by
  have reads : Reads _ _ (.rule .expression) made _ := reads_iff.2 (fault?_eq_some_iff.1 fault)
  obtain ⟨site, used, split, plain⟩ := reads.site
  have within := site.trans h
  -- Cut the input at the token of the fault and at the cursor: between them are the tokens used.
  obtain ⟨front, whole⟩ := within
  have at_site : input.position failure.site = front.length :=
    Input.position_of_eq_append whole.symm
  have at_rest : input.position failure.rest = front.length + used.length := by
    rw [← List.length_append]
    apply Input.position_of_eq_append
    rw [List.append_assoc, ← split, whole]
  refine ⟨⟨front, whole⟩, by omega, ?_⟩
  intro k low high
  obtain ⟨m, rfl⟩ := Nat.exists_eq_add_of_le (at_site ▸ low)
  have inside : m < used.length := by omega
  rw [← whole, kindAt_append, split, kindAt, List.getElem?_append_left inside,
    List.getElem?_eq_getElem inside]
  exact plain _ (List.getElem_mem inside)

/-- After a fault the next attempt is made at the first safe point, for which a keyword at the
cursor does not count. -/
theorem firstWhere_nextAttempt_of_fault (h : made <:+ input.tokens)
    (fault : fault? limit made = some failure) :
    FirstWhere (SafePoint input.tokens (input.position failure.site)
        (input.position failure.rest + 1))
      ((nextAttempt limit made).map input.position) := by
  obtain ⟨-, le, plain⟩ := fault?_site h fault
  have read := fault?_eq_some_iff.1 fault
  have reads : Reads _ _ (.rule .expression) made _ := reads_iff.2 read
  obtain ⟨front, whole⟩ := reads.consumes.isSuffix.trans h
  have at_rest : input.position failure.rest = front.length :=
    Input.position_of_eq_append whole.symm
  rw [nextAttempt, read]
  refine (firstWhere_resumePast whole.symm).congr fun index => ?_
  rw [← at_rest]
  exact (safePoint_terminators_iff le plain).symm

/-- After a tree the next attempt is made at the first safe point, for which a keyword at the cursor
counts. -/
theorem firstWhere_nextAttempt_of_tree {tree : Expr} (h : made <:+ input.tokens)
    (read : Rule.expression.read limit limit.toNat made = .ok (tree, rest)) :
    FirstWhere (SafePoint input.tokens (input.position rest) (input.position rest))
      ((nextAttempt limit made).map input.position) := by
  have reads : Reads _ _ (.rule .expression) made _ := reads_iff.2 read
  obtain ⟨front, whole⟩ := reads.consumes.isSuffix.trans h
  have at_rest : input.position rest = front.length :=
    Input.position_of_eq_append whole.symm
  rw [nextAttempt, read, at_rest]
  exact firstWhere_resumeBehind_false whole.symm

end

/-- The first safe point behind the cursor is the first one behind the token of the fault, unless a
keyword at the cursor introduces an expression and the token stands before it. -/
theorem firstWhere_safePoint_iff {tokens : List Token} {i c : Nat} {first : Option Nat} (le : i ≤ c)
    (plain : ∀ k, i ≤ k → k < c → kindAt tokens k ∈ exprKinds)
    (live : ∀ k < c, kindAt tokens k ≠ .endOfInput)
    (h : FirstWhere (SafePoint tokens i (c + 1)) first) :
    FirstWhere (SafePoint tokens i (i + 1)) first ↔
      ¬ (i < c ∧ kindAt tokens c ∈ Kind.expressionKeywords) := by
  constructor
  · -- If a keyword stands at the cursor, it is passed over although it makes a safe point.
    rintro claimed ⟨less, introduces⟩
    have here : SafePoint tokens i (i + 1) (c + 1) := by
      refine ⟨c, rfl, fun k le => ?_, .inr ⟨less, introduces⟩⟩
      rcases Nat.lt_or_eq_of_le le with before | rfl
      · exact live k before
      · intro ended
        rw [ended] at introduces
        revert introduces
        decide
    cases first with
    | none => exact claimed _ here
    | some index =>
      -- The first safe point would be the one behind the keyword at the cursor.
      have low : index ≤ c + 1 := Nat.le_of_not_lt fun later => claimed.2 _ later here
      obtain ⟨before, rfl, -, ⟨from_i, ends, -⟩ | ⟨from_c, -⟩⟩ := h.1
      · rcases Nat.lt_or_eq_of_le (Nat.le_of_succ_le_succ low) with inside | rfl
        · exact Kind.ne_semicolon (plain before from_i inside) ends
        · rw [ends] at introduces
          revert introduces
          decide
      · omega
  · intro apart
    refine h.congr fun index => ?_
    rcases Nat.lt_or_eq_of_le le with less | rfl
    · -- Between the two tokens no keyword stands, and none does at the cursor.
      have here : kindAt tokens c ∉ Kind.expressionKeywords :=
        fun introduces => apart ⟨less, introduces⟩
      rw [← safePoint_keywords_succ_iff here]
      refine (safePoint_keywords_iff less fun k low high => plain k ?_ high).symm
      exact Nat.le_of_succ_le low
    · rfl

/-- The token at an index of the list is the first one that is left there, also when it ends the
input. -/
theorem Input.firstOf_drop_ofTokens {tokens : List Token} {k : Nat} {token : Token}
    (le : k ≤ (ofTokens tokens).tokens.length) (h : tokens[k]? = some token) :
    (ofTokens tokens).firstOf ((ofTokens tokens).tokens.drop k) = token := by
  change (((tokens.takeWhile fun token => !token.isEnd).drop k).head?.getD (stopOf tokens)) = token
  change k ≤ (tokens.takeWhile fun token => !token.isEnd).length at le
  unfold stopOf
  generalize Token.endOfInput _ = missing
  induction tokens generalizing k with
  | nil => cases h
  | cons first rest ih =>
    -- If the first token ends the input, there is nothing to drop and the index is its own.
    by_cases isEnd : first.isEnd
    · obtain rfl : k = 0 := by simpa [isEnd] using le
      cases h
      simp [isEnd]
    · cases k with
      | zero =>
        cases h
        simp [isEnd]
      | succ k =>
        have less : k ≤ (rest.takeWhile fun token => !token.isEnd).length := by
          simpa [isEnd] using le
        simpa [isEnd] using ih h less

namespace Parser

/-- The fault of the attempt that starts at an index. -/
def faultFrom? (p : Parser) (start : Nat) : Option Failure :=
  fault? p.limit (p.input.tokens.drop start)

/-- Where the cursor stands after the attempt that starts at an index. -/
def stopFrom (p : Parser) (start : Nat) : Nat :=
  ({ p with current := start, depth := 0 }.attempt .expression).2.current

/-- An attempt ends where reading leaves off. -/
theorem stopFrom_eq (p : Parser) (start : Nat) : p.stopFrom start = p.input.position
    (remaining (Rule.expression.read p.limit p.limit.toNat (p.input.tokens.drop start))) := by
  have room : Parser.room { p with current := start, depth := 0 } = p.limit.toNat := by
    simp [Parser.room]
  have ahead : Parser.ahead { p with current := start, depth := 0 } = p.input.tokens.drop start :=
    rfl
  rw [stopFrom, attempt, room, ahead]
  cases Rule.expression.read p.limit p.limit.toNat (p.input.tokens.drop start) <;> rfl

variable {p : Parser}

/-- When the first attempt has no fault it is the only one. -/
theorem attemptStarts_of_clean (clean : p.faultFrom? 0 = none) : p.attemptStarts = [0] := by
  rw [faultFrom?, List.drop_zero] at clean
  obtain ⟨tree, rest, read⟩ := fault?_eq_none_iff.1 clean
  exact attemptStarts_of_tree read

/-- When the first attempt has a fault, each attempt is followed by the next one that its tokens ask
for. -/
theorem attemptStarts_getElem?_succ (recovers : p.recovers = true) {n start : Nat}
    (faulty : p.faultFrom? 0 ≠ none) (h : p.attemptStarts[n]? = some start) :
    p.input.tokens.drop start <:+ p.input.tokens ∧
      p.attemptStarts[n + 1]? =
        (nextAttempt p.limit (p.input.tokens.drop start)).map p.input.position := by
  obtain ⟨failure, fault⟩ := Option.ne_none_iff_exists'.1 faulty
  rw [faultFrom?, List.drop_zero, fault?_eq_some_iff] at fault
  rw [attemptStarts_of_fault recovers fault, List.getElem?_map] at h ⊢
  obtain ⟨made, found, rfl⟩ := Option.map_eq_some_iff.1 h
  have suffix := attempts_isSuffix (List.mem_of_getElem? found)
  rw [Input.drop_position suffix, attempts_getElem?_succ found]
  exact ⟨suffix, rfl⟩

/-- A parser that recovers records the faults of its attempts. -/
theorem errors_parse_eq (recovers : p.recovers = true) :
    p.parse.2.errors = (p.attemptStarts.filterMap p.faultFrom?).map p.input.report := by
  cases read : Rule.expression.read p.limit p.limit.toNat p.input.tokens with
  | ok result =>
    obtain ⟨tree, rest⟩ := result
    have clean : p.faultFrom? 0 = none := by
      rw [faultFrom?, List.drop_zero]
      exact fault?_eq_none_iff.2 ⟨tree, rest, read⟩
    rw [parse_ok read, attemptStarts_of_tree read, List.filterMap_cons_none clean]
    rfl
  | error failure =>
    rw [errors_parse recovers read, attemptStarts_of_fault recovers read, List.filterMap_map]
    refine congrArg _ (List.filterMap_congr fun made mem => ?_)
    rw [Function.comp, faultFrom?, Input.drop_position (attempts_isSuffix mem)]

section

variable {tokens : List Token} {limit : Int} {n start : Nat}

/-- An attempt with a fault, or one behind the first, tells that the first one has a fault. -/
theorem faultFrom?_zero_ne_none (made : p.attemptStarts[n]? = some start)
    (later : p.faultFrom? start ≠ none ∨ n ≠ 0) : p.faultFrom? 0 ≠ none := by
  intro clean
  rw [attemptStarts_of_clean clean, List.getElem?_singleton] at made
  split at made <;> cases made
  exact later.elim (fun faulty => faulty clean) (fun other => other ‹_›)

/-- Where the attempt behind one with a fault is made, and when that is the first safe point behind
the token of the fault. -/
theorem attempt_after_fault {failure : Failure} {i c : Nat} (p : Parser)
    (parser : p = .ofTokens tokens true limit)
    (made : p.attemptStarts[n]? = some start) (fault : p.faultFrom? start = some failure)
    (site : i = p.input.position failure.site) (stop : c = p.stopFrom start) :
    i ≤ c ∧ (∀ token ∈ tokens[i]?, (p.input.report failure).token = token) ∧
    FirstWhere (SafePoint tokens i (c + 1)) p.attemptStarts[n + 1]? ∧
    (FirstWhere (SafePoint tokens i (i + 1)) p.attemptStarts[n + 1]? ↔
      ¬ (i < c ∧ kindAt tokens c ∈ Kind.expressionKeywords)) := by
  subst parser
  have same := safePoint_tokens_ofTokens_iff tokens
  have faulty := faultFrom?_zero_ne_none made (.inl (by rw [fault]; exact Option.some_ne_none _))
  obtain ⟨suffix, next⟩ := attemptStarts_getElem?_succ rfl faulty made
  obtain ⟨within, le, plain⟩ := fault?_site suffix fault
  rw [stopFrom_eq, fault?_eq_some_iff.1 fault] at stop
  have first := firstWhere_nextAttempt_of_fault suffix fault
  have position : (Input.ofTokens tokens).position failure.rest = c := stop.symm
  rw [← next] at first
  rw [← site] at le plain first
  rw [show (ofTokens tokens true limit).input = Input.ofTokens tokens from rfl, position]
    at le plain first
  -- The cursor is within the input, so the tokens up to it do not end it.
  have inside : ∀ k < c, kindAt (Input.ofTokens tokens).tokens k ≠ .endOfInput := by
    intro k less
    rw [Input.kindAt_ne_endOfInput_iff]
    rw [stop] at less
    exact Nat.lt_of_lt_of_le less (Nat.sub_le _ _)
  have claimed := firstWhere_safePoint_iff le plain inside first
  refine ⟨le, ?_, first.congr fun index => same _ _ _, ?_⟩
  · intro token found
    have before : i ≤ (Input.ofTokens tokens).tokens.length := site ▸ Nat.sub_le _ _
    refine .trans ?_ (Input.firstOf_drop_ofTokens before found)
    rw [site]
    exact congrArg (Input.ofTokens tokens).firstOf (Input.drop_position within).symm
  · rw [← kindAt_tokens_ofTokens ((live_tokens_ofTokens_iff tokens c).1 inside), ← claimed]
    constructor <;> intro h
    · exact h.congr fun index => (same _ _ _).symm
    · exact h.congr fun index => same _ _ _

/-- Where the attempt behind one that has a tree is made. -/
theorem attempt_after_tree {c : Nat} (p : Parser) (parser : p = .ofTokens tokens true limit)
    (made : p.attemptStarts[n + 1]? = some start) (clean : p.faultFrom? start = none)
    (stop : c = p.stopFrom start) :
    FirstWhere (SafePoint tokens c c) p.attemptStarts[n + 2]? := by
  subst parser
  have faulty := faultFrom?_zero_ne_none made (.inr (Nat.succ_ne_zero n))
  obtain ⟨suffix, next⟩ := attemptStarts_getElem?_succ rfl faulty made
  obtain ⟨tree, rest, read⟩ := fault?_eq_none_iff.1 clean
  rw [stopFrom_eq, read] at stop
  have first := firstWhere_nextAttempt_of_tree suffix read
  rw [← next, show Input.position _ rest = c from stop.symm] at first
  exact first.congr fun index => safePoint_tokens_ofTokens_iff tokens _ _ _

end

/-- A parser that recovers makes its attempts at safe points and records all their errors.

After a fault the next attempt starts at the first safe point, for which a keyword counts only
behind the token at the cursor. That is the first one behind the token of the fault exactly when
the cursor does not stand behind this token and in front of a keyword. -/
theorem parse_resumes_at_safePoints (tokens : List Token) (limit : Int) :
    let p := Parser.ofTokens tokens true limit
    p.attemptStarts[0]? = some 0 ∧
    p.parse.2.errors = (p.attemptStarts.filterMap p.faultFrom?).map p.input.report ∧
    (∀ n start failure, p.attemptStarts[n]? = some start → p.faultFrom? start = some failure →
      let i := p.input.position failure.site
      let c := p.stopFrom start
      i ≤ c ∧ (∀ token ∈ tokens[i]?, (p.input.report failure).token = token) ∧
      FirstWhere (SafePoint tokens i (c + 1)) p.attemptStarts[n + 1]? ∧
      (FirstWhere (SafePoint tokens i (i + 1)) p.attemptStarts[n + 1]? ↔
        ¬ (i < c ∧ kindAt tokens c ∈ Kind.expressionKeywords))) ∧
    (∀ n start, p.attemptStarts[n + 1]? = some start → p.faultFrom? start = none →
      let c := p.stopFrom start
      FirstWhere (SafePoint tokens c c) p.attemptStarts[n + 2]?) := by
  intro p
  refine ⟨rfl, errors_parse_eq rfl, ?_, ?_⟩
  · intro n start failure made fault
    exact attempt_after_fault p rfl made fault rfl rfl
  · intro n start made clean
    exact attempt_after_tree p rfl made clean rfl

/-- A keyword at the cursor is passed over although it stands behind the token of the fault: in
`1 + 1 print` the sum is too tall, and nothing is read behind the keyword. -/
theorem parse_passes_over_keyword :
    let tokens : List Token := [⟨.number, "1", .integer 1, 1⟩, ⟨.plus, "+", .nil, 1⟩,
      ⟨.number, "1", .integer 1, 1⟩, ⟨.keyword .kwPrint, "print", .nil, 1⟩, .endOfInput 1]
    let p := Parser.ofTokens tokens true 0
    p.attemptStarts[0]? = some 0 ∧
      (p.faultFrom? 0).map (fun failure => p.input.position failure.site) = some 1 ∧
      ¬ FirstWhere (SafePoint tokens 1 2) p.attemptStarts[1]? := by
  intro tokens p
  have behind : SafePoint tokens 1 2 4 := ⟨3, rfl, by decide, .inr ⟨by decide, by decide⟩⟩
  have none_made : p.attemptStarts[1]? = none := by decide +kernel
  refine ⟨rfl, by decide +kernel, ?_⟩
  rw [none_made]
  exact fun h => h 4 behind

end Parser

end ExprLang
