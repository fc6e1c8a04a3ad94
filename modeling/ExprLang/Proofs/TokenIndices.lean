import ExprLang.Proofs.Ascending
import ExprLang.Proofs.ParserSession
import ExprLang.Proofs.Statements

/-!
# Tokens by their indices

A parser stands at an index of the list that it has been given. What it looks at and what it reports
are tokens of that list, at indices no further than the first token that ends the input. In a list
without such a token one is taken to stand behind all others.

## Main definitions

* `tokenAt`: the token at an index of a list.
* `Site`, `errorAt`: what is wrong and at which index, and the error about the token there.
* `Parser.sites`: the sites of the faults that parsing notices.

## Main statements

* `Parser.peek_eq_tokenAt`, `Parser.previous_eq_tokenAt`: the tokens around the cursor.
* `Parser.faults_eq`: the faults are those of the attempts that are made.
* `Parser.errors_parse_sites`: the errors of parsing are about the tokens at its sites.
-/

namespace ExprLang

/-- The token at an index of a list. Behind the list that is a token for the end of the input, on
the line of the last token. -/
def tokenAt (tokens : List Token) (index : Nat) : Token :=
  tokens[index]?.getD (.endOfInput ((tokens.getLast?.map Token.line).getD 1))

/-- What is wrong, and the index of the token that it is noticed at. -/
structure Site where
  cause : GrammarError.Cause
  index : Nat
  deriving DecidableEq

/-- The error about the token at a site. -/
def errorAt (tokens : List Token) (site : Site) : GrammarError :=
  ⟨site.cause, tokenAt tokens site.index⟩

variable {tokens : List Token} {k : Nat}

theorem isEnd_tokenAt_of_length_le (h : tokens.length ≤ k) : (tokenAt tokens k).isEnd = true := by
  rw [tokenAt, List.getElem?_eq_none h]
  rfl

namespace Input

/-- Up to the end of the input, the tokens of an input are those of the list. -/
theorem firstOf_drop_eq_tokenAt (le : k ≤ (ofTokens tokens).tokens.length) :
    (ofTokens tokens).firstOf ((ofTokens tokens).tokens.drop k) = tokenAt tokens k := by
  cases found : tokens[k]? with
  | some token => rw [firstOf_drop_ofTokens le found, tokenAt, found, Option.getD_some]
  | none =>
    -- Then the list has no token for the end, and the one behind it is looked at.
    have last : tokens.length ≤ k := List.getElem?_eq_none_iff.1 found
    have all : (ofTokens tokens).tokens = tokens :=
      (List.takeWhile_sublist _).eq_of_length_le (Nat.le_trans last le)
    have notEnd : ∀ token ∈ tokens, token.isEnd = false := fun token mem =>
      (ofTokens tokens).not_isEnd token (all.symm ▸ mem)
    rw [tokenAt, found, all, List.drop_eq_nil_of_le last]
    show stopOf tokens = _
    rw [stopOf, find?_isEnd_eq_none notEnd]

/-- The first of the tokens from a place on is the one at its position. -/
theorem firstOf_eq_tokenAt {rest : List Token} (suffix : rest <:+ (ofTokens tokens).tokens) :
    (ofTokens tokens).firstOf rest = tokenAt tokens ((ofTokens tokens).position rest) := by
  have stands := firstOf_drop_eq_tokenAt (Nat.sub_le (ofTokens tokens).tokens.length rest.length)
  rwa [← position, drop_position suffix] at stands

/-- A fault is reported as the error about the token at its site. -/
theorem report_eq_errorAt {failure : Failure} (suffix : failure.site <:+ (ofTokens tokens).tokens) :
    (ofTokens tokens).report failure =
      errorAt tokens ⟨failure.cause, (ofTokens tokens).siteIndex failure⟩ := by
  rw [report, firstOf_eq_tokenAt suffix]
  rfl

end Input

namespace Parser

variable {p : Parser}

/-! ### Tokens around the cursor -/

/-- A parser looks at an end of the input exactly when it is at the end. -/
theorem isEnd_peek (p : Parser) : p.peek.isEnd = p.atEnd := by
  rw [peek, atEnd, Input.firstOf]
  cases left : p.ahead with
  | nil => exact p.input.stop_isEnd
  | cons token rest =>
    have mem : token ∈ p.input.tokens := List.mem_of_mem_drop (left ▸ List.mem_cons_self)
    exact p.input.not_isEnd token mem

/-- The next token is the one at the cursor. -/
theorem peek_eq_tokenAt (input : p.input = .ofTokens tokens) (h : p.Settled) :
    p.peek = tokenAt tokens p.current := by
  have inside := h.current_le
  rw [input] at inside
  rw [peek, ahead, input]
  exact Input.firstOf_drop_eq_tokenAt inside

/-- The token read last is the one in front of the cursor, or the first token when none has been
read. -/
theorem previous_eq_tokenAt (input : p.input = .ofTokens tokens) (h : p.Settled) :
    p.previous = tokenAt tokens (p.current - 1) := by
  have inside := h.current_le
  unfold previous
  split
  · next start => rw [peek_eq_tokenAt input h, start]
  · rw [input] at inside ⊢
    exact Input.firstOf_drop_eq_tokenAt (Nat.le_trans (Nat.sub_le _ _) inside)

/-! ### Errors of parsing -/

/-- The sites of the faults that parsing the input notices, in order. -/
def sites (p : Parser) : List Site :=
  p.faults.map fun failure => ⟨failure.cause, p.input.siteIndex failure⟩

/-- Parsing notices the faults of the attempts that it makes: none when the first is clean, that of
the first alone when it does not recover, and those of all otherwise. -/
theorem faults_eq (p : Parser) : p.faults =
    match fault? p.limit p.input.tokens with
    -- With a tree the only attempt is the first, which has no fault.
    | none => []
    | some failure =>
      if p.recovers then (attempts p.limit p.input.tokens).filterMap (fault? p.limit)
      else [failure] := by
  have first : p.faultFrom? 0 = fault? p.limit p.input.tokens := by
    rw [faultFrom?, List.drop_zero]
  unfold faults
  cases fault : fault? p.limit p.input.tokens with
  | none =>
    rw [fault] at first
    rw [attemptStarts_of_clean first, List.filterMap_cons_none first]
    rfl
  | some failure =>
    rw [fault] at first
    have read := fault?_eq_some_iff.1 fault
    cases recovers : p.recovers with
    | true =>
      have made : ∀ tokens ∈ attempts p.limit p.input.tokens, tokens <:+ p.input.tokens :=
        fun tokens mem => attempts_isSuffix mem
      rw [attemptStarts_of_fault recovers read, filterMap_faultFrom? made]
      rfl
    | false =>
      have only : p.attemptStarts = [0] := by
        unfold attemptStarts
        split <;> simp [recovers]
      rw [only, List.filterMap_cons_some first]
      rfl

/-- All faults are noticed at tokens of the input. -/
theorem site_isSuffix_of_mem_faults (p : Parser) :
    ∀ failure ∈ p.faults, failure.site <:+ p.input.tokens := by
  intro failure mem
  obtain ⟨start, -, fault⟩ := List.mem_filterMap.1 mem
  have reads : Reads _ _ (.rule .expression) _ _ := reads_iff.2 (fault?_eq_some_iff.1 fault)
  exact reads.site.1.trans (List.drop_suffix _ _)

/-- What parsing records are its faults. -/
theorem errors_parse_eq_faults (p : Parser) :
    p.parse.2.errors = p.faults.map p.input.report := by
  cases recovers : p.recovers with
  | true => exact errors_parse_eq recovers
  | false =>
    rw [errors_parse_of_not_recovers recovers, faults_eq, recovers]
    cases fault? p.limit p.input.tokens <;> rfl

/-- The errors of parsing are about the tokens at its sites. -/
theorem errors_parse_sites (input : p.input = .ofTokens tokens) :
    p.parse.2.errors = p.sites.map (errorAt tokens) := by
  rw [errors_parse_eq_faults, sites, List.map_map]
  refine List.map_congr_left fun failure mem => ?_
  have suffix := p.site_isSuffix_of_mem_faults failure mem
  rw [Function.comp, input]
  exact Input.report_eq_errorAt (input ▸ suffix)

/-- No site is behind the end of the input. -/
theorem index_le_of_mem_sites (p : Parser) : ∀ site ∈ p.sites, site.index ≤ p.input.tokens.length :=
  List.forall_mem_map.2 fun _ _ => Nat.sub_le _ _

end Parser

end ExprLang
