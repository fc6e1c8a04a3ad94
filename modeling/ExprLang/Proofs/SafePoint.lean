import ExprLang.Parser.Input
import ExprLang.Proofs.Attempts

/-!
# Safe points

The places at which a parser that recovers may go on: where the tokens show that an expression
begins. The search for the next attempt finds the first of them.

## Main definitions

* `FirstWhere`: the first index with a property, if there is one.
* `kindAt`, `SafePoint`: the kind of a token and the places where an expression may begin.

## Main statements

* `safePoint_tokens_ofTokens_iff`: safe points of an input.
* `firstWhere_resumePast`, `firstWhere_resumeBehind_false`: what the search finds.
-/

namespace ExprLang

/-- The first of the indices with a property, or nothing if there are none. -/
def FirstWhere (P : Nat → Prop) : Option Nat → Prop
  | some index => P index ∧ ∀ smaller < index, ¬ P smaller
  | none => ∀ index, ¬ P index

/-- The first index depends on which indices there are. -/
theorem FirstWhere.congr {P Q : Nat → Prop} {first : Option Nat} (same : ∀ index, P index ↔ Q index)
    (h : FirstWhere P first) : FirstWhere Q first := by
  have : P = Q := funext fun index => propext (same index)
  exact this ▸ h

/-- The kind of the token at an index. Behind the tokens the input has ended. -/
def kindAt (tokens : List Token) (index : Nat) : Kind :=
  (tokens[index]?.map Token.kind).getD .endOfInput

/-- Whether an expression may begin at an index of the tokens. It may behind a terminator that
stands at `terminators` or later, if neither the input ends there nor a statement begins with a
keyword, and behind a keyword that an expression follows and that stands at `keywords` or later. -/
def SafePoint (tokens : List Token) (terminators keywords index : Nat) : Prop :=
  ∃ before, index = before + 1 ∧ (∀ k ≤ before, kindAt tokens k ≠ .endOfInput) ∧
    (terminators ≤ before ∧ kindAt tokens before = .semicolon ∧
        kindAt tokens index ≠ .endOfInput ∧ kindAt tokens index ∉ Kind.statementKeywords ∨
      keywords ≤ before ∧ kindAt tokens before ∈ Kind.expressionKeywords)

/-! ### Kinds of tokens -/

theorem kindAt_append (front rest : List Token) (k : Nat) :
    kindAt (front ++ rest) (front.length + k) = kindAt rest k := by
  rw [kindAt, kindAt, List.getElem?_append_right (Nat.le_add_right _ _), Nat.add_sub_cancel_left]

/-- Behind the list the input has ended. -/
theorem kindAt_of_length_le {tokens : List Token} {k : Nat} (h : tokens.length ≤ k) :
    kindAt tokens k = .endOfInput := by
  rw [kindAt, List.getElem?_eq_none h]
  rfl

/-- The tokens of an input are those in front of its end. -/
theorem Input.kindAt_ne_endOfInput_iff (input : Input) (k : Nat) :
    kindAt input.tokens k ≠ .endOfInput ↔ k < input.tokens.length := by
  constructor
  · intro live
    by_cases inside : k < input.tokens.length
    · exact inside
    · exact absurd (kindAt_of_length_le (Nat.le_of_not_lt inside)) live
  · intro inside
    have := input.not_isEnd _ (List.getElem_mem inside)
    simpa [kindAt, List.getElem?_eq_getElem inside, Token.isEnd] using this

/-- The kinds of the tokens do not change up to the end of the input. -/
theorem kindAt_tokens_ofTokens {tokens : List Token} {k : Nat}
    (live : ∀ m < k, kindAt tokens m ≠ .endOfInput) :
    kindAt (Input.ofTokens tokens).tokens k = kindAt tokens k := by
  induction tokens generalizing k with
  | nil => rfl
  | cons token rest ih =>
    by_cases isEnd : token.kind = .endOfInput
    · have nothing : (Input.ofTokens (token :: rest)).tokens = [] := by
        simp [Input.ofTokens, Token.isEnd, isEnd]
      rw [nothing]
      cases k with
      | zero => exact isEnd.symm
      | succ k => exact absurd isEnd (live 0 (Nat.succ_pos k))
    · have more : (Input.ofTokens (token :: rest)).tokens =
          token :: (Input.ofTokens rest).tokens := by
        simp [Input.ofTokens, Token.isEnd, isEnd]
      rw [more]
      cases k with
      | zero => rfl
      | succ k => exact ih fun m less => live (m + 1) (Nat.succ_lt_succ less)

/-- An index is before the end in the list if and only if it is in the tokens of the input. -/
theorem live_tokens_ofTokens_iff (tokens : List Token) (k : Nat) :
    (∀ m < k, kindAt (Input.ofTokens tokens).tokens m ≠ .endOfInput) ↔
      ∀ m < k, kindAt tokens m ≠ .endOfInput := by
  induction k with
  | zero => simp
  | succ k ih =>
    constructor <;> intro live m less
    · have before : ∀ m < k, kindAt tokens m ≠ .endOfInput :=
        ih.1 fun m less => live m (Nat.lt_succ_of_lt less)
      rcases Nat.lt_succ_iff_lt_or_eq.1 less with less | rfl
      · exact before m less
      · exact kindAt_tokens_ofTokens before ▸ live m less
    · rw [kindAt_tokens_ofTokens fun m' less' => live m' (Nat.lt_trans less' less)]
      exact live m less

/-- The safe points of an input are those of the tokens it stands for. -/
theorem safePoint_tokens_ofTokens_iff (tokens : List Token) (terminators keywords index : Nat) :
    SafePoint (Input.ofTokens tokens).tokens terminators keywords index ↔
      SafePoint tokens terminators keywords index := by
  unfold SafePoint
  refine exists_congr fun before => and_congr_right fun same => ?_
  simp only [← Nat.lt_succ_iff, live_tokens_ofTokens_iff]
  refine and_congr_right fun live => ?_
  rw [same, kindAt_tokens_ofTokens live,
    kindAt_tokens_ofTokens fun m less => live m (Nat.lt_succ_of_lt less)]

/-! ### The first safe point -/

section

variable {tokens : List Token} {n i c terminators keywords index : Nat}

/-- Whether an expression may begin behind a terminator at the index before. -/
def Separates (tokens : List Token) (n : Nat) : Prop :=
  kindAt tokens n = .semicolon ∧ kindAt tokens (n + 1) ≠ .endOfInput ∧
    kindAt tokens (n + 1) ∉ Kind.statementKeywords

/-- Behind a terminator that an expression may follow is the first safe point. -/
theorem firstWhere_of_separates (live : ∀ k ≤ n, kindAt tokens k ≠ .endOfInput)
    (here : Separates tokens n) : FirstWhere (SafePoint tokens n (n + 1)) (some (n + 1)) := by
  refine ⟨⟨n, rfl, live, .inl ⟨Nat.le_refl _, here⟩⟩, ?_⟩
  rintro smaller less ⟨before, rfl, -, ⟨le, -⟩ | ⟨le, -⟩⟩ <;> omega

/-- Otherwise it is behind a keyword that an expression follows, if such a keyword stands next. -/
theorem firstWhere_of_introduces (live : ∀ k ≤ n + 1, kindAt tokens k ≠ .endOfInput)
    (behind : ¬ Separates tokens n) (here : kindAt tokens (n + 1) ∈ Kind.expressionKeywords) :
    FirstWhere (SafePoint tokens n (n + 1)) (some (n + 2)) := by
  refine ⟨⟨n + 1, rfl, live, .inr ⟨Nat.le_refl _, here⟩⟩, ?_⟩
  rintro smaller less ⟨before, rfl, -, ⟨le, found⟩ | ⟨le, -⟩⟩
  · obtain rfl : before = n := by omega
    exact behind found
  · omega

/-- A terminator that no expression may begin behind can be left out of the search. -/
theorem safePoint_terminators_succ_iff (here : ¬ Separates tokens n) :
    SafePoint tokens n keywords index ↔ SafePoint tokens (n + 1) keywords index := by
  refine exists_congr fun before => and_congr_right fun same => and_congr_right fun _ =>
    or_congr_left ?_
  subst same
  constructor
  · rintro ⟨le, found⟩
    refine ⟨Nat.lt_of_le_of_ne le ?_, found⟩
    rintro rfl
    exact here found
  · rintro ⟨le, found⟩
    exact ⟨Nat.le_of_succ_le le, found⟩

/-- Where no keyword stands that an expression follows, keywords may count from there or from
behind. -/
theorem safePoint_keywords_succ_iff (here : kindAt tokens n ∉ Kind.expressionKeywords) :
    SafePoint tokens terminators n index ↔ SafePoint tokens terminators (n + 1) index := by
  refine exists_congr fun before => and_congr_right fun _ => and_congr_right fun _ =>
    or_congr_right ?_
  constructor
  · rintro ⟨le, found⟩
    refine ⟨Nat.lt_of_le_of_ne le ?_, found⟩
    rintro rfl
    exact here found
  · rintro ⟨le, found⟩
    exact ⟨Nat.le_of_succ_le le, found⟩

/-- No terminator stands among the tokens of an expression. -/
theorem safePoint_terminators_iff (le : i ≤ c)
    (plain : ∀ k, i ≤ k → k < c → kindAt tokens k ∈ exprKinds) :
    SafePoint tokens i keywords index ↔ SafePoint tokens c keywords index := by
  induction le with
  | refl => rfl
  | @step c le ih =>
    have before := ih fun k low high => plain k low (Nat.lt_succ_of_lt high)
    refine before.trans (safePoint_terminators_succ_iff ?_)
    intro here
    exact Kind.ne_semicolon (plain c le (Nat.lt_succ_self c)) here.1

/-- No such keyword is a token of an expression, so keywords may count from in front of an
expression or from behind. -/
theorem safePoint_keywords_iff (le : i ≤ c)
    (plain : ∀ k, i ≤ k → k < c → kindAt tokens k ∈ exprKinds) :
    SafePoint tokens terminators i index ↔ SafePoint tokens terminators c index := by
  induction le with
  | refl => rfl
  | @step c le ih =>
    have before := ih fun k low high => plain k low (Nat.lt_succ_of_lt high)
    refine before.trans (safePoint_keywords_succ_iff ?_)
    exact Kind.not_mem_expressionKeywords (plain c le (Nat.lt_succ_self c))

end

/-! ### The next attempt -/

section

variable {input : Input} {front rest : List Token} {token : Token}

/-- Behind a token, the next place for an expression is the first safe point. -/
theorem firstWhere_resumeBehind (h : input.tokens = front ++ token :: rest) :
    FirstWhere (SafePoint input.tokens front.length (front.length + 1))
      ((resumeBehind token.kind.endsStatement rest).map input.position) := by
  have inside : input.tokens.length = front.length + 1 + rest.length := by
    rw [h, List.length_append, List.length_cons]
    omega
  have last : kindAt input.tokens front.length = token.kind :=
    h ▸ kindAt_append front (token :: rest) 0
  induction rest generalizing front token with
  | nil =>
    -- Only the last token is left to look behind, and the input ends there.
    rintro _ ⟨before, rfl, live, found⟩
    have less := (input.kindAt_ne_endOfInput_iff before).1 (live before (Nat.le_refl _))
    rw [List.length_nil] at inside
    obtain ⟨le, -, notEnd, -⟩ | ⟨le, -⟩ := found
    · have := (input.kindAt_ne_endOfInput_iff (before + 1)).1 notEnd
      omega
    · omega
  | cons next rest ih =>
    have split : input.tokens = (front ++ [token]) ++ next :: rest := by simpa using h
    have length : (front ++ [token]).length = front.length + 1 := by simp
    have here : kindAt input.tokens (front.length + 1) = next.kind := by
      rw [← length, split]
      exact kindAt_append _ _ 0
    have live : ∀ k ≤ front.length + 1, kindAt input.tokens k ≠ .endOfInput := by
      intro k le
      rw [input.kindAt_ne_endOfInput_iff, inside, List.length_cons]
      omega
    have separates : Separates input.tokens front.length ↔
        (token.kind.endsStatement && !next.kind.startsStatement) = true := by
      simp [Separates, last, here ▸ live _ (Nat.le_refl _), here, Kind.endsStatement_iff,
        ← Kind.startsStatement_iff]
    rw [resumeBehind]
    split
    · next place =>
      have position : input.position (next :: rest) = front.length + 1 :=
        (Input.position_of_eq_append split).trans length
      rw [Option.map_some, position]
      exact firstWhere_of_separates (fun k le => live k (Nat.le_succ_of_le le)) (separates.2 place)
    · next noPlace =>
      rw [← separates] at noPlace
      split
      · next introduces =>
        have position : input.position rest = front.length + 2 := by
          rw [Input.position, inside, List.length_cons]
          omega
        rw [Option.map_some, position]
        exact firstWhere_of_introduces live noPlace (here ▸ Kind.introducesExpr_iff.1 introduces)
      · next other =>
        have later := ih split (by rw [length, inside, List.length_cons]; omega) (length ▸ here)
        rw [length] at later
        refine later.congr fun index => ?_
        rw [Kind.introducesExpr_iff, ← here] at other
        rw [safePoint_terminators_succ_iff noPlace, safePoint_keywords_succ_iff other]

/-- There is no safe point behind the end. -/
theorem firstWhere_none_of_length_le {terminators keywords : Nat}
    (ht : input.tokens.length ≤ terminators) (hk : input.tokens.length ≤ keywords) :
    FirstWhere (SafePoint input.tokens terminators keywords) none := by
  rintro _ ⟨before, rfl, live, found⟩
  have := (input.kindAt_ne_endOfInput_iff before).1 (live before (Nat.le_refl _))
  obtain ⟨le, -⟩ | ⟨le, -⟩ := found <;> omega

/-- A search behind a token that is discarded ends at the first safe point behind it. -/
theorem firstWhere_resumePast (h : input.tokens = front ++ rest) :
    FirstWhere (SafePoint input.tokens front.length (front.length + 1))
      ((resumePast rest).map input.position) := by
  cases rest with
  | nil => exact firstWhere_none_of_length_le (by simp [h]) (by simp [h])
  | cons token rest => exact firstWhere_resumeBehind h

/-- A search that discards no token ends at the first safe point from the cursor on. -/
theorem firstWhere_resumeBehind_false (h : input.tokens = front ++ rest) :
    FirstWhere (SafePoint input.tokens front.length front.length)
      ((resumeBehind false rest).map input.position) := by
  cases rest with
  | nil => exact firstWhere_none_of_length_le (by simp [h]) (by simp [h])
  | cons token rest =>
    have here : kindAt input.tokens front.length = token.kind :=
      h ▸ kindAt_append front (token :: rest) 0
    have live : ∀ k ≤ front.length, kindAt input.tokens k ≠ .endOfInput := by
      intro k le
      rw [input.kindAt_ne_endOfInput_iff, h, List.length_append, List.length_cons]
      omega
    rw [resumeBehind, Bool.false_and, if_neg (by simp)]
    split
    · next introduces =>
      have position : input.position rest = front.length + 1 := by
        rw [Input.position, h, List.length_append, List.length_cons]
        omega
      rw [Option.map_some, position]
      rw [Kind.introducesExpr_iff, ← here] at introduces
      refine ⟨⟨front.length, rfl, live, .inr ⟨Nat.le_refl _, introduces⟩⟩, ?_⟩
      rintro smaller less ⟨before, rfl, -, ⟨le, -⟩ | ⟨le, -⟩⟩ <;> omega
    · next other =>
      refine (firstWhere_resumeBehind h).congr fun index => ?_
      rw [Kind.introducesExpr_iff, ← here] at other
      exact (safePoint_keywords_succ_iff other).symm

end

end ExprLang
