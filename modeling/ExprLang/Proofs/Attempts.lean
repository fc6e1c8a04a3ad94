import ExprLang.Grammar.Progress

/-!
# Attempts

The attempts at an expression that recovery makes, without the parser: an attempt is known by the
tokens it is made on, and the next one is made where an expression may begin behind it.

## Main definitions

* `resumeBehind`, `resumePast`: the next place where an expression may begin.
* `nextAttempt`, `attempts`: the attempt after an attempt, and all from one on.
* `fault?`: how an attempt fails.

## Main statements

* `attempts_isSuffix`, `attempts_getElem?_succ`: what attempts are made on and in which order.
-/

namespace ExprLang

namespace Kind

variable {kind : Kind}

/-- The keywords that begin a statement. -/
def statementKeywords : List Kind :=
  [.keyword .kwClass, .keyword .kwFun, .keyword .kwVar, .keyword .kwFor,
   .keyword .kwIf, .keyword .kwWhile, .keyword .kwPrint, .keyword .kwReturn]

/-- The keywords that an expression follows. -/
def expressionKeywords : List Kind :=
  [.keyword .kwPrint, .keyword .kwReturn]

/-- A statement ends with the semicolon and with nothing else. -/
theorem endsStatement_iff : kind.endsStatement = true ↔ kind = .semicolon := by
  simp [endsStatement]

/-- The keywords of statements are those that a statement begins with. -/
theorem startsStatement_iff : kind.startsStatement = true ↔ kind ∈ statementKeywords := by
  unfold startsStatement
  split <;> simp_all [statementKeywords]

/-- The keywords that an expression follows are listed too. -/
theorem introducesExpr_iff : kind.introducesExpr = true ↔ kind ∈ expressionKeywords := by
  unfold introducesExpr
  split <;> simp_all [expressionKeywords]

/-- A keyword that an expression follows is one that a statement begins with. -/
theorem expressionKeywords_subset : expressionKeywords ⊆ statementKeywords := by
  decide

theorem startsStatement_of_introducesExpr (h : kind.introducesExpr = true) :
    kind.startsStatement = true :=
  startsStatement_iff.2 (expressionKeywords_subset (introducesExpr_iff.1 h))

theorem introducesExpr_eq_false (h : kind.startsStatement = false) :
    kind.introducesExpr = false := by
  rw [← Bool.not_eq_true] at h ⊢
  exact mt startsStatement_of_introducesExpr h

/-- No token of an expression is a keyword of a statement. -/
theorem not_mem_statementKeywords (h : kind ∈ exprKinds) : kind ∉ statementKeywords := by
  revert kind
  decide

theorem not_mem_expressionKeywords (h : kind ∈ exprKinds) : kind ∉ expressionKeywords :=
  fun mem => not_mem_statementKeywords h (expressionKeywords_subset mem)

/-- No token of an expression ends a statement. -/
theorem ne_semicolon (h : kind ∈ exprKinds) : kind ≠ .semicolon := by
  revert kind
  decide

end Kind

/-- The tokens from the first place on where an expression may begin, given whether a statement has
just ended. -/
def resumeBehind (ended : Bool) : List Token → Option (List Token)
  | [] => none
  | token :: rest =>
    if ended && !token.kind.startsStatement then some (token :: rest)
    else if token.kind.introducesExpr then some rest
    else resumeBehind token.kind.endsStatement rest

/-- The tokens from the first place on where an expression may begin when the first token is passed
over. -/
def resumePast : List Token → Option (List Token)
  | [] => none
  | token :: rest => resumeBehind token.kind.endsStatement rest

/-- Where an attempt on the tokens is followed by another. -/
def nextAttempt (limit : Int) (tokens : List Token) : Option (List Token) :=
  match Rule.expression.read limit limit.toNat tokens with
  | .ok (_, rest) => resumeBehind false rest
  | .error failure => resumePast failure.rest

/-- Searching from behind a token does not go back. -/
theorem resumeBehind_isSuffix {ended : Bool} {tokens next : List Token}
    (h : resumeBehind ended tokens = some next) : next <:+ tokens := by
  induction tokens generalizing ended with
  | nil => cases h
  | cons token rest ih =>
    rw [resumeBehind] at h
    split at h
    · cases h
      exact List.suffix_refl _
    · split at h
      · cases h
        exact List.suffix_cons _ _
      · exact (ih h).trans (List.suffix_cons _ _)

/-- Searching past a token passes over that token at least. -/
theorem resumePast_isSuffix {tokens next : List Token} (h : resumePast tokens = some next) :
    next <:+ tokens.tail := by
  cases tokens with
  | nil => cases h
  | cons token rest => exact resumeBehind_isSuffix h

/-- Searching past a token leaves fewer tokens, so that attempts come to an end after failures too.
-/
theorem length_lt_of_resumePast {tokens next : List Token} (h : resumePast tokens = some next) :
    next.length < tokens.length := by
  cases tokens with
  | nil => cases h
  | cons token rest => exact Nat.lt_succ_of_le (resumePast_isSuffix h).length_le

/-- The next attempt is made further on: an expression takes a token, and after a fault one is
passed over. -/
theorem nextAttempt_isSuffix {limit : Int} {tokens next : List Token}
    (h : nextAttempt limit tokens = some next) :
    next <:+ tokens ∧ next.length < tokens.length := by
  have reads := reads_read limit limit.toNat (.rule .expression) tokens
  simp only [Task.read] at reads
  unfold nextAttempt at h
  split at h
  · next rest read =>
    rw [read] at reads
    have behind := resumeBehind_isSuffix h
    exact ⟨behind.trans reads.consumes.isSuffix,
      Nat.lt_of_le_of_lt behind.length_le reads.length_lt⟩
  · -- A failed attempt may have read nothing, but the search behind it leaves off a token.
    next failure read =>
    rw [read] at reads
    have behind := (resumePast_isSuffix h).trans (List.tail_suffix _)
    have left : failure.rest <:+ tokens := reads.consumes.isSuffix
    refine ⟨behind.trans left, ?_⟩
    calc next.length < failure.rest.length := length_lt_of_resumePast h
      _ ≤ tokens.length := left.length_le

/-- The tokens that attempts are made on, from the given ones on. -/
def attempts (limit : Int) (tokens : List Token) : List (List Token) :=
  tokens :: match _next : nextAttempt limit tokens with
    | none => []
    | some next => attempts limit next
termination_by tokens.length
decreasing_by exact (nextAttempt_isSuffix _next).2

/-- The attempts from where an attempt is made next, if there is such a place. -/
def attemptsFrom (limit : Int) : Option (List Token) → List (List Token)
  | none => []
  | some tokens => attempts limit tokens

/-- The attempts on some tokens are the first one and those that follow from where the next is made.
-/
theorem attempts_eq (limit : Int) (tokens : List Token) :
    attempts limit tokens = tokens :: attemptsFrom limit (nextAttempt limit tokens) := by
  rw [attempts]
  congr 1
  split <;> simp_all [attemptsFrom]

/-- Every attempt is made on a rear of the tokens. -/
theorem attempts_isSuffix {limit : Int} {tokens made : List Token}
    (h : made ∈ attempts limit tokens) : made <:+ tokens := by
  induction tokens using attempts.induct limit with
  | case1 tokens ih =>
    rw [attempts_eq] at h
    rcases List.mem_cons.1 h with rfl | later
    · exact List.suffix_refl _
    · cases found : nextAttempt limit tokens with
      | none =>
        rw [found] at later
        cases later
      | some next =>
        rw [found] at later
        exact (ih next found later).trans (nextAttempt_isSuffix found).1

/-- The attempt that follows on one is made where that one says. -/
theorem attempts_getElem?_succ {limit : Int} {tokens made : List Token} {n : Nat}
    (h : (attempts limit tokens)[n]? = some made) :
    (attempts limit tokens)[n + 1]? = nextAttempt limit made := by
  induction n generalizing tokens with
  | zero =>
    rw [attempts_eq] at h ⊢
    cases h
    cases found : nextAttempt limit made with
    | none => rfl
    | some next => simp [attemptsFrom, attempts_eq limit next]
  | succ n ih =>
    rw [attempts_eq] at h ⊢
    rw [List.getElem?_cons_succ] at h ⊢
    cases next : nextAttempt limit tokens with
    | none => simp [next, attemptsFrom] at h
    | some next =>
      rw [next] at h
      exact ih h

/-- The fault of an attempt on the tokens. -/
def fault? (limit : Int) (tokens : List Token) : Option Failure :=
  match Rule.expression.read limit limit.toNat tokens with
  | .ok _ => none
  | .error failure => some failure

/-- The fault of an attempt is the failure of reading an expression. -/
theorem fault?_eq_some_iff {limit : Int} {tokens : List Token} {failure : Failure} :
    fault? limit tokens = some failure ↔
      Rule.expression.read limit limit.toNat tokens = .error failure := by
  cases read : Rule.expression.read limit limit.toNat tokens <;> simp [fault?, read]

/-- An attempt has no fault exactly when it comes to a tree. -/
theorem fault?_eq_none_iff {limit : Int} {tokens : List Token} :
    fault? limit tokens = none ↔
      ∃ tree rest, Rule.expression.read limit limit.toNat tokens = .ok (tree, rest) := by
  cases read : Rule.expression.read limit limit.toNat tokens with
  | ok result => simpa [fault?, read] using ⟨result.1, result.2, rfl⟩
  | error failure => simp [fault?, read]

end ExprLang
