import ExprLang.Grammar.Progress

/-!
# Parser input

The input of a parser are the tokens before the first one that ends the input, and that token. A
list without such a token is read as if one followed on the line of its last token.

## Main definitions

* `Input`, `Input.ofTokens`.
* `Input.report`: a fault as the error at the token it is noticed at.
* `Input.position`: how many tokens stand before an end piece.
-/

namespace ExprLang

/-- The tokens of an input and the token that ends it. -/
structure Input where
  tokens : List Token
  stop : Token
  not_isEnd : ∀ token ∈ tokens, token.isEnd = false
  stop_isEnd : stop.isEnd = true

namespace Input

/-- The end of an input that a list of tokens has or, if it has none, is given. -/
def stopOf (tokens : List Token) : Token :=
  (tokens.find? Token.isEnd).getD (.endOfInput ((tokens.getLast?.map Token.line).getD 1))

/-- The token that stops an input is an end, also when the list of tokens has none. -/
theorem stopOf_isEnd (tokens : List Token) : (stopOf tokens).isEnd = true := by
  cases found : tokens.find? Token.isEnd with
  | none => simp [stopOf, found, Token.endOfInput, Token.isEnd]
  | some token => simpa [stopOf, found] using List.find?_some found

/-- The input that a list of tokens stands for. -/
def ofTokens (tokens : List Token) : Input where
  tokens := tokens.takeWhile fun token => !token.isEnd
  stop := stopOf tokens
  not_isEnd token mem := by
    have := List.all_takeWhile (p := fun token : Token => !token.isEnd) (l := tokens)
    simpa using List.all_eq_true.1 this token mem
  stop_isEnd := stopOf_isEnd tokens

/-- The first of some tokens, or the end of the input when there are none. -/
def firstOf (input : Input) (tokens : List Token) : Token :=
  tokens.head?.getD input.stop

/-- The error that a fault is reported as. -/
def report (input : Input) (failure : Failure) : GrammarError :=
  ⟨failure.cause, input.firstOf failure.site⟩

/-- How many tokens stand before an end piece of the tokens. -/
def position (input : Input) (rest : List Token) : Nat :=
  input.tokens.length - rest.length

/-- The position of a rear of the tokens is how many tokens stand in front of it. -/
theorem position_of_eq_append {input : Input} {used rest : List Token}
    (h : input.tokens = used ++ rest) : input.position rest = used.length := by
  rw [position, h, List.length_append, Nat.add_sub_cancel]

end Input

end ExprLang
