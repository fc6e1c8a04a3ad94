import ExprLang.Lexical.Segment

/-!
# Segments lose nothing

The segments of a text, put side by side, are the text: each of them is a piece of the front of what
was left, and none is empty.

## Main statements

* `Segment.isPrefix_text_first`, `Segment.text_first_ne_nil`: the first segment.
* `segments_flatMap_text`: all segments.
-/

namespace ExprLang

private theorem isPrefix_takeWhile_ne_append {c : Char} {text : List Char} (mem : c ∈ text) :
    text.takeWhile (· ≠ c) ++ [c] <+: text := by
  induction text with
  | nil => simp at mem
  | cons d rest ih =>
    by_cases same : d = c
    · simp [same]
    · have : c ∈ rest := by simpa [Ne.symm same] using mem
      simpa [same] using ih this

/-- Decimal places are a piece of the front of the text. -/
theorem isPrefix_decimalPlaces (text : List Char) : decimalPlaces text <+: text := by
  unfold decimalPlaces
  split
  · split
    · simpa using List.takeWhile_prefix _
    · exact List.nil_prefix
  · exact List.nil_prefix

/-- A numeral is a piece of the front of the text. -/
theorem isPrefix_numeral (text : List Char) : numeral text <+: text := by
  have := (List.prefix_append_right_inj (text.takeWhile Char.isDigit)).2
    (isPrefix_decimalPlaces (text.dropWhile Char.isDigit))
  rwa [List.takeWhile_append_dropWhile] at this

namespace Segment

private theorem text_first (c : Char) (rest : List Char) :
    (first c rest).text <+: c :: rest ∧ (first c rest).text ≠ [] := by
  -- One case for each branch: what is taken is a run from the first character on.
  unfold first
  split
  · simp [text]
  · simp only [ofOperator]
    split
    · next follows =>
      obtain ⟨tail, rfl⟩ := List.head?_eq_some_iff.1 follows
      simp [text]
    · simp [text]
  · split
    · next slash =>
      subst slash
      simp only [ofSlash]
      split <;> simp [text, List.takeWhile_prefix]
    split
    · simp [text]
    split
    · next quote =>
      subst quote
      simp only [ofQuote]
      split
      · next closed => simpa [text] using isPrefix_takeWhile_ne_append closed
      · simp [text]
    split
    · next digit =>
      refine ⟨isPrefix_numeral _, ?_⟩
      simp [text, numeral, digit]
    split
    · simp [text, ofWord, List.takeWhile_prefix]
    · simp [text]

/-- The first segment is a piece of the front of the text. -/
theorem isPrefix_text_first (c : Char) (rest : List Char) : (first c rest).text <+: c :: rest :=
  (text_first c rest).1

/-- The first segment is not empty, so that cutting segments off comes to an end. -/
theorem text_first_ne_nil (c : Char) (rest : List Char) : (first c rest).text ≠ [] :=
  (text_first c rest).2

/-- What follows the first segment is what the rest of the text holds behind it. -/
theorem text_first_append_drop (c : Char) (rest : List Char) :
    (first c rest).text ++ rest.drop ((first c rest).text.length - 1) = c :: rest := by
  obtain ⟨tail, whole⟩ := isPrefix_text_first c rest
  cases front : (first c rest).text with
  | nil => exact absurd front (text_first_ne_nil c rest)
  | cons d more =>
    rw [front] at whole
    obtain ⟨rfl, rfl⟩ : d = c ∧ more ++ tail = rest := by simpa using whole
    simp

end Segment

/-- The segments of a text, side by side, are the text. -/
theorem segments_flatMap_text (text : List Char) :
    (segments text).flatMap Segment.text = text := by
  fun_induction segments text with
  | case1 => rfl
  | case2 c rest segment ih =>
    rw [List.flatMap_cons, ih]
    exact Segment.text_first_append_drop c rest

end ExprLang
