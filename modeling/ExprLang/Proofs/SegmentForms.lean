import ExprLang.Lexical.Lossless
import Mathlib.Data.List.TakeWhile

/-!
# Forms of segments

Which texts can be a segment, without regard to what the scanner prefers: a text may begin with
segments of several forms and lengths.

## Main definitions

* `Lexeme`: the texts of each kind of token, and what they stand for.
* `Segment.Fits`: the forms of segments, given the text behind.

## Main statements

* `Lexeme.value_eq`: the value of a lexeme.
* `Segment.fits_first`: the first segment of a text has one of the forms.
-/

namespace ExprLang

/-- The texts of each kind of token and the value that they stand for. -/
inductive Lexeme : Kind → List Char → Value → Prop where
  | symbol {c kind} : (c, kind) ∈ Kind.symbols → Lexeme kind [c] .nil
  | short {c short long} : (c, short, long) ∈ Kind.operators → Lexeme short [c] .nil
  | long {c short long} : (c, short, long) ∈ Kind.operators → Lexeme long [c, '='] .nil
  | slash : Lexeme .slash ['/'] .nil
  | string {body} : '"' ∉ body →
      Lexeme .string ('"' :: body ++ ['"']) (.text (String.ofList body))
  | reserved (word : Keyword) : Lexeme (.keyword word) word.spelling.toList .nil
  | identifier {c rest} : isNameStart c = true → (∀ d ∈ rest, isNamePart d = true) →
      (∀ word : Keyword, word.spelling.toList ≠ c :: rest) → Lexeme .identifier (c :: rest) .nil
  | integer {digits} : digits ≠ [] → (∀ d ∈ digits, d.isDigit = true) →
      Lexeme .number digits (.number (.ofDecimal false (.ofDigits digits [])))
  | decimal {digits places} : digits ≠ [] → (∀ d ∈ digits, d.isDigit = true) →
      places ≠ [] → (∀ d ∈ places, d.isDigit = true) →
      Lexeme .number (digits ++ '.' :: places)
        (.number (.ofDecimal false (.ofDigits digits places)))

/-- The characters that are punctuation marks or begin an operator. -/
def Kind.marks : List Char :=
  symbols.map Prod.fst ++ operators.map Prod.fst

/-- No mark is of the kind of texts or numbers, and none ends the input. -/
theorem Kind.symbols_apart {c : Char} {kind : Kind} (h : (c, kind) ∈ symbols) :
    kind ∉ [.string, .number, .endOfInput] := by
  have all : ∀ mark ∈ symbols, mark.2 ∉ [Kind.string, .number, .endOfInput] := by decide
  exact all _ h

/-- No operator is of the kind of texts or numbers, and none ends the input. -/
theorem Kind.operators_apart {c : Char} {short long : Kind} (h : (c, short, long) ∈ operators) :
    short ∉ [.string, .number, .endOfInput] ∧ long ∉ [.string, .number, .endOfInput] := by
  have all : ∀ mark ∈ operators, mark.2.1 ∉ [Kind.string, .number, .endOfInput] ∧
      mark.2.2 ∉ [Kind.string, .number, .endOfInput] := by decide
  exact all _ h

/-- The forms of segments. A quote is only left open if there is no other quote behind it. -/
inductive Segment.Fits : Segment → List Char → Prop where
  | lexeme {kind text value behind} : Lexeme kind text value → Fits (.lexeme kind text) behind
  | comment {body behind} : '\n' ∉ body → Fits (.skipped ('/' :: '/' :: body)) behind
  | blank {c behind} : c ∈ [' ', '\r', '\t', '\n'] → Fits (.skipped [c]) behind
  | unclosed {body} : '"' ∉ body → Fits (.unclosed ('"' :: body)) []
  | unexpected {c behind} : c ∉ Kind.marks → c ≠ '/' → c ∉ [' ', '\r', '\t', '\n'] → c ≠ '"' →
      c.isDigit = false → isNameStart c = false → Fits (.unexpected c) behind

/-! ### Runs of characters -/

section

variable {p : Char → Bool} {run rest : List Char}

/-- A run ends where the next character does not belong to it. -/
theorem takeWhile_eq_of_head (inside : ∀ c ∈ run, p c = true)
    (stops : ∀ c ∈ rest.head?, p c = false) : (run ++ rest).takeWhile p = run := by
  rw [List.takeWhile_append_of_pos inside]
  cases rest with
  | nil => simp
  | cons c rest => simp [stops c rfl]

theorem dropWhile_eq_of_head (inside : ∀ c ∈ run, p c = true)
    (stops : ∀ c ∈ rest.head?, p c = false) : (run ++ rest).dropWhile p = rest := by
  rw [List.dropWhile_append_of_pos inside]
  cases rest with
  | nil => rfl
  | cons c rest => simp [stops c rfl]

/-- A run in front of a text is the whole run or shorter than it. -/
theorem eq_takeWhile_or_length_lt (inside : ∀ c ∈ run, p c = true) (rest : List Char) :
    run = (run ++ rest).takeWhile p ∨ run.length < ((run ++ rest).takeWhile p).length := by
  rw [List.takeWhile_append_of_pos inside]
  cases more : rest.takeWhile p with
  | nil => exact .inl (List.append_nil run).symm
  | cons c more =>
    right
    rw [List.length_append, List.length_cons]
    omega

end

/-! ### Numerals -/

/-- There are no decimal places without a point. -/
theorem decimalPlaces_eq_nil {text : List Char} (apart : text.head? ≠ some '.') :
    decimalPlaces text = [] := by
  unfold decimalPlaces
  split
  · exact absurd rfl apart
  · rfl

/-- Behind a point, the run of digits is the decimal places unless it is empty. -/
theorem decimalPlaces_of_places {places : List Char} (some : places ≠ [])
    (all : ∀ d ∈ places, d.isDigit = true) (rest : List Char) :
    decimalPlaces ('.' :: places ++ rest) = '.' :: (places ++ rest).takeWhile Char.isDigit := by
  obtain ⟨d, more, rfl⟩ := List.exists_cons_of_ne_nil some
  have digit := all d List.mem_cons_self
  simp [decimalPlaces, digit]

/-- Digits end at a point. -/
theorem isDigit_head?_point (rest : List Char) : ∀ d ∈ ('.' :: rest).head?, d.isDigit = false := by
  rintro d ⟨⟩
  rfl

/-- A numeral goes on behind the point with the decimal places. -/
theorem numeral_of_point {digits : List Char} (all : ∀ d ∈ digits, d.isDigit = true)
    (rest : List Char) :
    numeral (digits ++ '.' :: rest) = digits ++ decimalPlaces ('.' :: rest) := by
  have point := isDigit_head?_point rest
  rw [numeral, takeWhile_eq_of_head all point, dropWhile_eq_of_head all point]

/-! ### Values -/

/-- Digits stand for themselves. -/
theorem Number.ofNumeral_of_digits {digits : List Char} (all : ∀ d ∈ digits, d.isDigit = true) :
    ofNumeral digits = .ofDecimal false (.ofDigits digits []) := by
  rw [ofNumeral, List.takeWhile_eq_self_iff.2 all, List.dropWhile_eq_nil_iff.2 all]
  rfl

/-- Digits around a point are the digits and the decimal places. -/
theorem Number.ofNumeral_of_places {digits places : List Char}
    (all : ∀ d ∈ digits, d.isDigit = true) :
    ofNumeral (digits ++ '.' :: places) = .ofDecimal false (.ofDigits digits places) := by
  have point := isDigit_head?_point places
  rw [ofNumeral, takeWhile_eq_of_head all point, dropWhile_eq_of_head all point]
  rfl

/-- The value of a lexeme is what its text stands for. -/
theorem Lexeme.value_eq {kind : Kind} {text : List Char} {value : Value}
    (h : Lexeme kind text value) : Value.ofLexeme kind text = value := by
  have symbols : ∀ mark ∈ Kind.symbols, ∀ text, Value.ofLexeme mark.2 text = .nil := by
    intro mark mem text
    simp only [Kind.symbols, List.mem_cons, List.not_mem_nil, or_false] at mem
    rcases mem with rfl | rfl | rfl | rfl | rfl | rfl | rfl | rfl | rfl | rfl <;> rfl
  have operators : ∀ mark ∈ Kind.operators, ∀ text,
      Value.ofLexeme mark.2.1 text = .nil ∧ Value.ofLexeme mark.2.2 text = .nil := by
    intro mark mem text
    simp only [Kind.operators, List.mem_cons, List.not_mem_nil, or_false] at mem
    rcases mem with rfl | rfl | rfl | rfl <;> exact ⟨rfl, rfl⟩
  cases h with
  | symbol mem => exact symbols _ mem _
  | short mem => exact (operators _ mem _).1
  | long mem => exact (operators _ mem _).2
  | slash => rfl
  | string _ => simp [Value.ofLexeme]
  | reserved word => rfl
  | identifier _ _ _ => rfl
  | integer _ all => rw [Value.ofLexeme, Number.ofNumeral_of_digits all]
  | decimal _ all _ _ => rw [Value.ofLexeme, Number.ofNumeral_of_places all]

/-- No lexeme is empty. -/
theorem Lexeme.ne_nil {kind : Kind} {text : List Char} {value : Value}
    (h : Lexeme kind text value) : text ≠ [] := by
  cases h with
  | reserved word => cases word <;> decide
  | integer some _ => exact some
  | decimal some _ _ _ => simp [some]
  | _ => simp

/-! ### The first segment -/

namespace Segment

variable {c : Char} {rest : List Char}

/-- The characters that tell by themselves what they begin. -/
def special : List Char :=
  Kind.marks ++ ['/', '"', ' ', '\r', '\t', '\n']

theorem first_symbol {kind : Kind} (h : (c, kind) ∈ Kind.symbols) :
    first c rest = .lexeme kind [c] := by
  have all : ∀ mark ∈ Kind.symbols, Kind.symbols.lookup mark.1 = some mark.2 := by decide
  rw [first, all _ h]

/-- An operator mark makes an operator, alone or with an equals sign. -/
theorem first_operator {short long : Kind} (h : (c, short, long) ∈ Kind.operators) :
    first c rest = ofOperator c short long rest := by
  have all : ∀ mark ∈ Kind.operators, Kind.symbols.lookup mark.1 = none ∧
      Kind.operators.lookup mark.1 = some mark.2 := by decide
  rw [first, (all _ h).1, (all _ h).2]

/-- What begins with no mark. -/
theorem first_of_not_mem_marks (h : c ∉ Kind.marks) : first c rest =
    if c = '/' then ofSlash rest
    else if isBlank c then .skipped [c]
    else if c = '"' then ofQuote rest
    else if c.isDigit then .lexeme .number (numeral (c :: rest))
    else if isNameStart c then ofWord (c :: rest.takeWhile isNamePart)
    else .unexpected c := by
  rw [Kind.marks, List.mem_append, not_or] at h
  have symbols : Kind.symbols.lookup c = none := by
    rw [List.lookup_eq_none_iff]
    intro mark mem
    exact bne_iff_ne.2 fun same => h.1 (List.mem_map.2 ⟨mark, mem, same.symm⟩)
  have operators : Kind.operators.lookup c = none := by
    rw [List.lookup_eq_none_iff]
    intro mark mem
    exact bne_iff_ne.2 fun same => h.2 (List.mem_map.2 ⟨mark, mem, same.symm⟩)
  rw [first, symbols, operators]

theorem first_slash : first '/' rest = ofSlash rest := by
  rw [first_of_not_mem_marks (by decide), if_pos rfl]

theorem isBlank_iff : isBlank c = true ↔ c ∈ [' ', '\r', '\t', '\n'] := by
  simp [isBlank, or_assoc]

theorem first_blank (h : c ∈ [' ', '\r', '\t', '\n']) : first c rest = .skipped [c] := by
  have apart : c ∉ Kind.marks ∧ c ≠ '/' := by
    simp only [List.mem_cons, List.not_mem_nil, or_false] at h
    rcases h with rfl | rfl | rfl | rfl <;> decide
  rw [first_of_not_mem_marks apart.1, if_neg apart.2, if_pos (isBlank_iff.2 h)]

theorem first_quote : first '"' rest = ofQuote rest := by
  rw [first_of_not_mem_marks (by decide), if_neg (by decide), if_neg (by decide), if_pos rfl]

/-- A text in quotes ends at the next quote. -/
theorem ofQuote_of_closed {body : List Char} (closed : '"' ∉ body) (behind : List Char) :
    ofQuote (body ++ '"' :: behind) = .lexeme .string ('"' :: body ++ ['"']) := by
  have inside : ∀ d ∈ body, decide (d ≠ '"') = true := by
    intro d mem
    exact decide_eq_true fun same => closed (same ▸ mem)
  rw [ofQuote, if_pos (by simp), takeWhile_eq_of_head inside (by simp)]

/-- What begins with no special character. -/
theorem first_of_not_mem_special (h : c ∉ special) : first c rest =
    if c.isDigit then .lexeme .number (numeral (c :: rest))
    else if isNameStart c then ofWord (c :: rest.takeWhile isNamePart)
    else .unexpected c := by
  rw [special, List.mem_append, not_or, List.mem_cons, List.mem_cons, not_or, not_or] at h
  obtain ⟨marks, slash, quote, blank⟩ := h
  rw [← isBlank_iff, Bool.not_eq_true] at blank
  rw [first_of_not_mem_marks marks, if_neg slash, blank, if_neg Bool.false_ne_true, if_neg quote]

/-- Digits and letters are no special characters. -/
theorem not_mem_special (h : c.isDigit = true ∨ isNameStart c = true) : c ∉ special := by
  have apart : special.all (fun c => !(c.isDigit || isNameStart c)) = true := by decide
  intro mem
  have neither := List.all_eq_true.1 apart c mem
  rw [← Bool.or_eq_true] at h
  rw [h] at neither
  cases neither

theorem first_digit (h : c.isDigit = true) :
    first c rest = .lexeme .number (numeral (c :: rest)) := by
  rw [first_of_not_mem_special (not_mem_special (.inl h)), if_pos h]

/-- No name begins with a digit. -/
theorem isDigit_of_isNameStart (h : isNameStart c = true) : c.isDigit = false := by
  rw [← Bool.not_eq_true]
  intro digit
  have low : c.toNat ≤ 57 := (Char.isDigit_iff_toNat.1 digit).2
  change (decide (65 ≤ c.val ∧ c.val ≤ 90) || (decide (97 ≤ c.val) && decide (c.val ≤ 122)) ||
    decide (c = '_')) = true at h
  simp only [Bool.or_eq_true, Bool.and_eq_true, decide_eq_true_eq, UInt32.le_iff_toNat_le] at h
  change ((65 ≤ c.toNat ∧ _) ∨ (97 ≤ c.toNat ∧ _)) ∨ _ at h
  obtain (upper | lower) | rfl := h
  · omega
  · omega
  · exact absurd low (by decide)

/-- A name or a reserved word goes on as long as parts of names follow. -/
theorem first_name (h : isNameStart c = true) :
    first c rest = ofWord (c :: rest.takeWhile isNamePart) := by
  rw [first_of_not_mem_special (not_mem_special (.inr h)), isDigit_of_isNameStart h,
    if_neg Bool.false_ne_true, if_pos h]

/-- A character that nothing begins with is unexpected. -/
theorem first_unexpected (mark : c ∉ Kind.marks) (slash : c ≠ '/')
    (blank : c ∉ [' ', '\r', '\t', '\n']) (quote : c ≠ '"') (digit : c.isDigit = false)
    (name : isNameStart c = false) : first c rest = .unexpected c := by
  have plain : c ∉ special := by
    rw [special, List.mem_append, List.mem_cons, List.mem_cons]
    exact fun h => h.elim mark fun h => h.elim slash fun h => h.elim quote blank
  rw [first_of_not_mem_special plain, digit, name, if_neg Bool.false_ne_true,
    if_neg Bool.false_ne_true]

/-! ### The first segment has a form -/

/-- An operator is of one of the forms, whichever character follows. -/
theorem fits_ofOperator {short long : Kind} {behind : List Char}
    (h : (c, short, long) ∈ Kind.operators) : Fits (ofOperator c short long rest) behind := by
  unfold ofOperator
  split
  · exact .lexeme (.long h)
  · exact .lexeme (.short h)

/-- A slash or a comment is of one of the forms. -/
theorem fits_ofSlash {behind : List Char} : Fits (ofSlash rest) behind := by
  unfold ofSlash
  split
  · next comment =>
    obtain ⟨body, rfl⟩ := List.head?_eq_some_iff.1 comment
    rw [List.takeWhile_cons_of_pos (by decide)]
    refine .comment fun mem => ?_
    simpa using List.mem_takeWhile_imp mem
  · exact .lexeme .slash

/-- A text in quotes is of one of the forms, and is left open only at the end. -/
theorem fits_ofQuote : Fits (ofQuote rest) (rest.drop ((ofQuote rest).text.length - 1)) := by
  unfold ofQuote
  split
  · refine .lexeme (.string fun mem => ?_)
    simpa using List.mem_takeWhile_imp mem
  · next unclosed =>
    simp only [text, List.length_cons, Nat.add_sub_cancel, List.drop_length]
    exact .unclosed unclosed

/-- A numeral is the lexeme of a number. -/
theorem exists_lexeme_numeral (rest : List Char) (h : c.isDigit = true) :
    ∃ value, Lexeme .number (numeral (c :: rest)) value := by
  have some : (c :: rest).takeWhile Char.isDigit ≠ [] := by simp [h]
  have all (text : List Char) : ∀ d ∈ text.takeWhile Char.isDigit, d.isDigit = true :=
    fun d mem => List.mem_takeWhile_imp mem
  unfold numeral decimalPlaces
  split
  · next digit more _ =>
    split
    · next places =>
      refine ⟨_, .decimal some (all _) (List.cons_ne_nil _ _) ?_⟩
      simpa using ⟨places, all more⟩
    · rw [List.append_nil]
      exact ⟨_, .integer some (all _)⟩
  · rw [List.append_nil]
    exact ⟨_, .integer some (all _)⟩

/-- A word is the lexeme of a keyword or of a name. -/
theorem fits_ofWord {word behind : List Char} (start : isNameStart c = true)
    (part : ∀ d ∈ word, isNamePart d = true) : Fits (ofWord (c :: word)) behind := by
  unfold ofWord Kind.ofWord Keyword.ofSpelling?
  split
  · next reserved found =>
    have spelling : reserved.spelling = String.ofList (c :: word) := by
      simpa using List.find?_some found
    have text := congrArg String.toList spelling
    rw [String.toList_ofList] at text
    rw [← text]
    exact .lexeme (.reserved _)
  · next none =>
    refine .lexeme (.identifier start part fun reserved same => ?_)
    have other := List.find?_eq_none.1 none reserved (Keyword.mem_all reserved)
    exact other (by rw [← same, String.ofList_toList]; simp)

/-- The first segment of a text has a form. -/
theorem fits_first (c : Char) (rest : List Char) :
    Fits (first c rest) (rest.drop ((first c rest).text.length - 1)) := by
  -- One form for each kind of character that a segment begins with.
  by_cases mark : c ∈ Kind.marks
  · rcases List.mem_append.1 mark with symbol | operator
    · obtain ⟨⟨_, kind⟩, mem, rfl⟩ := List.mem_map.1 symbol
      rw [first_symbol mem]
      exact .lexeme (.symbol mem)
    · obtain ⟨⟨_, short, long⟩, mem, rfl⟩ := List.mem_map.1 operator
      rw [first_operator mem]
      exact fits_ofOperator mem
  by_cases slash : c = '/'
  · subst slash
    rw [first_slash]
    exact fits_ofSlash
  by_cases quote : c = '"'
  · subst quote
    rw [first_quote]
    exact fits_ofQuote
  by_cases blank : c ∈ [' ', '\r', '\t', '\n']
  · rw [first_blank blank]
    exact .blank blank
  by_cases digit : c.isDigit = true
  · obtain ⟨value, lexeme⟩ := exists_lexeme_numeral rest digit
    rw [first_digit digit]
    exact .lexeme lexeme
  by_cases name : isNameStart c = true
  · rw [first_name name]
    exact fits_ofWord name fun d mem => List.mem_takeWhile_imp mem
  · rw [Bool.not_eq_true] at digit name
    rw [first_unexpected mark slash blank quote digit name]
    exact .unexpected mark slash blank quote digit name

end Segment

end ExprLang
