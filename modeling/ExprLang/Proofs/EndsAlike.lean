import ExprLang.Proofs.LongestMatch

/-!
# Where segments end

A segment ends where the text behind it cannot make it longer, and that shows in at most two
characters: whether there is one at all, of which class it is, and whether a point has a digit
behind it. So what stands further behind may be exchanged, and so may these characters for others
that no segment goes on with.

## Main definitions

* `continuations`: the classes of characters that a segment may go on with.
* `EndsAlike`: texts in front of which segments end alike.

## Main statements

* `Segment.IsLongest.congr`: a longest match in front of one text is one in front of the other.
* `endsAlike_append`: a text may be appended to one that is not empty or just a point.
* `endsAlike_of_spaced`: characters may be replaced by blanks.
-/

namespace ExprLang

/-- The classes of characters that a segment may go on with: the second mark of an operator, the
second slash, what numerals and words are made of, and what a comment is made of. -/
def continuations : List (Char → Bool) :=
  [(· = '='), (· = '/'), Char.isDigit, isNamePart, (· ≠ '\n')]

/-- Whether segments that end in front of the first text would also end in front of the second. -/
structure EndsAlike (behind behind' : List Char) : Prop where
  nil : behind = [] → behind' = []
  stops : ∀ p ∈ continuations, (∀ c ∈ behind.head?, p c = false) → ∀ c ∈ behind'.head?, p c = false
  places : decimalPlaces behind = [] → decimalPlaces behind' = []

variable {c : Char} {run rest behind behind' more : List Char}

/-! ### Where runs end -/

/-- A run of characters is the whole run when it consists of them and none follows. -/
theorem takeWhile_append_eq_left_iff {p : Char → Bool} :
    (run ++ rest).takeWhile p = run ↔
      (∀ c ∈ run, p c = true) ∧ ∀ c ∈ rest.head?, p c = false := by
  constructor
  · intro whole
    have inside : ∀ c ∈ run, p c = true := by
      intro c mem
      rw [← whole] at mem
      exact List.mem_takeWhile_imp mem
    refine ⟨inside, ?_⟩
    rw [List.takeWhile_append_of_pos inside] at whole
    cases rest with
    | nil => simp
    | cons d rest =>
      by_cases goes : p d = true
      · rw [List.takeWhile_cons_of_pos goes] at whole
        exact absurd (List.append_right_eq_self.1 whole) (List.cons_ne_nil _ _)
      · simpa using goes
  · rintro ⟨inside, stops⟩
    exact takeWhile_eq_of_head inside stops

/-- The classes that a mark alone makes up stop where the mark does not follow. -/
theorem head?_ne_iff {mark : Char} :
    behind.head? ≠ some mark ↔ ∀ c ∈ behind.head?, decide (c = mark) = false := by
  cases behind <;> simp [eq_comm]

/-- Digits are a whole numeral when neither another digit nor decimal places follow. -/
theorem numeral_digits_iff {digits : List Char} (all : ∀ d ∈ digits, d.isDigit = true) :
    numeral (digits ++ behind) = digits ↔
      (∀ c ∈ behind.head?, c.isDigit = false) ∧ decimalPlaces behind = [] := by
  constructor
  · intro whole
    rw [numeral, List.takeWhile_append_of_pos all, List.append_assoc,
      List.append_right_eq_self, List.append_eq_nil_iff, List.dropWhile_append_of_pos all] at whole
    obtain ⟨none, places⟩ := whole
    have stops : ∀ c ∈ behind.head?, c.isDigit = false := by
      cases behind with
      | nil => simp
      | cons d rest => simpa using none
    have kept : ([] ++ behind).dropWhile Char.isDigit = behind :=
      dropWhile_eq_of_head (by simp) stops
    rw [List.nil_append] at kept
    rw [kept] at places
    exact ⟨stops, places⟩
  · rintro ⟨stops, places⟩
    rw [numeral, takeWhile_eq_of_head all stops, dropWhile_eq_of_head all stops, places,
      List.append_nil]

/-- Digits with decimal places are a whole numeral when no digit follows. -/
theorem numeral_places_iff {digits places : List Char} (all : ∀ d ∈ digits, d.isDigit = true)
    (some : places ≠ []) (all' : ∀ d ∈ places, d.isDigit = true) :
    numeral (digits ++ '.' :: places ++ behind) = digits ++ '.' :: places ↔
      ∀ c ∈ behind.head?, c.isDigit = false := by
  have found := decimalPlaces_of_places some all' behind
  rw [List.cons_append] at found
  rw [List.append_assoc, List.cons_append, numeral_of_point all, found, List.append_right_inj,
    List.cons.injEq, takeWhile_append_eq_left_iff]
  exact ⟨fun h => h.2.2, fun stops => ⟨rfl, all', stops⟩⟩

/-! ### Longest matches -/

namespace Segment

/-- An operator mark stays alone unless an equals sign follows. -/
theorem ofOperator_short_iff {short long : Kind} :
    ofOperator c short long behind = .lexeme short [c] ↔ behind.head? ≠ some '=' := by
  rw [ofOperator]
  split
  · next follows => simp [follows]
  · next apart => simp [apart]

/-- A slash is no comment unless another slash follows. -/
theorem ofSlash_alone_iff : ofSlash behind = .lexeme .slash ['/'] ↔ behind.head? ≠ some '/' := by
  rw [ofSlash]
  split
  · next follows => simp [follows]
  · next apart => simp [apart]

/-- A comment goes on up to the end of the line. -/
theorem ofSlash_comment_iff {body : List Char} :
    ofSlash ('/' :: body ++ behind) = .skipped ('/' :: '/' :: body) ↔
      (∀ d ∈ '/' :: body, decide (d ≠ '\n') = true) ∧
        ∀ d ∈ behind.head?, decide (d ≠ '\n') = false := by
  rw [← takeWhile_append_eq_left_iff, ofSlash, if_pos (by rfl), skipped.injEq, List.cons.injEq]
  exact and_iff_right rfl

/-- A word goes on as long as parts of names follow. -/
theorem ofWord_iff {kind : Kind} (of_word : Kind.ofWord (String.ofList (c :: run)) = kind) :
    ofWord (c :: (run ++ behind).takeWhile isNamePart) = .lexeme kind (c :: run) ↔
      (∀ d ∈ run, isNamePart d = true) ∧ ∀ d ∈ behind.head?, isNamePart d = false := by
  rw [← takeWhile_append_eq_left_iff, ofWord]
  constructor
  · intro same
    exact (List.cons.inj (congrArg text same)).2
  · intro whole
    rw [whole, of_word]

/-- A character that is unexpected is so whatever follows. -/
theorem Fits.first_unexpected (h : Fits (.unexpected c) behind) (rest : List Char) :
    first c rest = .unexpected c := by
  cases h with
  | unexpected mark slash blank quote digit name =>
    exact Segment.first_unexpected mark slash blank quote digit name

/-- A lexeme is found alike in front of texts that segments end alike in front of. -/
theorem first_lexeme_congr {kind : Kind} {chars : List Char} {value : Value}
    (lexeme : Lexeme kind chars value) (spelled : chars = c :: run)
    (found : first c (run ++ behind) = .lexeme kind chars) (alike : EndsAlike behind behind') :
    first c (run ++ behind') = .lexeme kind chars := by
  -- What a lexeme asks of the text behind it: no equals sign, no slash, no digit, no part of a
  -- name.
  have equals := alike.stops (· = '=') (by simp [continuations])
  have slash := alike.stops (· = '/') (by simp [continuations])
  have digit := alike.stops Char.isDigit (by simp [continuations])
  have part := alike.stops isNamePart (by simp [continuations])
  rw [← head?_ne_iff, ← head?_ne_iff] at equals slash
  cases lexeme with
  | symbol mem =>
    obtain ⟨rfl, rfl⟩ := List.cons.inj spelled
    exact first_symbol mem
  | short mem =>
    obtain ⟨rfl, rfl⟩ := List.cons.inj spelled
    rw [first_operator mem] at found ⊢
    exact ofOperator_short_iff.2 (equals (ofOperator_short_iff.1 found))
  | long mem =>
    obtain ⟨rfl, rfl⟩ := List.cons.inj spelled
    exact first_operator mem
  | slash =>
    obtain ⟨rfl, rfl⟩ := List.cons.inj spelled
    rw [List.nil_append, first_slash] at found ⊢
    exact ofSlash_alone_iff.2 (slash (ofSlash_alone_iff.1 found))
  | @string body closed =>
    obtain ⟨rfl, rfl⟩ : '"' = c ∧ body ++ ['"'] = run := List.cons.inj spelled
    rw [List.append_assoc, List.singleton_append, first_quote, ofQuote_of_closed closed]
  | reserved word =>
    obtain ⟨d, rest, spelled', name, -, of_word⟩ := word.exists_spelling_eq
    rw [spelled'] at spelled found ⊢
    obtain ⟨rfl, rfl⟩ := List.cons.inj spelled
    rw [first_name name, ofWord_iff of_word] at found ⊢
    exact ⟨found.1, part found.2⟩
  | identifier name _ free =>
    obtain ⟨rfl, rfl⟩ := List.cons.inj spelled
    rw [first_name name, ofWord_iff (Kind.ofWord_eq_identifier free)] at found ⊢
    exact ⟨found.1, part found.2⟩
  | integer _ all =>
    subst spelled
    rw [first_digit (all c List.mem_cons_self), lexeme.injEq, ← List.cons_append,
      numeral_digits_iff all] at found ⊢
    -- A point goes on with a numeral only if a digit follows, so two characters count here.
    exact ⟨rfl, digit found.2.1, alike.places found.2.2⟩
  | @decimal digits places some all some' all' =>
    obtain ⟨d, more, rfl⟩ := List.exists_cons_of_ne_nil some
    obtain ⟨rfl, rfl⟩ : d = c ∧ more ++ '.' :: places = run := List.cons.inj spelled
    rw [first_digit (all d List.mem_cons_self), lexeme.injEq, ← List.cons_append,
      ← List.cons_append, numeral_places_iff all some' all'] at found ⊢
    exact ⟨rfl, digit found.2⟩

/-- A longest match does not depend on what is behind it, as long as segments end alike there. -/
theorem IsLongest.congr {piece : Segment} (h : piece.IsLongest behind)
    (alike : EndsAlike behind behind') : piece.IsLongest behind' := by
  obtain ⟨c, run, spelled⟩ := List.exists_cons_of_ne_nil h.1.text_ne_nil
  have split (tail : List Char) : piece.text ++ tail = c :: (run ++ tail) := by rw [spelled]; rfl
  have found := ((isLongest_iff (split behind)).1 h).symm
  refine (isLongest_iff (split behind')).2 (Eq.symm ?_)
  cases h.1 with
  | lexeme lexeme => exact first_lexeme_congr lexeme spelled found alike
  | comment _ =>
    obtain ⟨rfl, rfl⟩ := List.cons.inj spelled
    have line := alike.stops (· ≠ '\n') (by simp [continuations])
    rw [first_slash, ofSlash_comment_iff] at found ⊢
    exact ⟨found.1, line found.2⟩
  | blank blank =>
    obtain ⟨rfl, rfl⟩ := List.cons.inj spelled
    exact first_blank blank
  -- Nothing stands behind an open quote, so nothing does in the other text.
  | unclosed _ =>
    obtain ⟨rfl, rfl⟩ := List.cons.inj spelled
    rw [alike.nil rfl]
    exact found
  | @unexpected d _ _ _ _ _ _ _ =>
    obtain ⟨rfl, rfl⟩ := List.cons.inj spelled
    exact h.1.first_unexpected _

end Segment

/-! ### Texts that segments end alike in front of -/

/-- A point has no decimal places unless a digit follows. -/
theorem decimalPlaces_point_eq_nil_iff :
    decimalPlaces ('.' :: c :: rest) = [] ↔ c.isDigit = false := by
  rw [decimalPlaces]
  split
  · next digit => simp [digit]
  · next other => simpa using other

/-- What is appended to a text is not looked at, unless the text is empty or just a point. -/
theorem endsAlike_append (some : behind ≠ []) (noPoint : behind ≠ ['.']) (more : List Char) :
    EndsAlike behind (behind ++ more) := by
  obtain ⟨c, rest, rfl⟩ := List.exists_cons_of_ne_nil some
  refine ⟨fun none => absurd none some, fun p _ stops => stops, ?_⟩
  intro none
  by_cases point : c = '.'
  · subst point
    cases rest with
    | nil => exact absurd rfl noPoint
    | cons d rest =>
      rw [List.cons_append, List.cons_append]
      rwa [decimalPlaces_point_eq_nil_iff] at none ⊢
  · apply decimalPlaces_eq_nil
    simpa using point

/-- Whether a character is another one, or a blank in place of one that ends no line. -/
def Spaced (c d : Char) : Prop :=
  d = c ∨ c ≠ '\n' ∧ d = ' '

/-- No class of characters that a segment may go on with has the blank, unless it has all that end
no line. -/
theorem Spaced.stops {p : Char → Bool} {c d : Char} (h : Spaced c d) (mem : p ∈ continuations)
    (stop : p c = false) : p d = false := by
  rcases h with rfl | ⟨inside, rfl⟩
  · exact stop
  · simp only [continuations, List.mem_cons, List.not_mem_nil, or_false] at mem
    rcases mem with rfl | rfl | rfl | rfl | rfl
    · decide
    · decide
    · decide
    · decide
    · simp [inside] at stop

/-- Characters that end no line may be replaced by blanks. -/
theorem endsAlike_of_spaced (h : List.Forall₂ Spaced behind behind') :
    EndsAlike behind behind' := by
  cases h with
  | nil => exact ⟨id, fun _ _ stops => stops, id⟩
  | @cons c d rest rest' first others =>
    refine ⟨fun none => absurd none (List.cons_ne_nil _ _), ?_, ?_⟩
    · intro p mem stops e found
      cases found
      exact first.stops mem (stops c rfl)
    · intro none
      -- Only behind a point does a second character matter.
      by_cases point : d = '.'
      · subst point
        obtain rfl : '.' = c := first.resolve_right fun blank => absurd blank.2 (by decide)
        cases others with
        | nil => rfl
        | @cons c' d' _ _ second _ =>
          rw [decimalPlaces_point_eq_nil_iff] at none ⊢
          exact second.stops (by simp [continuations]) none
      · apply decimalPlaces_eq_nil
        simpa using point

end ExprLang
