import ExprLang.Grammar.Reads

/-!
# Counting nesting

Reading is bounded by the room that is left for nesting. It may as well be done with one counter for
all rules, which is raised in front of what stands inside a unary operator or a grouping and lowered
behind it, whether that was read or failed. The counter always comes back to where it was, and the
outcome is the one of reading with the room between the counter and the limit.

## Main definitions

* `Counts`: reading with a counter.

## Main statements

* `counts_iff`: reading with a counter comes to the same as reading with room.
-/

namespace ExprLang

open Grammar in
/-- From which tokens, and with the counter at which depth, a task comes to which outcome, and where
that leaves the counter. -/
inductive Counts (limit : Int) :
    Task → Nat → List Token → Except Failure (Expr × List Token) → Nat → Prop where
  | expression {depth depth' tokens outcome} :
      Counts limit (.rule .equality) depth tokens outcome depth' →
      Counts limit (.rule .expression) depth tokens outcome depth'
  | operand_failed {depth depth' tokens failure} (level : Level) :
      Counts limit (.rule level.operand) depth tokens (.error failure) depth' →
      Counts limit (.rule level.rule) depth tokens (.error failure) depth'
  | operand_read {depth depth' depth'' tokens left rest outcome} (level : Level) :
      Counts limit (.rule level.operand) depth tokens (.ok (left, rest)) depth' →
      Counts limit (.chain level left) depth' rest outcome depth'' →
      Counts limit (.rule level.rule) depth tokens outcome depth''
  | chain_done {depth level left tokens} :
      ¬ BeginsWith level.operators tokens →
      Counts limit (.chain level left) depth tokens (.ok (left, tokens)) depth
  | chain_failed {depth depth' level left operator tokens failure} :
      operator.kind ∈ level.operators →
      Counts limit (.rule level.operand) depth tokens (.error failure) depth' →
      Counts limit (.chain level left) depth (operator :: tokens) (.error failure) depth'
  | chain_tall {depth depth' level left operator tokens right rest} :
      operator.kind ∈ level.operators →
      Counts limit (.rule level.operand) depth tokens (.ok (right, rest)) depth' →
      limit < (Expr.binary left operator right).height →
      Counts limit (.chain level left) depth (operator :: tokens)
        (.error ⟨.tooDeep limit, operator :: tokens, rest⟩) depth'
  | chain_read {depth depth' depth'' level left operator tokens right rest outcome} :
      operator.kind ∈ level.operators →
      Counts limit (.rule level.operand) depth tokens (.ok (right, rest)) depth' →
      (Expr.binary left operator right).height ≤ limit →
      Counts limit (.chain level (.binary left operator right)) depth' rest outcome depth'' →
      Counts limit (.chain level left) depth (operator :: tokens) outcome depth''
  | unary_full {depth : Nat} {operator tokens} :
      operator.kind ∈ unaryOperators → limit ≤ depth →
      Counts limit (.rule .unary) depth (operator :: tokens)
        (.error ⟨.tooDeep limit, tokens, tokens⟩) depth
  | unary {depth depth' : Nat} {operator tokens outcome} :
      operator.kind ∈ unaryOperators → depth < limit →
      Counts limit (.rule .unary) (depth + 1) tokens outcome depth' →
      Counts limit (.rule .unary) depth (operator :: tokens)
        (outcome.bind fun (operand, rest) =>
          bounded limit (.unary operator operand) (operator :: tokens) rest) (depth' - 1)
  | primary {depth depth' tokens outcome} :
      ¬ BeginsWith unaryOperators tokens →
      Counts limit (.rule .primary) depth tokens outcome depth' →
      Counts limit (.rule .unary) depth tokens outcome depth'
  | literal {depth token tokens value} :
      literal? token = some value →
      Counts limit (.rule .primary) depth (token :: tokens) (.ok (.literal value, tokens)) depth
  | operand_missing {depth tokens} :
      ¬ BeginsWith primaryKinds tokens →
      Counts limit (.rule .primary) depth tokens (.error ⟨.operandExpected, tokens, tokens⟩) depth
  | grouping_full {depth : Nat} {opening tokens} :
      opening.kind = .leftParen → limit ≤ depth →
      Counts limit (.rule .primary) depth (opening :: tokens)
        (.error ⟨.tooDeep limit, tokens, tokens⟩) depth
  | grouping {depth depth' : Nat} {opening tokens outcome} :
      opening.kind = .leftParen → depth < limit →
      Counts limit (.rule .expression) (depth + 1) tokens outcome depth' →
      Counts limit (.rule .primary) depth (opening :: tokens)
        (outcome.bind fun (tree, rest) => closeGrouping limit tree rest) (depth' - 1)

variable {limit : Int} {depth depth' : Nat} {task : Task} {tokens : List Token}
  {outcome : Except Failure (Expr × List Token)}

/-! ### Completed nodes -/

namespace Grammar

variable {node tree : Expr} {site rest : List Token} {closing : Token}

/-- A node taller than the limit is an error. -/
theorem bounded_of_lt (tall : limit < node.height) :
    bounded limit node site rest = .error ⟨.tooDeep limit, site, rest⟩ :=
  if_pos tall

/-- A node within the limit stays. -/
theorem bounded_of_le (fits : node.height ≤ limit) :
    bounded limit node site rest = .ok (node, rest) :=
  if_neg (Int.not_lt.2 fits)

/-- A grouping is closed by a parenthesis if it is within the limit. -/
theorem closeGrouping_of_closing (h : closing.kind = .rightParen) :
    closeGrouping limit tree (closing :: rest) =
      bounded limit (.grouping tree) (closing :: rest) rest :=
  if_pos h

/-- A grouping is not closed by anything else. -/
theorem closeGrouping_of_unclosed (limit : Int) (tree : Expr)
    (h : ¬ BeginsWith [.rightParen] rest) :
    closeGrouping limit tree rest = .error ⟨unclosedGrouping, rest, rest⟩ := by
  cases rest with
  | nil => rfl
  | cons token rest =>
    rw [beginsWith_cons, List.mem_singleton] at h
    exact if_neg h

end Grammar

/-! ### Rooms and depths -/

/-- There is no room at the limit. -/
theorem room_eq_zero (h : limit ≤ depth) : (limit - depth).toNat = 0 := by
  omega

/-- Below the limit there is room for one more than a step deeper. -/
theorem room_eq_succ (h : depth < limit) :
    (limit - depth).toNat = (limit - (depth + 1 : Nat)).toNat + 1 := by
  omega

/-- Where there is room, the depth is below the limit. -/
theorem lt_of_room_eq_succ {room : Nat} (h : room + 1 = (limit - depth).toNat) :
    depth < limit ∧ room = (limit - (depth + 1 : Nat)).toNat := by
  omega

/-! ### Both ways of reading -/

/-- Whatever reading comes to, the counter is back where it was, and the same is read with the room
between the counter and the limit. -/
theorem Counts.reads (h : Counts limit task depth tokens outcome depth') :
    Reads limit (limit - depth).toNat task tokens outcome ∧ depth' = depth := by
  -- The room is what lies between the counter and the limit: it is used up exactly when the counter
  -- has reached the limit, and one less inside, where the counter is one more.
  induction h with
  | expression _ ih => exact ⟨.expression ih.1, ih.2⟩
  | operand_failed level _ ih => exact ⟨.operand_failed level ih.1, ih.2⟩
  | operand_read level _ _ first second =>
    obtain ⟨first, rfl⟩ := first
    exact ⟨.operand_read level first second.1, second.2⟩
  | chain_done done => exact ⟨.chain_done done, rfl⟩
  | chain_failed operator _ ih => exact ⟨.chain_failed operator ih.1, ih.2⟩
  | chain_tall operator _ tall ih => exact ⟨.chain_tall operator ih.1 tall, ih.2⟩
  | chain_read operator _ fits _ first second =>
    obtain ⟨first, rfl⟩ := first
    exact ⟨.chain_read operator first fits second.1, second.2⟩
  | unary_full operator full =>
    rw [room_eq_zero full]
    exact ⟨.unary_full operator, rfl⟩
  | @unary _ _ operator _ outcome kind below _ ih =>
    obtain ⟨inner, rfl⟩ := ih
    refine ⟨?_, rfl⟩
    rw [room_eq_succ below]
    obtain failure | ⟨operand, rest⟩ := outcome
    · exact .unary_failed kind inner
    simp only [Except.bind]
    rcases Int.lt_or_le limit (Expr.unary operator operand).height with tall | fits
    · rw [Grammar.bounded_of_lt tall]
      exact .unary_tall kind inner tall
    · rw [Grammar.bounded_of_le fits]
      exact .unary_read kind inner fits
  | primary other _ ih => exact ⟨.primary other ih.1, ih.2⟩
  | literal value => exact ⟨.literal value, rfl⟩
  | operand_missing missing => exact ⟨.operand_missing missing, rfl⟩
  | grouping_full opening full =>
    rw [room_eq_zero full]
    exact ⟨.grouping_full opening, rfl⟩
  | @grouping _ _ _ _ outcome opening below _ ih =>
    obtain ⟨inner, rfl⟩ := ih
    refine ⟨?_, rfl⟩
    rw [room_eq_succ below]
    obtain failure | ⟨tree, rest⟩ := outcome
    · exact .grouping_failed opening inner
    simp only [Except.bind]
    by_cases closed : BeginsWith [.rightParen] rest
    · cases rest with
      | nil => exact absurd closed (beginsWith_nil _)
      | cons closing rest =>
        rw [beginsWith_cons, List.mem_singleton] at closed
        rw [Grammar.closeGrouping_of_closing closed]
        rcases Int.lt_or_le limit (Expr.grouping tree).height with tall | fits
        · rw [Grammar.bounded_of_lt tall]
          exact .grouping_tall opening inner closed tall
        · rw [Grammar.bounded_of_le fits]
          exact .grouping_read opening inner closed fits
    · rw [Grammar.closeGrouping_of_unclosed limit tree closed]
      exact .grouping_unclosed opening inner closed

/-- What is read with room is read with a counter as well. -/
theorem Reads.counts {room : Nat} (h : Reads limit room task tokens outcome)
    (left : room = (limit - depth).toNat) : Counts limit task depth tokens outcome depth := by
  induction h generalizing depth with
  | expression _ ih => exact .expression (ih left)
  | operand_failed level _ ih => exact .operand_failed level (ih left)
  | operand_read level _ _ first second => exact .operand_read level (first left) (second left)
  | chain_done done => exact .chain_done done
  | chain_failed operator _ ih => exact .chain_failed operator (ih left)
  | chain_tall operator _ tall ih => exact .chain_tall operator (ih left) tall
  | chain_read operator _ fits _ first second =>
    exact .chain_read operator (first left) fits (second left)
  | unary_full operator => exact .unary_full operator (by omega)
  | unary_failed operator _ ih =>
    -- Inside, the counter stands one higher and there is room for one less.
    obtain ⟨below, inside⟩ := lt_of_room_eq_succ left
    exact .unary operator below (ih inside)
  | unary_tall operator _ tall ih =>
    obtain ⟨below, inside⟩ := lt_of_room_eq_succ left
    rw [← Grammar.bounded_of_lt tall]
    exact .unary operator below (ih inside)
  | unary_read operator _ fits ih =>
    obtain ⟨below, inside⟩ := lt_of_room_eq_succ left
    rw [← Grammar.bounded_of_le fits]
    exact .unary operator below (ih inside)
  | primary other _ ih => exact .primary other (ih left)
  | literal value => exact .literal value
  | operand_missing missing => exact .operand_missing missing
  | grouping_full opening => exact .grouping_full opening (by omega)
  | grouping_failed opening _ ih =>
    obtain ⟨below, inside⟩ := lt_of_room_eq_succ left
    exact .grouping opening below (ih inside)
  | @grouping_unclosed _ _ _ tree _ opening _ unclosed ih =>
    obtain ⟨below, inside⟩ := lt_of_room_eq_succ left
    rw [← Grammar.closeGrouping_of_unclosed limit tree unclosed]
    exact .grouping opening below (ih inside)
  | grouping_tall opening _ closing tall ih =>
    obtain ⟨below, inside⟩ := lt_of_room_eq_succ left
    rw [← Grammar.bounded_of_lt tall, ← Grammar.closeGrouping_of_closing closing]
    exact .grouping opening below (ih inside)
  | grouping_read opening _ closing fits ih =>
    obtain ⟨below, inside⟩ := lt_of_room_eq_succ left
    rw [← Grammar.bounded_of_le fits, ← Grammar.closeGrouping_of_closing closing]
    exact .grouping opening below (ih inside)

/-- Reading with a counter comes to the same as reading with room, and to nothing else. -/
theorem counts_iff : Counts limit task depth tokens outcome depth' ↔
    task.read limit (limit - depth).toNat tokens = outcome ∧ depth' = depth := by
  constructor
  · intro h
    exact ⟨h.reads.1.read_eq, h.reads.2⟩
  · rintro ⟨rfl, rfl⟩
    exact (reads_read limit _ task tokens).counts rfl

end ExprLang
