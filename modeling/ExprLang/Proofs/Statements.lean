import ExprLang.Proofs.Behind
import ExprLang.Proofs.Rounds
import Mathlib.Data.List.Basic
import Mathlib.Data.List.TakeWhile

/-!
# Statements

A list of tokens that holds no keyword of a statement falls into statements at its terminators. A
parser that recovers reports of each statement what is reported when that statement is parsed alone.

## Main definitions

* `Statement`, `Program`: tokens with a terminator, and statements up to the end of the input.
* `Statement.alone`: a parser for one statement.

## Main statements

* `nextAttempt_append`: the attempt after plain tokens.
* `Program.exists_tokens_eq`: which tokens make up programs.
* `Program.errors_attempts`: the attempts on a program find the errors of its statements.
* `Program.parse_statements`: what parsing a program answers and records.
-/

namespace ExprLang

/-- Whether no statement ends or begins with a keyword among the tokens, and the input goes on. -/
def Plain (tokens : List Token) : Prop :=
  ∀ token ∈ tokens, token.kind ≠ .semicolon ∧ token.kind ∉ Kind.statementKeywords ∧
    token.kind ≠ .endOfInput

/-- Plain tokens and the token that ends them. -/
structure Statement where
  body : List Token
  terminator : Token
  body_plain : Plain body

/-- Statements, of which all but the last are closed and the last ends the input. -/
structure Program where
  closed : List Statement
  last : Statement
  closed_semicolon : ∀ statement ∈ closed, statement.terminator.kind = .semicolon
  last_end : last.terminator.kind = .endOfInput

namespace Plain

variable {tokens rest : List Token} {token : Token}

theorem of_isSuffix (h : Plain tokens) (suffix : rest <:+ tokens) : Plain rest :=
  fun token mem => h token (suffix.subset mem)

/-- No token of a body ends a statement. -/
theorem endsStatement (h : Plain tokens) (mem : token ∈ tokens) :
    token.kind.endsStatement = false := by
  rw [← Bool.not_eq_true, Kind.endsStatement_iff]
  exact (h token mem).1

/-- No token of a body begins one. -/
theorem startsStatement (h : Plain tokens) (mem : token ∈ tokens) :
    token.kind.startsStatement = false := by
  rw [← Bool.not_eq_true, Kind.startsStatement_iff]
  exact (h token mem).2.1

theorem isEnd (h : Plain tokens) (mem : token ∈ tokens) : token.isEnd = false :=
  decide_eq_false (h token mem).2.2

end Plain

/-- The tree that an attempt on the tokens reads. -/
def tree? (limit : Int) (tokens : List Token) : Option Expr :=
  match Rule.expression.read limit limit.toNat tokens with
  | .ok (tree, _) => some tree
  | .error _ => none

section

variable {limit : Int} {tokens behind : List Token}

/-- What follows a statement does not matter to its tree. -/
theorem tree?_append (stop : ¬ BeginsWith exprKinds behind) :
    tree? limit (tokens ++ behind) = tree? limit tokens := by
  rw [tree?, tree?, Rule.read_append stop]
  cases Rule.expression.read limit limit.toNat tokens <;> rfl

/-- What follows a statement does not matter to its fault, but for the tokens that are left. -/
theorem fault?_append (stop : ¬ BeginsWith exprKinds behind) : fault? limit (tokens ++ behind) =
    (fault? limit tokens).map fun failure =>
      ⟨failure.cause, failure.site ++ behind, failure.rest ++ behind⟩ := by
  rw [fault?, fault?, Rule.read_append stop]
  cases Rule.expression.read limit limit.toNat tokens <;> rfl

/-- An attempt has a tree or a fault. -/
theorem fault?_eq_none_iff_tree? : fault? limit tokens = none ↔ (tree? limit tokens).isSome := by
  rw [fault?, tree?]
  cases Rule.expression.read limit limit.toNat tokens <;> simp

/-- There is no place to go on from within a body. -/
theorem resumeBehind_append (plain : Plain tokens) :
    resumeBehind false (tokens ++ behind) = resumeBehind false behind := by
  induction tokens with
  | nil => rfl
  | cons token rest ih =>
    have starts := plain.startsStatement List.mem_cons_self
    have ends := plain.endsStatement List.mem_cons_self
    rw [List.cons_append, resumeBehind, Kind.introducesExpr_eq_false starts, ends]
    exact ih (plain.of_isSuffix (List.suffix_cons _ _))

/-- The attempt after plain tokens is made where it would be without them. What the attempt on them
leaves is plain as well, and so it does not matter where the search begins. -/
theorem nextAttempt_append (plain : Plain tokens) (stop : ¬ BeginsWith exprKinds behind)
    (same : resumePast behind = resumeBehind false behind) :
    nextAttempt limit (tokens ++ behind) = resumeBehind false behind := by
  have suffix := (reads_read limit limit.toNat (.rule .expression) tokens).consumes.isSuffix
  have left := plain.of_isSuffix suffix
  simp only [Task.read] at left
  rw [nextAttempt, Rule.read_append stop]
  cases read : Rule.expression.read limit limit.toNat tokens with
  | ok result =>
    rw [read] at left
    exact resumeBehind_append left
  | error failure =>
    simp only [read, remaining, leaving] at left ⊢
    cases rest : failure.rest with
    | nil => exact same
    | cons token rest' =>
      -- The token at the cursor is passed over, and it is plain.
      rw [rest] at left
      rw [List.cons_append, resumePast, left.endsStatement List.mem_cons_self]
      exact resumeBehind_append (left.of_isSuffix (List.suffix_cons _ _))

/-- There is nowhere to go on from behind the only statement. -/
theorem nextAttempt_of_plain (plain : Plain tokens) : nextAttempt limit tokens = none := by
  rw [← List.append_nil tokens]
  exact nextAttempt_append plain (beginsWith_nil _) rfl

/-- Behind a terminator one goes on at once if anything follows. -/
theorem resumeBehind_true (some : tokens ≠ [])
    (starts : ∀ token ∈ tokens, token.kind.startsStatement = false) :
    resumeBehind true tokens = .some tokens := by
  cases tokens with
  | nil => exact absurd rfl some
  | cons token rest =>
    rw [resumeBehind, starts token List.mem_cons_self]
    rfl

end

namespace Parser

variable {p : Parser}

/-- Parsing answers the tree of the first attempt. -/
theorem parse_fst : p.parse.1 = tree? p.limit p.input.tokens := by
  cases read : Rule.expression.read p.limit p.limit.toNat p.input.tokens with
  | ok result =>
    obtain ⟨tree, rest⟩ := result
    rw [parse_ok read, tree?, read]
  | error failure => rw [parse_error read, tree?, read]

/-- With a tree there are no errors. -/
theorem errors_parse_of_tree (h : (tree? p.limit p.input.tokens).isSome) :
    p.parse.2.errors = [] := by
  obtain ⟨tree, rest, read⟩ := fault?_eq_none_iff.1 (fault?_eq_none_iff_tree?.2 h)
  rw [parse_ok read]
  rfl

/-- Without recovery the one error is that of the first attempt. -/
theorem errors_parse_of_not_recovers (h : p.recovers = false) :
    p.parse.2.errors = ((fault? p.limit p.input.tokens).map p.input.report).toList := by
  cases fault : fault? p.limit p.input.tokens with
  | none => exact errors_parse_of_tree (fault?_eq_none_iff_tree?.1 fault)
  | some failure =>
    rw [parse_error (fault?_eq_some_iff.1 fault), h]
    rfl

end Parser

namespace Input

variable {tokens : List Token} {token : Token}

theorem tokens_ofTokens_eq_self (h : ∀ token ∈ tokens, token.isEnd = false) :
    (ofTokens tokens).tokens = tokens := by
  refine List.takeWhile_eq_self_iff.2 fun token mem => ?_
  rw [h token mem]
  rfl

theorem find?_isEnd_eq_none (h : ∀ token ∈ tokens, token.isEnd = false) :
    tokens.find? Token.isEnd = none := by
  refine List.find?_eq_none.2 fun token mem => ?_
  rw [h token mem]
  exact Bool.false_ne_true

/-- A list that ends with its only end of input is the tokens in front of that. -/
theorem ofTokens_append_end (h : ∀ token ∈ tokens, token.isEnd = false)
    (ends : token.kind = .endOfInput) :
    (ofTokens (tokens ++ [token])).tokens = tokens ∧
      (ofTokens (tokens ++ [token])).stop = token := by
  have isEnd : token.isEnd = true := decide_eq_true ends
  constructor
  · refine (List.takeWhile_append_of_pos fun token mem => ?_).trans ?_
    · rw [h token mem]
      rfl
    · rw [List.takeWhile_cons_of_neg (by simp [isEnd]), List.append_nil]
  · change stopOf (tokens ++ [token]) = token
    rw [stopOf, List.find?_append, find?_isEnd_eq_none h, Option.none_or,
      List.find?_cons_of_pos isEnd]
    rfl

end Input

/-! ### Statements -/

namespace Statement

/-- The tokens of a statement. -/
def tokens (statement : Statement) : List Token :=
  statement.body ++ [statement.terminator]

/-- A parser for the statement alone, which stops at the first error. -/
def alone (statement : Statement) (limit : Int) : Parser :=
  .ofTokens statement.tokens false limit

/-- The error of a statement. -/
def error? (statement : Statement) (limit : Int) : Option GrammarError :=
  (fault? limit statement.body).map fun failure =>
    ⟨failure.cause, failure.site.head?.getD statement.terminator⟩

variable {statement : Statement} {limit : Int} {more : List Token}

/-- A terminator does not go on with an expression. -/
theorem not_beginsWith_semicolon {token : Token} (h : token.kind = .semicolon) :
    ¬ BeginsWith exprKinds (token :: more) := by
  rw [beginsWith_cons, h]
  decide

/-- Behind a closed statement one goes on behind its terminator, whether it has a tree or not. -/
theorem nextAttempt_eq (h : statement.terminator.kind = .semicolon) :
    nextAttempt limit (statement.body ++ statement.terminator :: more) =
      resumeBehind true more := by
  have behind : resumeBehind false (statement.terminator :: more) = resumeBehind true more := by
    rw [resumeBehind, h]
    rfl
  have past : resumePast (statement.terminator :: more) = resumeBehind true more := by
    rw [resumePast, h]
    rfl
  rw [nextAttempt_append statement.body_plain (not_beginsWith_semicolon h) (past.trans behind.symm),
    behind]

theorem nextAttempt_eq_none : nextAttempt limit statement.body = none :=
  nextAttempt_of_plain statement.body_plain

/-- The error of a closed statement is reported alike whatever follows its terminator. -/
theorem map_report_fault? {input : Input} (h : statement.terminator.kind = .semicolon) :
    (fault? limit (statement.body ++ statement.terminator :: more)).map input.report =
      statement.error? limit := by
  rw [fault?_append (not_beginsWith_semicolon h), Option.map_map, error?]
  congr 1
  funext failure
  rw [Function.comp, Input.report, Input.firstOf]
  cases failure.site <;> rfl

theorem isEnd_of_semicolon {token : Token} (h : token.kind = .semicolon) :
    token.isEnd = false := by
  rw [Token.isEnd, h]
  rfl

/-- What parsing a statement alone answers and records. -/
theorem parse_alone (statement : Statement) (limit : Int)
    (h : statement.terminator.kind = .semicolon ∨ statement.terminator.kind = .endOfInput) :
    (statement.alone limit).parse.1 = tree? limit statement.body ∧
      (statement.alone limit).parse.2.errors = (statement.error? limit).toList := by
  have body (token : Token) (mem : token ∈ statement.body) := statement.body_plain.isEnd mem
  rw [Parser.parse_fst, Parser.errors_parse_of_not_recovers rfl]
  change tree? limit (Input.ofTokens statement.tokens).tokens = _ ∧
    ((fault? limit (Input.ofTokens statement.tokens).tokens).map
      (Input.ofTokens statement.tokens).report).toList = _
  rcases h with semicolon | ends
  · -- Behind a closed statement that stands alone an end of the input is taken to follow.
    have input : (Input.ofTokens statement.tokens).tokens =
        statement.body ++ statement.terminator :: [] := by
      refine Input.tokens_ofTokens_eq_self fun token mem => ?_
      rcases List.mem_append.1 mem with mem | mem
      · exact body token mem
      · rw [List.mem_singleton.1 mem]
        exact isEnd_of_semicolon semicolon
    rw [input, map_report_fault? semicolon, tree?_append (not_beginsWith_semicolon semicolon)]
    exact ⟨rfl, rfl⟩
  · obtain ⟨input, stop⟩ := Input.ofTokens_append_end body ends
    rw [tokens, input, error?]
    refine ⟨rfl, congrArg (fun report => ((fault? limit statement.body).map report).toList) ?_⟩
    funext failure
    rw [Input.report, Input.firstOf, stop]

end Statement

/-! ### Programs -/

namespace Program

/-- A program of one statement, which ends the input. -/
def single (last : Statement) (ends : last.terminator.kind = .endOfInput) : Program :=
  ⟨[], last, by simp, ends⟩

/-- A program with a closed statement in front. -/
def push (statement : Statement) (semicolon : statement.terminator.kind = .semicolon)
    (program : Program) : Program :=
  ⟨statement :: program.closed, program.last,
    List.forall_mem_cons.2 ⟨semicolon, program.closed_semicolon⟩, program.last_end⟩

/-- Programs are built from their last statement by putting closed ones in front. -/
theorem push_induction {motive : Program → Prop}
    (single : ∀ last ends, motive (single last ends))
    (push : ∀ statement semicolon program, motive program →
      motive (push statement semicolon program))
    (program : Program) : motive program := by
  obtain ⟨closed, last, semicolon, ends⟩ := program
  induction closed with
  | nil => exact single last ends
  | cons statement rest ih =>
    obtain ⟨here, later⟩ := List.forall_mem_cons.1 semicolon
    exact push statement here ⟨rest, last, later, ends⟩ (ih later)

variable (program : Program)

/-- All statements of a program. -/
def statements : List Statement :=
  program.closed ++ [program.last]

/-- The tokens of all statements, the one that ends the input last. -/
def tokens : List Token :=
  program.statements.flatMap Statement.tokens

/-- The statement that a program begins with. -/
def first : Statement :=
  program.closed.head?.getD program.last

/-- The statements that are attempted when the first one fails. An empty one behind a terminator at
the end of the input is not. -/
def attempted : List Statement :=
  if program.closed ≠ [] ∧ program.last.body = [] then program.closed else program.statements

/-- The tokens in front of the end of the input. -/
def body : List Token :=
  program.closed.flatMap Statement.tokens ++ program.last.body

/-- The end of the input is the last token of a program. -/
theorem tokens_eq : program.tokens = program.body ++ [program.last.terminator] := by
  simp [tokens, statements, body, Statement.tokens]

/-- Each statement is closed or ends the input. -/
theorem terminator_spec : ∀ statement ∈ program.statements,
    statement.terminator.kind = .semicolon ∨ statement.terminator.kind = .endOfInput := by
  intro statement mem
  rcases List.mem_append.1 mem with closed | last
  · exact .inl (program.closed_semicolon statement closed)
  · rw [List.mem_singleton.1 last]
    exact .inr program.last_end

/-- In front of the end no token begins a statement, and none ends the input. -/
theorem body_spec : ∀ token ∈ program.body,
    token.kind.startsStatement = false ∧ token.isEnd = false := by
  intro token mem
  rcases List.mem_append.1 mem with mem | mem
  · obtain ⟨statement, inside, mem⟩ := List.mem_flatMap.1 mem
    rcases List.mem_append.1 mem with mem | mem
    · exact ⟨statement.body_plain.startsStatement mem, statement.body_plain.isEnd mem⟩
    · have semicolon := program.closed_semicolon statement inside
      rw [← List.mem_singleton.1 mem] at semicolon
      refine ⟨?_, Statement.isEnd_of_semicolon semicolon⟩
      rw [semicolon]
      rfl
  · exact ⟨program.last.body_plain.startsStatement mem, program.last.body_plain.isEnd mem⟩

theorem first_mem : program.first ∈ program.statements := by
  rw [first, statements]
  cases program.closed <;> simp

/-- All attempts are at statements. -/
theorem attempted_subset : program.attempted ⊆ program.statements := by
  unfold attempted
  split
  · exact List.subset_append_left _ _
  · exact List.Subset.refl _

variable {program}

theorem body_push (statement : Statement) (semicolon : statement.terminator.kind = .semicolon) :
    (program.push statement semicolon).body =
      statement.body ++ statement.terminator :: program.body := by
  simp [body, push, Statement.tokens]

/-- A statement put in front is attempted, and so is what follows unless that is only the end of the
input. -/
theorem attempted_push (statement : Statement)
    (semicolon : statement.terminator.kind = .semicolon) :
    (program.push statement semicolon).attempted =
      statement :: if program.body = [] then [] else program.attempted := by
  have empty : program.body = [] ↔ program.closed = [] ∧ program.last.body = [] := by
    cases closed : program.closed with
    | nil => simp [body, closed]
    | cons => simp [body, closed, Statement.tokens]
  by_cases first : program.closed = [] <;> by_cases none : program.last.body = [] <;>
    simp [attempted, statements, push, empty, first, none]

/-- Tokens without keywords of statements, up to the end of the input, make up a program. -/
theorem exists_tokens_eq {tokens : List Token} {token : Token}
    (plain : ∀ token ∈ tokens,
      token.kind ∉ Kind.statementKeywords ∧ token.kind ≠ .endOfInput)
    (ends : token.kind = .endOfInput) :
    ∃ program : Program, program.tokens = tokens ++ [token] := by
  induction tokens with
  | nil => exact ⟨single ⟨[], token, by simp [Plain]⟩ ends, rfl⟩
  | cons first rest ih =>
    obtain ⟨here, later⟩ := List.forall_mem_cons.1 plain
    obtain ⟨program, same⟩ := ih later
    by_cases semicolon : first.kind = .semicolon
    · refine ⟨program.push ⟨[], first, by simp [Plain]⟩ semicolon, ?_⟩
      rw [List.cons_append, ← same]
      rfl
    · -- The token belongs to the statement that the program begins with.
      have longer (statement : Statement) : Plain (first :: statement.body) :=
        List.forall_mem_cons.2 ⟨⟨semicolon, here⟩, statement.body_plain⟩
      rw [List.cons_append, ← same]
      induction program using push_induction with
      | single last ends => exact ⟨single ⟨_, last.terminator, longer last⟩ ends, rfl⟩
      | push statement semicolon program =>
        exact ⟨program.push ⟨_, statement.terminator, longer statement⟩ semicolon, rfl⟩

/-- The attempts on a program find the errors of its statements. -/
theorem errors_attempts (program : Program) (limit : Int) {input : Input}
    (stop : input.stop = program.last.terminator) :
    ((attempts limit program.body).filterMap (fault? limit)).map input.report =
      program.attempted.filterMap (Statement.error? · limit) := by
  induction program using push_induction with
  | single last ends =>
    have alone : (fault? limit last.body).map input.report = last.error? limit := by
      rw [Statement.error?, ← show input.stop = last.terminator from stop]
      rfl
    rw [attempts_eq, show (single last ends).body = last.body from rfl,
      Statement.nextAttempt_eq_none]
    simp only [attemptsFrom, show (single last ends).attempted = [last] from rfl,
      List.filterMap_cons, List.filterMap_nil, ← alone]
    cases fault? limit last.body <;> rfl
  | push statement semicolon program ih =>
    have alone : (fault? limit (statement.body ++ statement.terminator :: program.body)).map
        input.report = statement.error? limit := Statement.map_report_fault? semicolon
    have starts (token : Token) (mem : token ∈ program.body) := (program.body_spec token mem).1
    -- Behind the terminator the next statement is attempted, unless the input ends there.
    have later : ((attemptsFrom limit (resumeBehind true program.body)).filterMap
        (fault? limit)).map input.report = List.filterMap (Statement.error? · limit)
          (if program.body = [] then [] else program.attempted) := by
      split
      · next empty =>
        rw [empty]
        rfl
      · next some =>
        rw [resumeBehind_true some starts]
        exact ih stop
    rw [body_push, attempted_push, attempts_eq, Statement.nextAttempt_eq semicolon,
      List.filterMap_cons, List.filterMap_cons, ← alone, ← later]
    cases fault? limit (statement.body ++ statement.terminator :: program.body) <;> rfl

/-- The tree of a program is that of its first statement. -/
theorem tree?_body (program : Program) (limit : Int) :
    tree? limit program.body = tree? limit program.first.body := by
  induction program using push_induction with
  | single last ends => rfl
  | push statement semicolon program =>
    rw [body_push, tree?_append (Statement.not_beginsWith_semicolon semicolon)]
    rfl

/-- Parsing a program answers the tree of its first statement. If that has none, the errors are
those of the statements parsed alone, of which each has at most one. -/
theorem parse_statements (program : Program) (limit : Int) :
    let whole := (Parser.ofTokens program.tokens true limit).parse
    let alone (statement : Statement) := (statement.alone limit).parse
    whole.1 = (alone program.first).1 ∧
    whole.2.errors =
      (if (alone program.first).1.isSome then []
      else program.attempted.flatMap fun statement => (alone statement).2.errors) ∧
    ∀ statement ∈ program.statements, (alone statement).2.errors.length ≤ 1 := by
  intro whole alone
  have spec (statement : Statement) (mem : statement ∈ program.statements) :=
    Statement.parse_alone statement limit (program.terminator_spec statement mem)
  obtain ⟨input, stop⟩ : (Input.ofTokens program.tokens).tokens = program.body ∧
      (Input.ofTokens program.tokens).stop = program.last.terminator := by
    rw [tokens_eq]
    exact Input.ofTokens_append_end (fun token mem => (program.body_spec token mem).2)
      program.last_end
  have tree : tree? limit (Input.ofTokens program.tokens).tokens = (alone program.first).1 := by
    rw [input, tree?_body]
    exact (spec _ program.first_mem).1.symm
  refine ⟨Parser.parse_fst.trans tree, ?_, ?_⟩
  · rw [← tree]
    split
    · next read => exact Parser.errors_parse_of_tree read
    · -- Without a tree the errors are those of all attempts, one at each statement.
      next failed =>
      obtain ⟨failure, fault⟩ :=
        Option.ne_none_iff_exists'.1 (mt fault?_eq_none_iff_tree?.1 failed)
      refine (Parser.errors_parse rfl (fault?_eq_some_iff.1 fault)).trans ?_
      change ((attempts limit (Input.ofTokens program.tokens).tokens).filterMap
        (fault? limit)).map (Input.ofTokens program.tokens).report = _
      rw [input, errors_attempts program limit stop, List.filterMap_eq_flatMap_toList]
      refine List.flatMap_congr fun statement mem => ?_
      exact (spec statement (program.attempted_subset mem)).2.symm
  · intro statement mem
    rw [(spec statement mem).2]
    cases statement.error? limit <;> simp

end Program

end ExprLang
