import Mathlib.Data.List.Infix
import Monkey.Proofs.Grammar.Course
import Monkey.Proofs.Grammar.Locality

/-!
# Where a block closes

Only a block takes a closing brace, and each block takes one for the opening brace that it starts
with. So between balanced braces a block is never left open, however malformed its statements are.
It may close too early, though: what is skipped of a malformed statement ends at the first closing
brace, even if that belongs to an opening brace that was skipped before it.
-/

namespace Monkey

open Parse

namespace Token

/-- How many more opening than closing braces there are among tokens. -/
def net (tokens : List Token) : Int :=
  tokens.count (.punctuation .openBrace) - tokens.count (.punctuation .closeBrace)

/-- Whether every closing brace has an opening one before it, and every opening one a closing one
behind it. -/
structure Balanced (tokens : List Token) : Prop where
  front {front : List Token} (part : front <+: tokens) : 0 ≤ net front
  whole : net tokens = 0

instance (tokens : List Token) : Decidable (Balanced tokens) :=
  decidable_of_iff ((∀ front ∈ tokens.inits, 0 ≤ net front) ∧ net tokens = 0)
    ⟨fun holds => ⟨fun part => holds.1 _ ((List.mem_inits _ _).mpr part), holds.2⟩,
      fun balanced => ⟨fun _ member => balanced.front ((List.mem_inits _ _).mp member),
        balanced.whole⟩⟩

@[simp]
theorem net_nil : net [] = 0 :=
  rfl

@[simp]
theorem net_append (tokens more : List Token) : net (tokens ++ more) = net tokens + net more := by
  simp only [net, List.count_append]
  omega

theorem net_cons (token : Token) (tokens : List Token) :
    net (token :: tokens) = net [token] + net tokens :=
  net_append [token] tokens

@[simp]
theorem net_openBrace (tokens : List Token) :
    net (.punctuation .openBrace :: tokens) = net tokens + 1 := by
  rw [net_cons]
  exact Int.add_comm _ _

@[simp]
theorem net_closeBrace (tokens : List Token) :
    net (.punctuation .closeBrace :: tokens) = net tokens - 1 := by
  rw [net_cons]
  exact Int.add_comm _ _

theorem net_of_ne {token : Token} (notOpen : token ≠ .punctuation .openBrace)
    (notClose : token ≠ .punctuation .closeBrace) (tokens : List Token) :
    net (token :: tokens) = net tokens := by
  simp [net, notOpen, notClose]

theorem net_le_of_ne {token : Token} (notClose : token ≠ .punctuation .closeBrace)
    (tokens : List Token) : net tokens ≤ net (token :: tokens) := by
  by_cases opens : token = .punctuation .openBrace
  · rw [opens, net_openBrace]
    omega
  · exact Int.le_of_eq (net_of_ne opens notClose tokens).symm

end Token

namespace Cursor

/-- The tokens that are still to be taken, with the current one only if it is a closing brace. -/
def due (cursor : Cursor) : List Token :=
  if cursor.current = .punctuation .closeBrace then cursor.remaining else cursor.remaining.tail

/-- Whether no more braces are closed than opened between two cursors. -/
def Balances (start stop : Cursor) : Prop :=
  Token.net stop.remaining.tail ≤ Token.net start.remaining.tail

/-- Whether no more braces are closed than opened before the closing brace that a cursor may have
come to. -/
def MayClose (start stop : Cursor) : Prop :=
  Token.net stop.due ≤ Token.net start.remaining.tail

theorem net_due_of_closes (cursor : Cursor)
    (closes : cursor.current = .punctuation .closeBrace) :
    Token.net cursor.due = Token.net cursor.remaining.tail - 1 := by
  have real : cursor.remaining = .punctuation .closeBrace :: cursor.remaining.tail :=
    eq_cons_of_headD closes (by decide)
  rw [due, if_pos closes, real, Token.net_closeBrace, List.tail_cons]

theorem due_of_ne (cursor : Cursor) (other : cursor.current ≠ .punctuation .closeBrace) :
    cursor.due = cursor.remaining.tail :=
  if_neg other

theorem net_due_le (cursor : Cursor) : Token.net cursor.due ≤ Token.net cursor.remaining.tail := by
  by_cases closes : cursor.current = .punctuation .closeBrace
  · rw [net_due_of_closes cursor closes]
    omega
  · exact Int.le_of_eq (congrArg Token.net (due_of_ne cursor closes))

theorem net_due_advance_le (cursor : Cursor) :
    Token.net cursor.advance.due ≤ Token.net cursor.remaining.tail := by
  by_cases closes : cursor.advance.current = .punctuation .closeBrace
  · rw [due, if_pos closes]
    exact Int.le_refl _
  · rw [due_of_ne _ closes]
    change Token.net cursor.remaining.tail.tail ≤ _
    change cursor.remaining.tail.headD .eof ≠ _ at closes
    cases shape : cursor.remaining.tail with
    | nil => exact Int.le_refl _
    | cons token tokens =>
        rw [shape] at closes
        exact Token.net_le_of_ne closes tokens

theorem balances_course : Course Balances MayClose where
  refl _ := Int.le_refl _
  trans first next := Int.le_trans next first
  fail first next := Int.le_trans next first
  advance {start} other := by
    have taken := start.net_due_advance_le
    rwa [due_of_ne start.advance other] at taken
  report start _ := start.net_due_le
  atBrace {start} _ _ := start.net_due_advance_le

theorem net_due_le_remaining (cursor : Cursor) :
    Token.net cursor.due ≤ Token.net cursor.remaining := by
  unfold due
  split
  · exact Int.le_refl _
  · next other =>
      change cursor.remaining.headD .eof ≠ _ at other
      cases shape : cursor.remaining with
      | nil => exact Int.le_refl _
      | cons token tokens =>
          rw [shape] at other
          exact Token.net_le_of_ne other tokens

/-- Whether a row of statements ends at a closing brace or at the end, and closes no more braces
than it opens before that. -/
structure EndsRow (start stop : Cursor) : Prop where
  balances : Token.net stop.due ≤ Token.net start.due
  ended : stop.current = .punctuation .closeBrace ∨ stop.current = .eof

/-- What is skipped of a malformed statement ends at a closing brace at the latest. -/
theorem net_due_skipTo_le (start : Cursor) :
    Token.net (start.skipTo Token.endsStatementOfBlock).due ≤ Token.net start.due := by
  rcases start with ⟨remaining, diagnostics⟩
  induction remaining with
  | nil => exact Int.le_refl _
  | cons token tokens ih =>
      cases stops : token.endsStatementOfBlock with
      | true =>
          have stays : Cursor.skipTo Token.endsStatementOfBlock ⟨token :: tokens, diagnostics⟩ =
              ⟨token :: tokens, diagnostics⟩ := by
            simp [Cursor.skipTo, stops]
          exact Int.le_of_eq (congrArg (fun stop : Cursor => Token.net stop.due) stays)
      | false =>
          have onward : Cursor.skipTo Token.endsStatementOfBlock ⟨token :: tokens, diagnostics⟩ =
              Cursor.skipTo Token.endsStatementOfBlock ⟨tokens, diagnostics⟩ := by
            simp [Cursor.skipTo, stops]
          have other : token ≠ .punctuation .closeBrace := by
            rintro rfl
            cases stops
          rw [onward]
          refine Int.le_trans ih ?_
          rw [due_of_ne ⟨token :: tokens, diagnostics⟩ other]
          exact Cursor.net_due_advance_le ⟨token :: tokens, diagnostics⟩

end Cursor

namespace Parse

open Cursor

/-- Blocks and rows of statements leave as many braces as they should. -/
structure GoesBalanced (budget : Nat) : Prop extends GoesWithin Balances MayClose budget where
  block : (Parse.expect (.punctuation .openBrace) >>= fun _ => Block.parse budget).Goes Balances
    MayClose
  row : (Block.parseStatements budget).Goes EndsRow fun _ _ => False

namespace GoesBalanced

theorem zero : GoesBalanced 0 where
  toGoesWithin := .zero
  block start := by
    refine balances_course.bind_at (balances_course.expect (by decide) start) ?_
    exact fun _ _ _ => trivial
  row _ := trivial

variable {budget : Nat} (readers : GoesBalanced budget)

include readers

/-- What comes after a statement is read as it should be. -/
theorem row_advance {start middle : Cursor}
    (before : Token.net middle.remaining.tail ≤ Token.net start.due) :
    (Block.parseStatements budget middle.advance).Goes EndsRow (fun _ _ => False) start := by
  have after := readers.row middle.advance
  cases outcome : Block.parseStatements budget middle.advance with
  | unfinished => trivial
  | failed stop =>
      rw [outcome] at after
      exact after
  | parsed values stop =>
      rw [outcome] at after
      exact ⟨Int.le_trans after.balances (Int.le_trans middle.net_due_advance_le before),
        after.ended⟩

theorem row_succ : (Block.parseStatements (budget + 1)).Goes EndsRow fun _ _ => False := by
  rintro ⟨remaining, diagnostics⟩
  rw [Block.parseStatements, current_bind]
  have here : (⟨remaining, diagnostics⟩ : Cursor).current = remaining.headD .eof := rfl
  generalize remaining.headD .eof = token at here
  split
  · exact ⟨Int.le_refl _, .inl here⟩
  · exact ⟨Int.le_refl _, .inr here⟩
  · next notClose notEnd =>
      have same := due_of_ne ⟨remaining, diagnostics⟩ (by rwa [here])
      have goes := readers.statement ⟨remaining, diagnostics⟩
      cases outcome : Statement.parse budget ⟨remaining, diagnostics⟩ with
      | unfinished =>
          change (Parse.bind (attempt _) _ _).Goes _ _ _
          rw [Parse.bind, attempt, outcome]
          trivial
      | parsed value middle =>
          rw [outcome] at goes
          change Token.net middle.remaining.tail ≤ Token.net remaining.tail at goes
          rw [← same] at goes
          rw [bind_of_parsed (attempt_of_parsed outcome)]
          exact goes_bind_pure (readers.row_advance goes)
      | failed middle =>
          rw [outcome] at goes
          -- Opening braces may be among what is skipped, so this is where `≤` is all that holds.
          have skipped := Int.le_trans (net_due_skipTo_le middle) goes
          rw [← same] at skipped
          rcases shape : middle.skipTo Token.endsStatementOfBlock with ⟨left, reported⟩
          have skips : skipTo Token.endsStatementOfBlock middle = .parsed () ⟨left, reported⟩ :=
            congrArg (Outcome.parsed ()) shape
          rw [shape] at skipped
          rw [bind_of_parsed (attempt_of_failed outcome)]
          change ((skipTo Token.endsStatementOfBlock >>= _) middle).Goes _ _ _
          rw [bind_of_parsed skips, current_bind]
          have there : (⟨left, reported⟩ : Cursor).current = left.headD .eof := rfl
          generalize left.headD .eof = found at there
          split
          · exact ⟨skipped, .inl there⟩
          · next other =>
              rw [due_of_ne ⟨left, reported⟩ (by rwa [there])] at skipped
              exact readers.row_advance skipped

/-- Behind its opening brace a block closes one brace more than it opens. -/
theorem parse_block (start : Cursor) :
    (Block.parse (budget + 1) start).Goes
      (fun start stop => Token.net stop.remaining.tail ≤ Token.net start.remaining.tail + 1)
      MayClose start := by
  have after := readers.row start.advance
  rw [Block.parse]
  change (Parse.bind (Block.parseStatements budget) _ start.advance).Goes _ _ _
  rw [Parse.bind]
  cases outcome : Block.parseStatements budget start.advance with
  | unfinished => trivial
  | failed stop =>
      rw [outcome] at after
      exact after.elim
  | parsed statements stop =>
      rw [outcome] at after
      have taken := Int.le_trans after.balances start.net_due_advance_le
      rcases stop with ⟨left, reported⟩
      simp only [current_bind]
      have closed (closes : left.headD .eof = .punctuation .closeBrace) :=
        net_due_of_closes ⟨left, reported⟩ closes
      generalize left.headD .eof = found at closed
      split
      · rw [closed rfl] at taken
        change Token.net left.tail ≤ Token.net start.remaining.tail + 1
        change Token.net left.tail - 1 ≤ _ at taken
        omega
      · exact taken

/-- A block that is read takes the closing brace for its opening one. -/
theorem block_succ : (Parse.expect (.punctuation .openBrace) >>= fun _ =>
    Block.parse (budget + 1)).Goes Balances MayClose := by
  refine balances_course.openBlock fun start opens => ?_
  have found : start.remaining.tail = .punctuation .openBrace :: start.advance.remaining.tail :=
    eq_cons_of_headD opens (by decide)
  have taken := congrArg Token.net found
  rw [Token.net_openBrace] at taken
  have inside := readers.parse_block start.advance
  cases outcome : Block.parse (budget + 1) start.advance with
  | unfinished => trivial
  | parsed value stop =>
      rw [outcome] at inside
      change Token.net stop.remaining.tail ≤ _ + 1 at inside
      rw [← taken] at inside
      exact inside
  | failed stop =>
      rw [outcome] at inside
      change Token.net stop.due ≤ _ at inside
      change Token.net stop.due ≤ Token.net start.remaining.tail
      omega

end GoesBalanced

theorem goesBalanced (budget : Nat) : GoesBalanced budget := by
  induction budget with
  | zero => exact .zero
  | succ budget readers =>
      exact {
        toGoesWithin := readers.succ balances_course readers.block
        block := readers.block_succ
        row := readers.row_succ }

end Parse

/-! ## Well-formed rows -/

theorem Phrase.net_parameterTokens (names : List String) :
    Token.net (parameterTokens names) = 0 := by
  cases names with
  | nil => rfl
  | cons name names =>
      rw [parameterTokens_cons, Token.net_of_ne (by simp) (by simp)]
      induction names with
      | nil => rfl
      | cons name names ih =>
          rw [List.flatMap_cons, Token.net_append, ih]
          rfl

/-- What derives from the grammar opens as many braces as it closes. -/
theorem Phrase.Derives.net_eq_zero {phrase : Phrase} {tokens : List Token}
    (derives : phrase.Derives tokens) : Token.net tokens = 0 := by
  induction derives with
  | tighter _ _ ih => exact ih
  | block _ ih => simp [ih]
  | _ => simp_all [Token.net_of_ne, Phrase.net_parameterTokens]

/-! ## Between balanced braces -/

namespace Block

/-- A row of statements is read to a closing brace or to the end, with any budget that suffices. -/
theorem exists_parseStatements (start : Cursor) :
    ∃ values stop, start.EndsRow stop ∧ ∀ budget, 8 * start.remaining.length + 5 ≤ budget →
      Block.parseStatements budget start = .parsed values stop := by
  have reads (budget : Nat) (enough : 8 * start.remaining.length + 5 ≤ budget) :
      ∃ values stop, start.EndsRow stop ∧
        Block.parseStatements budget start = .parsed values stop := by
    have leaves := (endsWithin budget).statements enough start (Nat.le_refl _)
    have goes := (goesBalanced budget).row start
    cases outcome : Block.parseStatements budget start with
    | parsed values stop =>
        rw [outcome] at goes
        exact ⟨values, stop, goes, rfl⟩
    | failed stop =>
        rw [outcome] at goes
        exact goes.elim
    | unfinished =>
        rw [outcome] at leaves
        exact leaves.elim
  rcases reads _ (Nat.le_refl _) with ⟨values, stop, ends, first⟩
  refine ⟨values, stop, ends, fun budget enough => ?_⟩
  rcases reads budget enough with ⟨values', stop', _, next⟩
  have follows := (lockstep Token.alike_eq [] budget (8 * start.remaining.length + 5)).statements
    Token.onward_eq start start ⟨rfl, rfl⟩ trivial
  rw [first, next] at follows
  rcases follows with ⟨rfl, abreast, _⟩
  exact abreast.eq ▸ next

end Block

namespace Token

/-- Between balanced braces and the brace behind them, a closing brace that closes no more than was
opened before it is the last one. -/
theorem Balanced.eq_nil_of_front {body front rest : List Token} (balanced : Balanced body)
    (split : body ++ [.punctuation .closeBrace] = front ++ .punctuation .closeBrace :: rest)
    (level : net front ≤ 0) : rest = [] := by
  rcases List.eq_nil_or_concat rest with empty | ⟨rest, last, rfl⟩
  · exact empty
  · have apart : body ++ [.punctuation .closeBrace] =
        (front ++ .punctuation .closeBrace :: rest) ++ [last] := by
      rw [split]
      simp
    have inside := (List.append_inj' apart rfl).1
    have part : front ++ [.punctuation .closeBrace] <+: body := ⟨rest, by simp [inside]⟩
    have positive := balanced.front part
    simp only [net_append, net_closeBrace, net_nil] at positive
    omega

end Token

/-- The block of a function is never left open if the braces in it are balanced: it takes one of the
closing braces up to the one behind them, whatever is wrong with its statements. It takes the one
behind them if nothing is wrong, or if there is no further block in it. -/
theorem Program.parse_between_braces {body : List Token} (noEnd : .eof ∉ body)
    (balanced : Token.Balanced body) :
    ∃ values front rest reported,
      body ++ [.punctuation .closeBrace] = front ++ .punctuation .closeBrace :: rest ∧
      (∀ budget, 8 * (body.length + 2) ≤ budget →
        Block.parse budget ⟨.punctuation .openBrace :: body ++ [.punctuation .closeBrace], []⟩ =
          .parsed ⟨.punctuation .openBrace, values⟩ ⟨.punctuation .closeBrace :: rest, reported⟩) ∧
      (reported = [] ∨ .punctuation .openBrace ∉ body →
        rest = [] ∧
        Program.parse ([.keyword .fnWord, .punctuation .openParen, .punctuation .closeParen,
            .punctuation .openBrace] ++ body ++ [.punctuation .closeBrace]) =
          ⟨⟨[.expr (.keyword .fnWord)
            (.function (.keyword .fnWord) [] ⟨.punctuation .openBrace, values⟩)]⟩, reported⟩) := by
  let start : Cursor := ⟨body ++ [.punctuation .closeBrace], []⟩
  rcases Block.exists_parseStatements start with ⟨values, ⟨left, reported⟩, ends, reads⟩
  have startLength : start.remaining.length = body.length + 1 := by simp [start]
  rw [startLength] at reads
  have read := reads _ (Nat.le_refl _)
  have suffix : left <:+ body ++ [.punctuation .closeBrace] := by
    have goes := (goesOnward (8 * (body.length + 1) + 5)).row start
    rw [read] at goes
    exact goes.remaining
  have unclosed : Token.net (Cursor.due ⟨left, reported⟩) ≤ -1 := by
    refine Int.le_trans ends.balances (Int.le_trans start.net_due_le_remaining ?_)
    simp [start, balanced.whole]
  have closes : left.headD .eof = .punctuation .closeBrace := by
    refine ends.ended.resolve_right fun ended => ?_
    cases left with
    | nil => simp [Cursor.due] at unclosed
    | cons token tokens =>
        obtain rfl : token = .eof := ended
        simpa [noEnd] using suffix.subset List.mem_cons_self
  obtain ⟨rest, rfl⟩ : ∃ rest, left = .punctuation .closeBrace :: rest :=
    ⟨left.tail, eq_cons_of_headD closes (by decide)⟩
  obtain ⟨front, split⟩ := suffix
  refine ⟨values, front, rest, reported, split.symm, fun budget enough => ?_, fun harmless => ?_⟩
  · obtain ⟨budget, rfl⟩ : ∃ fewer, budget = fewer + 1 := ⟨budget - 1, by omega⟩
    rw [Block.parse, current_bind]
    exact bind_of_parsed (reads budget (by omega))
  · have level : Token.net front ≤ 0 := by
      rcases harmless with quiet | noBlock
      · have meets := (readsWithin (8 * (body.length + 1) + 5)).statements start
        rw [read] at meets
        rcases meets.2 quiet with ⟨tokens, split', derives⟩
        have same : front = tokens := List.append_cancel_right (split.trans split')
        exact Int.le_of_eq (same ▸ derives.net_eq_zero)
      · have absent : .punctuation .openBrace ∉ front := by
          intro member
          have among := List.mem_append_left (.punctuation .closeBrace :: rest) member
          rw [split] at among
          simp [noBlock] at among
        rw [Token.net, List.count_eq_zero_of_not_mem absent]
        omega
    obtain rfl : rest = [] := balanced.eq_nil_of_front split.symm level
    refine ⟨rfl, ?_⟩
    simpa using Program.parse_function read

/-- The block that a binding without its name, `let 1`, stands in is closed by its own brace. -/
theorem Program.parse_between_braces_binding :
    let body : List Token := [.keyword .letWord, .int "1"]
    .eof ∉ body ∧ Token.Balanced body ∧
      Program.parse ([.keyword .fnWord, .punctuation .openParen, .punctuation .closeParen,
          .punctuation .openBrace] ++ body ++ [.punctuation .closeBrace]) =
        ⟨⟨[.expr (.keyword .fnWord)
          (.function (.keyword .fnWord) [] ⟨.punctuation .openBrace, []⟩)]⟩,
          [.unexpectedToken .ident .int]⟩ := by
  intro body
  have noEnd : .eof ∉ body := by decide
  have balanced : Token.Balanced body := by decide
  rcases parse_between_braces noEnd balanced with ⟨values, _, rest, reported, _, block, whole⟩
  rcases whole (.inr (by decide)) with ⟨rfl, read⟩
  refine ⟨noEnd, balanced, read.trans ?_⟩
  cases block _ (Nat.le_refl _)
  rfl

/-- A block can be closed too early: of `{ } x` in a function the brace that opens is skipped, the
one that closes closes the function, and the name behind it is a statement of the program. -/
theorem Program.parse_closes_early :
    let body : List Token := [.punctuation .openBrace, .punctuation .closeBrace, .ident "x"]
    .eof ∉ body ∧ Token.Balanced body ∧
      Program.parse ([.keyword .fnWord, .punctuation .openParen, .punctuation .closeParen,
          .punctuation .openBrace] ++ body ++ [.punctuation .closeBrace]) =
        ⟨⟨[.expr (.keyword .fnWord)
          (.function (.keyword .fnWord) [] ⟨.punctuation .openBrace, []⟩),
          .expr (.ident "x") (.ident (.ofToken (.ident "x")))]⟩,
          [.noExpression (.punctuation .openBrace),
            .noExpression (.punctuation .closeBrace)]⟩ :=
  ⟨by decide, by decide, rfl⟩

end Monkey
