import Monkey.Program.Parser

/-!
# The budget of a reading suffices

A reader never leaves more tokens than it found, and it ends when its budget is at least eight
steps for each token that it finds and a few steps more. Between two tokens the readers call one
another in an order that the few steps measure.
-/

namespace Monkey

open Parse

variable {Result Next : Type}

/-- Whether an outcome is final and leaves at most a number of tokens. -/
def Outcome.Leaves (limit : Nat) : Outcome Result → Prop
  | .parsed _ stop => stop.remaining.length ≤ limit
  | .failed stop => stop.remaining.length ≤ limit
  | .unfinished => False

namespace Parse

theorem bind_assoc {Final : Type} (first : Parse Result) (second : Result → Parse Next)
    (third : Next → Parse Final) :
    first >>= second >>= third = first >>= fun value => second value >>= third := by
  funext start
  change Parse.bind (Parse.bind first second) third start =
    Parse.bind first (fun value => Parse.bind (second value) third) start
  unfold Parse.bind
  cases first start <;> rfl

/-- Whether a reader ends wherever at most a number of tokens are left, and leaves no more. -/
def Ends (limit : Nat) (parse : Parse Result) : Prop :=
  ∀ start, start.remaining.length ≤ limit → (parse start).Leaves limit

namespace Ends

variable {limit : Nat}

theorem pure (value : Result) : (Pure.pure value : Parse Result).Ends limit :=
  fun _ few => few

theorem fail (diagnostic : Diagnostic) : (Parse.fail diagnostic : Parse Result).Ends limit :=
  fun _ few => few

theorem bind {first : Parse Result} {next : Result → Parse Next} (ends : first.Ends limit)
    (endsNext : ∀ value, (next value).Ends limit) : (first >>= next).Ends limit := by
  intro start few
  have leaves := ends start few
  change (Parse.bind first next start).Leaves limit
  unfold Parse.bind
  cases outcome : first start with
  | parsed value middle =>
      rw [outcome] at leaves
      exact endsNext value middle leaves
  | failed stop =>
      rw [outcome] at leaves
      exact leaves
  | unfinished =>
      rw [outcome] at leaves
      exact leaves

/-- A reader that ends with fewer tokens also ends with more of them if it starts with fewer. -/
theorem leaves_of_le {parse : Parse Result} {fewer : Nat} (ends : parse.Ends fewer)
    (le : fewer ≤ limit) {start : Cursor} (few : start.remaining.length ≤ fewer) :
    (parse start).Leaves limit := by
  have leaves := ends start few
  cases outcome : parse start with
  | unfinished =>
      rw [outcome] at leaves
      exact leaves
  | _ =>
      rw [outcome] at leaves
      exact Nat.le_trans leaves le

theorem current_bind {next : Token → Parse Next}
    (ends : ∀ token, (token ≠ .eof → 1 ≤ limit) → (next token).Ends limit) :
    (Parse.current >>= next).Ends limit := by
  intro start few
  refine ends start.current ?_ start few
  intro real
  cases remaining : start.remaining with
  | nil => exact absurd (by simp [Cursor.current, remaining]) real
  | cons first rest =>
      rw [remaining, List.length_cons] at few
      omega

theorem upcoming_bind {next : Token → Parse Next}
    (ends : ∀ token, (token ≠ .eof → 2 ≤ limit) → (next token).Ends limit) :
    (Parse.upcoming >>= next).Ends limit := by
  intro start few
  refine ends start.upcoming ?_ start few
  intro real
  rcases remaining : start.remaining with _ | ⟨first, _ | ⟨second, rest⟩⟩
  · exact absurd (by simp [Cursor.upcoming, remaining]) real
  · exact absurd (by simp [Cursor.upcoming, remaining]) real
  · rw [remaining, List.length_cons, List.length_cons] at few
    omega

theorem advance_bind {next : Unit → Parse Next} (ends : (next ()).Ends (limit - 1)) :
    (Parse.advance >>= next).Ends limit := by
  intro start few
  apply ends.leaves_of_le (Nat.sub_le _ _)
  change start.remaining.tail.length ≤ limit - 1
  rw [List.length_tail]
  omega

theorem expect_bind {kind : Kind} {next : Unit → Parse Next} (real : kind ≠ .eof)
    (ends : 2 ≤ limit → (next ()).Ends (limit - 1)) : (Parse.expect kind >>= next).Ends limit := by
  intro start few
  change (Parse.bind (Parse.expect kind) next start).Leaves limit
  unfold Parse.bind Parse.expect
  by_cases found : start.upcoming.kind = kind
  · simp only [found, ↓reduceIte]
    rcases remaining : start.remaining with _ | ⟨first, _ | ⟨second, rest⟩⟩
    · exact absurd (by rw [← found, Cursor.upcoming, remaining]; rfl) real
    · exact absurd (by rw [← found, Cursor.upcoming, remaining]; rfl) real
    · rw [remaining, List.length_cons, List.length_cons] at few
      apply (ends (by omega)).leaves_of_le (Nat.sub_le _ _)
      simp only [Cursor.advance, remaining, List.tail_cons, List.length_cons]
      omega
  · simp only [found, ↓reduceIte]
    exact few

theorem skipOptional (kind : Kind) : (Parse.skipOptional kind).Ends limit := by
  intro start few
  unfold Parse.skipOptional
  split
  · change start.remaining.tail.length ≤ limit
    rw [List.length_tail]
    omega
  · exact few

theorem skipTo (stop : Token → Bool) : (Parse.skipTo stop).Ends limit := by
  intro start few
  exact Nat.le_trans (List.dropWhile_sublist _).length_le few

theorem attempt {parse : Parse Result} (ends : parse.Ends limit) :
    (Parse.attempt parse).Ends limit := by
  intro start few
  have leaves := ends start few
  unfold Parse.attempt
  cases outcome : parse start with
  | parsed value stop =>
      rw [outcome] at leaves
      exact leaves
  | failed stop =>
      rw [outcome] at leaves
      exact leaves
  | unfinished =>
      rw [outcome] at leaves
      exact leaves

end Ends

end Parse

/-! ## Parameters -/

namespace Identifier

theorem parse_ends {limit : Nat} {next : Identifier → Parse Next}
    (ends : ∀ identifier, 2 ≤ limit → (next identifier).Ends (limit - 1)) :
    (Identifier.parse >>= next).Ends limit := by
  unfold Identifier.parse
  rw [Parse.bind_assoc]
  apply Ends.expect_bind (by simp)
  intro two
  rw [Parse.bind_assoc]
  apply Ends.current_bind
  intro token _
  exact ends _ two

theorem parseMore_ends {budget limit : Nat} (enough : 8 * limit + 1 ≤ budget) :
    (Identifier.parseMore budget).Ends limit := by
  induction budget generalizing limit with
  | zero => omega
  | succ budget ih =>
      unfold Identifier.parseMore
      apply Ends.upcoming_bind
      intro token real
      split
      · have two := real (by simp)
        apply Ends.advance_bind
        apply parse_ends
        intro parameter more
        apply Ends.bind
        · apply ih
          omega
        · intro rest
          exact .pure _
      · apply Ends.expect_bind (by simp)
        intro _
        exact .pure _

theorem parseList_ends {budget limit : Nat} (enough : 8 * limit + 1 ≤ budget) :
    (Identifier.parseList budget).Ends limit := by
  unfold Identifier.parseList
  apply Ends.upcoming_bind
  intro token _
  split
  · apply Ends.advance_bind
    exact .pure _
  · apply parse_ends
    intro parameter two
    apply Ends.bind
    · apply parseMore_ends
      omega
    · intro rest
      exact .pure _

end Identifier

/-! ## Expressions and statements -/

namespace Parse

/-- How many steps each reader needs to end, where at most a number of tokens are left. -/
structure EndsWithin (budget : Nat) : Prop where
  expr {limit : Nat} (context : Precedence) (enough : 8 * limit + 3 ≤ budget) :
    (Expr.parse budget context).Ends limit
  operators {limit : Nat} (context : Precedence) (left : Expr) (enough : 8 * limit + 1 ≤ budget) :
    (Expr.parseOperators budget context left).Ends limit
  operand {limit : Nat} (enough : 8 * limit + 2 ≤ budget) : (Expr.parseOperand budget).Ends limit
  unary {limit : Nat} (operator : Operator) (present : 1 ≤ limit)
    (enough : 8 * limit + 1 ≤ budget) :
    (Expr.parseUnary budget operator).Ends limit
  group {limit : Nat} (present : 1 ≤ limit) (enough : 8 * limit + 1 ≤ budget) :
    (Expr.parseGroup budget).Ends limit
  conditional {limit : Nat} (enough : 8 * limit + 1 ≤ budget) :
    (Expr.parseConditional budget).Ends limit
  function {limit : Nat} (enough : 8 * limit + 1 ≤ budget) : (Expr.parseFunction budget).Ends limit
  arguments {limit : Nat} (enough : 8 * limit + 4 ≤ budget) :
    (Expr.parseArguments budget).Ends limit
  moreArguments {limit : Nat} (enough : 8 * limit + 1 ≤ budget) :
    (Expr.parseMoreArguments budget).Ends limit
  statement {limit : Nat} (enough : 8 * limit + 4 ≤ budget) : (Statement.parse budget).Ends limit
  block {limit : Nat} (enough : 8 * limit + 6 ≤ budget) : (Block.parse budget).Ends limit
  statements {limit : Nat} (enough : 8 * limit + 5 ≤ budget) :
    (Block.parseStatements budget).Ends limit

namespace EndsWithin

variable {budget limit : Nat}

theorem expr_succ (readers : EndsWithin budget) (context : Precedence)
    (enough : 8 * limit + 3 ≤ budget + 1) : (Expr.parse (budget + 1) context).Ends limit := by
  unfold Expr.parse
  apply Ends.bind (readers.operand (by omega))
  intro operand
  exact readers.operators context operand (by omega)

theorem operators_succ (readers : EndsWithin budget) (context : Precedence) (left : Expr)
    (enough : 8 * limit + 1 ≤ budget + 1) :
    (Expr.parseOperators (budget + 1) context left).Ends limit := by
  unfold Expr.parseOperators
  apply Ends.upcoming_bind
  intro token real
  split
  · next operator =>
      have two := real (by simp)
      split
      · apply Ends.advance_bind
        apply Ends.advance_bind
        apply Ends.bind (readers.expr _ (by omega))
        intro right
        exact readers.operators context _ (by omega)
      · exact .pure _
  · have two := real (by simp)
    split
    · apply Ends.advance_bind
      apply Ends.bind (readers.arguments (by omega))
      intro values
      exact readers.operators context _ (by omega)
    · exact .pure _
  · exact .pure _

theorem operand_succ (readers : EndsWithin budget) (enough : 8 * limit + 2 ≤ budget + 1) :
    (Expr.parseOperand (budget + 1)).Ends limit := by
  unfold Expr.parseOperand
  apply Ends.current_bind
  intro token real
  split
  · exact .pure _
  · split
    · exact .pure _
    · exact .fail _
  · exact .pure _
  · exact .pure _
  · exact .pure _
  · exact readers.unary _ (real (by simp)) (by omega)
  · exact readers.unary _ (real (by simp)) (by omega)
  · exact readers.group (real (by simp)) (by omega)
  · exact readers.conditional (by omega)
  · exact readers.function (by omega)
  · exact .fail _

theorem unary_succ (readers : EndsWithin budget) (operator : Operator) (present : 1 ≤ limit)
    (enough : 8 * limit + 1 ≤ budget + 1) :
    (Expr.parseUnary (budget + 1) operator).Ends limit := by
  unfold Expr.parseUnary
  apply Ends.advance_bind
  apply Ends.bind (readers.expr _ (by omega))
  intro operand
  exact .pure _

theorem group_succ (readers : EndsWithin budget) (present : 1 ≤ limit)
    (enough : 8 * limit + 1 ≤ budget + 1) : (Expr.parseGroup (budget + 1)).Ends limit := by
  unfold Expr.parseGroup
  apply Ends.advance_bind
  apply Ends.bind (readers.expr _ (by omega))
  intro value
  apply Ends.expect_bind (by simp)
  intro _
  exact .pure _

theorem conditional_succ (readers : EndsWithin budget) (enough : 8 * limit + 1 ≤ budget + 1) :
    (Expr.parseConditional (budget + 1)).Ends limit := by
  unfold Expr.parseConditional
  apply Ends.expect_bind (by simp)
  intro two
  apply Ends.advance_bind
  apply Ends.bind (readers.expr _ (by omega))
  intro condition
  apply Ends.expect_bind (by simp)
  intro _
  apply Ends.expect_bind (by simp)
  intro _
  apply Ends.bind (readers.block (by omega))
  intro consequence
  apply Ends.upcoming_bind
  intro token _
  split
  · apply Ends.advance_bind
    apply Ends.expect_bind (by simp)
    intro _
    apply Ends.bind (readers.block (by omega))
    intro alternative
    exact .pure _
  · exact .pure _

theorem function_succ (readers : EndsWithin budget) (enough : 8 * limit + 1 ≤ budget + 1) :
    (Expr.parseFunction (budget + 1)).Ends limit := by
  unfold Expr.parseFunction
  apply Ends.expect_bind (by simp)
  intro two
  apply Ends.bind (Identifier.parseList_ends (by omega))
  intro parameters
  apply Ends.expect_bind (by simp)
  intro _
  apply Ends.bind (readers.block (by omega))
  intro body
  exact .pure _

theorem arguments_succ (readers : EndsWithin budget) (enough : 8 * limit + 4 ≤ budget + 1) :
    (Expr.parseArguments (budget + 1)).Ends limit := by
  unfold Expr.parseArguments
  apply Ends.upcoming_bind
  intro token _
  split
  · apply Ends.advance_bind
    exact .pure _
  · apply Ends.advance_bind
    apply Ends.bind (readers.expr _ (by omega))
    intro argument
    apply Ends.bind (readers.moreArguments (by omega))
    intro rest
    exact .pure _

theorem moreArguments_succ (readers : EndsWithin budget) (enough : 8 * limit + 1 ≤ budget + 1) :
    (Expr.parseMoreArguments (budget + 1)).Ends limit := by
  unfold Expr.parseMoreArguments
  apply Ends.upcoming_bind
  intro token real
  split
  · have two := real (by simp)
    apply Ends.advance_bind
    apply Ends.advance_bind
    apply Ends.bind (readers.expr _ (by omega))
    intro argument
    apply Ends.bind (readers.moreArguments (by omega))
    intro rest
    exact .pure _
  · apply Ends.expect_bind (by simp)
    intro _
    exact .pure _

theorem statement_succ (readers : EndsWithin budget) (enough : 8 * limit + 4 ≤ budget + 1) :
    (Statement.parse (budget + 1)).Ends limit := by
  unfold Statement.parse
  apply Ends.current_bind
  intro token real
  split
  · apply Identifier.parse_ends
    intro identifier two
    apply Ends.expect_bind (by simp)
    intro _
    apply Ends.advance_bind
    apply Ends.bind (readers.expr _ (by omega))
    intro value
    apply Ends.bind (.skipOptional _)
    intro _
    exact .pure _
  · have present := real (by simp)
    apply Ends.advance_bind
    apply Ends.bind (readers.expr _ (by omega))
    intro value
    apply Ends.bind (.skipOptional _)
    intro _
    exact .pure _
  · apply Ends.bind (readers.expr _ (by omega))
    intro value
    apply Ends.bind (.skipOptional _)
    intro _
    exact .pure _

theorem block_succ (readers : EndsWithin budget) (enough : 8 * limit + 6 ≤ budget + 1) :
    (Block.parse (budget + 1)).Ends limit := by
  unfold Block.parse
  apply Ends.current_bind
  intro token _
  apply Ends.advance_bind
  apply Ends.bind (readers.statements (by omega))
  intro statements
  apply Ends.current_bind
  intro found _
  split
  · exact .pure _
  · exact .fail _

theorem statements_succ (readers : EndsWithin budget) (enough : 8 * limit + 5 ≤ budget + 1) :
    (Block.parseStatements (budget + 1)).Ends limit := by
  unfold Block.parseStatements
  apply Ends.current_bind
  intro token real
  split
  · exact .pure _
  · exact .pure _
  · next notClose notEnd =>
      have present := real notEnd
      apply Ends.bind (.attempt (readers.statement (by omega)))
      intro attempted
      split
      · apply Ends.advance_bind
        apply Ends.bind (readers.statements (by omega))
        intro rest
        exact .pure _
      · apply Ends.bind (.skipTo _)
        intro _
        apply Ends.current_bind
        intro found _
        split
        · exact .pure _
        · apply Ends.advance_bind
          exact readers.statements (by omega)

end EndsWithin

theorem endsWithin (budget : Nat) : EndsWithin budget := by
  induction budget with
  | zero =>
      constructor <;> intros <;> omega
  | succ budget readers =>
      exact {
        expr := fun context enough => readers.expr_succ context enough
        operators := fun context left enough => readers.operators_succ context left enough
        operand := fun enough => readers.operand_succ enough
        unary := fun operator present enough => readers.unary_succ operator present enough
        group := fun present enough => readers.group_succ present enough
        conditional := fun enough => readers.conditional_succ enough
        function := fun enough => readers.function_succ enough
        arguments := fun enough => readers.arguments_succ enough
        moreArguments := fun enough => readers.moreArguments_succ enough
        statement := fun enough => readers.statement_succ enough
        block := fun enough => readers.block_succ enough
        statements := fun enough => readers.statements_succ enough }

end Parse

namespace Program

theorem parseStatements_ends {budget limit : Nat} (enough : 8 * limit + 5 ≤ budget) :
    (Program.parseStatements budget).Ends limit := by
  induction budget generalizing limit with
  | zero => omega
  | succ budget ih =>
      unfold Program.parseStatements
      apply Ends.current_bind
      intro token real
      split
      · exact .pure _
      · next notEnd =>
          have present := real notEnd
          apply Ends.bind (.attempt ((endsWithin budget).statement (by omega)))
          intro attempted
          split
          · apply Ends.advance_bind
            apply Ends.bind (ih (by omega))
            intro rest
            exact .pure _
          · apply Ends.bind (.skipTo _)
            intro _
            apply Ends.advance_bind
            exact ih (by omega)

/-- The budget of a program is never used up. -/
theorem parseStatements_budget (tokens : List Token) (diagnostics : List Diagnostic) :
    Program.parseStatements (parseBudget tokens) ⟨tokens, diagnostics⟩ ≠ .unfinished := by
  intro unfinished
  have enough : 8 * tokens.length + 5 ≤ parseBudget tokens := by
    unfold parseBudget
    omega
  have leaves := parseStatements_ends enough ⟨tokens, diagnostics⟩ (Nat.le_refl _)
  rw [unfinished] at leaves
  exact leaves

end Program

end Monkey
