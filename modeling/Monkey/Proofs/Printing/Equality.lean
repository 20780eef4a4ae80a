import Monkey.Program.Equality
import Monkey.Program.Printer

/-!
# Equal trees print alike

The printer never shows the token of an expression statement, which is all that the comparison of
trees leaves out.
-/

namespace Monkey

theorem Statement.separator_eq_of_beq {left right : Statement} (same : left.beq right = true)
    {following others : List Statement} (rest : statementsBeq following others = true) :
    left.separator following = right.separator others := by
  cases following <;> cases others <;> simp only [statementsBeq, Bool.false_eq_true] at rest
  · rfl
  · cases left <;> cases right <;> simp [beq] at same <;> rfl

mutual

theorem Expr.print_eq_of_beq {left right : Expr} (same : left.beq right = true) :
    left.print = right.print := by
  cases left with
  | ident identifier =>
      cases right <;> simp [Expr.beq] at same
      simp [Expr.print, same]
  | int token value =>
      cases right <;> simp [Expr.beq] at same
      simp [Expr.print, same]
  | bool token value =>
      cases right <;> simp [Expr.beq] at same
      simp [Expr.print, same]
  | string token text =>
      cases right <;> simp [Expr.beq] at same
      simp [Expr.print, same]
  | unary token operator operand =>
      cases right <;> simp [Expr.beq] at same
      simp [Expr.print, same, Expr.print_eq_of_beq same.2]
  | binary token left operator right' =>
      cases right <;> simp [Expr.beq] at same
      simp [Expr.print, same, Expr.print_eq_of_beq same.1.2, Expr.print_eq_of_beq same.2]
  | conditional token condition consequence alternative =>
      cases right <;> simp [Expr.beq] at same
      simp [Expr.print, Expr.print_eq_of_beq same.1.1.2, Block.print_eq_of_beq same.1.2,
        printAlternative_eq_of_beq same.2]
  | function token parameters body =>
      cases right <;> simp [Expr.beq] at same
      simp [Expr.print, same, Block.print_eq_of_beq same.2]
  | call token callee arguments =>
      cases right <;> simp [Expr.beq] at same
      simp [Expr.print, Expr.print_eq_of_beq same.1.2, printArguments_eq_of_beq same.2]
termination_by structural left

theorem printAlternative_eq_of_beq {left right : Option Block}
    (same : alternativesBeq left right = true) :
    printAlternative left = printAlternative right := by
  cases left with
  | none => cases right <;> simp [alternativesBeq] at same; rfl
  | some block =>
      cases right <;> simp [alternativesBeq] at same
      simp [printAlternative, Block.print_eq_of_beq same]
termination_by structural left

theorem printArguments_eq_of_beq {left right : List Expr}
    (same : argumentsBeq left right = true) : printArguments left = printArguments right := by
  cases left with
  | nil => cases right <;> simp [argumentsBeq] at same; rfl
  | cons argument rest =>
      cases right <;> simp [argumentsBeq] at same
      simp [printArguments, Expr.print_eq_of_beq same.1, printArguments_eq_of_beq same.2]
termination_by structural left

theorem Statement.print_eq_of_beq {left right : Statement} (same : left.beq right = true) :
    left.print = right.print := by
  cases left with
  | bind token identifier value =>
      cases right <;> simp [Statement.beq] at same
      simp [Statement.print, same, Expr.print_eq_of_beq same.2]
  | result token value =>
      cases right <;> simp [Statement.beq] at same
      simp [Statement.print, same, Expr.print_eq_of_beq same.2]
  | expr token value =>
      cases right <;> simp [Statement.beq] at same
      simp [Statement.print, Expr.print_eq_of_beq same]
termination_by structural left

theorem printStatements_eq_of_beq {left right : List Statement}
    (same : statementsBeq left right = true) : printStatements left = printStatements right := by
  cases left with
  | nil => cases right <;> simp [statementsBeq] at same; rfl
  | cons statement rest =>
      cases right <;> simp [statementsBeq] at same
      simp [printStatements, Statement.print_eq_of_beq same.1,
        Statement.separator_eq_of_beq same.1 same.2, printStatements_eq_of_beq same.2]
termination_by structural left

theorem Block.print_eq_of_beq {left right : Block} (same : left.beq right = true) :
    left.print = right.print := by
  rcases left with ⟨leftToken, statements⟩
  rcases right with ⟨rightToken, others⟩
  simp [Block.beq] at same
  have inside := printStatements_eq_of_beq same.2
  cases statements <;> cases others <;> simp [statementsBeq] at same
  · rfl
  · simp [Block.print, inside]
termination_by structural left

end

theorem Program.print_eq_of_beq {left right : Program} (same : (left == right) = true) :
    left.print = right.print :=
  printStatements_eq_of_beq same

end Monkey
