import Monkey.Proofs.Evaluation.Comparison
import Monkey.Proofs.Evaluation.Operators

/-!
# Arithmetic

An expression of integer literals, signs and operators of arithmetic needs nothing of the arena and
leaves it as it is. Sums, differences and products come to the word that is congruent to the exact
integer, whatever overflows on the way there: taking the residue is a homomorphism. Quotients have
to be taken one by one. They fail where a divisor comes to zero, and nothing else fails.
-/

namespace Monkey

/-- The operators of arithmetic whose result is a polynomial in the operands. -/
def Operator.ring : List Operator :=
  [plus, minus, asterisk]

namespace Expr

/-- Whether an expression is built from integer literals by the sign and the given operators. -/
inductive IsArithmetic (operators : List Operator) : Expr → Prop where
  | int (token : Token) (value : Int64) : IsArithmetic operators (.int token value)
  | negation (token : Token) {operand : Expr} (inner : IsArithmetic operators operand) :
      IsArithmetic operators (.unary token .minus operand)
  | binary (token : Token) {operator : Operator} (member : operator ∈ operators)
      {left right : Expr} (first : IsArithmetic operators left)
      (second : IsArithmetic operators right) :
      IsArithmetic operators (.binary token left operator right)

/-- The exact integer that an expression of literals, signs, sums, differences and products stands
for. -/
def exactValue : Expr → Int
  | .int _ value => value.toInt
  | .unary _ _ operand => -operand.exactValue
  | .binary _ left operator right => operator.exact left.exactValue right.exactValue
  | _ => 0

/-- Whether an operation is a part of an expression; an expression is a part of itself. -/
inductive Contains : Expr → Expr → Prop where
  | self (whole : Expr) : Contains whole whole
  | operand {token : Token} {operator : Operator} {operand part : Expr}
      (inner : operand.Contains part) : Contains (.unary token operator operand) part
  | left {token : Token} {operator : Operator} {left right part : Expr}
      (inner : left.Contains part) : Contains (.binary token left operator right) part
  | right {token : Token} {operator : Operator} {left right part : Expr}
      (inner : right.Contains part) : Contains (.binary token left operator right) part

theorem Contains.trans {whole middle part : Expr} (first : whole.Contains middle)
    (second : middle.Contains part) : whole.Contains part := by
  induction first with
  | self => exact second
  | operand _ ih => exact .operand (ih second)
  | left _ ih => exact .left (ih second)
  | right _ ih => exact .right (ih second)

section Evaluate

variable {apply : Application} {scope : FrameId} {arena : Arena} {token : Token}
  {operator : Operator} {operand left right : Expr}

theorem evaluate_unary {value : Int64}
    (inner : operand.evaluate apply scope arena = (.ok (.int value), arena)) :
    (Expr.unary token operator operand).evaluate apply scope arena =
      (operator.applyUnary (.int value), arena) := by
  rw [evaluate, Evaluation.withOperand_apply, inner]
  rfl

theorem evaluate_unary_of_error {error : EvalError}
    (inner : operand.evaluate apply scope arena = (.error error, arena)) :
    (Expr.unary token operator operand).evaluate apply scope arena = (.error error, arena) := by
  rw [evaluate, Evaluation.withOperand_apply, inner]

theorem evaluate_binary {value value' : Int64}
    (first : left.evaluate apply scope arena = (.ok (.int value), arena))
    (second : right.evaluate apply scope arena = (.ok (.int value'), arena)) :
    (Expr.binary token left operator right).evaluate apply scope arena =
      (operator.applyInts value value', arena) := by
  rw [evaluate, Evaluation.withOperand_apply, first]
  simp only [Value.isReturned, Bool.false_eq_true, if_false]
  rw [Evaluation.withOperand_apply, second]
  rfl

theorem evaluate_binary_of_left {error : EvalError}
    (first : left.evaluate apply scope arena = (.error error, arena)) :
    (Expr.binary token left operator right).evaluate apply scope arena = (.error error, arena) := by
  rw [evaluate, Evaluation.withOperand_apply, first]

theorem evaluate_binary_of_right {value : Int64} {error : EvalError}
    (first : left.evaluate apply scope arena = (.ok (.int value), arena))
    (second : right.evaluate apply scope arena = (.error error, arena)) :
    (Expr.binary token left operator right).evaluate apply scope arena = (.error error, arena) := by
  rw [evaluate, Evaluation.withOperand_apply, first]
  simp only [Value.isReturned, Bool.false_eq_true, if_false]
  rw [Evaluation.withOperand_apply, second]

end Evaluate

/-- Without quotients the residue of the exact integer is what an evaluation comes to. -/
theorem IsArithmetic.evaluate_ring {expression : Expr}
    (ring : expression.IsArithmetic Operator.ring) (apply : Application) (scope : FrameId)
    (arena : Arena) :
    expression.evaluate apply scope arena =
      (.ok (.int (.ofInt expression.exactValue)), arena) := by
  induction ring with
  | int token value =>
      rw [exactValue, Int64.ofInt_toInt]
      rfl
  | negation token _ ih =>
      rw [evaluate_unary ih, exactValue, Int64.ofInt_neg]
      rfl
  | binary token member _ _ ihLeft ihRight =>
      rw [evaluate_binary ihLeft ihRight]
      simp only [Operator.ring, List.mem_cons, List.not_mem_nil, or_false] at member
      rcases member with rfl | rfl | rfl
      · rw [exactValue, Operator.exact, Int64.ofInt_add]
        rfl
      · rw [exactValue, Operator.exact, Int64.ofInt_sub]
        rfl
      · rw [exactValue, Operator.exact, Int64.ofInt_mul]
        rfl

theorem IsArithmetic.part {operators : List Operator} {whole part : Expr}
    (arithmetic : whole.IsArithmetic operators) (contains : whole.Contains part) :
    part.IsArithmetic operators := by
  induction contains with
  | self => exact arithmetic
  | operand _ ih =>
      cases arithmetic with
      | negation _ inner => exact ih inner
  | left _ ih =>
      cases arithmetic with
      | binary _ _ first _ => exact ih first
  | right _ ih =>
      cases arithmetic with
      | binary _ _ _ second => exact ih second

section Division

variable (apply : Application) (scope : FrameId) (arena : Arena)

/-- Whether an expression contains a quotient whose operands have values, the divisor zero. -/
def DividesByZero (expression : Expr) : Prop :=
  ∃ token left right dividend, expression.Contains (.binary token left .slash right) ∧
    (left.evaluate apply scope arena).1 = .ok dividend ∧
    (right.evaluate apply scope arena).1 = .ok (.int 0)

/-- Whether all parts of an expression come to integers and leave the arena as it is. -/
def IsDefined (expression : Expr) : Prop :=
  ∀ part, expression.Contains part →
    ∃ value : Int64, part.evaluate apply scope arena = (.ok (.int value), arena)

variable {apply scope arena}

theorem DividesByZero.of_contains {whole part : Expr}
    (divides : part.DividesByZero apply scope arena) (contains : whole.Contains part) :
    whole.DividesByZero apply scope arena := by
  rcases divides with ⟨token, left, right, dividend, inner, values⟩
  exact ⟨token, left, right, dividend, contains.trans inner, values⟩

theorem IsDefined.operands {expression left right : Expr} {token : Token} {operator : Operator}
    (defined : expression.IsDefined apply scope arena)
    (contains : expression.Contains (.binary token left operator right)) :
    ∃ value value' : Int64,
      left.evaluate apply scope arena = (.ok (.int value), arena) ∧
      right.evaluate apply scope arena = (.ok (.int value'), arena) ∧
      (Expr.binary token left operator right).evaluate apply scope arena =
        (operator.applyInts value value', arena) := by
  rcases defined left (contains.trans (.left (.self left))) with ⟨value, first⟩
  rcases defined right (contains.trans (.right (.self right))) with ⟨value', second⟩
  exact ⟨value, value', first, second, evaluate_binary first second⟩

theorem IsDefined.not_dividesByZero {expression : Expr}
    (defined : expression.IsDefined apply scope arena) :
    ¬expression.DividesByZero apply scope arena := by
  rintro ⟨token, left, right, dividend, contains, -, zero⟩
  rcases defined _ contains with ⟨quotient, whole⟩
  rcases defined.operands contains with ⟨value, value', -, second, failed⟩
  rw [second] at zero
  cases zero
  cases whole.symm.trans failed

theorem IsDefined.unary {operand : Expr} {token : Token} {operator : Operator} {value : Int64}
    (inner : operand.IsDefined apply scope arena)
    (whole : (Expr.unary token operator operand).evaluate apply scope arena =
      (.ok (.int value), arena)) :
    (Expr.unary token operator operand).IsDefined apply scope arena := by
  intro part contains
  cases contains with
  | self => exact ⟨value, whole⟩
  | operand contains => exact inner part contains

theorem IsDefined.binary {left right : Expr} {token : Token} {operator : Operator} {value : Int64}
    (first : left.IsDefined apply scope arena) (second : right.IsDefined apply scope arena)
    (whole : (Expr.binary token left operator right).evaluate apply scope arena =
      (.ok (.int value), arena)) :
    (Expr.binary token left operator right).IsDefined apply scope arena := by
  intro part contains
  cases contains with
  | self => exact ⟨value, whole⟩
  | left contains => exact first part contains
  | right contains => exact second part contains

/-- An expression of arithmetic is defined in all its parts, or it fails since it divides by
zero. -/
theorem IsArithmetic.isDefined_or {expression : Expr}
    (arithmetic : expression.IsArithmetic Operator.arithmetic) (apply : Application)
    (scope : FrameId) (arena : Arena) :
    expression.IsDefined apply scope arena ∨
      expression.evaluate apply scope arena = (.error .divisionByZero, arena) ∧
        expression.DividesByZero apply scope arena := by
  induction arithmetic with
  | int token value =>
      refine .inl fun part contains => ?_
      cases contains with
      | self => exact ⟨value, rfl⟩
  | @negation token operand _ ih =>
      rcases ih with defined | ⟨failed, divides⟩
      · rcases defined operand (.self operand) with ⟨value, inner⟩
        have whole : (Expr.unary token .minus operand).evaluate apply scope arena =
            (.ok (.int (-value)), arena) := evaluate_unary inner
        exact .inl (defined.unary whole)
      · exact .inr ⟨evaluate_unary_of_error failed, divides.of_contains (.operand (.self operand))⟩
  | @binary token operator member left right _ _ ihLeft ihRight =>
      -- Operands are evaluated from the left, and the first failure is that of the whole.
      rcases ihLeft with first | ⟨failed, divides⟩
      · rcases first left (.self left) with ⟨value, left_eq⟩
        rcases ihRight with second | ⟨failed, divides⟩
        · rcases second right (.self right) with ⟨value', right_eq⟩
          have whole : (Expr.binary token left operator right).evaluate apply scope arena =
              (operator.applyInts value value', arena) := evaluate_binary left_eq right_eq
          by_cases zero : operator = .slash ∧ value' = 0
          · rcases zero with ⟨rfl, rfl⟩
            exact .inr ⟨whole, token, left, right, .int value, .self _, congrArg Prod.fst left_eq,
              congrArg Prod.fst right_eq⟩
          · rw [Operator.applyInts_eq_ofInt member fun slash same => zero ⟨slash, same⟩] at whole
            exact .inl (first.binary second whole)
        · exact .inr ⟨evaluate_binary_of_right left_eq failed,
            divides.of_contains (.right (.self right))⟩
      · exact .inr ⟨evaluate_binary_of_left failed, divides.of_contains (.left (.self left))⟩

/-- An operation that is defined has the word that is congruent to its exact result. -/
theorem IsDefined.operation {expression left right : Expr} {token : Token} {operator : Operator}
    (defined : expression.IsDefined apply scope arena)
    (arithmetic : expression.IsArithmetic Operator.arithmetic)
    (contains : expression.Contains (.binary token left operator right)) :
    ∃ value value' word : Int64, (left.evaluate apply scope arena).1 = .ok (.int value) ∧
      (right.evaluate apply scope arena).1 = .ok (.int value') ∧
      (operator = .slash → value' ≠ 0) ∧
      IsResidue (operator.exact value.toInt value'.toInt) word ∧
      ((Expr.binary token left operator right).evaluate apply scope arena).1 =
        .ok (.int word) := by
  rcases defined.operands contains with ⟨value, value', first, second, whole⟩
  have divides : operator = .slash → value' ≠ 0 := by
    rintro rfl rfl
    exact defined.not_dividesByZero ⟨token, left, right, .int value, contains,
      congrArg Prod.fst first, congrArg Prod.fst second⟩
  cases arithmetic.part contains with
  | binary _ member _ _ =>
      rw [Operator.applyInts_eq_ofInt member divides] at whole
      exact ⟨value, value', _, congrArg Prod.fst first, congrArg Prod.fst second, divides,
        isResidue_ofInt _, congrArg Prod.fst whole⟩

end Division

end Expr

/-- A program that is one expression comes to what the expression comes to, if that is no pending
result. -/
theorem Program.evaluate_expression {expression : Expr} {scope : FrameId} {arena : Arena}
    (outcome : Except EvalError Int64)
    (evaluated : expression.evaluate (Value.apply .reusing callDepthLimit) scope arena =
      (outcome.map .int, arena)) (token : Token) :
    ((⟨[.expr token expression]⟩ : Program).evaluate scope arena).1 = outcome.map .int := by
  have single : evaluateStatements (Value.apply .reusing callDepthLimit) scope .null
      [.expr token expression] = Evaluation.withOperand
        (expression.evaluate (Value.apply .reusing callDepthLimit) scope) pure := rfl
  rw [evaluate_eq, single, Evaluation.withOperand_apply, evaluated]
  cases outcome <;> rfl

namespace Expr

/-- Arithmetic is exact as far as words can hold it. Without quotients an expression comes to the
word that is congruent to its exact integer, anywhere. With quotients it fails just if a quotient in
it has a dividend and the divisor zero, and never with another error; else every operation in it,
quotients included, has the word that is congruent to its exact result, a quotient being cut off
toward zero. -/
theorem evaluate_arithmetic :
    (∀ expression : Expr, expression.IsArithmetic Operator.ring →
      ∃ word : Int64, IsResidue expression.exactValue word ∧
        (∀ apply scope arena,
          expression.evaluate apply scope arena = (.ok (.int word), arena)) ∧
        ∀ token scope arena,
          ((⟨[.expr token expression]⟩ : Program).evaluate scope arena).1 = .ok (.int word)) ∧
    (∀ expression : Expr, expression.IsArithmetic Operator.arithmetic →
      (∀ apply scope arena,
        let outcome (part : Expr) := (part.evaluate apply scope arena).1
        (expression.evaluate apply scope arena).2 = arena ∧
        (outcome expression = .error .divisionByZero ↔
          ∃ token left right dividend, expression.Contains (.binary token left .slash right) ∧
            outcome left = .ok dividend ∧ outcome right = .ok (.int 0)) ∧
        (outcome expression ≠ .error .divisionByZero →
          (∃ word, outcome expression = .ok (.int word)) ∧
          ∀ token left operator right, expression.Contains (.binary token left operator right) →
            ∃ value value' word, outcome left = .ok (.int value) ∧
              outcome right = .ok (.int value') ∧ (operator = .slash → value' ≠ 0) ∧
              IsResidue (operator.exact value.toInt value'.toInt) word ∧
              outcome (.binary token left operator right) = .ok (.int word))) ∧
      ∀ token scope arena,
        ((⟨[.expr token expression]⟩ : Program).evaluate scope arena).1 =
          (expression.evaluate (Value.apply .reusing callDepthLimit) scope arena).1) ∧
    ∀ token first second apply scope arena,
      (Expr.binary token (.int first Int64.minValue) .slash (.int second (-1))).evaluate
        apply scope arena = (.ok (.int Int64.minValue), arena) := by
  refine ⟨fun expression ring => ?_, fun expression arithmetic => ⟨fun apply scope arena => ?_,
    fun token scope arena => ?_⟩, fun token first second apply scope arena => ?_⟩
  · have evaluated := ring.evaluate_ring
    exact ⟨_, isResidue_ofInt _, evaluated, fun token scope arena =>
      Program.evaluate_expression (.ok _) (evaluated _ scope arena) token⟩
  · intro outcome
    rcases arithmetic.isDefined_or apply scope arena with defined | ⟨failed, divides⟩
    · rcases defined expression (.self expression) with ⟨word, evaluated⟩
      have comes : outcome expression = .ok (.int word) := congrArg Prod.fst evaluated
      refine ⟨congrArg Prod.snd evaluated, ⟨fun failed => ?_, fun divides => ?_⟩,
        fun _ => ⟨⟨word, comes⟩, fun _ _ _ _ => defined.operation arithmetic⟩⟩
      · cases comes.symm.trans failed
      · exact absurd divides defined.not_dividesByZero
    · have comes : outcome expression = .error .divisionByZero := congrArg Prod.fst failed
      exact ⟨congrArg Prod.snd failed, iff_of_true comes divides, fun other => absurd comes other⟩
  · rcases arithmetic.isDefined_or (Value.apply .reusing callDepthLimit) scope arena with
      defined | ⟨failed, _⟩
    · rcases defined expression (.self expression) with ⟨word, evaluated⟩
      rw [Program.evaluate_expression (.ok word) evaluated token, evaluated]
      rfl
    · rw [Program.evaluate_expression (.error .divisionByZero) failed token, failed]
      rfl
  · rw [evaluate_binary rfl rfl]
    rfl

/-- A sum overflows and is divided by minus one, and a quotient has a difference that is zero for
its divisor. -/
theorem evaluate_arithmetic_overflow :
    let int (value : Int64) : Expr := .int (.int "0") value
    let sum : Expr := .binary (.operator .plus) (int Int64.maxValue) .plus (int 1)
    let quotient : Expr := .binary (.operator .slash) sum .slash (int (-1))
    let zero : Expr := .binary (.operator .minus) (int 2) .minus (int 2)
    let failing : Expr := .binary (.operator .plus) (int 1) .plus
      (.binary (.operator .slash) (int 1) .slash zero)
    let apply := Value.apply .reusing callDepthLimit
    let arena := (Arena.start 0).2
    (∃ word, IsResidue (2 ^ 63) word ∧
      sum.evaluate apply ⟨0⟩ arena = (.ok (.int word), arena)) ∧
    (∃ word, (quotient.evaluate apply ⟨0⟩ arena).1 = .ok (.int word)) ∧
    (failing.evaluate apply ⟨0⟩ arena).1 = .error .divisionByZero := by
  intro int sum quotient zero failing apply arena
  have literal (operators : List Operator) (value : Int64) : (int value).IsArithmetic operators :=
    .int _ value
  have isRing : sum.IsArithmetic Operator.ring := .binary _ (by decide) (literal _ _) (literal _ _)
  have isQuotient : quotient.IsArithmetic Operator.arithmetic :=
    .binary _ (by decide) (.binary _ (by decide) (literal _ _) (literal _ _)) (literal _ _)
  have isFailing : failing.IsArithmetic Operator.arithmetic :=
    .binary _ (by decide) (literal _ _) (.binary _ (by decide) (literal _ _)
      (.binary _ (by decide) (literal _ _) (literal _ _)))
  rcases evaluate_arithmetic with ⟨ring, arithmetic, -⟩
  rcases ring sum isRing with ⟨word, residue, evaluated, -⟩
  have succeeds := ((arithmetic quotient isQuotient).1 apply ⟨0⟩ arena).2.2
  have fails := ((arithmetic failing isFailing).1 apply ⟨0⟩ arena).2.1
  refine ⟨⟨word, residue, evaluated apply ⟨0⟩ arena⟩, (succeeds fun failed => ?_).1, ?_⟩
  · cases failed
  · exact fails.mpr ⟨_, int 1, zero, .int 1, .right (.self _), rfl, rfl⟩

end Expr

end Monkey
