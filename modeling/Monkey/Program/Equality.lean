import Monkey.Program.Basic

/-!
# Equality of program trees

Two trees are equal when they agree in everything but the tokens of expression statements.
Such a token is whatever opened the expression, which grouping changes without changing the
tree, so it takes no part; every other token does.
-/

namespace Monkey

mutual

/-- Equality of expressions up to the tokens of the expression statements inside. -/
def Expr.beq : Expr → Expr → Bool
  | .ident left, .ident right => left == right
  | .int leftToken left, .int rightToken right => leftToken == rightToken && left == right
  | .bool leftToken left, .bool rightToken right => leftToken == rightToken && left == right
  | .string leftToken left, .string rightToken right => leftToken == rightToken && left == right
  | .unary leftToken leftOperator left, .unary rightToken rightOperator right =>
      leftToken == rightToken && leftOperator == rightOperator && left.beq right
  | .binary leftToken left leftOperator left', .binary rightToken right rightOperator right' =>
      leftToken == rightToken && leftOperator == rightOperator && left.beq right &&
        left'.beq right'
  | .conditional leftToken left leftBlock leftAlternative,
      .conditional rightToken right rightBlock rightAlternative =>
      leftToken == rightToken && left.beq right && leftBlock.beq rightBlock &&
        alternativesBeq leftAlternative rightAlternative
  | .function leftToken leftParameters left, .function rightToken rightParameters right =>
      leftToken == rightToken && leftParameters == rightParameters && left.beq right
  | .call leftToken left leftArguments, .call rightToken right rightArguments =>
      leftToken == rightToken && left.beq right && argumentsBeq leftArguments rightArguments
  | _, _ => false

def alternativesBeq : Option Block → Option Block → Bool
  | none, none => true
  | some left, some right => left.beq right
  | _, _ => false

def argumentsBeq : List Expr → List Expr → Bool
  | [], [] => true
  | left :: leftRest, right :: rightRest => left.beq right && argumentsBeq leftRest rightRest
  | _, _ => false

/-- Equality of statements; the token of an expression statement is ignored. -/
def Statement.beq : Statement → Statement → Bool
  | .bind leftToken leftName left, .bind rightToken rightName right =>
      leftToken == rightToken && leftName == rightName && left.beq right
  | .result leftToken left, .result rightToken right => leftToken == rightToken && left.beq right
  | .expr _ left, .expr _ right => left.beq right
  | _, _ => false

def statementsBeq : List Statement → List Statement → Bool
  | [], [] => true
  | left :: leftRest, right :: rightRest => left.beq right && statementsBeq leftRest rightRest
  | _, _ => false

def Block.beq : Block → Block → Bool
  | ⟨leftToken, left⟩, ⟨rightToken, right⟩ => leftToken == rightToken && statementsBeq left right

end

instance : BEq Expr := ⟨Expr.beq⟩

instance : BEq Statement := ⟨Statement.beq⟩

instance : BEq Block := ⟨Block.beq⟩

instance : BEq Program := ⟨fun left right => statementsBeq left.statements right.statements⟩

end Monkey
