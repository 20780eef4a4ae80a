import Monkey.Program.Basic
import Monkey.Text.Decimal

/-!
# Canonical trees

A tree is canonical if every node keeps the token that belongs to it, and if its names, numerals
and texts are ones that a program text can write. Only the token of an expression statement is
left open, since it is the token that opens the expression, which a node does not know.
-/

namespace Monkey

/-- Whether a character can stand in a name. -/
def Identifier.isNameChar (letter : Char) : Bool :=
  letter.isAlpha || letter == '_'

/-- A text that a program can use as a name. -/
structure Identifier.IsName (name : String) : Prop where
  nonempty : name ≠ ""
  letters : ∀ letter ∈ name.toList, isNameChar letter = true
  not_keyword : ∀ word : Keyword, name ≠ word.spelling

/-- A text that a program can use to write a number. -/
structure Decimal.IsNumeral (digits : String) : Prop where
  nonempty : digits ≠ ""
  isDigit : ∀ digit ∈ digits.toList, digit.isDigit = true

/-- A name with the token that spells it. -/
def Identifier.Canonical (identifier : Identifier) : Prop :=
  identifier.token = .ident identifier.name ∧ IsName identifier.name

/-- The reserved word for a Boolean. -/
def Keyword.ofBool (value : Bool) : Keyword :=
  if value then trueWord else falseWord

mutual

/-- An expression whose nodes keep their tokens. -/
def Expr.Canonical : Expr → Prop
  | .ident identifier => identifier.Canonical
  | .int token value =>
      ∃ digits, token = .int digits ∧ Decimal.IsNumeral digits ∧
        (Decimal.accumulate 0 digits.toList : Int) = value.toInt
  | .bool token value => token = .keyword (.ofBool value)
  | .string token text => token = .string text ∧ '"' ∉ text.toList
  | .unary token operator operand =>
      token = .operator operator ∧ (operator = .bang ∨ operator = .minus) ∧ operand.Canonical
  | .binary token left operator right =>
      token = .operator operator ∧ operator ≠ .bang ∧ left.Canonical ∧ right.Canonical
  | .conditional token condition consequence alternative =>
      token = .keyword .ifWord ∧ condition.Canonical ∧ consequence.Canonical ∧
        canonicalAlternative alternative
  | .function token parameters body =>
      token = .keyword .fnWord ∧ (∀ parameter ∈ parameters, parameter.Canonical) ∧ body.Canonical
  | .call token callee arguments =>
      token = .punctuation .openParen ∧ callee.Canonical ∧ canonicalArguments arguments

/-- An alternative, if there is one, whose nodes keep their tokens. -/
def canonicalAlternative : Option Block → Prop
  | none => True
  | some block => block.Canonical

/-- Arguments whose nodes keep their tokens. -/
def canonicalArguments : List Expr → Prop
  | [] => True
  | argument :: rest => argument.Canonical ∧ canonicalArguments rest

/-- A statement whose nodes keep their tokens, the one of an expression statement apart. -/
def Statement.Canonical : Statement → Prop
  | .bind token identifier value =>
      token = .keyword .letWord ∧ identifier.Canonical ∧ value.Canonical
  | .result token value => token = .keyword .returnWord ∧ value.Canonical
  | .expr _ value => value.Canonical

/-- Statements whose nodes keep their tokens. -/
def canonicalStatements : List Statement → Prop
  | [] => True
  | statement :: rest => statement.Canonical ∧ canonicalStatements rest

/-- A block whose nodes keep their tokens. -/
def Block.Canonical : Block → Prop
  | ⟨token, statements⟩ => token = .punctuation .openBrace ∧ canonicalStatements statements

end

/-- A program whose nodes keep their tokens. -/
def Program.Canonical (program : Program) : Prop :=
  canonicalStatements program.statements

namespace Decimal

theorem int?_of_isNumeral {digits : String} (numeral : IsNumeral digits) :
    int? digits.toList = some (accumulate 0 digits.toList : Int) := by
  have some_digits : digits.toList ≠ [] := by
    intro none
    exact numeral.nonempty (String.toList_eq_nil_iff.mp none)
  have all_digits : digits.toList.all Char.isDigit = true :=
    List.all_eq_true.mpr numeral.isDigit
  have read : nat? digits.toList = some (accumulate 0 digits.toList) := by
    rw [nat?, if_pos ⟨some_digits, all_digits⟩]
  cases shape : digits.toList with
  | nil => exact absurd shape some_digits
  | cons first rest =>
      have isDigit := numeral.isDigit first (by rw [shape]; exact List.mem_cons_self)
      rw [shape] at read
      rw [int?, read, Option.map_some]
      · rfl
      · rintro _ ⟨⟩
        exact absurd isDigit (by decide)
      · rintro _ ⟨⟩
        exact absurd isDigit (by decide)

/-- A numeral reads as the value that its digits write. -/
theorem int64?_of_isNumeral {digits : String} {value : Int64} (numeral : IsNumeral digits)
    (written : (accumulate 0 digits.toList : Int) = value.toInt) :
    int64? digits = some value := by
  have inRange : Int64.minValue.toInt ≤ value.toInt ∧ value.toInt ≤ Int64.maxValue.toInt :=
    ⟨Int64.minValue_le_toInt value, Int64.toInt_le value⟩
  rw [int64?, int?_of_isNumeral numeral, written]
  simp only [if_pos inRange, Int64.ofInt_toInt]

/-- What is read from a numeral is the value that its digits write. -/
theorem accumulate_of_int64? {digits : String} {value : Int64} (numeral : IsNumeral digits)
    (read : int64? digits = some value) :
    (accumulate 0 digits.toList : Int) = value.toInt := by
  rw [int64?, int?_of_isNumeral numeral] at read
  simp only at read
  split at read
  · next inRange =>
      cases read
      rw [Int64.toInt_minValue, Int64.toInt_maxValue] at inRange
      exact (Int64.toInt_ofInt_of_le (by omega) (by omega)).symm
  · cases read

end Decimal

end Monkey
