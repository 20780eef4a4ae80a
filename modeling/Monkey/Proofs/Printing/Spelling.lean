import Monkey.Program.Equality
import Monkey.Proofs.Grammar.Basic
import Monkey.Proofs.Printing.Canonical

/-!
# The tokens of a printed program

`spelling` lists the tokens that the printer writes for a tree. From the spelling of a canonical
tree the grammar derives a tree equal to it. Every operator stands in a group of its own, so any
expression may stand wherever the grammar wants an operand, a callee or an argument.
-/

namespace Monkey

/-- Token lists with commas between them. -/
def Token.commaSeparated (items : List (List Token)) : List Token :=
  [Token.punctuation .comma].intercalate items

/-- The semicolon that a printed statement has after it: an expression statement lacks it at the
end of its row. -/
def Statement.terminator (statement : Statement) (following : List Statement) : List Token :=
  match following, statement with
  | [], .expr _ _ => []
  | _, _ => [.punctuation .semicolon]

mutual

/-- The tokens of a printed expression. -/
def Expr.spelling : Expr → List Token
  | .ident identifier => [.ident identifier.name]
  | .int token _ => [token]
  | .bool _ value => [.keyword (.ofBool value)]
  | .string _ text => [.string text]
  | .unary _ operator operand =>
      .punctuation .openParen :: .operator operator ::
        (operand.spelling ++ [.punctuation .closeParen])
  | .binary _ left operator right =>
      .punctuation .openParen ::
        (left.spelling ++ .operator operator :: right.spelling ++ [.punctuation .closeParen])
  | .conditional _ condition consequence alternative =>
      .keyword .ifWord :: .punctuation .openParen ::
        (condition.spelling ++ .punctuation .closeParen ::
          (consequence.spelling ++ alternativeSpelling alternative))
  | .function _ parameters body =>
      .keyword .fnWord :: .punctuation .openParen ::
        (Token.commaSeparated (parameters.map fun parameter => [.ident parameter.name]) ++
          .punctuation .closeParen :: body.spelling)
  | .call _ callee arguments =>
      callee.spelling ++ .punctuation .openParen ::
        (Token.commaSeparated (argumentSpellings arguments) ++ [.punctuation .closeParen])

/-- The tokens of the printed alternative of a conditional. -/
def alternativeSpelling : Option Block → List Token
  | none => []
  | some block => .keyword .elseWord :: block.spelling

/-- The tokens of each of the printed arguments. -/
def argumentSpellings : List Expr → List (List Token)
  | [] => []
  | argument :: rest => argument.spelling :: argumentSpellings rest

/-- The tokens of a printed statement, without the semicolon after it. -/
def Statement.spelling : Statement → List Token
  | .bind token identifier value =>
      token :: .ident identifier.name :: .punctuation .assign :: value.spelling
  | .result token value => token :: value.spelling
  | .expr _ value => value.spelling

/-- The tokens of printed statements. -/
def statementsSpelling : List Statement → List Token
  | [] => []
  | statement :: rest =>
      statement.spelling ++ statement.terminator rest ++ statementsSpelling rest

/-- The tokens of a printed block. -/
def Block.spelling : Block → List Token
  | ⟨_, statements⟩ =>
      .punctuation .openBrace :: (statementsSpelling statements ++ [.punctuation .closeBrace])

end

namespace Token

theorem commaSeparated_cons_cons (first second : List Token) (rest : List (List Token)) :
    commaSeparated (first :: second :: rest) =
      first ++ .punctuation .comma :: commaSeparated (second :: rest) := by
  simp [commaSeparated, List.intercalate]

theorem commaSeparated_singleton (item : List Token) : commaSeparated [item] = item := by
  simp [commaSeparated, List.intercalate]

theorem commaSeparated_names (names : List String) :
    commaSeparated (names.map fun name => [.ident name]) = Phrase.parameterTokens names := by
  induction names with
  | nil => rfl
  | cons first rest ih =>
      cases rest with
      | nil => rfl
      | cons second rest =>
          simp only [List.map_cons] at ih ⊢
          rw [commaSeparated_cons_cons, ih]
          rfl

end Token

open Phrase

/-- Whether the grammar derives from tokens, as a callee, an expression equal to the given one. -/
def Expr.WrittenBy (value : Expr) (tokens : List Token) : Prop :=
  ∃ reading, (expression .application reading).Derives tokens ∧ value.beq reading = true

/-- Whether the grammar derives from tokens arguments equal to the given ones. -/
def argumentsWrittenBy (values : List Expr) (tokens : List Token) : Prop :=
  ∃ readings, (arguments readings).Derives tokens ∧ argumentsBeq values readings = true

/-- Whether the grammar derives from tokens a statement equal to the given one. -/
def Statement.WrittenBy (value : Statement) (tokens : List Token) : Prop :=
  ∃ reading, (statement reading).Derives tokens ∧ value.beq reading = true

/-- Whether the grammar derives from tokens statements equal to the given ones. -/
def statementsWrittenBy (values : List Statement) (tokens : List Token) : Prop :=
  ∃ readings, (statements readings).Derives tokens ∧ statementsBeq values readings = true

/-- Whether the grammar derives from tokens a block equal to the given one. -/
def Block.WrittenBy (value : Block) (tokens : List Token) : Prop :=
  ∃ reading, (block reading).Derives tokens ∧ value.beq reading = true

theorem Identifier.eq_ofToken {identifier : Identifier} (canonical : identifier.Canonical) :
    identifier = .ofToken (.ident identifier.name) := by
  rw [ofToken, Token.literal, ← canonical.1]

theorem Identifier.parameters_names {parameters : List Identifier}
    (canonical : ∀ parameter ∈ parameters, parameter.Canonical) :
    Phrase.parameters (parameters.map Identifier.name) = parameters := by
  have same : ∀ parameter ∈ parameters,
      ((fun name => ofToken (.ident name)) ∘ Identifier.name) parameter = id parameter :=
    fun parameter member => (eq_ofToken (canonical parameter member)).symm
  rw [Phrase.parameters, List.map_map, List.map_congr_left same, List.map_id]

theorem Stratum.exists_of_ne_bang {operator : Operator} (binary : operator ≠ .bang) :
    ∃ stratum next : Stratum, stratum.tighter? = some next ∧ operator ∈ stratum.operators ∧
      stratum.rank < next.rank ∧ next.rank ≤ application.rank := by
  cases operator with
  | bang => exact absurd rfl binary
  | equal => exact ⟨equality, comparison, rfl, by decide, by decide, by decide⟩
  | notEqual => exact ⟨equality, comparison, rfl, by decide, by decide, by decide⟩
  | less => exact ⟨comparison, sum, rfl, by decide, by decide, by decide⟩
  | greater => exact ⟨comparison, sum, rfl, by decide, by decide, by decide⟩
  | plus => exact ⟨sum, product, rfl, by decide, by decide, by decide⟩
  | minus => exact ⟨sum, product, rfl, by decide, by decide, by decide⟩
  | asterisk => exact ⟨product, unary, rfl, by decide, by decide, by decide⟩
  | slash => exact ⟨product, unary, rfl, by decide, by decide, by decide⟩

namespace Expr

theorem writtenBy_of_primary {value reading : Expr} {tokens : List Token}
    (derives : (expression .primary reading).Derives tokens) (same : value.beq reading = true) :
    value.WrittenBy tokens :=
  ⟨reading, derives.loosen (by decide), same⟩

theorem writtenBy_unary {token : Token} {operator : Operator} {operand : Expr}
    (canonical : token = .operator operator) (sign : operator = .bang ∨ operator = .minus)
    (written : operand.WrittenBy operand.spelling) :
    (unary token operator operand).WrittenBy (unary token operator operand).spelling := by
  subst canonical
  rcases written with ⟨reading, derives, same⟩
  have application := Phrase.Derives.unary sign (derives.loosen (by decide))
  refine writtenBy_of_primary (.group (application.loosen (by decide))) ?_
  simp only [beq, same, beq_self_eq_true, Bool.and_true]

theorem writtenBy_binary {token : Token} {operator : Operator} {left right : Expr}
    (canonical : token = .operator operator) (binaryOperator : operator ≠ .bang)
    (ofLeft : left.WrittenBy left.spelling) (ofRight : right.WrittenBy right.spelling) :
    (binary token left operator right).WrittenBy (binary token left operator right).spelling := by
  subst canonical
  rcases ofLeft with ⟨leftReading, leftDerives, leftSame⟩
  rcases ofRight with ⟨rightReading, rightDerives, rightSame⟩
  rcases Stratum.exists_of_ne_bang binaryOperator with ⟨stratum, next, step, member, looser, loose⟩
  have application := Phrase.Derives.binary step member
    (leftDerives.loosen (by omega)) (rightDerives.loosen loose)
  have first : Stratum.equality.rank ≤ stratum.rank := by
    cases stratum <;> decide
  refine writtenBy_of_primary (.group (application.loosen first)) ?_
  simp only [beq, leftSame, rightSame, beq_self_eq_true, Bool.and_true]

theorem writtenBy_conditional {token : Token} {condition : Expr} {consequence : Block}
    {alternative : Option Block} (canonical : token = .keyword .ifWord)
    (ofCondition : condition.WrittenBy condition.spelling)
    (ofConsequence : consequence.WrittenBy consequence.spelling)
    (ofAlternative : ∀ block ∈ alternative, block.WrittenBy block.spelling) :
    (conditional token condition consequence alternative).WrittenBy
      (conditional token condition consequence alternative).spelling := by
  subst canonical
  rcases ofCondition with ⟨conditionReading, conditionDerives, conditionSame⟩
  rcases ofConsequence with ⟨reading, derives, same⟩
  have inParentheses : (expression .equality conditionReading).Derives condition.spelling :=
    conditionDerives.loosen (by decide)
  cases alternative with
  | none =>
      rw [spelling, alternativeSpelling, List.append_nil]
      refine writtenBy_of_primary (.conditional inParentheses derives) ?_
      simp only [beq, alternativesBeq, conditionSame, same, beq_self_eq_true, Bool.and_true]
  | some block =>
      rcases ofAlternative block rfl with ⟨blockReading, blockDerives, blockSame⟩
      rw [spelling, alternativeSpelling]
      refine writtenBy_of_primary (.alternative inParentheses derives blockDerives) ?_
      simp only [beq, alternativesBeq, conditionSame, same, blockSame, beq_self_eq_true,
        Bool.and_true]

theorem writtenBy_function {token : Token} {parameters : List Identifier} {body : Block}
    (canonical : token = .keyword .fnWord)
    (names : ∀ parameter ∈ parameters, parameter.Canonical)
    (ofBody : body.WrittenBy body.spelling) :
    (function token parameters body).WrittenBy (function token parameters body).spelling := by
  subst canonical
  rcases ofBody with ⟨reading, derives, same⟩
  have function : (expression .primary (.function (.keyword .fnWord)
      (Phrase.parameters (parameters.map Identifier.name)) reading)).Derives _ :=
    .function derives
  rw [Identifier.parameters_names names, ← Token.commaSeparated_names, List.map_map] at function
  refine writtenBy_of_primary function ?_
  simp only [beq, same, beq_self_eq_true, Bool.and_true]

theorem writtenBy_call {token : Token} {callee : Expr} {values : List Expr}
    (canonical : token = .punctuation .openParen) (ofCallee : callee.WrittenBy callee.spelling)
    (ofArguments :
      argumentsWrittenBy values (Token.commaSeparated (argumentSpellings values))) :
    (call token callee values).WrittenBy (call token callee values).spelling := by
  subst canonical
  rcases ofCallee with ⟨calleeReading, calleeDerives, calleeSame⟩
  rcases ofArguments with ⟨readings, derives, same⟩
  refine ⟨_, .call calleeDerives derives, ?_⟩
  simp only [beq, calleeSame, same, beq_self_eq_true, Bool.and_true]

end Expr

theorem argumentsWrittenBy_cons {value : Expr} {rest : List Expr}
    (ofValue : value.WrittenBy value.spelling)
    (ofRest : argumentsWrittenBy rest (Token.commaSeparated (argumentSpellings rest))) :
    argumentsWrittenBy (value :: rest)
      (Token.commaSeparated (argumentSpellings (value :: rest))) := by
  rcases ofValue with ⟨reading, derives, same⟩
  rcases ofRest with ⟨readings, restDerives, restSame⟩
  have argument : (expression .equality reading).Derives value.spelling :=
    derives.loosen (by decide)
  have equal : argumentsBeq (value :: rest) (reading :: readings) = true := by
    simp only [argumentsBeq, same, restSame, Bool.and_true]
  refine ⟨reading :: readings, ?_, equal⟩
  rw [argumentSpellings]
  cases rest with
  | nil =>
      cases readings with
      | nil =>
          rw [argumentSpellings, Token.commaSeparated_singleton]
          exact .lastArgument argument
      | cons following others => exact absurd restSame (by simp [argumentsBeq])
  | cons next rest =>
      cases readings with
      | nil => exact absurd restSame (by simp [argumentsBeq])
      | cons following others =>
          rw [argumentSpellings, Token.commaSeparated_cons_cons]
          exact .moreArguments argument restDerives

theorem statementsWrittenBy_cons {value : Statement} {rest : List Statement}
    (ofValue : value.WrittenBy value.spelling)
    (ofRest : statementsWrittenBy rest (statementsSpelling rest)) :
    statementsWrittenBy (value :: rest) (statementsSpelling (value :: rest)) := by
  rcases ofValue with ⟨reading, derives, same⟩
  rcases ofRest with ⟨readings, restDerives, restSame⟩
  have equal : statementsBeq (value :: rest) (reading :: readings) = true := by
    simp only [statementsBeq, same, restSame, Bool.and_true]
  refine ⟨reading :: readings, ?_, equal⟩
  have cases_terminator : value.terminator rest = [.punctuation .semicolon] ∨
      value.terminator rest = [] ∧ rest = [] := by
    cases rest with
    | nil => cases value <;> simp [Statement.terminator]
    | cons _ _ => exact .inl (by simp [Statement.terminator])
  rw [statementsSpelling]
  rcases cases_terminator with terminated | ⟨unterminated, rfl⟩
  · rw [terminated, List.append_assoc]
    exact .terminated derives restDerives
  · rw [unterminated, List.append_nil]
    refine .unterminated derives restDerives fun token head => ?_
    cases head

theorem Block.writtenBy_mk {token : Token} {values : List Statement}
    (canonical : token = .punctuation .openBrace)
    (ofStatements : statementsWrittenBy values (statementsSpelling values)) :
    (Block.mk token values).WrittenBy (Block.mk token values).spelling := by
  subst canonical
  rcases ofStatements with ⟨readings, derives, same⟩
  refine ⟨_, .block derives, ?_⟩
  simp only [Block.beq, same, beq_self_eq_true, Bool.and_true]

mutual

/-- A canonical expression is derived from its spelling, up to equality. -/
theorem Expr.writtenBy_spelling (value : Expr) (canonical : value.Canonical) :
    value.WrittenBy value.spelling := by
  cases value with
  | ident identifier =>
      refine Expr.writtenBy_of_primary (.ident identifier.name) ?_
      rw [Expr.beq, ← Identifier.eq_ofToken canonical]
      exact beq_self_eq_true identifier
  | int token value =>
      rcases canonical with ⟨digits, rfl, numeral, written⟩
      refine Expr.writtenBy_of_primary (.int (Decimal.int64?_of_isNumeral numeral written)) ?_
      simp only [Expr.beq, beq_self_eq_true, Bool.and_true]
  | bool token value =>
      rcases canonical with rfl
      cases value with
      | true => exact Expr.writtenBy_of_primary .trueWord (by simp [Expr.beq, Keyword.ofBool])
      | false => exact Expr.writtenBy_of_primary .falseWord (by simp [Expr.beq, Keyword.ofBool])
  | string token text =>
      rcases canonical with ⟨rfl, _⟩
      refine Expr.writtenBy_of_primary (.string text) ?_
      simp only [Expr.beq, beq_self_eq_true, Bool.and_true]
  | unary token operator operand =>
      rcases canonical with ⟨same, sign, ofOperand⟩
      exact Expr.writtenBy_unary same sign (operand.writtenBy_spelling ofOperand)
  | binary token left operator right =>
      rcases canonical with ⟨same, binaryOperator, ofLeft, ofRight⟩
      exact Expr.writtenBy_binary same binaryOperator (left.writtenBy_spelling ofLeft)
        (right.writtenBy_spelling ofRight)
  | conditional token condition consequence alternative =>
      rcases canonical with ⟨same, ofCondition, ofConsequence, ofAlternative⟩
      exact Expr.writtenBy_conditional same (condition.writtenBy_spelling ofCondition)
        (consequence.writtenBy_spelling ofConsequence)
        (alternativeWrittenBy_spelling alternative ofAlternative)
  | function token parameters body =>
      rcases canonical with ⟨same, names, ofBody⟩
      exact Expr.writtenBy_function same names (body.writtenBy_spelling ofBody)
  | call token callee arguments =>
      rcases canonical with ⟨same, ofCallee, ofArguments⟩
      exact Expr.writtenBy_call same (callee.writtenBy_spelling ofCallee)
        (argumentsWrittenBy_spelling arguments ofArguments)

theorem alternativeWrittenBy_spelling (alternative : Option Block)
    (canonical : canonicalAlternative alternative) :
    ∀ block ∈ alternative, block.WrittenBy block.spelling := by
  cases alternative with
  | none => exact fun block none => absurd none (by simp)
  | some block =>
      intro other same
      obtain rfl : block = other := Option.some.inj same
      exact block.writtenBy_spelling canonical

theorem argumentsWrittenBy_spelling (values : List Expr) (canonical : canonicalArguments values) :
    argumentsWrittenBy values (Token.commaSeparated (argumentSpellings values)) := by
  cases values with
  | nil => exact ⟨[], .noArguments, by rw [argumentsBeq]⟩
  | cons value rest =>
      exact argumentsWrittenBy_cons (value.writtenBy_spelling canonical.1)
        (argumentsWrittenBy_spelling rest canonical.2)

theorem Statement.writtenBy_spelling (value : Statement) (canonical : value.Canonical) :
    value.WrittenBy value.spelling := by
  cases value with
  | bind token identifier value =>
      rcases canonical with ⟨rfl, ofIdentifier, ofValue⟩
      rcases value.writtenBy_spelling ofValue with ⟨reading, derives, same⟩
      have inStatement : (expression .equality reading).Derives value.spelling :=
        derives.loosen (by decide)
      refine ⟨_, .bind inStatement, ?_⟩
      rw [← Identifier.eq_ofToken ofIdentifier]
      simp only [Statement.beq, same, beq_self_eq_true, Bool.and_true]
  | result token value =>
      rcases canonical with ⟨rfl, ofValue⟩
      rcases value.writtenBy_spelling ofValue with ⟨reading, derives, same⟩
      have inStatement : (expression .equality reading).Derives value.spelling :=
        derives.loosen (by decide)
      refine ⟨_, .result inStatement, ?_⟩
      simp only [Statement.beq, same, beq_self_eq_true, Bool.and_true]
  | expr token value =>
      rcases value.writtenBy_spelling canonical with ⟨reading, derives, same⟩
      rcases derives.opens with ⟨first, rest, tokens, _⟩
      have inStatement : (expression .equality reading).Derives value.spelling :=
        derives.loosen (by decide)
      rw [tokens] at inStatement
      rw [Statement.spelling, tokens]
      refine ⟨.expr first reading, .expr inStatement, ?_⟩
      rw [Statement.beq, same]

theorem statementsWrittenBy_spelling (values : List Statement)
    (canonical : canonicalStatements values) :
    statementsWrittenBy values (statementsSpelling values) := by
  cases values with
  | nil => exact ⟨[], .noStatements, by rw [statementsBeq]⟩
  | cons value rest =>
      exact statementsWrittenBy_cons (value.writtenBy_spelling canonical.1)
        (statementsWrittenBy_spelling rest canonical.2)

theorem Block.writtenBy_spelling (value : Block) (canonical : value.Canonical) :
    value.WrittenBy value.spelling := by
  cases value with
  | mk token statements =>
      exact Block.writtenBy_mk canonical.1 (statementsWrittenBy_spelling statements canonical.2)

end

end Monkey
