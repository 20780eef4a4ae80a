import Monkey.Program.Parser

/-!
# The grammar of programs

Which token lists are programs, and which tree each of them stands for, said without a reader.
Expressions are layered: the operators of a stratum group to the left and take operands of the
next tighter stratum on their right, and the parentheses of a group leave no node in the tree.

A statement may do without its semicolon only where the token after it could not be taken for
its continuation. That is the one place where the grammar looks ahead.
-/

namespace Monkey

/-- A layer of the expression grammar, the loosest one first. -/
inductive Stratum where
  | equality
  | comparison
  | sum
  | product
  | unary
  | application
  | primary
  deriving DecidableEq

namespace Stratum

/-- The operators that stand between two operands in a stratum. -/
def operators : Stratum → List Operator
  | equality => [.equal, .notEqual]
  | comparison => [.less, .greater]
  | sum => [.plus, .minus]
  | product => [.asterisk, .slash]
  | _ => []

/-- The next tighter stratum. -/
def tighter? : Stratum → Option Stratum
  | equality => some comparison
  | comparison => some sum
  | sum => some product
  | product => some unary
  | unary => some application
  | application => some primary
  | primary => none

/-- The position of a stratum in the order of binding strength. -/
def rank : Stratum → Nat
  | equality => 1
  | comparison => 2
  | sum => 3
  | product => 4
  | unary => 5
  | application => 6
  | primary => 7

theorem rank_of_tighter? {stratum next : Stratum} (step : stratum.tighter? = some next) :
    next.rank = stratum.rank + 1 := by
  cases stratum <;> simp only [tighter?, Option.some.injEq, reduceCtorEq] at step <;>
    subst next <;> rfl

theorem eq_of_rank_eq {left right : Stratum} (same : left.rank = right.rank) : left = right := by
  cases left <;> cases right <;> first | rfl | simp [rank] at same

theorem exists_tighter {loose tight : Stratum} (looser : loose.rank < tight.rank) :
    ∃ next, loose.tighter? = some next := by
  cases loose with
  | primary => cases tight <;> simp [rank] at looser
  | _ => exact ⟨_, rfl⟩

theorem level_of_mem_operators {stratum : Stratum} {operator : Operator}
    (member : operator ∈ stratum.operators) : operator.precedence.level = stratum.rank := by
  cases stratum <;> simp only [operators, List.mem_cons, List.not_mem_nil, or_false] at member <;>
    rcases member with rfl | rfl <;> rfl

end Stratum

/-- Whether a token after an expression could be read as a continuation of a statement: its
terminator, the parenthesis of a call, or an operator between operands. -/
def Token.continuesStatement : Token → Bool
  | .punctuation .semicolon => true
  | .punctuation .openParen => true
  | .operator sign => sign != .bang
  | _ => false

/-- Whether an expression can start with a token. -/
def Token.startsExpression : Token → Bool
  | .ident _ => true
  | .int _ => true
  | .string _ => true
  | .operator sign => sign == .bang || sign == .minus
  | .punctuation mark => mark == .openParen
  | .keyword word => word == .trueWord || word == .falseWord || word == .ifWord || word == .fnWord
  | _ => false

/-- Whether a statement can start with a token. -/
def Token.startsStatement (token : Token) : Bool :=
  token.startsExpression || token == .keyword .letWord || token == .keyword .returnWord

/-- What the grammar derives from tokens. -/
inductive Phrase where
  | expression (stratum : Stratum) (value : Expr)
  | arguments (values : List Expr)
  | statement (value : Statement)
  | statements (values : List Statement)
  | block (value : Block)

/-- The tokens of a list of names with commas between them. -/
def Phrase.parameterTokens (names : List String) : List Token :=
  (names.map Token.ident).intersperse (.punctuation .comma)

/-- The parameters that stand for a list of names. -/
def Phrase.parameters (names : List String) : List Identifier :=
  names.map fun name => .ofToken (.ident name)

open Phrase

/-- The grammar: the token lists that stand for a phrase. The phrase `statement` leaves out the
semicolon, which belongs to the row of statements that it stands in. -/
inductive Phrase.Derives : Phrase → List Token → Prop where
  | tighter {stratum next : Stratum} {value : Expr} {tokens : List Token}
      (step : stratum.tighter? = some next)
      (inner : Derives (expression next value) tokens) :
      Derives (expression stratum value) tokens
  | binary {stratum next : Stratum} {operator : Operator} {left right : Expr}
      {leftTokens rightTokens : List Token}
      (step : stratum.tighter? = some next) (member : operator ∈ stratum.operators)
      (ofLeft : Derives (expression stratum left) leftTokens)
      (ofRight : Derives (expression next right) rightTokens) :
      Derives (expression stratum (.binary (.operator operator) left operator right))
        (leftTokens ++ .operator operator :: rightTokens)
  | unary {operator : Operator} {operand : Expr} {tokens : List Token}
      (sign : operator = .bang ∨ operator = .minus)
      (ofOperand : Derives (expression .unary operand) tokens) :
      Derives (expression .unary (.unary (.operator operator) operator operand))
        (.operator operator :: tokens)
  | call {callee : Expr} {values : List Expr} {calleeTokens tokens : List Token}
      (ofCallee : Derives (expression .application callee) calleeTokens)
      (ofArguments : Derives (arguments values) tokens) :
      Derives (expression .application (.call (.punctuation .openParen) callee values))
        (calleeTokens ++ .punctuation .openParen :: (tokens ++ [.punctuation .closeParen]))
  | ident (name : String) :
      Derives (expression .primary (.ident (.ofToken (.ident name)))) [.ident name]
  | int {digits : String} {value : Int64} (written : Decimal.int64? digits = some value) :
      Derives (expression .primary (.int (.int digits) value)) [.int digits]
  | string (text : String) :
      Derives (expression .primary (.string (.string text) text)) [.string text]
  | trueWord : Derives (expression .primary (.bool (.keyword .trueWord) true)) [.keyword .trueWord]
  | falseWord :
      Derives (expression .primary (.bool (.keyword .falseWord) false)) [.keyword .falseWord]
  | group {value : Expr} {tokens : List Token}
      (inner : Derives (expression .equality value) tokens) :
      Derives (expression .primary value)
        (.punctuation .openParen :: (tokens ++ [.punctuation .closeParen]))
  | conditional {condition : Expr} {consequence : Block} {conditionTokens tokens : List Token}
      (ofCondition : Derives (expression .equality condition) conditionTokens)
      (ofConsequence : Derives (block consequence) tokens) :
      Derives (expression .primary (.conditional (.keyword .ifWord) condition consequence none))
        (.keyword .ifWord :: .punctuation .openParen ::
          (conditionTokens ++ .punctuation .closeParen :: tokens))
  | alternative {condition : Expr} {consequence alternative : Block}
      {conditionTokens tokens alternativeTokens : List Token}
      (ofCondition : Derives (expression .equality condition) conditionTokens)
      (ofConsequence : Derives (block consequence) tokens)
      (ofAlternative : Derives (block alternative) alternativeTokens) :
      Derives
        (expression .primary
          (.conditional (.keyword .ifWord) condition consequence (some alternative)))
        (.keyword .ifWord :: .punctuation .openParen ::
          (conditionTokens ++ .punctuation .closeParen ::
            (tokens ++ .keyword .elseWord :: alternativeTokens)))
  | function {names : List String} {body : Block} {tokens : List Token}
      (ofBody : Derives (block body) tokens) :
      Derives (expression .primary (.function (.keyword .fnWord) (parameters names) body))
        (.keyword .fnWord :: .punctuation .openParen ::
          (parameterTokens names ++ .punctuation .closeParen :: tokens))
  | noArguments : Derives (arguments []) []
  | lastArgument {value : Expr} {tokens : List Token}
      (ofValue : Derives (expression .equality value) tokens) :
      Derives (arguments [value]) tokens
  | moreArguments {value following : Expr} {values : List Expr}
      {valueTokens tokens : List Token}
      (ofValue : Derives (expression .equality value) valueTokens)
      (ofRest : Derives (arguments (following :: values)) tokens) :
      Derives (arguments (value :: following :: values))
        (valueTokens ++ .punctuation .comma :: tokens)
  | bind {name : String} {value : Expr} {tokens : List Token}
      (ofValue : Derives (expression .equality value) tokens) :
      Derives (statement (.bind (.keyword .letWord) (.ofToken (.ident name)) value))
        (.keyword .letWord :: .ident name :: .punctuation .assign :: tokens)
  | result {value : Expr} {tokens : List Token}
      (ofValue : Derives (expression .equality value) tokens) :
      Derives (statement (.result (.keyword .returnWord) value)) (.keyword .returnWord :: tokens)
  | expr {value : Expr} {first : Token} {tokens : List Token}
      (ofValue : Derives (expression .equality value) (first :: tokens)) :
      Derives (statement (.expr first value)) (first :: tokens)
  | noStatements : Derives (statements []) []
  | terminated {value : Statement} {values : List Statement} {valueTokens tokens : List Token}
      (ofValue : Derives (statement value) valueTokens)
      (ofRest : Derives (statements values) tokens) :
      Derives (statements (value :: values)) (valueTokens ++ .punctuation .semicolon :: tokens)
  | unterminated {value : Statement} {values : List Statement} {valueTokens tokens : List Token}
      (ofValue : Derives (statement value) valueTokens)
      (ofRest : Derives (statements values) tokens)
      (apart : ∀ token ∈ tokens.head?, token.continuesStatement = false) :
      Derives (statements (value :: values)) (valueTokens ++ tokens)
  | block {values : List Statement} {tokens : List Token}
      (ofStatements : Derives (statements values) tokens) :
      Derives (block ⟨.punctuation .openBrace, values⟩)
        (.punctuation .openBrace :: (tokens ++ [.punctuation .closeBrace]))

/-- What the grammar fixes about the first token of a phrase. -/
def Phrase.Opens : Phrase → List Token → Prop
  | expression _ _, tokens => ∃ first rest, tokens = first :: rest ∧ first.startsExpression = true
  | arguments values, tokens =>
      values ≠ [] → ∃ first rest, tokens = first :: rest ∧ first.startsExpression = true
  | statement _, tokens => ∃ first rest, tokens = first :: rest ∧ first.startsStatement = true
  | statements _, tokens => ∀ first ∈ tokens.head?, first.startsStatement = true
  | block _, _ => True

namespace Phrase.Derives

theorem opens {phrase : Phrase} {tokens : List Token} (derives : phrase.Derives tokens) :
    phrase.Opens tokens := by
  induction derives with
  | tighter _ _ ih => exact ih
  | binary _ _ _ _ ihLeft _ =>
      obtain ⟨first, rest, rfl, starts⟩ := ihLeft
      exact ⟨first, _, rfl, starts⟩
  | unary sign _ _ => rcases sign with rfl | rfl <;> exact ⟨_, _, rfl, rfl⟩
  | call _ _ ihCallee _ =>
      obtain ⟨first, rest, rfl, starts⟩ := ihCallee
      exact ⟨first, _, rfl, starts⟩
  | noArguments => exact fun some => absurd rfl some
  | lastArgument _ ih => exact fun _ => ih
  | moreArguments _ _ ih _ =>
      obtain ⟨first, rest, rfl, starts⟩ := ih
      exact fun _ => ⟨first, _, rfl, starts⟩
  | bind _ _ => exact ⟨_, _, rfl, rfl⟩
  | result _ _ => exact ⟨_, _, rfl, rfl⟩
  | expr _ ih =>
      obtain ⟨first, rest, same, starts⟩ := ih
      exact ⟨first, rest, same, by rw [Token.startsStatement, starts]; rfl⟩
  | noStatements => exact fun _ none => by simp at none
  | terminated _ _ ih _ =>
      obtain ⟨first, rest, rfl, starts⟩ := ih
      intro token head
      obtain rfl : first = token := by simpa using head
      exact starts
  | unterminated _ _ _ ih _ =>
      obtain ⟨first, rest, rfl, starts⟩ := ih
      intro token head
      obtain rfl : first = token := by simpa using head
      exact starts
  | block _ _ => trivial
  | _ => exact ⟨_, _, rfl, rfl⟩

/-- What stands in a tight stratum also stands in a looser one. -/
theorem loosen {tight loose : Stratum} {value : Expr} {tokens : List Token}
    (derives : (expression tight value).Derives tokens) (looser : loose.rank ≤ tight.rank) :
    (expression loose value).Derives tokens := by
  rcases Nat.eq_or_lt_of_le looser with same | lower
  · rwa [Stratum.eq_of_rank_eq same]
  · obtain ⟨next, step⟩ := Stratum.exists_tighter lower
    have position := Stratum.rank_of_tighter? step
    exact .tighter step (derives.loosen (by omega))
termination_by tight.rank - loose.rank

end Phrase.Derives

end Monkey
