import Monkey.Proofs.Printing.Equality

/-!
# Trees up to their tokens

A change of tokens puts other tokens into a tree and leaves the tree as it is otherwise. Two trees
are equal up to what a change leaves out of the tokens if it makes them the same. That is how the
comparison of trees works: it ignores the tokens of expression statements, at any depth, and nothing
else.
-/

namespace Monkey

/-- What becomes of the tokens of a tree: of those of expression statements, and of all others. -/
structure TokenChange where
  node : Token → Token
  statement : Token → Token

namespace TokenChange

/-- All tokens are erased. -/
def erasing : TokenChange :=
  ⟨fun _ => .eof, fun _ => .eof⟩

/-- Only the tokens of expression statements are erased. -/
def ignoring : TokenChange :=
  ⟨id, fun _ => .eof⟩

@[simp]
theorem ignoring_node (token : Token) : ignoring.node token = token :=
  rfl

@[simp]
theorem ignoring_statement (token : Token) : ignoring.statement token = .eof :=
  rfl

end TokenChange

def Identifier.retoken (change : TokenChange) (identifier : Identifier) : Identifier :=
  ⟨change.node identifier.token, identifier.name⟩

@[simp]
theorem Identifier.retoken_ignoring : Identifier.retoken .ignoring = id :=
  rfl

mutual

def Expr.retoken (change : TokenChange) : Expr → Expr
  | .ident identifier => .ident (identifier.retoken change)
  | .int token value => .int (change.node token) value
  | .bool token value => .bool (change.node token) value
  | .string token text => .string (change.node token) text
  | .unary token operator operand => .unary (change.node token) operator (operand.retoken change)
  | .binary token left operator right =>
      .binary (change.node token) (left.retoken change) operator (right.retoken change)
  | .conditional token condition consequence alternative =>
      .conditional (change.node token) (condition.retoken change) (consequence.retoken change)
        (retokenAlternative change alternative)
  | .function token parameters body =>
      .function (change.node token) (parameters.map (Identifier.retoken change))
        (body.retoken change)
  | .call token callee arguments =>
      .call (change.node token) (callee.retoken change) (retokenArguments change arguments)

def retokenAlternative (change : TokenChange) : Option Block → Option Block
  | none => none
  | some block => some (block.retoken change)

def retokenArguments (change : TokenChange) : List Expr → List Expr
  | [] => []
  | argument :: rest => argument.retoken change :: retokenArguments change rest

def Statement.retoken (change : TokenChange) : Statement → Statement
  | .bind token identifier value =>
      .bind (change.node token) (identifier.retoken change) (value.retoken change)
  | .result token value => .result (change.node token) (value.retoken change)
  | .expr token value => .expr (change.statement token) (value.retoken change)

def retokenStatements (change : TokenChange) : List Statement → List Statement
  | [] => []
  | statement :: rest => statement.retoken change :: retokenStatements change rest

def Block.retoken (change : TokenChange) : Block → Block
  | ⟨token, statements⟩ => ⟨change.node token, retokenStatements change statements⟩

end

def Program.retoken (change : TokenChange) (program : Program) : Program :=
  ⟨retokenStatements change program.statements⟩

/-! ## Equality of trees -/

mutual

/-- Expressions are equal exactly if they are the same without the tokens of expression
statements. -/
theorem Expr.beq_iff {left right : Expr} :
    left.beq right = true ↔ left.retoken .ignoring = right.retoken .ignoring := by
  cases left with
  | ident identifier => cases right <;> simp [Expr.beq, Expr.retoken]
  | int token value => cases right <;> simp [Expr.beq, Expr.retoken]
  | bool token value => cases right <;> simp [Expr.beq, Expr.retoken]
  | string token text => cases right <;> simp [Expr.beq, Expr.retoken]
  | unary token operator operand =>
      cases right <;> simp [Expr.beq, Expr.retoken, @Expr.beq_iff operand, and_assoc]
  | binary token left operator right' =>
      cases right <;> simp [Expr.beq, Expr.retoken, @Expr.beq_iff left, @Expr.beq_iff right',
        and_assoc, and_left_comm]
  | conditional token condition consequence alternative =>
      cases right <;> simp [Expr.beq, Expr.retoken, @Expr.beq_iff condition,
        @Block.beq_iff consequence, @alternativesBeq_iff alternative, and_assoc]
  | function token parameters body =>
      cases right <;> simp [Expr.beq, Expr.retoken, @Block.beq_iff body, and_assoc]
  | call token callee arguments =>
      cases right <;> simp [Expr.beq, Expr.retoken, @Expr.beq_iff callee,
        @argumentsBeq_iff arguments, and_assoc]
termination_by structural left

theorem alternativesBeq_iff {left right : Option Block} :
    alternativesBeq left right = true ↔
      retokenAlternative .ignoring left = retokenAlternative .ignoring right := by
  cases left with
  | none => cases right <;> simp [alternativesBeq, retokenAlternative]
  | some block => cases right <;> simp [alternativesBeq, retokenAlternative, @Block.beq_iff block]
termination_by structural left

theorem argumentsBeq_iff {left right : List Expr} :
    argumentsBeq left right = true ↔
      retokenArguments .ignoring left = retokenArguments .ignoring right := by
  cases left with
  | nil => cases right <;> simp [argumentsBeq, retokenArguments]
  | cons argument rest =>
      cases right <;> simp [argumentsBeq, retokenArguments, @Expr.beq_iff argument,
        @argumentsBeq_iff rest]
termination_by structural left

theorem Statement.beq_iff {left right : Statement} :
    left.beq right = true ↔ left.retoken .ignoring = right.retoken .ignoring := by
  cases left with
  | bind token identifier value =>
      cases right <;> simp [Statement.beq, Statement.retoken, @Expr.beq_iff value, and_assoc]
  | result token value =>
      cases right <;> simp [Statement.beq, Statement.retoken, @Expr.beq_iff value]
  | expr token value =>
      cases right <;> simp [Statement.beq, Statement.retoken, @Expr.beq_iff value]
termination_by structural left

theorem statementsBeq_iff {left right : List Statement} :
    statementsBeq left right = true ↔
      retokenStatements .ignoring left = retokenStatements .ignoring right := by
  cases left with
  | nil => cases right <;> simp [statementsBeq, retokenStatements]
  | cons statement rest =>
      cases right <;> simp [statementsBeq, retokenStatements, @Statement.beq_iff statement,
        @statementsBeq_iff rest]
termination_by structural left

theorem Block.beq_iff {left right : Block} :
    left.beq right = true ↔ left.retoken .ignoring = right.retoken .ignoring := by
  rcases left with ⟨leftToken, statements⟩
  rcases right with ⟨rightToken, others⟩
  simp [Block.beq, Block.retoken, @statementsBeq_iff statements]
termination_by structural left

end

theorem Program.beq_iff {left right : Program} :
    (left == right) = true ↔ left.retoken .ignoring = right.retoken .ignoring :=
  statementsBeq_iff.trans (Program.mk.injEq _ _).to_iff.symm

/-- A comparison is an equivalence if it compares normal forms. -/
theorem equivalence_of_normal {Tree Normal : Type} {compare : Tree → Tree → Bool}
    {normal : Tree → Normal}
    (sound : ∀ {left right}, compare left right = true ↔ normal left = normal right) :
    Equivalence fun left right => compare left right = true where
  refl _ := sound.mpr rfl
  symm same := sound.mpr (sound.mp same).symm
  trans first second := sound.mpr ((sound.mp first).trans (sound.mp second))

end Monkey
