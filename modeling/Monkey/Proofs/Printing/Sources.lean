import Monkey.Proofs.Grammar.Recovery
import Monkey.Proofs.Printing.Equality
import Monkey.Proofs.Printing.Lexed
import Monkey.Proofs.Printing.RoundTrip

/-!
# Trees of program texts

Whatever a program text holds, the tree that is read from it is canonical: the lexer makes only
tokens that can be written, and from such tokens each reader builds nodes that keep the tokens
that belong to them. This holds of the statements that are left after the malformed ones as
well, since recovery drops statements and tokens but makes none.
-/

namespace Monkey

open Parse

namespace Identifier

theorem builds_parse : Identifier.parse.Builds Token.IsLexical Identifier.Canonical := by
  apply Builds.expect_current trivial
  intro token kind lexical
  apply Builds.pure
  cases token with
  | ident name => exact ⟨rfl, lexical⟩
  | _ => simp [Token.kind] at kind

theorem builds_parseMore (budget : Nat) :
    (Identifier.parseMore budget).Builds Token.IsLexical
      fun identifiers => ∀ identifier ∈ identifiers, identifier.Canonical := by
  induction budget with
  | zero => exact .unfinished
  | succ budget ih =>
      unfold Identifier.parseMore
      refine .bind .upcoming fun token _ => ?_
      split
      · refine .bind .advance fun _ _ => .bind builds_parse fun parameter first =>
          .bind ih fun rest others => .pure ?_
        exact List.forall_mem_cons.mpr ⟨first, others⟩
      · exact .bind (.expect _) fun _ _ => .pure (by simp)

theorem builds_parseList (budget : Nat) :
    (Identifier.parseList budget).Builds Token.IsLexical
      fun identifiers => ∀ identifier ∈ identifiers, identifier.Canonical := by
  unfold Identifier.parseList
  refine .bind .upcoming fun token _ => ?_
  split
  · exact .bind .advance fun _ _ => .pure (by simp)
  · refine .bind builds_parse fun parameter first =>
      .bind (builds_parseMore budget) fun rest others => .pure ?_
    exact List.forall_mem_cons.mpr ⟨first, others⟩

end Identifier

namespace Parse

/-- What the readers that share a budget build from tokens that can be written. -/
structure BuildsWithin (budget : Nat) : Prop where
  expr (context : Precedence) :
    (Expr.parse budget context).Builds Token.IsLexical Expr.Canonical
  operators (context : Precedence) {left : Expr} (canonical : left.Canonical) :
    (Expr.parseOperators budget context left).Builds Token.IsLexical Expr.Canonical
  operand : (Expr.parseOperand budget).Builds Token.IsLexical Expr.Canonical
  unary {operator : Operator} (sign : operator = .bang ∨ operator = .minus) :
    (Expr.parseUnary budget operator).Builds Token.IsLexical Expr.Canonical
  group : (Expr.parseGroup budget).Builds Token.IsLexical Expr.Canonical
  conditional : (Expr.parseConditional budget).Builds Token.IsLexical Expr.Canonical
  function : (Expr.parseFunction budget).Builds Token.IsLexical Expr.Canonical
  arguments : (Expr.parseArguments budget).Builds Token.IsLexical canonicalArguments
  moreArguments : (Expr.parseMoreArguments budget).Builds Token.IsLexical canonicalArguments
  statement : (Statement.parse budget).Builds Token.IsLexical Statement.Canonical
  block : (expect (.punctuation .openBrace) >>= fun _ => Block.parse budget).Builds
    Token.IsLexical Block.Canonical
  statements : (Block.parseStatements budget).Builds Token.IsLexical canonicalStatements

namespace BuildsWithin

variable {budget : Nat} (readers : BuildsWithin budget)

include readers

theorem operators_succ (context : Precedence) {left : Expr} (canonical : left.Canonical) :
    (Expr.parseOperators (budget + 1) context left).Builds Token.IsLexical Expr.Canonical := by
  unfold Expr.parseOperators
  refine .bind .upcoming fun token _ => ?_
  split
  · next operator =>
      split
      · next binds =>
          refine .bind .advance fun _ _ => .bind .advance fun _ _ =>
            .bind (readers.expr operator.precedence) fun right ofRight =>
              readers.operators context ⟨rfl, ?_, canonical, ofRight⟩
          rintro rfl
          exact absurd binds (Nat.not_lt_zero _)
      · exact .pure canonical
  · split
    · exact .bind .advance fun _ _ => .bind readers.arguments fun arguments ofArguments =>
        readers.operators context ⟨rfl, canonical, ofArguments⟩
    · exact .pure canonical
  · exact .pure canonical

theorem operand_succ :
    (Expr.parseOperand (budget + 1)).Builds Token.IsLexical Expr.Canonical := by
  unfold Expr.parseOperand
  refine .bind (.current trivial) fun token lexical => ?_
  split
  · exact .pure ⟨rfl, lexical⟩
  · next digits =>
      split
      · next value read =>
          exact .pure ⟨digits, rfl, lexical, Decimal.accumulate_of_int64? lexical read⟩
      · exact .fail _
  · exact .pure ⟨rfl, lexical⟩
  · exact .pure rfl
  · exact .pure rfl
  · exact readers.unary (.inl rfl)
  · exact readers.unary (.inr rfl)
  · exact readers.group
  · exact readers.conditional
  · exact readers.function
  · exact .fail _

theorem conditional_succ :
    (Expr.parseConditional (budget + 1)).Builds Token.IsLexical Expr.Canonical := by
  unfold Expr.parseConditional
  refine .bind (.expect _) fun _ _ => .bind .advance fun _ _ =>
    .bind (readers.expr .lowest) fun condition ofCondition => .bind (.expect _) fun _ _ =>
      .bind_after readers.block fun consequence ofConsequence => .bind .upcoming fun token _ => ?_
  split
  · exact .bind .advance fun _ _ => .bind_after readers.block fun alternative ofAlternative =>
      .pure ⟨rfl, ofCondition, ofConsequence, ofAlternative⟩
  · exact .pure ⟨rfl, ofCondition, ofConsequence, trivial⟩

theorem function_succ :
    (Expr.parseFunction (budget + 1)).Builds Token.IsLexical Expr.Canonical := by
  unfold Expr.parseFunction
  exact .bind (.expect _) fun _ _ =>
    .bind (Identifier.builds_parseList budget) fun parameters ofParameters =>
      .bind_after readers.block fun body ofBody => .pure ⟨rfl, ofParameters, ofBody⟩

theorem arguments_succ :
    (Expr.parseArguments (budget + 1)).Builds Token.IsLexical canonicalArguments := by
  unfold Expr.parseArguments
  refine .bind .upcoming fun token _ => ?_
  split
  · exact .bind .advance fun _ _ => .pure trivial
  · exact .bind .advance fun _ _ => .bind (readers.expr .lowest) fun argument first =>
      .bind readers.moreArguments fun rest others => .pure ⟨first, others⟩

theorem moreArguments_succ :
    (Expr.parseMoreArguments (budget + 1)).Builds Token.IsLexical canonicalArguments := by
  unfold Expr.parseMoreArguments
  refine .bind .upcoming fun token _ => ?_
  split
  · exact .bind .advance fun _ _ => .bind .advance fun _ _ =>
      .bind (readers.expr .lowest) fun argument first =>
        .bind readers.moreArguments fun rest others => .pure ⟨first, others⟩
  · exact .bind (.expect _) fun _ _ => .pure trivial

theorem statement_succ :
    (Statement.parse (budget + 1)).Builds Token.IsLexical Statement.Canonical := by
  unfold Statement.parse
  refine .bind (.current trivial) fun token _ => ?_
  split
  · exact .bind Identifier.builds_parse fun identifier ofIdentifier =>
      .bind (.expect _) fun _ _ => .bind .advance fun _ _ =>
        .bind (readers.expr .lowest) fun value ofValue => .bind (.skipOptional _) fun _ _ =>
          .pure ⟨rfl, ofIdentifier, ofValue⟩
  · exact .bind .advance fun _ _ => .bind (readers.expr .lowest) fun value ofValue =>
      .bind (.skipOptional _) fun _ _ => .pure ⟨rfl, ofValue⟩
  · exact .bind (readers.expr .lowest) fun value ofValue =>
      .bind (.skipOptional _) fun _ _ => .pure ofValue

theorem block_succ :
    (expect (.punctuation .openBrace) >>= fun _ => Block.parse (budget + 1)).Builds
      Token.IsLexical Block.Canonical := by
  unfold Block.parse
  refine .expect_current trivial fun token kind _ => .bind .advance fun _ _ =>
    .bind readers.statements fun statements ofStatements => .bind (.current trivial) fun _ _ => ?_
  split
  · exact .pure ⟨Token.eq_of_kind_punctuation kind, ofStatements⟩
  · exact .fail _

theorem statements_succ :
    (Block.parseStatements (budget + 1)).Builds Token.IsLexical canonicalStatements := by
  unfold Block.parseStatements
  refine .bind (.current trivial) fun token _ => ?_
  split
  · exact .pure trivial
  · exact .pure trivial
  · refine .bind (.attempt readers.statement) fun attempted ofAttempted => ?_
    split
    · next statement =>
        exact .bind .advance fun _ _ => .bind readers.statements fun rest ofRest =>
          .pure ⟨ofAttempted statement rfl, ofRest⟩
    · refine .bind (.skipTo _) fun _ _ => .bind (.current trivial) fun _ _ => ?_
      split
      · exact .pure trivial
      · exact .bind .advance fun _ _ => readers.statements

end BuildsWithin

/-- By induction on the budget, since every reader calls the others with a smaller one. -/
theorem buildsWithin (budget : Nat) : BuildsWithin budget := by
  induction budget with
  | zero =>
      refine ⟨fun _ => ?_, fun _ _ _ => ?_, ?_, fun _ => ?_, ?_, ?_, ?_, ?_, ?_, ?_, ?_, ?_⟩
      case refine_11 => exact .bind (.expect _) fun _ _ => .unfinished
      all_goals exact .unfinished
  | succ budget readers =>
      exact {
        expr := fun context => .bind readers.operand fun _ => readers.operators context
        operators := readers.operators_succ
        operand := readers.operand_succ
        unary := fun sign => .bind .advance fun _ _ =>
          .bind (readers.expr .unary) fun _ ofOperand => .pure ⟨rfl, sign, ofOperand⟩
        group := .bind .advance fun _ _ => .bind (readers.expr .lowest) fun _ ofValue =>
          .bind (.expect _) fun _ _ => .pure ofValue
        conditional := readers.conditional_succ
        function := readers.function_succ
        arguments := readers.arguments_succ
        moreArguments := readers.moreArguments_succ
        statement := readers.statement_succ
        block := readers.block_succ
        statements := readers.statements_succ }

theorem builds_parseStatements (budget : Nat) :
    (Program.parseStatements budget).Builds Token.IsLexical canonicalStatements := by
  induction budget with
  | zero => exact .unfinished
  | succ budget ih =>
      unfold Program.parseStatements
      refine .bind (.current trivial) fun token _ => ?_
      split
      · exact .pure trivial
      · refine .bind (.attempt (buildsWithin budget).statement) fun attempted ofAttempted => ?_
        split
        · next statement =>
            exact .bind .advance fun _ _ => .bind ih fun rest ofRest =>
              .pure ⟨ofAttempted statement rfl, ofRest⟩
        · exact .bind (.skipTo _) fun _ _ => .bind .advance fun _ _ => ih

end Parse

namespace Program

/-- What is read from tokens that can be written is canonical, whatever the diagnostics. -/
theorem canonical_parse {tokens : List Token} (lexical : ∀ token ∈ tokens, token.IsLexical) :
    (Program.parse tokens).program.Canonical := by
  have keeps := builds_parseStatements (parseBudget tokens) ⟨tokens, []⟩ lexical
  unfold Program.parse
  cases outcome : Program.parseStatements (parseBudget tokens) ⟨tokens, []⟩ with
  | parsed statements stop =>
      rw [outcome] at keeps
      exact keeps.2
  | failed stop => trivial
  | unfinished => trivial

theorem canonical_ofSource (source : String) : (Program.ofSource source).program.Canonical :=
  canonical_parse fun _ => Token.isLexical_of_mem_ofSource

/-- What is read from a text, with diagnostics or without, is canonical, so its print is read
without a diagnostic as an equal program, whose print is the same. -/
theorem ofSource_roundTrips (source : String) :
    (Program.ofSource source).program.Canonical ∧
      let text := (Program.ofSource source).program.print
      (Program.ofSource text).diagnostics = [] ∧
        ((Program.ofSource source).program == (Program.ofSource text).program) = true ∧
        (Program.ofSource text).program.print = text := by
  have canonical := canonical_ofSource source
  rcases exists_ofSource_print canonical with ⟨reading, parsed, same⟩
  simp only [parsed]
  exact ⟨canonical, trivial, same, (print_eq_of_beq same).symm⟩

end Program

end Monkey
