import Monkey.Proofs.Grammar.Basic
import Monkey.Proofs.Grammar.Reading

/-!
# What is read derives from the grammar

Reading by binding strength keeps one invariant: the expression read so far derives in a stratum
that is at least as tight as the next token binds, and at least as tight as the context asks for.
So an operator that follows finds its left operand in its own stratum, and what is read behind it,
in the context of that operator, derives in the next tighter one.
-/

namespace Monkey

open Phrase Parse

/-- The stratum of the expressions that are read in a context. -/
def Precedence.stratum : Precedence → Stratum
  | lowest => .equality
  | equality => .comparison
  | comparison => .sum
  | sum => .product
  | _ => .unary

namespace Precedence

theorem stratum_rank_le (context : Precedence) :
    context.stratum.rank ≤ context.level + 1 ∧ context.stratum.rank ≤ 5 := by
  cases context <;> decide

theorem level_le (context : Precedence) : context.level ≤ 6 := by
  cases context <;> decide

end Precedence

/-- An operator that binds at all between operands has a stratum of its own, and what is read in
its context stands in the next tighter one. -/
theorem Operator.exists_stratum {operator : Operator} (binds : 0 < operator.precedence.level) :
    ∃ stratum : Stratum, operator ∈ stratum.operators ∧
      stratum.tighter? = some operator.precedence.stratum := by
  cases operator with
  | bang => exact absurd binds (by decide)
  | minus => exact ⟨.sum, by decide, rfl⟩
  | plus => exact ⟨.sum, by decide, rfl⟩
  | asterisk => exact ⟨.product, by decide, rfl⟩
  | slash => exact ⟨.product, by decide, rfl⟩
  | less => exact ⟨.comparison, by decide, rfl⟩
  | greater => exact ⟨.comparison, by decide, rfl⟩
  | equal => exact ⟨.equality, by decide, rfl⟩
  | notEqual => exact ⟨.equality, by decide, rfl⟩

/-- A token that does not bind more strongly than the loosest context starts no continuation but
the semicolon. -/
theorem Token.continuesStatement_eq_false {token : Token}
    (loose : ¬Precedence.lowest < token.precedence)
    (other : token.kind ≠ .punctuation .semicolon) : token.continuesStatement = false := by
  cases token with
  | operator sign =>
      cases sign <;> first | rfl | exact absurd (by decide) loose
  | punctuation mark =>
      cases mark <;> first | rfl | exact absurd rfl other | exact absurd (by decide) loose
  | _ => rfl

theorem Token.eq_of_kind_punctuation {token : Token} {mark : Punctuation}
    (same : token.kind = .punctuation mark) : token = .punctuation mark := by
  cases token <;> simp only [Token.kind, reduceCtorEq, Kind.punctuation.injEq] at same
  rw [same]

/-! ## Parameters -/

theorem Phrase.parameterTokens_cons (name : String) (names : List String) :
    parameterTokens (name :: names) =
      .ident name :: names.flatMap fun name => [.punctuation .comma, .ident name] := by
  induction names generalizing name with
  | nil => rfl
  | cons following names ih =>
      have rest := ih following
      simp only [parameterTokens, List.map_cons, List.intersperse_cons_cons, List.flatMap_cons,
        List.cons_append, List.nil_append] at rest ⊢
      rw [rest]

namespace Identifier

theorem reads_parse :
    Identifier.parse.Reads fun before identifier after =>
      ∃ name, identifier = .ofToken (.ident name) ∧ before.tail = .ident name :: after.tail := by
  refine .bind (.expect .ident) fun _ => .bind .current fun token => (Reads.pure _).mono ?_
  rintro _ identifier after ⟨rfl, rfl⟩ middle ⟨rfl, rfl⟩ before ⟨kind, rfl⟩
  cases found : before.tail.headD .eof with
  | ident name => exact ⟨name, rfl, eq_cons_of_headD found (by simp)⟩
  | _ => rw [found] at kind; simp [Token.kind] at kind

theorem reads_parseMore (budget : Nat) :
    (Identifier.parseMore budget).Reads fun before identifiers after =>
      ∃ names, identifiers = parameters names ∧
        before.tail =
          (names.flatMap fun name => [.punctuation .comma, .ident name]) ++
            .punctuation .closeParen :: after.tail := by
  induction budget with
  | zero => exact .unfinished
  | succ budget ih =>
      unfold Identifier.parseMore
      refine .bind .upcoming fun token => ?_
      split
      · refine .bind .advance fun _ => .bind reads_parse fun parameter => .bind ih fun rest =>
          (Reads.pure _).mono ?_
        rintro last _ after ⟨rfl, rfl⟩ middle ⟨names, rfl, more⟩ start ⟨name, rfl, one⟩ _ rfl
          before ⟨comma, rfl⟩
        refine ⟨name :: names, rfl, ?_⟩
        rw [eq_cons_of_headD comma.symm (by simp), one, more]
        rfl
      · refine .bind (.expect _) fun _ => (Reads.pure _).mono ?_
        rintro _ _ after ⟨rfl, rfl⟩ middle ⟨close, rfl⟩ before ⟨_, rfl⟩
        exact ⟨[], rfl, eq_cons_of_headD (Token.eq_of_kind_punctuation close) (by simp)⟩

theorem reads_parseList (budget : Nat) :
    (Identifier.parseList budget).Reads fun before identifiers after =>
      ∃ names, identifiers = parameters names ∧
        before.tail = parameterTokens names ++ .punctuation .closeParen :: after.tail := by
  unfold Identifier.parseList
  refine .bind .upcoming fun token => ?_
  split
  · refine .bind .advance fun _ => (Reads.pure _).mono ?_
    rintro _ _ after ⟨rfl, rfl⟩ middle rfl before ⟨close, rfl⟩
    exact ⟨[], rfl, eq_cons_of_headD close.symm (by simp)⟩
  · refine .bind reads_parse fun parameter => .bind (reads_parseMore budget) fun rest =>
      (Reads.pure _).mono ?_
    rintro last _ after ⟨rfl, rfl⟩ middle ⟨names, rfl, more⟩ start ⟨name, rfl, one⟩ before ⟨_, rfl⟩
    exact ⟨name :: names, rfl, by rw [parameterTokens_cons, one, more]; rfl⟩

end Identifier

/-! ## The conditions of the readers -/

namespace Parse

/-- A reader of expressions in a context stops before a token that binds no more strongly than
the context. -/
def ExprCondition (context : Precedence) : Condition Expr := fun before value after =>
  ∃ tokens, before = tokens ++ after.tail ∧
    (expression context.stratum value).Derives tokens ∧
      ¬context < (after.tail.headD .eof).precedence

/-- An operand derives in a stratum at least as tight as the next token binds. -/
def OperandCondition : Condition Expr := fun before value after =>
  ∃ stratum tokens, before = tokens ++ after.tail ∧
    (expression stratum value).Derives tokens ∧ Stratum.unary.rank ≤ stratum.rank ∧
      (after.tail.headD .eof).precedence.level ≤ stratum.rank

/-- What extends an expression that was read before. -/
def OperatorsCondition (context : Precedence) (left : Expr) : Condition Expr :=
  fun before value after =>
    ∀ stratum leftTokens, (expression stratum left).Derives leftTokens →
      context.stratum.rank ≤ stratum.rank →
        (before.tail.headD .eof).precedence.level ≤ stratum.rank →
          ∃ tokens, before.tail = tokens ++ after.tail ∧
            (expression context.stratum value).Derives (leftTokens ++ tokens) ∧
              ¬context < (after.tail.headD .eof).precedence

/-- A form that starts with a token of its own derives as a primary expression. -/
def PrimaryCondition (first : Token) : Condition Expr := fun before value after =>
  ∃ tokens, before.tail = tokens ++ after.tail ∧
    (expression .primary value).Derives (first :: tokens)

def ArgumentsCondition : Condition (List Expr) := fun before values after =>
  ∃ tokens, before.tail = tokens ++ .punctuation .closeParen :: after.tail ∧
    (arguments values).Derives tokens

/-- The arguments after one that was read before. -/
def MoreArgumentsCondition : Condition (List Expr) := fun before values after =>
  ∀ value valueTokens, (expression .equality value).Derives valueTokens →
    ∃ tokens, before.tail = tokens ++ .punctuation .closeParen :: after.tail ∧
      (arguments (value :: values)).Derives (valueTokens ++ tokens)

/-- A statement either takes its semicolon with it or stops before a token that cannot continue
it. -/
def StatementCondition : Condition Statement := fun before value after =>
  ∃ tokens, (statement value).Derives tokens ∧
    (before = tokens ++ .punctuation .semicolon :: after.tail ∨
      before = tokens ++ after.tail ∧
        (after.tail.headD .eof).continuesStatement = false)

def BlockCondition : Condition Block := fun before value after =>
  before.headD .eof = .punctuation .openBrace →
    ∃ tokens, before = tokens ++ after.tail ∧ (block value).Derives tokens

/-- The statements of a row stop on the token that ends the row. -/
def StatementsCondition : Condition (List Statement) := fun before values after =>
  ∃ tokens, before = tokens ++ after ∧ (statements values).Derives tokens

/-- The conditions of all readers that share a budget. -/
structure ReadsWithin (budget : Nat) : Prop where
  expr (context : Precedence) : (Expr.parse budget context).Reads (ExprCondition context)
  operators (context : Precedence) (left : Expr) :
    (Expr.parseOperators budget context left).Reads (OperatorsCondition context left)
  operand : (Expr.parseOperand budget).Reads OperandCondition
  unary {operator : Operator} (sign : operator = .bang ∨ operator = .minus) :
    (Expr.parseUnary budget operator).Reads fun before value after =>
      ∃ tokens, before.tail = tokens ++ after.tail ∧
        (expression .unary value).Derives (.operator operator :: tokens) ∧
          ¬Precedence.unary < (after.tail.headD .eof).precedence
  group : (Expr.parseGroup budget).Reads (PrimaryCondition (.punctuation .openParen))
  conditional : (Expr.parseConditional budget).Reads (PrimaryCondition (.keyword .ifWord))
  function : (Expr.parseFunction budget).Reads (PrimaryCondition (.keyword .fnWord))
  arguments : (Expr.parseArguments budget).Reads ArgumentsCondition
  moreArguments : (Expr.parseMoreArguments budget).Reads MoreArgumentsCondition
  statement : (Statement.parse budget).Reads StatementCondition
  block : (Block.parse budget).Reads BlockCondition
  statements : (Block.parseStatements budget).Reads StatementsCondition

namespace ReadsWithin

variable {budget : Nat} {context : Precedence} {left : Expr}

/-! ## Expressions -/

theorem expr_succ (readers : ReadsWithin budget) :
    (Expr.parse (budget + 1) context).Reads (ExprCondition context) := by
  unfold Expr.parse
  apply Reads.bind readers.operand
  intro operand
  apply (readers.operators context operand).mono
  intro middle value after extends_ before condition
  rcases condition with ⟨stratum, tokens, split, derives, tight, next⟩
  have room : context.stratum.rank ≤ stratum.rank := by
    have := context.stratum_rank_le
    simp only [Stratum.rank] at tight this ⊢
    omega
  rcases extends_ stratum tokens derives room next with ⟨more, splitMore, derivesAll, stops⟩
  refine ⟨tokens ++ more, ?_, derivesAll, stops⟩
  rw [split, splitMore, List.append_assoc]

/-- An expression that nothing extends stands for itself. -/
theorem operators_stop {before : List Token}
    (stops : ¬context < (before.tail.headD .eof).precedence) :
    OperatorsCondition context left before left before := by
  intro stratum leftTokens derives room _
  refine ⟨[], rfl, ?_, stops⟩
  rw [List.append_nil]
  exact derives.loosen room

theorem operators_return {token : Token} (stops : ¬context < token.precedence) :
    (Pure.pure left : Parse Expr).Reads fun middle value after =>
      ∀ before, token = before.tail.headD .eof ∧ middle = before →
        OperatorsCondition context left before value after := by
  apply (Reads.pure left).mono
  intro middle value after result before upcoming
  rcases result with ⟨rfl, rfl⟩
  rcases upcoming with ⟨upcoming, rfl⟩
  apply operators_stop
  rwa [← upcoming]

/-- An operator that binds takes what is read before it as its left operand. -/
theorem operators_operator {operator : Operator} {right value : Expr}
    {before middle after : List Token} (binds : context < operator.precedence)
    (upcoming : before.tail.headD .eof = .operator operator)
    (ofRight : ExprCondition operator.precedence before.tail.tail right middle)
    (more : OperatorsCondition context (.binary (.operator operator) left operator right)
      middle value after) :
    OperatorsCondition context left before value after := by
  intro stratum leftTokens derives room next
  rcases ofRight with ⟨rightTokens, splitRight, ofRight, stops⟩
  rw [upcoming] at next
  have loose : operator.precedence.level ≤ stratum.rank := next
  have positive : 0 < operator.precedence.level := Nat.lt_of_le_of_lt (Nat.zero_le _) binds
  rcases Operator.exists_stratum positive with ⟨own, member, step⟩
  have position := Stratum.level_of_mem_operators member
  have ofLeft : (expression own left).Derives leftTokens := derives.loosen (by omega)
  have bound := context.stratum_rank_le
  have below : context.level < operator.precedence.level := binds
  have stopsBelow : ¬operator.precedence.level < _ := stops
  rcases more own _ (.binary step member ofLeft ofRight) (by omega) (by omega) with
    ⟨tokens, splitMore, ofWhole, stopsAfter⟩
  refine ⟨.operator operator :: rightTokens ++ tokens, ?_, ?_, stopsAfter⟩
  · rw [eq_cons_of_headD upcoming (by simp), splitRight, splitMore]
    simp only [List.cons_append, List.append_assoc]
  · simpa only [List.append_assoc, List.cons_append] using ofWhole

/-- An opening parenthesis that binds makes what is read before it a callee. -/
theorem operators_call {values : List Expr} {value : Expr} {before middle after : List Token}
    (upcoming : before.tail.headD .eof = .punctuation .openParen)
    (ofArguments : ArgumentsCondition before.tail values middle)
    (more : OperatorsCondition context (.call (.punctuation .openParen) left values)
      middle value after) :
    OperatorsCondition context left before value after := by
  intro stratum leftTokens derives room next
  rcases ofArguments with ⟨argumentTokens, splitArguments, ofArguments⟩
  rw [upcoming] at next
  have callee : Stratum.application.rank ≤ stratum.rank := next
  have ofCallee := derives.loosen callee
  have bound := context.stratum_rank_le
  have strongest := (middle.tail.headD .eof).precedence.level_le
  rcases more .application _ (.call ofCallee ofArguments)
      (Nat.le_trans bound.2 (by decide)) strongest with ⟨tokens, splitMore, ofWhole, stopsAfter⟩
  refine ⟨.punctuation .openParen :: (argumentTokens ++ [.punctuation .closeParen]) ++ tokens,
    ?_, ?_, stopsAfter⟩
  · rw [eq_cons_of_headD upcoming (by simp), splitArguments, splitMore]
    simp only [List.cons_append, List.append_assoc, List.nil_append]
  · simpa only [List.append_assoc, List.cons_append] using ofWhole

theorem operators_succ (readers : ReadsWithin budget) :
    (Expr.parseOperators (budget + 1) context left).Reads (OperatorsCondition context left) := by
  unfold Expr.parseOperators
  apply Reads.bind Reads.upcoming
  intro token
  split
  · next operator =>
      split
      · next binds =>
          apply Reads.bind Reads.advance
          intro _
          apply Reads.bind Reads.advance
          intro _
          apply Reads.bind (readers.expr operator.precedence)
          intro right
          apply (readers.operators context _).mono
          intro middle value after more third ofRight second advanced first advancedFirst before
            upcoming
          rcases upcoming with ⟨upcoming, rfl⟩
          subst advanced advancedFirst
          exact operators_operator binds upcoming.symm ofRight more
      · next loose => exact operators_return loose
  · split
    · next binds =>
        apply Reads.bind Reads.advance
        intro _
        apply Reads.bind readers.arguments
        intro values
        apply (readers.operators context _).mono
        intro middle value after more second ofArguments first advanced before upcoming
        rcases upcoming with ⟨upcoming, rfl⟩
        subst advanced
        exact operators_call upcoming.symm ofArguments more
    · next loose => exact operators_return loose
  · next otherOperator otherCall =>
      have lowest : token.precedence = .lowest := by
        unfold Token.precedence
        split
        · exact absurd rfl (otherOperator _)
        · exact absurd rfl otherCall
        · rfl
      apply operators_return
      rw [lowest]
      exact Nat.not_lt_zero _

theorem unary_succ (readers : ReadsWithin budget) {operator : Operator}
    (sign : operator = .bang ∨ operator = .minus) :
    (Expr.parseUnary (budget + 1) operator).Reads fun before value after =>
      ∃ tokens, before.tail = tokens ++ after.tail ∧
        (expression .unary value).Derives (.operator operator :: tokens) ∧
          ¬Precedence.unary < (after.tail.headD .eof).precedence := by
  unfold Expr.parseUnary
  apply Reads.bind Reads.advance
  intro _
  apply Reads.bind (readers.expr .unary)
  intro operand
  apply (Reads.pure _).mono
  intro _ value after result second condition before advanced
  rcases result with ⟨rfl, rfl⟩
  rcases condition with ⟨tokens, split, derives, stops⟩
  subst advanced
  exact ⟨tokens, split, .unary sign derives, stops⟩

theorem group_succ (readers : ReadsWithin budget) :
    (Expr.parseGroup (budget + 1)).Reads (PrimaryCondition (.punctuation .openParen)) := by
  unfold Expr.parseGroup
  apply Reads.bind Reads.advance
  intro _
  apply Reads.bind (readers.expr .lowest)
  intro value
  apply Reads.bind (Reads.expect _)
  intro _
  apply (Reads.pure _).mono
  intro _ _ after result third closed second condition before advanced
  rcases result with ⟨rfl, rfl⟩
  rcases closed with ⟨close, rfl⟩
  rcases condition with ⟨tokens, split, derives, _⟩
  subst advanced
  refine ⟨tokens ++ [.punctuation .closeParen], ?_, .group derives⟩
  rw [split, eq_cons_of_headD (Token.eq_of_kind_punctuation close) (by simp), List.append_assoc]
  rfl

/-- The tokens of a conditional up to its first block. -/
theorem conditional_opening {condition : Expr} {consequence : Block}
    {before beforeClose beforeBlock afterBlock : List Token}
    (parenthesis : (before.tail.headD .eof).kind = .punctuation .openParen)
    (ofCondition : ExprCondition .lowest before.tail.tail condition beforeClose)
    (close : (beforeClose.tail.headD .eof).kind = .punctuation .closeParen)
    (brace : (beforeClose.tail.tail.headD .eof).kind = .punctuation .openBrace ∧
      beforeBlock = beforeClose.tail.tail)
    (ofBlock : BlockCondition beforeBlock consequence afterBlock) :
    ∃ conditionTokens tokens,
      before.tail = .punctuation .openParen ::
        (conditionTokens ++ .punctuation .closeParen :: (tokens ++ afterBlock.tail)) ∧
      (expression .equality condition).Derives conditionTokens ∧
      (Phrase.block consequence).Derives tokens := by
  rcases brace with ⟨brace, rfl⟩
  rcases ofCondition with ⟨conditionTokens, split, derives, _⟩
  rcases ofBlock (Token.eq_of_kind_punctuation brace) with ⟨tokens, splitBlock, derivesBlock⟩
  refine ⟨conditionTokens, tokens, ?_, derives, derivesBlock⟩
  rw [eq_cons_of_headD (Token.eq_of_kind_punctuation parenthesis) (by simp), split,
    eq_cons_of_headD (Token.eq_of_kind_punctuation close) (by simp), splitBlock]

theorem conditional_succ (readers : ReadsWithin budget) :
    (Expr.parseConditional (budget + 1)).Reads (PrimaryCondition (.keyword .ifWord)) := by
  unfold Expr.parseConditional
  apply Reads.bind (Reads.expect _)
  intro _
  apply Reads.bind Reads.advance
  intro _
  apply Reads.bind (readers.expr .lowest)
  intro condition
  apply Reads.bind (Reads.expect _)
  intro _
  apply Reads.bind (Reads.expect _)
  intro _
  apply Reads.bind readers.block
  intro consequence
  apply Reads.bind Reads.upcoming
  intro token
  split
  · apply Reads.bind Reads.advance
    intro _
    apply Reads.bind (Reads.expect _)
    intro _
    apply Reads.bind readers.block
    intro alternative
    apply (Reads.pure _).mono
    intro _ value after result beforeAlternative ofAlternative elseToken brace afterBlock advanced
      _ upcoming beforeBlock ofBlock beforeBrace openBrace beforeClose close beforeValue ofCondition
      beforeCondition advancedFirst before parenthesis
    rcases result with ⟨rfl, rfl⟩
    rcases upcoming with ⟨upcoming, rfl⟩
    rcases brace with ⟨brace, rfl⟩
    rcases close with ⟨close, rfl⟩
    rcases parenthesis with ⟨parenthesis, rfl⟩
    subst advanced advancedFirst
    rcases conditional_opening parenthesis ofCondition close openBrace ofBlock with
      ⟨conditionTokens, tokens, split, derives, derivesBlock⟩
    rcases ofAlternative (Token.eq_of_kind_punctuation brace) with
      ⟨alternativeTokens, splitAlternative, derivesAlternative⟩
    refine ⟨_, ?_, .alternative derives derivesBlock derivesAlternative⟩
    rw [split, eq_cons_of_headD upcoming.symm (by simp), splitAlternative]
    simp only [List.cons_append, List.append_assoc]
  · apply (Reads.pure _).mono
    intro _ value after result _ upcoming beforeBlock ofBlock beforeBrace openBrace beforeClose
      close beforeValue ofCondition beforeCondition advanced before parenthesis
    rcases result with ⟨rfl, rfl⟩
    rcases upcoming with ⟨_, rfl⟩
    rcases close with ⟨close, rfl⟩
    rcases parenthesis with ⟨parenthesis, rfl⟩
    subst advanced
    rcases conditional_opening parenthesis ofCondition close openBrace ofBlock with
      ⟨conditionTokens, tokens, split, derives, derivesBlock⟩
    refine ⟨_, ?_, .conditional derives derivesBlock⟩
    rw [split]
    simp only [List.cons_append, List.append_assoc]

theorem function_succ (readers : ReadsWithin budget) :
    (Expr.parseFunction (budget + 1)).Reads (PrimaryCondition (.keyword .fnWord)) := by
  unfold Expr.parseFunction
  apply Reads.bind (Reads.expect _)
  intro _
  apply Reads.bind (Identifier.reads_parseList budget)
  intro parameters
  apply Reads.bind (Reads.expect _)
  intro _
  apply Reads.bind readers.block
  intro body
  apply (Reads.pure _).mono
  intro _ value after result beforeBlock ofBlock beforeBrace brace beforeNames ofNames before
    parenthesis
  rcases result with ⟨rfl, rfl⟩
  rcases brace with ⟨brace, rfl⟩
  rcases ofNames with ⟨names, rfl, splitNames⟩
  rcases parenthesis with ⟨parenthesis, rfl⟩
  rcases ofBlock (Token.eq_of_kind_punctuation brace) with ⟨tokens, split, derives⟩
  refine ⟨_, ?_, .function derives⟩
  rw [eq_cons_of_headD (Token.eq_of_kind_punctuation parenthesis) (by simp), splitNames, split]
  simp only [List.cons_append, List.append_assoc]

theorem arguments_succ (readers : ReadsWithin budget) :
    (Expr.parseArguments (budget + 1)).Reads ArgumentsCondition := by
  unfold Expr.parseArguments
  apply Reads.bind Reads.upcoming
  intro token
  split
  · apply Reads.bind Reads.advance
    intro _
    apply (Reads.pure _).mono
    intro _ values after result second advanced before upcoming
    rcases result with ⟨rfl, rfl⟩
    rcases upcoming with ⟨upcoming, rfl⟩
    subst advanced
    exact ⟨[], eq_cons_of_headD upcoming.symm (by simp), .noArguments⟩
  · apply Reads.bind Reads.advance
    intro _
    apply Reads.bind (readers.expr .lowest)
    intro argument
    apply Reads.bind readers.moreArguments
    intro rest
    apply (Reads.pure _).mono
    intro _ values after result third more second condition first advanced before upcoming
    rcases result with ⟨rfl, rfl⟩
    rcases upcoming with ⟨_, rfl⟩
    rcases condition with ⟨tokens, split, derives, _⟩
    subst advanced
    rcases more argument tokens derives with ⟨following, splitMore, ofAll⟩
    exact ⟨tokens ++ following, by rw [split, splitMore, List.append_assoc], ofAll⟩

theorem moreArguments_succ (readers : ReadsWithin budget) :
    (Expr.parseMoreArguments (budget + 1)).Reads MoreArgumentsCondition := by
  unfold Expr.parseMoreArguments
  apply Reads.bind Reads.upcoming
  intro token
  split
  · apply Reads.bind Reads.advance
    intro _
    apply Reads.bind Reads.advance
    intro _
    apply Reads.bind (readers.expr .lowest)
    intro argument
    apply Reads.bind readers.moreArguments
    intro rest
    apply (Reads.pure _).mono
    intro _ values after result fourth more third condition second advanced first advancedFirst
      before upcoming value valueTokens ofValue
    rcases result with ⟨rfl, rfl⟩
    rcases upcoming with ⟨upcoming, rfl⟩
    rcases condition with ⟨tokens, split, derives, _⟩
    subst advanced advancedFirst
    rcases more argument tokens derives with ⟨following, splitMore, ofRest⟩
    refine ⟨.punctuation .comma :: (tokens ++ following), ?_, .moreArguments ofValue ofRest⟩
    rw [eq_cons_of_headD upcoming.symm (by simp), split, splitMore]
    simp only [List.cons_append, List.append_assoc]
  · apply Reads.bind (Reads.expect _)
    intro _
    apply (Reads.pure _).mono
    intro _ values after result second closed before upcoming value valueTokens ofValue
    rcases result with ⟨rfl, rfl⟩
    rcases closed with ⟨close, rfl⟩
    rcases upcoming with ⟨_, rfl⟩
    refine ⟨[], eq_cons_of_headD (Token.eq_of_kind_punctuation close) (by simp), ?_⟩
    rw [List.append_nil]
    exact .lastArgument ofValue

/-- A single token that is an expression of its own is an operand. -/
theorem operandCondition_single {before : List Token} {token : Token} {value : Expr}
    (derives : (expression .primary value).Derives [token]) (head : before.headD .eof = token)
    (real : token ≠ .eof) : OperandCondition before value before := by
  have strongest := (before.tail.headD .eof).precedence.level_le
  refine ⟨.primary, [token], eq_cons_of_headD head real, derives, by decide, ?_⟩
  exact Nat.le_trans strongest (by decide)

/-- What starts with a token of its own is an operand. -/
theorem operandCondition_of_primary {before after : List Token} {token : Token} {value : Expr}
    (condition : PrimaryCondition token before value after) (head : before.headD .eof = token)
    (real : token ≠ .eof) : OperandCondition before value after := by
  rcases condition with ⟨tokens, split, derives⟩
  have strongest := (after.tail.headD .eof).precedence.level_le
  refine ⟨.primary, token :: tokens, ?_, derives, by decide, Nat.le_trans strongest (by decide)⟩
  rw [eq_cons_of_headD head real, split]
  rfl

theorem operandCondition_of_unary {before after : List Token} {operator : Operator} {value : Expr}
    (condition : ∃ tokens, before.tail = tokens ++ after.tail ∧
      (expression .unary value).Derives (.operator operator :: tokens) ∧
        ¬Precedence.unary < (after.tail.headD .eof).precedence)
    (head : before.headD .eof = .operator operator) : OperandCondition before value after := by
  rcases condition with ⟨tokens, split, derives, stops⟩
  refine ⟨.unary, .operator operator :: tokens, ?_, derives, Nat.le_refl _, Nat.le_of_not_lt stops⟩
  rw [eq_cons_of_headD head (by simp), split]
  rfl

theorem operand_succ (readers : ReadsWithin budget) :
    (Expr.parseOperand (budget + 1)).Reads OperandCondition := by
  unfold Expr.parseOperand
  apply Reads.bind Reads.current
  intro token
  split
  · next name =>
      apply (Reads.pure _).mono
      rintro _ _ _ ⟨rfl, rfl⟩ _ ⟨head, rfl⟩
      exact operandCondition_single (.ident name) head.symm (by simp)
  · next digits =>
      split
      · next value written =>
          apply (Reads.pure _).mono
          rintro _ _ _ ⟨rfl, rfl⟩ _ ⟨head, rfl⟩
          exact operandCondition_single (.int written) head.symm (by simp)
      · exact .fail _
  · next text =>
      apply (Reads.pure _).mono
      rintro _ _ _ ⟨rfl, rfl⟩ _ ⟨head, rfl⟩
      exact operandCondition_single (.string text) head.symm (by simp)
  · apply (Reads.pure _).mono
    rintro _ _ _ ⟨rfl, rfl⟩ _ ⟨head, rfl⟩
    exact operandCondition_single .trueWord head.symm (by simp)
  · apply (Reads.pure _).mono
    rintro _ _ _ ⟨rfl, rfl⟩ _ ⟨head, rfl⟩
    exact operandCondition_single .falseWord head.symm (by simp)
  · apply (readers.unary (.inl rfl)).mono
    rintro _ value after condition _ ⟨head, rfl⟩
    exact operandCondition_of_unary condition head.symm
  · apply (readers.unary (.inr rfl)).mono
    rintro _ value after condition _ ⟨head, rfl⟩
    exact operandCondition_of_unary condition head.symm
  · apply readers.group.mono
    rintro _ value after condition _ ⟨head, rfl⟩
    exact operandCondition_of_primary condition head.symm (by simp)
  · apply readers.conditional.mono
    rintro _ value after condition _ ⟨head, rfl⟩
    exact operandCondition_of_primary condition head.symm (by simp)
  · apply readers.function.mono
    rintro _ value after condition _ ⟨head, rfl⟩
    exact operandCondition_of_primary condition head.symm (by simp)
  · exact .fail _

/-! ## Statements -/

/-- An expression up to the semicolon after it, if there is one. -/
theorem expr_terminated {before middle after : List Token} {value : Expr}
    (condition : ExprCondition .lowest before value middle)
    (skipped : if (middle.tail.headD .eof).kind = .punctuation .semicolon then
      after = middle.tail else after = middle) :
    ∃ tokens, (expression .equality value).Derives tokens ∧
      (before = tokens ++ .punctuation .semicolon :: after.tail ∨
        before = tokens ++ after.tail ∧
          (after.tail.headD .eof).continuesStatement = false) := by
  rcases condition with ⟨tokens, split, derives, stops⟩
  refine ⟨tokens, derives, ?_⟩
  split at skipped
  · next semicolon =>
      subst skipped
      left
      rw [split, ← eq_cons_of_headD (Token.eq_of_kind_punctuation semicolon) (by simp)]
  · next other =>
      subst skipped
      right
      exact ⟨split, Token.continuesStatement_eq_false stops other⟩

theorem statement_succ (readers : ReadsWithin budget) :
    (Statement.parse (budget + 1)).Reads StatementCondition := by
  unfold Statement.parse
  apply Reads.bind Reads.current
  intro token
  split
  · apply Reads.bind Identifier.reads_parse
    intro identifier
    apply Reads.bind (Reads.expect _)
    intro _
    apply Reads.bind Reads.advance
    intro _
    apply Reads.bind (readers.expr .lowest)
    intro value
    apply Reads.bind (Reads.skipOptional _)
    intro _
    apply (Reads.pure _).mono
    intro _ statement after result skippedTo skipped third condition second advanced first assign
      beforeName named before current
    rcases result with ⟨rfl, rfl⟩
    rcases assign with ⟨assign, rfl⟩
    rcases named with ⟨name, rfl, splitName⟩
    rcases current with ⟨current, rfl⟩
    subst advanced
    rcases expr_terminated condition skipped with ⟨tokens, derives, split⟩
    refine ⟨_, .bind derives, ?_⟩
    rw [eq_cons_of_headD current.symm (by simp), splitName,
      eq_cons_of_headD (Token.eq_of_kind_punctuation assign) (by simp)]
    simpa only [List.cons_append, List.cons.injEq, true_and] using split
  · apply Reads.bind Reads.advance
    intro _
    apply Reads.bind (readers.expr .lowest)
    intro value
    apply Reads.bind (Reads.skipOptional _)
    intro _
    apply (Reads.pure _).mono
    intro _ statement after result skippedTo skipped second condition first advanced before current
    rcases result with ⟨rfl, rfl⟩
    rcases current with ⟨current, rfl⟩
    subst advanced
    rcases expr_terminated condition skipped with ⟨tokens, derives, split⟩
    refine ⟨_, .result derives, ?_⟩
    rw [eq_cons_of_headD current.symm (by simp)]
    simpa only [List.cons_append, List.cons.injEq, true_and] using split
  · apply Reads.bind (readers.expr .lowest)
    intro value
    apply Reads.bind (Reads.skipOptional _)
    intro _
    apply (Reads.pure _).mono
    intro _ statement after result skippedTo skipped first condition before current
    rcases result with ⟨rfl, rfl⟩
    rcases current with ⟨current, rfl⟩
    rcases expr_terminated condition skipped with ⟨tokens, derives, split⟩
    rcases derives.opens with ⟨head, rest, rfl, _⟩
    have same : token = head := by
      rw [current]
      rcases split with split | ⟨split, _⟩ <;> rw [split] <;> rfl
    subst same
    exact ⟨_, .expr derives, split⟩

theorem block_succ (readers : ReadsWithin budget) :
    (Block.parse (budget + 1)).Reads BlockCondition := by
  unfold Block.parse
  apply Reads.bind Reads.current
  intro token
  apply Reads.bind Reads.advance
  intro _
  apply Reads.bind readers.statements
  intro statements
  apply Reads.bind Reads.current
  intro found
  split
  · apply (Reads.pure _).mono
    intro _ block after result last current afterStatements condition second advanced before first
      opened
    rcases result with ⟨rfl, rfl⟩
    rcases current with ⟨current, rfl⟩
    rcases condition with ⟨tokens, split, derives⟩
    rcases first with ⟨first, rfl⟩
    subst advanced
    obtain rfl : token = .punctuation .openBrace := by rw [first, opened]
    refine ⟨_, ?_, .block derives⟩
    rw [eq_cons_of_headD first.symm (by simp), split, eq_cons_of_headD current.symm (by simp)]
    simp only [List.cons_append, List.append_assoc, List.nil_append, List.tail_cons]
  · exact .fail _

/-- A statement in front of a row of statements makes a longer row. -/
theorem statements_cons {before middle after : List Token} {value : Statement}
    {values : List Statement} (first : StatementCondition before value middle)
    (rest : StatementsCondition middle.tail values after) :
    StatementsCondition before (value :: values) after := by
  rcases first with ⟨valueTokens, ofValue, split⟩
  rcases rest with ⟨tokens, splitRest, ofRest⟩
  rcases split with split | ⟨split, apart⟩
  · refine ⟨_, ?_, .terminated ofValue ofRest⟩
    rw [split, splitRest]
    simp only [List.cons_append, List.append_assoc]
  · refine ⟨_, ?_, .unterminated ofValue ofRest ?_⟩
    · rw [split, splitRest, List.append_assoc]
    · intro token head
      rw [splitRest] at apart
      cases tokens with
      | nil => simp at head
      | cons next following =>
          obtain rfl : next = token := by simpa using head
          exact apart

theorem statements_succ (readers : ReadsWithin budget) :
    (Block.parseStatements (budget + 1)).Reads StatementsCondition := by
  unfold Block.parseStatements
  apply Reads.bind Reads.current
  intro token
  have empty : ∀ before : List Token, StatementsCondition before [] before := by
    intro before
    exact ⟨[], rfl, .noStatements⟩
  split
  · apply (Reads.pure _).mono
    rintro _ _ _ ⟨rfl, rfl⟩ before ⟨_, rfl⟩
    exact empty _
  · apply (Reads.pure _).mono
    rintro _ _ _ ⟨rfl, rfl⟩ before ⟨_, rfl⟩
    exact empty _
  · apply Reads.bind readers.statement.attempt
    intro attempted
    split
    · next value =>
        apply Reads.bind Reads.advance
        intro _
        apply Reads.bind readers.statements
        intro rest
        apply (Reads.pure _).mono
        intro _ values after result third condition second advanced first attempt before current
        rcases result with ⟨rfl, rfl⟩
        rcases current with ⟨_, rfl⟩
        rcases attempt with ⟨_, same, ofFirst⟩
        obtain rfl := Option.some.inj same
        subst advanced
        exact statements_cons ofFirst condition
    · -- A failed attempt has left a diagnostic, so no quiet reading comes this way.
      apply Reads.bind (Reads.skipTo _)
      intro _
      apply Reads.bind Reads.current
      intro found
      split
      · apply (Reads.pure _).mono
        rintro _ _ _ _ _ _ _ _ _ ⟨_, none, _⟩
        simp at none
      · apply Reads.bind Reads.advance
        intro _
        apply readers.statements.mono
        rintro _ _ _ _ _ _ _ _ _ _ _ ⟨_, none, _⟩
        simp at none

end ReadsWithin

/-- Readers of every budget keep to their conditions. -/
theorem readsWithin (budget : Nat) : ReadsWithin budget := by
  induction budget with
  | zero =>
      constructor <;> intros <;> exact Reads.unfinished
  | succ budget readers =>
      exact {
        expr := fun _ => readers.expr_succ
        operators := fun _ _ => readers.operators_succ
        operand := readers.operand_succ
        unary := readers.unary_succ
        group := readers.group_succ
        conditional := readers.conditional_succ
        function := readers.function_succ
        arguments := readers.arguments_succ
        moreArguments := readers.moreArguments_succ
        statement := readers.statement_succ
        block := readers.block_succ
        statements := readers.statements_succ }

end Parse

namespace Program

/-- The statements of a program, when nothing is wrong with it, go up to the first end mark. -/
theorem reads_parseStatements (budget : Nat) :
    (Program.parseStatements budget).Reads fun before values after =>
      after.headD .eof = .eof ∧ StatementsCondition before values after := by
  induction budget with
  | zero => exact .unfinished
  | succ budget ih =>
      unfold Program.parseStatements
      apply Reads.bind Reads.current
      intro token
      split
      · apply (Reads.pure _).mono
        intro _ values after result before current
        rcases result with ⟨rfl, rfl⟩
        rcases current with ⟨current, rfl⟩
        exact ⟨current.symm, [], rfl, .noStatements⟩
      · apply Reads.bind (readsWithin budget).statement.attempt
        intro attempted
        split
        · next value =>
            apply Reads.bind Reads.advance
            intro _
            apply Reads.bind ih
            intro rest
            apply (Reads.pure _).mono
            intro _ values after result third condition second advanced first attempt before current
            rcases result with ⟨rfl, rfl⟩
            rcases current with ⟨_, rfl⟩
            rcases attempt with ⟨_, same, ofFirst⟩
            obtain rfl := Option.some.inj same
            subst advanced
            exact ⟨condition.1, ReadsWithin.statements_cons ofFirst condition.2⟩
        · apply Reads.bind (Reads.skipTo _)
          intro _
          apply Reads.bind Reads.advance
          intro _
          apply ih.mono
          rintro _ _ _ _ _ _ _ _ _ ⟨_, none, _⟩
          simp at none

end Program

end Monkey
