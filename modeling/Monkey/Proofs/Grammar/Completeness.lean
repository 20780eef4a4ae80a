import Monkey.Proofs.Grammar.Budget
import Monkey.Proofs.Grammar.Soundness

/-!
# What derives from the grammar is read

Behind the tokens of an expression a reader is where it would be had it been given the expression
itself: it goes on with the operators that follow. This is what an induction on the derivation
needs, since the left operand of an operator is followed by that operator. The tokens after an
expression must not bind more strongly than its stratum, or they would be taken from its right
operand; and no `else` may follow, which would belong to a conditional at its end.
-/

namespace Monkey

open Phrase Parse

namespace Parse

variable {Result Next : Type} {remaining : List Token} {diagnostics : List Diagnostic}

theorem bind_of_parsed {first : Parse Result} {next : Result → Parse Next} {start middle : Cursor}
    {value : Result} (parsed : first start = .parsed value middle) :
    (first >>= next) start = next value middle := by
  change Parse.bind first next start = _
  rw [Parse.bind, parsed]

theorem current_bind (next : Token → Parse Next) :
    (Parse.current >>= next) ⟨remaining, diagnostics⟩ =
      next (remaining.headD .eof) ⟨remaining, diagnostics⟩ :=
  rfl

theorem upcoming_bind (next : Token → Parse Next) :
    (Parse.upcoming >>= next) ⟨remaining, diagnostics⟩ =
      next (remaining.tail.headD .eof) ⟨remaining, diagnostics⟩ :=
  rfl

theorem advance_bind (next : Unit → Parse Next) :
    (Parse.advance >>= next) ⟨remaining, diagnostics⟩ = next () ⟨remaining.tail, diagnostics⟩ :=
  rfl

theorem expect_bind (token : Token) {last : Token} (next : Unit → Parse Next) :
    (Parse.expect token.kind >>= next) ⟨last :: token :: remaining, diagnostics⟩ =
      next () ⟨token :: remaining, diagnostics⟩ := by
  apply bind_of_parsed
  simp [Parse.expect, Cursor.upcoming, Cursor.advance]

theorem expect_mark (mark : Punctuation) {last : Token} (next : Unit → Parse Next) :
    (Parse.expect (.punctuation mark) >>= next)
        ⟨last :: .punctuation mark :: remaining, diagnostics⟩ =
      next () ⟨.punctuation mark :: remaining, diagnostics⟩ :=
  expect_bind (.punctuation mark) next

end Parse

namespace Stratum

/-- Whether an expression of a stratum is read whole in a context. -/
def Admits (stratum : Stratum) (context : Precedence) : Prop :=
  context.level < stratum.rank ∨ stratum = .unary ∧ context = .unary

/-- Whether a token may follow an expression of a stratum. -/
def MayPrecede (stratum : Stratum) (token : Token) : Prop :=
  token ≠ .keyword .elseWord ∧ token.precedence.level ≤ stratum.rank

variable {stratum next : Stratum}

theorem Admits.tighter {context : Precedence} (admits : stratum.Admits context)
    (step : stratum.tighter? = some next) : next.Admits context := by
  have position := rank_of_tighter? step
  rcases admits with below | ⟨rfl, rfl⟩
  · left
    omega
  · left
    rw [position]
    decide

theorem MayPrecede.tighter {token : Token} (follows : stratum.MayPrecede token)
    (step : stratum.tighter? = some next) : next.MayPrecede token := by
  have position := rank_of_tighter? step
  exact ⟨follows.1, by have := follows.2; omega⟩

end Stratum

theorem Token.level_of_apart {token : Token} (apart : token.continuesStatement = false) :
    token.precedence.level = 0 := by
  cases token with
  | operator sign => cases sign <;> first | rfl | cases apart
  | punctuation mark => cases mark <;> first | rfl | cases apart
  | _ => rfl

/-! ## Operators -/

namespace Expr

variable {budget : Nat} {context : Precedence} {value : Expr} {last : Token} {rest : List Token}
  {diagnostics : List Diagnostic}

theorem parseOperators_stop (some : 1 ≤ budget)
    (stops : ¬context < (rest.headD .eof).precedence) :
    Expr.parseOperators budget context value ⟨last :: rest, diagnostics⟩ =
      .parsed value ⟨last :: rest, diagnostics⟩ := by
  rcases budget with _ | budget
  · omega
  unfold Expr.parseOperators
  rw [upcoming_bind, List.tail_cons]
  cases found : rest.headD .eof with
  | operator operator =>
      rw [found] at stops
      simp only [show ¬context < operator.precedence from stops, ↓reduceIte]
      rfl
  | punctuation mark =>
      rw [found] at stops
      cases mark with
      | openParen =>
          simp only [show ¬context < .call from stops, ↓reduceIte]
          rfl
      | _ => rfl
  | _ => rfl

theorem parseOperators_operator {operator : Operator} (binds : context < operator.precedence) :
    Expr.parseOperators (budget + 1) context value
        ⟨last :: .operator operator :: rest, diagnostics⟩ =
      (Expr.parse budget operator.precedence >>= fun right =>
        Expr.parseOperators budget context (.binary (.operator operator) value operator right))
        ⟨rest, diagnostics⟩ := by
  rw [Expr.parseOperators, upcoming_bind]
  simp only [List.tail_cons, List.headD_cons, binds, ↓reduceIte, advance_bind]

theorem parseOperators_call (binds : context < .call) :
    Expr.parseOperators (budget + 1) context value
        ⟨last :: .punctuation .openParen :: rest, diagnostics⟩ =
      (Expr.parseArguments budget >>= fun arguments =>
        Expr.parseOperators budget context (.call (.punctuation .openParen) value arguments))
        ⟨.punctuation .openParen :: rest, diagnostics⟩ := by
  rw [Expr.parseOperators, upcoming_bind]
  simp only [List.tail_cons, List.headD_cons, binds, ↓reduceIte, advance_bind]

end Expr

/-! ## Parameters -/

namespace Identifier

variable {rest : List Token} {diagnostics : List Diagnostic}

theorem parse_ident (name : String) (last : Token) :
    Identifier.parse ⟨last :: .ident name :: rest, diagnostics⟩ =
      .parsed (.ofToken (.ident name)) ⟨.ident name :: rest, diagnostics⟩ := by
  unfold Identifier.parse
  exact expect_bind (.ident name) _

theorem parseMore_names (names : List String) {budget : Nat} (enough : names.length < budget)
    (last : Token) :
    Identifier.parseMore budget
        ⟨last :: ((names.flatMap fun name => [.punctuation .comma, .ident name]) ++
          .punctuation .closeParen :: rest), diagnostics⟩ =
      .parsed (parameters names) ⟨.punctuation .closeParen :: rest, diagnostics⟩ := by
  induction names generalizing budget last with
  | nil =>
      rcases budget with _ | budget
      · omega
      unfold Identifier.parseMore
      rw [upcoming_bind]
      exact expect_mark .closeParen _
  | cons name names ih =>
      rcases budget with _ | budget
      · omega
      unfold Identifier.parseMore
      rw [upcoming_bind]
      simp only [List.flatMap_cons, List.cons_append, List.nil_append, List.tail_cons,
        List.headD_cons, advance_bind]
      rw [bind_of_parsed (parse_ident name _),
        bind_of_parsed (ih (Nat.lt_of_succ_lt_succ enough) _)]
      rfl

theorem parseList_names (names : List String) {budget : Nat} (enough : names.length ≤ budget)
    (last : Token) :
    Identifier.parseList budget
        ⟨last :: (parameterTokens names ++ .punctuation .closeParen :: rest), diagnostics⟩ =
      .parsed (parameters names) ⟨.punctuation .closeParen :: rest, diagnostics⟩ := by
  unfold Identifier.parseList
  rw [upcoming_bind]
  rcases names with _ | ⟨name, names⟩
  · rfl
  · simp only [parameterTokens_cons, List.cons_append, List.tail_cons, List.headD_cons]
    rw [bind_of_parsed (parse_ident name _), bind_of_parsed (parseMore_names names enough _)]
    rfl

end Identifier

theorem Phrase.length_le_parameterTokens (names : List String) :
    names.length ≤ (parameterTokens names).length := by
  simp only [parameterTokens, List.length_intersperse, List.length_map]
  omega

/-! ## Phrases -/

/-- What the readers make of the tokens of a phrase, wherever they stand and whatever follows them
that may follow. -/
def Phrase.IsRead : Phrase → List Token → Prop
  | expression stratum value, tokens =>
      ∀ context budget rest diagnostics, stratum.Admits context →
        stratum.MayPrecede (rest.headD .eof) → 8 * (tokens.length + rest.length) + 3 ≤ budget →
          ∃ last remaining, 8 * rest.length + 9 ≤ remaining ∧
            Expr.parse budget context ⟨tokens ++ rest, diagnostics⟩ =
              Expr.parseOperators remaining context value ⟨last :: rest, diagnostics⟩
  | arguments values, tokens =>
      values ≠ [] → ∀ budget rest diagnostics,
        8 * (tokens.length + rest.length) + 11 ≤ budget →
          (Expr.parse budget .lowest >>= fun argument =>
            Expr.parseMoreArguments budget >>= fun following => pure (argument :: following))
              ⟨tokens ++ .punctuation .closeParen :: rest, diagnostics⟩ =
            .parsed values ⟨.punctuation .closeParen :: rest, diagnostics⟩
  | statement value, tokens =>
      ∀ budget rest diagnostics, 8 * (tokens.length + rest.length) + 4 ≤ budget →
        (rest.head? = some (.punctuation .semicolon) →
          Statement.parse budget ⟨tokens ++ rest, diagnostics⟩ =
            .parsed value ⟨rest, diagnostics⟩) ∧
        ((rest.headD .eof).continuesStatement = false → rest.headD .eof ≠ .keyword .elseWord →
          ∃ last, Statement.parse budget ⟨tokens ++ rest, diagnostics⟩ =
            .parsed value ⟨last :: rest, diagnostics⟩)
  | statements values, tokens =>
      (∀ budget rest diagnostics, 8 * (tokens.length + rest.length) + 13 ≤ budget →
        Block.parseStatements budget
            ⟨tokens ++ .punctuation .closeBrace :: rest, diagnostics⟩ =
          .parsed values ⟨.punctuation .closeBrace :: rest, diagnostics⟩) ∧
      ∀ budget diagnostics, 8 * tokens.length + 5 ≤ budget →
        Program.parseStatements budget ⟨tokens, diagnostics⟩ = .parsed values ⟨[], diagnostics⟩
  | block value, tokens =>
      ∀ budget rest diagnostics, 8 * (tokens.length + rest.length) + 6 ≤ budget →
        Block.parse budget ⟨tokens ++ rest, diagnostics⟩ =
          .parsed value ⟨.punctuation .closeBrace :: rest, diagnostics⟩

namespace Phrase.IsRead

variable {stratum next : Stratum} {value : Expr} {tokens : List Token}

/-! ### Expressions -/

/-- An expression is read whole in a context that lets go of what follows. -/
theorem parse_eq (isRead : (expression stratum value).IsRead tokens) {context : Precedence}
    (budget : Nat) (rest : List Token) (diagnostics : List Diagnostic)
    (admits : stratum.Admits context) (follows : stratum.MayPrecede (rest.headD .eof))
    (stops : ¬context < (rest.headD .eof).precedence)
    (enough : 8 * (tokens.length + rest.length) + 3 ≤ budget) :
    ∃ last, Expr.parse budget context ⟨tokens ++ rest, diagnostics⟩ =
      .parsed value ⟨last :: rest, diagnostics⟩ := by
  rcases isRead context budget rest diagnostics admits follows enough with
    ⟨last, remaining, many, goesOn⟩
  refine ⟨last, ?_⟩
  rw [goesOn, Expr.parseOperators_stop (by omega) stops]

/-- An expression in parentheses, or one that a mark ends, is read whole. -/
theorem parse_lowest (isRead : (expression .equality value).IsRead tokens) (budget : Nat)
    (rest : List Token) (diagnostics : List Diagnostic)
    (other : rest.headD .eof ≠ .keyword .elseWord)
    (loose : (rest.headD .eof).precedence.level = 0)
    (enough : 8 * (tokens.length + rest.length) + 3 ≤ budget) :
    ∃ last, Expr.parse budget .lowest ⟨tokens ++ rest, diagnostics⟩ =
      .parsed value ⟨last :: rest, diagnostics⟩ := by
  apply isRead.parse_eq budget rest diagnostics (.inl (by decide)) ⟨other, by omega⟩ _ enough
  intro binds
  have : (0 : Nat) < _ := binds
  omega

theorem of_tighter (step : stratum.tighter? = some next)
    (isRead : (expression next value).IsRead tokens) :
    (expression stratum value).IsRead tokens := by
  intro context budget rest diagnostics admits follows enough
  exact isRead context budget rest diagnostics (admits.tighter step) (follows.tighter step) enough

theorem of_binary {operator : Operator} {left right : Expr} {leftTokens rightTokens : List Token}
    (step : stratum.tighter? = some next) (member : operator ∈ stratum.operators)
    (ofLeft : (expression stratum left).IsRead leftTokens)
    (ofRight : (expression next right).IsRead rightTokens) :
    (expression stratum (.binary (.operator operator) left operator right)).IsRead
      (leftTokens ++ .operator operator :: rightTokens) := by
  intro context budget rest diagnostics admits follows enough
  have level := Stratum.level_of_mem_operators member
  have position := Stratum.rank_of_tighter? step
  have binds : context < operator.precedence := by
    rcases admits with below | ⟨rfl, _⟩
    · exact Nat.lt_of_lt_of_eq below level.symm
    · simp [Stratum.operators] at member
  simp only [List.length_append, List.length_cons] at enough
  rcases ofLeft context budget (.operator operator :: (rightTokens ++ rest)) diagnostics admits
      ⟨by simp, Nat.le_of_eq level⟩
      (by simp only [List.length_append, List.length_cons]; omega) with
    ⟨lastLeft, remaining, many, goesOn⟩
  simp only [List.length_append, List.length_cons] at many
  rcases remaining with _ | remaining
  · omega
  have stops : ¬operator.precedence < (rest.headD .eof).precedence := by
    apply Nat.not_lt_of_le
    exact Nat.le_trans follows.2 (Nat.le_of_eq level.symm)
  have admitsRight : next.Admits operator.precedence := .inl (by omega)
  rcases ofRight.parse_eq remaining rest diagnostics admitsRight (follows.tighter step) stops
      (by omega) with ⟨last, readRight⟩
  refine ⟨last, remaining, by omega, ?_⟩
  rw [List.append_assoc, List.cons_append, goesOn, Expr.parseOperators_operator binds,
    bind_of_parsed readRight]

/-- What `parseOperand` reads as a whole is an expression that operators may follow. -/
theorem of_operand
    (operand : ∀ budget rest diagnostics, stratum.MayPrecede (rest.headD .eof) →
      8 * (tokens.length + rest.length) + 2 ≤ budget →
        ∃ last, Expr.parseOperand budget ⟨tokens ++ rest, diagnostics⟩ =
          .parsed value ⟨last :: rest, diagnostics⟩)
    (nonempty : tokens ≠ []) : (expression stratum value).IsRead tokens := by
  intro context budget rest diagnostics _ follows enough
  have long : 0 < tokens.length := List.length_pos_iff.mpr nonempty
  rcases budget with _ | budget
  · omega
  rcases operand budget rest diagnostics follows (by omega) with ⟨last, readOperand⟩
  refine ⟨last, budget, by omega, ?_⟩
  rw [Expr.parse, bind_of_parsed readOperand]

theorem of_unary {operator : Operator} {operand : Expr}
    (sign : operator = .bang ∨ operator = .minus)
    (ofOperand : (expression .unary operand).IsRead tokens) :
    (expression .unary (.unary (.operator operator) operator operand)).IsRead
      (.operator operator :: tokens) := by
  apply of_operand _ (by simp)
  intro budget rest diagnostics follows enough
  rw [List.length_cons] at enough
  rcases budget with _ | _ | budget
  · omega
  · omega
  have stops : ¬Precedence.unary < (rest.headD .eof).precedence := Nat.not_lt_of_le follows.2
  rcases ofOperand.parse_eq budget rest diagnostics (.inr ⟨rfl, rfl⟩) follows stops
      (by omega) with ⟨last, readOperand⟩
  refine ⟨last, ?_⟩
  have readUnary : Expr.parseUnary (budget + 1) operator
      ⟨.operator operator :: (tokens ++ rest), diagnostics⟩ =
        .parsed (.unary (.operator operator) operator operand) ⟨last :: rest, diagnostics⟩ := by
    rw [Expr.parseUnary, advance_bind, List.tail_cons, bind_of_parsed readOperand]
    rfl
  rw [Expr.parseOperand, current_bind]
  rcases sign with rfl | rfl <;> exact readUnary

theorem of_single {token : Token}
    (operand : ∀ budget rest diagnostics,
      Expr.parseOperand (budget + 1) ⟨token :: rest, diagnostics⟩ =
        .parsed value ⟨token :: rest, diagnostics⟩) :
    (expression stratum value).IsRead [token] := by
  apply of_operand _ (by simp)
  intro budget rest diagnostics _ enough
  rcases budget with _ | budget
  · omega
  exact ⟨token, operand budget rest diagnostics⟩

theorem of_group (inner : (expression .equality value).IsRead tokens) :
    (expression .primary value).IsRead
      (.punctuation .openParen :: (tokens ++ [.punctuation .closeParen])) := by
  apply of_operand _ (by simp)
  intro budget rest diagnostics _ enough
  simp only [List.length_cons, List.length_append, List.length_nil] at enough
  rcases budget with _ | _ | budget
  · omega
  · omega
  refine ⟨.punctuation .closeParen, ?_⟩
  rcases inner.parse_lowest budget (.punctuation .closeParen :: rest) diagnostics (by simp) rfl
      (by rw [List.length_cons]; omega) with ⟨last, readInner⟩
  simp only [List.cons_append, List.append_assoc, List.nil_append]
  rw [Expr.parseOperand, current_bind]
  simp only [List.headD_cons]
  rw [Expr.parseGroup, advance_bind, List.tail_cons, bind_of_parsed readInner]
  exact expect_mark .closeParen _

/-- A block after the mark that announces it. -/
theorem parse_block {value : Block} (isRead : (block value).IsRead tokens) {budget : Nat}
    {rest : List Token} {last : Token} (next : Block → Parse Expr) (diagnostics : List Diagnostic)
    (opens : ∃ inner, tokens = .punctuation .openBrace :: inner)
    (enough : 8 * (tokens.length + rest.length) + 6 ≤ budget) :
    (Parse.expect (.punctuation .openBrace) >>= fun _ => Block.parse budget >>= next)
        ⟨last :: (tokens ++ rest), diagnostics⟩ =
      next value ⟨.punctuation .closeBrace :: rest, diagnostics⟩ := by
  have readBlock := isRead budget rest diagnostics enough
  rcases opens with ⟨inner, rfl⟩
  rw [List.cons_append] at readBlock ⊢
  rw [expect_mark, bind_of_parsed readBlock]

/-- A conditional up to the token that tells whether it has an alternative. -/
theorem parseConditional_opening {condition : Expr} {consequence : Block}
    {conditionTokens : List Token}
    (ofCondition : (expression .equality condition).IsRead conditionTokens)
    (ofConsequence : (block consequence).IsRead tokens)
    (opens : ∃ inner, tokens = .punctuation .openBrace :: inner) (budget : Nat)
    (rest : List Token) (diagnostics : List Diagnostic)
    (enough : 8 * (conditionTokens.length + tokens.length + rest.length) + 17 ≤ budget) :
    Expr.parseConditional (budget + 1)
        ⟨.keyword .ifWord :: .punctuation .openParen ::
          (conditionTokens ++ .punctuation .closeParen :: (tokens ++ rest)), diagnostics⟩ =
      (Parse.upcoming >>= fun token =>
        match token with
        | .keyword .elseWord => do
            advance
            expect (.punctuation .openBrace)
            let alternative ← Block.parse budget
            return .conditional (.keyword .ifWord) condition consequence (some alternative)
        | _ => return .conditional (.keyword .ifWord) condition consequence none)
        ⟨.punctuation .closeBrace :: rest, diagnostics⟩ := by
  rcases ofCondition.parse_lowest budget (.punctuation .closeParen :: (tokens ++ rest)) diagnostics
      (by simp) rfl (by simp only [List.length_cons, List.length_append]; omega) with
    ⟨last, readCondition⟩
  rw [Expr.parseConditional, expect_mark, advance_bind, List.tail_cons,
    bind_of_parsed readCondition, expect_mark]
  exact ofConsequence.parse_block _ diagnostics opens (by omega)

theorem of_conditional {condition : Expr} {consequence : Block} {conditionTokens : List Token}
    (ofCondition : (expression .equality condition).IsRead conditionTokens)
    (ofConsequence : (block consequence).IsRead tokens)
    (opens : ∃ inner, tokens = .punctuation .openBrace :: inner) :
    (expression .primary (.conditional (.keyword .ifWord) condition consequence none)).IsRead
      (.keyword .ifWord :: .punctuation .openParen ::
        (conditionTokens ++ .punctuation .closeParen :: tokens)) := by
  apply of_operand _ (by simp)
  intro budget rest diagnostics follows enough
  simp only [List.length_cons, List.length_append] at enough
  rcases budget with _ | _ | budget
  · omega
  · omega
  refine ⟨.punctuation .closeBrace, ?_⟩
  simp only [List.cons_append, List.append_assoc]
  rw [Expr.parseOperand, current_bind]
  simp only [List.headD_cons]
  rw [parseConditional_opening ofCondition ofConsequence opens budget rest diagnostics (by omega),
    upcoming_bind, List.tail_cons]
  generalize rest.headD .eof = token at follows
  split
  · exact absurd rfl follows.1
  · rfl

theorem of_alternative {condition : Expr} {consequence alternative : Block}
    {conditionTokens alternativeTokens : List Token}
    (ofCondition : (expression .equality condition).IsRead conditionTokens)
    (ofConsequence : (block consequence).IsRead tokens)
    (opens : ∃ inner, tokens = .punctuation .openBrace :: inner)
    (ofAlternative : (block alternative).IsRead alternativeTokens)
    (opensAlternative : ∃ inner, alternativeTokens = .punctuation .openBrace :: inner) :
    (expression .primary
        (.conditional (.keyword .ifWord) condition consequence (some alternative))).IsRead
      (.keyword .ifWord :: .punctuation .openParen ::
        (conditionTokens ++ .punctuation .closeParen ::
          (tokens ++ .keyword .elseWord :: alternativeTokens))) := by
  apply of_operand _ (by simp)
  intro budget rest diagnostics _ enough
  simp only [List.length_cons, List.length_append] at enough
  rcases budget with _ | _ | budget
  · omega
  · omega
  refine ⟨.punctuation .closeBrace, ?_⟩
  simp only [List.cons_append, List.append_assoc]
  rw [Expr.parseOperand, current_bind]
  simp only [List.headD_cons]
  rw [parseConditional_opening ofCondition ofConsequence opens budget
      (.keyword .elseWord :: (alternativeTokens ++ rest)) diagnostics
      (by simp only [List.length_cons, List.length_append]; omega),
    upcoming_bind]
  simp only [List.tail_cons, List.headD_cons, advance_bind]
  rw [ofAlternative.parse_block _ diagnostics opensAlternative (by omega)]
  rfl

theorem of_function {names : List String} {body : Block} (ofBody : (block body).IsRead tokens)
    (opens : ∃ inner, tokens = .punctuation .openBrace :: inner) :
    (expression .primary (.function (.keyword .fnWord) (parameters names) body)).IsRead
      (.keyword .fnWord :: .punctuation .openParen ::
        (parameterTokens names ++ .punctuation .closeParen :: tokens)) := by
  apply of_operand _ (by simp)
  intro budget rest diagnostics _ enough
  have few := length_le_parameterTokens names
  simp only [List.length_cons, List.length_append] at enough
  rcases budget with _ | _ | budget
  · omega
  · omega
  refine ⟨.punctuation .closeBrace, ?_⟩
  simp only [List.cons_append, List.append_assoc]
  rw [Expr.parseOperand, current_bind]
  simp only [List.headD_cons]
  rw [Expr.parseFunction, expect_mark,
    bind_of_parsed (Identifier.parseList_names names (by omega) _),
    ofBody.parse_block _ diagnostics opens (by omega)]
  rfl

/-! ### Arguments -/

theorem of_lastArgument (ofValue : (expression .equality value).IsRead tokens) :
    (arguments [value]).IsRead tokens := by
  intro _ budget rest diagnostics enough
  rcases ofValue.parse_lowest budget (.punctuation .closeParen :: rest) diagnostics (by simp) rfl
      (by rw [List.length_cons]; omega) with ⟨last, readValue⟩
  rcases budget with _ | budget
  · omega
  rw [bind_of_parsed readValue, Expr.parseMoreArguments]
  have closes : (Parse.expect (.punctuation .closeParen) >>= fun _ => pure [])
      ⟨last :: .punctuation .closeParen :: rest, diagnostics⟩ =
        .parsed ([] : List Expr) ⟨.punctuation .closeParen :: rest, diagnostics⟩ :=
    expect_mark .closeParen _
  exact bind_of_parsed closes

theorem of_moreArguments {following : Expr} {values : List Expr} {valueTokens : List Token}
    (ofValue : (expression .equality value).IsRead valueTokens)
    (ofRest : (arguments (following :: values)).IsRead tokens) :
    (arguments (value :: following :: values)).IsRead
      (valueTokens ++ .punctuation .comma :: tokens) := by
  intro _ budget rest diagnostics enough
  simp only [List.length_append, List.length_cons] at enough
  rcases ofValue.parse_lowest budget
      (.punctuation .comma :: (tokens ++ .punctuation .closeParen :: rest)) diagnostics (by simp)
      rfl (by simp only [List.length_append, List.length_cons]; omega) with ⟨last, readValue⟩
  rcases budget with _ | budget
  · omega
  have readRest := ofRest (by simp) budget rest diagnostics (by omega)
  have readMore : Expr.parseMoreArguments (budget + 1)
      ⟨last :: .punctuation .comma :: (tokens ++ .punctuation .closeParen :: rest), diagnostics⟩ =
        .parsed (following :: values) ⟨.punctuation .closeParen :: rest, diagnostics⟩ := by
    rw [Expr.parseMoreArguments, upcoming_bind]
    simp only [List.tail_cons, List.headD_cons, advance_bind]
    exact readRest
  rw [List.append_assoc, List.cons_append, bind_of_parsed readValue, bind_of_parsed readMore]
  rfl

theorem parseArguments_eq {values : List Expr} (ofArguments : (arguments values).IsRead tokens)
    (derives : (arguments values).Derives tokens) (budget : Nat) (rest : List Token)
    (diagnostics : List Diagnostic) (enough : 8 * (tokens.length + rest.length) + 12 ≤ budget) :
    Expr.parseArguments budget
        ⟨.punctuation .openParen :: (tokens ++ .punctuation .closeParen :: rest), diagnostics⟩ =
      .parsed values ⟨.punctuation .closeParen :: rest, diagnostics⟩ := by
  rcases budget with _ | budget
  · omega
  rw [Expr.parseArguments, upcoming_bind, List.tail_cons]
  rcases values with _ | ⟨value, values⟩
  · cases derives
    rfl
  · have readAll := ofArguments (by simp) budget rest diagnostics (by omega)
    rcases derives.opens (by simp) with ⟨first, others, rfl, starts⟩
    simp only [List.cons_append, List.headD_cons] at readAll ⊢
    split
    · simp [Token.startsExpression] at starts
    · exact readAll

theorem of_call {callee : Expr} {values : List Expr} {calleeTokens : List Token}
    (ofCallee : (expression .application callee).IsRead calleeTokens)
    (ofArguments : (arguments values).IsRead tokens)
    (derives : (arguments values).Derives tokens) :
    (expression .application (.call (.punctuation .openParen) callee values)).IsRead
      (calleeTokens ++ .punctuation .openParen :: (tokens ++ [.punctuation .closeParen])) := by
  intro context budget rest diagnostics admits follows enough
  simp only [List.length_append, List.length_cons, List.length_nil] at enough
  rcases ofCallee context budget
      (.punctuation .openParen :: (tokens ++ .punctuation .closeParen :: rest)) diagnostics admits
      ⟨by simp, Nat.le_refl 6⟩ (by simp only [List.length_append, List.length_cons]; omega) with
    ⟨last, remaining, many, goesOn⟩
  simp only [List.length_append, List.length_cons] at many
  rcases remaining with _ | remaining
  · omega
  have binds : context < .call := by
    rcases admits with below | ⟨other, _⟩
    · exact below
    · cases other
  have readArguments := ofArguments.parseArguments_eq derives remaining rest diagnostics (by omega)
  refine ⟨.punctuation .closeParen, remaining, by omega, ?_⟩
  simp only [List.append_assoc, List.cons_append, List.nil_append]
  rw [goesOn, Expr.parseOperators_call binds, bind_of_parsed readArguments]

/-! ### Statements -/

/-- An expression with the semicolon after it, if there is one, and what comes of it. -/
theorem parse_terminated (isRead : (expression .equality value).IsRead tokens)
    (next : Expr → Parse Statement) (budget : Nat) (rest : List Token)
    (diagnostics : List Diagnostic) (enough : 8 * (tokens.length + rest.length) + 3 ≤ budget) :
    (rest.head? = some (.punctuation .semicolon) →
      (Expr.parse budget .lowest >>= fun value =>
        Parse.skipOptional (.punctuation .semicolon) >>= fun _ => next value)
          ⟨tokens ++ rest, diagnostics⟩ = next value ⟨rest, diagnostics⟩) ∧
    ((rest.headD .eof).continuesStatement = false → rest.headD .eof ≠ .keyword .elseWord →
      ∃ last, (Expr.parse budget .lowest >>= fun value =>
        Parse.skipOptional (.punctuation .semicolon) >>= fun _ => next value)
          ⟨tokens ++ rest, diagnostics⟩ = next value ⟨last :: rest, diagnostics⟩) := by
  constructor
  · intro semicolon
    rcases rest with _ | ⟨first, rest⟩
    · simp at semicolon
    obtain rfl : first = .punctuation .semicolon := Option.some.inj semicolon
    rcases isRead.parse_lowest budget _ diagnostics (by simp) rfl enough with ⟨last, readValue⟩
    rw [bind_of_parsed readValue]
    rfl
  · intro apart other
    have loose := Token.level_of_apart apart
    rcases isRead.parse_lowest budget rest diagnostics other loose enough with
      ⟨last, readValue⟩
    refine ⟨last, ?_⟩
    have notSemicolon : (rest.headD .eof).kind ≠ .punctuation .semicolon := by
      intro semicolon
      rw [Token.eq_of_kind_punctuation semicolon] at apart
      cases apart
    have stays : Parse.skipOptional (.punctuation .semicolon) ⟨last :: rest, diagnostics⟩ =
        .parsed () ⟨last :: rest, diagnostics⟩ :=
      if_neg notSemicolon
    rw [bind_of_parsed readValue, bind_of_parsed stays]

theorem of_bind {name : String} (ofValue : (expression .equality value).IsRead tokens) :
    (statement (.bind (.keyword .letWord) (.ofToken (.ident name)) value)).IsRead
      (.keyword .letWord :: .ident name :: .punctuation .assign :: tokens) := by
  intro budget rest diagnostics enough
  simp only [List.length_cons] at enough
  rcases budget with _ | budget
  · omega
  have terminated := ofValue.parse_terminated
    (fun value => pure (.bind (.keyword .letWord) (.ofToken (.ident name)) value)) budget rest
    diagnostics (by omega)
  have opening : Statement.parse (budget + 1)
      ⟨.keyword .letWord :: .ident name :: .punctuation .assign :: (tokens ++ rest), diagnostics⟩ =
        (Expr.parse budget .lowest >>= fun value =>
          Parse.skipOptional (.punctuation .semicolon) >>= fun _ =>
            pure (.bind (.keyword .letWord) (.ofToken (.ident name)) value))
          ⟨tokens ++ rest, diagnostics⟩ := by
    rw [Statement.parse, current_bind]
    simp only [List.headD_cons]
    rw [bind_of_parsed (Identifier.parse_ident name _), expect_mark, advance_bind, List.tail_cons]
  simp only [List.cons_append]
  rw [opening]
  exact terminated

theorem of_result (ofValue : (expression .equality value).IsRead tokens) :
    (statement (.result (.keyword .returnWord) value)).IsRead
      (.keyword .returnWord :: tokens) := by
  intro budget rest diagnostics enough
  rw [List.length_cons] at enough
  rcases budget with _ | budget
  · omega
  have terminated := ofValue.parse_terminated
    (fun value => pure (.result (.keyword .returnWord) value)) budget rest diagnostics (by omega)
  rw [List.cons_append, Statement.parse, current_bind]
  simp only [List.headD_cons]
  rw [advance_bind, List.tail_cons]
  exact terminated

theorem of_expr {first : Token} (ofValue : (expression .equality value).IsRead (first :: tokens))
    (starts : first.startsExpression = true) :
    (statement (.expr first value)).IsRead (first :: tokens) := by
  intro budget rest diagnostics enough
  rcases budget with _ | budget
  · omega
  have terminated := ofValue.parse_terminated (fun value => pure (.expr first value)) budget rest
    diagnostics (by omega)
  rw [List.cons_append] at terminated ⊢
  rw [Statement.parse, current_bind]
  simp only [List.headD_cons]
  split
  · simp [Token.startsExpression] at starts
  · simp [Token.startsExpression] at starts
  · exact terminated

/-! ### Rows of statements -/

theorem of_noStatements : (statements []).IsRead [] := by
  constructor
  · intro budget rest diagnostics enough
    rcases budget with _ | budget
    · omega
    rfl
  · intro budget diagnostics enough
    rcases budget with _ | budget
    · omega
    rfl

/-- A statement that is read before a row of statements makes a longer row. -/
theorem of_statement {value : Statement} {values : List Statement} {valueTokens : List Token}
    (between : List Token) (ofRest : (statements values).IsRead tokens)
    (derives : (statement value).Derives valueTokens)
    (readValue : ∀ budget rest diagnostics,
      8 * (valueTokens.length + between.length + tokens.length + rest.length) + 4 ≤ budget →
        (rest = [] ∨ rest.headD .eof = .punctuation .closeBrace) →
          ∃ last, Statement.parse budget
            ⟨valueTokens ++ (between ++ (tokens ++ rest)), diagnostics⟩ =
              .parsed value ⟨last :: (tokens ++ rest), diagnostics⟩) :
    (statements (value :: values)).IsRead (valueTokens ++ (between ++ tokens)) := by
  rcases derives.opens with ⟨first, others, rfl, starts⟩
  have long : 0 < (first :: others).length := by simp
  constructor
  · intro budget rest diagnostics enough
    simp only [List.length_append] at enough
    rcases budget with _ | budget
    · omega
    rcases readValue budget (.punctuation .closeBrace :: rest) diagnostics
        (by simp only [List.length_cons] at enough ⊢; omega) (.inr rfl) with ⟨last, parsed⟩
    have attempted : Parse.attempt (Statement.parse budget)
        ⟨(first :: others) ++ (between ++ (tokens ++ .punctuation .closeBrace :: rest)),
          diagnostics⟩ =
        .parsed (some value)
          ⟨last :: (tokens ++ .punctuation .closeBrace :: rest), diagnostics⟩ := by
      rw [Parse.attempt, parsed]
    have readRest := ofRest.1 budget rest diagnostics (by omega)
    simp only [List.append_assoc]
    rw [Block.parseStatements, current_bind]
    simp only [List.cons_append, List.headD_cons] at attempted ⊢
    split
    · simp [Token.startsStatement, Token.startsExpression] at starts
    · simp [Token.startsStatement, Token.startsExpression] at starts
    · rw [bind_of_parsed attempted]
      simp only [advance_bind, List.tail_cons]
      rw [bind_of_parsed readRest]
      rfl
  · intro budget diagnostics enough
    simp only [List.length_append] at enough
    rcases budget with _ | budget
    · omega
    rcases readValue budget [] diagnostics (by rw [List.length_nil]; omega) (.inl rfl) with
      ⟨last, parsed⟩
    rw [List.append_nil] at parsed
    have attempted : Parse.attempt (Statement.parse budget)
        ⟨(first :: others) ++ (between ++ tokens), diagnostics⟩ =
        .parsed (some value) ⟨last :: tokens, diagnostics⟩ := by
      rw [Parse.attempt, parsed]
    have readRest := ofRest.2 budget diagnostics (by omega)
    rw [Program.parseStatements, current_bind]
    simp only [List.cons_append, List.headD_cons] at attempted ⊢
    split
    · simp [Token.startsStatement, Token.startsExpression] at starts
    · rw [bind_of_parsed attempted]
      simp only [advance_bind, List.tail_cons]
      rw [bind_of_parsed readRest]
      rfl

theorem of_terminated {value : Statement} {values : List Statement} {valueTokens : List Token}
    (ofValue : (statement value).IsRead valueTokens)
    (derives : (statement value).Derives valueTokens)
    (ofRest : (statements values).IsRead tokens) :
    (statements (value :: values)).IsRead (valueTokens ++ .punctuation .semicolon :: tokens) := by
  apply of_statement [.punctuation .semicolon] ofRest derives
  intro budget rest diagnostics enough _
  refine ⟨.punctuation .semicolon, ?_⟩
  apply (ofValue budget (.punctuation .semicolon :: (tokens ++ rest)) diagnostics ?_).1 rfl
  simp only [List.length_append, List.length_cons, List.length_nil] at enough ⊢
  omega

theorem of_unterminated {value : Statement} {values : List Statement} {valueTokens : List Token}
    (ofValue : (statement value).IsRead valueTokens)
    (derives : (statement value).Derives valueTokens)
    (ofRest : (statements values).IsRead tokens) (derivesRest : (statements values).Derives tokens)
    (apart : ∀ token ∈ tokens.head?, token.continuesStatement = false) :
    (statements (value :: values)).IsRead (valueTokens ++ tokens) := by
  apply of_statement [] ofRest derives
  intro budget rest diagnostics enough ends
  have next : ((tokens ++ rest).headD .eof).continuesStatement = false ∧
      (tokens ++ rest).headD .eof ≠ .keyword .elseWord := by
    rcases tokens with _ | ⟨first, others⟩
    · rcases ends with rfl | closes
      · exact ⟨rfl, by simp⟩
      · rw [List.nil_append, closes]
        exact ⟨rfl, by simp⟩
    · refine ⟨apart first rfl, ?_⟩
      have starts := derivesRest.opens first rfl
      rintro rfl
      simp [Token.startsStatement, Token.startsExpression] at starts
  apply (ofValue budget (tokens ++ rest) diagnostics ?_).2 next.1 next.2
  simp only [List.length_append, List.length_nil] at enough ⊢
  omega

theorem of_block {values : List Statement} (ofStatements : (statements values).IsRead tokens) :
    (block ⟨.punctuation .openBrace, values⟩).IsRead
      (.punctuation .openBrace :: (tokens ++ [.punctuation .closeBrace])) := by
  intro budget rest diagnostics enough
  simp only [List.length_cons, List.length_append, List.length_nil] at enough
  rcases budget with _ | budget
  · omega
  have readStatements := ofStatements.1 budget rest diagnostics (by omega)
  simp only [List.cons_append, List.append_assoc, List.nil_append]
  rw [Block.parse, current_bind, advance_bind, List.tail_cons, bind_of_parsed readStatements]
  rfl

end Phrase.IsRead

namespace Phrase.Derives

theorem block_opens {value : Block} {tokens : List Token}
    (derives : (Phrase.block value).Derives tokens) :
    ∃ inner, tokens = .punctuation .openBrace :: inner := by
  cases derives with
  | block _ => exact ⟨_, rfl⟩

/-- The tokens of every phrase are read as that phrase. -/
theorem isRead {phrase : Phrase} {tokens : List Token} (derives : phrase.Derives tokens) :
    phrase.IsRead tokens := by
  induction derives with
  | tighter step _ ih => exact .of_tighter step ih
  | binary step member _ _ ihLeft ihRight => exact .of_binary step member ihLeft ihRight
  | unary sign _ ih => exact .of_unary sign ih
  | call _ ofArguments ihCallee ihArguments => exact .of_call ihCallee ihArguments ofArguments
  | ident name => exact .of_single fun _ _ _ => rfl
  | int written =>
      apply IsRead.of_single
      intro budget rest diagnostics
      rw [Expr.parseOperand, current_bind]
      simp only [List.headD_cons, written]
      rfl
  | string text => exact .of_single fun _ _ _ => rfl
  | trueWord => exact .of_single fun _ _ _ => rfl
  | falseWord => exact .of_single fun _ _ _ => rfl
  | group _ ih => exact .of_group ih
  | conditional _ ofConsequence ihCondition ihConsequence =>
      exact .of_conditional ihCondition ihConsequence ofConsequence.block_opens
  | alternative _ ofConsequence ofAlternative ihCondition ihConsequence ihAlternative =>
      exact .of_alternative ihCondition ihConsequence ofConsequence.block_opens ihAlternative
        ofAlternative.block_opens
  | function ofBody ih => exact .of_function ih ofBody.block_opens
  | noArguments => exact fun none => absurd rfl none
  | lastArgument _ ih => exact .of_lastArgument ih
  | moreArguments _ _ ihValue ihRest => exact .of_moreArguments ihValue ihRest
  | bind _ ih => exact .of_bind ih
  | result _ ih => exact .of_result ih
  | expr ofValue ih =>
      rcases ofValue.opens with ⟨_, _, same, starts⟩
      obtain ⟨rfl, rfl⟩ := List.cons.inj same
      exact .of_expr ih starts
  | noStatements => exact .of_noStatements
  | terminated ofValue _ ihValue ihRest => exact .of_terminated ihValue ofValue ihRest
  | unterminated ofValue ofRest apart ihValue ihRest =>
      exact .of_unterminated ihValue ofValue ihRest ofRest apart
  | block _ ih => exact .of_block ih

end Phrase.Derives

end Monkey
