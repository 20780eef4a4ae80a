import Monkey.Proofs.Grammar.Calls
import Monkey.Proofs.Grammar.Course
import Monkey.Proofs.Grammar.Recognition

/-!
# Where the tokens of a tree come from

A tree keeps some of the tokens that it was read from. Listed in the order of the source, they are
tokens of the input, each one taken once and none before an earlier one, whatever was skipped in
between and whatever became of the statements around them. From what is read without a diagnostic
only marks and the word `else` are missing.

Along a reading, the tokens kept so far and those still to be read make one part of the input. A
reader adds the tokens of its result to those kept before it, and takes them from the front of those
still to be read; a statement that fails adds none, and takes away some.
-/

namespace Monkey

open Parse

/-! ## The tokens of a tree -/

mutual

/-- The tokens that a tree keeps, in the order of the source. The token of an expression statement
is left out, since it is the first one of its expression or stands in front of that. -/
def Expr.tokens : Expr → List Token
  | .ident identifier => [identifier.token]
  | .int token _ => [token]
  | .bool token _ => [token]
  | .string token _ => [token]
  | .unary token _ operand => token :: operand.tokens
  | .binary token left _ right => left.tokens ++ token :: right.tokens
  | .conditional token condition consequence alternative =>
      token :: (condition.tokens ++ consequence.tokens ++ alternativeTokens alternative)
  | .function token parameters body => token :: (parameters.map Identifier.token ++ body.tokens)
  | .call token callee arguments => callee.tokens ++ token :: argumentTokens arguments

def alternativeTokens : Option Block → List Token
  | none => []
  | some block => block.tokens

def argumentTokens : List Expr → List Token
  | [] => []
  | argument :: rest => argument.tokens ++ argumentTokens rest

def Statement.tokens : Statement → List Token
  | .bind token identifier value => token :: identifier.token :: value.tokens
  | .result token value => token :: value.tokens
  | .expr _ value => value.tokens

def statementTokens : List Statement → List Token
  | [] => []
  | statement :: rest => statement.tokens ++ statementTokens rest

def Block.tokens : Block → List Token
  | ⟨token, statements⟩ => token :: statementTokens statements

end

def Program.tokens (program : Program) : List Token :=
  statementTokens program.statements

/-! ## Readings between two conditions -/

variable {Result Next : Type} {pre : Cursor → Prop} {post : Result → Cursor → Prop}
  {target : Next → Cursor → Prop}

/-- Whether the result of a reading, if there is one, and the place where it ends keep to a
condition. -/
def Outcome.Yields (post : Result → Cursor → Prop) : Outcome Result → Prop
  | .parsed value stop => post value stop
  | _ => True

/-- Whether readings that start where one condition holds yield what keeps to another one. -/
def Parse.Leads (pre : Cursor → Prop) (parse : Parse Result) (post : Result → Cursor → Prop) :
    Prop :=
  ∀ start, pre start → (parse start).Yields post

namespace Parse.Leads

theorem pure {value : Result} (holds : ∀ start, pre start → post value start) :
    (Pure.pure value : Parse Result).Leads pre post :=
  holds

theorem fail (diagnostic : Diagnostic) : (Parse.fail diagnostic : Parse Result).Leads pre post :=
  fun _ _ => trivial

theorem bind {first : Parse Result} {next : Result → Parse Next} (leads : first.Leads pre post)
    (rest : ∀ value, (next value).Leads (post value) target) :
    (first >>= next).Leads pre target := by
  intro start holds
  have yields := leads start holds
  change (Parse.bind first next start).Yields target
  unfold Parse.bind
  cases outcome : first start with
  | parsed value middle =>
      rw [outcome] at yields
      exact rest value middle yields
  | _ => trivial

theorem of_pre {weaker : Cursor → Prop} {parse : Parse Result} (leads : parse.Leads weaker post)
    (implies : ∀ start, pre start → weaker start) : parse.Leads pre post :=
  fun start holds => leads start (implies start holds)

theorem current_bind {next : Token → Parse Next}
    (rest : ∀ token, (next token).Leads (fun start => pre start ∧ start.current = token) target) :
    (Parse.current >>= next).Leads pre target :=
  fun start holds => rest start.current start ⟨holds, rfl⟩

theorem upcoming_bind {next : Token → Parse Next}
    (rest : ∀ token, (next token).Leads (fun start => pre start ∧ start.upcoming = token) target) :
    (Parse.upcoming >>= next).Leads pre target :=
  fun start holds => rest start.upcoming start ⟨holds, rfl⟩

end Parse.Leads

/-! ## Kept tokens along a reading -/

/-- Whether kept tokens, and after them those from the current one on, are found in this order among
all tokens. -/
def Cursor.Faces (tokens kept : List Token) (cursor : Cursor) : Prop :=
  (kept ++ cursor.remaining).Sublist tokens

/-- Whether kept tokens, and after them those behind the current one, are found in this order among
all tokens. -/
def Cursor.Past (tokens kept : List Token) (cursor : Cursor) : Prop :=
  cursor.advance.Faces tokens kept

namespace Cursor

variable {tokens kept : List Token} {start stop : Cursor}

theorem Faces.onward (faces : start.Faces tokens kept) (onward : start.Onward stop) :
    stop.Faces tokens kept :=
  (onward.remaining.sublist.append_left kept).trans faces

theorem Faces.past (faces : start.Faces tokens kept) : start.Past tokens kept :=
  faces.onward (.advance start)

theorem Past.past_advance (past : start.Past tokens kept) : start.advance.Past tokens kept :=
  Faces.past past

/-- A token that is really there can be kept when the cursor goes past it. -/
theorem Faces.keep {token : Token} (faces : start.Faces tokens kept)
    (current : start.current = token) (real : token ≠ .eof) :
    start.Past tokens (kept ++ [token]) := by
  have shape : start.remaining = token :: start.advance.remaining := eq_cons_of_headD current real
  rw [Faces, shape] at faces
  rw [Past, Faces, List.append_assoc]
  exact faces

end Cursor

open Cursor

namespace Parse.Leads

variable {tokens kept : List Token}

theorem advance_bind {next : Unit → Parse Next}
    (rest : (next ()).Leads (Faces tokens kept) target) :
    (Parse.advance >>= next).Leads (Past tokens kept) target :=
  fun start past => rest start.advance past

/-- A step to a token that was seen to come. -/
theorem advance_facing {token : Token} {next : Unit → Parse Next}
    (rest : (next ()).Leads (fun start => start.Faces tokens kept ∧ start.current = token) target) :
    (Parse.advance >>= next).Leads
      (fun start => start.Past tokens kept ∧ start.upcoming = token) target :=
  fun start holds => rest start.advance holds

theorem expect_bind {kind : Kind} {next : Unit → Parse Next}
    (rest : (next ()).Leads
      (fun start => start.Faces tokens kept ∧ start.current.kind = kind) target) :
    (Parse.expect kind >>= next).Leads (Past tokens kept) target := by
  have expected : (Parse.expect kind).Leads (Past tokens kept)
      fun _ stop => stop.Faces tokens kept ∧ stop.current.kind = kind := by
    intro start past
    unfold Parse.expect
    split
    · next found => exact ⟨past, found⟩
    · trivial
  exact bind expected fun _ => rest

theorem skipOptional_bind {kind : Kind} {next : Unit → Parse Next}
    (rest : (next ()).Leads (Past tokens kept) target) :
    (Parse.skipOptional kind >>= next).Leads (Past tokens kept) target := by
  have skipped : (Parse.skipOptional kind).Leads (Past tokens kept) fun _ => Past tokens kept := by
    intro start past
    unfold Parse.skipOptional
    split
    · exact past.past_advance
    · exact past
  exact bind skipped fun _ => rest

theorem skipTo_bind {stop : Token → Bool} {next : Unit → Parse Next}
    (rest : (next ()).Leads (Faces tokens kept) target) :
    (Parse.skipTo stop >>= next).Leads (Faces tokens kept) target :=
  fun start faces => rest (start.skipTo stop) (faces.onward (.skipTo stop start))

/-- An attempt that fails has gone on without keeping a token. -/
theorem attempt_bind {parse : Parse Result} {next : Option Result → Parse Next}
    {words : Result → List Token} (onward : parse.Goes Onward Onward)
    (leads : parse.Leads (Faces tokens kept) fun value => Past tokens (kept ++ words value))
    (success : ∀ value, (next (some value)).Leads (Past tokens (kept ++ words value)) target)
    (failure : (next none).Leads (Faces tokens kept) target) :
    (Parse.attempt parse >>= next).Leads (Faces tokens kept) target := by
  intro start faces
  have goes := onward start
  have yields := leads start faces
  change (Parse.bind (Parse.attempt parse) next start).Yields target
  unfold Parse.bind Parse.attempt
  cases outcome : parse start with
  | parsed value stop =>
      rw [outcome] at yields
      exact success value stop yields
  | failed stop =>
      rw [outcome] at goes
      exact failure stop (faces.onward goes)
  | unfinished => trivial

/-- A token that a step goes past is kept. -/
theorem keep {parse : Parse Result} {token : Token} (real : token ≠ .eof)
    (leads : parse.Leads (Past tokens (kept ++ [token])) post) :
    parse.Leads (fun start => start.Faces tokens kept ∧ start.current = token) post :=
  leads.of_pre fun _ holds => holds.1.keep holds.2 real

theorem drop {parse : Parse Result} {condition : Cursor → Prop}
    (leads : parse.Leads (Past tokens kept) post) :
    parse.Leads (fun start => start.Faces tokens kept ∧ condition start) post :=
  leads.of_pre fun _ holds => holds.1.past

end Parse.Leads

/-! ## What the readers keep -/

namespace Identifier

variable {tokens : List Token}

theorem keeps_parse (kept : List Token) :
    Identifier.parse.Leads (Past tokens kept) fun identifier =>
      Past tokens (kept ++ [identifier.token]) := by
  refine .expect_bind (.current_bind fun token => .pure fun start holds => ?_)
  rcases holds with ⟨⟨faces, named⟩, current⟩
  refine faces.keep current ?_
  rintro rfl
  rw [current] at named
  cases named

theorem keeps_parseMore (budget : Nat) (kept : List Token) :
    (Identifier.parseMore budget).Leads (Past tokens kept) fun identifiers =>
      Past tokens (kept ++ identifiers.map Identifier.token) := by
  induction budget generalizing kept with
  | zero => exact fun _ _ => trivial
  | succ budget ih =>
      unfold Identifier.parseMore
      refine .upcoming_bind fun token => ?_
      split
      · refine .advance_facing (.drop (.bind (keeps_parse kept) fun parameter => ?_))
        refine .bind (ih _) fun rest => .pure fun stop past => ?_
        simpa using past
      · refine .of_pre (.expect_bind (.drop (.pure fun stop past => ?_))) fun _ holds => holds.1
        simpa using past

theorem keeps_parseList (budget : Nat) (kept : List Token) :
    (Identifier.parseList budget).Leads (Past tokens kept) fun identifiers =>
      Past tokens (kept ++ identifiers.map Identifier.token) := by
  unfold Identifier.parseList
  refine .upcoming_bind fun token => ?_
  split
  · refine .advance_facing (.drop (.pure fun stop past => ?_))
    simpa using past
  · refine .of_pre (.bind (keeps_parse kept) fun parameter => ?_) fun _ holds => holds.1
    refine .bind (keeps_parseMore budget _) fun rest => .pure fun stop past => ?_
    simpa using past

end Identifier

namespace Reader

/-- The tokens that the result of a reader keeps. -/
def tokens : (reader : Reader) → reader.Result → List Token
  | program | row => statementTokens
  | statement => Statement.tokens
  | block => Block.tokens
  | parameters => List.map Identifier.token
  | arguments | moreArguments => argumentTokens
  | expr _ | operators _ _ | operand | unary _ | group | conditional | function => Expr.tokens

/-- Where a reader starts: on its first token, or past one that belongs to its result already, as
does the expression that operators extend. -/
def Starts (all kept : List Token) : Reader → Cursor → Prop
  | program | row | statement | expr _ | operand => Faces all kept
  | block => fun start => start.Faces all kept ∧ start.current.kind = .punctuation .openBrace
  | operators _ left => Past all (kept ++ left.tokens)
  | unary operator => Past all (kept ++ [.operator operator])
  | conditional => Past all (kept ++ [.keyword .ifWord])
  | function => Past all (kept ++ [.keyword .fnWord])
  | group | parameters | arguments | moreArguments => Past all kept

/-- Where a reader stops: past the last token of its result, and the readers of statements on the
token that ends their row. -/
def Stops (all kept : List Token) : (reader : Reader) → reader.Result → Cursor → Prop
  | program, value | row, value => Faces all (kept ++ statementTokens value)
  | reader, value => Past all (kept ++ reader.tokens value)

/-- Whether all readings of a reader within a budget keep what its result keeps. -/
def Keeps (all : List Token) (budget : Nat) (reader : Reader) : Prop :=
  ∀ kept, (reader.read budget).Leads (reader.Starts all kept) (reader.Stops all kept)

namespace Keeps

variable {all : List Token} {budget : Nat} (readers : ∀ reader : Reader, reader.Keeps all budget)

include readers

theorem expr_succ (context : Precedence) : (expr context).Keeps all (budget + 1) := by
  intro kept
  exact .bind (readers operand kept) fun left => readers (operators context left) kept

theorem operators_succ (context : Precedence) (left : Expr) :
    (operators context left).Keeps all (budget + 1) := by
  intro kept
  change (Expr.parseOperators (budget + 1) context left).Leads _ _
  unfold Expr.parseOperators
  have stays : (Pure.pure left : Parse Expr).Leads
      (Past all (kept ++ left.tokens)) ((operators context left).Stops all kept) :=
    .pure fun _ past => past
  refine .upcoming_bind fun token => ?_
  split
  · next sign =>
      split
      · refine .advance_facing (.keep (by simp) (.advance_bind ?_))
        refine .bind (readers (expr sign.precedence) _) fun right => ?_
        refine .of_pre (readers (operators context _) kept) fun stop past => ?_
        simpa [Starts, Stops, tokens, Expr.tokens] using past
      · exact stays.of_pre fun _ holds => holds.1
  · split
    · refine .advance_facing (.keep (by simp) (.bind (readers arguments _) fun values => ?_))
      refine .of_pre (readers (operators context _) kept) fun stop past => ?_
      simpa [Starts, Stops, tokens, Expr.tokens] using past
    · exact stays.of_pre fun _ holds => holds.1
  · exact stays.of_pre fun _ holds => holds.1

theorem operand_succ : operand.Keeps all (budget + 1) := by
  intro kept
  change (Expr.parseOperand (budget + 1)).Leads _ _
  unfold Expr.parseOperand
  refine .current_bind fun token => ?_
  split
  · exact .keep (by simp) (.pure fun _ past => past)
  · split
    · exact .keep (by simp) (.pure fun _ past => past)
    · exact .fail _
  · exact .keep (by simp) (.pure fun _ past => past)
  · exact .keep (by simp) (.pure fun _ past => past)
  · exact .keep (by simp) (.pure fun _ past => past)
  · exact .keep (by simp) (readers (unary .bang) kept)
  · exact .keep (by simp) (readers (unary .minus) kept)
  · exact .drop (readers group kept)
  · exact .keep (by simp) (readers conditional kept)
  · exact .keep (by simp) (readers function kept)
  · exact .fail _

theorem unary_succ (sign : Operator) : (unary sign).Keeps all (budget + 1) := by
  intro kept
  change (Expr.parseUnary (budget + 1) sign).Leads _ _
  unfold Expr.parseUnary
  refine .advance_bind (.bind (readers (expr .unary) _) fun value => .pure fun stop past => ?_)
  simpa [Stops, tokens, Expr.tokens] using past

theorem group_succ : group.Keeps all (budget + 1) := by
  intro kept
  change (Expr.parseGroup (budget + 1)).Leads _ _
  unfold Expr.parseGroup
  refine .advance_bind (.bind (readers (expr .lowest) kept) fun value => ?_)
  exact .expect_bind (.drop (.pure fun _ past => past))

theorem conditional_succ : conditional.Keeps all (budget + 1) := by
  intro kept
  change (Expr.parseConditional (budget + 1)).Leads _ _
  unfold Expr.parseConditional
  refine .expect_bind (.drop (.advance_bind (.bind (readers (expr .lowest) _) fun value => ?_)))
  refine .expect_bind (.drop (.expect_bind (.bind (readers block _) fun consequence => ?_)))
  refine .upcoming_bind fun token => ?_
  split
  · refine .advance_facing (.drop (.expect_bind (.bind (readers block _) fun alternative => ?_)))
    refine .pure fun stop past => ?_
    simpa [Stops, tokens, Expr.tokens, alternativeTokens] using past
  · refine .pure fun stop holds => ?_
    simpa [Stops, tokens, Expr.tokens, alternativeTokens] using holds.1

theorem function_succ : function.Keeps all (budget + 1) := by
  intro kept
  change (Expr.parseFunction (budget + 1)).Leads _ _
  unfold Expr.parseFunction
  refine .expect_bind (.drop (.bind (Identifier.keeps_parseList budget _) fun names => ?_))
  refine .expect_bind (.bind (readers block _) fun body => .pure fun stop past => ?_)
  simpa [Stops, tokens, Expr.tokens] using past

theorem arguments_succ : arguments.Keeps all (budget + 1) := by
  intro kept
  change (Expr.parseArguments (budget + 1)).Leads _ _
  unfold Expr.parseArguments
  refine .upcoming_bind fun token => ?_
  split
  · refine .advance_facing (.drop (.pure fun stop past => ?_))
    simpa [Stops, tokens, argumentTokens] using past
  · refine .of_pre (.advance_bind (.bind (readers (expr .lowest) kept) fun argument => ?_))
      fun _ holds => holds.1
    refine .bind (readers moreArguments _) fun rest => .pure fun stop past => ?_
    simpa [Stops, tokens, argumentTokens] using past

theorem moreArguments_succ : moreArguments.Keeps all (budget + 1) := by
  intro kept
  change (Expr.parseMoreArguments (budget + 1)).Leads _ _
  unfold Expr.parseMoreArguments
  refine .upcoming_bind fun token => ?_
  split
  · refine .advance_facing (.drop (.advance_bind ?_))
    refine .bind (readers (expr .lowest) kept) fun argument => ?_
    refine .bind (readers moreArguments _) fun rest => .pure fun stop past => ?_
    simpa [Stops, tokens, argumentTokens] using past
  · refine .of_pre (.expect_bind (.drop (.pure fun stop past => ?_))) fun _ holds => holds.1
    simpa [Stops, tokens, argumentTokens] using past

theorem statement_succ : statement.Keeps all (budget + 1) := by
  intro kept
  change (Statement.parse (budget + 1)).Leads _ _
  unfold Statement.parse
  refine .current_bind fun token => ?_
  split
  · refine .keep (by simp) (.bind (Identifier.keeps_parse _) fun identifier => ?_)
    refine .expect_bind (.drop (.advance_bind (.bind (readers (expr .lowest) _) fun value => ?_)))
    refine .skipOptional_bind (.pure fun stop past => ?_)
    simpa [Stops, tokens, Statement.tokens] using past
  · refine .keep (by simp) (.advance_bind (.bind (readers (expr .lowest) _) fun value => ?_))
    refine .skipOptional_bind (.pure fun stop past => ?_)
    simpa [Stops, tokens, Statement.tokens] using past
  · refine .of_pre (.bind (readers (expr .lowest) kept) fun value => ?_) fun _ holds => holds.1
    exact .skipOptional_bind (.pure fun _ past => past)

theorem block_succ : block.Keeps all (budget + 1) := by
  intro kept
  change (Block.parse (budget + 1)).Leads _ _
  unfold Block.parse
  refine .current_bind fun token => ?_
  have opened : ∀ start : Cursor,
      (start.Faces all kept ∧ start.current.kind = .punctuation .openBrace) ∧
        start.current = token → start.Past all (kept ++ [token]) := by
    rintro start ⟨⟨faces, opens⟩, rfl⟩
    exact faces.keep rfl fun ended => by simp [ended, Token.kind] at opens
  refine .of_pre (.advance_bind (.bind (readers row _) fun values => ?_)) opened
  refine .current_bind fun found => ?_
  split
  · refine .pure fun stop holds => ?_
    simpa [Stops, tokens, Block.tokens] using holds.1.past
  · exact .fail _

theorem row_succ : row.Keeps all (budget + 1) := by
  intro kept
  change (Block.parseStatements (budget + 1)).Leads _ _
  unfold Block.parseStatements
  have ends : (Pure.pure [] : Parse (List Statement)).Leads (Faces all kept)
      (row.Stops all kept) :=
    .pure fun stop faces => by simpa [Stops, statementTokens] using faces
  refine .current_bind fun token => .of_pre ?_ fun _ holds => holds.1
  split
  · exact ends
  · exact ends
  · refine .attempt_bind (goesOnward budget).statement (readers statement kept) (fun value => ?_) ?_
    · refine .advance_bind (.bind (readers row _) fun rest => .pure fun stop faces => ?_)
      simpa [Stops, tokens, statementTokens] using faces
    · refine .skipTo_bind (.current_bind fun found => .of_pre ?_ fun _ holds => holds.1)
      split
      · exact ends
      · exact .of_pre (.advance_bind (readers row kept)) fun _ faces => faces.past

theorem program_succ : program.Keeps all (budget + 1) := by
  intro kept
  change (Program.parseStatements (budget + 1)).Leads _ _
  unfold Program.parseStatements
  refine .current_bind fun token => .of_pre ?_ fun _ holds => holds.1
  split
  · refine .pure fun stop faces => ?_
    simpa [Starts, Stops, statementTokens] using faces
  · refine .attempt_bind (goesOnward budget).statement (readers statement kept) (fun value => ?_) ?_
    · refine .advance_bind (.bind (readers program _) fun rest => .pure fun stop faces => ?_)
      simpa [Stops, tokens, statementTokens] using faces
    · refine .skipTo_bind (.of_pre (.advance_bind (readers program kept)) fun _ faces => ?_)
      exact faces.past

end Keeps

/-- By induction on the budget, since every reader calls the others with a smaller one. -/
theorem keeps (all : List Token) (budget : Nat) (reader : Reader) : reader.Keeps all budget := by
  induction budget generalizing reader with
  | zero => cases reader <;> exact fun _ _ _ => trivial
  | succ budget readers =>
      cases reader with
      | program => exact Keeps.program_succ readers
      | row => exact Keeps.row_succ readers
      | statement => exact Keeps.statement_succ readers
      | block => exact Keeps.block_succ readers
      | expr context => exact Keeps.expr_succ readers context
      | operators context left => exact Keeps.operators_succ readers context left
      | operand => exact Keeps.operand_succ readers
      | unary sign => exact Keeps.unary_succ readers sign
      | group => exact Keeps.group_succ readers
      | conditional => exact Keeps.conditional_succ readers
      | function => exact Keeps.function_succ readers
      | parameters => exact Identifier.keeps_parseMore (budget + 1)
      | arguments => exact Keeps.arguments_succ readers
      | moreArguments => exact Keeps.moreArguments_succ readers

end Reader

/-! ## What is read without a diagnostic -/

/-- Whether a token always has a place in the tree of what is read without a diagnostic; marks and
the word `else` only hold the other tokens together. -/
def Token.isContent : Token → Bool
  | .punctuation _ => false
  | .keyword word => word != .elseWord
  | _ => true

@[simp]
theorem Token.isContent_punctuation (mark : Punctuation) : (punctuation mark).isContent = false :=
  rfl

@[simp]
theorem Token.isContent_keyword (word : Keyword) :
    (keyword word).isContent = (word != .elseWord) :=
  rfl

namespace Phrase

def tokens : Phrase → List Token
  | expression _ value => value.tokens
  | arguments values => argumentTokens values
  | statement value => value.tokens
  | statements values => statementTokens values
  | block value => value.tokens

theorem filter_parameterTokens (names : List String) :
    ((parameters names).map Identifier.token).filter Token.isContent =
      (parameterTokens names).filter Token.isContent := by
  have listed : ((parameters names).map Identifier.token).filter Token.isContent =
      names.map Token.ident := by
    induction names with
    | nil => rfl
    | cons name names ih => exact congrArg (Token.ident name :: ·) ih
  rw [listed]
  cases names with
  | nil => rfl
  | cons name names =>
      rw [parameterTokens_cons, List.filter_cons_of_pos rfl, List.map_cons]
      congr 1
      clear listed
      induction names with
      | nil => rfl
      | cons name names ih => exact congrArg (Token.ident name :: ·) ih

/-- A tree keeps all the content of the tokens that it derives from. -/
theorem Derives.filter_tokens {phrase : Phrase} {tokens : List Token}
    (derives : phrase.Derives tokens) :
    phrase.tokens.filter Token.isContent = tokens.filter Token.isContent := by
  induction derives with
  | tighter _ _ ih => exact ih
  | binary _ _ _ _ ihLeft ihRight =>
      simp_all [Phrase.tokens, Expr.tokens, List.filter_cons]
  | unary _ _ ih => simp_all [Phrase.tokens, Expr.tokens, List.filter_cons]
  | call _ _ ihCallee ihArguments => simp_all [Phrase.tokens, Expr.tokens]
  | group _ ih => simp_all [Phrase.tokens]
  | conditional _ _ ihCondition ihConsequence =>
      simp_all [Phrase.tokens, Expr.tokens, alternativeTokens, List.filter_cons]
  | alternative _ _ _ ihCondition ihConsequence ihAlternative =>
      simp_all [Phrase.tokens, Expr.tokens, alternativeTokens, List.filter_cons]
  | @function names _ _ _ ih =>
      simp_all [Phrase.tokens, Expr.tokens, List.filter_cons, filter_parameterTokens names]
  | lastArgument _ ih => simp_all [Phrase.tokens, argumentTokens]
  | moreArguments _ _ ihValue ihRest => simp_all [Phrase.tokens, argumentTokens]
  | bind _ ih => simp_all [Phrase.tokens, Statement.tokens, List.filter_cons, Identifier.ofToken]
  | result _ ih => simp_all [Phrase.tokens, Statement.tokens, List.filter_cons]
  | expr _ ih => exact ih
  | terminated _ _ ihValue ihRest => simp_all [Phrase.tokens, statementTokens]
  | unterminated _ _ _ ihValue ihRest => simp_all [Phrase.tokens, statementTokens]
  | block _ ih => simp_all [Phrase.tokens, Block.tokens]
  | _ => rfl

end Phrase

namespace Program

theorem tokens_parse_sublist (tokens : List Token) :
    (Program.parse tokens).program.tokens.Sublist tokens := by
  have yields := Reader.keeps tokens (parseBudget tokens) .program [] ⟨tokens, []⟩
    (List.Sublist.refl tokens)
  change (Program.parseStatements (parseBudget tokens) ⟨tokens, []⟩).Yields _ at yields
  unfold Program.parse
  cases outcome : Program.parseStatements (parseBudget tokens) ⟨tokens, []⟩ with
  | parsed values stop =>
      rw [outcome] at yields
      exact (List.sublist_append_left _ stop.remaining).trans yields
  | failed stop => exact List.nil_sublist tokens
  | unfinished => exact List.nil_sublist tokens

theorem filter_tokens_parse {tokens : List Token} (noEnd : .eof ∉ tokens)
    (accepted : (Program.parse tokens).accepted = true) :
    (Program.parse tokens).program.tokens.filter Token.isContent =
      tokens.filter Token.isContent := by
  have quiet : (Program.parse tokens).diagnostics = [] := List.isEmpty_iff.mp accepted
  have parsed : Program.parse tokens = ⟨(Program.parse tokens).program, []⟩ := by
    rw [← quiet]
  exact (derives_of_parse noEnd parsed).filter_tokens

/-- The tree of what is read keeps tokens of the input, each of them once and all in their order,
whatever the diagnostics. If there are none, it keeps all that is content. -/
theorem parse_keeps (tokens : List Token) :
    (Program.parse tokens).program.tokens.Sublist tokens ∧
      (.eof ∉ tokens → (Program.parse tokens).accepted = true →
        (Program.parse tokens).program.tokens.filter Token.isContent =
          tokens.filter Token.isContent) :=
  ⟨tokens_parse_sublist tokens, filter_tokens_parse⟩

/-- Of `let f = (a + b)(c);` a tree keeps neither the parentheses of the group nor the marks that
end things, and the statement `- ;` in front of it leaves no trace. -/
theorem parse_keeps_group :
    let written : List Token := [.keyword .letWord, .ident "f", .punctuation .assign,
      .punctuation .openParen, .ident "a", .operator .plus, .ident "b", .punctuation .closeParen,
      .punctuation .openParen, .ident "c", .punctuation .closeParen, .punctuation .semicolon]
    let kept : List Token := [.keyword .letWord, .ident "f", .ident "a", .operator .plus,
      .ident "b", .punctuation .openParen, .ident "c"]
    .eof ∉ written ∧ (Program.parse written).accepted = true ∧
      kept.filter Token.isContent = written.filter Token.isContent ∧
      kept.Sublist (.operator .minus :: .punctuation .semicolon :: written) := by
  intro written kept
  have noEnd : .eof ∉ written := by decide
  have accepted : (Program.parse written).accepted = true := rfl
  refine ⟨noEnd, accepted, (parse_keeps written).2 noEnd accepted, ?_⟩
  exact (parse_keeps (.operator .minus :: .punctuation .semicolon :: written)).1

end Program

end Monkey
