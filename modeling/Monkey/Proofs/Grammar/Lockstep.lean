import Monkey.Proofs.Grammar.Soundness

/-!
# Readings side by side

A reader sees the current token and the one after it, and nothing of the tokens and diagnostics
behind it. So two readings go in step as long as the tokens in front of them are alike, whatever
diagnostics there were before and however much of a budget each of them has, if it suffices.

Equal token lists are alike, which shows that budgets and earlier diagnostics do not matter. Only
the readers of rows of statements step over a semicolon or the end mark, so lists that differ in
what follows one are alike as well, as long as no block opens before it.
-/

namespace Monkey

variable {Result Next : Type}

theorem Token.endsStatementOfBlock_of_ends {token : Token} (ends : token.endsStatement = true) :
    token.endsStatementOfBlock = true := by
  rw [Token.endsStatementOfBlock, ends, Bool.true_or]

/-- Whether what is left of paired token lists after a step is paired, wherever they are. -/
def Token.Onward (alike : List Token → List Token → Prop) : Prop :=
  ∀ left right, alike left right → alike left.tail right.tail

/-- Whether a relation pairs token lists that readers cannot tell apart: they start with the same
token, and what is left of them after it is paired again, unless it ends a statement. If a block
opens, what is left after any token has to be paired. -/
structure Token.Alike (alike : List Token → List Token → Prop) : Prop where
  head {left right : List Token} (same : alike left right) :
    left.headD .eof = right.headD .eof
  tail {left right : List Token} (same : alike left right)
    (inside : (left.headD .eof).endsStatement = false) : alike left.tail right.tail
  onward {left right : List Token} (same : alike left right)
    (opens : left.headD .eof = .punctuation .openBrace) : Token.Onward alike

theorem Token.onward_eq : Token.Onward Eq :=
  fun _ _ same => same ▸ rfl

theorem Token.alike_eq : Token.Alike Eq where
  head same := same ▸ rfl
  tail same _ := same ▸ rfl
  onward _ _ := onward_eq

/-- What is left after a search that ends with the statement at the latest is paired. -/
theorem Token.Alike.dropWhile {alike : List Token → List Token → Prop} (pairs : Token.Alike alike)
    {stop : Token → Bool} (atEnds : ∀ token, token.endsStatement = true → stop token = true)
    {left right : List Token} (same : alike left right) :
    alike (left.dropWhile fun token => !stop token) (right.dropWhile fun token => !stop token) := by
  induction left generalizing right with
  | nil =>
      have head := pairs.head same
      cases right with
      | nil => exact same
      | cons first rest =>
          obtain rfl : Token.eof = first := head
          simpa [atEnds .eof rfl] using same
  | cons first rest ih =>
      have head := pairs.head same
      by_cases stops : stop first = true
      · cases right with
        | nil => simpa [stops] using same
        | cons second others =>
            obtain rfl : first = second := head
            simpa [stops] using same
      · cases right with
        | nil =>
            obtain rfl : first = Token.eof := head
            exact absurd (atEnds .eof rfl) stops
        | cons second others =>
            obtain rfl : first = second := head
            have inside : first.endsStatement = false :=
              Bool.eq_false_iff.mpr fun ends => stops (atEnds first ends)
            simpa [stops] using ih (pairs.tail same inside)

/-- Whether two cursors stand on tokens that are alike, the first one with more diagnostics before
those of the second one. -/
structure Cursor.Abreast (alike : List Token → List Token → Prop) (before : List Diagnostic)
    (near far : Cursor) : Prop where
  remaining : alike near.remaining far.remaining
  diagnostics : near.diagnostics = before ++ far.diagnostics

theorem Cursor.Abreast.report {alike : List Token → List Token → Prop} {before : List Diagnostic}
    {near far : Cursor} (abreast : near.Abreast alike before far) (diagnostic : Diagnostic) :
    (near.report diagnostic).Abreast alike before (far.report diagnostic) := by
  refine ⟨abreast.remaining, ?_⟩
  rw [Cursor.report, Cursor.report, abreast.diagnostics, List.append_assoc]

theorem Cursor.Abreast.eq {near far : Cursor} (abreast : near.Abreast Eq [] far) : near = far := by
  rcases near with ⟨tokens, diagnostics⟩
  rcases abreast with ⟨rfl, rfl⟩
  rfl

/-- Whether two outcomes are the same but for what their cursors differ in, and a result leaves
tokens that keep to a condition; nothing is asked of a reading whose budget was spent. -/
def Outcome.Follows (alike : List Token → List Token → Prop) (before : List Diagnostic)
    (post : List Token → Prop) : Outcome Result → Outcome Result → Prop
  | .parsed value near, .parsed value' far =>
      value = value' ∧ near.Abreast alike before far ∧ post near.remaining
  | .failed near, .failed far => near.Abreast alike before far
  | .unfinished, _ => True
  | _, .unfinished => True
  | _, _ => False

theorem Outcome.follows_unfinished {alike : List Token → List Token → Prop}
    {before : List Diagnostic} {post : List Token → Prop} (near : Outcome Result) :
    near.Follows alike before post .unfinished := by
  cases near <;> trivial

namespace Parse

/-- A row of tokens of which nothing is known. -/
def Anywhere (_ : List Token) : Prop :=
  True

/-- Whether a row of tokens starts with a given one. -/
def On (token : Token) (tokens : List Token) : Prop :=
  tokens.headD .eof = token

/-- Whether a row of tokens does not start where a statement ends. -/
def Inside (tokens : List Token) : Prop :=
  (tokens.headD .eof).endsStatement = false

/-- Whether a row of tokens does not start where a statement ends and has a given token after the
first one. -/
def Facing (token : Token) (tokens : List Token) : Prop :=
  Inside tokens ∧ On token tokens.tail

theorem On.inside {token : Token} {tokens : List Token} (on : On token tokens)
    (other : token.endsStatement = false) : Inside tokens :=
  (congrArg Token.endsStatement on).trans other

/-- Whether two readers go in step from tokens that keep to a condition. -/
def InStep (alike : List Token → List Token → Prop) (before : List Diagnostic)
    (pre post : List Token → Prop) (near far : Parse Result) : Prop :=
  ∀ start start', start.Abreast alike before start' → pre start.remaining →
    (near start).Follows alike before post (far start')

namespace InStep

variable {alike : List Token → List Token → Prop} {before : List Diagnostic}
  {pre mid post : List Token → Prop}

theorem pure {value : Result} (keeps : ∀ tokens, pre tokens → post tokens) :
    InStep alike before pre post (Pure.pure value) (Pure.pure value) :=
  fun _ _ abreast holds => ⟨rfl, abreast, keeps _ holds⟩

theorem fail (diagnostic : Diagnostic) :
    InStep alike before pre post (Parse.fail diagnostic : Parse Result)
      (Parse.fail diagnostic) :=
  fun _ _ abreast _ => abreast.report diagnostic

theorem unfinished_left (far : Parse Result) :
    InStep alike before pre post Parse.unfinished far :=
  fun _ _ _ _ => trivial

theorem unfinished_right (near : Parse Result) :
    InStep alike before pre post near Parse.unfinished :=
  fun start _ _ _ => (near start).follows_unfinished

theorem weaken {near far : Parse Result} {stronger : List Token → Prop}
    (inStep : InStep alike before pre post near far)
    (implies : ∀ tokens, stronger tokens → pre tokens) :
    InStep alike before stronger post near far :=
  fun start start' abreast holds => inStep start start' abreast (implies _ holds)

theorem on {near far : Parse Result} {token : Token} (other : token.endsStatement = false)
    (inStep : InStep alike before Inside post near far) :
    InStep alike before (On token) post near far :=
  inStep.weaken fun _ on => on.inside other

theorem facing {near far : Parse Result} {token : Token}
    (inStep : InStep alike before Inside post near far) :
    InStep alike before (Facing token) post near far :=
  inStep.weaken fun _ facing => facing.1

theorem bind {near far : Parse Result} {next next' : Result → Parse Next}
    (inStep : InStep alike before pre mid near far)
    (rest : ∀ value, InStep alike before mid post (next value) (next' value)) :
    InStep alike before pre post (near >>= next) (far >>= next') := by
  intro start start' abreast holds
  have follows := inStep start start' abreast holds
  change (Parse.bind near next start).Follows alike before post (Parse.bind far next' start')
  unfold Parse.bind
  cases outcome : near start <;> cases outcome' : far start' <;> rw [outcome, outcome'] at follows
  case parsed.parsed =>
    rcases follows with ⟨rfl, abreast, holds⟩
    exact rest _ _ _ abreast holds
  case parsed.failed => exact follows.elim
  case failed.parsed => exact follows.elim
  case failed.failed => exact follows
  case parsed.unfinished => exact Outcome.follows_unfinished _
  all_goals trivial

theorem attempt {near far : Parse Result} (inStep : InStep alike before pre post near far) :
    InStep alike before pre Anywhere (Parse.attempt near) (Parse.attempt far) := by
  intro start start' abreast holds
  have follows := inStep start start' abreast holds
  unfold Parse.attempt
  cases outcome : near start <;> cases outcome' : far start' <;> rw [outcome, outcome'] at follows
  case parsed.parsed => exact ⟨congrArg some follows.1, follows.2.1, trivial⟩
  case parsed.failed => exact follows.elim
  case failed.parsed => exact follows.elim
  case failed.failed => exact ⟨rfl, follows, trivial⟩
  all_goals trivial

theorem advance_onward (onward : Token.Onward alike) {next next' : Unit → Parse Next}
    (rest : InStep alike before Anywhere post (next ()) (next' ())) :
    InStep alike before pre post (Parse.advance >>= next) (Parse.advance >>= next') :=
  fun start start' abreast _ => rest start.advance start'.advance
    ⟨onward _ _ abreast.remaining, abreast.diagnostics⟩ trivial

section Alike

variable (pairs : Token.Alike alike)

include pairs

theorem current : InStep alike before pre pre Parse.current Parse.current :=
  fun _ _ abreast holds => ⟨pairs.head abreast.remaining, abreast, holds⟩

theorem current_bind {next next' : Token → Parse Next}
    (rest : ∀ token, InStep alike before (On token) post (next token) (next' token)) :
    InStep alike before pre post (Parse.current >>= next) (Parse.current >>= next') := by
  intro start start' abreast _
  have same : start.current = start'.current := pairs.head abreast.remaining
  change (next start.current start).Follows alike before post (next' start'.current start')
  rw [← same]
  exact rest _ start start' abreast rfl

theorem upcoming_eq {start start' : Cursor} (abreast : start.Abreast alike before start')
    (inside : Inside start.remaining) : start.upcoming = start'.upcoming :=
  pairs.head (pairs.tail abreast.remaining inside)

theorem upcoming_bind {next next' : Token → Parse Next}
    (rest : ∀ token, InStep alike before (Facing token) post (next token) (next' token)) :
    InStep alike before Inside post (Parse.upcoming >>= next) (Parse.upcoming >>= next') := by
  intro start start' abreast inside
  change (next start.upcoming start).Follows alike before post (next' start'.upcoming start')
  rw [← upcoming_eq pairs abreast inside]
  exact rest _ start start' abreast ⟨inside, rfl⟩

theorem advance_bind {next next' : Unit → Parse Next}
    (rest : InStep alike before Anywhere post (next ()) (next' ())) :
    InStep alike before Inside post (Parse.advance >>= next) (Parse.advance >>= next') :=
  fun start start' abreast inside => rest start.advance start'.advance
    ⟨pairs.tail abreast.remaining inside, abreast.diagnostics⟩ trivial

theorem advance_facing {token : Token} {next next' : Unit → Parse Next}
    (rest : InStep alike before (On token) post (next ()) (next' ())) :
    InStep alike before (Facing token) post (Parse.advance >>= next) (Parse.advance >>= next') :=
  fun start start' abreast facing => rest start.advance start'.advance
    ⟨pairs.tail abreast.remaining facing.1, abreast.diagnostics⟩ facing.2

theorem expect (kind : Kind) :
    InStep alike before Inside (fun tokens => (tokens.headD .eof).kind = kind) (Parse.expect kind)
      (Parse.expect kind) := by
  intro start start' abreast inside
  unfold Parse.expect
  rw [← upcoming_eq pairs abreast inside]
  split
  · next found =>
      exact ⟨rfl, ⟨pairs.tail abreast.remaining inside, abreast.diagnostics⟩, found⟩
  · exact abreast.report _

theorem expect_bind {mark : Punctuation} {next next' : Unit → Parse Next}
    (rest : InStep alike before (On (.punctuation mark)) post (next ()) (next' ())) :
    InStep alike before Inside post (Parse.expect (.punctuation mark) >>= next)
      (Parse.expect (.punctuation mark) >>= next') :=
  .bind (.expect pairs _) fun _ => rest.weaken fun _ => Token.eq_of_kind_punctuation

theorem skipOptional (kind : Kind) :
    InStep alike before Inside Anywhere (Parse.skipOptional kind) (Parse.skipOptional kind) := by
  intro start start' abreast inside
  unfold Parse.skipOptional
  rw [← upcoming_eq pairs abreast inside]
  split
  · exact ⟨rfl, ⟨pairs.tail abreast.remaining inside, abreast.diagnostics⟩, trivial⟩
  · exact ⟨rfl, abreast, trivial⟩

theorem skipTo {stop : Token → Bool}
    (atEnds : ∀ token, token.endsStatement = true → stop token = true) :
    InStep alike before pre Anywhere (Parse.skipTo stop) (Parse.skipTo stop) :=
  fun _ _ abreast _ =>
    ⟨rfl, ⟨pairs.dropWhile atEnds abreast.remaining, abreast.diagnostics⟩, trivial⟩

end Alike

end InStep

end Parse

open Parse

/-! ## Parameters -/

namespace Identifier

variable {alike : List Token → List Token → Prop} {before : List Diagnostic}
  (pairs : Token.Alike alike)

include pairs

theorem inStep_parse : InStep alike before Inside Inside Identifier.parse Identifier.parse := by
  unfold Identifier.parse
  refine .bind (.expect pairs .ident) fun _ => .bind (.current pairs) fun _ => ?_
  refine .pure fun tokens kind => ?_
  unfold Inside
  generalize tokens.headD .eof = token at kind
  cases token with
  | ident name => rfl
  | _ => cases kind

theorem inStep_parseMore (budget budget' : Nat) :
    InStep alike before Inside Inside (Identifier.parseMore budget)
      (Identifier.parseMore budget') := by
  induction budget generalizing budget' with
  | zero => exact .unfinished_left _
  | succ budget ih =>
      cases budget' with
      | zero => exact .unfinished_right _
      | succ budget' =>
          unfold Identifier.parseMore
          refine .upcoming_bind pairs fun token => ?_
          split
          · refine .advance_facing pairs (.on rfl (.bind (inStep_parse pairs) fun _ => ?_))
            exact .bind (ih budget') fun _ => .pure fun _ inside => inside
          · exact .facing (.expect_bind pairs (.on rfl (.pure fun _ inside => inside)))

theorem inStep_parseList (budget budget' : Nat) :
    InStep alike before Inside Inside (Identifier.parseList budget)
      (Identifier.parseList budget') := by
  unfold Identifier.parseList
  refine .upcoming_bind pairs fun token => ?_
  split
  · exact .advance_facing pairs (.on rfl (.pure fun _ inside => inside))
  · refine .facing (.bind (inStep_parse pairs) fun _ => ?_)
    exact .bind (inStep_parseMore pairs budget budget') fun _ => .pure fun _ inside => inside

end Identifier

/-! ## Expressions and statements -/

namespace Parse

/-- How the readers of two budgets go in step. The readers of a row of statements step over what
ends a statement. -/
structure Lockstep (alike : List Token → List Token → Prop) (before : List Diagnostic)
    (budget budget' : Nat) : Prop where
  expr (context : Precedence) :
    InStep alike before Anywhere Inside (Expr.parse budget context) (Expr.parse budget' context)
  operators (context : Precedence) (left : Expr) :
    InStep alike before Inside Inside (Expr.parseOperators budget context left)
      (Expr.parseOperators budget' context left)
  operand :
    InStep alike before Anywhere Inside (Expr.parseOperand budget) (Expr.parseOperand budget')
  unary (operator : Operator) :
    InStep alike before Inside Inside (Expr.parseUnary budget operator)
      (Expr.parseUnary budget' operator)
  group : InStep alike before Inside Inside (Expr.parseGroup budget) (Expr.parseGroup budget')
  conditional :
    InStep alike before Inside Inside (Expr.parseConditional budget)
      (Expr.parseConditional budget')
  function :
    InStep alike before Inside Inside (Expr.parseFunction budget) (Expr.parseFunction budget')
  arguments :
    InStep alike before Inside Inside (Expr.parseArguments budget) (Expr.parseArguments budget')
  moreArguments :
    InStep alike before Inside Inside (Expr.parseMoreArguments budget)
      (Expr.parseMoreArguments budget')
  statement :
    InStep alike before Anywhere Anywhere (Statement.parse budget) (Statement.parse budget')
  block :
    InStep alike before (On (.punctuation .openBrace)) Inside (Block.parse budget)
      (Block.parse budget')
  statements (onward : Token.Onward alike) :
    InStep alike before Anywhere Anywhere (Block.parseStatements budget)
      (Block.parseStatements budget')

namespace Lockstep

variable {alike : List Token → List Token → Prop} {before : List Diagnostic}
  {budget budget' : Nat}

theorem unfinished_left : Lockstep alike before 0 budget' where
  expr _ := .unfinished_left _
  operators _ _ := .unfinished_left _
  operand := .unfinished_left _
  unary _ := .unfinished_left _
  group := .unfinished_left _
  conditional := .unfinished_left _
  function := .unfinished_left _
  arguments := .unfinished_left _
  moreArguments := .unfinished_left _
  statement := .unfinished_left _
  block := .unfinished_left _
  statements _ := .unfinished_left _

theorem unfinished_right : Lockstep alike before budget 0 where
  expr _ := .unfinished_right _
  operators _ _ := .unfinished_right _
  operand := .unfinished_right _
  unary _ := .unfinished_right _
  group := .unfinished_right _
  conditional := .unfinished_right _
  function := .unfinished_right _
  arguments := .unfinished_right _
  moreArguments := .unfinished_right _
  statement := .unfinished_right _
  block := .unfinished_right _
  statements _ := .unfinished_right _

variable (pairs : Token.Alike alike) (readers : Lockstep alike before budget budget')

include pairs readers

theorem operators_succ (context : Precedence) (left : Expr) :
    InStep alike before Inside Inside (Expr.parseOperators (budget + 1) context left)
      (Expr.parseOperators (budget' + 1) context left) := by
  unfold Expr.parseOperators
  refine .upcoming_bind pairs fun token => ?_
  split
  · split
    · refine .advance_facing pairs (.on rfl (.advance_bind pairs ?_))
      exact .bind (readers.expr _) fun _ => readers.operators _ _
    · exact .facing (.pure fun _ inside => inside)
  · split
    · refine .advance_facing pairs (.on rfl (.bind readers.arguments fun _ => ?_))
      exact readers.operators _ _
    · exact .facing (.pure fun _ inside => inside)
  · exact .facing (.pure fun _ inside => inside)

theorem operand_succ :
    InStep alike before Anywhere Inside (Expr.parseOperand (budget + 1))
      (Expr.parseOperand (budget' + 1)) := by
  unfold Expr.parseOperand
  refine .current_bind pairs fun token => ?_
  split
  · exact .on rfl (.pure fun _ inside => inside)
  · split
    · exact .on rfl (.pure fun _ inside => inside)
    · exact .fail _
  · exact .on rfl (.pure fun _ inside => inside)
  · exact .on rfl (.pure fun _ inside => inside)
  · exact .on rfl (.pure fun _ inside => inside)
  · exact .on rfl (readers.unary _)
  · exact .on rfl (readers.unary _)
  · exact .on rfl readers.group
  · exact .on rfl readers.conditional
  · exact .on rfl readers.function
  · exact .fail _

theorem unary_succ (operator : Operator) :
    InStep alike before Inside Inside (Expr.parseUnary (budget + 1) operator)
      (Expr.parseUnary (budget' + 1) operator) := by
  unfold Expr.parseUnary
  exact .advance_bind pairs (.bind (readers.expr _) fun _ => .pure fun _ inside => inside)

theorem group_succ :
    InStep alike before Inside Inside (Expr.parseGroup (budget + 1))
      (Expr.parseGroup (budget' + 1)) := by
  unfold Expr.parseGroup
  refine .advance_bind pairs (.bind (readers.expr _) fun _ => ?_)
  exact .expect_bind pairs (.on rfl (.pure fun _ inside => inside))

theorem conditional_succ :
    InStep alike before Inside Inside (Expr.parseConditional (budget + 1))
      (Expr.parseConditional (budget' + 1)) := by
  unfold Expr.parseConditional
  refine .expect_bind pairs (.on rfl (.advance_bind pairs ?_))
  refine .bind (readers.expr _) fun _ => .expect_bind pairs (.on rfl ?_)
  refine .expect_bind pairs (.bind readers.block fun _ => .upcoming_bind pairs fun token => ?_)
  split
  · refine .advance_facing pairs (.on rfl (.expect_bind pairs ?_))
    exact .bind readers.block fun _ => .pure fun _ inside => inside
  · exact .facing (.pure fun _ inside => inside)

theorem function_succ :
    InStep alike before Inside Inside (Expr.parseFunction (budget + 1))
      (Expr.parseFunction (budget' + 1)) := by
  unfold Expr.parseFunction
  refine .expect_bind pairs (.on rfl ?_)
  refine .bind (Identifier.inStep_parseList pairs budget budget') fun _ => ?_
  exact .expect_bind pairs (.bind readers.block fun _ => .pure fun _ inside => inside)

theorem arguments_succ :
    InStep alike before Inside Inside (Expr.parseArguments (budget + 1))
      (Expr.parseArguments (budget' + 1)) := by
  unfold Expr.parseArguments
  refine .upcoming_bind pairs fun token => ?_
  split
  · exact .advance_facing pairs (.on rfl (.pure fun _ inside => inside))
  · refine .facing (.advance_bind pairs (.bind (readers.expr _) fun _ => ?_))
    exact .bind readers.moreArguments fun _ => .pure fun _ inside => inside

theorem moreArguments_succ :
    InStep alike before Inside Inside (Expr.parseMoreArguments (budget + 1))
      (Expr.parseMoreArguments (budget' + 1)) := by
  unfold Expr.parseMoreArguments
  refine .upcoming_bind pairs fun token => ?_
  split
  · refine .advance_facing pairs (.on rfl (.advance_bind pairs ?_))
    refine .bind (readers.expr _) fun _ => .bind readers.moreArguments fun _ => ?_
    exact .pure fun _ inside => inside
  · exact .facing (.expect_bind pairs (.on rfl (.pure fun _ inside => inside)))

theorem statement_succ :
    InStep alike before Anywhere Anywhere (Statement.parse (budget + 1))
      (Statement.parse (budget' + 1)) := by
  unfold Statement.parse
  refine .current_bind pairs fun token => ?_
  have ending (value : Expr → Statement) :
      InStep alike before Anywhere Anywhere
        (Expr.parse budget .lowest >>= fun read =>
          Parse.skipOptional (.punctuation .semicolon) >>= fun _ => pure (value read))
        (Expr.parse budget' .lowest >>= fun read =>
          Parse.skipOptional (.punctuation .semicolon) >>= fun _ => pure (value read)) :=
    .bind (readers.expr _) fun _ => .bind (.skipOptional pairs _) fun _ =>
      .pure fun _ holds => holds
  split
  · refine .on rfl (.bind (Identifier.inStep_parse pairs) fun _ => ?_)
    exact .expect_bind pairs (.on rfl (.advance_bind pairs (ending _)))
  · exact .on rfl (.advance_bind pairs (ending _))
  · exact (ending _).weaken fun _ _ => trivial

theorem block_succ :
    InStep alike before (On (.punctuation .openBrace)) Inside (Block.parse (budget + 1))
      (Block.parse (budget' + 1)) := by
  intro start start' abreast opens
  have onward := pairs.onward abreast.remaining opens
  unfold Block.parse
  refine InStep.current_bind pairs (fun token => ?_) start start' abreast opens
  refine .advance_onward onward (.bind (readers.statements onward) fun _ => ?_)
  refine .current_bind pairs fun token => ?_
  split
  · exact .on rfl (.pure fun _ inside => inside)
  · exact .fail _

theorem statements_succ (onward : Token.Onward alike) :
    InStep alike before Anywhere Anywhere (Block.parseStatements (budget + 1))
      (Block.parseStatements (budget' + 1)) := by
  have ending {token : Token} {values : List Statement} :
      InStep alike before (On token) Anywhere (pure values : Parse (List Statement))
        (pure values) :=
    .pure fun _ _ => trivial
  unfold Block.parseStatements
  refine .current_bind pairs fun token => ?_
  split
  · exact ending
  · exact ending
  · refine .bind (.attempt (readers.statement.weaken fun _ _ => trivial)) fun attempted => ?_
    split
    · refine .advance_onward onward (.bind (readers.statements onward) fun _ => ?_)
      exact .pure fun _ holds => holds
    · refine .bind (.skipTo pairs fun _ => Token.endsStatementOfBlock_of_ends) fun _ => ?_
      refine .current_bind pairs fun token => ?_
      split
      · exact ending
      · exact .advance_onward onward (readers.statements onward)

end Lockstep

/-- By induction on the budgets, since every reader calls the others with smaller ones. -/
theorem lockstep {alike : List Token → List Token → Prop} (pairs : Token.Alike alike)
    (before : List Diagnostic) (budget budget' : Nat) : Lockstep alike before budget budget' := by
  induction budget generalizing budget' with
  | zero => exact .unfinished_left
  | succ budget ih =>
      cases budget' with
      | zero => exact .unfinished_right
      | succ budget' =>
          have readers := ih budget'
          exact {
            expr := fun context => .bind readers.operand fun _ => readers.operators context _
            operators := readers.operators_succ pairs
            operand := readers.operand_succ pairs
            unary := readers.unary_succ pairs
            group := readers.group_succ pairs
            conditional := readers.conditional_succ pairs
            function := readers.function_succ pairs
            arguments := readers.arguments_succ pairs
            moreArguments := readers.moreArguments_succ pairs
            statement := readers.statement_succ pairs
            block := readers.block_succ pairs
            statements := readers.statements_succ pairs }

end Parse

end Monkey
