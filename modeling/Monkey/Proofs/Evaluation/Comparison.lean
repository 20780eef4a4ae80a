import Monkey.Evaluation.Basic
import Monkey.Proofs.Evaluation.Related

/-!
# Comparing evaluations

Two evaluations of the same tree, in two arenas and under two frame policies, agree if the arenas
correspond and go on to correspond under the few operations that evaluation performs on them.
`Simulates` lists these operations. What is shown here from that list is shown once, by
induction on the tree and on the number of calls that may be nested.

A correspondence pairs the frames that closures may refer to, the identities of closures, and the
handles. More frames correspond while an evaluation runs, and the handle of a call comes and
goes.
-/

namespace Monkey

/-- Which frames that closures may refer to, which identities of closures, and which handles
stand for each other in two arenas. -/
structure Correspondence where
  homes : FrameId → FrameId → Prop
  ids : ClosureId → ClosureId → Prop
  held : List (FrameId × FrameId)

namespace Correspondence

/-- The same pairs and perhaps more of frames, with the same identities and handles. -/
structure Later (earlier later : Correspondence) : Prop where
  homes : ∀ left right, earlier.homes left right → later.homes left right
  ids : later.ids = earlier.ids
  held : later.held = earlier.held

/-- Closures over the same function literal whose identities and homes stand for each other. -/
structure Closures (pairs : Correspondence) (left right : Closure) : Prop where
  ids : pairs.ids left.id right.id
  parameters : left.parameters = right.parameters
  body : left.body = right.body
  homes : pairs.homes left.home right.home

/-- Values that agree up to closures that stand for each other. -/
def Values (pairs : Correspondence) : Value → Value → Prop :=
  Value.Related pairs.Closures

/-- Arguments that agree up to closures that stand for each other, or the same for the pending
results met instead. -/
inductive Operands (pairs : Correspondence) : Arguments → Arguments → Prop where
  | values {left right : List Value} (same : List.Forall₂ pairs.Values left right) :
      Operands pairs (.values left) (.values right)
  | returned {left right : Value} (same : pairs.Values left right) :
      Operands pairs (.returned left) (.returned right)

/-- One more pair of handles. -/
def hold (pairs : Correspondence) (left right : FrameId) : Correspondence :=
  { pairs with held := (left, right) :: pairs.held }

namespace Later

variable {earlier middle later : Correspondence}

theorem refl (pairs : Correspondence) : pairs.Later pairs :=
  ⟨fun _ _ same => same, rfl, rfl⟩

theorem trans (first : earlier.Later middle) (second : middle.Later later) :
    earlier.Later later where
  homes left right same := second.homes left right (first.homes left right same)
  ids := second.ids.trans first.ids
  held := second.held.trans first.held

theorem closures (extends_ : earlier.Later later) (left right : Closure)
    (same : earlier.Closures left right) : later.Closures left right :=
  ⟨extends_.ids ▸ same.ids, same.parameters, same.body, extends_.homes _ _ same.homes⟩

theorem values (extends_ : earlier.Later later) {left right : Value}
    (same : earlier.Values left right) : later.Values left right :=
  same.mono extends_.closures

end Later

theorem closures_hold (pairs : Correspondence) (s t : FrameId) :
    (pairs.hold s t).Closures = pairs.Closures := by
  ext left right
  exact ⟨fun ⟨ids, parameters, body, homes⟩ => ⟨ids, parameters, body, homes⟩,
    fun ⟨ids, parameters, body, homes⟩ => ⟨ids, parameters, body, homes⟩⟩

@[simp]
theorem values_hold (pairs : Correspondence) (s t : FrameId) :
    (pairs.hold s t).Values = pairs.Values := by
  simp [Values, closures_hold]

theorem hold_mono {earlier later : Correspondence} {left right : FrameId}
    (extends_ : (earlier.hold left right).Later later) :
    later = (Correspondence.mk later.homes later.ids earlier.held).hold left right := by
  rcases later with ⟨homes, ids, held⟩
  simpa [hold] using extends_.held

end Correspondence

/-- A relation between corresponding arenas that evaluation keeps under two frame policies. -/
structure Simulates (holds : Correspondence → Arena → Arena → Prop) (left right : FramePolicy) :
    Prop where
  toldApart : ∀ {pairs A B}, holds pairs A B → Closure.ToldApart pairs.Closures
  lookup : ∀ {pairs A B s t}, holds pairs A B → (s, t) ∈ pairs.held → ∀ name,
    Option.Rel pairs.Values (A.lookup? s name) (B.lookup? t name)
  bind : ∀ {pairs A B s t v u}, holds pairs A B → (s, t) ∈ pairs.held → pairs.Values v u →
    ∀ name, holds pairs (A.bind s name v) (B.bind t name u)
  close : ∀ {pairs A B s t}, holds pairs A B → (s, t) ∈ pairs.held → ∀ parameters body,
    ∃ later, pairs.Later later ∧
      holds later (A.close s parameters body).2 (B.close t parameters body).2 ∧
      later.Closures (A.close s parameters body).1 (B.close t parameters body).1
  enclose : ∀ {pairs A B a b}, holds pairs A B → pairs.homes a b →
    holds (pairs.hold (left.enclose a A).1 (right.enclose b B).1)
      (left.enclose a A).2 (right.enclose b B).2
  drop : ∀ {pairs A B s t}, holds (pairs.hold s t) A B →
    holds pairs (left.drop s A) (right.drop t B)

/-- Two computations agree if they take corresponding arenas to corresponding arenas and end in
the same error or in related values. -/
def Agree (holds : Correspondence → Arena → Arena → Prop) (pairs : Correspondence)
    {Left Right : Type} (values : Correspondence → Left → Right → Prop)
    (left : Evaluation Left) (right : Evaluation Right) : Prop :=
  ∀ ⦃A B⦄, holds pairs A B → ∃ later, pairs.Later later ∧
    holds later (left A).2 (right B).2 ∧ Result.Related (values later) (left A).1 (right B).1

namespace Agree

variable {holds : Correspondence → Arena → Arena → Prop} {pairs : Correspondence}
  {Left Right Left' Right' : Type} {values : Correspondence → Left → Right → Prop}
  {values' : Correspondence → Left' → Right' → Prop}

theorem pure {left : Left} {right : Right} (same : values pairs left right) :
    Agree holds pairs values (Pure.pure left) (Pure.pure right) :=
  fun _ _ related => ⟨pairs, .refl pairs, related, .ok same⟩

theorem result {left : Except EvalError Left} {right : Except EvalError Right}
    (same : Result.Related (values pairs) left right) :
    Agree holds pairs values (ExceptT.mk (Pure.pure left)) (ExceptT.mk (Pure.pure right)) :=
  fun _ _ related => ⟨pairs, .refl pairs, related, same⟩

theorem throw (error : EvalError) :
    Agree holds pairs values (MonadExcept.throw error) (MonadExcept.throw error) :=
  fun _ _ related => ⟨pairs, .refl pairs, related, .error error⟩

theorem bind {left : Evaluation Left} {right : Evaluation Right} {next : Left → Evaluation Left'}
    {next' : Right → Evaluation Right'} (first : Agree holds pairs values left right)
    (rest : ∀ {later value value'}, pairs.Later later → values later value value' →
      Agree holds later values' (next value) (next' value')) :
    Agree holds pairs values' (left >>= next) (right >>= next') := by
  intro A B related
  rcases first related with ⟨middle, extends_, related, outcome⟩
  change ∃ later, pairs.Later later ∧
    holds later (ExceptT.bindCont next (left A).1 (left A).2).2
      (ExceptT.bindCont next' (right B).1 (right B).2).2 ∧
    Result.Related (values' later) (ExceptT.bindCont next (left A).1 (left A).2).1
      (ExceptT.bindCont next' (right B).1 (right B).2).1
  revert outcome
  generalize (left A).1 = result
  generalize (right B).1 = result'
  intro outcome
  cases outcome with
  | ok same =>
      rcases rest extends_ same related with ⟨later, extends', related, outcome⟩
      exact ⟨later, extends_.trans extends', related, outcome⟩
  | error error => exact ⟨middle, extends_, related, .error error⟩

theorem withOperand {left right : Evaluation Value} {next next' : Value → Evaluation Value}
    (operand : Agree holds pairs Correspondence.Values left right)
    (rest : ∀ {later value value'}, pairs.Later later → later.Values value value' →
      Agree holds later Correspondence.Values (next value) (next' value')) :
    Agree holds pairs Correspondence.Values (Evaluation.withOperand left next)
      (Evaluation.withOperand right next') := by
  refine bind operand fun {later value value'} extends_ same => ?_
  cases same with
  | returned inner => exact pure (.returned inner)
  | int value => exact rest extends_ (.int value)
  | bool value => exact rest extends_ (.bool value)
  | string text => exact rest extends_ (.string text)
  | null => exact rest extends_ .null
  | closure same => exact rest extends_ (.closure same)
  | builtin function => exact rest extends_ (.builtin function)

end Agree

/-- Two ways to apply values agree if they do so on all related values and arguments. -/
def Applications (holds : Correspondence → Arena → Arena → Prop) (left right : Application) :
    Prop :=
  ∀ ⦃pairs value value' arguments arguments'⦄, pairs.Values value value' →
    List.Forall₂ pairs.Values arguments arguments' →
    Agree holds pairs Correspondence.Values (left value arguments) (right value' arguments')

theorem Evaluation.withOperand_apply {operand : Evaluation Value} {next : Value → Evaluation Value}
    (arena : Arena) :
    withOperand operand next arena =
      match operand arena with
      | (.ok value, later) => if value.isReturned then (.ok value, later) else next value later
      | (.error error, later) => (.error error, later) := by
  simp only [withOperand, Bind.bind, ExceptT.bind, ExceptT.mk, StateT.bind]
  rcases operand arena with ⟨_ | value, later⟩
  · rfl
  · cases value <;> rfl

theorem Closure.enter_eq (policy : FramePolicy) (apply : Application) (function : Closure)
    (arguments : List Value) (A : Arena) :
    function.enter policy apply arguments A =
      let entry := policy.enclose function.home A
      let ended :=
        function.body.evaluate apply entry.1
          (entry.2.bindAll entry.1 function.parameters arguments)
      (ended.1.map Value.unwrap, policy.drop entry.1 ended.2) :=
  rfl

section Call

variable {policy : FramePolicy} {function : Closure} {arguments : List Value} {remaining : Nat}

theorem Value.apply_zero (arity : arguments.length = function.parameters.length) :
    Value.apply policy 0 (.closure function) arguments = throw .stackOverflow := by
  simp [Value.apply, arity]

theorem Value.apply_succ (arity : arguments.length = function.parameters.length) :
    Value.apply policy (remaining + 1) (.closure function) arguments =
      function.enter policy (Value.apply policy remaining) arguments := by
  simp [Value.apply, arity]

theorem Value.apply_of_length_ne (arity : arguments.length ≠ function.parameters.length) :
    Value.apply policy remaining (.closure function) arguments =
      throw (.wrongArity arguments.length function.parameters.length) := by
  cases remaining <;> simp [Value.apply, arity]

end Call

/-- A run is the evaluation of its statements, whose outcome arrives. -/
theorem Program.run_eq (policy : FramePolicy) (program : Program) (scope : FrameId)
    (arena : Arena) :
    program.run policy scope arena =
      let ended := evaluateStatements (Value.apply policy callDepthLimit) scope .null
        program.statements arena
      (ended.1.map Value.unwrap, ended.2) := by
  dsimp only
  rcases ended : evaluateStatements (Value.apply policy callDepthLimit) scope .null
    program.statements arena with ⟨_ | _, _⟩ <;>
    simp [Program.run, Bind.bind, ExceptT.bind, StateT.bind, ExceptT.mk, ended, Except.map] <;> rfl

/-- A program collects what neither a handle nor its value needs once its statements have run. -/
theorem Program.evaluate_eq (program : Program) (scope : FrameId) (arena : Arena) :
    program.evaluate scope arena =
      let ended := evaluateStatements (Value.apply .reusing callDepthLimit) scope .null
        program.statements arena
      let outcome := ended.1.map Value.unwrap
      (outcome, (ended.2.collect (outcomeValues outcome)).2) := by
  rw [evaluate, evaluateWith, run_eq]
  rfl

theorem Result.Related.outcomeValues {values : Value → Value → Prop}
    {left right : Except EvalError Value} (related : Result.Related values left right) :
    List.Forall₂ values (Program.outcomeValues left) (Program.outcomeValues right) := by
  cases related with
  | ok same => exact .cons same .nil
  | error error => exact .nil

namespace Simulates

variable {holds : Correspondence → Arena → Arena → Prop} {leftPolicy rightPolicy : FramePolicy}
  {apply apply' : Application} {pairs : Correspondence} {s t : FrameId}

theorem identifier (simulates : Simulates holds leftPolicy rightPolicy)
    (held : (s, t) ∈ pairs.held)
    (name : String) :
    Agree holds pairs Correspondence.Values (Evaluation.identifier s name)
      (Evaluation.identifier t name) := by
  intro A B related
  refine ⟨pairs, .refl pairs, ?_⟩
  have found := simulates.lookup related held name
  unfold Evaluation.identifier
  revert found
  generalize A.lookup? s name = value
  generalize B.lookup? t name = value'
  intro found
  cases found with
  | some same => exact ⟨related, .ok same⟩
  | none =>
      cases Builtin.ofName? name with
      | some builtin => exact ⟨related, .ok (.builtin builtin)⟩
      | none => exact ⟨related, .error _⟩

theorem bindName (simulates : Simulates holds leftPolicy rightPolicy)
    (held : (s, t) ∈ pairs.held)
    {value value' : Value} (same : pairs.Values value value') (name : String) :
    Agree holds pairs Correspondence.Values (Evaluation.bind s name value)
      (Evaluation.bind t name value') :=
  fun _ _ related => ⟨pairs, .refl pairs, simulates.bind related held same name, .ok .null⟩

theorem closeOver (simulates : Simulates holds leftPolicy rightPolicy)
    (held : (s, t) ∈ pairs.held)
    (parameters : List Identifier) (body : Block) :
    Agree holds pairs Correspondence.Values (Evaluation.close s parameters body)
      (Evaluation.close t parameters body) := by
  intro A B related
  rcases simulates.close related held parameters body with ⟨later, extends_, related, same⟩
  exact ⟨later, extends_, related, .ok (.closure same)⟩

theorem binary (simulates : Simulates holds leftPolicy rightPolicy) (operator : Operator)
    {left left' right right' : Value} (same : pairs.Values left left')
    (same' : pairs.Values right right') :
    Agree holds pairs Correspondence.Values
      (ExceptT.mk (Pure.pure (operator.applyBinary left right)))
      (ExceptT.mk (Pure.pure (operator.applyBinary left' right'))) := by
  intro A B related
  have apart := simulates.toldApart related
  exact ⟨pairs, .refl pairs, related, operator.applyBinary_related apart same same'⟩

mutual

/-- The evaluations of an expression agree in frames that stand for each other. -/
theorem agree_expr (simulates : Simulates holds leftPolicy rightPolicy)
    (applications : Applications holds apply apply') (value : Expr)
    {pairs : Correspondence} (held : (s, t) ∈ pairs.held) :
    Agree holds pairs Correspondence.Values (value.evaluate apply s) (value.evaluate apply' t) := by
  cases value with
  | ident identifier => exact simulates.identifier held identifier.name
  | int _ value => exact Agree.pure (.int value)
  | bool _ value => exact Agree.pure (.bool value)
  | string _ text => exact Agree.pure (.string text)
  | unary _ operator operand =>
      rw [Expr.evaluate, Expr.evaluate]
      exact Agree.withOperand (simulates.agree_expr applications operand held) fun _ same =>
        Agree.result (operator.applyUnary_related same)
  | binary _ left operator right =>
      rw [Expr.evaluate, Expr.evaluate]
      refine Agree.withOperand (simulates.agree_expr applications left held) ?_
      intro _ _ _ extends_ same
      rw [← extends_.held] at held
      refine Agree.withOperand (simulates.agree_expr applications right held) ?_
      intro _ _ _ extends' same'
      exact simulates.binary operator (extends'.values same) same'
  | conditional _ condition consequence alternative =>
      rw [Expr.evaluate, Expr.evaluate]
      refine Agree.withOperand (simulates.agree_expr applications condition held) ?_
      intro _ _ _ extends_ same
      rw [← extends_.held] at held
      rw [same.isTruthy_eq]
      split
      · exact simulates.agree_block applications consequence held
      · exact simulates.agree_alternative applications alternative held
  | function _ parameters body => exact simulates.closeOver held parameters body
  | call _ callee arguments =>
      rw [Expr.evaluate, Expr.evaluate]
      refine Agree.withOperand (simulates.agree_expr applications callee held) ?_
      intro _ _ _ extends_ same
      rw [← extends_.held] at held
      refine Agree.bind (simulates.agree_arguments applications arguments held) ?_
      intro _ _ _ extends' operands
      cases operands with
      | values same' => exact applications (extends'.values same) same'
      | returned same' => exact Agree.pure (.returned same')

theorem agree_alternative (simulates : Simulates holds leftPolicy rightPolicy)
    (applications : Applications holds apply apply') (alternative : Option Block)
    {pairs : Correspondence} (held : (s, t) ∈ pairs.held) :
    Agree holds pairs Correspondence.Values (evaluateAlternative apply s alternative)
      (evaluateAlternative apply' t alternative) := by
  cases alternative with
  | none => exact Agree.pure .null
  | some block => exact simulates.agree_block applications block held

theorem agree_arguments (simulates : Simulates holds leftPolicy rightPolicy)
    (applications : Applications holds apply apply') (arguments : List Expr)
    {pairs : Correspondence} (held : (s, t) ∈ pairs.held) :
    Agree holds pairs Correspondence.Operands (evaluateArguments apply s arguments)
      (evaluateArguments apply' t arguments) := by
  cases arguments with
  | nil => exact Agree.pure (.values .nil)
  | cons argument rest =>
      rw [evaluateArguments, evaluateArguments]
      refine Agree.bind (simulates.agree_expr applications argument held) ?_
      intro _ _ _ extends_ same
      rw [← extends_.held] at held
      have first := same
      cases same with
      | returned inner => exact Agree.pure (.returned inner)
      | _ =>
          refine Agree.bind (simulates.agree_arguments applications rest held) ?_
          intro _ _ _ extends' operands
          cases operands with
          | values others => exact Agree.pure (.values (.cons (extends'.values first) others))
          | returned inner => exact Agree.pure (.returned inner)

theorem agree_statement (simulates : Simulates holds leftPolicy rightPolicy)
    (applications : Applications holds apply apply') (statement : Statement)
    {pairs : Correspondence} (held : (s, t) ∈ pairs.held) :
    Agree holds pairs Correspondence.Values (statement.evaluate apply s)
      (statement.evaluate apply' t) := by
  cases statement with
  | bind _ identifier value =>
      rw [Statement.evaluate, Statement.evaluate]
      refine Agree.withOperand (simulates.agree_expr applications value held) ?_
      intro _ _ _ extends_ same
      rw [← extends_.held] at held
      exact simulates.bindName held same identifier.name
  | result _ value =>
      rw [Statement.evaluate, Statement.evaluate]
      exact Agree.withOperand (simulates.agree_expr applications value held) fun _ same =>
        Agree.pure (.returned same)
  | expr _ value => exact simulates.agree_expr applications value held

theorem agree_statements (simulates : Simulates holds leftPolicy rightPolicy)
    (applications : Applications holds apply apply') (statements : List Statement)
    {pairs : Correspondence} {latest latest' : Value} (held : (s, t) ∈ pairs.held)
    (same : pairs.Values latest latest') :
    Agree holds pairs Correspondence.Values (evaluateStatements apply s latest statements)
      (evaluateStatements apply' t latest' statements) := by
  cases statements with
  | nil => exact Agree.pure same
  | cons statement rest =>
      rw [evaluateStatements, evaluateStatements]
      refine Agree.bind (simulates.agree_statement applications statement held) ?_
      intro _ _ _ extends_ same
      rw [← extends_.held] at held
      have last := same
      cases same with
      | returned inner => exact Agree.pure (.returned inner)
      | _ => exact simulates.agree_statements applications rest held last

theorem agree_block (simulates : Simulates holds leftPolicy rightPolicy)
    (applications : Applications holds apply apply') (block : Block)
    {pairs : Correspondence} (held : (s, t) ∈ pairs.held) :
    Agree holds pairs Correspondence.Values (block.evaluate apply s) (block.evaluate apply' t) := by
  cases block with
  | mk _ statements => exact simulates.agree_statements applications statements held .null

end

theorem bindAll (simulates : Simulates holds leftPolicy rightPolicy)
    (held : (s, t) ∈ pairs.held) (parameters : List Identifier)
    {arguments arguments' : List Value} (same : List.Forall₂ pairs.Values arguments arguments')
    {A B : Arena} (related : holds pairs A B) :
    holds pairs (A.bindAll s parameters arguments) (B.bindAll t parameters arguments') := by
  induction same generalizing parameters A B with
  | nil => cases parameters <;> exact related
  | cons first _ ih =>
      cases parameters with
      | nil => exact related
      | cons parameter parameters =>
          exact ih parameters (simulates.bind related held first parameter.name)

/-- Calls of closures that stand for each other agree. -/
theorem enter (simulates : Simulates holds leftPolicy rightPolicy)
    (applications : Applications holds apply apply')
    {function function' : Closure} (same : pairs.Closures function function')
    {arguments arguments' : List Value}
    (operands : List.Forall₂ pairs.Values arguments arguments') :
    Agree holds pairs Correspondence.Values (function.enter leftPolicy apply arguments)
      (function'.enter rightPolicy apply' arguments') := by
  intro A B related
  have opened := simulates.enclose related same.homes
  rw [Closure.enter_eq, Closure.enter_eq, ← same.parameters, ← same.body]
  generalize leftPolicy.enclose function.home A = entry at *
  generalize rightPolicy.enclose function'.home B = entry' at *
  have held : (entry.1, entry'.1) ∈ (pairs.hold entry.1 entry'.1).held := List.mem_cons_self
  rw [← Correspondence.values_hold pairs entry.1 entry'.1] at operands
  have bound := simulates.bindAll held function.parameters operands opened
  rcases simulates.agree_block applications function.body held bound with
    ⟨inside, extends_, related, outcome⟩
  rw [Correspondence.hold_mono extends_] at related outcome
  rw [Correspondence.values_hold] at outcome
  -- The pairs found within the call stay when its handles go.
  refine ⟨⟨inside.homes, inside.ids, pairs.held⟩, ⟨extends_.homes, extends_.ids, rfl⟩, ?_, ?_⟩
  · exact simulates.drop related
  · exact outcome.map fun left right same => same.unwrap

/-- A value is applied as its kind says, where the number of calls left matters to closures
alone. -/
theorem apply_of_closures (remaining : Nat)
    (closures : ∀ {function function' arguments arguments'}, pairs.Closures function function' →
      List.Forall₂ pairs.Values arguments arguments' →
        Agree holds pairs Correspondence.Values
          (Value.apply leftPolicy remaining (.closure function) arguments)
          (Value.apply rightPolicy remaining (.closure function') arguments'))
    {value value' : Value} (same : pairs.Values value value') {arguments arguments' : List Value}
    (operands : List.Forall₂ pairs.Values arguments arguments') :
    Agree holds pairs Correspondence.Values (Value.apply leftPolicy remaining value arguments)
      (Value.apply rightPolicy remaining value' arguments') := by
  cases same with
  | closure same => exact closures same operands
  | builtin function =>
      simp only [Value.apply]
      exact Agree.result (function.apply_related operands)
  | returned inner =>
      simp only [Value.apply, Value.typeName, inner.typeName_eq]
      exact Agree.throw _
  | _ =>
      simp only [Value.apply]
      exact Agree.throw _

/-- Values that agree are applied to arguments that agree with results that agree. -/
theorem applications (simulates : Simulates holds leftPolicy rightPolicy) (remaining : Nat) :
    Applications holds (Value.apply leftPolicy remaining) (Value.apply rightPolicy remaining) := by
  induction remaining with
  | zero =>
      intro pairs value value' arguments arguments' same operands
      refine apply_of_closures 0 (fun same operands => ?_) same operands
      rw [Value.apply, Value.apply, same.parameters, operands.length_eq]
      split
      · exact Agree.throw _
      · exact Agree.throw _
  | succ remaining ih =>
      intro pairs value value' arguments arguments' same operands
      refine apply_of_closures (remaining + 1) (fun same operands => ?_) same operands
      rw [Value.apply, Value.apply, same.parameters, operands.length_eq]
      split
      · exact simulates.enter ih same operands
      · exact Agree.throw _

/-- Runs of a program agree before anything is collected. -/
theorem run (simulates : Simulates holds leftPolicy rightPolicy) (program : Program)
    (held : (s, t) ∈ pairs.held) :
    Agree holds pairs Correspondence.Values (program.run leftPolicy s)
      (program.run rightPolicy t) := by
  have applications := simulates.applications callDepthLimit
  refine Agree.bind (simulates.agree_statements applications program.statements held .null) ?_
  intro later value value' _ same
  exact Agree.pure same.unwrap

end Simulates

end Monkey
