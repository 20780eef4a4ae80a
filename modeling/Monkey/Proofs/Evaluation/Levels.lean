import Monkey.Proofs.Evaluation.Machine

/-!
# Levels of an evaluation

The machine has no recursion of its own, so an evaluation within another one shows in what waits: it
begins with the same things waiting and more on top, and has ended when these alone wait again.
`Within` and `During` are the moments in between.

At the level of an evaluation, outside the calls that it makes, what is ahead are parts of what it
began with. A call leaves the level: its body is begun on top of all that waits there, and only the
outcome of the body comes back. `Stage` tells these moments apart, for any kind of tasks that has
the parts of its members.
-/

namespace Monkey

/-- What may be ahead of an evaluation at its own level. -/
inductive Task where
  | expr (value : Expr)
  | statements (statements : List Statement)
  | bind (name : String)

namespace Task

def ofBlock (block : Block) : Task :=
  .statements block.statements

def ofStatement : Statement → List Task
  | .bind _ identifier value => [.expr value, .bind identifier.name]
  | .result _ value => [.expr value]
  | .expr _ value => [.expr value]

/-- The tasks that a task consists of. The body of a function literal is none of them. -/
def parts : Task → List Task
  | .expr (.unary _ _ operand) => [.expr operand]
  | .expr (.binary _ left _ right) => [.expr left, .expr right]
  | .expr (.conditional _ condition consequence alternative) =>
      .expr condition :: ofBlock consequence :: alternative.toList.map ofBlock
  | .expr (.call _ callee arguments) => .expr callee :: arguments.map .expr
  | .statements (statement :: rest) => ofStatement statement ++ [.statements rest]
  | _ => []

/-- The ways for a task to be part of another one. -/
inductive IsPart : Task → Task → Prop where
  | operand {token : Token} {operator : Operator} {operand : Expr} :
      IsPart (.expr operand) (.expr (.unary token operator operand))
  | left {token : Token} {left right : Expr} {operator : Operator} :
      IsPart (.expr left) (.expr (.binary token left operator right))
  | right {token : Token} {left right : Expr} {operator : Operator} :
      IsPart (.expr right) (.expr (.binary token left operator right))
  | condition {token : Token} {condition : Expr} {consequence : Block}
      {alternative : Option Block} :
      IsPart (.expr condition) (.expr (.conditional token condition consequence alternative))
  | consequence {token : Token} {condition : Expr} {consequence : Block}
      {alternative : Option Block} :
      IsPart (ofBlock consequence) (.expr (.conditional token condition consequence alternative))
  | alternative {token : Token} {condition : Expr} {consequence alternative : Block} :
      IsPart (ofBlock alternative)
        (.expr (.conditional token condition consequence (some alternative)))
  | callee {token : Token} {callee : Expr} {arguments : List Expr} :
      IsPart (.expr callee) (.expr (.call token callee arguments))
  | argument {token : Token} {callee argument : Expr} {arguments : List Expr}
      (member : argument ∈ arguments) :
      IsPart (.expr argument) (.expr (.call token callee arguments))
  | statement {part : Task} {statement : Statement} {rest : List Statement}
      (member : part ∈ ofStatement statement) : IsPart part (.statements (statement :: rest))
  | rest {statement : Statement} {rest : List Statement} :
      IsPart (.statements rest) (.statements (statement :: rest))

theorem isPart_of_mem {task part : Task} (member : part ∈ task.parts) : part.IsPart task := by
  cases task with
  | expr value =>
      cases value with
      | unary token operator operand =>
          cases List.mem_singleton.mp member
          exact .operand
      | binary token left operator right =>
          simp only [parts, List.mem_cons, List.not_mem_nil, or_false] at member
          rcases member with rfl | rfl
          · exact .left
          · exact .right
      | conditional token condition consequence alternative =>
          simp only [parts, List.mem_cons] at member
          rcases member with rfl | rfl | member
          · exact .condition
          · exact .consequence
          · cases alternative with
            | none => cases member
            | some block =>
                cases List.mem_singleton.mp member
                exact .alternative
      | call token callee arguments =>
          simp only [parts, List.mem_cons, List.mem_map] at member
          rcases member with rfl | ⟨argument, member, rfl⟩
          · exact .callee
          · exact .argument member
      | _ => cases member
  | statements list =>
      cases list with
      | nil => cases member
      | cons statement rest =>
          simp only [parts, List.mem_append, List.mem_singleton] at member
          rcases member with member | rfl
          · exact .statement member
          · exact .rest
  | bind name => cases member

end Task

/-- The tasks that a part leaves for later. -/
def Part.ahead : Part → List Task
  | .left _ second => [.expr second]
  | .condition consequence alternative =>
      Task.ofBlock consequence :: alternative.toList.map Task.ofBlock
  | .callee arguments => arguments.map .expr
  | .argument _ _ rest => rest.map .expr
  | .bound name => [.bind name]
  | .statement rest => [.statements rest]
  | _ => []

namespace Control

/-- The tasks that are ahead at the level of a control. -/
def ahead : Control → List Task
  | .expr value => [.expr value]
  | .operand value part => .expr value :: part.ahead
  | .statements _ list => [.statements list]
  | .arguments _ _ rest => rest.map .expr
  | .choose _ consequence alternative =>
      Task.ofBlock consequence :: alternative.toList.map Task.ofBlock
  | .bind name _ => [.bind name]
  | _ => []

/-- The tasks that are ahead once a control has made its next step. -/
def opened : Control → List Task
  | .expr value => (Task.expr value).parts
  | .statements _ list => (Task.statements list).parts
  | control => control.ahead

/-- Whether a control binds the parameters of a call, whose body comes next. -/
def isEntering : Control → Bool
  | .enter _ _ _ => true
  | _ => false

def isDone : Control → Bool
  | .done _ => true
  | _ => false

theorem ahead_of_isDone {control : Control} (done : control.isDone = true) :
    control.isEntering = false ∧ control.ahead = [] := by
  cases control with
  | done outcome => exact ⟨rfl, rfl⟩
  | _ => cases done

/-- A name is bound by a task that is ahead, or else on the way into a call. -/
theorem exists_bind_of_isBinding {control : Control} (binding : control.isBinding = true) :
    control.isEntering = true ∨ ∃ name, .bind name ∈ control.ahead := by
  cases control with
  | enter => exact .inl rfl
  | bind name value => exact .inr ⟨name, List.mem_cons_self⟩
  | _ => cases binding

/-- Whether a control neither binds the parameters of a call nor is an outcome. -/
def isWorking (control : Control) : Bool :=
  !control.isEntering && !control.isDone

/-- A kind of tasks that has the parts of its members has all that is opened if it has all that is
ahead. -/
theorem opened_of_ahead {kind : Task → Prop} {control : Control}
    (closed : ∀ task, kind task → ∀ part ∈ task.parts, kind part)
    (ahead : ∀ task ∈ control.ahead, kind task) : ∀ task ∈ control.opened, kind task := by
  cases control with
  | expr value => exact closed _ (ahead _ List.mem_cons_self)
  | statements latest statements => exact closed _ (ahead _ List.mem_cons_self)
  | _ => exact ahead

end Control

theorem Part.ahead_next (part : Part) (value : Value) :
    (part.next value).ahead ⊆ part.ahead ∧ (part.next value).isEntering = false := by
  cases part <;> simp [Part.next, Part.ahead, Control.ahead, Control.isEntering]

theorem Statement.ahead_control (statement : Statement) :
    statement.control.ahead = Task.ofStatement statement ∧
      statement.control.isEntering = false := by
  cases statement <;> exact ⟨rfl, rfl⟩

namespace Configuration

/-- What a step does to what is ahead and to what waits. -/
inductive Turns (configuration later : Configuration) : Prop
  | goesOn (stack_eq : later.stack = configuration.stack)
      (working : configuration.control.isWorking = true)
      (steady : later.control.isEntering = false)
      (ahead : later.control.ahead ⊆ configuration.control.opened)
  | awaits (part : Part) (stack_eq : later.stack = .part part :: configuration.stack)
      (working : configuration.control.isWorking = true)
      (steady : later.control.isEntering = false)
      (ahead : later.control.ahead ++ part.ahead ⊆ configuration.control.opened)
  | resumes (part : Part) (stack_eq : configuration.stack = .part part :: later.stack)
      (done : configuration.control.isDone = true)
      (steady : later.control.isEntering = false)
      (ahead : later.control.ahead ⊆ part.ahead)
  | calls (function : Closure) (arguments : List Value)
      (control_eq : configuration.control = .apply (.closure function) arguments)
      (room : configuration.depth < callDepthLimit)
      (later_eq : later = configuration.call function arguments)
  | enters (parameters : List Identifier) (arguments : List Value) (body : Block)
      (control_eq : configuration.control = .enter parameters arguments body)
      (stack_eq : later.stack = configuration.stack)
      (entered : later.control = body.control ∨
        ∃ parameters arguments, later.control = .enter parameters arguments body)
  | returns (caller : FrameId) (stack_eq : configuration.stack = .call caller :: later.stack)
      (done : configuration.control.isDone = true) (done' : later.control.isDone = true)

section Turns

variable (configuration : Configuration)

theorem turns_stepExpr {value : Expr} (control_eq : configuration.control = .expr value) :
    configuration.Turns (configuration.stepExpr value) := by
  have working : configuration.control.isWorking = true := by rw [control_eq]; rfl
  cases value <;> refine .goesOn rfl working rfl ?_ <;> rw [control_eq] <;>
    simp [stepExpr, goOn, perform, Control.ahead, Control.opened, Task.parts, Part.ahead]

theorem turns_stepApply {callee : Value} {arguments : List Value}
    (control_eq : configuration.control = .apply callee arguments) :
    configuration.Turns (configuration.stepApply callee arguments) := by
  have working : configuration.control.isWorking = true := by rw [control_eq]; rfl
  have ends (outcome : Except EvalError Value) :
      configuration.Turns (configuration.goOn (.done outcome)) :=
    .goesOn rfl working rfl (List.nil_subset _)
  cases callee with
  | closure function =>
      simp only [stepApply]
      split
      · split
        · exact ends _
        · next room => exact .calls function arguments control_eq (Nat.not_le.mp room) rfl
      · exact ends _
  | _ => exact ends _

theorem turns_stepEnter {parameters : List Identifier} {arguments : List Value} {body : Block}
    (control_eq : configuration.control = .enter parameters arguments body) :
    configuration.Turns (configuration.stepEnter body parameters arguments) := by
  cases parameters with
  | nil => exact .enters _ _ body control_eq rfl (.inl rfl)
  | cons parameter parameters =>
      cases arguments with
      | nil => exact .enters _ _ body control_eq rfl (.inl rfl)
      | cons argument arguments => exact .enters _ _ body control_eq rfl (.inr ⟨_, _, rfl⟩)

theorem turns_resume {outcome : Except EvalError Value} {pending : Pending}
    {stack : List Pending} (control_eq : configuration.control = .done outcome)
    (stack_eq : configuration.stack = pending :: stack) :
    configuration.Turns ({ configuration with stack := stack }.resume outcome pending) := by
  have done : configuration.control.isDone = true := by rw [control_eq]; rfl
  cases pending with
  | part part =>
      cases outcome with
      | error error => exact .resumes part stack_eq done rfl (List.nil_subset _)
      | ok value =>
          have next := part.ahead_next value
          cases value with
          | returned value => exact .resumes part stack_eq done rfl (List.nil_subset _)
          | _ => exact .resumes part stack_eq done next.2 next.1
  | call caller => exact .returns caller stack_eq done rfl

end Turns

/-- Every step goes on with parts of what was ahead, hands an outcome to what waits, or opens,
enters or leaves a call. -/
theorem turns_of_step {configuration later : Configuration}
    (stepped : configuration.step = some later) : configuration.Turns later := by
  rcases configuration with ⟨control, scope, stack, depth, arena⟩
  cases control with
  | expr value =>
      cases stepped
      exact turns_stepExpr _ rfl
  | operand value part =>
      cases stepped
      exact .awaits part rfl rfl rfl (List.Subset.refl _)
  | statements latest statements =>
      cases statements with
      | nil =>
          cases stepped
          exact .goesOn rfl rfl rfl (List.nil_subset _)
      | cons statement rest =>
          cases stepped
          have first := statement.ahead_control
          refine .awaits (.statement rest) rfl rfl first.2 ?_
          rw [await, first.1]
          exact List.Subset.refl _
  | arguments callee before rest =>
      cases rest <;> cases stepped <;> exact .goesOn rfl rfl rfl (List.Subset.refl _)
  | choose condition consequence alternative =>
      cases stepped
      refine .goesOn rfl rfl ?_ ?_ <;> cases alternative <;> cases condition.isTruthy <;>
        simp [goOn, Control.ofAlternative, Control.ahead, Control.opened, Control.isEntering,
          Block.control, Task.ofBlock]
  | apply callee arguments =>
      cases stepped
      exact turns_stepApply _ rfl
  | enter parameters arguments body =>
      cases stepped
      exact turns_stepEnter _ rfl
  | done outcome =>
      cases stack with
      | nil => cases stepped
      | cons pending stack =>
          cases stepped
          exact turns_resume _ rfl rfl
  | _ =>
      cases stepped
      exact .goesOn rfl rfl rfl (List.nil_subset _)

/-- A step on the way into a call binds a parameter or begins the body. -/
theorem enters_of_step {configuration later : Configuration} {parameters : List Identifier}
    {arguments : List Value} {body : Block}
    (control_eq : configuration.control = .enter parameters arguments body)
    (stepped : configuration.step = some later) :
    later.stack = configuration.stack ∧ (later.control = body.control ∨
      ∃ parameters arguments, later.control = .enter parameters arguments body) := by
  cases turns_of_step stepped with
  | enters _ _ _ control_eq' stack_eq entered =>
      cases control_eq.symm.trans control_eq'
      exact ⟨stack_eq, entered⟩
  | calls _ _ control_eq' => cases control_eq.symm.trans control_eq'
  | goesOn _ working => rw [control_eq] at working; cases working
  | awaits _ _ working => rw [control_eq] at working; cases working
  | resumes _ _ done => rw [control_eq] at done; cases done
  | returns _ _ done => rw [control_eq] at done; cases done

/-- An outcome goes past a call to what waits below it. -/
theorem returns_of_step {configuration later : Configuration} {caller : FrameId}
    {stack : List Pending} (stack_eq : configuration.stack = .call caller :: stack)
    (done : configuration.control.isDone = true) (stepped : configuration.step = some later) :
    later.stack = stack ∧ later.control.isDone = true := by
  have working : configuration.control.isWorking ≠ true := by simp [Control.isWorking, done]
  cases turns_of_step stepped with
  | returns caller' stack_eq' _ done' =>
      cases stack_eq.symm.trans stack_eq'
      exact ⟨rfl, done'⟩
  | resumes _ stack_eq' => cases stack_eq.symm.trans stack_eq'
  | goesOn _ working' => exact absurd working' working
  | awaits _ _ working' => exact absurd working' working
  | calls _ _ control_eq => rw [control_eq] at done; cases done
  | enters _ _ _ control_eq => rw [control_eq] at done; cases done

/-- Whether the evaluation that began at a configuration has come to its outcome. -/
def Ended (base moment : Configuration) : Prop :=
  moment.stack = base.stack ∧ moment.control.isDone = true

/-- A step of the evaluation that began at a configuration. -/
def StepOf (base earlier later : Configuration) : Prop :=
  earlier.step = some later ∧ ¬base.Ended earlier

/-- The moments of the evaluation that begins at a configuration, up to its outcome. -/
abbrev Within (base : Configuration) : Configuration → Prop :=
  Relation.ReflTransGen base.StepOf base

/-- The moments of an evaluation after its beginning. -/
abbrev During (base : Configuration) : Configuration → Prop :=
  Relation.TransGen base.StepOf base

theorem Within.runs {base moment : Configuration} (within : base.Within moment) :
    base.Runs moment :=
  Relation.ReflTransGen.mono (fun _ _ => And.left) _ _ within

theorem During.within {base moment : Configuration} (during : base.During moment) :
    base.Within moment :=
  during.to_reflTransGen

/-- What waited at the beginning of an evaluation waits at all its moments. -/
theorem Within.suffix {base moment : Configuration} (within : base.Within moment) :
    base.stack <:+ moment.stack := by
  induction within with
  | refl => exact List.suffix_refl _
  | @tail earlier later _ stepped ih =>
      -- What is taken off the stack of an evaluation that has not ended was put there by it.
      have taken {pending : Pending} (stack_eq : earlier.stack = pending :: later.stack)
          (done : earlier.control.isDone = true) : base.stack <:+ later.stack := by
        rw [stack_eq, List.suffix_cons_iff] at ih
        rcases ih with same | below
        · exact absurd ⟨stack_eq.trans same.symm, done⟩ stepped.2
        · exact below
      cases turns_of_step stepped.1 with
      | goesOn stack_eq => rwa [stack_eq]
      | awaits part stack_eq =>
          rw [stack_eq]
          exact ih.trans (List.suffix_cons _ _)
      | resumes part stack_eq done => exact taken stack_eq done
      | calls function arguments _ _ later_eq =>
          rw [later_eq]
          exact ih.trans (List.suffix_cons _ _)
      | enters _ _ _ _ stack_eq => rwa [stack_eq]
      | returns caller stack_eq done => exact taken stack_eq done

/-- A moment at the level of an evaluation, with parts on top of what waited at the beginning. -/
structure Level (kind : Task → Prop) (base moment : Configuration) (waiting : List Part) :
    Prop where
  within : base.Within moment
  stack_eq : moment.stack = waiting.map .part ++ base.stack
  steady : moment.control.isEntering = false
  waits : ∀ part ∈ waiting, ∀ task ∈ part.ahead, kind task

/-- A call of a closure at the level of an evaluation, and a moment with nothing on top of it. -/
structure Called (kind : Task → Prop) (base : Configuration) (function : Closure)
    (opening moment : Configuration) (waiting : List Part) : Prop where
  level : Level kind base opening waiting
  applies : ∃ arguments, opening.control = .apply (.closure function) arguments
  room : opening.depth < callDepthLimit
  during : base.During moment
  stack_eq : moment.stack = .call opening.scope :: opening.stack

/-- Where a moment of an evaluation is: at the level of the evaluation, on the way into a call, or
within the body of one. -/
inductive Stage (kind : Task → Prop) (base moment : Configuration) : Prop
  | level (waiting : List Part) (level : Level kind base moment waiting)
      (ahead : ∀ task ∈ moment.control.ahead, kind task)
  | entering (function : Closure) (opening : Configuration) (waiting : List Part)
      (called : Called kind base function opening moment waiting)
      (enters : ∃ parameters arguments,
        moment.control = .enter parameters arguments function.body)
  | inside (function : Closure) (opening middle : Configuration) (waiting : List Part)
      (called : Called kind base function opening middle waiting)
      (begins : middle.control = function.body.control) (within : middle.Within moment)

section Stage

variable {kind : Task → Prop} {base moment later : Configuration}

theorem Level.step {waiting : List Part} (level : Level kind base moment waiting)
    (opened : ∀ task ∈ moment.control.opened, kind task) (stepped : base.StepOf moment later) :
    Stage kind base later := by
  have within : base.Within later := level.within.tail stepped
  have during : base.During later := .tail' level.within stepped
  cases turns_of_step stepped.1 with
  | goesOn stack_eq _ steady ahead =>
      exact .level waiting ⟨within, stack_eq.trans level.stack_eq, steady, level.waits⟩
        fun task member => opened task (ahead member)
  | awaits part stack_eq _ steady ahead =>
      rw [List.append_subset] at ahead
      refine .level (part :: waiting) ⟨within, ?_, steady, ?_⟩ fun task member =>
        opened task (ahead.1 member)
      · rw [stack_eq, level.stack_eq, List.map_cons, List.cons_append]
      · exact List.forall_mem_cons.mpr ⟨fun task member => opened task (ahead.2 member),
          level.waits⟩
  | resumes part stack_eq done steady ahead =>
      have stacked := stack_eq.symm.trans level.stack_eq
      cases waiting with
      | nil => exact absurd ⟨level.stack_eq, done⟩ stepped.2
      | cons first waiting =>
          rw [List.map_cons, List.cons_append, List.cons.injEq, Pending.part.injEq] at stacked
          rcases stacked with ⟨rfl, stacked⟩
          have waits := List.forall_mem_cons.mp level.waits
          exact .level waiting ⟨within, stacked, steady, waits.2⟩
            fun task member => waits.1 task (ahead member)
  | calls function arguments control_eq room later_eq =>
      refine .entering function moment waiting
        ⟨level, ⟨arguments, control_eq⟩, room, during, ?_⟩ ⟨function.parameters, arguments, ?_⟩ <;>
        rw [later_eq] <;> rfl
  | enters parameters arguments body control_eq =>
      have steady := level.steady
      rw [control_eq] at steady
      cases steady
  | returns caller stack_eq done =>
      have stacked := stack_eq.symm.trans level.stack_eq
      cases waiting with
      | nil => exact absurd ⟨level.stack_eq, done⟩ stepped.2
      | cons first waiting =>
          rw [List.map_cons, List.cons_append, List.cons.injEq] at stacked
          cases stacked.1

/-- Every step of an evaluation leads from one stage to another one. -/
theorem Stage.step (closed : ∀ task, kind task → ∀ part ∈ task.parts, kind part)
    (stage : Stage kind base moment) (within : base.Within moment)
    (stepped : base.StepOf moment later) : Stage kind base later := by
  cases stage with
  | level waiting level ahead =>
      exact level.step (Control.opened_of_ahead closed ahead) stepped
  | entering function opening waiting called enters =>
      rcases enters with ⟨parameters, arguments, control_eq⟩
      rcases enters_of_step control_eq stepped.1 with ⟨stack_eq, entered⟩
      have called' : Called kind base function opening later waiting :=
        { called with
          during := called.during.tail stepped
          stack_eq := stack_eq.trans called.stack_eq }
      rcases entered with begun | entered
      · exact .inside function opening later waiting called' begun .refl
      · exact .entering function opening waiting called' entered
  | inside function opening middle waiting called begins inner =>
      by_cases ended : middle.Ended moment
      · -- The body has come to its outcome, which goes back to the level of the call.
        rcases returns_of_step (ended.1.trans called.stack_eq) ended.2 stepped.1 with
          ⟨stack_eq, done⟩
        rcases Control.ahead_of_isDone done with ⟨steady, ahead_eq⟩
        refine .level waiting ⟨within.tail stepped, stack_eq.trans called.level.stack_eq, steady,
          called.level.waits⟩ ?_
        rw [ahead_eq]
        rintro _ ⟨⟩
      · exact .inside function opening middle waiting called begins
          (inner.tail ⟨stepped.1, ended⟩)

/-- Every moment of an evaluation but its beginning is at the level of the evaluation, on the way
into a call made there, or within the body of one. -/
theorem During.stage (closed : ∀ task, kind task → ∀ part ∈ task.parts, kind part)
    (steady : base.control.isEntering = false) (opened : ∀ task ∈ base.control.opened, kind task)
    (during : base.During moment) : Stage kind base moment := by
  induction during with
  | single stepped =>
      have level : Level kind base base [] := ⟨.refl, rfl, steady, by rintro _ ⟨⟩⟩
      exact level.step opened stepped
  | tail during stepped ih => exact ih.step closed (During.within during) stepped

end Stage

section Callers

variable {base moment : Configuration}

theorem Within.callers_le (within : base.Within moment) :
    base.callers.length ≤ moment.callers.length :=
  (within.suffix.sublist.filterMap _).length_le

theorem Level.callers_eq {kind : Task → Prop} {waiting : List Part}
    (level : Level kind base moment waiting) : moment.callers = base.callers := by
  rw [callers, level.stack_eq, List.filterMap_append, List.filterMap_map]
  simp [callers]

theorem Called.callers_eq {kind : Task → Prop} {function : Closure} {opening : Configuration}
    {waiting : List Part} (called : Called kind base function opening moment waiting) :
    moment.callers = opening.scope :: base.callers := by
  rw [← called.level.callers_eq, callers, called.stack_eq]
  rfl

end Callers

end Configuration

end Monkey
