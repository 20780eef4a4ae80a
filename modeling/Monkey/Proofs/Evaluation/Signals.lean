import Monkey.Proofs.Arena.Reach
import Monkey.Proofs.Evaluation.Comparison

/-!
# Returns and errors as signals

A second reading of programs, which has no pending results. A `return` raises a signal that
carries its value, an error raises a signal as well, and a signal abandons whatever has not been
evaluated yet. The innermost call of a closure catches a return, and so does the program; nothing
catches an error.

Evaluation hands pending results on by hand at every place where a value is wanted. It comes to
the same value or error and to the same arena, unless a frame in reach binds a pending result to
begin with. What carries the proof is that no frame in reach ever does so: what is bound, passed
or returned has always arrived.
-/

namespace Monkey

/-- What cuts a computation short: a `return` with its value, or an error. -/
inductive Signal where
  | returned (value : Value)
  | error (error : EvalError)

/-- A computation that may change the arena and that a signal may cut short. -/
abbrev Signalling := ExceptT Signal (StateM Arena)

namespace Signalling

/-- The value of an operation, whose error is raised. -/
def ofResult : Except EvalError Value → Signalling Value
  | .ok value => return value
  | .error error => throw (.error error)

/-- Ends with the value of a return; an error goes on. -/
def catchReturn (computation : Signalling Value) : Signalling Value :=
  tryCatch computation fun
    | .returned value => return value
    | .error error => throw (.error error)

def identifier (scope : FrameId) (name : String) : Signalling Value := do
  match (← get).lookup? scope name with
  | some value => return value
  | none =>
      match Builtin.ofName? name with
      | some builtin => return .builtin builtin
      | none => throw (.error (.unboundIdentifier name))

def bind (scope : FrameId) (name : String) (value : Value) : Signalling Value := do
  modify (Arena.bind scope name value)
  return .null

def close (scope : FrameId) (parameters : List Identifier) (body : Block) : Signalling Value := do
  let closure ← modifyGet (Arena.close scope parameters body)
  return .closure closure

end Signalling

open Signalling in
mutual

/-- The value of an expression; its parts are evaluated from left to right. -/
def Expr.interpret (apply : Value → List Value → Signalling Value) (scope : FrameId) :
    Expr → Signalling Value
  | .ident name => identifier scope name.name
  | .int _ value => return .int value
  | .bool _ value => return .bool value
  | .string _ text => return .string text
  | .unary _ operator operand => do
      let operand ← operand.interpret apply scope
      ofResult (operator.applyUnary operand)
  | .binary _ left operator right => do
      let left ← left.interpret apply scope
      let right ← right.interpret apply scope
      ofResult (operator.applyBinary left right)
  | .conditional _ condition consequence alternative => do
      let condition ← condition.interpret apply scope
      if condition.isTruthy then
        consequence.interpret apply scope
      else
        interpretAlternative apply scope alternative
  | .function _ parameters body => close scope parameters body
  | .call _ callee arguments => do
      let callee ← callee.interpret apply scope
      let arguments ← interpretArguments apply scope arguments
      apply callee arguments

def interpretAlternative (apply : Value → List Value → Signalling Value) (scope : FrameId) :
    Option Block → Signalling Value
  | none => return .null
  | some block => block.interpret apply scope

def interpretArguments (apply : Value → List Value → Signalling Value) (scope : FrameId) :
    List Expr → Signalling (List Value)
  | [] => return []
  | argument :: rest => do
      let value ← argument.interpret apply scope
      let values ← interpretArguments apply scope rest
      return value :: values

/-- The value of a statement; one that returns has none. -/
def Statement.interpret (apply : Value → List Value → Signalling Value) (scope : FrameId) :
    Statement → Signalling Value
  | .bind _ identifier value => do
      let value ← value.interpret apply scope
      bind scope identifier.name value
  | .result _ value => do
      let value ← value.interpret apply scope
      throw (.returned value)
  | .expr _ value => value.interpret apply scope

/-- The value of the last one of statements; without statements, the value before them. -/
def interpretStatements (apply : Value → List Value → Signalling Value) (scope : FrameId) :
    Value → List Statement → Signalling Value
  | latest, [] => return latest
  | _, statement :: rest => do
      let value ← statement.interpret apply scope
      interpretStatements apply scope value rest

def Block.interpret (apply : Value → List Value → Signalling Value) (scope : FrameId) :
    Block → Signalling Value
  | ⟨_, statements⟩ => interpretStatements apply scope .null statements

end

/-- Runs the body of a closure in a new frame within the closure's home, whose handle is given up
afterwards even if a signal comes out of the body. -/
def Closure.interpret (apply : Value → List Value → Signalling Value) (closure : Closure)
    (arguments : List Value) : Signalling Value := do
  let scope ← modifyGet (Arena.enclose closure.home)
  modify (Arena.bindAll scope closure.parameters arguments)
  try
    closure.body.interpret apply scope
  finally
    modify (Arena.drop scope)

/-- Applies a value to arguments with a number of calls that may still be nested. -/
def Value.call : Nat → Value → List Value → Signalling Value
  | remaining, .closure function, arguments => do
      if arguments.length ≠ function.parameters.length then
        throw (.error (.wrongArity arguments.length function.parameters.length))
      match remaining with
      | 0 => throw (.error .stackOverflow)
      | remaining + 1 =>
          Signalling.catchReturn (function.interpret (Value.call remaining) arguments)
  | _, .builtin function, arguments => Signalling.ofResult (function.apply arguments)
  | _, callee, _ => throw (.error (.notAFunction callee.typeName))

/-- What a program comes to. It catches a return. -/
def Signalling.outcome : Except Signal Value → Except EvalError Value
  | .ok value => .ok value
  | .error (.returned value) => .ok value
  | .error (.error error) => .error error

/-- Runs a program in a frame, where returns and errors are signals, and collects what neither a
handle nor its value needs. -/
def Program.interpret (program : Program) (scope : FrameId) : Evaluation Value := fun arena =>
  let (ended, arena) :=
    interpretStatements (Value.call callDepthLimit) scope .null program.statements arena
  let outcome := Signalling.outcome ended
  (outcome, (arena.collect (outcomeValues outcome)).2)

/-! ## Settled values -/

/-- A value that has arrived and refers to no frame outside the given ones. -/
structure Value.Settled (inside : FrameId → Prop) (value : Value) : Prop where
  arrived : value.isReturned = false
  home_inside : ∀ home ∈ value.home?, inside home

/-- Whether the given frames bind settled values and lead to one another only. -/
structure Arena.SettledWithin (arena : Arena) (inside : FrameId → Prop) : Prop where
  outer_inside : ∀ {id frame}, inside id → arena.frame? id = some frame →
    ∀ outer ∈ frame.outer, inside outer
  bound_settled : ∀ {id frame}, inside id → arena.frame? id = some frame →
    ∀ binding ∈ frame.bindings, binding.2.Settled inside

theorem Value.Settled.mono {inside later : FrameId → Prop} (grows : ∀ id, inside id → later id)
    {value : Value} (settled : value.Settled inside) : value.Settled later :=
  ⟨settled.arrived, fun home refers => grows home (settled.home_inside home refers)⟩

theorem Value.settled_of_home?_none {inside : FrameId → Prop} {value : Value}
    (arrived : value.isReturned = false) (homeless : value.home? = none) :
    value.Settled inside :=
  ⟨arrived, by simp [homeless]⟩

theorem Value.Settled.unwrap_eq {inside : FrameId → Prop} {value : Value}
    (settled : value.Settled inside) : value.unwrap = value := by
  cases value with
  | returned inner => exact absurd settled.arrived (by simp [isReturned])
  | _ => rfl

namespace Arena.SettledWithin

variable {arena later : Arena} {inside : FrameId → Prop} (settled : arena.SettledWithin inside)

include settled in
theorem partOf (part : later.PartOf arena) : later.SettledWithin inside where
  outer_inside {id frame} within found outer outward := by
    rcases part found with ⟨old, before, _, same⟩
    exact settled.outer_inside within before outer (same ▸ outward)
  bound_settled {id frame} within found binding member := by
    rcases part found with ⟨old, before, same, _⟩
    exact settled.bound_settled within before binding (same ▸ member)

include settled in
theorem settled_of_lookupWithin {limit : Nat} {scope : FrameId} {name : String} {value : Value}
    (within : inside scope) (found : arena.lookupWithin name limit scope = some value) :
    value.Settled inside := by
  induction limit generalizing scope with
  | zero => simp [Arena.lookupWithin] at found
  | succ limit ih =>
      rw [Arena.lookupWithin_add_one] at found
      rcases Option.bind_eq_some_iff.mp found with ⟨frame, here, found⟩
      rcases Option.or_eq_some_iff.mp found with bound | ⟨_, outward⟩
      · exact settled.bound_settled within here _ (Frame.mem_of_lookup? bound)
      · rcases Option.bind_eq_some_iff.mp outward with ⟨outer, step, found⟩
        exact ih (settled.outer_inside within here outer step) found

include settled in
theorem bind {value : Value} (bound : value.Settled inside) (scope : FrameId) (name : String) :
    (arena.bind scope name value).SettledWithin inside where
  outer_inside {id frame} within found outer outward := by
    rcases Arena.of_frame?_modifyFrame _ _ _ found with ⟨old, here, rfl | rfl⟩
    · exact settled.outer_inside within here outer outward
    · exact settled.outer_inside within here outer outward
  bound_settled {id frame} within found binding member := by
    rcases Arena.of_frame?_modifyFrame _ _ _ found with ⟨old, here, rfl | rfl⟩
    · exact settled.bound_settled within here binding member
    · rcases Frame.mem_bindAmong member with rfl | before
      · exact bound
      · exact settled.bound_settled within here binding before

include settled in
theorem bindAll (scope : FrameId) (parameters : List Identifier) {arguments : List Value}
    (bound : ∀ argument ∈ arguments, argument.Settled inside) :
    (arena.bindAll scope parameters arguments).SettledWithin inside := by
  induction parameters generalizing arena arguments with
  | nil => exact settled
  | cons parameter parameters ih =>
      cases arguments with
      | nil => exact settled
      | cons argument arguments =>
          rw [List.forall_mem_cons] at bound
          exact ih (settled.bind bound.1 scope parameter.name) bound.2

include settled in
theorem enclose {home : FrameId} (within : inside home) :
    (arena.enclose home).2.SettledWithin fun id => inside id ∨ id = (arena.enclose home).1 := by
  have counted : (arena.modifyFrame home Frame.gainChild).SettledWithin inside :=
    settled.partOf (.recount arena home Frame.recounts_gainChild)
  refine ⟨fun {id frame} known found outer outward => ?_,
    fun {id frame} known found binding member => ?_⟩
  · rcases Arena.of_frame?_insert found with ⟨_, rfl⟩ | ⟨old, before⟩
    · cases outward
      exact .inl within
    · exact .inl (counted.outer_inside (known.resolve_right old) before outer outward)
  · rcases Arena.of_frame?_insert found with ⟨_, rfl⟩ | ⟨old, before⟩
    · cases member
    · exact (counted.bound_settled (known.resolve_right old) before binding member).mono
        fun _ => .inl

end Arena.SettledWithin

/-! ## Operations yield settled values -/

section Operation

variable {inside : FrameId → Prop} {value : Value}

theorem Operator.settled_of_applyUnary {operator : Operator} {operand : Value}
    (result : operator.applyUnary operand = .ok value) : value.Settled inside := by
  unfold applyUnary at result
  split at result <;> cases result
  all_goals exact Value.settled_of_home?_none rfl rfl

theorem Operator.settled_of_applyInts {operator : Operator} {left right : Int64}
    (result : operator.applyInts left right = .ok value) : value.Settled inside := by
  cases operator with
  | slash =>
      simp only [applyInts] at result
      split at result <;> cases result
      exact Value.settled_of_home?_none rfl rfl
  | bang => cases result
  | _ =>
      cases result
      exact Value.settled_of_home?_none rfl rfl

theorem Operator.settled_of_applyStrings {operator : Operator} {left right : String}
    (result : operator.applyStrings left right = .ok value) : value.Settled inside := by
  unfold applyStrings at result
  split at result <;> cases result
  all_goals exact Value.settled_of_home?_none rfl rfl

theorem Operator.settled_of_applyMixed {operator : Operator} {left right : Value}
    (result : operator.applyMixed left right = .ok value) : value.Settled inside := by
  unfold applyMixed at result
  split at result <;> cases result
  all_goals exact Value.settled_of_home?_none rfl rfl

theorem Operator.settled_of_applyBinary {operator : Operator} {left right : Value}
    (result : operator.applyBinary left right = .ok value) : value.Settled inside := by
  unfold applyBinary at result
  split at result
  · exact settled_of_applyInts result
  · exact settled_of_applyStrings result
  · exact settled_of_applyMixed result

theorem Builtin.settled_of_apply {builtin : Builtin} {arguments : List Value}
    (result : builtin.apply arguments = .ok value) : value.Settled inside := by
  unfold apply at result
  split at result <;> cases result
  all_goals exact Value.settled_of_home?_none rfl rfl

end Operation

/-! ## Evaluation hands on what signals carry -/

/-- How results on the left hold what results on the right are: a value, or the value of a return
instead. -/
structure Threading (Left Right : Type) where
  value : Right → Left
  pending : Value → Left
  settled : (FrameId → Prop) → Right → Prop

namespace Threading

def single : Threading Value Value where
  value value := value
  pending := .returned
  settled inside value := value.Settled inside

def several : Threading Arguments (List Value) where
  value := .values
  pending := .returned
  settled inside values := ∀ value ∈ values, value.Settled inside

variable {Left Right Left' Right' : Type}

/-- Outcomes that are the same error, the same value or a return of the same value. -/
inductive Ends (threading : Threading Left Right) (inside : FrameId → Prop) :
    Except EvalError Left → Except Signal Right → Prop where
  | value {right : Right} (settled : threading.settled inside right) :
      Ends threading inside (.ok (threading.value right)) (.ok right)
  | returned {value : Value} (settled : value.Settled inside) :
      Ends threading inside (.ok (threading.pending value)) (.error (.returned value))
  | error (error : EvalError) : Ends threading inside (.error error) (.error (.error error))

/-- Whether two computations, from any arena with settled values in the given frames, come to the
same arena and to outcomes that are the same. -/
def Matches (threading : Threading Left Right) (inside : FrameId → Prop)
    (left : Evaluation Left) (right : Signalling Right) : Prop :=
  ∀ ⦃arena⦄, arena.SettledWithin inside → (left arena).2 = (right arena).2 ∧
    ∃ later : FrameId → Prop, (∀ id, inside id → later id) ∧
      (right arena).2.SettledWithin later ∧ threading.Ends later (left arena).1 (right arena).1

namespace Matches

variable {threading : Threading Left Right} {threading' : Threading Left' Right'}
  {inside : FrameId → Prop}

theorem pure {right : Right} (settled : threading.settled inside right) :
    threading.Matches inside (Pure.pure (threading.value right)) (Pure.pure right) :=
  fun _ within => ⟨rfl, inside, fun _ known => known, within, .value settled⟩

theorem pure_several {values : List Value} (settled : ∀ value ∈ values, value.Settled inside) :
    several.Matches inside (Pure.pure (.values values)) (Pure.pure values) :=
  pure settled

theorem throw (error : EvalError) :
    threading.Matches inside (MonadExcept.throw error) (MonadExcept.throw (.error error)) :=
  fun _ within => ⟨rfl, inside, fun _ known => known, within, .error error⟩

theorem result {result : Except EvalError Value}
    (settled : ∀ value, result = .ok value → value.Settled inside) :
    single.Matches inside (ExceptT.mk (Pure.pure result)) (Signalling.ofResult result) := by
  cases result with
  | ok value => exact pure (settled value rfl)
  | error error => exact throw error

theorem returned {value : Value} (settled : value.Settled inside) :
    threading.Matches inside (Pure.pure (threading.pending value))
      (MonadExcept.throw (.returned value)) :=
  fun _ within => ⟨rfl, inside, fun _ known => known, within, .returned settled⟩

/-- Computations that go on alike from a settled value match if the left one hands a pending
result on. -/
theorem bind {left : Evaluation Left} {right : Signalling Right} {next : Left → Evaluation Left'}
    {next' : Right → Signalling Right'} (first : threading.Matches inside left right)
    (rest : ∀ {later value}, (∀ id, inside id → later id) → threading.settled later value →
      threading'.Matches later (next (threading.value value)) (next' value))
    (handsOn : ∀ value, next (threading.pending value) = Pure.pure (threading'.pending value)) :
    threading'.Matches inside (left >>= next) (right >>= next') := by
  intro arena within
  rcases first within with ⟨same, middle, grows, within, outcome⟩
  change (ExceptT.bindCont next (left arena).1 (left arena).2).2 =
      (ExceptT.bindCont next' (right arena).1 (right arena).2).2 ∧
    ∃ later : FrameId → Prop, (∀ id, inside id → later id) ∧
      (ExceptT.bindCont next' (right arena).1 (right arena).2).2.SettledWithin later ∧
      threading'.Ends later (ExceptT.bindCont next (left arena).1 (left arena).2).1
        (ExceptT.bindCont next' (right arena).1 (right arena).2).1
  rw [same]
  revert outcome
  generalize (left arena).1 = result
  generalize (right arena).1 = result'
  intro outcome
  cases outcome with
  | value settled =>
      rcases rest grows settled within with ⟨same, later, grows', within, outcome⟩
      exact ⟨same, later, fun id known => grows' id (grows id known), within, outcome⟩
  | returned settled =>
      simp only [ExceptT.bindCont, handsOn]
      exact ⟨rfl, middle, grows, within, .returned settled⟩
  | error error => exact ⟨rfl, middle, grows, within, .error error⟩

theorem operand {left : Evaluation Value} {right : Signalling Value}
    {next : Value → Evaluation Value} {next' : Value → Signalling Value}
    (first : single.Matches inside left right)
    (rest : ∀ {later value}, (∀ id, inside id → later id) → value.Settled later →
      single.Matches later (next value) (next' value)) :
    single.Matches inside (Evaluation.withOperand left next) (right >>= next') := by
  refine bind first (fun {later value} grows settled => ?_) fun _ => rfl
  cases value with
  | returned inner => exact absurd settled.arrived (by simp [Value.isReturned])
  | _ => exact rest grows settled

end Matches

/-- Whether two ways to apply values match on settled values and arguments. -/
def Applications (apply : Application) (call : Value → List Value → Signalling Value) : Prop :=
  ∀ ⦃inside callee arguments⦄, callee.Settled inside →
    (∀ argument ∈ arguments, argument.Settled inside) →
    single.Matches inside (apply callee arguments) (call callee arguments)

variable {inside : FrameId → Prop} {scope : FrameId} {apply : Application}
  {call : Value → List Value → Signalling Value}

theorem matches_identifier (here : inside scope) (name : String) :
    single.Matches inside (Evaluation.identifier scope name)
      (Signalling.identifier scope name) := by
  intro arena within
  have bound {value : Value} (found : arena.lookup? scope name = some value) :
      value.Settled inside := within.settled_of_lookupWithin here found
  have raised : Signalling.identifier scope name arena =
      (match arena.lookup? scope name with
        | some value => Pure.pure value
        | none =>
            match Builtin.ofName? name with
            | some builtin => Pure.pure (.builtin builtin)
            | none => MonadExcept.throw (.error (.unboundIdentifier name)) :
        Signalling Value) arena := rfl
  rw [raised, Evaluation.identifier]
  cases found : arena.lookup? scope name with
  | some value => exact Matches.pure (bound found) within
  | none =>
      cases Builtin.ofName? name with
      | some builtin => exact Matches.pure (Value.settled_of_home?_none rfl rfl) within
      | none => exact Matches.throw _ within

theorem matches_bind {value : Value} (settled : value.Settled inside) (name : String) :
    single.Matches inside (Evaluation.bind scope name value)
      (Signalling.bind scope name value) :=
  fun _ within => ⟨rfl, inside, fun _ known => known, within.bind settled scope name,
    .value (Value.settled_of_home?_none rfl rfl)⟩

theorem matches_close (here : inside scope) (parameters : List Identifier) (body : Block) :
    single.Matches inside (Evaluation.close scope parameters body)
      (Signalling.close scope parameters body) := by
  intro arena within
  have part : (arena.close scope parameters body).2.PartOf arena :=
    Arena.PartOf.recount arena scope Frame.recounts_capture
  refine ⟨rfl, inside, fun _ known => known, within.partOf part, .value ⟨rfl, ?_⟩⟩
  rintro home ⟨⟩
  exact here

mutual

theorem matches_expr (applications : Applications apply call) (value : Expr)
    {inside : FrameId → Prop} (here : inside scope) :
    single.Matches inside (value.evaluate apply scope) (value.interpret call scope) := by
  cases value with
  | ident name => exact matches_identifier here name.name
  | int _ value => exact Matches.pure (Value.settled_of_home?_none rfl rfl)
  | bool _ value => exact Matches.pure (Value.settled_of_home?_none rfl rfl)
  | string _ text => exact Matches.pure (Value.settled_of_home?_none rfl rfl)
  | unary _ operator operand =>
      rw [Expr.evaluate, Expr.interpret]
      refine Matches.operand (matches_expr applications operand here) fun _ _ => ?_
      exact Matches.result fun _ => Operator.settled_of_applyUnary
  | binary _ left operator right =>
      rw [Expr.evaluate, Expr.interpret]
      refine Matches.operand (matches_expr applications left here) fun grows _ => ?_
      refine Matches.operand (matches_expr applications right (grows scope here)) fun _ _ => ?_
      exact Matches.result fun _ => Operator.settled_of_applyBinary
  | conditional _ condition consequence alternative =>
      rw [Expr.evaluate, Expr.interpret]
      refine Matches.operand (matches_expr applications condition here) fun grows _ => ?_
      split
      · exact matches_block applications consequence (grows scope here)
      · exact matches_alternative applications alternative (grows scope here)
  | function _ parameters body => exact matches_close here parameters body
  | call _ callee arguments =>
      rw [Expr.evaluate, Expr.interpret]
      refine Matches.operand (matches_expr applications callee here) fun grows settled => ?_
      refine Matches.bind (matches_arguments applications arguments (grows scope here))
        (fun grows' settled' => ?_) fun _ => rfl
      exact applications (settled.mono grows') settled'

theorem matches_alternative (applications : Applications apply call)
    (alternative : Option Block) {inside : FrameId → Prop} (here : inside scope) :
    single.Matches inside (evaluateAlternative apply scope alternative)
      (interpretAlternative call scope alternative) := by
  cases alternative with
  | none => exact Matches.pure (Value.settled_of_home?_none rfl rfl)
  | some block => exact matches_block applications block here

theorem matches_arguments (applications : Applications apply call) (arguments : List Expr)
    {inside : FrameId → Prop} (here : inside scope) :
    several.Matches inside (evaluateArguments apply scope arguments)
      (interpretArguments call scope arguments) := by
  cases arguments with
  | nil => exact Matches.pure_several (by rintro _ ⟨⟩)
  | cons argument rest =>
      rw [evaluateArguments, interpretArguments]
      refine Matches.bind (matches_expr applications argument here)
        (fun {later value} grows settled => ?_) fun _ => rfl
      cases value with
      | returned inner => exact absurd settled.arrived (by simp [Value.isReturned])
      | _ =>
          refine Matches.bind (matches_arguments applications rest (grows scope here))
            (fun grows' settled' => Matches.pure_several ?_) fun _ => rfl
          exact List.forall_mem_cons.mpr ⟨settled.mono grows', settled'⟩

theorem matches_statement (applications : Applications apply call) (statement : Statement)
    {inside : FrameId → Prop} (here : inside scope) :
    single.Matches inside (statement.evaluate apply scope) (statement.interpret call scope) := by
  cases statement with
  | bind _ identifier value =>
      rw [Statement.evaluate, Statement.interpret]
      exact Matches.operand (matches_expr applications value here) fun _ settled =>
        matches_bind settled identifier.name
  | result _ value =>
      rw [Statement.evaluate, Statement.interpret]
      exact Matches.operand (matches_expr applications value here) fun _ settled =>
        Matches.returned settled
  | expr _ value => exact matches_expr applications value here

theorem matches_statements (applications : Applications apply call)
    (statements : List Statement) {inside : FrameId → Prop} {latest : Value}
    (here : inside scope) (settled : latest.Settled inside) :
    single.Matches inside (evaluateStatements apply scope latest statements)
      (interpretStatements call scope latest statements) := by
  cases statements with
  | nil => exact Matches.pure settled
  | cons statement rest =>
      rw [evaluateStatements, interpretStatements]
      exact Matches.operand (matches_statement applications statement here) fun grows settled =>
        matches_statements applications rest (grows scope here) settled

theorem matches_block (applications : Applications apply call) (block : Block)
    {inside : FrameId → Prop} (here : inside scope) :
    single.Matches inside (block.evaluate apply scope) (block.interpret call scope) := by
  cases block with
  | mk _ statements =>
      exact matches_statements applications statements here (Value.settled_of_home?_none rfl rfl)

end

end Threading

/-! ## Calls catch returns -/

/-- What is left of an outcome when a return has been caught. -/
def Signal.caught : Except Signal Value → Except Signal Value
  | .error (.returned value) => .ok value
  | ended => ended

namespace Signalling

theorem catchReturn_apply (computation : Signalling Value) (arena : Arena) :
    catchReturn computation arena =
      (Signal.caught (computation arena).1, (computation arena).2) := by
  rcases ended : computation arena with ⟨(_ | _) | _, arena'⟩ <;>
    simp [catchReturn, tryCatch, tryCatchThe, MonadExceptOf.tryCatch, ExceptT.tryCatch,
      Bind.bind, StateT.bind, ExceptT.mk, ended, Signal.caught] <;> rfl

theorem finally_apply (computation : Signalling Value) (change : Arena → Arena) (arena : Arena) :
    (tryFinally computation (modify change) : Signalling Value) arena =
      ((computation arena).1, change (computation arena).2) := by
  rcases ended : computation arena with ⟨_ | _, arena'⟩ <;>
    simp [tryFinally, tryFinally', Functor.map, ExceptT.map, Bind.bind, StateT.bind, ExceptT.mk,
      ended] <;> rfl

end Signalling

theorem Closure.catchReturn_interpret (call : Value → List Value → Signalling Value)
    (function : Closure) (arguments : List Value) (arena : Arena) :
    Signalling.catchReturn (function.interpret call arguments) arena =
      let entry := arena.enclose function.home
      let ended := function.body.interpret call entry.1
        (entry.2.bindAll entry.1 function.parameters arguments)
      (Signal.caught ended.1, ended.2.drop entry.1) := by
  have opened : function.interpret call arguments arena =
      (tryFinally (function.body.interpret call (arena.enclose function.home).1)
        (modify (Arena.drop (arena.enclose function.home).1)) : Signalling Value)
        ((arena.enclose function.home).2.bindAll (arena.enclose function.home).1
          function.parameters arguments) := rfl
  simp only [Signalling.catchReturn_apply, opened, Signalling.finally_apply]

section Call

variable {function : Closure} {arguments : List Value} {remaining : Nat}

theorem Value.call_zero (arity : arguments.length = function.parameters.length) :
    Value.call 0 (.closure function) arguments = throw (.error .stackOverflow) := by
  simp [Value.call, arity]

theorem Value.call_succ (arity : arguments.length = function.parameters.length) :
    Value.call (remaining + 1) (.closure function) arguments =
      Signalling.catchReturn (function.interpret (Value.call remaining) arguments) := by
  simp [Value.call, arity]

theorem Value.call_of_length_ne (arity : arguments.length ≠ function.parameters.length) :
    Value.call remaining (.closure function) arguments =
      throw (.error (.wrongArity arguments.length function.parameters.length)) := by
  cases remaining <;> simp [Value.call, arity]

end Call

namespace Threading

/-- A return that a call catches has taken off the wrapping of a pending result. -/
theorem Ends.caught {inside : FrameId → Prop} {left : Except EvalError Value}
    {right : Except Signal Value} (ends : single.Ends inside left right) :
    single.Ends inside (left.map Value.unwrap) (Signal.caught right) := by
  cases ends with
  | @value value settled =>
      change single.Ends inside (.ok value.unwrap) (.ok value)
      rw [settled.unwrap_eq]
      exact .value settled
  | returned settled => exact .value settled
  | error error => exact .error error

theorem matches_enter {apply : Application} {call : Value → List Value → Signalling Value}
    (applications : Applications apply call) {inside : FrameId → Prop} {function : Closure}
    (home : inside function.home) {arguments : List Value}
    (settled : ∀ argument ∈ arguments, argument.Settled inside) :
    single.Matches inside (function.enter .reusing apply arguments)
      (Signalling.catchReturn (function.interpret call arguments)) := by
  intro arena within
  have entered := within.enclose home
  have bound := entered.bindAll (arena.enclose function.home).1 function.parameters
    fun argument member => (settled argument member).mono fun _ => .inl
  rcases matches_block applications function.body (.inr rfl) bound with
    ⟨same, later, grows, within, ends⟩
  rw [Closure.enter_eq, Closure.catchReturn_interpret]
  refine ⟨congrArg (Arena.drop _) same, later, fun id known => grows id (.inl known),
    within.partOf (.drop _ _), ends.caught⟩

/-- Applying values matches if calls of closures with the right number of arguments do. -/
theorem applications_of_closures {remaining : Nat}
    (closures : ∀ {inside function arguments}, inside function.home →
      (∀ argument ∈ arguments, argument.Settled inside) →
      arguments.length = function.parameters.length →
        single.Matches inside (Value.apply .reusing remaining (.closure function) arguments)
          (Value.call remaining (.closure function) arguments)) :
    Applications (Value.apply .reusing remaining) (Value.call remaining) := by
  intro inside callee arguments settled settled'
  cases callee with
  | closure function =>
      by_cases arity : arguments.length = function.parameters.length
      · exact closures (settled.home_inside _ rfl) settled' arity
      · rw [Value.apply_of_length_ne arity, Value.call_of_length_ne arity]
        exact Matches.throw _
  | builtin function =>
      simp only [Value.apply, Value.call]
      exact Matches.result fun _ => Builtin.settled_of_apply
  | _ =>
      simp only [Value.apply, Value.call]
      exact Matches.throw _

/-- Applying a value comes to the same whether returns and errors are signals or not. -/
theorem matches_apply (remaining : Nat) :
    Applications (Value.apply .reusing remaining) (Value.call remaining) := by
  induction remaining with
  | zero =>
      refine applications_of_closures fun _ _ arity => ?_
      rw [Value.apply_zero arity, Value.call_zero arity]
      exact Matches.throw _
  | succ remaining ih =>
      refine applications_of_closures fun home settled arity => ?_
      rw [Value.apply_succ arity, Value.call_succ arity]
      exact matches_enter ih home settled

/-- An outcome arrives where a program ends. -/
theorem Ends.outcome_eq {inside : FrameId → Prop} {left : Except EvalError Value}
    {right : Except Signal Value} (ends : single.Ends inside left right) :
    left.map Value.unwrap = Signalling.outcome right := by
  cases ends with
  | value settled => exact congrArg Except.ok settled.unwrap_eq
  | returned settled => rfl
  | error error => rfl

end Threading

/-- What a scope reaches is settled if no frame in reach binds a pending result. -/
theorem Arena.settledWithin_reaches {arena : Arena} {scope : FrameId}
    (arrived : ∀ id, arena.Reaches scope id → ∀ frame, arena.frame? id = some frame →
      ∀ binding ∈ frame.bindings, binding.2.isReturned = false) :
    arena.SettledWithin (arena.Reaches scope) where
  outer_inside reaches found _ outward :=
    reaches.tail (mem_references_of_outer found outward)
  bound_settled reaches found binding member :=
    ⟨arrived _ reaches _ found binding member, fun _ refers =>
      reaches.tail (mem_references_of_binding found member refers)⟩

/-- A program comes to the same value or error, and leaves the same arena, whether returns and
errors are signals or not, if no frame that its scope reaches binds a pending result. -/
theorem Program.evaluate_eq_interpret (program : Program) (scope : FrameId) {arena : Arena}
    (arrived : ∀ id, arena.Reaches scope id → ∀ frame, arena.frame? id = some frame →
      ∀ binding ∈ frame.bindings, binding.2.isReturned = false) :
    program.evaluate scope arena = program.interpret scope arena := by
  have settled := Arena.settledWithin_reaches arrived
  have applications := Threading.matches_apply callDepthLimit
  have null : Value.null.Settled (arena.Reaches scope) := Value.settled_of_home?_none rfl rfl
  rcases Threading.matches_statements applications program.statements .refl null settled with
    ⟨same, _, _, _, ends⟩
  rw [evaluate_eq]
  simp only [same, ends.outcome_eq]
  rfl

/-- A return in the right operand of a sum ends the call of the function around it. -/
theorem Program.evaluate_eq_interpret_operand :
    let name (text : String) : Identifier := .ofToken (.ident text)
    let block (statement : Statement) : Block := ⟨.punctuation .openBrace, [statement]⟩
    let early : Statement := .result (.keyword .returnWord) (.int (.int "2") 2)
    let choice : Expr := .conditional (.keyword .ifWord) (.ident (name "x")) (block early) none
    let sum : Expr := .binary (.operator .plus) (.ident (name "x")) .plus choice
    let function : Expr := .function (.keyword .fnWord) [] (block (.expr .eof sum))
    let call : Expr := .call (.punctuation .openParen) (.ident (name "f")) []
    let program : Program :=
      ⟨[.bind (.keyword .letWord) (name "f") function,
        .expr .eof (.unary (.operator .minus) .minus call)]⟩
    let opened := Arena.start 0
    let arena := opened.2.bind opened.1 "x" (.int 1)
    (∀ id, arena.Reaches opened.1 id → ∀ frame, arena.frame? id = some frame →
        ∀ binding ∈ frame.bindings, binding.2.isReturned = false) ∧
      program.evaluate opened.1 arena = program.interpret opened.1 arena ∧
      (program.evaluate opened.1 arena).1 = .ok (.int (-2)) := by
  intro name block early choice sum function call program opened arena
  have arrived : ∀ id, arena.Reaches opened.1 id → ∀ frame, arena.frame? id = some frame →
      ∀ binding ∈ frame.bindings, binding.2.isReturned = false := by
    rintro ⟨_ | slot⟩ _ frame found binding member
    · cases found
      obtain rfl := List.mem_singleton.mp member
      rfl
    · cases found
  exact ⟨arrived, program.evaluate_eq_interpret opened.1 arrived, rfl⟩

end Monkey
