import Monkey.Proofs.Evaluation.Machine
import Monkey.Proofs.Evaluation.Signals

/-!
# Sorts of values

Evaluation deals in values of one sort alone if the frames bind no others to begin with: whatever is
inspected, passed, bound or kept for later at any moment is of that sort, and so is what an outcome
comes to when it has arrived. The sort has to have the values that refer to no frame, and the
closures that are made.

One step keeps this whatever it does, so that a run keeps it.
-/

namespace Monkey

/-- A sort of values that has all values without a home, but for pending results, and what a value
of the sort becomes when it arrives. -/
structure Value.IsSort (sort : Value → Prop) : Prop where
  plain : ∀ {value : Value}, value.Settled (fun _ => False) → sort value
  unwrap : ∀ {value : Value}, sort value → sort value.unwrap

theorem Value.IsSort.null {sort : Value → Prop} (isSort : Value.IsSort sort) : sort .null :=
  isSort.plain (Value.settled_of_home?_none rfl rfl)

/-- Whether an outcome is an error or becomes a value of a sort when it arrives. -/
def ComesTo (sort : Value → Prop) (outcome : Except EvalError Value) : Prop :=
  ∀ value, outcome = .ok value → sort value.unwrap

namespace ComesTo

variable {sort : Value → Prop} {outcome : Except EvalError Value}

theorem error (error : EvalError) : ComesTo sort (.error error) := by
  rintro value ⟨⟩

theorem ok (isSort : Value.IsSort sort) {value : Value} (ofSort : sort value) :
    ComesTo sort (.ok value) := by
  rintro _ ⟨⟩
  exact isSort.unwrap ofSort

theorem returned {value : Value} (ofSort : sort value) : ComesTo sort (.ok (.returned value)) := by
  rintro _ ⟨⟩
  exact ofSort

theorem plain (isSort : Value.IsSort sort)
    (settled : ∀ value, outcome = .ok value → value.Settled fun _ => False) :
    ComesTo sort outcome :=
  fun value result => isSort.unwrap (isSort.plain (settled value result))

theorem map_unwrap (comes : ComesTo sort outcome) :
    ∀ value, outcome.map Value.unwrap = .ok value → sort value := by
  cases outcome with
  | ok value =>
      rintro _ ⟨⟩
      exact comes value rfl
  | error error => rintro _ ⟨⟩

theorem outcomeValues (comes : ComesTo sort outcome) :
    ∀ value ∈ Program.outcomeValues (outcome.map Value.unwrap), sort value := by
  have ofSort := comes.map_unwrap
  cases result : outcome.map Value.unwrap with
  | ok value => exact List.forall_mem_singleton.mpr (ofSort value result)
  | error error => rintro _ ⟨⟩

end ComesTo

/-- Whether a control uses values of a sort, or has an outcome that comes to one. -/
def Control.DealsIn (sort : Value → Prop) : Control → Prop
  | .done outcome => ComesTo sort outcome
  | control => ∀ value ∈ control.used, sort value

theorem Control.DealsIn.used {sort : Value → Prop} {control : Control}
    (deals : control.DealsIn sort) : ∀ value ∈ control.used, sort value := by
  cases control with
  | done outcome => rintro _ ⟨⟩
  | _ => exact deals

theorem Control.DealsIn.mono {sort wider : Value → Prop} {control : Control}
    (deals : control.DealsIn sort) (widens : ∀ value, sort value → wider value) :
    control.DealsIn wider := by
  cases control with
  | done outcome => exact fun value result => widens _ (deals value result)
  | _ => exact fun value member => widens value (deals value member)

/-- A part uses its own value and those that it kept. -/
theorem Part.dealsIn_next {sort : Value → Prop} {part : Part} {value : Value}
    (kept : ∀ value ∈ part.kept, sort value) (ofSort : sort value) :
    (part.next value).DealsIn sort := by
  have alone : ∀ used ∈ [value], sort used := List.forall_mem_singleton.mpr ofSort
  cases part with
  | unary operator => exact alone
  | left operator second => exact alone
  | right first operator => exact List.forall_mem_cons.mpr ⟨kept _ List.mem_cons_self, alone⟩
  | condition consequence alternative => exact alone
  | callee arguments => exact alone
  | argument function before rest =>
      rw [Part.kept, List.forall_mem_cons] at kept
      exact List.forall_mem_cons.mpr ⟨kept.1, List.forall_mem_append.mpr ⟨kept.2, alone⟩⟩
  | bound name => exact alone
  | result => exact .returned ofSort
  | statement rest => exact alone

namespace Configuration

/-- Whether all values of a moment are of one sort: those that frames bind, that are used next or
that wait for later, and what an outcome comes to. -/
structure DealsIn (sort : Value → Prop) (configuration : Configuration) : Prop where
  bound : configuration.arena.BindsOnly sort
  control : configuration.control.DealsIn sort
  kept : ∀ pending ∈ configuration.stack, ∀ value ∈ pending.kept, sort value

namespace DealsIn

variable {sort : Value → Prop} {configuration later : Configuration}

theorem mono {wider : Value → Prop} (deals : configuration.DealsIn sort)
    (widens : ∀ value, sort value → wider value) : configuration.DealsIn wider where
  bound _ _ found binding member := widens _ (deals.bound found binding member)
  control := deals.control.mono widens
  kept pending member value waits := widens value (deals.kept pending member value waits)

theorem goOn (deals : configuration.DealsIn sort) {control : Control}
    (goesOn : control.DealsIn sort) : (configuration.goOn control).DealsIn sort :=
  ⟨deals.bound, goesOn, deals.kept⟩

theorem perform (deals : configuration.DealsIn sort) {action : Evaluation Value}
    (binds : (action configuration.arena).2.BindsOnly sort)
    (comes : ComesTo sort (action configuration.arena).1) :
    (configuration.perform action).DealsIn sort :=
  ⟨binds, comes, deals.kept⟩

theorem await (deals : configuration.DealsIn sort) {part : Part} {control : Control}
    (waits : ∀ value ∈ part.kept, sort value) (goesOn : control.DealsIn sort) :
    (configuration.await part control).DealsIn sort :=
  ⟨deals.bound, goesOn, List.forall_mem_cons.mpr ⟨waits, deals.kept⟩⟩

theorem call (deals : configuration.DealsIn sort) {function : Closure} {arguments : List Value}
    (passed : ∀ argument ∈ arguments, sort argument) :
    (configuration.call function arguments).DealsIn sort :=
  ⟨deals.bound.enclose function.home, passed,
    List.forall_mem_cons.mpr ⟨by rintro _ ⟨⟩, deals.kept⟩⟩

variable (isSort : Value.IsSort sort)

include isSort

theorem goOn_block (deals : configuration.DealsIn sort) (block : Block) :
    (configuration.goOn block.control).DealsIn sort :=
  deals.goOn (List.forall_mem_singleton.mpr isSort.null)

theorem identifier (deals : configuration.DealsIn sort) (name : String) :
    (configuration.perform (Evaluation.identifier configuration.scope name)).DealsIn sort := by
  refine deals.perform ?_ ?_
  · rw [Evaluation.identifier_arena]
    exact deals.bound
  · unfold Evaluation.identifier
    split
    · next found => exact .ok isSort (deals.bound.of_lookupWithin found)
    · split
      · exact .ok isSort (isSort.plain (Value.settled_of_home?_none rfl rfl))
      · exact .error _

theorem stepExpr (deals : configuration.DealsIn sort) (value : Expr)
    (closes : ∀ token parameters body, value = .function token parameters body →
      sort (.closure (configuration.arena.close configuration.scope parameters body).1)) :
    (configuration.stepExpr value).DealsIn sort := by
  have literal {value : Value} (arrived : value.isReturned = false)
      (homeless : value.home? = none) :
      (configuration.goOn (.done (.ok value))).DealsIn sort :=
    deals.goOn (.ok isSort (isSort.plain (Value.settled_of_home?_none arrived homeless)))
  cases value with
  | ident name => exact deals.identifier isSort name.name
  | function token parameters body =>
      have part : (configuration.arena.close configuration.scope parameters body).2.PartOf
          configuration.arena := Arena.PartOf.recount _ _ Frame.recounts_capture
      exact deals.perform (deals.bound.partOf part)
        (.ok isSort (closes token parameters body rfl))
  | int _ value => exact literal rfl rfl
  | bool _ value => exact literal rfl rfl
  | string _ text => exact literal rfl rfl
  | unary _ operator operand => exact deals.goOn (by rintro _ ⟨⟩)
  | binary _ left operator right => exact deals.goOn (by rintro _ ⟨⟩)
  | conditional _ condition consequence alternative => exact deals.goOn (by rintro _ ⟨⟩)
  | call _ callee arguments => exact deals.goOn (by rintro _ ⟨⟩)

theorem stepApply (deals : configuration.DealsIn sort) (callee : Value)
    {arguments : List Value} (passed : ∀ argument ∈ arguments, sort argument) :
    (configuration.stepApply callee arguments).DealsIn sort := by
  cases callee with
  | closure function =>
      simp only [Configuration.stepApply]
      split
      · split
        · exact deals.goOn (.error _)
        · exact deals.call passed
      · exact deals.goOn (.error _)
  | builtin function => exact deals.goOn (.plain isSort fun _ => Builtin.settled_of_apply)
  | _ => exact deals.goOn (.error _)

theorem stepEnter (deals : configuration.DealsIn sort) (body : Block)
    (parameters : List Identifier) {arguments : List Value}
    (passed : ∀ argument ∈ arguments, sort argument) :
    (configuration.stepEnter body parameters arguments).DealsIn sort := by
  cases parameters with
  | nil => exact deals.goOn_block isSort body
  | cons parameter parameters =>
      cases arguments with
      | nil => exact deals.goOn_block isSort body
      | cons argument arguments =>
          rw [List.forall_mem_cons] at passed
          exact ⟨deals.bound.bind passed.1 _ _, passed.2, deals.kept⟩

theorem resume (deals : configuration.DealsIn sort) {outcome : Except EvalError Value}
    (comes : ComesTo sort outcome) {pending : Pending}
    (kept : ∀ value ∈ pending.kept, sort value) :
    (configuration.resume outcome pending).DealsIn sort := by
  cases pending with
  | part part =>
      cases outcome with
      | error error => exact deals.goOn (.error error)
      | ok value =>
          cases value with
          | returned value => exact deals.goOn comes
          | _ => exact deals.goOn (Part.dealsIn_next kept (comes _ rfl))
  | call caller =>
      refine ⟨deals.bound.partOf (.drop _ _), fun value result => ?_, deals.kept⟩
      exact isSort.unwrap (comes.map_unwrap value result)

/-- Every step deals in values of the same sort, if the closure it may make is of that sort. -/
theorem step (deals : configuration.DealsIn sort)
    (closes : ∀ token parameters body,
      configuration.control = .expr (.function token parameters body) →
      sort (.closure (configuration.arena.close configuration.scope parameters body).1))
    (stepped : configuration.step = some later) : later.DealsIn sort := by
  have now := deals.control
  rcases configuration with ⟨control, scope, stack, depth, arena⟩
  cases control with
  | expr value =>
      cases stepped
      exact deals.stepExpr isSort value fun token parameters body same =>
        closes token parameters body (congrArg _ same)
  | operand value part =>
      cases stepped
      exact deals.await now (by rintro _ ⟨⟩)
  | statements latest statements =>
      cases statements with
      | nil =>
          cases stepped
          exact deals.goOn (.ok isSort (now latest List.mem_cons_self))
      | cons statement rest =>
          cases stepped
          refine deals.await (by rintro _ ⟨⟩) ?_
          cases statement <;> rintro _ ⟨⟩
  | arguments callee before rest =>
      cases rest <;> cases stepped <;> exact deals.goOn now
  | unary operator operand =>
      cases stepped
      exact deals.goOn (.plain isSort fun _ => Operator.settled_of_applyUnary)
  | binary left operator right =>
      cases stepped
      exact deals.goOn (.plain isSort fun _ => Operator.settled_of_applyBinary)
  | choose condition consequence alternative =>
      cases stepped
      split
      · exact deals.goOn_block isSort consequence
      · cases alternative with
        | none => exact deals.goOn (.ok isSort isSort.null)
        | some block => exact deals.goOn_block isSort block
  | apply callee arguments =>
      cases stepped
      exact deals.stepApply isSort callee (List.forall_mem_cons.mp now).2
  | enter parameters arguments body =>
      cases stepped
      exact deals.stepEnter isSort body parameters now
  | bind name value =>
      cases stepped
      refine deals.perform (deals.bound.bind (now value List.mem_cons_self) scope name) ?_
      exact .ok isSort isSort.null
  | done outcome =>
      cases stack with
      | nil => cases stepped
      | cons pending stack =>
          cases stepped
          have kept := List.forall_mem_cons.mp deals.kept
          have rest : DealsIn sort ⟨.done outcome, scope, stack, depth, arena⟩ :=
            ⟨deals.bound, now, kept.2⟩
          exact rest.resume isSort now kept.1

/-- A program starts with values of a sort if its arena binds no others. -/
theorem start (program : Program) (scope : FrameId) {arena : Arena}
    (bound : arena.BindsOnly sort) : (Configuration.start program scope arena).DealsIn sort :=
  ⟨bound, List.forall_mem_singleton.mpr isSort.null, by rintro _ ⟨⟩⟩

end DealsIn

end Configuration

end Monkey
