import Monkey.Proofs.Evaluation.Sorts

/-!
# No pending result is ever used

A pending result is a value like any other, so nothing but the checks at every part keeps it from
being bound, passed or inspected. They do at every moment of an evaluation, however blocks, calls
and returns are nested: what a frame binds, what a part, a call or an operator uses and what waits
for later has arrived, and a pending result carries a value that has arrived.
-/

namespace Monkey

/-- Whether a value is no pending result. -/
def Value.HasArrived (value : Value) : Prop :=
  value.isReturned = false

theorem Value.isSort_hasArrived : Value.IsSort Value.HasArrived where
  plain settled := settled.arrived
  unwrap {value} arrived := by
    cases value with
    | returned inner => cases arrived
    | _ => rfl

namespace Configuration

/-- What holds where no pending result is used: all that frames bind has arrived, and so have the
operands, conditions, callees and arguments of this moment, what waits for later, and what a pending
result carries on its way out. -/
structure Arrived (configuration : Configuration) : Prop where
  bound : configuration.arena.BindsOnly Value.HasArrived
  used : ∀ value ∈ configuration.control.used, value.HasArrived
  kept : ∀ pending ∈ configuration.stack, ∀ value ∈ pending.kept, value.HasArrived
  carried : ∀ value, configuration.control = .done (.ok (.returned value)) → value.HasArrived

theorem DealsIn.arrived {configuration : Configuration}
    (deals : configuration.DealsIn Value.HasArrived) : configuration.Arrived where
  bound := deals.bound
  used := deals.control.used
  kept := deals.kept
  carried value same := by
    have now := deals.control
    rw [same] at now
    exact now _ rfl

theorem DealsIn.runs_arrived {configuration later : Configuration}
    (deals : configuration.DealsIn Value.HasArrived) (runs : configuration.Runs later) :
    later.DealsIn Value.HasArrived := by
  induction runs with
  | refl => exact deals
  | tail _ stepped ih => exact ih.step Value.isSort_hasArrived (fun _ _ _ _ => rfl) stepped

end Configuration

/-- A program never comes to a pending result, and none is used or bound at any moment of its
evaluation, if no frame binds one to begin with. -/
theorem Program.evaluate_arrived (program : Program) (scope : FrameId) {arena : Arena}
    (arrived : arena.BindsOnly Value.HasArrived) :
    (∀ configuration, (Configuration.start program scope arena).Runs configuration →
      configuration.Arrived) ∧
    (∃ outcome later,
      (Configuration.start program scope arena).Runs ⟨.done outcome, scope, [], 0, later⟩ ∧
      program.evaluate scope arena = (outcome.map Value.unwrap,
        (later.collect (outcomeValues (outcome.map Value.unwrap))).2)) ∧
    (∀ value, (program.evaluate scope arena).1 = .ok value → value.HasArrived) ∧
    (program.evaluate scope arena).2.BindsOnly Value.HasArrived := by
  have deals := Configuration.DealsIn.start Value.isSort_hasArrived program scope arrived
  rcases program.runs_evaluate scope arena with ⟨outcome, later, runs, ended⟩
  have last := deals.runs_arrived runs
  refine ⟨fun configuration runs => (deals.runs_arrived runs).arrived,
    ⟨outcome, later, runs, ended⟩, ?_⟩
  rw [ended]
  exact ⟨ComesTo.map_unwrap last.control,
    last.bound.partOf (Arena.WellFormed.partOf_collect later _)⟩

/-- A return in an argument ends the program with the value of a call that a return ends as well. -/
theorem Program.evaluate_arrived_argument :
    let name (text : String) : Identifier := .ofToken (.ident text)
    let block (statements : List Statement) : Block := ⟨.punctuation .openBrace, statements⟩
    let choice (condition value : Expr) : Expr :=
      .conditional (.keyword .ifWord) condition (block [.result (.keyword .returnWord) value]) none
    let call (argument : Expr) : Expr :=
      .call (.punctuation .openParen) (.ident (name "f")) [argument]
    let yes : Expr := .bool (.keyword .trueWord) true
    let function : Expr := .function (.keyword .fnWord) [name "x"]
      (block [.expr .eof (choice (.ident (name "x")) (.int (.int "5") 5)),
        .expr .eof (.ident (name "x"))])
    let program : Program :=
      ⟨[.bind (.keyword .letWord) (name "f") function, .expr .eof (call (choice yes (call yes)))]⟩
    let opened := Arena.start 0
    opened.2.BindsOnly Value.HasArrived ∧
      (program.evaluate opened.1 opened.2).1 = .ok (.int 5) ∧
      (∀ configuration, (Configuration.start program opened.1 opened.2).Runs configuration →
        configuration.Arrived) ∧
      (program.evaluate opened.1 opened.2).2.BindsOnly Value.HasArrived := by
  intro name block choice call yes function program opened
  have arrived : opened.2.BindsOnly Value.HasArrived := by
    rintro ⟨_ | slot⟩ frame found binding member
    · cases found
      cases member
    · cases found
  have evaluated := program.evaluate_arrived opened.1 arrived
  exact ⟨arrived, rfl, evaluated.1, evaluated.2.2.2⟩

end Monkey
