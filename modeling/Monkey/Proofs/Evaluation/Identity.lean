import Monkey.Proofs.Evaluation.Noninterference
import Monkey.Proofs.Evaluation.Sorts

/-!
# Identities of closures

An arena numbers the closures it makes, so no two of a session are the same. Whatever an evaluation
binds, uses or comes to has been made by then, if no frame binds anything else to begin with: the
identities still to come are those of no closure there is.
-/

namespace Monkey

namespace Arena

/-- Whether an arena has made the closure that a value is or carries. -/
def Knows (arena : Arena) (value : Value) : Prop :=
  ∀ function ∈ value.closure?, arena.HasIssued function.id

/-- Whether an arena is one of the same session that has made as many closures or more. -/
def Precedes (arena later : Arena) : Prop :=
  ∃ more, ∀ count, later.upcomingId count = arena.upcomingId (more + count)

theorem isSort_knows (arena : Arena) : Value.IsSort arena.Knows where
  plain {value} settled _ carried := (settled.home_inside _ (value.home_mem carried)).elim
  unwrap {value} known := by cases value <;> exact known

namespace Precedes

variable {arena middle later : Arena}

theorem of_nextId_eq (same : later.nextId = arena.nextId) : arena.Precedes later :=
  ⟨0, fun count => by rw [upcomingId, upcomingId, same, Nat.zero_add]⟩

theorem trans (first : arena.Precedes middle) (second : middle.Precedes later) :
    arena.Precedes later := by
  rcases first with ⟨more, first⟩
  rcases second with ⟨more', second⟩
  exact ⟨more + more', fun count => by rw [second, first, Nat.add_assoc]⟩

theorem close (arena : Arena) (scope : FrameId) (parameters : List Identifier) (body : Block) :
    arena.Precedes (arena.close scope parameters body).2 :=
  ⟨1, fun count => congrArg (ClosureId.mk arena.session) (Nat.add_assoc arena.closures 1 count)⟩

theorem hasIssued (precedes : arena.Precedes later) {id : ClosureId}
    (issued : arena.HasIssued id) : later.HasIssued id := by
  rcases precedes with ⟨more, upcoming⟩
  intro count
  rw [upcoming count]
  exact issued (more + count)

theorem knows (precedes : arena.Precedes later) {value : Value} (known : arena.Knows value) :
    later.Knows value :=
  fun function carried => precedes.hasIssued (known function carried)

end Precedes

/-- The closure just made is known from then on. -/
theorem knows_close (arena : Arena) (scope : FrameId) (parameters : List Identifier)
    (body : Block) :
    (arena.close scope parameters body).2.Knows
      (.closure (arena.close scope parameters body).1) := by
  rintro function ⟨⟩ count same
  have serial : arena.closures = arena.closures + 1 + count := congrArg ClosureId.serial same
  omega

end Arena

namespace Configuration

variable {configuration later : Configuration}

theorem Moves.precedes (moves : configuration.Moves later) :
    configuration.arena.Precedes later.arena := by
  cases moves with
  | stays same arena_eq => exact .of_nextId_eq (congrArg Arena.nextId arena_eq)
  | closes same parameters body arena_eq =>
      rw [arena_eq]
      exact .close _ configuration.scope parameters body
  | binds same name bound arena_eq =>
      rw [arena_eq]
      exact .of_nextId_eq rfl
  | calls _ _ _ _ _ _ arena_eq =>
      rw [arena_eq]
      exact .of_nextId_eq (Arena.nextId_insert _ _)
  | returns _ _ arena_eq =>
      rw [arena_eq]
      exact .of_nextId_eq (Arena.nextId_releaseWithin _ _ _)

/-- An evaluation deals in known closures alone, from one step to the next. -/
theorem DealsIn.step_knows (deals : configuration.DealsIn configuration.arena.Knows)
    (stepped : configuration.step = some later) : later.DealsIn later.arena.Knows := by
  have precedes := (moves_of_step stepped).precedes
  refine (deals.mono fun _ => precedes.knows).step later.arena.isSort_knows ?_ stepped
  intro token parameters body literal
  rw [Configuration.step, literal] at stepped
  cases stepped
  exact configuration.arena.knows_close configuration.scope parameters body

theorem DealsIn.runs_knows (deals : configuration.DealsIn configuration.arena.Knows)
    (runs : configuration.Runs later) :
    later.DealsIn later.arena.Knows ∧ configuration.arena.Precedes later.arena := by
  induction runs with
  | refl => exact ⟨deals, .of_nextId_eq rfl⟩
  | tail _ stepped ih =>
      exact ⟨ih.1.step_knows stepped, ih.2.trans (moves_of_step stepped).precedes⟩

end Configuration

/-- A program leaves an arena that knows all closures that it binds, if it finds one. -/
theorem Program.evaluate_knows (program : Program) (scope : FrameId) {arena : Arena}
    (known : arena.BindsOnly arena.Knows) :
    (program.evaluate scope arena).2.BindsOnly (program.evaluate scope arena).2.Knows ∧
      arena.Precedes (program.evaluate scope arena).2 := by
  have deals := Configuration.DealsIn.start arena.isSort_knows program scope known
  rcases program.runs_evaluate scope arena with ⟨outcome, last, runs, ended⟩
  rcases deals.runs_knows runs with ⟨dealt, precedes⟩
  rw [ended]
  have collected : last.Precedes
      (last.collect (outcomeValues (outcome.map Value.unwrap))).2 :=
    .of_nextId_eq (Arena.nextId_discardAll _ last)
  have bound := dealt.bound.partOf
    (Arena.WellFormed.partOf_collect last (outcomeValues (outcome.map Value.unwrap)))
  refine ⟨fun id frame found binding member => ?_, precedes.trans collected⟩
  exact collected.knows (bound found binding member)

end Monkey
