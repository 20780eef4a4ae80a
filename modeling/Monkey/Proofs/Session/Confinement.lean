import Monkey.Proofs.Evaluation.Writes
import Monkey.Proofs.Session.Stability

/-!
# Confined evaluations

An evaluation writes to the frame of its own scope, under the names that its program binds, and to
the frames of the calls it makes. So the frame of a call, which a closure may have captured, is as
its call left it for as long as it stays in use: in the evaluation that made it, and in all that is
done with the session afterwards but for what is done in that very frame.
-/

namespace Monkey.Session

/-- A session after a program has run in the frame of a handle. -/
def evaluated (session : Session) (program : Program) (scope : FrameId) : Session :=
  { session with
    arena := (program.evaluate scope session.arena).2
    homes := fun home =>
      (session.homes home ∧ (program.evaluate scope session.arena).2.IsAllocated home) ∨
        ∃ value ∈ Program.outcomeValues (program.evaluate scope session.arena).1,
          home ∈ value.home? }

/-- A use of a session that binds nothing and runs nothing in a frame. -/
inductive StepBeside (id : FrameId) (session : Session) : Session → Prop where
  | operation {operation : Operation} (permitted : session.Permits operation) :
      StepBeside id session (session.perform operation)
  | get {handle : FrameId} (held : handle ∈ session.handles) {name : String} {value : Value}
      (found : session.arena.lookup? handle name = some value) :
      StepBeside id session
        { session with homes := fun home => session.homes home ∨ home ∈ value.home? }
  | set {handle : FrameId} (held : handle ∈ session.handles) (apart : id ≠ handle) (name : String)
      {value : Value} (owned : session.Owns value) :
      StepBeside id session { session with arena := session.arena.bind handle name value }
  | evaluate (program : Program) {handle : FrameId} (held : handle ∈ session.handles)
      (apart : id ≠ handle) : StepBeside id session (session.evaluated program handle)

/-- Whether a session comes to another one by uses beside a frame that stays in use. -/
abbrev Beside (id : FrameId) : Session → Session → Prop :=
  Relation.ReflTransGen fun session next =>
    StepBeside id session next ∧ next.arena.IsAllocated id

variable {session next later : Session} {id : FrameId} {frame : Frame}

theorem StepBeside.step (beside : StepBeside id session next) : session.Step next := by
  cases beside with
  | operation permitted => exact permitted.step
  | get held found => exact .get held found
  | set held _ name owned => exact .set held name owned
  | evaluate program held => exact .evaluate program held

theorem StepBeside.shows (beside : StepBeside id session next) (invariant : session.Invariant)
    (shown : session.arena.Shows id frame) (stays : next.arena.IsAllocated id) :
    next.arena.Shows id frame := by
  cases beside with
  | operation permitted =>
      rcases partOf_perform invariant permitted with fewer | more
      · exact shown.prune fewer stays
      · exact shown.extend more
  | get => exact shown
  | set _ apart name => exact shown.bind apart name _
  | evaluate program held apart =>
      exact (program.evaluate_shows invariant.wellFormed held apart shown).2 stays

theorem Beside.shows (beside : Beside id session later) (invariant : session.Invariant)
    (shown : session.arena.Shows id frame) : later.Invariant ∧ later.arena.Shows id frame := by
  induction beside with
  | refl => exact ⟨invariant, shown⟩
  | tail _ stepped ih =>
      exact ⟨ih.1.step stepped.1.step, stepped.1.shows ih.1 ih.2 stepped.2⟩

/-- An evaluation writes to the frame of its scope, under the names that its program binds, and to
the frames of its calls, each of which is new. It leaves all other frames as they were. The frame of
a call is written by that call alone, under the names of its parameters and those that its body
binds. After the return it is never written again, neither by the same evaluation nor by any later
one in another frame. -/
theorem evaluate_writes (invariant : session.Invariant) (program : Program) {scope : FrameId}
    (held : scope ∈ session.handles) :
    let begun := Configuration.start program scope session.arena
    let after := session.evaluated program scope
    (∃ outcome last, begun.Runs ⟨.done outcome, scope, [], 0, last⟩ ∧
      program.evaluate scope session.arena = (outcome.map Value.unwrap,
        (last.collect (Program.outcomeValues (outcome.map Value.unwrap))).2)) ∧
    (∀ id frame, id ≠ scope → session.arena.frame? id = some frame →
      (∀ moment, begun.Runs moment → moment.arena.Shows id frame) ∧
      (after.arena.IsAllocated id → after.arena.Shows id frame)) ∧
    begun.WritesOnly program.letNames ∧
    (∀ frame, session.arena.frame? scope = some frame →
      (∀ moment, begun.Runs moment → moment.arena.ShowsBut program.letNames scope frame) ∧
      after.arena.ShowsBut program.letNames scope frame) ∧
    ∀ opening function arguments, begun.Runs opening → opening.Opens function arguments →
      let entered := opening.call function arguments
      opening.arena.frame? entered.scope = none ∧
      entered.arena.frame? entered.scope = some (Frame.fresh (some function.home)) ∧
      entered.WritesOnly (function.parameters.map Identifier.name ++ function.body.letNames) ∧
      (∃ ended returned, opening.Returns function arguments ended returned) ∧
      ∀ ended returned frame, opening.Returns function arguments ended returned →
        ended.arena.frame? entered.scope = some frame →
        returned.arena.IsAllocated entered.scope →
          (∀ moment, returned.Runs moment → moment.arena.Shows entered.scope frame) ∧
          (after.arena.IsAllocated entered.scope → ∀ later, Beside entered.scope after later →
            later.arena.Shows entered.scope frame ∧
            ∀ program' scope', scope' ∈ later.handles → entered.scope ≠ scope' →
              ∀ moment, (Configuration.start program' scope' later.arena).Runs moment →
                moment.arena.Shows entered.scope frame) := by
  intro begun after
  have wellFormed := invariant.wellFormed
  have orderly : begun.Orderly scope session.handles :=
    Configuration.orderly_start program scope wellFormed
  have invariant' : after.Invariant := invariant.step (.evaluate program held)
  rcases program.runs_evaluate scope session.arena with ⟨outcome, last, runs, ended⟩
  have part : after.arena.PartOf last := by
    have arena_eq : after.arena = _ := congrArg Prod.snd ended
    rw [arena_eq]
    exact Arena.WellFormed.partOf_collect last _
  have begins : begun.Begins (.statements program.statements) := rfl
  have writes : begun.WritesOnly program.letNames := orderly.writesOnly_begins held begins
  refine ⟨⟨outcome, last, runs, ended⟩, fun id frame apart found => ?_, writes,
    fun frame found => ?_, fun opening function arguments reached opens => ?_⟩
  · exact program.evaluate_shows wellFormed held apart ⟨frame, found, rfl, rfl⟩
  · have kept {moment : Configuration} (runs : begun.Runs moment) :=
      writes.showsBut found (Configuration.within_of_runs rfl runs)
    exact ⟨fun _ => kept, (kept runs).prune part (invariant'.wellFormed.held_allocated scope held)⟩
  · have orderly' := orderly.runs held reached
    have opened := orderly'.opened opens.used
    refine ⟨opened.vacant, opened.here,
      (orderly'.step held opens.step_eq).writesOnly_enters held rfl,
      opens.exists_returns (Configuration.runs_of_runs reached runs rfl) rfl rfl, ?_⟩
    intro ended returned frame returns found stays
    have kept {moment : Configuration} (runs : returned.Runs moment) :=
      orderly'.returned held opens returns found stays runs
    refine ⟨fun _ => kept, fun remains later beside => ?_⟩
    have whole : begun.Runs returned :=
      ((reached.tail opens.step_eq).trans returns.within.runs).tail returns.step_eq
    have shown := (kept (Configuration.runs_of_runs whole runs rfl)).prune part remains
    rcases beside.shows invariant' shown with ⟨invariant', shown'⟩
    exact ⟨shown', fun program' scope' held' apart =>
      (program'.evaluate_shows invariant'.wellFormed held' apart shown').1⟩

/-- A function is called whose body is a function literal: the frame of the call binds the argument
for good. -/
theorem evaluate_writes_captured :
    let parameter : Identifier := .ofToken (.ident "x")
    let block (value : Expr) : Block := ⟨.punctuation .openBrace, [.expr .eof value]⟩
    let literal (parameters : List Identifier) (value : Expr) : Expr :=
      .function (.keyword .fnWord) parameters (block value)
    let program : Program := ⟨[.expr .eof (.call (.punctuation .openParen)
      (literal [parameter] (literal [] (.ident parameter))) [.int (.int "1") 1])]⟩
    let after := (start 0).evaluated program ⟨0⟩
    (start 0).Invariant ∧ (⟨0⟩ : FrameId) ∈ (start 0).handles ∧ after.arena.IsAllocated ⟨1⟩ ∧
      (∀ frame, (start 0).arena.frame? ⟨0⟩ = some frame → after.arena.ShowsBut [] ⟨0⟩ frame) ∧
      ∀ later, Beside ⟨1⟩ after later → ∃ frame, later.arena.frame? ⟨1⟩ = some frame ∧
        frame.bindings = [("x", .int 1)] ∧ frame.outer = some ⟨0⟩ := by
  intro parameter block literal program after
  have invariant : (start 0).Invariant := .start 0
  have held : (⟨0⟩ : FrameId) ∈ (start 0).handles := List.mem_cons_self
  rcases evaluate_writes invariant program held with ⟨-, -, -, own, calls⟩
  have remains : (after.arena.frame? ⟨1⟩).isSome = true := by decide +kernel
  -- The moments at which the call is opened, has come to its outcome, and has returned.
  let body := block (literal [] (.ident parameter))
  let outer := (start 0).arena.close ⟨0⟩ [parameter] body
  let opening : Configuration :=
    ⟨.apply (.closure outer.1) [.int 1], ⟨0⟩, [.part (.statement [])], 0, outer.2⟩
  let inner := ((outer.2.enclose ⟨0⟩).2.bind ⟨1⟩ "x" (.int 1)).close ⟨1⟩ []
    (block (.ident parameter))
  let ended : Configuration :=
    ⟨.done (.ok (.closure inner.1)), ⟨1⟩, .call ⟨0⟩ :: opening.stack, 1, inner.2⟩
  let returned : Configuration :=
    ⟨.done (.ok (.closure inner.1)), ⟨0⟩, opening.stack, 0, inner.2.drop ⟨1⟩⟩
  have reached : (Configuration.start program ⟨0⟩ (start 0).arena).Runs opening :=
    .head rfl <| .head rfl <| .head rfl <| .head rfl <| .head rfl <| .head rfl <| .head rfl <|
      .head rfl <| .head rfl <| .head rfl .refl
  have within : (opening.call outer.1 [.int 1]).Within ended :=
    .head ⟨rfl, fun comes => nomatch comes.2⟩ <| .head ⟨rfl, fun comes => nomatch comes.2⟩ <|
      .head ⟨rfl, fun comes => nomatch comes.2⟩ <| .head ⟨rfl, fun comes => nomatch comes.2⟩ <|
      .head ⟨rfl, fun comes => nomatch comes.1⟩ <| .head ⟨rfl, fun comes => nomatch comes.2⟩ .refl
  let frame : Frame := ⟨[("x", .int 1)], some ⟨0⟩, 1, 0, true⟩
  have opens : opening.Opens outer.1 [.int 1] := ⟨rfl, rfl⟩
  have returns : opening.Returns outer.1 [.int 1] ended returned := ⟨within, ⟨rfl, rfl⟩, rfl⟩
  have found : ended.arena.frame? (opening.call outer.1 [.int 1]).scope = some frame := rfl
  have stays : (returned.arena.frame? ⟨1⟩).isSome = true := by decide +kernel
  rcases calls opening outer.1 [.int 1] reached opens with ⟨-, -, -, -, call⟩
  have kept := (call ended returned frame returns found stays).2 remains
  refine ⟨invariant, held, remains, fun frame found => (own frame found).2, fun later beside => ?_⟩
  rcases (kept later beside).1 with ⟨same, here, bindings, outward⟩
  exact ⟨same, here, bindings, outward⟩

end Monkey.Session
