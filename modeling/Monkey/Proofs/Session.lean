import Monkey.Proofs.Evaluation.Mirror

/-!
# Sessions

Whatever is done with a session, its arena stays well-formed with respect to the handles that are
held. A session may be used through its handles and with values of its own: one that carries a
closure may be bound, or kept by a collection, as long as no collection has freed the closure's
home. So the state of a session lists the handles and says which homes are still good.
-/

namespace Monkey

namespace Program

/-- An evaluation keeps an arena well-formed. A frame that was captured before, or that the value
refers to, is captured still unless it has been freed. -/
theorem evaluate_wellFormed (program : Program) {arena : Arena} {held : List FrameId}
    {scope : FrameId} (wellFormed : arena.WellFormed held) (member : scope ∈ held) :
    (program.evaluate scope arena).2.WellFormed held ∧
      (∀ id, arena.IsCaptured id → (program.evaluate scope arena).2.IsAllocated id →
        (program.evaluate scope arena).2.IsCaptured id) ∧
      ∀ value ∈ outcomeValues (program.evaluate scope arena).1,
        (program.evaluate scope arena).2.Admits value := by
  have ran := FramePolicy.reusing_lawful.run program wellFormed member
  have collected : program.evaluate scope arena = ((program.run .reusing scope arena).1,
      ((program.run .reusing scope arena).2.collect
        (outcomeValues (program.run .reusing scope arena).1)).2) := rfl
  rw [collected]
  clear collected
  generalize program.run .reusing scope arena = ended at *
  rcases ended with ⟨outcome, arena'⟩
  rcases ran with ⟨wellFormed, keeps, admitted⟩
  refine ⟨wellFormed.collect _ admitted, fun id captured remains => ?_, ?_⟩
  · have reached := ((Arena.WellFormed.isAllocated_collect _ _ id).mp remains).2
    exact Arena.WellFormed.isCaptured_collect _ (keeps id captured) reached
  · intro value member home refers
    exact Arena.WellFormed.isCaptured_collect _ (admitted value member home refers)
      (.value member refers)

end Program

/-- The arena of a session, the frames of the handles that are held, and the frames that the
closures of the session may still refer to. -/
structure Session where
  arena : Arena
  handles : List FrameId
  homes : FrameId → Prop

namespace Session

/-- A new session, whose handle is on its only frame. -/
def start (number : Nat) : Session where
  arena := (Arena.start number).2
  handles := [(Arena.start number).1]
  homes _ := False

/-- Whether a value belongs to a session and the frame that it refers to has not been freed. -/
def Owns (session : Session) (value : Value) : Prop :=
  ∀ home ∈ value.home?, session.homes home

/-- A use of a session. -/
inductive Step (session : Session) : Session → Prop where
  | clone {id : FrameId} (held : id ∈ session.handles) :
      Step session { session with
        arena := session.arena.share id
        handles := id :: session.handles }
  | withEnclosed {id : FrameId} (held : id ∈ session.handles) :
      Step session { session with
        arena := (session.arena.enclose id).2
        handles := (session.arena.enclose id).1 :: session.handles }
  | enclose {outer : FrameId} (allocated : session.arena.IsAllocated outer) :
      Step session { session with
        arena := (session.arena.enclose outer).2
        handles := (session.arena.enclose outer).1 :: session.handles }
  | capture {id : FrameId} (held : id ∈ session.handles) :
      Step session { session with
        arena := session.arena.capture id
        homes := fun home => session.homes home ∨ home = id }
  | get {id : FrameId} (held : id ∈ session.handles) {name : String} {value : Value}
      (found : session.arena.lookup? id name = some value) :
      Step session { session with homes := fun home => session.homes home ∨ home ∈ value.home? }
  | set {id : FrameId} (held : id ∈ session.handles) (name : String) {value : Value}
      (owned : session.Owns value) :
      Step session { session with arena := session.arena.bind id name value }
  | drop {id : FrameId} (held : id ∈ session.handles) :
      Step session { session with
        arena := session.arena.drop id
        handles := session.handles.erase id }
  | collect {values : List Value} (owned : ∀ value ∈ values, session.Owns value) :
      Step session { session with
        arena := (session.arena.collect values).2
        homes := fun home =>
          session.homes home ∧ (session.arena.collect values).2.IsAllocated home }
  | evaluate (program : Program) {id : FrameId} (held : id ∈ session.handles) :
      Step session { session with
        arena := (program.evaluate id session.arena).2
        homes := fun home =>
          (session.homes home ∧ (program.evaluate id session.arena).2.IsAllocated home) ∨
            ∃ value ∈ Program.outcomeValues (program.evaluate id session.arena).1,
              home ∈ value.home? }

/-- What holds of every session at any time. -/
structure Invariant (session : Session) : Prop where
  wellFormed : session.arena.WellFormed session.handles
  homes_captured : ∀ home, session.homes home → session.arena.IsCaptured home

theorem Invariant.start (number : Nat) : (start number).Invariant where
  wellFormed := Arena.WellFormed.start number
  homes_captured _ good := good.elim

theorem Invariant.admits {session : Session} (invariant : session.Invariant) {value : Value}
    (owned : session.Owns value) : session.arena.Admits value :=
  fun home refers => invariant.homes_captured home (owned home refers)

theorem Invariant.step {session next : Session} (invariant : session.Invariant)
    (step : session.Step next) : next.Invariant := by
  have wellFormed := invariant.wellFormed
  have homes := invariant.homes_captured
  cases step with
  | clone held =>
      refine ⟨wellFormed.share held, fun home good => ?_⟩
      exact Arena.KeepsCaptured.share _ _ home (homes home good)
  | withEnclosed held =>
      have allocated := wellFormed.held_allocated _ held
      have entered := FramePolicy.reusing_lawful.enclose wellFormed allocated
      exact ⟨entered.1, fun home good => entered.2.keepsCaptured home (homes home good)⟩
  | enclose allocated =>
      have entered := FramePolicy.reusing_lawful.enclose wellFormed allocated
      exact ⟨entered.1, fun home good => entered.2.keepsCaptured home (homes home good)⟩
  | capture held =>
      refine ⟨wellFormed.capture _, fun home good => ?_⟩
      rcases good with before | rfl
      · exact Arena.KeepsCaptured.capture _ _ home (homes home before)
      · exact Arena.isCaptured_capture (wellFormed.held_allocated _ held)
  | get held found =>
      refine ⟨wellFormed, fun home good => ?_⟩
      rcases good with before | refers
      · exact homes home before
      · exact wellFormed.admits_of_lookup? found home refers
  | set held name owned =>
      refine ⟨wellFormed.bind (invariant.admits owned), fun home good => ?_⟩
      exact Arena.KeepsCaptured.bind _ _ name _ home (homes home good)
  | @drop id held =>
      have dropped := wellFormed.drop id
      exact ⟨dropped.1, fun home good => dropped.2 home (homes home good)⟩
  | @collect values owned =>
      refine ⟨wellFormed.collect values fun value member => invariant.admits (owned value member),
        fun home good => ?_⟩
      have reached := ((Arena.WellFormed.isAllocated_collect _ _ home).mp good.2).2
      exact Arena.WellFormed.isCaptured_collect values (homes home good.1) reached
  | evaluate program held =>
      rcases program.evaluate_wellFormed wellFormed held with ⟨evaluated, keeps, admits⟩
      refine ⟨evaluated, fun home good => ?_⟩
      rcases good with ⟨before, remains⟩ | ⟨value, member, refers⟩
      · exact keeps home (homes home before) remains
      · exact admits value member home refers

/-- What a session can become by uses in any order. -/
inductive Reachable : Session → Prop where
  | start (number : Nat) : Reachable (start number)
  | step {session next : Session} (reachable : Reachable session) (step : session.Step next) :
      Reachable next

theorem Reachable.invariant {session : Session} (reachable : session.Reachable) :
    session.Invariant := by
  induction reachable with
  | start number => exact .start number
  | step _ step ih => exact ih.step step

/-- No use of a session makes a frame bind a name twice. -/
theorem Reachable.tidy {session : Session} (reachable : session.Reachable) :
    session.arena.Tidy session.handles := by
  induction reachable with
  | start number => exact .start number
  | step reachable step ih =>
      have invariant := reachable.invariant
      cases step with
      | clone held => exact ih.share held
      | withEnclosed held => exact ih.enclose (ih.held_allocated _ held)
      | enclose allocated => exact ih.enclose allocated
      | capture _ => exact ih.capture _
      | get _ _ => exact ih
      | set _ name owned => exact ih.bind (invariant.admits owned) _ name
      | drop _ => exact ih.drop _
      | collect owned => exact ih.collect fun value member => invariant.admits (owned value member)
      | evaluate program held =>
          have ran := FramePolicy.reusing_lawful_tidy.run program ih held
          exact ran.1.collect ran.2.2

/-- The arena of a session is well-formed at any time. -/
theorem arena_wellFormed {session : Session} (reachable : session.Reachable) :
    session.arena.WellFormed session.handles ∧
      (∀ id frame, session.arena.frame? id = some frame →
        frame.children = session.arena.childCount id) ∧
      (∀ id, ¬Relation.TransGen session.arena.IsOuter id id) ∧
      ∀ home, session.homes home → session.arena.IsCaptured home := by
  have invariant := reachable.invariant
  refine ⟨invariant.wellFormed, fun id frame found => ?_, ?_, invariant.homes_captured⟩
  · simpa using invariant.wellFormed.children_eq found
  · exact invariant.wellFormed.toNested.not_within_self

/-- A program captures the frame of the session, and a frame within it is made and freed. -/
theorem arena_wellFormed_captured :
    ∃ session : Session, session.handles = [⟨0⟩] ∧ session.arena.free = [1] ∧
      session.arena.WellFormed session.handles := by
  let name : Identifier := .ofToken (.ident "f")
  let function : Expr := .function (.keyword .fnWord) [] ⟨.punctuation .openBrace, []⟩
  let program : Program := ⟨[.bind (.keyword .letWord) name function]⟩
  have evaluated := (Reachable.start 0).step (.evaluate program List.mem_cons_self)
  have enclosed := evaluated.step (.withEnclosed List.mem_cons_self)
  have dropped := enclosed.step (.drop List.mem_cons_self)
  exact ⟨_, by decide, by decide, (arena_wellFormed dropped).1⟩

end Session

end Monkey
