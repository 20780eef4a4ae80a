import Monkey.Proofs.Evaluation.Mirror

/-!
# Frame reuse cannot be observed

Under the policy `keeping` no frame is ever freed, and every new frame takes a new place. Programs
that run one after another in a session have the same outcomes as under `reusing`, and their
session binds the same names to values alike: a closure never meets a frame that has taken the
place of its own.
-/

namespace Monkey

/-- Puts a frame into a new place, whatever places are free. -/
def Arena.append (frame : Frame) (arena : Arena) : FrameId × Arena :=
  (⟨arena.frames.size⟩, { arena with frames := arena.frames.push (some frame) })

/-- No frame is ever freed, and no place is used again. -/
def FramePolicy.keeping : FramePolicy where
  enclose outer arena :=
    (arena.modifyFrame outer Frame.gainChild).append (Frame.fresh (some outer))
  drop id arena := arena.modifyFrame id Frame.loseHandle
  collect _ arena := arena

theorem Arena.append_extended (frame : Frame) (arena : Arena) :
    arena.Extended (arena.append frame).1 frame (arena.append frame).2 where
  vacant := by simp [append, frame?_eq]
  frame?_eq := by
    rintro ⟨slot⟩
    simp only [append, Arena.frame?_eq, Array.getElem?_push, FrameId.mk.injEq]
    split <;> rfl

theorem FramePolicy.keeping_lawful : keeping.Lawful Arena.Coherent where
  coherent coherent := coherent
  bind coherent admits id name := coherent.bind admits id name
  close coherent id parameters body := (coherent.capture id).close parameters body
  enclose {arena held outer} coherent allocated := by
    have counted : (arena.modifyFrame outer Frame.gainChild).Coherent held :=
      coherent.recount Frame.recounts_gainChild coherent.held_allocated
    have extended := (arena.modifyFrame outer Frame.gainChild).append_extended
      (Frame.fresh (some outer))
    refine ⟨counted.extend extended ?_, extended.opened rfl⟩
    rintro id ⟨⟩
    simpa using allocated
  drop {arena held id} coherent := by
    refine ⟨coherent.recount Frame.recounts_loseHandle fun other member => ?_, ?_, ?_, rfl⟩
    · exact coherent.held_allocated other (List.mem_cons_of_mem id member)
    · exact .recount arena id Frame.recounts_loseHandle
    · exact .modifyFrame arena id Frame.recounts_loseHandle.captured
  collect {arena held values} coherent admitted := ⟨coherent, .refl arena, rfl, admitted⟩

/-- Closures over the same function literal whose identities stand for each other. -/
structure Closure.Alike (ids : ClosureId → ClosureId → Prop) (left right : Closure) : Prop where
  ids : ids left.id right.id
  parameters : left.parameters = right.parameters
  body : left.body = right.body

/-- Values that neither a program nor its output tells apart. -/
structure Value.Alike (left right : Value) : Prop where
  related : Related (Closure.Alike Eq) left right
  typeName_eq : left.typeName = right.typeName
  inspect_eq : left.inspect = right.inspect
  isTruthy_eq : left.isTruthy = right.isTruthy
  beq_eq : ∀ {other other'}, Related (Closure.Alike Eq) other other' →
    (left == other) = (right == other')

theorem Value.Related.alike {left right : Value} (related : Related (Closure.Alike Eq) left right) :
    left.Alike right where
  related := related
  typeName_eq := related.typeName_eq
  inspect_eq := related.inspect_eq fun same => ⟨same.parameters, same.body⟩
  isTruthy_eq := related.isTruthy_eq
  beq_eq related' := by
    refine related.beq_eq (fun left right left' right' same same' => ?_) related'
    rw [same.ids, same'.ids]

/-- Runs programs one after another in a frame; none of their values is held on to. -/
def Program.runAll (policy : FramePolicy) (scope : FrameId) :
    List Program → Arena → List (Except EvalError Value) × Arena
  | [], arena => ([], arena)
  | program :: programs, arena =>
      let (outcome, arena) := program.evaluateWith policy scope arena
      let (outcomes, arena) := runAll policy scope programs arena
      (outcome :: outcomes, arena)

theorem Correspondence.Closures.alike {pairs : Correspondence} {left right : Closure}
    (same : pairs.Closures left right) : Closure.Alike pairs.ids left right :=
  ⟨same.ids, same.parameters, same.body⟩

/-- Programs have the same outcomes under lawful policies. -/
theorem FramePolicy.Lawful.runAll {valid valid' : Arena → List FrameId → Prop}
    {left right : FramePolicy} (lawful : left.Lawful valid) (lawful' : right.Lawful valid')
    (programs : List Program) {pairs : Correspondence} {A B : Arena} {s t : FrameId}
    (held : (s, t) ∈ pairs.held) (mirrored : Mirrored valid valid' pairs A B) :
    ∃ later : Correspondence, later.ids = pairs.ids ∧ later.held = pairs.held ∧
      Mirrored valid valid' later (Program.runAll left s programs A).2
        (Program.runAll right t programs B).2 ∧
      List.Forall₂ (Result.Related (Value.Related (Closure.Alike pairs.ids)))
        (Program.runAll left s programs A).1 (Program.runAll right t programs B).1 := by
  induction programs generalizing pairs A B with
  | nil => exact ⟨pairs, rfl, rfl, mirrored, .nil⟩
  | cons program programs ih =>
      rcases lawful.evaluateWith lawful' program held mirrored with
        ⟨middle, ids, handles, mirrored, outcome⟩
      rw [← handles] at held
      rcases ih held mirrored with ⟨later, ids', handles', mirrored, outcomes⟩
      refine ⟨later, ids'.trans ids, handles'.trans handles, mirrored, .cons ?_ ?_⟩
      · rw [← ids]
        exact outcome.mono fun left right same => same.mono fun left right closed => closed.alike
      · rw [← ids]
        exact outcomes

/-- Programs that run one after another in a new session have the same outcomes whether frames
are freed and their places used again or not, and the session then binds the same names to values
alike, with a one-to-one relation between the frames that these refer to. -/
theorem Program.runAll_reusing_keeping (session : Nat) (programs : List Program) :
    let opened := Arena.start session
    let reusing := runAll .reusing opened.1 programs opened.2
    let keeping := runAll .keeping opened.1 programs opened.2
    List.Forall₂ (Result.Related Value.Alike) reusing.1 keeping.1 ∧
      ∃ frames : FrameId → FrameId → Prop, Relator.BiUnique frames ∧ frames opened.1 opened.1 ∧
        ∀ a b, frames a b →
          (∀ name, Option.Rel Value.Alike (reusing.2.lookup? a name) (keeping.2.lookup? b name)) ∧
          ∃ frame frame', reusing.2.frame? a = some frame ∧ keeping.2.frame? b = some frame' ∧
            frame.Alike (fun value value' => value.Alike value' ∧
              Option.Rel frames value.home? value'.home?) frames frame' := by
  intro opened reusing keeping
  have wellFormed := Arena.WellFormed.start session
  have start : Mirrored Arena.WellFormed Arena.Coherent
      (Correspondence.identity opened.2 [opened.1]) opened.2 opened.2 :=
    ⟨_, .refl wellFormed wellFormed.toCoherent wellFormed.toCoherent⟩
  rcases FramePolicy.reusing_lawful.runAll FramePolicy.keeping_lawful programs
    List.mem_cons_self start with ⟨later, ids, handles, ⟨frames, mirrors⟩, outcomes⟩
  have same_ids : later.ids = Eq := ids
  have alike_of_values {value value' : Value} (related : later.Values value value') :
      value.Alike value' := by
    have literals : Value.Related (Closure.Alike Eq) value value' :=
      related.mono fun _ _ closed => same_ids ▸ closed.alike
    exact literals.alike
  refine ⟨outcomes.imp fun _ _ same => same.mono fun _ _ related => related.alike,
    frames, mirrors.unique, mirrors.held (handles ▸ List.mem_cons_self), fun a b same => ⟨?_, ?_⟩⟩
  · intro name
    have found := mirrors.lookup FramePolicy.reusing_lawful FramePolicy.keeping_lawful same name
    generalize reusing.2.lookup? a name = value at *
    generalize keeping.2.lookup? b name = value' at *
    cases found with
    | some related => exact .some (alike_of_values related)
    | none => exact .none
  · rcases mirrors.alike same with ⟨frame, frame', found, found', alike⟩
    refine ⟨frame, frame', found, found', alike.mono ?_ fun _ _ _ _ within => within⟩
    intro name value value' _ _ related
    refine ⟨alike_of_values related, ?_⟩
    exact related.home?_rel fun _ _ closed => (mirrors.homes closed.homes).1

end Monkey
