import Monkey.Proofs.Session

/-!
# Stable lookups

Of all that can be done with the environments of a session only a binding changes what a lookup
finds. Every other operation either leaves a part of the arena that it meets, or leaves an arena
that the one it meets is a part of. So no way outward from a frame that stays passes a place that is
freed, or one that is used again, whatever shape the frames form.
-/

namespace Monkey.Session

/-- What can be done with the environments of a session, but for binding a name. -/
inductive Operation where
  | clone (handle : FrameId)
  | withEnclosed (handle : FrameId)
  | enclose (outer : FrameId)
  | capture (handle : FrameId)
  | drop (handle : FrameId)
  | collect (values : List Value)

/-- Whether a collection is given all values that are held outside the arena. -/
def Operation.Covers (outside : List Value) : Operation → Prop
  | collect values => outside ⊆ values
  | _ => True

/-- Whether an operation is used with a handle that is held, a frame in use, or values whose homes
are still good. -/
def Permits (session : Session) : Operation → Prop
  | .clone handle => handle ∈ session.handles
  | .withEnclosed handle => handle ∈ session.handles
  | .enclose outer => session.arena.IsAllocated outer
  | .capture handle => handle ∈ session.handles
  | .drop handle => handle ∈ session.handles
  | .collect values => ∀ value ∈ values, session.Owns value

def perform (session : Session) : Operation → Session
  | .clone handle =>
      { session with
        arena := session.arena.share handle
        handles := handle :: session.handles }
  | .withEnclosed handle =>
      { session with
        arena := (session.arena.enclose handle).2
        handles := (session.arena.enclose handle).1 :: session.handles }
  | .enclose outer =>
      { session with
        arena := (session.arena.enclose outer).2
        handles := (session.arena.enclose outer).1 :: session.handles }
  | .capture handle =>
      { session with
        arena := session.arena.capture handle
        homes := fun home => session.homes home ∨ home = handle }
  | .drop handle =>
      { session with
        arena := session.arena.drop handle
        handles := session.handles.erase handle }
  | .collect values =>
      { session with
        arena := (session.arena.collect values).2
        homes := fun home =>
          session.homes home ∧ (session.arena.collect values).2.IsAllocated home }

variable {session : Session} {operation : Operation}

theorem Permits.step (permitted : session.Permits operation) :
    session.Step (session.perform operation) := by
  cases operation with
  | clone handle => exact .clone permitted
  | withEnclosed handle => exact .withEnclosed permitted
  | enclose outer => exact .enclose permitted
  | capture handle => exact .capture permitted
  | drop handle => exact .drop permitted
  | collect values => exact .collect permitted

/-- Whether a frame is held across an operation: by a handle, by a value held outside, or by a
closure that is bound in a frame in use. -/
inductive Survives (session : Session) (operation : Operation) (outside : List Value) :
    FrameId → Prop where
  | handle {id : FrameId} (before : id ∈ session.handles)
      (after : id ∈ (session.perform operation).handles) : Survives session operation outside id
  | value {value : Value} {id : FrameId} (member : value ∈ outside) (refers : id ∈ value.home?) :
      Survives session operation outside id
  | bound {inner id : FrameId} {frame : Frame} {binding : String × Value}
      (found : (session.perform operation).arena.frame? inner = some frame)
      (member : binding ∈ frame.bindings) (refers : id ∈ binding.2.home?) :
      Survives session operation outside id

/-- One of the arenas before and after an operation is a part of the other one. -/
theorem partOf_perform (invariant : session.Invariant) (permitted : session.Permits operation) :
    (session.perform operation).arena.PartOf session.arena ∨
      session.arena.PartOf (session.perform operation).arena := by
  have wellFormed := invariant.wellFormed
  cases operation with
  | clone handle => exact .inl (.recount _ handle Frame.recounts_gainHandle)
  | withEnclosed handle =>
      have allocated := wellFormed.held_allocated handle permitted
      exact .inr (FramePolicy.reusing_lawful.enclose wellFormed allocated).2.partOf
  | enclose outer =>
      exact .inr (FramePolicy.reusing_lawful.enclose wellFormed permitted).2.partOf
  | capture handle => exact .inl (.recount _ handle Frame.recounts_capture)
  | drop handle => exact .inl (.drop handle _)
  | collect values => exact .inl (Arena.WellFormed.partOf_collect _ values)

/-- An operation binds no values but those that were bound before. -/
theorem bindsOnly_perform {sort : Value → Prop} (binds : session.arena.BindsOnly sort) :
    (session.perform operation).arena.BindsOnly sort := by
  cases operation with
  | clone handle => exact binds.partOf (.recount _ handle Frame.recounts_gainHandle)
  | withEnclosed handle => exact binds.enclose handle
  | enclose outer => exact binds.enclose outer
  | capture handle => exact binds.partOf (.recount _ handle Frame.recounts_capture)
  | drop handle => exact binds.partOf (.drop handle _)
  | collect values => exact binds.partOf (Arena.WellFormed.partOf_collect _ values)

section Outside

variable {outside : List Value} (reachable : session.Reachable)
  (permitted : session.Permits operation) (owned : ∀ value ∈ outside, session.Owns value)
  (covers : operation.Covers outside)

include reachable permitted owned covers

/-- The values that are held outside stay good, if a collection is given all of them. -/
theorem owns_perform : ∀ value ∈ outside, (session.perform operation).Owns value := by
  intro value member home refers
  have good := owned value member home refers
  cases operation with
  | capture handle => exact .inl good
  | collect values =>
      have captured := reachable.invariant.homes_captured home good
      have reached : session.arena.Reachable values home := .value (covers member) refers
      exact ⟨good, (Arena.WellFormed.isCaptured_collect values captured reached).isAllocated⟩
  | _ => exact good

/-- A frame that survives an operation is in use before and after it. -/
theorem Survives.isAllocated {id : FrameId} (survives : session.Survives operation outside id) :
    session.arena.IsAllocated id ∧ (session.perform operation).arena.IsAllocated id := by
  have before := reachable.invariant
  have after := (reachable.step permitted.step).invariant
  cases survives with
  | handle held held' =>
      exact ⟨before.wellFormed.held_allocated id held, after.wellFormed.held_allocated id held'⟩
  | value member refers =>
      have good := owns_perform reachable permitted owned covers _ member
      exact ⟨(before.admits (owned _ member) id refers).isAllocated,
        (after.admits good id refers).isAllocated⟩
  | bound found member refers =>
      have binds : session.arena.BindsOnly session.arena.Admits :=
        fun _ _ found binding member => before.wellFormed.home_captured found binding member
      exact ⟨(bindsOnly_perform binds found _ member id refers).isAllocated,
        (after.wellFormed.home_captured found _ member id refers).isAllocated⟩

theorem Survives.lookup?_eq {id : FrameId} (survives : session.Survives operation outside id)
    (name : String) :
    (session.perform operation).arena.lookup? id name = session.arena.lookup? id name := by
  have before := reachable.invariant
  have after := (reachable.step permitted.step).invariant
  have inUse := survives.isAllocated reachable permitted owned covers
  rcases partOf_perform before permitted with fewer | more
  · exact fewer.lookup?_eq after.wellFormed.toNested before.wellFormed.toNested inUse.2 name
  · exact (more.lookup?_eq before.wellFormed.toNested after.wellFormed.toNested inUse.1 name).symm

end Outside

/-- Whether a session comes to another one by operations each of which a frame survives. -/
abbrev Undisturbed (outside : List Value) (id : FrameId) : Session → Session → Prop :=
  Relation.ReflTransGen fun session next => ∃ operation, session.Permits operation ∧
    operation.Covers outside ∧ session.Survives operation outside id ∧
    next = session.perform operation

/-- A lookup finds the same after any number of operations, whatever places they free and use
again, if its frame survives each of them. -/
theorem Undisturbed.lookup?_eq {later : Session} {outside : List Value} {id : FrameId}
    (reachable : session.Reachable) (owned : ∀ value ∈ outside, session.Owns value)
    (undisturbed : Undisturbed outside id session later) (name : String) :
    later.arena.lookup? id name = session.arena.lookup? id name := by
  have kept : later.Reachable ∧ (∀ value ∈ outside, later.Owns value) ∧
      later.arena.lookup? id name = session.arena.lookup? id name := by
    induction undisturbed with
    | refl => exact ⟨reachable, owned, rfl⟩
    | tail _ step ih =>
        rcases ih with ⟨reachable, owned, same⟩
        rcases step with ⟨operation, permitted, covers, survives, rfl⟩
        exact ⟨reachable.step permitted.step, owns_perform reachable permitted owned covers,
          (survives.lookup?_eq reachable permitted owned covers name).trans same⟩
  exact kept.2.2

/-- No operation but a binding changes what a lookup finds from a frame that survives it, and no
series of such operations does. -/
theorem lookup?_stable (reachable : session.Reachable) {outside : List Value}
    (owned : ∀ value ∈ outside, session.Owns value) (id : FrameId) :
    (∀ operation, session.Permits operation → operation.Covers outside →
      session.Survives operation outside id → ∀ name,
        (session.perform operation).arena.lookup? id name = session.arena.lookup? id name) ∧
    ∀ later, Undisturbed outside id session later → ∀ name,
      later.arena.lookup? id name = session.arena.lookup? id name :=
  ⟨fun _ permitted covers survives => survives.lookup?_eq reachable permitted owned covers,
    fun _ undisturbed => undisturbed.lookup?_eq reachable owned⟩

/-- Of two frames within a frame one is freed, and a frame within the other one takes its place. -/
theorem lookup?_stable_reused :
    let bound : Session :=
      { start 0 with arena := (start 0).arena.bind ⟨0⟩ "x" (.int 7) }
    let session := (bound.perform (.withEnclosed ⟨0⟩)).perform (.withEnclosed ⟨0⟩)
    let dropped := session.perform (.drop ⟨1⟩)
    let later := dropped.perform (.withEnclosed ⟨2⟩)
    session.Reachable ∧ session.handles = [⟨2⟩, ⟨1⟩, ⟨0⟩] ∧ later.handles = [⟨1⟩, ⟨2⟩, ⟨0⟩] ∧
      Undisturbed [] ⟨2⟩ session later ∧
      (∀ name, later.arena.lookup? ⟨2⟩ name = session.arena.lookup? ⟨2⟩ name) ∧
      later.arena.lookup? ⟨2⟩ "x" == some (.int 7) := by
  intro bound session dropped later
  have enclosing {session : Session} (reachable : session.Reachable) {id : FrameId}
      (held : id ∈ session.handles) : (session.perform (.withEnclosed id)).Reachable :=
    reachable.step (.withEnclosed held)
  have started : bound.Reachable :=
    (Reachable.start 0).step (.set List.mem_cons_self "x" (by rintro _ ⟨⟩))
  have reachable : session.Reachable :=
    enclosing (enclosing started (by decide)) (by decide)
  have freed : (⟨1⟩ : FrameId) ∈ session.handles := by decide
  have kept : session.Survives (.drop ⟨1⟩) [] ⟨2⟩ := .handle (by decide) (by decide)
  have enclosed : (⟨2⟩ : FrameId) ∈ dropped.handles := by decide
  have kept' : dropped.Survives (.withEnclosed ⟨2⟩) [] ⟨2⟩ := .handle (by decide) (by decide)
  have undisturbed : Undisturbed [] ⟨2⟩ session later :=
    .tail (.single ⟨.drop ⟨1⟩, freed, trivial, kept, rfl⟩)
      ⟨.withEnclosed ⟨2⟩, enclosed, trivial, kept', rfl⟩
  have stable := lookup?_stable reachable (List.forall_mem_nil _) ⟨2⟩
  exact ⟨reachable, by decide, by decide, undisturbed, stable.2 later undisturbed,
    by decide +kernel⟩

end Monkey.Session
