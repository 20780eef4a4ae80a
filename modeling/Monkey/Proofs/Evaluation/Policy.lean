import Monkey.Evaluation.Basic
import Monkey.Proofs.Arena.Tidy

/-!
# Lawful frame policies

A frame policy is lawful for a condition on arenas if the condition keeps bound closures at
captured frames and outer frames in use, if all that evaluation does keeps the condition, and if
no frame changes what it binds or where it lies when others come and go.
-/

namespace Monkey

namespace Arena

/-- A new frame within another one, which leaves all frames that there are as they are seen. -/
structure Opened (arena : Arena) (outer id : FrameId) (later : Arena) : Prop where
  vacant : arena.frame? id = none
  here : later.frame? id = some (Frame.fresh (some outer))
  partOf : arena.PartOf later
  keepsCaptured : arena.KeepsCaptured later
  nextId_eq : later.nextId = arena.nextId

theorem Extended.opened {arena later : Arena} {outer id : FrameId}
    (extended :
      (arena.modifyFrame outer Frame.gainChild).Extended id (Frame.fresh (some outer)) later)
    (nextId_eq : later.nextId = arena.nextId) : arena.Opened outer id later where
  vacant := by
    have vacant : ¬(arena.modifyFrame outer Frame.gainChild).IsAllocated id := by
      simp [IsAllocated, extended.vacant]
    rw [isAllocated_modifyFrame] at vacant
    simpa [IsAllocated] using vacant
  here := extended.here
  partOf := .trans (.of_recount arena outer Frame.recounts_gainChild) (.extend extended)
  keepsCaptured :=
    .trans (.modifyFrame arena outer Frame.recounts_gainChild.captured) (.extend extended)
  nextId_eq := nextId_eq

/-- Some frames fewer, but no captured one, where the others are as they were seen. -/
structure Pruned (arena later : Arena) : Prop where
  partOf : later.PartOf arena
  keepsCaptured : arena.KeepsCaptured later
  nextId_eq : later.nextId = arena.nextId

end Arena

/-- What makes runs under a policy independent of the places of frames. -/
structure FramePolicy.Lawful (policy : FramePolicy) (valid : Arena → List FrameId → Prop) :
    Prop where
  coherent : ∀ {arena held}, valid arena held → arena.Coherent held
  bind : ∀ {arena held value}, valid arena held → arena.Admits value → ∀ id name,
    valid (arena.bind id name value) held
  close : ∀ {arena held}, valid arena held → ∀ id parameters body,
    valid (arena.close id parameters body).2 held
  enclose : ∀ {arena held outer}, valid arena held → arena.IsAllocated outer →
    valid (policy.enclose outer arena).2 ((policy.enclose outer arena).1 :: held) ∧
      arena.Opened outer (policy.enclose outer arena).1 (policy.enclose outer arena).2
  drop : ∀ {arena held id}, valid arena (id :: held) →
    valid (policy.drop id arena) held ∧ arena.Pruned (policy.drop id arena)
  collect : ∀ {arena held values}, valid arena held → (∀ value ∈ values, arena.Admits value) →
    valid (policy.collect values arena) held ∧
      (policy.collect values arena).PartOf arena ∧
      (policy.collect values arena).nextId = arena.nextId ∧
      ∀ value ∈ values, (policy.collect values arena).Admits value

/-- A policy that is lawful stays so if other handles are held besides those that are paired. -/
theorem FramePolicy.Lawful.beside {policy : FramePolicy} {valid : Arena → List FrameId → Prop}
    (lawful : policy.Lawful valid) (others : List FrameId) :
    policy.Lawful fun arena held => valid arena (held ++ others) where
  coherent validity := (lawful.coherent validity).of_subset (List.subset_append_left _ _)
  bind := lawful.bind
  close := lawful.close
  enclose := lawful.enclose
  drop := lawful.drop
  collect := lawful.collect

theorem FramePolicy.reusing_lawful : FramePolicy.reusing.Lawful Arena.WellFormed where
  coherent wellFormed := wellFormed.toCoherent
  bind wellFormed admits _ _ := wellFormed.bind admits
  close wellFormed id parameters body := wellFormed.close id parameters body
  enclose {arena held outer} wellFormed allocated := by
    have lists := wellFormed.toListsFree.modifyFrame outer Frame.gainChild
    exact ⟨wellFormed.enclose allocated, (lists.extended _).opened (Arena.nextId_insert _ _)⟩
  drop {arena held id} wellFormed := by
    have dropped := wellFormed.drop id
    rw [List.erase_cons_head] at dropped
    exact ⟨dropped.1, .drop id arena, dropped.2, Arena.nextId_releaseWithin _ id _⟩
  collect {arena held values} wellFormed admitted := by
    refine ⟨wellFormed.collect values admitted, Arena.WellFormed.partOf_collect arena values,
      Arena.nextId_discardAll _ arena, fun value member home refers => ?_⟩
    exact Arena.WellFormed.isCaptured_collect values (admitted value member home refers)
      (.value member refers)

theorem FramePolicy.reusing_lawful_tidy : FramePolicy.reusing.Lawful Arena.Tidy where
  coherent tidy := tidy.toCoherent
  bind tidy admits id name := tidy.bind admits id name
  close tidy id parameters body := tidy.close id parameters body
  enclose tidy allocated :=
    ⟨tidy.enclose allocated, (reusing_lawful.enclose tidy.toWellFormed allocated).2⟩
  drop {arena held id} tidy := by
    have dropped := tidy.drop id
    rw [List.erase_cons_head] at dropped
    exact ⟨dropped, (reusing_lawful.drop tidy.toWellFormed).2⟩
  collect tidy admitted :=
    ⟨tidy.collect admitted, (reusing_lawful.collect tidy.toWellFormed admitted).2⟩

end Monkey
