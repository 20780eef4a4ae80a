import Mathlib.Logic.Relation
import Monkey.Proofs.Arena.Collection

/-!
# Frames in reach

A frame leads to its outer frame and to the homes of the closures bound in it. What can be
reached in such steps, from a frame or from values, is all that a program can ever see from
there.
-/

namespace Monkey.Arena

/-- Whether a frame can be reached from another one. -/
def Reaches (arena : Arena) (start id : FrameId) : Prop :=
  Relation.ReflTransGen (fun id next => next ∈ arena.references id) start id

/-- Whether a frame can be reached from the home of a closure among values. -/
def ReachedFrom (arena : Arena) (values : List Value) (id : FrameId) : Prop :=
  ∃ value ∈ values, ∃ home ∈ value.home?, arena.Reaches home id

variable {arena : Arena} {start id : FrameId} {frame : Frame}

theorem mem_references_of_outer (found : arena.frame? id = some frame) {outer : FrameId}
    (outward : frame.outer = some outer) : outer ∈ arena.references id :=
  mem_references.mpr ⟨frame, found, .inl outward⟩

theorem mem_references_of_binding (found : arena.frame? id = some frame)
    {binding : String × Value} (member : binding ∈ frame.bindings) {home : FrameId}
    (refers : home ∈ binding.2.home?) : home ∈ arena.references id :=
  mem_references.mpr ⟨frame, found, .inr ⟨binding, member, refers⟩⟩

theorem ReachedFrom.step {values : List Value} {next : FrameId}
    (reached : arena.ReachedFrom values id) (refers : next ∈ arena.references id) :
    arena.ReachedFrom values next := by
  rcases reached with ⟨value, member, home, isHome, reaches⟩
  exact ⟨value, member, home, isHome, reaches.tail refers⟩

namespace WellFormed

variable {held : List FrameId} {values : List Value}

/-- The frames in reach of handles and values are those that handles or homes lead to. -/
theorem reachable_iff (wellFormed : arena.WellFormed held) :
    arena.Reachable values id ↔
      (∃ handle ∈ held, arena.Reaches handle id) ∨ arena.ReachedFrom values id := by
  constructor
  · intro reached
    induction reached with
    | @held id frame found handle =>
        rw [wellFormed.handles_eq found, List.count_pos_iff] at handle
        exact .inl ⟨id, handle, .refl⟩
    | value member refers => exact .inr ⟨_, member, _, refers, .refl⟩
    | reference _ refers ih =>
        rcases ih with ⟨handle, member, reaches⟩ | reached
        · exact .inl ⟨handle, member, reaches.tail refers⟩
        · exact .inr (reached.step refers)
  · have onward {start : FrameId} (first : arena.Reachable values start)
        (reaches : arena.Reaches start id) : arena.Reachable values id := by
      induction reaches with
      | refl => exact first
      | tail _ refers ih => exact ih.reference refers
    rintro (⟨handle, member, reaches⟩ | ⟨value, member, home, refers, reaches⟩)
    · rcases isAllocated_iff.mp (wellFormed.held_allocated handle member) with ⟨frame, found⟩
      refine onward (.held found ?_) reaches
      rw [wellFormed.handles_eq found]
      exact List.count_pos_iff.mpr member
    · exact onward (.value member refers) reaches

theorem isAllocated_of_reachable (wellFormed : arena.WellFormed held)
    (homes : ∀ value ∈ values, ∀ home ∈ value.home?, arena.IsAllocated home)
    (reached : arena.Reachable values id) : arena.IsAllocated id := by
  induction reached with
  | held found _ => exact isAllocated_iff.mpr ⟨_, found⟩
  | value member refers => exact homes _ member _ refers
  | @reference inner next _ refers _ =>
      rcases mem_references.mp refers with ⟨frame, found, outward | ⟨binding, member, home⟩⟩
      · have step : arena.outer? inner = some next := by simpa [outer?, found] using outward
        exact wellFormed.outer_allocated step
      · exact (wellFormed.home_captured found binding member _ home).isAllocated

/-- A frame that stays refers to the same frames after a collection. -/
theorem references_collect (reached : arena.Reachable values id) :
    (arena.collect values).2.references id = arena.references id := by
  have kept : id ∉ arena.unmarked (arena.mark values) :=
    fun member => ((mem_unmarked values id).mp member).2 reached
  rw [references, references, frame?_collect, if_neg kept]
  cases arena.frame? id <;> rfl

/-- What can be reached stays in reach. -/
theorem reachable_collect (reached : arena.Reachable values id) :
    (arena.collect values).2.Reachable values id := by
  induction reached with
  | @held id frame found handle =>
      have kept : id ∉ arena.unmarked (arena.mark values) :=
        fun member => ((mem_unmarked values id).mp member).2 (.held found handle)
      have remains : (arena.collect values).2.frame? id = _ := frame?_collect values id
      rw [if_neg kept, found] at remains
      exact .held remains handle
  | value member refers => exact .value member refers
  | reference from_ refers ih => exact ih.reference (references_collect from_ ▸ refers)

/-- After a collection the frames in use are those in reach of handles and of the values it was
given. -/
theorem isAllocated_collect_iff (wellFormed : arena.WellFormed held)
    (admitted : ∀ value ∈ values, arena.Admits value) :
    (arena.collect values).2.IsAllocated id ↔
      (∃ handle ∈ held, (arena.collect values).2.Reaches handle id) ∨
        (arena.collect values).2.ReachedFrom values id := by
  have collected := wellFormed.collect values admitted
  rw [← collected.reachable_iff]
  constructor
  · intro allocated
    exact reachable_collect ((isAllocated_collect arena values id).mp allocated).2
  · refine collected.isAllocated_of_reachable fun value member home refers => ?_
    have captured := admitted value member home refers
    exact (isCaptured_collect values captured (.value member refers)).isAllocated

end WellFormed

end Monkey.Arena
