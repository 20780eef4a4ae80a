import Mathlib.Data.Set.Card
import Mathlib.Order.Bounds.Basic
import Monkey.Proofs.Arena.Reach
import Monkey.Proofs.Arena.Tidy

/-!
# What a collection leaves

The frames in reach are the least set that has the frames with a handle and the homes of the given
values, and with each frame all that it refers to. A collection leaves these frames as they are, but
for the count of inner frames, and frees all others. What it leaves is all in reach, so to collect
once more changes nothing.
-/

namespace Monkey.Arena

/-- Whether a set has the frames with a handle and the homes of values, and with each frame those
that it refers to. -/
structure Spans (arena : Arena) (values : List Value) (frames : Set FrameId) : Prop where
  held : ∀ {id frame}, arena.frame? id = some frame → 0 < frame.handles → id ∈ frames
  home : ∀ value ∈ values, ∀ home ∈ value.home?, home ∈ frames
  reference : ∀ id ∈ frames, ∀ next ∈ arena.references id, next ∈ frames

variable {arena : Arena} {held : List FrameId} {values : List Value}

/-- The frames in reach are the least such set. -/
theorem isLeast_reachable (arena : Arena) (values : List Value) :
    IsLeast {frames | arena.Spans values frames} {id | arena.Reachable values id} := by
  constructor
  · exact ⟨.held, fun _ member _ refers => .value member refers,
      fun _ reached _ refers => reached.reference refers⟩
  · intro frames spans id reached
    induction reached with
    | held found handle => exact spans.held found handle
    | value member refers => exact spans.home _ member _ refers
    | reference _ refers ih => exact spans.reference _ ih _ refers

/-- The inner frames of a frame, counted as a set. -/
theorem childCount_eq_ncard (arena : Arena) (id : FrameId) :
    arena.childCount id = {inner | arena.outer? inner = some id}.ncard := by
  have counted : {inner | arena.outer? inner = some id} =
      ((arena.places.filter fun inner => arena.outer? inner == some id).toFinset :
        Set FrameId) := by
    ext inner
    simp only [Set.mem_ofPred_eq, List.coe_toFinset, List.mem_filter, beq_iff_eq]
    exact ⟨fun step => ⟨mem_places.mpr (slot_lt_of_isAllocated (isAllocated_of_outer? step)), step⟩,
      fun member => member.2⟩
  rw [counted, Set.ncard_coe_finset, List.toFinset_card_of_nodup ((nodup_places arena).filter _),
    childCount, List.countP_eq_length_filter]

namespace WellFormed

theorem outer?_collect_eq_some_iff {inner outer : FrameId} :
    (arena.collect values).2.outer? inner = some outer ↔
      arena.Reachable values inner ∧ arena.outer? inner = some outer := by
  rw [outer?_collect]
  constructor
  · intro step
    split at step
    · cases step
    · next kept =>
        have allocated := isAllocated_of_outer? step
        exact ⟨not_not.mp fun unreached => kept ((mem_unmarked_iff values allocated).mpr unreached),
          step⟩
  · rintro ⟨reached, step⟩
    rw [if_neg fun member => ((mem_unmarked values inner).mp member).2 reached, step]

/-- A frame in reach stays as it is but for the count of its inner frames. -/
theorem frame?_collect_of_reachable (wellFormed : arena.WellFormed held) {id : FrameId}
    (reached : arena.Reachable values id) :
    (arena.collect values).2.frame? id = (arena.frame? id).map fun frame => { frame with
      children := {inner | arena.Reachable values inner ∧ arena.outer? inner = some id}.ncard } := by
  have kept : id ∉ arena.unmarked (arena.mark values) :=
    fun member => ((mem_unmarked values id).mp member).2 reached
  have remains : (arena.collect values).2.frame? id = _ := frame?_collect values id
  rw [if_neg kept] at remains
  cases found : arena.frame? id with
  | none => rw [remains, found, Option.map_none, Option.map_none]
  | some frame =>
      rw [found] at remains
      have counted := wellFormed.children_collect values remains
      simp only [childCount_eq_ncard, outer?_collect_eq_some_iff] at counted
      rw [remains, Option.map_some, Option.map_some, ← counted]
      rfl

theorem inUse_collect_subset : (arena.collect values).2.inUse ⊆ arena.inUse := by
  intro id used
  rw [mem_inUse, isAllocated_collect] at used
  exact mem_inUse.mpr used.1

/-- The number that a collection gives is that of the frames that it frees. -/
theorem collect_fst_eq_card :
    (arena.collect values).1 = (arena.inUse \ (arena.collect values).2.inUse).card := by
  have freed : arena.inUse \ (arena.collect values).2.inUse =
      (arena.unmarked (arena.mark values)).toFinset := by
    ext id
    rw [Finset.mem_sdiff, List.mem_toFinset, mem_inUse, mem_inUse, mem_unmarked,
      isAllocated_collect]
    exact ⟨fun gone => ⟨gone.1, fun reached => gone.2 ⟨gone.1, reached⟩⟩,
      fun unreached => ⟨unreached.1, fun stays => unreached.2 stays.2⟩⟩
  rw [freed, List.toFinset_card_of_nodup (nodup_unmarked _)]
  rfl

theorem live_collect_add (wellFormed : arena.WellFormed held) :
    (arena.collect values).2.live + (arena.collect values).1 = arena.live := by
  have collected : (arena.collect values).2.ListsFree :=
    wellFormed.toListsFree.discardAll (nodup_unmarked _) fun id member =>
      ((mem_unmarked values id).mp member).1
  rw [collected.live_eq, wellFormed.toListsFree.live_eq, collect_fst_eq_card,
    Finset.card_sdiff_of_subset inUse_collect_subset]
  exact Nat.add_sub_of_le (Finset.card_le_card inUse_collect_subset)

/-- A second collection finds nothing to free. -/
theorem collect_collect :
    (arena.collect values).2.collect values = (0, (arena.collect values).2) := by
  have none : (arena.collect values).2.unmarked ((arena.collect values).2.mark values) = [] := by
    rw [List.eq_nil_iff_forall_not_mem]
    intro id member
    rcases (mem_unmarked values id).mp member with ⟨allocated, unreached⟩
    exact unreached (reachable_collect ((isAllocated_collect arena values id).mp allocated).2)
  rw [Arena.collect, none]
  rfl

/-- A collection frees just the frames that are out of reach. The frames in reach of handles and
values stay with their bindings, outer frames, handles and captures, and count the frames in reach
that lie in them; the number of live frames falls by the number of freed ones, and another
collection changes nothing. -/
theorem collect_exact (wellFormed : arena.WellFormed held) (values : List Value) :
    let inReach := {id | arena.Reachable values id}
    let freed := (arena.collect values).1
    let after := (arena.collect values).2
    IsLeast {frames | arena.Spans values frames} inReach ∧
      (∀ id, after.IsAllocated id ↔ id ∈ inReach ∧ arena.IsAllocated id) ∧
      ((∀ value ∈ values, ∀ home ∈ value.home?, arena.IsAllocated home) →
        ∀ id, after.IsAllocated id ↔ id ∈ inReach) ∧
      (∀ id ∈ inReach, after.frame? id = (arena.frame? id).map fun frame =>
        { frame with children := {inner ∈ inReach | arena.outer? inner = some id}.ncard }) ∧
      freed = (arena.inUse \ after.inUse).card ∧
      after.live + freed = arena.live ∧
      after.collect values = (0, after) := by
  intro inReach freed after
  have remains (id : FrameId) : after.IsAllocated id ↔ id ∈ inReach ∧ arena.IsAllocated id :=
    (isAllocated_collect arena values id).trans and_comm
  refine ⟨isLeast_reachable arena values, remains, fun homes id => ?_, fun id reached => ?_,
    collect_fst_eq_card, wellFormed.live_collect_add, collect_collect⟩
  · exact (remains id).trans
      (and_iff_left_of_imp fun reached => wellFormed.isAllocated_of_reachable homes reached)
  · exact wellFormed.frame?_collect_of_reachable reached

/-- Two frames within the frame of a session bind closures over themselves. A collection that is
given one of the closures, as a pending result, frees the other frame. -/
theorem collect_exact_cycles :
    let root : FrameId := ⟨0⟩
    let bindClosure (id : FrameId) (arena : Arena) : Closure × Arena :=
      let closed := arena.close id [] ⟨.punctuation .openBrace, []⟩
      (closed.1, closed.2.bind id "f" (.closure closed.1))
    let first := bindClosure ⟨1⟩ ((Arena.start 0).2.enclose root).2
    let second := bindClosure ⟨2⟩ (first.2.enclose root).2
    let arena := (second.2.drop ⟨1⟩).drop ⟨2⟩
    let values : List Value := [.returned (.closure second.1)]
    let after := (arena.collect values).2
    arena.WellFormed [root] ∧ arena.live = 3 ∧ (arena.collect values).1 = 1 ∧
      (∀ id, after.IsAllocated id ↔ arena.Reachable values id) ∧
      after.live + 1 = arena.live ∧ after.collect values = (0, after) ∧
      (after.frame? ⟨1⟩).isNone ∧ (after.frame? root).map Frame.children = some 1 := by
  intro root bindClosure first second arena values after
  have bound {arena : Arena} {held : List FrameId} {id : FrameId}
      (wellFormed : arena.WellFormed held) (allocated : arena.IsAllocated id) :
      (bindClosure id arena).2.WellFormed held := by
    refine (wellFormed.close id _ _).bind ?_
    rintro _ ⟨⟩
    exact isCaptured_capture allocated
  have opened : first.2.WellFormed [⟨1⟩, root] :=
    bound ((WellFormed.start 0).enclose rfl) rfl
  have both : second.2.WellFormed [⟨2⟩, ⟨1⟩, root] := bound (opened.enclose rfl) rfl
  have wellFormed : arena.WellFormed [root] := ((both.drop ⟨1⟩).1.drop ⟨2⟩).1
  have homes : ∀ value ∈ values, ∀ home ∈ value.home?, arena.IsAllocated home := by
    have inUse : (arena.frame? ⟨2⟩).isSome = true := by decide +kernel
    refine List.forall_mem_singleton.mpr ?_
    rintro _ ⟨⟩
    exact inUse
  have freed : (arena.collect values).1 = 1 := by decide +kernel
  rcases wellFormed.collect_exact values with ⟨_, _, remains, _, _, live, again⟩
  rw [freed] at live
  exact ⟨wellFormed, by decide +kernel, freed, remains homes, live, again, by decide +kernel,
    by decide +kernel⟩

end WellFormed

end Monkey.Arena
