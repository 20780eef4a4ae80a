import Mathlib.Data.List.Perm.Subperm
import Mathlib.Logic.Relation
import Monkey.Proofs.Arena.Frames

/-!
# Nested frames

The way outward from a frame ends, since no frame lies within itself. As it passes no frame
twice, the number of places bounds it, so a lookup meets every frame on its way: it satisfies the
equation of a search without a limit.
-/

namespace Monkey.Arena

theorem countP_of_differ_at {ids : List FrameId} {id : FrameId} (nodup : ids.Nodup)
    (member : id ∈ ids) (test other : FrameId → Bool)
    (same : ∀ next, next ≠ id → test next = other next) :
    ids.countP test + (if other id then 1 else 0) =
      ids.countP other + (if test id then 1 else 0) := by
  induction ids with
  | nil => simp at member
  | cons first rest ih =>
      rw [List.nodup_cons] at nodup
      rcases List.mem_cons.mp member with rfl | later
      · have rest_same : rest.countP test = rest.countP other := by
          apply List.countP_congr
          intro next inRest
          rw [same next (fun equal => nodup.1 (equal ▸ inRest))]
        simp only [List.countP_cons, rest_same]
        omega
      · have differ : first ≠ id := fun equal => nodup.1 (equal ▸ later)
        have step := ih nodup.2 later
        simp only [List.countP_cons, same first differ]
        omega

theorem childCount_eq_zero_iff {arena : Arena} {id : FrameId} :
    arena.childCount id = 0 ↔ ∀ inner, arena.outer? inner ≠ some id := by
  simp only [childCount, List.countP_eq_zero, beq_iff_eq, mem_places]
  constructor
  · intro none inner step
    exact none inner (slot_lt_of_isAllocated (isAllocated_of_outer? step)) step
  · intro none inner _
    exact none inner

theorem childCount_discard {arena : Arena} {id : FrameId} (allocated : arena.IsAllocated id)
    (other : FrameId) :
    (arena.discard id).childCount other + (if arena.outer? id = some other then 1 else 0) =
      arena.childCount other := by
  have changed := countP_of_differ_at (nodup_places arena)
    (mem_places.mpr (slot_lt_of_isAllocated allocated))
    (fun inner => (arena.discard id).outer? inner == some other)
    (fun inner => arena.outer? inner == some other)
    (fun next differ => by simp [outer?_discard, differ])
  simpa [childCount, outer?_discard] using changed

section Insert

variable {arena : Arena} (lists : arena.ListsFree) (frame : Frame)

include lists in
theorem childCount_insert (other : FrameId) :
    (arena.insert frame).2.childCount other =
      arena.childCount other + (if frame.outer = some other then 1 else 0) := by
  have outers := (lists.extended frame).outer?_eq
  have fresh : arena.outer? (arena.insert frame).1 = none := by
    simp [outer?, lists.frame?_insert_self]
  cases shape : arena.free with
  | nil =>
      have places : (arena.insert frame).2.places = arena.places ++ [⟨arena.frames.size⟩] := by
        simp [insert_of_free_nil shape, places, List.range_succ]
      have new : (arena.insert frame).1 = ⟨arena.frames.size⟩ := by simp [insert_of_free_nil shape]
      have old : ∀ inner ∈ arena.places,
          (arena.insert frame).2.outer? inner = arena.outer? inner := by
        intro inner inside
        rw [outers, if_neg]
        rintro rfl
        rw [new, mem_places] at inside
        exact Nat.lt_irrefl _ inside
      have counted : arena.places.countP (fun inner =>
          (arena.insert frame).2.outer? inner == some other) = arena.childCount other := by
        apply List.countP_congr
        intro inner inside
        rw [old inner inside]
      rw [childCount, places, List.countP_append, counted, List.countP_singleton, outers, new]
      simp
  | cons slot free =>
      have places : (arena.insert frame).2.places = arena.places := by
        simp [insert_of_free_cons shape, places]
      have new : (arena.insert frame).1 = ⟨slot⟩ := by simp [insert_of_free_cons shape]
      have inside : (⟨slot⟩ : FrameId) ∈ arena.places :=
        mem_places.mpr (lists.lt_of_free_cons shape).1
      rw [new] at fresh
      have changed := countP_of_differ_at (nodup_places arena) inside
        (fun inner => (arena.insert frame).2.outer? inner == some other)
        (fun inner => arena.outer? inner == some other)
        (fun next differ => by simp [outers, new, differ])
      simpa [childCount, places, outers, new, fresh] using changed

end Insert

/-- Whether a frame is the outer frame of another one. -/
def IsOuter (arena : Arena) (outer inner : FrameId) : Prop :=
  arena.outer? inner = some outer

/-- Outer frames are in use, and no frame lies within itself: the way outward ends. -/
structure Nested (arena : Arena) : Prop where
  outer_allocated : ∀ {inner outer}, arena.outer? inner = some outer → arena.IsAllocated outer
  wellFounded : WellFounded arena.IsOuter

namespace Nested

variable {arena : Arena} (nested : arena.Nested)

include nested in
theorem not_within_self (id : FrameId) : ¬Relation.TransGen arena.IsOuter id id :=
  fun cycle => nested.wellFounded.transGen.irrefl.irrefl id cycle

include nested in
theorem modifyFrame (id : FrameId) {change : Frame → Frame}
    (keeps : ∀ frame, (change frame).outer = frame.outer) :
    (arena.modifyFrame id change).Nested where
  outer_allocated step := by
    rw [outer?_modifyFrame arena id keeps] at step
    simpa using nested.outer_allocated step
  wellFounded := by
    refine Subrelation.wf (fun {outer inner} step => ?_) nested.wellFounded
    rwa [IsOuter, outer?_modifyFrame arena id keeps] at step

include nested in
theorem extend {later : Arena} {id : FrameId} {frame : Frame}
    (extended : arena.Extended id frame later)
    (inUse : ∀ outer ∈ frame.outer, arena.IsAllocated outer) : later.Nested := by
  -- The way outward from an old frame never meets the new one.
  have old : ∀ other, other ≠ id → Acc later.IsOuter other := by
    intro other
    induction other using nested.wellFounded.induction with
    | h other ih =>
        intro different
        constructor
        intro outer step
        rw [IsOuter, extended.outer?_eq, if_neg different] at step
        exact ih outer step (extended.ne (nested.outer_allocated step))
  refine ⟨fun {inner outer} step => ?_, ⟨fun other => ?_⟩⟩
  · rw [extended.outer?_eq] at step
    split at step
    · exact extended.isAllocated (inUse outer step)
    · exact extended.isAllocated (nested.outer_allocated step)
  · by_cases new : other = id
    · subst new
      constructor
      intro outer step
      rw [IsOuter, extended.outer?_eq, if_pos rfl] at step
      exact old outer (extended.ne (inUse outer step))
    · exact old other new

include nested in
theorem discard {id : FrameId} (childless : arena.childCount id = 0) :
    (arena.discard id).Nested where
  outer_allocated {inner outer} step := by
    rw [outer?_discard] at step
    split at step
    · cases step
    · have different : outer ≠ id := by
        rintro rfl
        exact childCount_eq_zero_iff.mp childless inner step
      rw [IsAllocated, frame?_discard, if_neg different]
      exact nested.outer_allocated step
  wellFounded := by
    refine Subrelation.wf (fun {outer inner} step => ?_) nested.wellFounded
    rw [IsOuter, outer?_discard] at step
    split at step
    · cases step
    · exact step

end Nested

section Lookup

variable {arena : Arena}

/-- Places that differ are at most as many as an arena has. -/
theorem length_le_size {ids : List FrameId} (nodup : ids.Nodup)
    (allocated : ∀ id ∈ ids, arena.IsAllocated id) : ids.length ≤ arena.frames.size := by
  have subset : ids ⊆ arena.places :=
    fun id member => mem_places.mpr (slot_lt_of_isAllocated (allocated id member))
  have bound := (List.subperm_of_subset nodup subset).length_le
  simpa [places] using bound

theorem isAllocated_of_within {outer inner : FrameId}
    (within : Relation.TransGen arena.IsOuter outer inner) : arena.IsAllocated inner := by
  cases within with
  | single step => exact isAllocated_of_outer? step
  | tail _ step => exact isAllocated_of_outer? step

theorem lookupWithin_add_one (name : String) (limit : Nat) (id : FrameId) :
    arena.lookupWithin name (limit + 1) id =
      (arena.frame? id).bind fun frame =>
        (frame.lookup? name).or
          (frame.outer.bind fun outer => arena.lookupWithin name limit outer) := by
  rw [lookupWithin]
  cases arena.frame? id with
  | none => rfl
  | some frame =>
      simp only [Option.bind_some]
      cases frame.lookup? name with
      | some value => rfl
      | none => cases frame.outer <;> rfl

/-- A step more is no gain for a lookup that has passed as many frames as its limit falls short
of the number of places. -/
theorem lookupWithin_succ (nested : arena.Nested) (name : String) {limit : Nat}
    {passed : List FrameId} {id : FrameId} (nodup : passed.Nodup)
    (within : ∀ inner ∈ passed, Relation.TransGen arena.IsOuter id inner)
    (enough : arena.frames.size ≤ passed.length + limit) :
    arena.lookupWithin name (limit + 1) id = arena.lookupWithin name limit id := by
  induction limit generalizing passed id with
  | zero =>
      rw [lookupWithin_add_one]
      cases found : arena.frame? id with
      | none => rfl
      | some frame =>
          have bound : (id :: passed).length ≤ arena.frames.size := by
            refine length_le_size (List.nodup_cons.mpr ⟨fun again => ?_, nodup⟩) ?_
            · exact nested.not_within_self id (within id again)
            · refine List.forall_mem_cons.mpr ⟨by simp [IsAllocated, found], ?_⟩
              exact fun inner member => isAllocated_of_within (within inner member)
          simp only [List.length_cons] at bound
          omega
  | succ limit ih =>
      rw [lookupWithin_add_one, lookupWithin_add_one]
      refine Option.bind_congr fun frame found => ?_
      congr 1
      refine Option.bind_congr fun outer outward => ?_
      have step : arena.IsOuter outer id := by
        rw [IsOuter, outer?, found]
        exact outward
      have nodup_more : (id :: passed).Nodup := by
        refine List.nodup_cons.mpr ⟨fun again => ?_, nodup⟩
        exact nested.not_within_self id (within id again)
      refine ih nodup_more ?_ ?_
      · refine List.forall_mem_cons.mpr ⟨.single step, fun inner member => ?_⟩
        exact .head step (within inner member)
      · simp only [List.length_cons]
        omega

/-- A lookup goes on with the outer frame where a frame does not bind the name. -/
theorem lookup?_eq (nested : arena.Nested) (id : FrameId) (name : String) :
    arena.lookup? id name =
      (arena.frame? id).bind fun frame =>
        (frame.lookup? name).or (frame.outer.bind fun outer => arena.lookup? outer name) := by
  have more : arena.lookupWithin name (arena.frames.size + 1) id =
      arena.lookupWithin name arena.frames.size id :=
    lookupWithin_succ nested name List.nodup_nil (by simp) (by simp)
  rw [lookup?, ← more, lookupWithin_add_one]
  rfl

end Lookup

end Monkey.Arena
