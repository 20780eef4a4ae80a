import Mathlib.Data.List.Nodup
import Mathlib.Order.WellFounded
import Monkey.Arena.Collect

/-!
# Frames under the operations of an arena

What each operation of an arena does to the frame at every place, to the free places, and to the
number of frames within a frame. The developments of this folder see an arena through these
equations alone.
-/

namespace Monkey

namespace Frame

theorem mem_bindAmong {name : String} {value : Value} {bindings : List (String × Value)}
    {binding : String × Value} (member : binding ∈ bindAmong name value bindings) :
    binding = (name, value) ∨ binding ∈ bindings := by
  induction bindings with
  | nil => simpa [bindAmong] using member
  | cons first rest ih =>
      simp only [bindAmong] at member
      split at member
      · simp only [List.mem_cons] at member ⊢
        rcases member with new | old
        · exact .inl new
        · exact .inr (.inr old)
      · simp only [List.mem_cons] at member ⊢
        rcases member with same | later
        · exact .inr (.inl same)
        · exact (ih later).imp_right .inr

theorem lookup_cons_eq_ite (name : String) (binding : String × Value)
    (rest : List (String × Value)) :
    (binding :: rest).lookup name =
      if name = binding.1 then some binding.2 else rest.lookup name := by
  rcases binding with ⟨found, value⟩
  by_cases same : name = found
  · simp [same]
  · have differ : (name == found) = false := by simpa using same
    simp [List.lookup_cons, same, differ]

theorem lookup?_bind (name other : String) (value : Value) (frame : Frame) :
    (frame.bind name value).lookup? other =
      if other = name then some value else frame.lookup? other := by
  rcases frame with ⟨bindings, outer, handles, children, captured⟩
  simp only [bind, lookup?]
  induction bindings with
  | nil => simp [bindAmong, lookup_cons_eq_ite]
  | cons first rest ih =>
      simp only [bindAmong]
      split
      · rename_i here
        by_cases same : other = name <;> simp [lookup_cons_eq_ite, here, same]
      · rename_i elsewhere
        by_cases same : other = first.1
        · simp [lookup_cons_eq_ite, same, elsewhere]
        · simp [lookup_cons_eq_ite, same, ih]

theorem mem_of_lookup? {frame : Frame} {name : String} {value : Value}
    (found : frame.lookup? name = some value) : (name, value) ∈ frame.bindings := by
  rcases List.lookup_eq_some_iff.mp found with ⟨before, after, split, _⟩
  simp [split]

/-- Whether a change leaves what frames bind and where they lie as it is, and forgets no
capture. -/
structure Recounts (change : Frame → Frame) : Prop where
  bindings : ∀ frame, (change frame).bindings = frame.bindings
  outer : ∀ frame, (change frame).outer = frame.outer
  captured : ∀ frame, frame.captured = true → (change frame).captured = true

theorem recounts_gainHandle : Recounts gainHandle :=
  ⟨fun _ => rfl, fun _ => rfl, fun _ captured => captured⟩

theorem recounts_loseHandle : Recounts loseHandle :=
  ⟨fun _ => rfl, fun _ => rfl, fun _ captured => captured⟩

theorem recounts_gainChild : Recounts gainChild :=
  ⟨fun _ => rfl, fun _ => rfl, fun _ captured => captured⟩

theorem recounts_loseChild : Recounts loseChild :=
  ⟨fun _ => rfl, fun _ => rfl, fun _ captured => captured⟩

theorem recounts_capture : Recounts capture :=
  ⟨fun _ => rfl, fun _ => rfl, fun _ _ => rfl⟩

end Frame

namespace Arena

/-- Whether a frame is in use at a place. -/
def IsAllocated (arena : Arena) (id : FrameId) : Prop :=
  (arena.frame? id).isSome = true

/-- Whether a closure has captured the frame at a place. -/
def IsCaptured (arena : Arena) (id : FrameId) : Prop :=
  ∃ frame, arena.frame? id = some frame ∧ frame.captured = true

/-- The outer frame of the frame at a place. -/
def outer? (arena : Arena) (id : FrameId) : Option FrameId :=
  (arena.frame? id).bind Frame.outer

/-- The number of frames in use whose outer frame is the given one. -/
def childCount (arena : Arena) (id : FrameId) : Nat :=
  arena.places.countP fun inner => arena.outer? inner == some id

theorem IsCaptured.isAllocated {arena : Arena} {id : FrameId} (captured : arena.IsCaptured id) :
    arena.IsAllocated id := by
  rcases captured with ⟨frame, found, _⟩
  simp [IsAllocated, found]

theorem isAllocated_iff {arena : Arena} {id : FrameId} :
    arena.IsAllocated id ↔ ∃ frame, arena.frame? id = some frame :=
  Option.isSome_iff_exists

theorem not_isCaptured {arena : Arena} {id : FrameId} {frame : Frame}
    (found : arena.frame? id = some frame) (free : frame.captured = false) :
    ¬arena.IsCaptured id := by
  rintro ⟨same, here, captured⟩
  rw [found] at here
  cases here
  simp [free] at captured

theorem isAllocated_of_outer? {arena : Arena} {inner outer : FrameId}
    (step : arena.outer? inner = some outer) : arena.IsAllocated inner := by
  rcases Option.bind_eq_some_iff.mp step with ⟨frame, found, _⟩
  simp [IsAllocated, found]

theorem frame?_eq (arena : Arena) (id : FrameId) :
    arena.frame? id = arena.frames[id.slot]?.getD none := by
  simp [frame?]

theorem slot_lt_of_isAllocated {arena : Arena} {id : FrameId} (allocated : arena.IsAllocated id) :
    id.slot < arena.frames.size := by
  by_contra outside
  simp [IsAllocated, frame?_eq, Nat.not_lt.mp outside] at allocated

theorem mem_places {arena : Arena} {id : FrameId} :
    id ∈ arena.places ↔ id.slot < arena.frames.size := by
  rcases id with ⟨slot⟩
  simp [places]

theorem nodup_places (arena : Arena) : arena.places.Nodup := by
  refine List.Nodup.map ?_ List.nodup_range
  intro left right same
  exact FrameId.mk.inj same

section ModifyFrame

variable (arena : Arena) (id : FrameId) (change : Frame → Frame)

theorem frame?_modifyFrame (other : FrameId) :
    (arena.modifyFrame id change).frame? other =
      if other = id then (arena.frame? other).map change else arena.frame? other := by
  rcases id with ⟨slot⟩
  rcases other with ⟨otherSlot⟩
  simp only [modifyFrame, frame?_eq, Array.getElem?_modify, FrameId.mk.injEq, eq_comm (a := slot)]
  split
  · cases arena.frames[otherSlot]? <;> rfl
  · rfl

theorem of_frame?_modifyFrame {other : FrameId} {frame : Frame}
    (found : (arena.modifyFrame id change).frame? other = some frame) :
    ∃ old, arena.frame? other = some old ∧ (frame = old ∨ frame = change old) := by
  rw [frame?_modifyFrame] at found
  split at found
  · rcases Option.map_eq_some_iff.mp found with ⟨old, here, same⟩
    exact ⟨old, here, .inr same.symm⟩
  · exact ⟨frame, found, .inl rfl⟩

@[simp]
theorem places_modifyFrame : (arena.modifyFrame id change).places = arena.places := by
  simp [places, modifyFrame]

@[simp]
theorem free_modifyFrame : (arena.modifyFrame id change).free = arena.free := rfl

@[simp]
theorem size_modifyFrame : (arena.modifyFrame id change).frames.size = arena.frames.size := by
  simp [modifyFrame]

@[simp]
theorem isAllocated_modifyFrame (other : FrameId) :
    (arena.modifyFrame id change).IsAllocated other ↔ arena.IsAllocated other := by
  simp only [IsAllocated, frame?_modifyFrame]
  split <;> simp

variable {change} (keeps : ∀ frame, (change frame).outer = frame.outer)

include keeps in
theorem outer?_modifyFrame (other : FrameId) :
    (arena.modifyFrame id change).outer? other = arena.outer? other := by
  simp only [outer?, frame?_modifyFrame]
  split
  · cases arena.frame? other <;> simp [keeps]
  · rfl

include keeps in
theorem childCount_modifyFrame (other : FrameId) :
    (arena.modifyFrame id change).childCount other = arena.childCount other := by
  simp only [childCount, places_modifyFrame, outer?_modifyFrame arena id keeps]

end ModifyFrame

theorem insert_of_free_nil {arena : Arena} (full : arena.free = []) (frame : Frame) :
    arena.insert frame =
      (⟨arena.frames.size⟩, { arena with frames := arena.frames.push (some frame) }) := by
  simp [insert, full]

theorem insert_of_free_cons {arena : Arena} {slot : Nat} {free : List Nat}
    (shape : arena.free = slot :: free) (frame : Frame) :
    arena.insert frame =
      (⟨slot⟩, { arena with
        frames := arena.frames.setIfInBounds slot (some frame), free := free }) := by
  simp [insert, shape]

/-- After an insertion the new frame stands at its place, if at all, and the others stand where
they stood, whatever places are listed as free. -/
theorem of_frame?_insert {arena : Arena} {frame found : Frame} {other : FrameId}
    (here : (arena.insert frame).2.frame? other = some found) :
    (other = (arena.insert frame).1 ∧ found = frame) ∨
      (other ≠ (arena.insert frame).1 ∧ arena.frame? other = some found) := by
  rcases other with ⟨slot⟩
  cases shape : arena.free with
  | nil =>
      simp only [insert_of_free_nil shape, frame?_eq, Array.getElem?_push, FrameId.mk.injEq,
        ne_eq] at here ⊢
      split at here
      · rename_i new
        exact .inl ⟨new, (Option.some.inj here).symm⟩
      · rename_i old
        exact .inr ⟨old, here⟩
  | cons first free =>
      simp only [insert_of_free_cons shape, frame?_eq, Array.getElem?_setIfInBounds,
        FrameId.mk.injEq, ne_eq] at here ⊢
      split at here
      · rename_i new
        split at here
        · exact .inl ⟨new.symm, (Option.some.inj here).symm⟩
        · cases here
      · rename_i old
        exact .inr ⟨fun same => old same.symm, here⟩

theorem frame?_discard (arena : Arena) (id other : FrameId) :
    (arena.discard id).frame? other = if other = id then none else arena.frame? other := by
  rcases id with ⟨slot⟩
  rcases other with ⟨otherSlot⟩
  simp only [discard, frame?_eq, Array.getElem?_setIfInBounds, FrameId.mk.injEq]
  by_cases same : slot = otherSlot
  · subst same
    simp only [if_true]
    split <;> rfl
  · have differ : ¬otherSlot = slot := fun equal => same equal.symm
    simp [same, differ]

theorem of_frame?_discard {arena : Arena} {id other : FrameId} {frame : Frame}
    (found : (arena.discard id).frame? other = some frame) :
    other ≠ id ∧ arena.frame? other = some frame := by
  rw [frame?_discard] at found
  split at found
  · cases found
  · rename_i different
    exact ⟨different, found⟩

@[simp]
theorem places_discard (arena : Arena) (id : FrameId) :
    (arena.discard id).places = arena.places := by
  simp [places, discard]

theorem outer?_discard (arena : Arena) (id other : FrameId) :
    (arena.discard id).outer? other = if other = id then none else arena.outer? other := by
  simp only [outer?, frame?_discard]
  split <;> rfl

/-- An arena with one frame more, at a place that had none. -/
structure Extended (arena : Arena) (id : FrameId) (frame : Frame) (later : Arena) : Prop where
  vacant : arena.frame? id = none
  frame?_eq : ∀ other, later.frame? other = if other = id then some frame else arena.frame? other

namespace Extended

variable {arena later : Arena} {id : FrameId} {frame : Frame}
  (extended : arena.Extended id frame later)

include extended in
theorem ne {other : FrameId} (allocated : arena.IsAllocated other) : other ≠ id := by
  rintro rfl
  simp [IsAllocated, extended.vacant] at allocated

include extended in
theorem here : later.frame? id = some frame := by
  simp [extended.frame?_eq]

include extended in
theorem isAllocated {other : FrameId} (allocated : arena.IsAllocated other) :
    later.IsAllocated other := by
  rwa [IsAllocated, extended.frame?_eq, if_neg (extended.ne allocated)]

include extended in
theorem outer?_eq (other : FrameId) :
    later.outer? other = if other = id then frame.outer else arena.outer? other := by
  simp only [outer?, extended.frame?_eq]
  split <;> rfl

end Extended

/-- The free places are listed: each place without a frame, once. -/
structure ListsFree (arena : Arena) : Prop where
  nodup_free : arena.free.Nodup
  mem_free : ∀ slot, slot ∈ arena.free ↔ slot < arena.frames.size ∧ arena.frame? ⟨slot⟩ = none

namespace ListsFree

variable {arena : Arena} (lists : arena.ListsFree)

include lists in
theorem modifyFrame (id : FrameId) (change : Frame → Frame) :
    (arena.modifyFrame id change).ListsFree where
  nodup_free := lists.nodup_free
  mem_free slot := by
    have same := isAllocated_modifyFrame arena id change ⟨slot⟩
    simp only [IsAllocated, Option.isSome_iff_ne_none, ne_eq, not_iff_not] at same
    simp [lists.mem_free, same]

include lists in
theorem lt_of_free_cons {slot : Nat} {free : List Nat} (shape : arena.free = slot :: free) :
    slot < arena.frames.size ∧ arena.frame? ⟨slot⟩ = none ∧ slot ∉ free := by
  have nodup := lists.nodup_free
  rw [shape, List.nodup_cons] at nodup
  have empty := (lists.mem_free slot).mp (by simp [shape])
  exact ⟨empty.1, empty.2, nodup.1⟩

include lists in
theorem frame?_insert_self (frame : Frame) : arena.frame? (arena.insert frame).1 = none := by
  cases shape : arena.free with
  | nil => simp [insert_of_free_nil shape, frame?_eq]
  | cons slot free => simp [insert_of_free_cons shape, (lists.lt_of_free_cons shape).2.1]

include lists in
theorem frame?_insert (frame : Frame) (other : FrameId) :
    (arena.insert frame).2.frame? other =
      if other = (arena.insert frame).1 then some frame else arena.frame? other := by
  rcases other with ⟨otherSlot⟩
  cases shape : arena.free with
  | nil =>
      simp only [insert_of_free_nil shape, frame?_eq, Array.getElem?_push, FrameId.mk.injEq]
      split <;> rfl
  | cons slot free =>
      have inside := (lists.lt_of_free_cons shape).1
      simp only [insert_of_free_cons shape, frame?_eq, Array.getElem?_setIfInBounds,
        FrameId.mk.injEq]
      by_cases same : slot = otherSlot
      · subst same
        simp [inside]
      · have differ : ¬otherSlot = slot := fun equal => same equal.symm
        simp [same, differ]

include lists in
theorem extended (frame : Frame) :
    arena.Extended (arena.insert frame).1 frame (arena.insert frame).2 :=
  ⟨lists.frame?_insert_self frame, lists.frame?_insert frame⟩

include lists in
theorem insert (frame : Frame) : (arena.insert frame).2.ListsFree := by
  have frames := lists.frame?_insert frame
  cases shape : arena.free with
  | nil =>
      rw [insert_of_free_nil shape] at frames ⊢
      refine ⟨by simp [shape], fun slot => ?_⟩
      rw [frames ⟨slot⟩]
      have listed := lists.mem_free slot
      simp only [shape, List.not_mem_nil, false_iff] at listed
      by_cases new : slot = arena.frames.size
      · simp [shape, new]
      · have below : slot < arena.frames.size + 1 ↔ slot < arena.frames.size := by omega
        simpa [shape, new, below] using listed
  | cons first free =>
      have nodup := lists.nodup_free
      rw [shape] at nodup
      rw [insert_of_free_cons shape] at frames ⊢
      refine ⟨nodup.of_cons, fun slot => ?_⟩
      rw [frames ⟨slot⟩]
      have listed := lists.mem_free slot
      rw [shape, List.mem_cons] at listed
      by_cases new : slot = first
      · simp [new, (lists.lt_of_free_cons shape).2.2]
      · simpa [new] using listed

include lists in
theorem discard {id : FrameId} (allocated : arena.IsAllocated id) :
    (arena.discard id).ListsFree := by
  rcases id with ⟨freed⟩
  have inside : freed < arena.frames.size := slot_lt_of_isAllocated allocated
  refine ⟨?_, fun slot => ?_⟩
  · refine List.nodup_cons.mpr ⟨fun listed => ?_, lists.nodup_free⟩
    simp [IsAllocated, ((lists.mem_free freed).mp listed).2] at allocated
  · rw [frame?_discard]
    have listed := lists.mem_free slot
    simp only [Arena.discard, List.mem_cons, Array.size_setIfInBounds, FrameId.mk.injEq]
    by_cases same : slot = freed
    · simp [same, inside]
    · simpa [same] using listed

end ListsFree

end Arena

end Monkey
