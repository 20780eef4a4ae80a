import Monkey.Proofs.Arena.Nesting

/-!
# The scopes of an arena

What a program can see of an arena are the bindings of frames and their outer frames. An arena is
a part of another one if it shows nothing else than the other one does; dropped handles,
collections and counters leave a part, and a lookup finds the same in a part. An arena is coherent
if what it shows is in use: handles and outer frames point at frames, and bound closures at captured
frames.
-/

namespace Monkey.Arena

/-- Whether a value refers to no frame but captured ones. -/
def Admits (arena : Arena) (value : Value) : Prop :=
  ∀ home ∈ value.home?, arena.IsCaptured home

/-- Whether every captured frame of an arena is a captured frame of another one. -/
def KeepsCaptured (arena later : Arena) : Prop :=
  ∀ id, arena.IsCaptured id → later.IsCaptured id

namespace KeepsCaptured

variable {arena later : Arena}

theorem refl (arena : Arena) : arena.KeepsCaptured arena :=
  fun _ captured => captured

theorem trans {next : Arena} (first : arena.KeepsCaptured next)
    (second : next.KeepsCaptured later) : arena.KeepsCaptured later :=
  fun id captured => second id (first id captured)

theorem modifyFrame (arena : Arena) (id : FrameId) {change : Frame → Frame}
    (captures : ∀ frame, frame.captured = true → (change frame).captured = true) :
    arena.KeepsCaptured (arena.modifyFrame id change) := by
  rintro other ⟨frame, found, captured⟩
  by_cases same : other = id
  · subst same
    exact ⟨change frame, by simp [frame?_modifyFrame, found], captures frame captured⟩
  · exact ⟨frame, by simp [frame?_modifyFrame, same, found], captured⟩

theorem share (arena : Arena) (id : FrameId) : arena.KeepsCaptured (arena.share id) :=
  .modifyFrame arena id Frame.recounts_gainHandle.captured

theorem capture (arena : Arena) (id : FrameId) : arena.KeepsCaptured (arena.capture id) :=
  .modifyFrame arena id Frame.recounts_capture.captured

theorem bind (arena : Arena) (id : FrameId) (name : String) (value : Value) :
    arena.KeepsCaptured (arena.bind id name value) :=
  .modifyFrame arena id fun _ captured => captured

theorem extend {id : FrameId} {frame : Frame} (extended : arena.Extended id frame later) :
    arena.KeepsCaptured later := by
  rintro other ⟨old, found, captured⟩
  refine ⟨old, ?_, captured⟩
  have different := extended.ne (isAllocated_iff.mpr ⟨old, found⟩)
  simp [extended.frame?_eq, different, found]

theorem discard {id : FrameId} (free : ¬arena.IsCaptured id) :
    arena.KeepsCaptured (arena.discard id) := by
  rintro other ⟨frame, found, captured⟩
  refine ⟨frame, ?_, captured⟩
  rw [frame?_discard, if_neg, found]
  rintro rfl
  exact free ⟨frame, found, captured⟩

end KeepsCaptured

theorem isCaptured_capture {arena : Arena} {id : FrameId} (allocated : arena.IsAllocated id) :
    (arena.capture id).IsCaptured id := by
  rcases isAllocated_iff.mp allocated with ⟨frame, found⟩
  exact ⟨frame.capture, by simp [Arena.capture, frame?_modifyFrame, found], rfl⟩

/-- Whether every frame of an arena is in another one with the same bindings and the same outer
frame. -/
def PartOf (part whole : Arena) : Prop :=
  ∀ ⦃id frame⦄, part.frame? id = some frame → ∃ same, whole.frame? id = some same ∧
    same.bindings = frame.bindings ∧ same.outer = frame.outer

namespace PartOf

variable {arena later : Arena}

theorem refl (arena : Arena) : arena.PartOf arena :=
  fun _ frame found => ⟨frame, found, rfl, rfl⟩

theorem trans {part whole : Arena} (first : part.PartOf arena) (second : arena.PartOf whole) :
    part.PartOf whole := by
  intro id frame found
  rcases first found with ⟨middle, found, bindings, outer⟩
  rcases second found with ⟨same, found, bindings', outer'⟩
  exact ⟨same, found, bindings'.trans bindings, outer'.trans outer⟩

theorem recount (arena : Arena) (id : FrameId) {change : Frame → Frame}
    (recounts : Frame.Recounts change) : (arena.modifyFrame id change).PartOf arena := by
  intro other frame found
  rw [frame?_modifyFrame] at found
  split at found
  · rcases Option.map_eq_some_iff.mp found with ⟨old, here, rfl⟩
    exact ⟨old, here, (recounts.bindings old).symm, (recounts.outer old).symm⟩
  · exact ⟨frame, found, rfl, rfl⟩

theorem of_recount (arena : Arena) (id : FrameId) {change : Frame → Frame}
    (recounts : Frame.Recounts change) : arena.PartOf (arena.modifyFrame id change) := by
  intro other frame found
  by_cases same : other = id
  · subst same
    exact ⟨change frame, by simp [frame?_modifyFrame, found], recounts.bindings frame,
      recounts.outer frame⟩
  · exact ⟨frame, by simp [frame?_modifyFrame, same, found], rfl, rfl⟩

theorem extend {id : FrameId} {frame : Frame} (extended : arena.Extended id frame later) :
    arena.PartOf later := by
  intro other old found
  have different := extended.ne (isAllocated_iff.mpr ⟨old, found⟩)
  exact ⟨old, by simp [extended.frame?_eq, different, found], rfl, rfl⟩

theorem discard (arena : Arena) (id : FrameId) : (arena.discard id).PartOf arena := by
  intro other frame found
  exact ⟨frame, (of_frame?_discard found).2, rfl, rfl⟩

theorem releaseWithin (limit : Nat) (id : FrameId) (arena : Arena) :
    (arena.releaseWithin limit id).PartOf arena := by
  induction limit generalizing id arena with
  | zero => exact .refl arena
  | succ limit ih =>
      rw [Arena.releaseWithin]
      split
      · exact .refl arena
      · split
        · split
          · exact .discard arena id
          · rename_i outer _
            refine (ih outer _).trans (.trans ?_ (.discard arena id))
            exact .recount _ outer Frame.recounts_loseChild
        · exact .refl arena

theorem drop (id : FrameId) (arena : Arena) : (arena.drop id).PartOf arena :=
  (releaseWithin _ id _).trans (.recount arena id Frame.recounts_loseHandle)

theorem outer?_eq {part whole : Arena} (partOf : part.PartOf whole) {id : FrameId}
    (allocated : part.IsAllocated id) : part.outer? id = whole.outer? id := by
  rcases isAllocated_iff.mp allocated with ⟨frame, found⟩
  rcases partOf found with ⟨same, found', _, outer⟩
  simp [outer?, found, found', outer]

/-- A frame of a part shows what it shows in the whole. -/
theorem lookup?_eq {part whole : Arena} (partOf : part.PartOf whole) (nested : part.Nested)
    (nested' : whole.Nested) {id : FrameId} (allocated : part.IsAllocated id) (name : String) :
    part.lookup? id name = whole.lookup? id name := by
  induction id using nested.wellFounded.induction with
  | h id ih =>
      rcases isAllocated_iff.mp allocated with ⟨frame, found⟩
      rcases partOf found with ⟨same, found', bindings, outer⟩
      have here : same.lookup? name = frame.lookup? name := by
        rw [Frame.lookup?, Frame.lookup?, bindings]
      rw [Arena.lookup?_eq nested, Arena.lookup?_eq nested', found, found']
      simp only [Option.bind_some, here, outer]
      congr 1
      refine Option.bind_congr fun next outward => ?_
      have step : part.outer? id = some next := by simpa [outer?, found] using outward
      exact ih next step (nested.outer_allocated step)

end PartOf

/-- Whether a frame stands at a place with the bindings and the outer frame of a given one. -/
def Shows (arena : Arena) (id : FrameId) (frame : Frame) : Prop :=
  ∃ same, arena.frame? id = some same ∧ same.bindings = frame.bindings ∧ same.outer = frame.outer

theorem releaseWithin_of_isCaptured {arena : Arena} {id : FrameId} (limit : Nat)
    (captured : arena.IsCaptured id) : arena.releaseWithin limit id = arena := by
  rcases captured with ⟨frame, found, captured⟩
  cases limit with
  | zero => rfl
  | succ limit => simp [releaseWithin, found, Frame.isUnreferenced, captured]

namespace Shows

variable {arena later : Arena} {id other : FrameId} {frame : Frame}
  (shown : arena.Shows id frame)

include shown

theorem isAllocated : arena.IsAllocated id := by
  rcases shown with ⟨same, found, _⟩
  exact isAllocated_iff.mpr ⟨same, found⟩

theorem extend (part : arena.PartOf later) : later.Shows id frame := by
  rcases shown with ⟨old, found, bindings, outer⟩
  rcases part found with ⟨same, found', bindings', outer'⟩
  exact ⟨same, found', bindings'.trans bindings, outer'.trans outer⟩

/-- What a part of an arena has at a place is what the arena has there. -/
theorem prune (part : later.PartOf arena) (allocated : later.IsAllocated id) :
    later.Shows id frame := by
  rcases isAllocated_iff.mp allocated with ⟨same, remains⟩
  rcases shown with ⟨old, found, bindings, outer⟩
  rcases part remains with ⟨_, before, bindings', outer'⟩
  cases found.symm.trans before
  exact ⟨same, remains, bindings'.symm.trans bindings, outer'.symm.trans outer⟩

theorem bind (apart : id ≠ other) (name : String) (value : Value) :
    (arena.bind other name value).Shows id frame := by
  rcases shown with ⟨same, found, alike⟩
  exact ⟨same, by simp [Arena.bind, frame?_modifyFrame, apart, found], alike⟩

theorem discard (apart : id ≠ other) : (arena.discard other).Shows id frame := by
  rcases shown with ⟨same, found, alike⟩
  exact ⟨same, by rw [frame?_discard, if_neg apart, found], alike⟩

/-- With its last handle a frame that lies within a captured one goes alone. -/
theorem drop (apart : id ≠ other)
    (rooted : ∀ outer, arena.outer? other = some outer → arena.IsCaptured outer) :
    (arena.drop other).Shows id frame := by
  unfold Arena.drop release
  have lost : (arena.modifyFrame other Frame.loseHandle).Shows id frame :=
    shown.extend (.of_recount _ _ Frame.recounts_loseHandle)
  have rooted' {outer : FrameId}
      (step : (arena.modifyFrame other Frame.loseHandle).outer? other = some outer) :
      (arena.modifyFrame other Frame.loseHandle).IsCaptured outer := by
    rw [outer?_modifyFrame arena other Frame.recounts_loseHandle.outer] at step
    exact KeepsCaptured.modifyFrame arena other Frame.recounts_loseHandle.captured _
      (rooted outer step)
  generalize arena.modifyFrame other Frame.loseHandle = kept at *
  cases kept.frames.size with
  | zero => exact lost
  | succ limit =>
      rw [releaseWithin]
      split
      · exact lost
      · next found =>
          split
          · next unreferenced =>
              split
              · exact lost.discard apart
              · next outer outward =>
                  -- The outer frame stays, so that the release comes to its end there.
                  have free : ¬kept.IsCaptured other := by
                    refine not_isCaptured found ?_
                    simp [Frame.isUnreferenced] at unreferenced
                    exact unreferenced.2
                  have captured : kept.IsCaptured outer := rooted' (by simp [outer?, found, outward])
                  have stays := KeepsCaptured.modifyFrame _ outer
                    Frame.recounts_loseChild.captured _ (KeepsCaptured.discard free outer captured)
                  rw [releaseWithin_of_isCaptured limit stays]
                  exact (lost.discard apart).extend (.of_recount _ _ Frame.recounts_loseChild)
          · exact lost

end Shows

/-- The identity of the closure that an arena makes next. -/
def nextId (arena : Arena) : ClosureId :=
  ⟨arena.session, arena.closures⟩

@[simp]
theorem nextId_insert (frame : Frame) (arena : Arena) :
    (arena.insert frame).2.nextId = arena.nextId := by
  unfold insert
  split <;> rfl

@[simp]
theorem nextId_releaseWithin (limit : Nat) (id : FrameId) (arena : Arena) :
    (arena.releaseWithin limit id).nextId = arena.nextId := by
  induction limit generalizing id arena with
  | zero => rfl
  | succ limit ih =>
      rw [releaseWithin]
      split
      · rfl
      · split
        · split
          · rfl
          · exact ih _ _
        · rfl

/-- What holds of the frames of an arena with the given handles, whatever they count. -/
structure Coherent (arena : Arena) (held : List FrameId) : Prop extends arena.Nested where
  held_allocated : ∀ id ∈ held, arena.IsAllocated id
  home_captured : ∀ {id frame}, arena.frame? id = some frame →
    ∀ binding ∈ frame.bindings, ∀ home ∈ binding.2.home?, arena.IsCaptured home

namespace Coherent

variable {arena : Arena} {held : List FrameId} (coherent : arena.Coherent held)

include coherent in
theorem admits_of_lookup? {id : FrameId} {name : String} {value : Value}
    (found : arena.lookup? id name = some value) : arena.Admits value := by
  induction id using coherent.wellFounded.induction with
  | h id ih =>
      rw [lookup?_eq coherent.toNested] at found
      rcases Option.bind_eq_some_iff.mp found with ⟨frame, here, found⟩
      rcases Option.or_eq_some_iff.mp found with bound | ⟨_, outward⟩
      · exact coherent.home_captured here _ (Frame.mem_of_lookup? bound)
      · rcases Option.bind_eq_some_iff.mp outward with ⟨outer, step, found⟩
        exact ih outer (by simp [IsOuter, outer?, here, step]) found

include coherent in
/-- A change of one frame keeps the arena coherent if it keeps the outer frame and binds admitted
values. -/
theorem modifyFrame {id : FrameId} {change : Frame → Frame} {held' : List FrameId}
    (outer : ∀ frame, (change frame).outer = frame.outer)
    (captures : ∀ frame, frame.captured = true → (change frame).captured = true)
    (bindings : ∀ frame, ∀ binding ∈ (change frame).bindings,
      binding ∈ frame.bindings ∨ arena.Admits binding.2)
    (allocated : ∀ id ∈ held', arena.IsAllocated id) :
    (arena.modifyFrame id change).Coherent held' where
  toNested := coherent.toNested.modifyFrame id outer
  held_allocated other member := by simpa using allocated other member
  home_captured {other frame} found binding member home refers := by
    refine KeepsCaptured.modifyFrame arena id captures home ?_
    rw [frame?_modifyFrame] at found
    split at found
    · rcases Option.map_eq_some_iff.mp found with ⟨old, here, rfl⟩
      rcases bindings old binding member with before | admitted
      · exact coherent.home_captured here binding before home refers
      · exact admitted home refers
    · exact coherent.home_captured found binding member home refers

include coherent in
theorem extend {later : Arena} {id : FrameId} {outer : Option FrameId}
    (extended : arena.Extended id (Frame.fresh outer) later)
    (inUse : ∀ id ∈ outer, arena.IsAllocated id) : later.Coherent (id :: held) where
  toNested := coherent.toNested.extend extended inUse
  held_allocated := by
    refine List.forall_mem_cons.mpr ⟨isAllocated_iff.mpr ⟨_, extended.here⟩, ?_⟩
    exact fun other member => extended.isAllocated (coherent.held_allocated other member)
  home_captured {other frame} found binding member home refers := by
    rw [extended.frame?_eq] at found
    split at found
    · cases found
      simp [Frame.fresh] at member
    · exact KeepsCaptured.extend extended home
        (coherent.home_captured found binding member home refers)

include coherent in
theorem bind {value : Value} (admits : arena.Admits value) (id : FrameId) (name : String) :
    (arena.bind id name value).Coherent held := by
  refine coherent.modifyFrame (fun _ => rfl) (fun _ captured => captured) ?_
    coherent.held_allocated
  intro frame binding bound
  rcases Frame.mem_bindAmong bound with rfl | before
  · exact .inr admits
  · exact .inl before

include coherent in
theorem recount {id : FrameId} {change : Frame → Frame} {held' : List FrameId}
    (recounts : Frame.Recounts change) (allocated : ∀ id ∈ held', arena.IsAllocated id) :
    (arena.modifyFrame id change).Coherent held' := by
  refine coherent.modifyFrame recounts.outer recounts.captured (fun frame binding bound => ?_)
    allocated
  rw [recounts.bindings] at bound
  exact .inl bound

include coherent in
theorem capture (id : FrameId) : (arena.capture id).Coherent held :=
  coherent.recount Frame.recounts_capture coherent.held_allocated

theorem close {id : FrameId} (captured : (arena.capture id).Coherent held)
    (parameters : List Identifier) (body : Block) :
    (arena.close id parameters body).2.Coherent held :=
  ⟨⟨captured.outer_allocated, captured.wellFounded⟩, captured.held_allocated,
    captured.home_captured⟩

include coherent in
theorem of_subset {fewer : List FrameId} (subset : fewer ⊆ held) : arena.Coherent fewer :=
  { coherent with held_allocated := fun id member => coherent.held_allocated id (subset member) }

end Coherent

/-- Whether all frames of an arena bind values of one sort alone. -/
def BindsOnly (arena : Arena) (sort : Value → Prop) : Prop :=
  ∀ ⦃id frame⦄, arena.frame? id = some frame → ∀ binding ∈ frame.bindings, sort binding.2

namespace BindsOnly

variable {arena later : Arena} {sort : Value → Prop} (binds : arena.BindsOnly sort)

include binds

theorem partOf (part : later.PartOf arena) : later.BindsOnly sort := by
  intro id frame found binding member
  rcases part found with ⟨old, before, same, _⟩
  exact binds before binding (same ▸ member)

theorem bind {value : Value} (bound : sort value) (scope : FrameId) (name : String) :
    (arena.bind scope name value).BindsOnly sort := by
  intro id frame found binding member
  rcases of_frame?_modifyFrame _ _ _ found with ⟨old, here, rfl | rfl⟩
  · exact binds here binding member
  · rcases Frame.mem_bindAmong member with rfl | before
    · exact bound
    · exact binds here binding before

theorem enclose (home : FrameId) : (arena.enclose home).2.BindsOnly sort := by
  intro id frame found binding member
  rcases of_frame?_insert found with ⟨_, rfl⟩ | ⟨_, before⟩
  · cases member
  · exact binds.partOf (.recount arena home Frame.recounts_gainChild) before binding member

theorem of_lookupWithin {limit : Nat} {scope : FrameId} {name : String} {value : Value}
    (found : arena.lookupWithin name limit scope = some value) : sort value := by
  induction limit generalizing scope with
  | zero => simp [Arena.lookupWithin] at found
  | succ limit ih =>
      rw [lookupWithin_add_one] at found
      rcases Option.bind_eq_some_iff.mp found with ⟨frame, here, found⟩
      rcases Option.or_eq_some_iff.mp found with bound | ⟨_, outward⟩
      · exact binds here _ (Frame.mem_of_lookup? bound)
      · rcases Option.bind_eq_some_iff.mp outward with ⟨outer, _, found⟩
        exact ih found

end BindsOnly

end Monkey.Arena
