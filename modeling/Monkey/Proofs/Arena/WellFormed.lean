import Monkey.Proofs.Arena.Scopes

/-!
# Well-formed arenas

An arena is well-formed with respect to the handles that are held on its frames if the free
places are listed exactly, the counters of every frame count what they say, outer frames and the
homes of bound closures are in use, no frame lies within itself, and no frame stays without a
reference. Every operation keeps this, and none but a collection frees a captured frame.

Two things hold only between the steps of an operation. A frame may count an inner frame more
than it has, and one frame may be without a reference. `Linked` is what then still holds; it
lists the inner frames counted in excess by the frames that count them.
-/

namespace Monkey.Arena

/-- What holds of an arena with the given handles, but for frames without a reference and for the
inner frames counted in excess. -/
structure Linked (arena : Arena) (held owed : List FrameId) : Prop
    extends arena.ListsFree, arena.Coherent held where
  handles_eq : ∀ {id frame}, arena.frame? id = some frame → frame.handles = held.count id
  children_eq : ∀ {id frame}, arena.frame? id = some frame →
    frame.children = arena.childCount id + owed.count id

/-- What holds of an arena with the given handles. -/
structure WellFormed (arena : Arena) (held : List FrameId) : Prop extends arena.Linked held [] where
  referenced : ∀ {id frame}, arena.frame? id = some frame → frame.isUnreferenced = false

namespace Linked

variable {arena : Arena} {held owed : List FrameId} (linked : arena.Linked held owed)

include linked in
/-- A change of one frame keeps the arena linked if it keeps the outer frame, counts the handles
and the inner frames, and binds admitted values. -/
theorem modifyFrame {id : FrameId} {change : Frame → Frame} {held' owed' : List FrameId}
    (outer : ∀ frame, (change frame).outer = frame.outer)
    (captures : ∀ frame, frame.captured = true → (change frame).captured = true)
    (bindings : ∀ frame, ∀ binding ∈ (change frame).bindings,
      binding ∈ frame.bindings ∨ arena.Admits binding.2)
    (allocated : ∀ id ∈ held', arena.IsAllocated id)
    (counters : ∀ frame, arena.frame? id = some frame →
      (change frame).handles = held'.count id ∧
        (change frame).children = arena.childCount id + owed'.count id)
    (others : ∀ other, other ≠ id →
      held'.count other = held.count other ∧ owed'.count other = owed.count other) :
    (arena.modifyFrame id change).Linked held' owed' where
  toListsFree := linked.toListsFree.modifyFrame id change
  toCoherent := linked.toCoherent.modifyFrame outer captures bindings allocated
  handles_eq {other frame} found := by
    rw [frame?_modifyFrame] at found
    split at found
    · rename_i same
      rcases Option.map_eq_some_iff.mp found with ⟨old, here, rfl⟩
      subst same
      exact (counters old here).1
    · rename_i different
      rw [(others other different).1]
      exact linked.handles_eq found
  children_eq {other frame} found := by
    rw [childCount_modifyFrame arena id outer]
    rw [frame?_modifyFrame] at found
    split at found
    · rename_i same
      rcases Option.map_eq_some_iff.mp found with ⟨old, here, rfl⟩
      subst same
      exact (counters old here).2
    · rename_i different
      rw [(others other different).2]
      exact linked.children_eq found

include linked in
theorem recount {id : FrameId} {change : Frame → Frame} {held' owed' : List FrameId}
    (recounts : Frame.Recounts change) (allocated : ∀ id ∈ held', arena.IsAllocated id)
    (counters : ∀ frame, arena.frame? id = some frame →
      (change frame).handles = held'.count id ∧
        (change frame).children = arena.childCount id + owed'.count id)
    (others : ∀ other, other ≠ id →
      held'.count other = held.count other ∧ owed'.count other = owed.count other) :
    (arena.modifyFrame id change).Linked held' owed' := by
  refine linked.modifyFrame recounts.outer recounts.captured (fun frame binding bound => ?_)
    allocated counters others
  rw [recounts.bindings] at bound
  exact .inl bound

include linked in
theorem gainChild (id : FrameId) :
    (arena.modifyFrame id Frame.gainChild).Linked held (id :: owed) := by
  refine linked.recount Frame.recounts_gainChild linked.held_allocated (fun frame found => ?_)
    fun other different => ?_
  · have handles := linked.handles_eq found
    have children := linked.children_eq found
    simp only [Frame.gainChild, handles, children, List.count_cons_self, true_and]
    omega
  · exact ⟨rfl, List.count_cons_of_ne (Ne.symm different)⟩

include linked in
theorem loseHandle (id : FrameId) :
    (arena.modifyFrame id Frame.loseHandle).Linked (held.erase id) owed := by
  refine linked.recount Frame.recounts_loseHandle
    (fun other member => linked.held_allocated other (List.mem_of_mem_erase member))
    (fun frame found => ?_) fun other different => ?_
  · have handles := linked.handles_eq found
    have children := linked.children_eq found
    simp [Frame.loseHandle, handles, children, List.count_erase_self]
  · exact ⟨List.count_erase_of_ne different, rfl⟩

end Linked

theorem Linked.loseChild {arena : Arena} {held owed : List FrameId} {id : FrameId}
    (linked : arena.Linked held (id :: owed)) :
    (arena.modifyFrame id Frame.loseChild).Linked held owed := by
  refine linked.recount Frame.recounts_loseChild linked.held_allocated (fun frame found => ?_)
    fun other different => ?_
  · have handles := linked.handles_eq found
    have children := linked.children_eq found
    simp only [Frame.loseChild, handles, children, List.count_cons_self, true_and]
    omega
  · exact ⟨rfl, (List.count_cons_of_ne (Ne.symm different)).symm⟩

/-- A new frame takes the inner frame that its outer frame counts in excess. -/
theorem Linked.insert {arena : Arena} {held : List FrameId} (outer : Option FrameId)
    (linked : arena.Linked held outer.toList) (allocated : ∀ id ∈ outer, arena.IsAllocated id) :
    (arena.insert (Frame.fresh outer)).2.Linked
      ((arena.insert (Frame.fresh outer)).1 :: held) [] := by
  have lists := linked.toListsFree
  have extended := lists.extended (Frame.fresh outer)
  have children := childCount_insert lists (Frame.fresh outer)
  have coherent := linked.toCoherent.extend extended allocated
  refine ⟨lists.insert _, coherent, fun {id frame} found => ?_, fun {id frame} found => ?_⟩
  · rw [extended.frame?_eq] at found
    split at found
    · rename_i same
      cases found
      have unheld : held.count (arena.insert (Frame.fresh outer)).1 = 0 :=
        List.count_eq_zero.mpr fun member => extended.ne (linked.held_allocated _ member) rfl
      rw [same, List.count_cons_self, unheld]
      rfl
    · rename_i old
      rw [List.count_cons_of_ne (Ne.symm old)]
      exact linked.handles_eq found
  · rw [children]
    rw [extended.frame?_eq] at found
    split at found
    · rename_i same
      cases found
      have not_outer : outer ≠ some id := fun within => extended.ne (allocated id within) same
      have childless : arena.childCount id = 0 := by
        rw [childCount_eq_zero_iff]
        intro inner step
        exact extended.ne (linked.outer_allocated step) same
      simp [Frame.fresh, not_outer, childless]
    · have counted := linked.children_eq found
      cases outer with
      | none => simpa [Frame.fresh] using counted
      | some outer =>
          simp only [Frame.fresh, counted, Option.toList_some, List.count_cons, List.count_nil,
            Option.some.injEq, beq_iff_eq]
          omega

theorem Linked.discard {arena : Arena} {held : List FrameId} {id : FrameId} {frame : Frame}
    (linked : arena.Linked held []) (found : arena.frame? id = some frame)
    (unreferenced : frame.isUnreferenced = true) :
    (arena.discard id).Linked held frame.outer.toList := by
  simp only [Frame.isUnreferenced, Bool.and_eq_true, beq_iff_eq, Bool.not_eq_true'] at unreferenced
  rcases unreferenced with ⟨⟨noHandles, noChildren⟩, notCaptured⟩
  have allocated : arena.IsAllocated id := by simp [IsAllocated, found]
  have unheld : id ∉ held := by
    rw [← List.count_eq_zero, ← linked.handles_eq found, noHandles]
  have childless : arena.childCount id = 0 := by
    have counted := linked.children_eq found
    simpa [noChildren] using counted.symm
  have free := not_isCaptured found notCaptured
  refine ⟨linked.toListsFree.discard allocated,
    ⟨linked.toNested.discard childless, ?_, ?_⟩, ?_, ?_⟩
  · intro other member
    have different : other ≠ id := fun same => unheld (same ▸ member)
    rw [IsAllocated, frame?_discard, if_neg different]
    exact linked.held_allocated other member
  · intro other old still binding member home refers
    exact KeepsCaptured.discard free home
      (linked.home_captured (of_frame?_discard still).2 binding member home refers)
  · intro other old still
    exact linked.handles_eq (of_frame?_discard still).2
  · intro other old still
    have counted := linked.children_eq (of_frame?_discard still).2
    have changed := childCount_discard allocated other
    have outer : arena.outer? id = frame.outer := by simp [outer?, found]
    rw [outer] at changed
    rw [counted, ← changed]
    cases frame.outer <;> simp [List.count_cons]

/-- No frame is in use if as many places are free as there are. -/
theorem ListsFree.not_isAllocated {arena : Arena} (lists : arena.ListsFree)
    (full : arena.frames.size ≤ arena.free.length) (id : FrameId) : ¬arena.IsAllocated id := by
  intro allocated
  have inside := slot_lt_of_isAllocated allocated
  have unlisted : id.slot ∉ arena.free := by
    intro listed
    have empty := ((lists.mem_free id.slot).mp listed).2
    simp [IsAllocated, empty] at allocated
  have subset : id.slot :: arena.free ⊆ List.range arena.frames.size := by
    refine List.cons_subset.mpr ⟨by simpa using inside, fun slot listed => ?_⟩
    simpa using ((lists.mem_free slot).mp listed).1
  have bound := (List.subperm_of_subset
    (List.nodup_cons.mpr ⟨unlisted, lists.nodup_free⟩) subset).length_le
  simp only [List.length_cons, List.length_range] at bound
  omega

/-- Whether no frame but at most the given one is without a reference. -/
def ReferencedExcept (arena : Arena) (id : FrameId) : Prop :=
  ∀ ⦃other frame⦄, other ≠ id → arena.frame? other = some frame → frame.isUnreferenced = false

theorem Linked.wellFormed {arena : Arena} {held : List FrameId} {id : FrameId}
    (linked : arena.Linked held []) (others : arena.ReferencedExcept id)
    (here : ∀ frame, arena.frame? id = some frame → frame.isUnreferenced = false) :
    arena.WellFormed held := by
  refine ⟨linked, fun {other frame} found => ?_⟩
  by_cases same : other = id
  · exact here frame (same ▸ found)
  · exact others same found

theorem ReferencedExcept.modifyFrame {arena : Arena} {id : FrameId} (change : Frame → Frame)
    (referenced : ∀ {other frame}, arena.frame? other = some frame →
      frame.isUnreferenced = false) :
    (arena.modifyFrame id change).ReferencedExcept id := by
  intro other frame different found
  rw [frame?_modifyFrame, if_neg different] at found
  exact referenced found

/-- A release leaves no frame without a reference if at most the frame it starts at has none, and
if it may free as many frames as there are places in use. -/
theorem Linked.releaseWithin {held : List FrameId} (limit : Nat) {id : FrameId} {arena : Arena}
    (linked : arena.Linked held []) (others : arena.ReferencedExcept id)
    (enough : arena.frames.size ≤ limit + arena.free.length) :
    (arena.releaseWithin limit id).WellFormed held ∧
      arena.KeepsCaptured (arena.releaseWithin limit id) := by
  induction limit generalizing id arena with
  | zero =>
      refine ⟨linked.wellFormed others fun frame found => ?_, .refl arena⟩
      have none := linked.toListsFree.not_isAllocated (by omega) id
      simp [IsAllocated, found] at none
  | succ limit ih =>
      rw [Arena.releaseWithin]
      cases found : arena.frame? id with
      | none =>
          refine ⟨linked.wellFormed others fun frame here => ?_, .refl arena⟩
          simp [found] at here
      | some frame =>
          cases unreferenced : frame.isUnreferenced with
          | false =>
              simp only [unreferenced, Bool.false_eq_true, if_false]
              refine ⟨linked.wellFormed others fun other here => ?_, .refl arena⟩
              rw [found] at here
              cases here
              exact unreferenced
          | true =>
              simp only [unreferenced, if_true]
              have discarded := linked.discard found unreferenced
              have free : ¬arena.IsCaptured id := by
                refine not_isCaptured found ?_
                simp [Frame.isUnreferenced] at unreferenced
                exact unreferenced.2
              have rest : ∀ {other old}, (arena.discard id).frame? other = some old →
                  old.isUnreferenced = false := fun still =>
                others (of_frame?_discard still).1 (of_frame?_discard still).2
              cases outward : frame.outer with
              | none =>
                  rw [outward] at discarded
                  exact ⟨⟨discarded, rest⟩, .discard free⟩
              | some outer =>
                  rw [outward] at discarded
                  have room :
                      ((arena.discard id).modifyFrame outer Frame.loseChild).frames.size ≤ limit +
                        ((arena.discard id).modifyFrame outer Frame.loseChild).free.length := by
                    simp only [size_modifyFrame, free_modifyFrame, Arena.discard,
                      Array.size_setIfInBounds, List.length_cons]
                    omega
                  have released := ih discarded.loseChild (.modifyFrame _ rest) room
                  refine ⟨released.1, (KeepsCaptured.discard free).trans (.trans ?_ released.2)⟩
                  exact .modifyFrame _ outer Frame.recounts_loseChild.captured

namespace WellFormed

theorem start (session : Nat) :
    (Arena.start session).2.WellFormed [(Arena.start session).1] := by
  have none : ∀ id, (Arena.empty session).frame? id = none := by
    simp [frame?_eq, Arena.empty]
  have lists : (Arena.empty session).ListsFree := ⟨List.nodup_nil, by simp [Arena.empty]⟩
  have nested : (Arena.empty session).Nested := by
    refine ⟨fun step => ?_, ⟨fun id => ⟨_, fun outer step => ?_⟩⟩⟩
    · simp [outer?, none] at step
    · simp [IsOuter, outer?, none] at step
  have linked : (Arena.empty session).Linked [] [] := by
    refine ⟨lists, ⟨nested, by simp, ?_⟩, ?_, ?_⟩ <;> simp [none]
  have inserted := Linked.insert .none linked (by simp)
  refine ⟨inserted, fun {id frame} found => ?_⟩
  have fresh := lists.frame?_insert (Frame.fresh .none) id
  rw [none id] at fresh
  rw [Arena.start, fresh] at found
  split at found
  · cases found
    rfl
  · cases found

variable {arena : Arena} {held : List FrameId} (wellFormed : arena.WellFormed held)

include wellFormed in
/-- A frame that a change does not leave without a reference stays referenced. -/
theorem referenced_modifyFrame {id : FrameId} {change : Frame → Frame}
    (keeps : ∀ frame, frame.isUnreferenced = false → (change frame).isUnreferenced = false)
    {other : FrameId} {frame : Frame}
    (found : (arena.modifyFrame id change).frame? other = some frame) :
    frame.isUnreferenced = false := by
  rw [frame?_modifyFrame] at found
  split at found
  · rcases Option.map_eq_some_iff.mp found with ⟨old, here, rfl⟩
    exact keeps old (wellFormed.referenced here)
  · exact wellFormed.referenced found

include wellFormed in
theorem share {id : FrameId} (member : id ∈ held) : (arena.share id).WellFormed (id :: held) := by
  refine ⟨wellFormed.toLinked.recount Frame.recounts_gainHandle ?_ (fun frame found => ?_)
    fun other different => ?_, ?_⟩
  · exact List.forall_mem_cons.mpr
      ⟨wellFormed.held_allocated id member, wellFormed.held_allocated⟩
  · simp [Frame.gainHandle, wellFormed.handles_eq found, wellFormed.children_eq found]
  · exact ⟨List.count_cons_of_ne (Ne.symm different), rfl⟩
  · refine wellFormed.referenced_modifyFrame fun frame _ => ?_
    simp [Frame.gainHandle, Frame.isUnreferenced]

include wellFormed in
theorem enclose {outer : FrameId} (allocated : arena.IsAllocated outer) :
    (arena.enclose outer).2.WellFormed ((arena.enclose outer).1 :: held) := by
  have counted := wellFormed.toLinked.gainChild outer
  refine ⟨Linked.insert (.some outer) counted ?_, fun {id frame} found => ?_⟩
  · rintro id ⟨⟩
    simpa using allocated
  · rw [Arena.enclose, counted.toListsFree.frame?_insert] at found
    split at found
    · cases found
      rfl
    · refine wellFormed.referenced_modifyFrame (fun frame _ => ?_) found
      simp [Frame.gainChild, Frame.isUnreferenced]

include wellFormed in
theorem capture (id : FrameId) : (arena.capture id).WellFormed held := by
  refine ⟨wellFormed.toLinked.recount Frame.recounts_capture wellFormed.held_allocated
    (fun frame found => ?_) (fun _ _ => ⟨rfl, rfl⟩), ?_⟩
  · simp [Frame.capture, wellFormed.handles_eq found, wellFormed.children_eq found]
  · refine wellFormed.referenced_modifyFrame fun frame _ => ?_
    simp [Frame.capture, Frame.isUnreferenced]

include wellFormed in
theorem close (id : FrameId) (parameters : List Identifier) (body : Block) :
    (arena.close id parameters body).2.WellFormed held := by
  have captured := wellFormed.capture id
  have lists : (arena.close id parameters body).2.ListsFree :=
    ⟨captured.nodup_free, captured.mem_free⟩
  exact ⟨⟨lists, captured.toCoherent.close parameters body, captured.handles_eq,
    captured.children_eq⟩, captured.referenced⟩

include wellFormed in
theorem bind {id : FrameId} {name : String} {value : Value} (admits : arena.Admits value) :
    (arena.bind id name value).WellFormed held := by
  refine ⟨wellFormed.toLinked.modifyFrame (fun _ => rfl) (fun _ captured => captured)
    (fun frame binding bound => ?_) wellFormed.held_allocated (fun frame found => ?_)
    (fun _ _ => ⟨rfl, rfl⟩), ?_⟩
  · rcases Frame.mem_bindAmong bound with rfl | before
    · exact .inr admits
    · exact .inl before
  · simp [Frame.bind, wellFormed.handles_eq found, wellFormed.children_eq found]
  · refine wellFormed.referenced_modifyFrame fun frame kept => ?_
    exact kept

include wellFormed in
/-- A dropped handle takes the frames with it that nothing refers to any more, and no captured
one among them. -/
theorem drop (id : FrameId) :
    (arena.drop id).WellFormed (held.erase id) ∧ arena.KeepsCaptured (arena.drop id) := by
  have linked := wellFormed.toLinked.loseHandle id
  have others : (arena.modifyFrame id Frame.loseHandle).ReferencedExcept id :=
    .modifyFrame Frame.loseHandle wellFormed.referenced
  have released := linked.releaseWithin arena.frames.size others (by simp)
  have keeps : arena.KeepsCaptured (arena.modifyFrame id Frame.loseHandle) :=
    .modifyFrame arena id Frame.recounts_loseHandle.captured
  rw [Arena.drop, release, size_modifyFrame]
  exact ⟨released.1, keeps.trans released.2⟩

end WellFormed

end Monkey.Arena
