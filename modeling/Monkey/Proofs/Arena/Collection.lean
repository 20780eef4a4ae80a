import Mathlib.Data.List.TakeWhile
import Monkey.Proofs.Arena.WellFormed

/-!
# Collections

A collection frees exactly the frames that cannot be reached from a frame with a handle or from
the given values. What is left is well-formed: every reference of a frame that stays leads to a
frame that stays, and the frames that stay lose just the inner frames that go.
-/

namespace Monkey.Arena

/-- The frames that can be reached from frames with a handle and from values. -/
inductive Reachable (arena : Arena) (values : List Value) : FrameId → Prop where
  | held {id : FrameId} {frame : Frame} (found : arena.frame? id = some frame)
      (handle : 0 < frame.handles) : Reachable arena values id
  | value {value : Value} {home : FrameId} (member : value ∈ values)
      (refers : home ∈ value.home?) : Reachable arena values home
  | reference {id next : FrameId} (from_ : Reachable arena values id)
      (refers : next ∈ arena.references id) : Reachable arena values next

theorem mem_references {arena : Arena} {id next : FrameId} :
    next ∈ arena.references id ↔ ∃ frame, arena.frame? id = some frame ∧
      (frame.outer = some next ∨ ∃ binding ∈ frame.bindings, next ∈ binding.2.home?) := by
  unfold references
  cases arena.frame? id with
  | none => simp
  | some frame => simp [Frame.references, Option.mem_def]

section Mark

variable {arena : Arena}

theorem size_markWithin (limit : Nat) (pending : List FrameId) (marks : Array Bool) :
    (arena.markWithin limit pending marks).size = marks.size := by
  induction limit generalizing pending marks with
  | zero => rfl
  | succ limit ih =>
      rw [markWithin]
      split
      · rfl
      · rw [ih, Array.size_setIfInBounds]

/-- Marking stays within what is closed under references. -/
theorem markWithin_sound {inside : FrameId → Prop}
    (closed : ∀ id, inside id → ∀ next ∈ arena.references id, inside next) (limit : Nat)
    {pending : List FrameId} {marks : Array Bool} (ofPending : ∀ id ∈ pending, inside id)
    (ofMarks : ∀ id : FrameId, marks[id.slot]? = some true → inside id) {id : FrameId}
    (marked : (arena.markWithin limit pending marks)[id.slot]? = some true) : inside id := by
  induction limit generalizing pending marks with
  | zero => exact ofMarks id marked
  | succ limit ih =>
      rw [markWithin] at marked
      split at marked
      · exact ofMarks id marked
      · rename_i next rest shape
        have fromPending : ∀ other ∈ next :: rest, other ∈ pending := by
          intro other member
          rw [← shape] at member
          exact (List.dropWhile_sublist _).mem member
        have ofNext := ofPending next (fromPending next (by simp))
        refine ih ?_ ?_ marked
        · intro other member
          rcases List.mem_append.mp member with referred | later
          · exact closed next ofNext other referred
          · exact ofPending other (fromPending other (by simp [later]))
        · intro other found
          rw [Array.getElem?_setIfInBounds] at found
          split at found
          · rename_i same
            rcases next with ⟨slot⟩
            rcases other with ⟨otherSlot⟩
            simp only at same
            exact same ▸ ofNext
          · exact ofMarks other found

theorem getD_eq_true_iff {marks : Array Bool} {slot : Nat} :
    marks.getD slot true = true ↔ marks[slot]? ≠ some false := by
  rw [Array.getD_eq_getD_getElem?]
  cases marks[slot]? with
  | none => simp
  | some mark => cases mark <;> simp

theorem eq_some_true {marks : Array Bool} {slot : Nat} (inside : slot < marks.size)
    (marked : marks[slot]? ≠ some false) : marks[slot]? = some true := by
  rw [Array.getElem?_eq_getElem inside] at marked ⊢
  simpa using marked

theorem count_setIfInBounds {marks : Array Bool} {slot : Nat}
    (unmarked : marks[slot]? = some false) :
    (marks.setIfInBounds slot true).count false + 1 = marks.count false := by
  rcases Array.getElem?_eq_some_iff.mp unmarked with ⟨inside, value⟩
  have positive := Array.count_pos_iff.mpr (Array.mem_of_getElem? unmarked)
  rw [Array.setIfInBounds, dif_pos inside, Array.count_set inside]
  simp [value]
  omega

theorem of_dropWhile_eq_cons {marks : Array Bool} {pending rest : List FrameId} {first : FrameId}
    (shape : pending.dropWhile (fun id => marks.getD id.slot true) = first :: rest) :
    marks[first.slot]? = some false ∧
      ∀ id ∈ pending, marks[id.slot]? ≠ some false ∨ id = first ∨ id ∈ rest := by
  constructor
  · have unmarked := List.head?_dropWhile_not (fun id => marks.getD id.slot true) pending
    rw [shape, List.head?_cons] at unmarked
    by_contra marked
    simp [getD_eq_true_iff.mpr marked] at unmarked
  · intro id member
    rw [← List.takeWhile_append_dropWhile (l := pending) (p := fun id => marks.getD id.slot true),
      shape, List.mem_append, List.mem_cons] at member
    rcases member with skipped | here
    · have marked := List.mem_takeWhile_imp skipped
      exact .inl (getD_eq_true_iff.mp marked)
    · exact .inr here

theorem setIfInBounds_ne_some_false {marks : Array Bool} {slot other : Nat}
    (marked : other = slot ∨ marks[other]? ≠ some false) :
    (marks.setIfInBounds slot true)[other]? ≠ some false := by
  rw [Array.getElem?_setIfInBounds]
  split
  · split <;> simp
  · rename_i different
    exact marked.resolve_left fun same => different same.symm

/-- Marking goes on until every pending place, and every place that a marked frame refers to, is
marked or lies outside the arena. -/
theorem markWithin_complete (limit : Nat) (pending : List FrameId) (marks : Array Bool)
    (enough : marks.count false ≤ limit)
    (closed : ∀ id : FrameId, marks[id.slot]? = some true → ∀ next ∈ arena.references id,
      marks[next.slot]? ≠ some false ∨ next ∈ pending) :
    (∀ id : FrameId, marks[id.slot]? ≠ some false ∨ id ∈ pending →
      (arena.markWithin limit pending marks)[id.slot]? ≠ some false) ∧
    (∀ id : FrameId, (arena.markWithin limit pending marks)[id.slot]? = some true →
      ∀ next ∈ arena.references id,
        (arena.markWithin limit pending marks)[next.slot]? ≠ some false) := by
  induction limit generalizing pending marks with
  | zero =>
      have allMarked : ∀ slot : Nat, marks[slot]? ≠ some false := by
        intro slot unmarked
        have member := Array.mem_of_getElem? unmarked
        have positive := Array.count_pos_iff.mpr member
        omega
      exact ⟨fun id _ => allMarked id.slot, fun id _ next _ => allMarked next.slot⟩
  | succ limit ih =>
      rw [markWithin]
      cases shape : pending.dropWhile fun id => marks.getD id.slot true with
      | nil =>
          have marked : ∀ id ∈ pending, marks[id.slot]? ≠ some false := by
            intro id member
            exact getD_eq_true_iff.mp (List.dropWhile_eq_nil_iff.mp shape id member)
          refine ⟨fun id either => either.elim (fun done => done) (marked id), ?_⟩
          intro id found next refers
          exact (closed id found next refers).elim (fun done => done) (marked next)
      | cons first rest =>
          rcases of_dropWhile_eq_cons shape with ⟨unmarked, ofPending⟩
          have counted := count_setIfInBounds unmarked
          -- What was marked or pending before this step is so after it.
          have kept : ∀ id : FrameId, marks[id.slot]? ≠ some false ∨ id ∈ pending →
              (marks.setIfInBounds first.slot true)[id.slot]? ≠ some false ∨
                id ∈ arena.references first ++ rest := by
            intro id either
            rcases either with marked | member
            · exact .inl (setIfInBounds_ne_some_false (.inr marked))
            · rcases ofPending id member with marked | rfl | later
              · exact .inl (setIfInBounds_ne_some_false (.inr marked))
              · exact .inl (setIfInBounds_ne_some_false (.inl rfl))
              · exact .inr (List.mem_append_right _ later)
          have closed' : ∀ id : FrameId,
              (marks.setIfInBounds first.slot true)[id.slot]? = some true →
              ∀ next ∈ arena.references id,
                (marks.setIfInBounds first.slot true)[next.slot]? ≠ some false ∨
                  next ∈ arena.references first ++ rest := by
            intro id found next refers
            rw [Array.getElem?_setIfInBounds] at found
            split at found
            · rename_i same
              have equal : first = id := by
                rcases first with ⟨slot⟩
                rcases id with ⟨other⟩
                exact congrArg FrameId.mk same
              exact .inr (List.mem_append_left _ (equal ▸ refers))
            · exact kept next (closed id found next refers)
          have marked := ih _ _ (by omega) closed'
          exact ⟨fun id either => marked.1 id (kept id either), marked.2⟩

/-- The marked places are those that can be reached. -/
theorem mark_eq_true_iff (arena : Arena) (values : List Value) (id : FrameId) :
    (arena.mark values)[id.slot]? = some true ↔
      id.slot < arena.frames.size ∧ arena.Reachable values id := by
  have size : (arena.mark values).size = arena.frames.size := by
    rw [mark, size_markWithin, Array.size_replicate]
  have unmarked : ∀ id : FrameId,
      (Array.replicate arena.frames.size false)[id.slot]? ≠ some true := by
    intro id
    rw [Array.getElem?_replicate]
    split <;> simp
  constructor
  · intro marked
    refine ⟨?_, ?_⟩
    · rw [← size]
      exact (Array.getElem?_eq_some_iff.mp marked).1
    · refine markWithin_sound (fun id reached next refers => reached.reference refers)
        arena.frames.size ?_ (fun id found => absurd found (unmarked id)) marked
      intro id member
      rcases List.mem_append.mp member with held | referred
      · have handle := (List.mem_filter.mp held).2
        unfold isHeld at handle
        split at handle
        · rename_i frame found
          exact .held found (by simpa using handle)
        · cases handle
      · rcases List.mem_filterMap.mp referred with ⟨value, member, refers⟩
        exact .value member refers
  · rintro ⟨inside, reached⟩
    have complete := arena.markWithin_complete arena.frames.size
      (arena.places.filter arena.isHeld ++ values.filterMap Value.home?)
      (Array.replicate arena.frames.size false) (by simp)
      (fun id found => absurd found (unmarked id))
    refine eq_some_true (by rwa [size]) ?_
    induction reached with
    | @held id frame found handle =>
        refine complete.1 id (.inr (List.mem_append_left _ (List.mem_filter.mpr ⟨?_, ?_⟩)))
        · exact mem_places.mpr inside
        · simpa [isHeld, found] using handle
    | @value value home member refers =>
        refine complete.1 home (.inr (List.mem_append_right _ ?_))
        exact List.mem_filterMap.mpr ⟨value, member, refers⟩
    | @reference id next _ refers ih =>
        have allocated : arena.IsAllocated id := by
          rcases mem_references.mp refers with ⟨frame, found, _⟩
          simp [IsAllocated, found]
        have inArena := slot_lt_of_isAllocated allocated
        have marked := eq_some_true (by rwa [size]) (ih inArena)
        exact complete.2 id marked next refers

theorem mem_unmarked (values : List Value) (id : FrameId) :
    id ∈ arena.unmarked (arena.mark values) ↔
      arena.IsAllocated id ∧ ¬arena.Reachable values id := by
  have marked := mark_eq_true_iff arena values id
  have size : (arena.mark values).size = arena.frames.size := by
    rw [mark, size_markWithin, Array.size_replicate]
  simp only [unmarked, List.mem_filter, Bool.and_eq_true, Bool.not_eq_true', mem_places]
  constructor
  · rintro ⟨inside, allocated, notMarked⟩
    refine ⟨allocated, fun reached => ?_⟩
    rw [Array.getD_eq_getD_getElem?, marked.mpr ⟨inside, reached⟩] at notMarked
    cases notMarked
  · rintro ⟨allocated, unreachable⟩
    have inside := slot_lt_of_isAllocated allocated
    refine ⟨inside, allocated, ?_⟩
    by_contra found
    have isMarked := getD_eq_true_iff.mp (Bool.not_eq_false _ ▸ found)
    exact unreachable (marked.mp (eq_some_true (by rwa [size]) isMarked)).2

theorem nodup_unmarked (marks : Array Bool) : (arena.unmarked marks).Nodup :=
  (nodup_places arena).filter _

end Mark

section Discard

variable {arena : Arena}

theorem frame?_foldl_discard (ids : List FrameId) (arena : Arena) (other : FrameId) :
    (ids.foldl (fun arena id => arena.discard id) arena).frame? other =
      if other ∈ ids then none else arena.frame? other := by
  induction ids generalizing arena with
  | nil => simp
  | cons id ids ih =>
      rw [List.foldl_cons, ih, frame?_discard]
      by_cases same : other = id <;> simp [same]

theorem places_foldl_discard (ids : List FrameId) (arena : Arena) :
    (ids.foldl (fun arena id => arena.discard id) arena).places = arena.places := by
  induction ids generalizing arena with
  | nil => rfl
  | cons id ids ih => rw [List.foldl_cons, ih, places_discard]

theorem ListsFree.foldl_discard {ids : List FrameId} (lists : arena.ListsFree) (nodup : ids.Nodup)
    (allocated : ∀ id ∈ ids, arena.IsAllocated id) :
    (ids.foldl (fun arena id => arena.discard id) arena).ListsFree := by
  induction ids generalizing arena with
  | nil => exact lists
  | cons id ids ih =>
      rw [List.nodup_cons] at nodup
      rw [List.forall_mem_cons] at allocated
      refine ih (lists.discard allocated.1) nodup.2 fun other member => ?_
      have different : other ≠ id := fun same => nodup.1 (same ▸ member)
      rw [IsAllocated, frame?_discard, if_neg different]
      exact allocated.2 other member

/-- A frame that counts some inner frames less. -/
def withoutChildren (count : Nat) (frame : Frame) : Frame :=
  { frame with children := frame.children - count }

theorem frame?_foldl_loseChild (outers : List FrameId) (arena : Arena) (other : FrameId) :
    (outers.foldl (fun arena outer => arena.modifyFrame outer Frame.loseChild) arena).frame? other =
      (arena.frame? other).map (withoutChildren (outers.count other)) := by
  induction outers generalizing arena with
  | nil =>
      rw [List.foldl_nil]
      cases arena.frame? other <;> rfl
  | cons outer outers ih =>
      rw [List.foldl_cons, ih, frame?_modifyFrame]
      by_cases same : other = outer
      · subst same
        simp only [if_true, List.count_cons_self, Option.map_map]
        congr 1
        funext frame
        simp only [Function.comp_apply, withoutChildren, Frame.loseChild]
        congr 1
        omega
      · rw [if_neg same, List.count_cons_of_ne (Ne.symm same)]

theorem places_foldl_loseChild (outers : List FrameId) (arena : Arena) :
    (outers.foldl (fun arena outer => arena.modifyFrame outer Frame.loseChild) arena).places =
      arena.places := by
  induction outers generalizing arena with
  | nil => rfl
  | cons outer outers ih => rw [List.foldl_cons, ih, places_modifyFrame]

theorem ListsFree.foldl_loseChild (outers : List FrameId) (lists : arena.ListsFree) :
    (outers.foldl (fun arena outer => arena.modifyFrame outer Frame.loseChild)
      arena).ListsFree := by
  induction outers generalizing arena with
  | nil => exact lists
  | cons outer outers ih => exact ih (lists.modifyFrame outer Frame.loseChild)

/-- The number of the given frames that lie in a frame. -/
def childrenAmong (arena : Arena) (ids : List FrameId) (id : FrameId) : Nat :=
  ids.countP fun inner => arena.outer? inner == some id

theorem frame?_discardAll (ids : List FrameId) (arena : Arena) (other : FrameId) :
    (arena.discardAll ids).frame? other =
      if other ∈ ids then none
      else (arena.frame? other).map (withoutChildren (arena.childrenAmong ids other)) := by
  have counted : (ids.filterMap fun id => (arena.frame? id).bind Frame.outer).count other =
      arena.childrenAmong ids other := by
    rw [List.count_filterMap]
    rfl
  rw [discardAll, frame?_foldl_loseChild, frame?_foldl_discard, counted]
  split <;> rfl

theorem outer?_discardAll (ids : List FrameId) (arena : Arena) (other : FrameId) :
    (arena.discardAll ids).outer? other = if other ∈ ids then none else arena.outer? other := by
  simp only [outer?, frame?_discardAll]
  split
  · rfl
  · cases arena.frame? other <;> rfl

theorem places_discardAll (ids : List FrameId) (arena : Arena) :
    (arena.discardAll ids).places = arena.places := by
  rw [discardAll, places_foldl_loseChild, places_foldl_discard]

theorem nextId_foldl {α : Type} (items : List α) {change : Arena → α → Arena}
    (keeps : ∀ arena item, (change arena item).nextId = arena.nextId) (arena : Arena) :
    (items.foldl change arena).nextId = arena.nextId := by
  induction items generalizing arena with
  | nil => rfl
  | cons item items ih => rw [List.foldl_cons, ih, keeps]

theorem nextId_discardAll (ids : List FrameId) (arena : Arena) :
    (arena.discardAll ids).nextId = arena.nextId := by
  rw [discardAll, nextId_foldl, nextId_foldl]
  · exact fun _ _ => rfl
  · exact fun _ _ => rfl

theorem ListsFree.discardAll {ids : List FrameId} (lists : arena.ListsFree) (nodup : ids.Nodup)
    (allocated : ∀ id ∈ ids, arena.IsAllocated id) : (arena.discardAll ids).ListsFree :=
  (lists.foldl_discard nodup allocated).foldl_loseChild _

end Discard

namespace WellFormed

variable {arena : Arena} {held : List FrameId} (wellFormed : arena.WellFormed held)
  (values : List Value)

theorem frame?_collect (id : FrameId) :
    (arena.collect values).2.frame? id =
      if id ∈ arena.unmarked (arena.mark values) then none
      else (arena.frame? id).map
        (withoutChildren (arena.childrenAmong (arena.unmarked (arena.mark values)) id)) :=
  frame?_discardAll _ arena id

theorem mem_unmarked_iff {id : FrameId} (allocated : arena.IsAllocated id) :
    id ∈ arena.unmarked (arena.mark values) ↔ ¬arena.Reachable values id := by
  rw [mem_unmarked]
  exact and_iff_right allocated

/-- The frames left by a collection are those that can be reached. -/
theorem isAllocated_collect (arena : Arena) (values : List Value) (id : FrameId) :
    (arena.collect values).2.IsAllocated id ↔
      arena.IsAllocated id ∧ arena.Reachable values id := by
  rw [IsAllocated, frame?_collect]
  by_cases allocated : arena.IsAllocated id
  · have unmarked := mem_unmarked_iff values allocated
    by_cases reached : arena.Reachable values id
    · rw [if_neg (fun member => unmarked.mp member reached), Option.isSome_map]
      exact ⟨fun _ => ⟨allocated, reached⟩, fun _ => allocated⟩
    · rw [if_pos (unmarked.mpr reached)]
      simp [reached]
  · have none : arena.frame? id = none := by simpa [IsAllocated] using allocated
    simp [none, allocated]

theorem isCaptured_collect {id : FrameId} (captured : arena.IsCaptured id)
    (reached : arena.Reachable values id) : (arena.collect values).2.IsCaptured id := by
  have unmarked := mem_unmarked_iff values captured.isAllocated
  rcases captured with ⟨frame, found, captured⟩
  have remains : (arena.collect values).2.frame? id = some (withoutChildren
      (arena.childrenAmong (arena.unmarked (arena.mark values)) id) frame) := by
    rw [frame?_collect, if_neg (fun member => unmarked.mp member reached), found]
    rfl
  exact ⟨_, remains, captured⟩

theorem outer?_collect (id : FrameId) :
    (arena.collect values).2.outer? id =
      if id ∈ arena.unmarked (arena.mark values) then none else arena.outer? id :=
  outer?_discardAll _ arena id

theorem childCount_collect (arena : Arena) (values : List Value) (id : FrameId) :
    arena.childCount id = arena.childrenAmong (arena.unmarked (arena.mark values)) id +
      (arena.collect values).2.childCount id := by
  have places : (arena.collect values).2.places = arena.places := places_discardAll _ arena
  rw [childCount, childCount, childrenAmong, places, unmarked,
    List.countP_eq_countP_filter_add arena.places _
      fun id => (arena.frame? id).isSome && !(arena.mark values).getD id.slot true]
  congr 1
  rw [List.countP_filter]
  apply List.countP_congr
  intro inner member
  rw [outer?_collect, unmarked]
  simp only [List.mem_filter, member, true_and]
  cases (arena.frame? inner).isSome && !(arena.mark values).getD inner.slot true <;> simp

/-- A frame that stays is a frame of before that can be reached, less the inner frames that are
gone. -/
theorem of_frame?_collect {id : FrameId} {frame : Frame}
    (found : (arena.collect values).2.frame? id = some frame) :
    arena.Reachable values id ∧ ∃ before, arena.frame? id = some before ∧
      frame = withoutChildren
        (arena.childrenAmong (arena.unmarked (arena.mark values)) id) before := by
  have allocated : (arena.collect values).2.IsAllocated id := by simp [IsAllocated, found]
  refine ⟨((isAllocated_collect arena values id).mp allocated).2, ?_⟩
  rw [frame?_collect] at found
  split at found
  · cases found
  · rcases Option.map_eq_some_iff.mp found with ⟨before, here, same⟩
    exact ⟨before, here, same.symm⟩

theorem partOf_collect (arena : Arena) (values : List Value) :
    (arena.collect values).2.PartOf arena := by
  intro id frame found
  rcases of_frame?_collect values found with ⟨_, before, here, rfl⟩
  exact ⟨before, here, rfl, rfl⟩

include wellFormed in
theorem children_collect {id : FrameId} {frame : Frame}
    (found : (arena.collect values).2.frame? id = some frame) :
    frame.children = (arena.collect values).2.childCount id := by
  rcases of_frame?_collect values found with ⟨_, before, here, rfl⟩
  have counted := wellFormed.children_eq here
  have split := childCount_collect arena values id
  simp only [withoutChildren, List.count_nil] at counted ⊢
  omega

include wellFormed in
theorem coherent_collect : (arena.collect values).2.Coherent held := by
  have outers : ∀ {inner outer}, (arena.collect values).2.outer? inner = some outer →
      arena.outer? inner = some outer ∧ (arena.collect values).2.IsAllocated outer := by
    intro inner outer step
    rcases isAllocated_iff.mp (isAllocated_of_outer? step) with ⟨frame, found⟩
    rcases of_frame?_collect values found with ⟨reached, before, here, _⟩
    rw [outer?_collect] at step
    split at step
    · cases step
    · refine ⟨step, (isAllocated_collect arena values outer).mpr
        ⟨wellFormed.outer_allocated step, ?_⟩⟩
      refine reached.reference (mem_references.mpr ⟨before, here, .inl ?_⟩)
      simpa [outer?, here] using step
  refine ⟨⟨fun step => (outers step).2, ?_⟩, ?_, ?_⟩
  · exact Subrelation.wf (fun {outer inner} step => (outers step).1) wellFormed.wellFounded
  · intro id member
    have allocated := wellFormed.held_allocated id member
    rcases isAllocated_iff.mp allocated with ⟨frame, found⟩
    refine (isAllocated_collect arena values id).mpr ⟨allocated, .held found ?_⟩
    rw [wellFormed.handles_eq found]
    exact List.count_pos_iff.mpr member
  · intro id frame found binding member home refers
    rcases of_frame?_collect values found with ⟨reached, before, here, rfl⟩
    refine isCaptured_collect values (wellFormed.home_captured here binding member home refers) ?_
    exact reached.reference (mem_references.mpr ⟨before, here, .inr ⟨binding, member, refers⟩⟩)

include wellFormed in
/-- What reaches a frame keeps it referenced: a handle, an inner frame that stays, or a closure. -/
theorem referenced_collect (admitted : ∀ value ∈ values, arena.Admits value) {id : FrameId}
    {frame : Frame} (found : (arena.collect values).2.frame? id = some frame) :
    frame.isUnreferenced = false := by
  have counted := wellFormed.children_collect values found
  rcases of_frame?_collect values found with ⟨reached, before, here, rfl⟩
  by_contra referenced
  simp only [Frame.isUnreferenced, withoutChildren, Bool.not_eq_false, Bool.and_eq_true,
    beq_iff_eq, Bool.not_eq_true'] at referenced
  rcases referenced with ⟨⟨noHandles, noChildren⟩, notCaptured⟩
  have free := not_isCaptured here notCaptured
  cases reached with
  | held found handle =>
      rw [here] at found
      cases found
      omega
  | value member refers => exact free (admitted _ member id refers)
  | @reference inner _ reached refers =>
      rcases mem_references.mp refers with ⟨referring, found, outer | ⟨binding, member, home⟩⟩
      · have childless := childCount_eq_zero_iff.mp (counted.symm.trans noChildren) inner
        have allocated : arena.IsAllocated inner := by simp [IsAllocated, found]
        rw [outer?_collect, if_neg] at childless
        · simp [outer?, found, outer] at childless
        · exact fun garbage => (mem_unmarked_iff values allocated).mp garbage reached
      · exact free (wellFormed.home_captured found binding member id home)

include wellFormed in
/-- A collection keeps an arena well-formed if it is given values of the session alone. -/
theorem collect (admitted : ∀ value ∈ values, arena.Admits value) :
    (arena.collect values).2.WellFormed held := by
  refine ⟨⟨?_, wellFormed.coherent_collect values, fun found => ?_, fun found => ?_⟩,
    wellFormed.referenced_collect values admitted⟩
  · refine wellFormed.toListsFree.discardAll (nodup_unmarked _) fun id member => ?_
    exact ((mem_unmarked values id).mp member).1
  · rcases of_frame?_collect values found with ⟨_, before, here, rfl⟩
    have counted := wellFormed.handles_eq here
    exact counted
  · simpa using wellFormed.children_collect values found

end WellFormed

end Monkey.Arena
