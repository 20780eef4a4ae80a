import Mathlib.Data.Finset.Card
import Monkey.Proofs.Arena.Collection

/-!
# Tidy arenas

A frame binds each name once, since a binding takes the place of an earlier one of that name. So
what a frame refers to is what its names stand for, and nothing is hidden behind another binding.
An arena is tidy if it is well-formed and all its frames are like that.

The number of live frames of a tidy arena is the number of places in use.
-/

namespace Monkey

namespace Frame

/-- Whether a frame binds no name twice. -/
def BindsOnce (frame : Frame) : Prop :=
  (frame.bindings.map Prod.fst).Nodup

theorem map_fst_bindAmong (name : String) (value : Value) (bindings : List (String × Value)) :
    (bindAmong name value bindings).map Prod.fst =
      if name ∈ bindings.map Prod.fst then bindings.map Prod.fst
      else bindings.map Prod.fst ++ [name] := by
  induction bindings with
  | nil => simp [bindAmong]
  | cons first rest ih =>
      by_cases same : first.1 = name
      · simp [bindAmong, same]
      · have differs : name ≠ first.1 := fun equal => same equal.symm
        simp only [bindAmong, same, if_false, List.map_cons, ih, List.mem_cons, differs, false_or]
        split <;> simp

theorem BindsOnce.bind {frame : Frame} (once : frame.BindsOnce) (name : String) (value : Value) :
    (frame.bind name value).BindsOnce := by
  rw [BindsOnce, Frame.bind, map_fst_bindAmong]
  split
  · exact once
  · next fresh => simpa using once.append (List.nodup_singleton name) (by simpa using fresh)

theorem BindsOnce.lookup?_eq {frame : Frame} (once : frame.BindsOnce) {name : String}
    {value : Value} (member : (name, value) ∈ frame.bindings) :
    frame.lookup? name = some value := by
  rcases List.append_of_mem member with ⟨before, after, split⟩
  refine List.lookup_eq_some_iff.mpr ⟨before, after, split, fun binding earlier => ?_⟩
  rw [BindsOnce, split, List.map_append, List.map_cons, List.nodup_append] at once
  simpa using (once.2.2 binding.1 (List.mem_map_of_mem earlier) name (by simp)).symm

end Frame

namespace Arena

/-- The frames in use. -/
def inUse (arena : Arena) : Finset FrameId :=
  (arena.places.filter fun id => (arena.frame? id).isSome).toFinset

theorem mem_inUse {arena : Arena} {id : FrameId} : id ∈ arena.inUse ↔ arena.IsAllocated id := by
  simp only [inUse, List.mem_toFinset, List.mem_filter, mem_places]
  exact and_iff_right_of_imp fun allocated => slot_lt_of_isAllocated allocated

/-- The places that are not listed as free are those in use. -/
theorem ListsFree.live_eq {arena : Arena} (lists : arena.ListsFree) :
    arena.live = arena.inUse.card := by
  have empty : (arena.free.map FrameId.mk).Perm
      (arena.places.filter fun id => !(arena.frame? id).isSome) := by
    refine (List.perm_ext_iff_of_nodup ?_ (arena.nodup_places.filter _)).mpr fun id => ?_
    · exact lists.nodup_free.map fun left right same => FrameId.mk.inj same
    · rcases id with ⟨slot⟩
      simp [lists.mem_free, mem_places]
  have split := List.length_eq_length_filter_add (l := arena.places)
    fun id => (arena.frame? id).isSome
  have size : arena.places.length = arena.frames.size := by simp [places]
  rw [inUse, List.toFinset_card_of_nodup (arena.nodup_places.filter _), live]
  have freed := empty.length_eq
  rw [List.length_map] at freed
  omega

/-- A well-formed arena whose frames bind each name once. -/
structure Tidy (arena : Arena) (held : List FrameId) : Prop extends arena.WellFormed held where
  bindsOnce : ∀ {id frame}, arena.frame? id = some frame → frame.BindsOnce

namespace Tidy

theorem start (session : Nat) : (Arena.start session).2.Tidy [(Arena.start session).1] where
  toWellFormed := .start session
  bindsOnce {id frame} found := by
    rcases of_frame?_insert found with ⟨_, rfl⟩ | ⟨_, before⟩
    · exact List.nodup_nil
    · simp [frame?_eq, empty] at before

variable {arena later : Arena} {held held' : List FrameId} (tidy : arena.Tidy held)

include tidy

theorem of_partOf (wellFormed : later.WellFormed held') (part : later.PartOf arena) :
    later.Tidy held' where
  toWellFormed := wellFormed
  bindsOnce found := by
    rcases part found with ⟨frame, before, bindings, _⟩
    have once := tidy.bindsOnce before
    rwa [Frame.BindsOnce, bindings] at once

theorem share {id : FrameId} (member : id ∈ held) : (arena.share id).Tidy (id :: held) :=
  tidy.of_partOf (tidy.toWellFormed.share member) (.recount arena id Frame.recounts_gainHandle)

theorem enclose {outer : FrameId} (allocated : arena.IsAllocated outer) :
    (arena.enclose outer).2.Tidy ((arena.enclose outer).1 :: held) where
  toWellFormed := tidy.toWellFormed.enclose allocated
  bindsOnce {id frame} found := by
    rcases of_frame?_insert found with ⟨_, rfl⟩ | ⟨_, before⟩
    · exact List.nodup_nil
    · rcases of_frame?_modifyFrame arena outer Frame.gainChild before with
        ⟨old, here, rfl | rfl⟩
      · exact tidy.bindsOnce here
      · have once := tidy.bindsOnce here
        exact once

theorem capture (id : FrameId) : (arena.capture id).Tidy held :=
  tidy.of_partOf (tidy.toWellFormed.capture id) (.recount arena id Frame.recounts_capture)

theorem close (id : FrameId) (parameters : List Identifier) (body : Block) :
    (arena.close id parameters body).2.Tidy held :=
  tidy.of_partOf (tidy.toWellFormed.close id parameters body)
    (PartOf.recount arena id Frame.recounts_capture)

theorem bind {value : Value} (admits : arena.Admits value) (id : FrameId) (name : String) :
    (arena.bind id name value).Tidy held where
  toWellFormed := tidy.toWellFormed.bind admits
  bindsOnce {other frame} found := by
    rcases of_frame?_modifyFrame arena id (Frame.bind name value) found with
      ⟨old, here, rfl | rfl⟩
    · exact tidy.bindsOnce here
    · exact (tidy.bindsOnce here).bind name value

theorem drop (id : FrameId) : (arena.drop id).Tidy (held.erase id) :=
  tidy.of_partOf (tidy.toWellFormed.drop id).1 (.drop id arena)

theorem collect {values : List Value} (admitted : ∀ value ∈ values, arena.Admits value) :
    (arena.collect values).2.Tidy held :=
  tidy.of_partOf (tidy.toWellFormed.collect values admitted)
    (WellFormed.partOf_collect arena values)

/-- What a name of a tidy frame stands for, and its outer frame, are all that the frame refers
to. -/
theorem mem_references {id next : FrameId} :
    next ∈ arena.references id ↔ ∃ frame, arena.frame? id = some frame ∧
      (frame.outer = some next ∨
        ∃ name value, frame.lookup? name = some value ∧ next ∈ value.home?) := by
  rw [Arena.mem_references]
  constructor
  · rintro ⟨frame, found, outward | ⟨⟨name, value⟩, member, refers⟩⟩
    · exact ⟨frame, found, .inl outward⟩
    · exact ⟨frame, found, .inr ⟨name, value, (tidy.bindsOnce found).lookup?_eq member, refers⟩⟩
  · rintro ⟨frame, found, outward | ⟨name, value, bound, refers⟩⟩
    · exact ⟨frame, found, .inl outward⟩
    · exact ⟨frame, found, .inr ⟨(name, value), Frame.mem_of_lookup? bound, refers⟩⟩

end Tidy

end Arena

end Monkey
