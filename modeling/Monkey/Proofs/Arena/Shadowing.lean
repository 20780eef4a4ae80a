import Monkey.Proofs.Arena.WellFormed

/-!
# Shadowing

A lookup finds the binding of the innermost frame, on the way outward from where it starts, that
has one. So a binding that a frame gets is found from just those frames that have it in sight: on
whose way outward no frame before it binds the name. Every other lookup finds what it found before.
-/

namespace Monkey.Arena

/-- The value that the frame at a place binds a name to itself. -/
def bound? (arena : Arena) (id : FrameId) (name : String) : Option Value :=
  (arena.frame? id).bind fun frame => frame.lookup? name

/-- Whether a frame is on the way outward from another one, which is the first on it. -/
def OnWay (arena : Arena) (target id : FrameId) : Prop :=
  Relation.ReflTransGen arena.IsOuter target id

/-- Whether a frame is on the way outward from another one, where no frame strictly within it binds
a name. -/
structure InSight (arena : Arena) (name : String) (target id : FrameId) : Prop where
  onWay : arena.OnWay target id
  unshadowed : ∀ inner, arena.OnWay inner id → Relation.TransGen arena.IsOuter target inner →
    arena.bound? inner name = none

/-- Whether a lookup finds what the innermost frame on the way outward that binds the name binds it
to, and nothing just where no frame on the way binds it. -/
def FindsInnermost (arena : Arena) : Prop :=
  ∀ id name,
    (∀ value, arena.lookup? id name = some value ↔
      ∃ target, arena.InSight name target id ∧ arena.bound? target name = some value) ∧
    (arena.lookup? id name = none ↔
      ∀ target, arena.OnWay target id → arena.bound? target name = none)

variable {arena : Arena} {held : List FrameId} {id scope target : FrameId} {name : String}

theorem onWay_iff :
    arena.OnWay target id ↔
      target = id ∨ ∃ outer, arena.outer? id = some outer ∧ arena.OnWay target outer := by
  constructor
  · intro way
    rcases Relation.ReflTransGen.cases_tail way with same | ⟨outer, way, step⟩
    · exact .inl same.symm
    · exact .inr ⟨outer, step, way⟩
  · rintro (rfl | ⟨outer, step, way⟩)
    · exact .refl
    · exact way.tail step

namespace Nested

variable (nested : arena.Nested)

include nested

/-- From within a frame the same is in sight as from it, unless that is shadowed there. -/
theorem inSight_iff :
    arena.InSight name target id ↔
      target = id ∨ arena.bound? id name = none ∧
        ∃ outer, arena.outer? id = some outer ∧ arena.InSight name target outer := by
  constructor
  · rintro ⟨way, unshadowed⟩
    rcases onWay_iff.mp way with same | ⟨outer, step, way⟩
    · exact .inl same
    · refine .inr ⟨unshadowed id .refl (.tail' way step), outer, step, way, ?_⟩
      exact fun inner inside within => unshadowed inner (inside.tail step) within
  · rintro (rfl | ⟨here, outer, step, sight⟩)
    · refine ⟨.refl, fun inner inside within => ?_⟩
      exact absurd (within.trans_left inside) (nested.not_within_self target)
    · refine ⟨sight.onWay.tail step, fun inner inside within => ?_⟩
      rcases onWay_iff.mp inside with rfl | ⟨next, outward, way⟩
      · exact here
      · cases step.symm.trans outward
        exact sight.unshadowed inner way within

theorem lookup?_eq_or (id : FrameId) (name : String) :
    arena.lookup? id name =
      (arena.bound? id name).or
        ((arena.outer? id).bind fun outer => arena.lookup? outer name) := by
  rw [lookup?_eq nested, bound?, outer?]
  cases arena.frame? id <;> rfl

theorem lookup?_eq_some_iff {value : Value} :
    arena.lookup? id name = some value ↔
      ∃ target, arena.InSight name target id ∧ arena.bound? target name = some value := by
  induction id using nested.wellFounded.induction with
  | h id ih =>
      rw [nested.lookup?_eq_or, Option.or_eq_some_iff]
      constructor
      · rintro (bound | ⟨here, found⟩)
        · exact ⟨id, nested.inSight_iff.mpr (.inl rfl), bound⟩
        · rcases Option.bind_eq_some_iff.mp found with ⟨outer, step, found⟩
          rcases (ih outer step).mp found with ⟨target, sight, bound⟩
          exact ⟨target, nested.inSight_iff.mpr (.inr ⟨here, outer, step, sight⟩), bound⟩
      · rintro ⟨target, sight, bound⟩
        rcases nested.inSight_iff.mp sight with rfl | ⟨here, outer, step, sight⟩
        · exact .inl bound
        · refine .inr ⟨here, Option.bind_eq_some_iff.mpr ⟨outer, step, ?_⟩⟩
          exact (ih outer step).mpr ⟨target, sight, bound⟩

theorem lookup?_eq_none_iff :
    arena.lookup? id name = none ↔
      ∀ target, arena.OnWay target id → arena.bound? target name = none := by
  induction id using nested.wellFounded.induction with
  | h id ih =>
      rw [nested.lookup?_eq_or, Option.or_eq_none_iff, Option.bind_eq_none_iff]
      constructor
      · rintro ⟨here, outward⟩ target way
        rcases onWay_iff.mp way with rfl | ⟨outer, step, way⟩
        · exact here
        · exact (ih outer step).mp (outward outer step) target way
      · intro unbound
        refine ⟨unbound id .refl, fun outer step => (ih outer step).mpr fun target way => ?_⟩
        exact unbound target (way.tail step)

theorem findsInnermost : arena.FindsInnermost :=
  fun _ _ => ⟨fun _ => nested.lookup?_eq_some_iff, nested.lookup?_eq_none_iff⟩

end Nested

section Bind

variable (value : Value)

theorem frame?_bind (id : FrameId) :
    (arena.bind scope name value).frame? id =
      if id = scope then (arena.frame? id).map (Frame.bind name value) else arena.frame? id :=
  frame?_modifyFrame arena scope _ id

theorem outer?_bind (id : FrameId) :
    (arena.bind scope name value).outer? id = arena.outer? id := by
  rw [outer?, frame?_bind, outer?]
  split
  · cases arena.frame? id <;> rfl
  · rfl

theorem isOuter_bind : (arena.bind scope name value).IsOuter = arena.IsOuter := by
  funext outer inner
  rw [IsOuter, outer?_bind, IsOuter]

theorem bound?_bind (allocated : arena.IsAllocated scope) (id : FrameId) (other : String) :
    (arena.bind scope name value).bound? id other =
      if id = scope ∧ other = name then some value else arena.bound? id other := by
  rcases isAllocated_iff.mp allocated with ⟨frame, found⟩
  by_cases here : id = scope
  · subst here
    simp [bound?, frame?_bind, found, Frame.lookup?_bind]
  · simp [bound?, frame?_bind, here]

namespace Nested

variable (nested : arena.Nested)

include nested

theorem bind : (arena.bind scope name value).Nested :=
  nested.modifyFrame scope fun _ => rfl

variable (allocated : arena.IsAllocated scope)

include allocated

theorem lookup?_bind_of_ne (id : FrameId) {other : String} (differ : other ≠ name) :
    (arena.bind scope name value).lookup? id other = arena.lookup? id other := by
  induction id using nested.wellFounded.induction with
  | h id ih =>
      rw [(nested.bind value).lookup?_eq_or, nested.lookup?_eq_or, bound?_bind value allocated,
        if_neg fun same => differ same.2, outer?_bind]
      congr 1
      exact Option.bind_congr fun outer step => ih outer step

theorem lookup?_bind_of_inSight (sight : arena.InSight name scope id) :
    (arena.bind scope name value).lookup? id name = some value := by
  refine (nested.bind value).lookup?_eq_some_iff.mpr ⟨scope, ⟨?_, ?_⟩, ?_⟩
  · rw [OnWay, isOuter_bind]
    exact sight.onWay
  · rw [isOuter_bind]
    intro inner inside within
    rw [OnWay, isOuter_bind] at inside
    rw [bound?_bind value allocated, if_neg]
    · exact sight.unshadowed inner inside within
    · rintro ⟨rfl, -⟩
      exact nested.not_within_self inner within
  · rw [bound?_bind value allocated, if_pos ⟨rfl, rfl⟩]

theorem lookup?_bind_of_not_inSight (hidden : ¬arena.InSight name scope id) :
    (arena.bind scope name value).lookup? id name = arena.lookup? id name := by
  induction id using nested.wellFounded.induction with
  | h id ih =>
      rw [nested.inSight_iff] at hidden
      push Not at hidden
      rw [(nested.bind value).lookup?_eq_or, nested.lookup?_eq_or, bound?_bind value allocated,
        if_neg fun same => hidden.1 same.1.symm, outer?_bind]
      -- What a frame binds itself comes before all that is further outward.
      cases here : arena.bound? id name with
      | some found => rfl
      | none => exact Option.bind_congr fun outer step => ih outer step (hidden.2 here outer step)

end Nested

end Bind

/-- A lookup finds the binding of the innermost frame that has one, before a binding is made and
after it. The new binding is found from where its frame is in sight, and from there alone; all other
lookups, the bindings of all other frames, the links and the counters stay as they are. -/
theorem WellFormed.bind_shadows (wellFormed : arena.WellFormed held) (member : scope ∈ held)
    (name : String) (value : Value) :
    let later := arena.bind scope name value
    (∀ id other, other ≠ name → later.lookup? id other = arena.lookup? id other) ∧
    (∀ id, arena.InSight name scope id → later.lookup? id name = some value) ∧
    (∀ id, ¬arena.InSight name scope id → later.lookup? id name = arena.lookup? id name) ∧
    arena.FindsInnermost ∧ later.FindsInnermost ∧
    (∀ id other, later.bound? id other =
      if id = scope ∧ other = name then some value else arena.bound? id other) ∧
    (∀ id, id ≠ scope → later.frame? id = arena.frame? id) ∧
    (∀ frame, arena.frame? scope = some frame →
      ∃ bindings, later.frame? scope = some { frame with bindings := bindings }) ∧
    later.frames.size = arena.frames.size ∧ later.free = arena.free ∧
      later.nextId = arena.nextId := by
  intro later
  have nested := wellFormed.toNested
  have allocated := wellFormed.held_allocated scope member
  refine ⟨fun id _ => nested.lookup?_bind_of_ne value allocated id,
    fun _ => nested.lookup?_bind_of_inSight value allocated,
    fun _ => nested.lookup?_bind_of_not_inSight value allocated,
    nested.findsInnermost, (nested.bind value).findsInnermost, bound?_bind value allocated,
    fun id apart => ?_, fun frame found => ?_, size_modifyFrame arena scope _, rfl, rfl⟩
  · exact (frame?_bind value id).trans (if_neg apart)
  · refine ⟨Frame.bindAmong name value frame.bindings, (frame?_bind value scope).trans ?_⟩
    rw [if_pos rfl, found]
    rfl

/-- Of two frames within the first one, the one in which the name is bound shadows the new binding
from the frame within it. -/
theorem WellFormed.bind_shadows_siblings :
    let inner := ((Arena.start 0).2.enclose ⟨0⟩).2.bind ⟨1⟩ "x" (.int 1)
    let arena := ((inner.enclose ⟨1⟩).2.enclose ⟨0⟩).2
    let held : List FrameId := [⟨3⟩, ⟨2⟩, ⟨1⟩, ⟨0⟩]
    let later := arena.bind ⟨0⟩ "x" (.int 7)
    arena.WellFormed held ∧ (⟨0⟩ : FrameId) ∈ held ∧
      arena.InSight "x" ⟨0⟩ ⟨3⟩ ∧ later.lookup? ⟨3⟩ "x" = some (.int 7) ∧
      ¬arena.InSight "x" ⟨0⟩ ⟨2⟩ ∧ later.lookup? ⟨2⟩ "x" = some (.int 1) := by
  intro inner arena held later
  have first : ((Arena.start 0).2.enclose ⟨0⟩).2.WellFormed [⟨1⟩, ⟨0⟩] := (start 0).enclose rfl
  have bound : inner.WellFormed [⟨1⟩, ⟨0⟩] := first.bind (by rintro _ ⟨⟩)
  have second : (inner.enclose ⟨1⟩).2.WellFormed [⟨2⟩, ⟨1⟩, ⟨0⟩] := bound.enclose rfl
  have wellFormed : arena.WellFormed held := second.enclose rfl
  have member : (⟨0⟩ : FrameId) ∈ held := by decide
  have sight : arena.InSight "x" ⟨0⟩ ⟨3⟩ :=
    wellFormed.toNested.inSight_iff.mpr
      (.inr ⟨rfl, ⟨0⟩, rfl, wellFormed.toNested.inSight_iff.mpr (.inl rfl)⟩)
  have hidden : ¬arena.InSight "x" ⟨0⟩ ⟨2⟩ := fun sight =>
    nomatch sight.unshadowed ⟨1⟩ (.single rfl) (.single rfl)
  have shadows := wellFormed.bind_shadows member "x" (.int 7)
  exact ⟨wellFormed, member, sight, shadows.2.1 ⟨3⟩ sight, hidden, shadows.2.2.1 ⟨2⟩ hidden⟩

end Monkey.Arena
