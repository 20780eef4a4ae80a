import Mathlib.Logic.Relator
import Monkey.Proofs.Evaluation.Comparison
import Monkey.Proofs.Evaluation.Policy

/-!
# Evaluations that mirror each other

Two evaluations under lawful policies simulate each other, whatever places their frames take: the
arenas correspond if some one-to-one relation of frames holds between the frames that handles and
closures refer to, and related frames bind the same names to related values.

A frame that one arena has freed, and whose place another frame has taken since, is related to
none: only frames in use are.
-/

namespace Monkey

namespace Value.Related

variable {closures closures' : Closure → Closure → Prop} {left right : Value}

theorem home?_rel {homes : FrameId → FrameId → Prop}
    (same : ∀ left right, closures left right → homes left.home right.home)
    (related : Related closures left right) : Option.Rel homes left.home? right.home? := by
  induction related with
  | closure closed => exact .some (same _ _ closed)
  | returned _ ih => exact ih
  | _ => exact .none

/-- Values stay related if the closures among them do, whose homes are of given sorts. -/
theorem mono_of_homes {sort sort' : FrameId → Prop}
    (weaker : ∀ left right, closures left right → sort left.home → sort' right.home →
      closures' left right)
    (related : Related closures left right) (homes : ∀ home ∈ left.home?, sort home)
    (homes' : ∀ home ∈ right.home?, sort' home) : Related closures' left right := by
  induction related with
  | int value => exact .int value
  | bool value => exact .bool value
  | string text => exact .string text
  | null => exact .null
  | closure same => exact .closure (weaker _ _ same (homes _ rfl) (homes' _ rfl))
  | builtin function => exact .builtin function
  | returned _ ih => exact .returned (ih homes homes')

/-- Values stay related if the closures among them do that refer to captured frames. -/
theorem mono_of_admits {A B : Arena}
    (weaker : ∀ left right, closures left right → A.IsCaptured left.home →
      B.IsCaptured right.home → closures' left right)
    (related : Related closures left right) (admits : A.Admits left) (admits' : B.Admits right) :
    Related closures' left right :=
  related.mono_of_homes weaker admits admits'

theorem symm (related : Related closures left right) :
    Related (fun left right => closures right left) right left := by
  induction related with
  | int value => exact .int value
  | bool value => exact .bool value
  | string text => exact .string text
  | null => exact .null
  | closure same => exact .closure same
  | builtin function => exact .builtin function
  | returned _ ih => exact .returned ih

end Value.Related

theorem optionRel_symm {α β : Type} {relation : α → β → Prop} {left : Option α} {right : Option β}
    (related : Option.Rel relation left right) :
    Option.Rel (fun right left => relation left right) right left := by
  cases related with
  | some same => exact .some same
  | none => exact .none

theorem optionRel_mono {α β : Type} {relation relation' : α → β → Prop} {left : Option α}
    {right : Option β} (weaker : ∀ a b, relation a b → relation' a b)
    (related : Option.Rel relation left right) : Option.Rel relation' left right := by
  cases related with
  | some same => exact .some (weaker _ _ same)
  | none => exact .none

theorem exists_of_optionRel {α β : Type} {relation : α → β → Prop} {left : Option α}
    {right : Option β} (related : Option.Rel relation left right) {a : α} (here : left = some a) :
    ∃ b, right = some b ∧ relation a b := by
  cases related with
  | some same =>
      cases here
      exact ⟨_, rfl, same⟩
  | none => cases here

/-- Frames that bind the same names to related values within related frames. -/
structure Frame.Alike (values : Value → Value → Prop) (frames : FrameId → FrameId → Prop)
    (left right : Frame) : Prop where
  bindings : ∀ name, Option.Rel values (left.lookup? name) (right.lookup? name)
  outer : Option.Rel frames left.outer right.outer

/-- The identity of a closure that an arena makes after the given number of others. -/
def Arena.upcomingId (arena : Arena) (count : Nat) : ClosureId :=
  ⟨arena.nextId.session, arena.nextId.serial + count⟩

theorem Arena.upcomingId_inj {arena : Arena} {count count' : Nat} :
    arena.upcomingId count = arena.upcomingId count' ↔ count = count' := by
  simp [upcomingId]

/-- Arenas in which related frames show related values, one to one. -/
structure Mirrors (valid valid' : Arena → List FrameId → Prop) (pairs : Correspondence)
    (frames : FrameId → FrameId → Prop) (A B : Arena) : Prop where
  left : valid A (pairs.held.map Prod.fst)
  right : valid' B (pairs.held.map Prod.snd)
  unique : Relator.BiUnique frames
  alike : ∀ {a b}, frames a b → ∃ frame frame', A.frame? a = some frame ∧
    B.frame? b = some frame' ∧ frame.Alike pairs.Values frames frame'
  homes : ∀ {a b}, pairs.homes a b → frames a b ∧ A.IsCaptured a ∧ B.IsCaptured b
  held : ∀ {a b}, (a, b) ∈ pairs.held → frames a b
  unique_ids : Relator.BiUnique pairs.ids
  upcoming : ∀ count, pairs.ids (A.upcomingId count) (B.upcomingId count)

theorem biUnique_or {α β : Type} {relation : α → β → Prop} (unique : Relator.BiUnique relation)
    {x : α} {y : β} (left : ∀ b, ¬relation x b) (right : ∀ a, ¬relation a y) :
    Relator.BiUnique fun a b => relation a b ∨ (a = x ∧ b = y) := by
  constructor
  · rintro a b c (same | ⟨rfl, rfl⟩) (other | ⟨rfl, new⟩)
    · exact unique.1 same other
    · exact absurd (new ▸ same) (right a)
    · exact absurd other (right b)
    · rfl
  · rintro a b c (same | ⟨rfl, rfl⟩) (other | ⟨new, rfl⟩)
    · exact unique.2 same other
    · exact absurd (new ▸ same) (left b)
    · exact absurd other (left c)
    · rfl

theorem Frame.Alike.congr {values : Value → Value → Prop} {frames : FrameId → FrameId → Prop}
    {left right left' right' : Frame} (alike : left.Alike values frames right)
    (bindings : left'.bindings = left.bindings) (outer : left'.outer = left.outer)
    (bindings' : right'.bindings = right.bindings) (outer' : right'.outer = right.outer) :
    left'.Alike values frames right' where
  bindings name := by simpa [lookup?, bindings, bindings'] using alike.bindings name
  outer := by simpa [outer, outer'] using alike.outer

theorem Frame.Alike.mono {values values' : Value → Value → Prop}
    {frames frames' : FrameId → FrameId → Prop} {left right : Frame}
    (alike : left.Alike values frames right)
    (bindings : ∀ name value value', left.lookup? name = some value →
      right.lookup? name = some value' → values value value' → values' value value')
    (outer : ∀ id id', left.outer = some id → right.outer = some id' → frames id id' →
      frames' id id') : left.Alike values' frames' right where
  bindings name := by
    have same := alike.bindings name
    have weaker := bindings name
    generalize left.lookup? name = value at *
    generalize right.lookup? name = value' at *
    cases same with
    | some same => exact .some (weaker _ _ rfl rfl same)
    | none => exact .none
  outer := by
    have same := alike.outer
    generalize left.outer = id at *
    generalize right.outer = id' at *
    cases same with
    | some same => exact .some (outer _ _ rfl rfl same)
    | none => exact .none

theorem Frame.Alike.symm {values : Value → Value → Prop} {frames : FrameId → FrameId → Prop}
    {left right : Frame} (alike : left.Alike values frames right) :
    right.Alike (fun right left => values left right) (fun right left => frames left right) left :=
  ⟨fun name => optionRel_symm (alike.bindings name), optionRel_symm alike.outer⟩

/-- The same pairs seen from the other side. -/
def Correspondence.symm (pairs : Correspondence) : Correspondence where
  homes right left := pairs.homes left right
  ids right left := pairs.ids left right
  held := pairs.held.map Prod.swap

theorem Correspondence.symm_values {pairs : Correspondence} {left right : Value}
    (related : pairs.Values left right) : pairs.symm.Values right left :=
  related.symm.mono fun _ _ same =>
    ⟨same.ids, same.parameters.symm, same.body.symm, same.homes⟩

namespace Mirrors

variable {valid valid' : Arena → List FrameId → Prop} {leftPolicy rightPolicy : FramePolicy}
  {pairs later : Correspondence} {frames : FrameId → FrameId → Prop} {A B A' B' : Arena}
  (lawful : leftPolicy.Lawful valid) (lawful' : rightPolicy.Lawful valid')
  (mirrors : Mirrors valid valid' pairs frames A B)

include mirrors in
theorem admits {value value' : Value} (related : pairs.Values value value') :
    A.Admits value ∧ B.Admits value' := by
  have homes : Option.Rel (fun a b => A.IsCaptured a ∧ B.IsCaptured b) value.home? value'.home? :=
    related.home?_rel fun _ _ same => (mirrors.homes same.homes).2
  unfold Arena.Admits
  generalize value.home? = home at *
  generalize value'.home? = home' at *
  cases homes with
  | some captured => simpa using captured
  | none => simp

include mirrors in
theorem admits_all {values values' : List Value}
    (related : List.Forall₂ pairs.Values values values') :
    (∀ value ∈ values, A.Admits value) ∧ ∀ value ∈ values', B.Admits value := by
  induction related with
  | nil => simp
  | cons first _ ih =>
      have admits := mirrors.admits first
      exact ⟨List.forall_mem_cons.mpr ⟨admits.1, ih.1⟩, List.forall_mem_cons.mpr ⟨admits.2, ih.2⟩⟩

include mirrors in
/-- Arenas mirror each other from both sides. -/
theorem symm : Mirrors valid' valid pairs.symm (fun right left => frames left right) B A where
  left := by simpa [Correspondence.symm, Function.comp_def] using mirrors.right
  right := by simpa [Correspondence.symm, Function.comp_def] using mirrors.left
  unique := ⟨fun _ _ _ one other => mirrors.unique.2 one other,
    fun _ _ _ one other => mirrors.unique.1 one other⟩
  alike {b a} same := by
    rcases mirrors.alike same with ⟨frame, frame', found, found', alike⟩
    refine ⟨frame', frame, found', found, alike.symm.mono ?_ fun _ _ _ _ within => within⟩
    exact fun _ _ _ _ _ => Correspondence.symm_values
  homes {b a} same := by
    have captured := mirrors.homes same
    exact ⟨captured.1, captured.2.2, captured.2.1⟩
  held {b a} member := by
    rcases List.mem_map.mp member with ⟨⟨left, right⟩, inHeld, swapped⟩
    cases swapped
    exact mirrors.held inHeld
  unique_ids := ⟨fun _ _ _ one other => mirrors.unique_ids.2 one other,
    fun _ _ _ one other => mirrors.unique_ids.1 one other⟩
  upcoming := mirrors.upcoming

include lawful lawful' mirrors

theorem lookup {a b : FrameId} (same : frames a b) (name : String) :
    Option.Rel pairs.Values (A.lookup? a name) (B.lookup? b name) := by
  have nested := (lawful.coherent mirrors.left).toNested
  have nested' := (lawful'.coherent mirrors.right).toNested
  induction a using nested.wellFounded.induction generalizing b with
  | h a ih =>
      rcases mirrors.alike same with ⟨frame, frame', here, here', alike⟩
      have bound := alike.bindings name
      have outward := alike.outer
      rw [Arena.lookup?_eq nested, Arena.lookup?_eq nested', here, here']
      simp only [Option.bind_some]
      generalize frame.lookup? name = value at *
      generalize frame'.lookup? name = value' at *
      cases bound with
      | some found => exact .some found
      | none =>
          rcases frame with ⟨_, outer, _, _, _⟩
          rcases frame' with ⟨_, outer', _, _, _⟩
          cases outward with
          | none => exact .none
          | some further => exact ih _ (by simp [Arena.IsOuter, Arena.outer?, here]) further

/-- Parts of arenas that mirror each other do so, with the frames that both of them have. -/
theorem narrow (part : A'.PartOf A) (part' : B'.PartOf B)
    (left : valid A' (later.held.map Prod.fst)) (right : valid' B' (later.held.map Prod.snd))
    (ids : later.ids = pairs.ids)
    (weaker : ∀ {a b}, pairs.homes a b → A'.IsCaptured a → B'.IsCaptured b → later.homes a b)
    (homes : ∀ {a b}, later.homes a b → frames a b ∧ A'.IsCaptured a ∧ B'.IsCaptured b)
    (held : ∀ {a b}, (a, b) ∈ later.held → frames a b)
    (upcoming : ∀ count, pairs.ids (A'.upcomingId count) (B'.upcomingId count)) :
    Mirrors valid valid' later
      (fun a b => frames a b ∧ A'.IsAllocated a ∧ B'.IsAllocated b) A' B' where
  left := left
  right := right
  unique := by
    refine ⟨fun a b c same other => mirrors.unique.1 same.1 other.1, fun a b c same other => ?_⟩
    exact mirrors.unique.2 same.1 other.1
  alike {a b} same := by
    rcases same with ⟨same, allocated, allocated'⟩
    rcases Arena.isAllocated_iff.mp allocated with ⟨frame, found⟩
    rcases Arena.isAllocated_iff.mp allocated' with ⟨frame', found'⟩
    rcases part found with ⟨old, before, bindings, outer⟩
    rcases part' found' with ⟨old', before', bindings', outer'⟩
    rcases mirrors.alike same with ⟨_, _, here, here', alike⟩
    rw [before] at here
    rw [before'] at here'
    cases here
    cases here'
    have remains := alike.congr bindings.symm outer.symm bindings'.symm outer'.symm
    have coherent := lawful.coherent left
    have coherent' := lawful'.coherent right
    refine ⟨frame, frame', found, found', remains.mono ?_ ?_⟩
    · intro name value value' bound bound' related
      have admits : A'.Admits value := coherent.home_captured found _ (Frame.mem_of_lookup? bound)
      have admits' : B'.Admits value' :=
        coherent'.home_captured found' _ (Frame.mem_of_lookup? bound')
      refine related.mono_of_admits (fun left right same captured captured' => ?_) admits admits'
      exact ⟨ids ▸ same.ids, same.parameters, same.body, weaker same.homes captured captured'⟩
    · intro id id' within within' same
      have step : A'.outer? a = some id := by simpa [Arena.outer?, found] using within
      have step' : B'.outer? b = some id' := by simpa [Arena.outer?, found'] using within'
      exact ⟨same, coherent.outer_allocated step, coherent'.outer_allocated step'⟩
  homes {a b} same := by
    have captured := homes same
    exact ⟨⟨captured.1, captured.2.1.isAllocated, captured.2.2.isAllocated⟩, captured.2⟩
  held {a b} member := by
    refine ⟨held member, ?_, ?_⟩
    · exact (lawful.coherent left).held_allocated a (List.mem_map_of_mem member)
    · exact (lawful'.coherent right).held_allocated b (List.mem_map_of_mem member)
  unique_ids := ids ▸ mirrors.unique_ids
  upcoming := ids ▸ upcoming

theorem bind {s t : FrameId} (same : frames s t) {value value' : Value}
    (related : pairs.Values value value') (name : String) :
    Mirrors valid valid' pairs frames (A.bind s name value) (B.bind t name value') := by
  have admits := mirrors.admits related
  have captured := Arena.KeepsCaptured.bind A s name value
  have captured' := Arena.KeepsCaptured.bind B t name value'
  refine ⟨lawful.bind mirrors.left admits.1 s name,
    lawful'.bind mirrors.right admits.2 t name, mirrors.unique, fun {a b} matched => ?_,
    fun matched => ?_, mirrors.held, mirrors.unique_ids, mirrors.upcoming⟩
  · rcases mirrors.alike matched with ⟨frame, frame', found, found', alike⟩
    by_cases here : a = s
    · subst here
      have here' := mirrors.unique.2 matched same
      subst here'
      refine ⟨frame.bind name value, frame'.bind name value', ?_, ?_, fun other => ?_, alike.outer⟩
      · simp [Arena.bind, Arena.frame?_modifyFrame, found]
      · simp [Arena.bind, Arena.frame?_modifyFrame, found']
      · rw [Frame.lookup?_bind, Frame.lookup?_bind]
        split
        · exact .some related
        · exact alike.bindings other
    · have elsewhere : b ≠ t := by
        rintro rfl
        exact here (mirrors.unique.1 matched same)
      refine ⟨frame, frame', ?_, ?_, alike⟩
      · simp [Arena.bind, Arena.frame?_modifyFrame, here, found]
      · simp [Arena.bind, Arena.frame?_modifyFrame, elsewhere, found']
  · have before := mirrors.homes matched
    exact ⟨before.1, captured _ before.2.1, captured' _ before.2.2⟩

theorem close {s t : FrameId} (same : frames s t) (parameters : List Identifier) (body : Block) :
    ∃ later, pairs.Later later ∧
      Mirrors valid valid' later
        (fun a b => frames a b ∧ (A.close s parameters body).2.IsAllocated a ∧
          (B.close t parameters body).2.IsAllocated b)
        (A.close s parameters body).2 (B.close t parameters body).2 ∧
      later.Closures (A.close s parameters body).1 (B.close t parameters body).1 := by
  have part : (A.close s parameters body).2.PartOf A :=
    Arena.PartOf.recount A s Frame.recounts_capture
  have part' : (B.close t parameters body).2.PartOf B :=
    Arena.PartOf.recount B t Frame.recounts_capture
  have captured : A.KeepsCaptured (A.close s parameters body).2 := .capture A s
  have captured' : B.KeepsCaptured (B.close t parameters body).2 := .capture B t
  rcases mirrors.alike same with ⟨frame, frame', found, found', _⟩
  have new : (A.close s parameters body).2.IsCaptured s :=
    Arena.isCaptured_capture (Arena.isAllocated_iff.mpr ⟨frame, found⟩)
  have new' : (B.close t parameters body).2.IsCaptured t :=
    Arena.isCaptured_capture (Arena.isAllocated_iff.mpr ⟨frame', found'⟩)
  let later : Correspondence := {
    homes a b := pairs.homes a b ∨ (a = s ∧ b = t)
    ids := pairs.ids
    held := pairs.held }
  refine ⟨later, ⟨fun _ _ => .inl, rfl, rfl⟩, ?_,
    ⟨mirrors.upcoming 0, rfl, rfl, .inr ⟨rfl, rfl⟩⟩⟩
  refine mirrors.narrow lawful lawful' part part' (lawful.close mirrors.left s parameters body)
    (lawful'.close mirrors.right t parameters body) rfl (fun same _ _ => .inl same) ?_
    mirrors.held fun count => ?_
  · rintro a b (before | ⟨rfl, rfl⟩)
    · have matched := mirrors.homes before
      exact ⟨matched.1, captured _ matched.2.1, captured' _ matched.2.2⟩
    · exact ⟨same, new, new'⟩
  · have upcoming := mirrors.upcoming (1 + count)
    simp only [Arena.upcomingId, ← Nat.add_assoc] at upcoming
    exact upcoming

/-- A new frame on both sides within frames that stand for each other. -/
theorem enclose {a b : FrameId} (home : pairs.homes a b) :
    ∃ frames', Mirrors valid valid'
      (pairs.hold (leftPolicy.enclose a A).1 (rightPolicy.enclose b B).1) frames'
      (leftPolicy.enclose a A).2 (rightPolicy.enclose b B).2 := by
  have captured := mirrors.homes home
  have entry := lawful.enclose mirrors.left captured.2.1.isAllocated
  have entry' := lawful'.enclose mirrors.right captured.2.2.isAllocated
  generalize leftPolicy.enclose a A = left at *
  generalize rightPolicy.enclose b B = right at *
  rcases left with ⟨s, A'⟩
  rcases right with ⟨t, B'⟩
  rcases entry with ⟨valid_left, opened⟩
  rcases entry' with ⟨valid_right, opened'⟩
  have vacant : ∀ other, ¬frames s other := by
    intro other same
    rcases mirrors.alike same with ⟨frame, _, found, _⟩
    simp [opened.vacant] at found
  have vacant' : ∀ other, ¬frames other t := by
    intro other same
    rcases mirrors.alike same with ⟨_, frame, _, found, _⟩
    simp [opened'.vacant] at found
  refine ⟨fun x y => frames x y ∨ (x = s ∧ y = t), valid_left, valid_right,
    biUnique_or mirrors.unique vacant vacant', ?_, ?_, ?_, mirrors.unique_ids, ?_⟩
  · rintro x y (same | ⟨rfl, rfl⟩)
    · rcases mirrors.alike same with ⟨frame, frame', found, found', alike⟩
      rcases opened.partOf found with ⟨kept, here, bindings, outer⟩
      rcases opened'.partOf found' with ⟨kept', here', bindings', outer'⟩
      refine ⟨kept, kept', here, here', (alike.congr bindings outer bindings' outer').mono ?_ ?_⟩
      · rw [Correspondence.values_hold]
        exact fun _ _ _ _ _ related => related
      · exact fun _ _ _ _ same => .inl same
    · exact ⟨_, _, opened.here, opened'.here, fun _ => .none, .some (.inl captured.1)⟩
  · intro x y same
    have before := mirrors.homes same
    exact ⟨.inl before.1, opened.keepsCaptured _ before.2.1, opened'.keepsCaptured _ before.2.2⟩
  · intro x y member
    rcases List.mem_cons.mp member with new | old
    · cases new
      exact .inr ⟨rfl, rfl⟩
    · exact .inl (mirrors.held old)
  · intro count
    rw [Arena.upcomingId, Arena.upcomingId, opened.nextId_eq, opened'.nextId_eq]
    exact mirrors.upcoming count

omit mirrors in
theorem drop {s t : FrameId} (mirrors : Mirrors valid valid' (pairs.hold s t) frames A B) :
    Mirrors valid valid' pairs
      (fun a b => frames a b ∧ (leftPolicy.drop s A).IsAllocated a ∧
        (rightPolicy.drop t B).IsAllocated b)
      (leftPolicy.drop s A) (rightPolicy.drop t B) := by
  have dropped := lawful.drop mirrors.left
  have dropped' := lawful'.drop mirrors.right
  refine mirrors.narrow lawful lawful' dropped.2.partOf dropped'.2.partOf dropped.1 dropped'.1
    rfl (fun same _ _ => same) ?_ ?_ ?_
  · intro a b same
    have before := mirrors.homes same
    exact ⟨before.1, dropped.2.keepsCaptured _ before.2.1, dropped'.2.keepsCaptured _ before.2.2⟩
  · exact fun member => mirrors.held (List.mem_cons_of_mem _ member)
  · intro count
    rw [Arena.upcomingId, Arena.upcomingId, dropped.2.nextId_eq, dropped'.2.nextId_eq]
    exact mirrors.upcoming count

end Mirrors

/-- Every captured frame, identity and handle of an arena stands for itself. -/
def Correspondence.identity (arena : Arena) (held : List FrameId) : Correspondence where
  homes a b := a = b ∧ arena.IsCaptured a
  ids := Eq
  held := held.map fun id => (id, id)

theorem Value.Related.refl_of_admits {arena : Arena} (held : List FrameId) (value : Value)
    (admits : arena.Admits value) : (Correspondence.identity arena held).Values value value :=
  .refl value fun _ carried => ⟨rfl, rfl, rfl, rfl, admits _ (value.home_mem carried)⟩

theorem Mirrors.refl {valid valid' : Arena → List FrameId → Prop} {arena : Arena}
    {held : List FrameId} (left : valid arena held) (right : valid' arena held)
    (coherent : arena.Coherent held) :
    Mirrors valid valid' (Correspondence.identity arena held)
      (fun a b => a = b ∧ arena.IsAllocated a) arena arena where
  left := by simpa [Correspondence.identity, Function.comp_def] using left
  right := by simpa [Correspondence.identity, Function.comp_def] using right
  unique := by
    refine ⟨fun a b c same other => same.1.trans other.1.symm, fun a b c same other => ?_⟩
    exact same.1.symm.trans other.1
  alike {a b} same := by
    rcases same with ⟨rfl, allocated⟩
    rcases Arena.isAllocated_iff.mp allocated with ⟨frame, found⟩
    refine ⟨frame, frame, found, found, fun name => ?_, ?_⟩
    · cases bound : frame.lookup? name with
      | none => exact .none
      | some value =>
          refine .some (.refl_of_admits held value ?_)
          exact coherent.home_captured found _ (Frame.mem_of_lookup? bound)
    · cases outward : frame.outer with
      | none => exact .none
      | some outer =>
          have step : arena.outer? a = some outer := by simpa [Arena.outer?, found] using outward
          exact .some ⟨rfl, coherent.outer_allocated step⟩
  homes {a b} same := by
    rcases same with ⟨rfl, captured⟩
    exact ⟨⟨rfl, captured.isAllocated⟩, captured, captured⟩
  held {a b} member := by
    rcases List.mem_map.mp member with ⟨id, inHeld, same⟩
    cases same
    exact ⟨rfl, coherent.held_allocated a inHeld⟩
  unique_ids := by
    refine ⟨fun a b c same other => same.trans other.symm, fun a b c same other => ?_⟩
    exact same.symm.trans other
  upcoming count := rfl

/-- Arenas that mirror each other by some relation of frames. -/
def Mirrored (valid valid' : Arena → List FrameId → Prop) (pairs : Correspondence)
    (A B : Arena) : Prop :=
  ∃ frames, Mirrors valid valid' pairs frames A B

/-- Evaluations under lawful policies simulate each other. -/
theorem FramePolicy.Lawful.simulates {valid valid' : Arena → List FrameId → Prop}
    {left right : FramePolicy} (lawful : left.Lawful valid) (lawful' : right.Lawful valid') :
    Simulates (Mirrored valid valid') left right where
  toldApart := by
    rintro pairs A B ⟨frames, mirrors⟩ left right left' right' same same'
    constructor
    · intro equal
      exact mirrors.unique_ids.2 same.ids (equal ▸ same'.ids)
    · intro equal
      exact mirrors.unique_ids.1 same.ids (equal ▸ same'.ids)
  lookup := by
    rintro pairs A B s t ⟨frames, mirrors⟩ held name
    exact mirrors.lookup lawful lawful' (mirrors.held held) name
  bind := by
    rintro pairs A B s t v u ⟨frames, mirrors⟩ held related name
    exact ⟨frames, mirrors.bind lawful lawful' (mirrors.held held) related name⟩
  close := by
    rintro pairs A B s t ⟨frames, mirrors⟩ held parameters body
    rcases mirrors.close lawful lawful' (mirrors.held held) parameters body with
      ⟨later, extends_, closed, same⟩
    exact ⟨later, extends_, ⟨_, closed⟩, same⟩
  enclose := by
    rintro pairs A B a b ⟨frames, mirrors⟩ home
    exact mirrors.enclose lawful lawful' home
  drop := by
    rintro pairs A B s t ⟨frames, mirrors⟩
    exact ⟨_, mirrors.drop lawful lawful'⟩

/-- The pairs of frames that are captured in two arenas. -/
def Correspondence.within (pairs : Correspondence) (A B : Arena) : Correspondence :=
  { pairs with homes a b := pairs.homes a b ∧ A.IsCaptured a ∧ B.IsCaptured b }

namespace FramePolicy.Lawful

variable {valid valid' : Arena → List FrameId → Prop} {left right : FramePolicy}
  (lawful : left.Lawful valid) (lawful' : right.Lawful valid')

include lawful lawful' in
theorem collect_mirrored {pairs : Correspondence} {A B : Arena}
    (mirrored : Mirrored valid valid' pairs A B) {values values' : List Value}
    (admitted : ∀ value ∈ values, A.Admits value)
    (admitted' : ∀ value ∈ values', B.Admits value) :
    Mirrored valid valid' (pairs.within (left.collect values A) (right.collect values' B))
      (left.collect values A) (right.collect values' B) := by
  rcases mirrored with ⟨frames, mirrors⟩
  rcases lawful.collect mirrors.left admitted with ⟨collected, part, nextId, _⟩
  rcases lawful'.collect mirrors.right admitted' with ⟨collected', part', nextId', _⟩
  refine ⟨_, mirrors.narrow lawful lawful' part part' collected collected' rfl ?_ ?_ mirrors.held
    fun count => ?_⟩
  · exact fun same captured captured' => ⟨same, captured, captured'⟩
  · exact fun same => ⟨(mirrors.homes same.1).1, same.2⟩
  · rw [Arena.upcomingId, Arena.upcomingId, nextId, nextId']
    exact mirrors.upcoming count

include lawful in
/-- A run keeps an arena valid and its captured frames, and yields a value of it. -/
theorem run (program : Program) {arena : Arena} {held : List FrameId} {scope : FrameId}
    (validity : valid arena held) (member : scope ∈ held) :
    valid (program.run left scope arena).2 held ∧
      arena.KeepsCaptured (program.run left scope arena).2 ∧
      ∀ value ∈ Program.outcomeValues (program.run left scope arena).1,
        (program.run left scope arena).2.Admits value := by
  have start : Mirrored valid valid (Correspondence.identity arena held) arena arena :=
    ⟨_, .refl validity validity (lawful.coherent validity)⟩
  have both : (scope, scope) ∈ (Correspondence.identity arena held).held :=
    List.mem_map_of_mem member
  rcases (lawful.simulates lawful).run program both start with
    ⟨later, extends_, ⟨frames, mirrors⟩, outcome⟩
  refine ⟨?_, fun id captured => ?_, ?_⟩
  · have kept := mirrors.left
    rw [extends_.held] at kept
    simpa [Correspondence.identity, Function.comp_def] using kept
  · exact (mirrors.homes (extends_.homes id id ⟨rfl, captured⟩)).2.1
  · exact (mirrors.admits_all outcome.outcomeValues).1

include lawful lawful' in
/-- A program has the same outcome in arenas that mirror each other, which they go on to do. -/
theorem evaluateWith (program : Program) {pairs : Correspondence} {A B : Arena} {s t : FrameId}
    (held : (s, t) ∈ pairs.held) (mirrored : Mirrored valid valid' pairs A B) :
    ∃ later : Correspondence, later.ids = pairs.ids ∧ later.held = pairs.held ∧
      Mirrored valid valid' later (program.evaluateWith left s A).2
        (program.evaluateWith right t B).2 ∧
      Result.Related later.Values (program.evaluateWith left s A).1
        (program.evaluateWith right t B).1 := by
  rcases (lawful.simulates lawful').run program held mirrored with
    ⟨middle, extends_, mirrored, outcome⟩
  change ∃ later : Correspondence, _ ∧ _ ∧
    Mirrored valid valid' later
      (left.collect (Program.outcomeValues (program.run left s A).1) (program.run left s A).2)
      (right.collect (Program.outcomeValues (program.run right t B).1)
        (program.run right t B).2) ∧
    Result.Related later.Values (program.run left s A).1 (program.run right t B).1
  generalize program.run left s A = ended at *
  generalize program.run right t B = ended' at *
  rcases ended with ⟨result, A'⟩
  rcases ended' with ⟨result', B'⟩
  dsimp only at mirrored outcome ⊢
  rcases id mirrored with ⟨frames, mirrors⟩
  have admits := mirrors.admits_all outcome.outcomeValues
  rcases lawful.collect mirrors.left admits.1 with ⟨_, _, _, stays⟩
  rcases lawful'.collect mirrors.right admits.2 with ⟨_, _, _, stays'⟩
  refine ⟨middle.within (left.collect (Program.outcomeValues result) A')
    (right.collect (Program.outcomeValues result') B'), extends_.ids, extends_.held,
    lawful.collect_mirrored lawful' mirrored admits.1 admits.2, ?_⟩
  cases outcome with
  | ok same =>
      refine .ok (same.mono_of_admits (fun left right closed captured captured' => ?_)
        (stays _ List.mem_cons_self) (stays' _ List.mem_cons_self))
      exact ⟨closed.ids, closed.parameters, closed.body, closed.homes, captured, captured'⟩
  | error error => exact .error error

end FramePolicy.Lawful

end Monkey
