import Monkey.Proofs.Arena.Reach
import Monkey.Proofs.Evaluation.Mirror

/-!
# A call depends only on what it reaches

Take a value with arguments in one arena and a value with arguments in another one, and a
one-to-one correspondence between the frames that these reach. Then the two calls come to the
same error or to values that correspond again. The rest of either arena, such as the frame that
the call is made from, frames in between and the free places, has no part in it: the frames that
correspond are all that evaluation mirrors.
-/

namespace Monkey

/-- An identity that no closure still to be made will have. -/
def Arena.HasIssued (arena : Arena) (id : ClosureId) : Prop :=
  ∀ count, id ≠ arena.upcomingId count

/-- A one-to-one correspondence between what values reach in two arenas: the values agree up to
closures over the same function literals, with identities and homes that stand for each other, and
the frames in reach that stand for each other bind the same names to such values within such
frames. -/
structure Correspondence.Matches (pairs : Correspondence) (A B : Arena)
    (values values' : List Value) : Prop where
  unique : Relator.BiUnique pairs.homes
  unique_ids : Relator.BiUnique pairs.ids
  related : List.Forall₂ pairs.Values values values'
  alike : ∀ {a b}, pairs.homes a b → A.ReachedFrom values a → B.ReachedFrom values' b →
    ∃ frame frame', A.frame? a = some frame ∧ B.frame? b = some frame' ∧
      frame.Alike pairs.Values pairs.homes frame'

namespace Correspondence

variable {pairs : Correspondence} {A B : Arena} {values values' : List Value}
  {valid valid' : Arena → List FrameId → Prop}

/-- The homes that values reach, with the identities that stand for each other and those still
to come. -/
def reached (pairs : Correspondence) (A B : Arena) (values values' : List Value) :
    Correspondence where
  homes a b := (pairs.homes a b ∧ A.ReachedFrom values a ∧ B.ReachedFrom values' b) ∧
    A.IsCaptured a ∧ B.IsCaptured b
  ids id id' := pairs.ids id id' ∨ ∃ count, id = A.upcomingId count ∧ id' = B.upcomingId count
  held := []

theorem unique_reached_ids (unique : Relator.BiUnique pairs.ids)
    (issued : ∀ id id', pairs.ids id id' → A.HasIssued id ∧ B.HasIssued id') :
    Relator.BiUnique (pairs.reached A B values values').ids := by
  constructor
  · rintro x y z (same | ⟨count, rfl, rfl⟩) (other | ⟨count', rfl, here⟩)
    · exact unique.1 same other
    · exact absurd here ((issued _ _ same).2 count')
    · exact absurd rfl ((issued _ _ other).2 count)
    · rw [Arena.upcomingId_inj.mp here]
  · rintro x y z (same | ⟨count, rfl, rfl⟩) (other | ⟨count', here, rfl⟩)
    · exact unique.2 same other
    · exact absurd here ((issued _ _ same).1 count')
    · exact absurd rfl ((issued _ _ other).1 count)
    · rw [Arena.upcomingId_inj.mp here]

theorem reached_values {left right : Value} (related : pairs.Values left right)
    (homes : ∀ home ∈ left.home?, A.ReachedFrom values home ∧ A.IsCaptured home)
    (homes' : ∀ home ∈ right.home?, B.ReachedFrom values' home ∧ B.IsCaptured home) :
    (pairs.reached A B values values').Values left right := by
  refine related.mono_of_homes (fun left right same here here' => ?_) homes homes'
  exact ⟨.inl same.ids, same.parameters, same.body, ⟨same.homes, here.1, here'.1⟩,
    here.2, here'.2⟩

theorem Matches.reached_related (same : pairs.Matches A B values values')
    (admits : ∀ value ∈ values, A.Admits value) (admits' : ∀ value ∈ values', B.Admits value) :
    List.Forall₂ (pairs.reached A B values values').Values values values' := by
  refine List.forall₂_iff_get.mpr ⟨same.related.length_eq, fun index inside inside' => ?_⟩
  have member := List.getElem_mem inside
  have member' := List.getElem_mem inside'
  refine reached_values (same.related.get inside inside') (fun home refers => ?_)
    fun home refers => ?_
  · exact ⟨⟨_, member, home, refers, .refl⟩, admits _ member _ refers⟩
  · exact ⟨⟨_, member', home, refers, .refl⟩, admits' _ member' _ refers⟩

/-- What corresponds mirrors each other, once the frames are narrowed to those in reach. -/
theorem Matches.mirrors (same : pairs.Matches A B values values') (left : valid A [])
    (right : valid' B []) (coherent : A.Coherent []) (coherent' : B.Coherent [])
    (issued : ∀ id id', pairs.ids id id' → A.HasIssued id ∧ B.HasIssued id') :
    Mirrors valid valid' (pairs.reached A B values values')
      (fun a b => pairs.homes a b ∧ A.ReachedFrom values a ∧ B.ReachedFrom values' b) A B where
  left := left
  right := right
  unique := by
    refine ⟨fun a b c one other => same.unique.1 one.1 other.1, fun a b c one other => ?_⟩
    exact same.unique.2 one.1 other.1
  alike {a b} matched := by
    rcases matched with ⟨matched, reached, reached'⟩
    rcases same.alike matched reached reached' with ⟨frame, frame', found, found', alike⟩
    refine ⟨frame, frame', found, found', alike.mono ?_ ?_⟩
    · intro name value value' bound bound' related
      have member := Frame.mem_of_lookup? bound
      have member' := Frame.mem_of_lookup? bound'
      refine reached_values related (fun home refers => ⟨reached.step ?_, ?_⟩)
        fun home refers => ⟨reached'.step ?_, ?_⟩
      · exact Arena.mem_references_of_binding found member refers
      · exact coherent.home_captured found _ member _ refers
      · exact Arena.mem_references_of_binding found' member' refers
      · exact coherent'.home_captured found' _ member' _ refers
    · intro id id' within within' matched
      exact ⟨matched, reached.step (Arena.mem_references_of_outer found within),
        reached'.step (Arena.mem_references_of_outer found' within')⟩
  homes matched := matched
  held member := by cases member
  unique_ids := unique_reached_ids same.unique_ids issued
  upcoming count := .inr ⟨count, rfl, rfl⟩

end Correspondence

section Mirrors

variable {valid valid' : Arena → List FrameId → Prop} {pairs : Correspondence}
  {frames : FrameId → FrameId → Prop} {A B : Arena}
  (mirrors : Mirrors valid valid' pairs frames A B)

include mirrors

theorem Mirrors.values_frames {left right : Value} (related : pairs.Values left right) :
    (Correspondence.mk frames pairs.ids []).Values left right := by
  refine related.mono fun left right closed => ?_
  exact ⟨closed.ids, closed.parameters, closed.body, (mirrors.homes closed.homes).1⟩

/-- Whatever values agree in arenas that mirror each other, what they reach corresponds. -/
theorem Mirrors.matches {values values' : List Value}
    (same : List.Forall₂ pairs.Values values values') :
    (Correspondence.mk frames pairs.ids []).Matches A B values values' := by
  refine ⟨mirrors.unique, mirrors.unique_ids, same.imp fun _ _ => mirrors.values_frames, ?_⟩
  intro a b matched _ _
  rcases mirrors.alike matched with ⟨frame, frame', found, found', alike⟩
  exact ⟨frame, frame', found, found',
    alike.mono (fun _ _ _ _ _ => mirrors.values_frames) fun _ _ _ _ within => within⟩

end Mirrors

/-- A call depends only on what the callee and its arguments reach: if that corresponds in two
arenas, whatever else they hold, the call comes to the same error in both or to values that
correspond. Identities of closures are counted out, so those that stand for each other have to be
of closures that have been made. -/
theorem Value.apply_matches (remaining : Nat) {A B : Arena} {held held' : List FrameId}
    (wellFormed : A.WellFormed held) (wellFormed' : B.WellFormed held')
    {callee callee' : Value} {arguments arguments' : List Value}
    (admits : ∀ value ∈ callee :: arguments, A.Admits value)
    (admits' : ∀ value ∈ callee' :: arguments', B.Admits value) {pairs : Correspondence}
    (issued : ∀ id id', pairs.ids id id' → A.HasIssued id ∧ B.HasIssued id')
    (same : pairs.Matches A B (callee :: arguments) (callee' :: arguments')) :
    let left := Value.apply .reusing remaining callee arguments A
    let right := Value.apply .reusing remaining callee' arguments' B
    ∃ later : Correspondence, (∀ id id', pairs.ids id id' → later.ids id id') ∧
      Result.Related later.Values left.1 right.1 ∧
      later.Matches left.2 right.2 (Program.outcomeValues left.1 ++ callee :: arguments)
        (Program.outcomeValues right.1 ++ callee' :: arguments') := by
  intro left right
  have lawful := FramePolicy.reusing_lawful.beside held
  have lawful' := FramePolicy.reusing_lawful.beside held'
  have started : Mirrored (fun arena paired => arena.WellFormed (paired ++ held))
      (fun arena paired => arena.WellFormed (paired ++ held'))
      (pairs.reached A B (callee :: arguments) (callee' :: arguments')) A B :=
    ⟨_, same.mirrors wellFormed wellFormed' (wellFormed.toCoherent.of_subset (List.nil_subset _))
      (wellFormed'.toCoherent.of_subset (List.nil_subset _)) issued⟩
  rcases same.reached_related admits admits' with _ | ⟨callees, operands⟩
  rcases (lawful.simulates lawful').applications remaining callees operands started with
    ⟨later, extends_, ⟨frames, mirrors⟩, outcome⟩
  have reached : List.Forall₂ later.Values (callee :: arguments) (callee' :: arguments') :=
    .cons (extends_.values callees) (operands.imp fun _ _ => extends_.values)
  have corresponds := mirrors.matches (List.rel_append outcome.outcomeValues reached)
  have weaker (left right : Value) (related : later.Values left right) :
      (Correspondence.mk frames later.ids []).Values left right :=
    mirrors.values_frames related
  exact ⟨_, fun id id' paired => extends_.ids ▸ .inl paired, outcome.mono weaker, corresponds⟩

/-- A call that makes a closure over its own frame, once in a new session and once in a session
where a frame that shadows the same name lies in between. -/
theorem Value.apply_matches_shadowed :
    let name (text : String) : Identifier := .ofToken (.ident text)
    let block (value : Expr) : Block := ⟨.punctuation .openBrace, [.expr .eof value]⟩
    let sum : Expr := .binary (.operator .plus) (.ident (name "x")) .plus (.ident (name "y"))
    let body : Block := block (.function (.keyword .fnWord) [] (block sum))
    let home : FrameId := ⟨0⟩
    let closed (session : Nat) : Closure × Arena :=
      ((Arena.start session).2.bind home "y" (.int 1)).close home [name "x"] body
    let A := (closed 0).2
    let B := ((closed 1).2.enclose home).2.bind ⟨1⟩ "y" (.int 2)
    let callee : Value := .closure (closed 0).1
    let callee' : Value := .closure (closed 1).1
    let pairs : Correspondence :=
      ⟨fun a b => a = home ∧ b = home, fun id id' => id = ⟨0, 0⟩ ∧ id' = ⟨1, 0⟩, []⟩
    let left := Value.apply .reusing 1 callee [.int 3] A
    let right := Value.apply .reusing 1 callee' [.int 3] B
    A.WellFormed [home] ∧ B.WellFormed [⟨1⟩, home] ∧
      pairs.Matches A B [callee, .int 3] [callee', .int 3] ∧
      (∃ later : Correspondence, (∀ id id', pairs.ids id id' → later.ids id id') ∧
        Result.Related later.Values left.1 right.1 ∧
        later.Matches left.2 right.2 (Program.outcomeValues left.1 ++ [callee, .int 3])
          (Program.outcomeValues right.1 ++ [callee', .int 3])) ∧
      (Program.outcomeValues left.1).filterMap Value.home? = [⟨1⟩] ∧
      (Program.outcomeValues right.1).filterMap Value.home? = [⟨2⟩] := by
  intro name block sum body home closed A B callee callee' pairs left right
  have admitsInt (arena : Arena) (value : Int64) : arena.Admits (.int value) := by
    simp [Arena.Admits, Value.home?]
  have opened (session : Nat) : (closed session).2.WellFormed [home] :=
    ((Arena.WellFormed.start session).bind (admitsInt _ 1)).close home [name "x"] body
  have enclosed : ((closed 1).2.enclose home).2.WellFormed [⟨1⟩, home] :=
    (opened 1).enclose rfl
  have wellFormed : B.WellFormed [⟨1⟩, home] := enclosed.bind (admitsInt _ 2)
  have admits : ∀ value ∈ [callee, .int 3], A.Admits value := by
    refine List.forall_mem_cons.mpr ⟨?_, List.forall_mem_singleton.mpr (admitsInt A 3)⟩
    rintro _ ⟨⟩
    exact ⟨_, rfl, rfl⟩
  have admits' : ∀ value ∈ [callee', .int 3], B.Admits value := by
    refine List.forall_mem_cons.mpr ⟨?_, List.forall_mem_singleton.mpr (admitsInt B 3)⟩
    rintro _ ⟨⟩
    exact ⟨_, rfl, rfl⟩
  have issued : ∀ id id', pairs.ids id id' → A.HasIssued id ∧ B.HasIssued id' := by
    have later (count : Nat) : 0 ≠ 1 + count := by omega
    rintro _ _ ⟨rfl, rfl⟩
    exact ⟨fun count made => later count (congrArg ClosureId.serial made),
      fun count made => later count (congrArg ClosureId.serial made)⟩
  have same : pairs.Matches A B [callee, .int 3] [callee', .int 3] := by
    refine ⟨?_, ?_, .cons (.closure ⟨⟨rfl, rfl⟩, rfl, rfl, rfl, rfl⟩) (.cons (.int 3) .nil), ?_⟩
    · exact ⟨fun _ _ _ one other => one.1.trans other.1.symm,
        fun _ _ _ one other => one.2.trans other.2.symm⟩
    · exact ⟨fun _ _ _ one other => one.1.trans other.1.symm,
        fun _ _ _ one other => one.2.trans other.2.symm⟩
    · rintro _ _ ⟨rfl, rfl⟩ _ _
      refine ⟨_, _, rfl, rfl, fun other => ?_, .none⟩
      change Option.Rel pairs.Values (List.lookup other [("y", .int 1)])
        (List.lookup other [("y", .int 1)])
      rw [Frame.lookup_cons_eq_ite]
      split
      · exact .some (.int 1)
      · exact .none
  exact ⟨opened 0, wellFormed, same,
    Value.apply_matches 1 (opened 0) wellFormed admits admits' issued same, rfl, rfl⟩

end Monkey
