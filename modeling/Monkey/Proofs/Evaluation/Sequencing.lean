import Mathlib.Combinatorics.Enumerative.DoubleCounting
import Monkey.Proofs.Evaluation.Reuse

/-!
# Programs one after the other

A program that is split in two comes to the same as the whole, although the first part ends with a
collection that the whole does not make at that point. What a collection frees no program can
reach; so the arena with and without it mirror each other, and they go on to do so until the
collection at the end leaves the same number of frames in both.
-/

namespace Monkey

namespace Evaluation

variable {operand : Evaluation Value} {next next' : Value → Evaluation Value}

/-- What follows an operand sees no pending result. -/
theorem withOperand_congr
    (same : ∀ value, value.isReturned = false → next value = next' value) :
    withOperand operand next = withOperand operand next' := by
  unfold withOperand
  refine bind_congr fun value => ?_
  cases value with
  | returned value => rfl
  | _ => exact same _ rfl

/-- A pending result ends what follows at once or step by step. -/
theorem withOperand_assoc :
    withOperand (withOperand operand next) next' =
      withOperand operand fun value => withOperand (next value) next' := by
  unfold withOperand
  rw [bind_assoc]
  refine bind_congr fun value => ?_
  cases value with
  | returned value => exact pure_bind _ _
  | _ => rfl

end Evaluation

section Statements

variable {apply : Application} {scope : FrameId}

/-- The value before the first of statements has no part in what they come to. -/
theorem evaluateStatements_of_ne_nil {statements : List Statement} (nonempty : statements ≠ [])
    (latest other : Value) :
    evaluateStatements apply scope latest statements =
      evaluateStatements apply scope other statements := by
  cases statements with
  | nil => exact absurd rfl nonempty
  | cons statement rest => rw [evaluateStatements, evaluateStatements]

/-- Statements are evaluated part by part, as far as no return is met. -/
theorem evaluateStatements_append (first rest : List Statement) {latest : Value}
    (arrived : latest.isReturned = false) :
    evaluateStatements apply scope latest (first ++ rest) =
      Evaluation.withOperand (evaluateStatements apply scope latest first) fun value =>
        evaluateStatements apply scope value rest := by
  induction first generalizing latest with
  | nil =>
      rw [List.nil_append, evaluateStatements]
      cases latest with
      | returned value => simp [Value.isReturned] at arrived
      | _ => rfl
  | cons statement first ih =>
      rw [List.cons_append, evaluateStatements, evaluateStatements]
      exact (Evaluation.withOperand_congr fun value arrived => ih arrived).trans
        Evaluation.withOperand_assoc.symm

end Statements

namespace Mirrors

variable {pairs : Correspondence} {frames : FrameId → FrameId → Prop} {A B : Arena}
  {values values' : List Value} (mirrors : Mirrors Arena.Tidy Arena.Tidy pairs frames A B)
  (related : List.Forall₂ pairs.Values values values')

include mirrors

theorem exists_home {value value' : Value} (same : pairs.Values value value') {home : FrameId}
    (refers : home ∈ value.home?) : ∃ home' ∈ value'.home?, frames home home' :=
  exists_of_optionRel
    (same.home?_rel fun _ _ closed => (mirrors.homes closed.homes).1) refers

include related

/-- A frame that handles or values reach stands for one that they reach on the other side. -/
theorem reachable {a : FrameId} (reached : A.Reachable values a) :
    ∃ b, frames a b ∧ B.Reachable values' b := by
  induction reached with
  | held found handle =>
      rw [mirrors.left.handles_eq found] at handle
      rcases List.mem_map.mp (List.count_pos_iff.mp handle) with ⟨⟨a, b⟩, member, rfl⟩
      rcases mirrors.alike (mirrors.held member) with ⟨_, frame', _, found', _⟩
      refine ⟨b, mirrors.held member, .held found' ?_⟩
      rw [mirrors.right.handles_eq found']
      exact List.count_pos_iff.mpr (List.mem_map_of_mem member)
  | value member refers =>
      rcases List.getElem_of_mem member with ⟨index, inside, rfl⟩
      have inside' : index < values'.length := related.length_eq ▸ inside
      rcases mirrors.exists_home (related.get inside inside') refers with ⟨home', refers', same⟩
      exact ⟨home', same, .value (List.getElem_mem inside') refers'⟩
  | reference _ refers ih =>
      rcases ih with ⟨b, same, reached⟩
      rcases mirrors.alike same with ⟨frame, frame', found, found', alike⟩
      rcases mirrors.left.mem_references.mp refers with ⟨_, here, seen⟩
      rw [found] at here
      cases here
      rcases seen with outward | ⟨name, value, bound, home⟩
      · rcases exists_of_optionRel alike.outer outward with ⟨outer', outward', within⟩
        exact ⟨outer', within,
          reached.reference (mirrors.right.mem_references.mpr ⟨frame', found', .inl outward'⟩)⟩
      · rcases exists_of_optionRel (alike.bindings name) bound with ⟨value', bound', same'⟩
        rcases mirrors.exists_home same' home with ⟨home', refers', matched⟩
        refine ⟨home', matched, reached.reference (mirrors.right.mem_references.mpr ?_)⟩
        exact ⟨frame', found', .inr ⟨name, value', bound', refers'⟩⟩

theorem live_collect_le : (A.collect values).2.live ≤ (B.collect values').2.live := by
  have admits := mirrors.admits_all related
  rw [(mirrors.left.collect admits.1).toListsFree.live_eq,
    (mirrors.right.collect admits.2).toListsFree.live_eq]
  refine Finset.card_le_card_of_forall_subsingleton frames (fun a used => ?_) fun b _ => ?_
  · rw [Arena.mem_inUse, Arena.WellFormed.isAllocated_collect] at used
    rcases mirrors.reachable related used.2 with ⟨b, same, reached⟩
    rcases mirrors.alike same with ⟨_, frame', _, found', _⟩
    refine ⟨b, Arena.mem_inUse.mpr ?_, same⟩
    refine (Arena.WellFormed.isAllocated_collect B values' b).mpr ?_
    exact ⟨Arena.isAllocated_iff.mpr ⟨frame', found'⟩, reached⟩
  · rintro a ⟨_, same⟩ a' ⟨_, other⟩
    exact mirrors.unique.1 same other

/-- A collection leaves as many frames on both sides. -/
theorem live_collect_eq : (A.collect values).2.live = (B.collect values').2.live := by
  refine Nat.le_antisymm (mirrors.live_collect_le related) ?_
  refine mirrors.symm.live_collect_le (related.flip.imp fun _ _ same => ?_)
  exact Correspondence.symm_values same

end Mirrors

/-- Values that are not told apart and refer to frames that stand for each other. -/
structure Value.AlikeWithin (frames : FrameId → FrameId → Prop) (left right : Value) : Prop
    extends left.Alike right where
  homes : Option.Rel frames left.home? right.home?

/-- Arenas whose frames, as far as they stand for each other one to one, bind the same names to
values alike. -/
structure Arena.Alike (frames : FrameId → FrameId → Prop) (A B : Arena) : Prop where
  unique : Relator.BiUnique frames
  lookup : ∀ {a b}, frames a b → ∀ name,
    Option.Rel (Value.AlikeWithin frames) (A.lookup? a name) (B.lookup? b name)
  frame : ∀ {a b}, frames a b → ∃ frame frame', A.frame? a = some frame ∧
    B.frame? b = some frame' ∧ frame.Alike (Value.AlikeWithin frames) frames frame'

theorem Mirrors.alikeWithin {valid valid' : Arena → List FrameId → Prop} {pairs : Correspondence}
    {frames : FrameId → FrameId → Prop} {A B : Arena}
    (mirrors : Mirrors valid valid' pairs frames A B) (ids : pairs.ids = Eq) (left right : Value)
    (related : pairs.Values left right) : left.AlikeWithin frames right := by
  have literals : Value.Related (Closure.Alike Eq) left right :=
    related.mono fun _ _ closed => ids ▸ closed.alike
  exact ⟨literals.alike, related.home?_rel fun _ _ closed => (mirrors.homes closed.homes).1⟩

theorem Mirrors.arena_alike {pairs : Correspondence}
    {frames : FrameId → FrameId → Prop} {A B : Arena}
    (mirrors : Mirrors Arena.Tidy Arena.Tidy pairs frames A B) (ids : pairs.ids = Eq) :
    A.Alike frames B where
  unique := mirrors.unique
  lookup same name := by
    have lawful := FramePolicy.reusing_lawful_tidy
    exact optionRel_mono (mirrors.alikeWithin ids) (mirrors.lookup lawful lawful same name)
  frame same := by
    rcases mirrors.alike same with ⟨frame, frame', found, found', alike⟩
    exact ⟨frame, frame', found, found',
      alike.mono (fun _ _ _ _ _ => mirrors.alikeWithin ids _ _) fun _ _ _ _ within => within⟩

namespace Program

/-- A program comes to the same in arenas that mirror each other, and the collection at its end
leaves as many frames in both. -/
theorem evaluate_alike (program : Program) {pairs : Correspondence} {A B : Arena} {s t : FrameId}
    (mirrored : Mirrored Arena.Tidy Arena.Tidy pairs A B) (ids : pairs.ids = Eq)
    (held : (s, t) ∈ pairs.held) :
    let left := program.evaluate s A
    let right := program.evaluate t B
    left.2.live = right.2.live ∧ ∃ frames, left.2.Alike frames right.2 ∧
      (∀ a b, (a, b) ∈ pairs.held → frames a b) ∧
      Result.Related (Value.AlikeWithin frames) left.1 right.1 := by
  intro left right
  have lawful := FramePolicy.reusing_lawful_tidy
  constructor
  · rcases (lawful.simulates lawful).run program held mirrored with ⟨_, _, ⟨_, ran⟩, outcome⟩
    exact ran.live_collect_eq outcome.outcomeValues
  · rcases lawful.evaluateWith lawful program held mirrored with
      ⟨later, sameIds, handles, ⟨frames, mirrors⟩, outcome⟩
    have laterIds := sameIds.trans ids
    exact ⟨frames, mirrors.arena_alike laterIds, fun _ _ member => mirrors.held (handles ▸ member),
      outcome.mono (mirrors.alikeWithin laterIds)⟩

/-- A collection before a program cannot be observed by it. -/
theorem evaluate_collect (program : Program) {arena : Arena} {held : List FrameId}
    {scope : FrameId} (tidy : arena.Tidy held) (member : scope ∈ held) {values : List Value}
    (admitted : ∀ value ∈ values, arena.Admits value) :
    let left := program.evaluate scope arena
    let right := program.evaluate scope (arena.collect values).2
    left.2.live = right.2.live ∧ ∃ frames, left.2.Alike frames right.2 ∧
      (∀ id ∈ held, frames id id) ∧ Result.Related (Value.AlikeWithin frames) left.1 right.1 := by
  have lawful := FramePolicy.reusing_lawful_tidy
  have collected := tidy.collect admitted
  have whole := Mirrors.refl tidy tidy tidy.toCoherent
  have handles : (Correspondence.identity arena held).held.map Prod.snd = held := by
    simp [Correspondence.identity, Function.comp_def]
  have mirrored : Mirrored Arena.Tidy Arena.Tidy
      ((Correspondence.identity arena held).within arena (arena.collect values).2) arena
      (arena.collect values).2 := by
    refine ⟨_, whole.narrow lawful lawful (.refl arena)
      (Arena.WellFormed.partOf_collect arena values) whole.left (handles.symm ▸ collected) rfl
      (fun same captured captured' => ⟨same, captured, captured'⟩)
      (fun same => ⟨(whole.homes same.1).1, same.2⟩) whole.held fun count => ?_⟩
    simp [Correspondence.identity, Arena.upcomingId, Arena.collect, Arena.nextId_discardAll]
  have both (id : FrameId) (inHeld : id ∈ held) : (id, id) ∈ held.map fun id => (id, id) :=
    List.mem_map_of_mem inHeld
  rcases program.evaluate_alike mirrored rfl (both scope member) with
    ⟨live, frames, alike, handed, outcome⟩
  exact ⟨live, frames, alike, fun id inHeld => handed id id (both id inHeld), outcome⟩

/-- Where the whole of two parts ends, or how it goes on. -/
theorem evaluate_append_eq (first : List Statement) {rest : List Statement} (more : rest ≠ [])
    (scope : FrameId) (arena : Arena) :
    Program.evaluate ⟨first ++ rest⟩ scope arena =
      let ended := evaluateStatements (Value.apply .reusing callDepthLimit) scope .null first arena
      match ended.1 with
      | .ok value =>
          if value.isReturned then Program.evaluate ⟨first⟩ scope arena
          else Program.evaluate ⟨rest⟩ scope ended.2
      | .error _ => Program.evaluate ⟨first⟩ scope arena := by
  have parts : evaluateStatements (Value.apply .reusing callDepthLimit) scope .null
      (first ++ rest) =
        Evaluation.withOperand
          (evaluateStatements (Value.apply .reusing callDepthLimit) scope .null first) fun _ =>
            evaluateStatements (Value.apply .reusing callDepthLimit) scope .null rest :=
    (evaluateStatements_append first rest rfl).trans (Evaluation.withOperand_congr
      fun value _ => evaluateStatements_of_ne_nil more value .null)
  simp only [evaluate_eq, parts, Evaluation.withOperand_apply]
  rcases evaluateStatements (Value.apply .reusing callDepthLimit) scope .null first arena with
    ⟨_ | value, later⟩
  · rfl
  · cases value <;> rfl

/-- A program that is split in two comes to the same as the whole. An error or a return in the
first part is where the whole ends as well. Else the second part goes on where the first one ended,
and the collection in between cannot be observed: the error or the value is the same, the frames
bind the same names to the same, and as many of them are live. -/
theorem evaluate_append (first : List Statement) {rest : List Statement} (more : rest ≠ [])
    {arena : Arena} {held : List FrameId} {scope : FrameId} (tidy : arena.Tidy held)
    (member : scope ∈ held) :
    let ended := evaluateStatements (Value.apply .reusing callDepthLimit) scope .null first arena
    let whole := Program.evaluate ⟨first ++ rest⟩ scope arena
    let before := Program.evaluate ⟨first⟩ scope arena
    let after := Program.evaluate ⟨rest⟩ scope before.2
    (∀ error, before.1 = .error error → whole = before) ∧
      (∀ value, ended.1 = .ok (.returned value) → before.1 = .ok value ∧ whole = before) ∧
      ∀ value, ended.1 = .ok value → value.isReturned = false →
        whole.2.live = after.2.live ∧ ∃ frames, whole.2.Alike frames after.2 ∧
          (∀ id ∈ held, frames id id) ∧
          Result.Related (Value.AlikeWithin frames) whole.1 after.1 := by
  intro ended whole before after
  have parts : whole = match ended.1 with
      | .ok value => if value.isReturned then before else Program.evaluate ⟨rest⟩ scope ended.2
      | .error _ => before := evaluate_append_eq first more scope arena
  have beginning : before = (ended.1.map Value.unwrap,
      (ended.2.collect (outcomeValues (ended.1.map Value.unwrap))).2) :=
    evaluate_eq ⟨first⟩ scope arena
  refine ⟨fun error failed => ?_, fun value returned => ?_, fun value went arrived => ?_⟩
  · cases outcome : ended.1 with
    | error _ => simpa [outcome] using parts
    | ok value => simp [beginning, outcome, Except.map] at failed
  · simp [beginning, returned, Except.map, Value.unwrap, parts, Value.isReturned]
  · have ran := FramePolicy.reusing_lawful_tidy.run ⟨first⟩ tidy member
    rw [run_eq] at ran
    have resumed : whole = Program.evaluate ⟨rest⟩ scope ended.2 := by
      simpa [went, arrived] using parts
    have following : after = Program.evaluate ⟨rest⟩ scope
        (ended.2.collect (outcomeValues (ended.1.map Value.unwrap))).2 := by
      simp only [after, beginning]
    rw [resumed, following]
    exact evaluate_collect ⟨rest⟩ ran.1 member ran.2.2

/-- The first part leaves a frame that only its collection frees, so the second part takes another
place for its own frame than the whole does. -/
theorem evaluate_append_closures :
    let name (text : String) : Identifier := .ofToken (.ident text)
    let int (digits : String) (value : Int64) : Expr := .int (.int digits) value
    let block (value : Expr) : Block := ⟨.punctuation .openBrace, [.expr .eof value]⟩
    let function (parameters : List Identifier) (value : Expr) : Expr :=
      .function (.keyword .fnWord) parameters (block value)
    let call (argument : Expr) : Statement :=
      .expr .eof (.call (.punctuation .openParen) (.ident (name "make")) [argument])
    let make : Statement := .bind (.keyword .letWord) (name "make")
      (function [name "x"] (function [] (.ident (name "x"))))
    let first := [make, call (int "1" 1), .expr .eof (int "2" 2)]
    let rest := [call (int "3" 3)]
    let opened := Arena.start 0
    let whole := Program.evaluate ⟨first ++ rest⟩ opened.1 opened.2
    let after :=
      Program.evaluate ⟨rest⟩ opened.1 (Program.evaluate ⟨first⟩ opened.1 opened.2).2
    opened.2.Tidy [opened.1] ∧ rest ≠ [] ∧
      (whole.2.live = after.2.live ∧ ∃ frames, whole.2.Alike frames after.2 ∧
        (∀ id ∈ [opened.1], frames id id) ∧
        Result.Related (Value.AlikeWithin frames) whole.1 after.1) ∧
      (outcomeValues whole.1).filterMap Value.home? = [⟨2⟩] ∧
      (outcomeValues after.1).filterMap Value.home? = [⟨1⟩] := by
  intro name int block function call make first rest opened whole after
  have tidy : opened.2.Tidy [opened.1] := .start 0
  have more : rest ≠ [] := List.cons_ne_nil _ _
  have split := evaluate_append first more tidy List.mem_cons_self
  exact ⟨tidy, more, split.2.2 (.int 2) rfl rfl, by decide +kernel, by decide +kernel⟩

end Program

end Monkey
