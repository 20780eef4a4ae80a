import Monkey.Proofs.Evaluation.Balance
import Monkey.Proofs.Evaluation.Identity
import Monkey.Proofs.Evaluation.Levels
import Monkey.Proofs.Session

/-!
# Programs that bind nothing

A program without `let` outside of the bodies of functions binds names only in the frames of the
calls it makes, whatever it calls and however it ends. These frames are new, and none that a handle
reaches: so all that is in reach of a handle stays as it was, although frames may have come and
gone around it. Whoever looks from the handles sees the same arena as before, but for the numbers of
the closures still to be made.
-/

namespace Monkey

/-! ## Trees that bind nothing -/

mutual

/-- Whether an expression has no `let` outside of the bodies of functions. -/
def Expr.isLetFree : Expr → Bool
  | .unary _ _ operand => operand.isLetFree
  | .binary _ left _ right => left.isLetFree && right.isLetFree
  | .conditional _ condition consequence alternative =>
      condition.isLetFree && consequence.isLetFree && isLetFreeAlternative alternative
  | .call _ callee arguments => callee.isLetFree && areLetFreeArguments arguments
  | _ => true

def isLetFreeAlternative : Option Block → Bool
  | none => true
  | some block => block.isLetFree

def areLetFreeArguments : List Expr → Bool
  | [] => true
  | argument :: rest => argument.isLetFree && areLetFreeArguments rest

def Statement.isLetFree : Statement → Bool
  | .bind _ _ _ => false
  | .result _ value => value.isLetFree
  | .expr _ value => value.isLetFree

def areLetFreeStatements : List Statement → Bool
  | [] => true
  | statement :: rest => statement.isLetFree && areLetFreeStatements rest

def Block.isLetFree : Block → Bool
  | ⟨_, statements⟩ => areLetFreeStatements statements

end

/-- Whether a program has no `let` outside of the bodies of functions. -/
def Program.isLetFree (program : Program) : Bool :=
  areLetFreeStatements program.statements

theorem Expr.isLetFree_of_mem {argument : Expr} {arguments : List Expr}
    (free : areLetFreeArguments arguments = true) (member : argument ∈ arguments) :
    argument.isLetFree = true := by
  induction arguments with
  | nil => cases member
  | cons first rest ih =>
      rw [areLetFreeArguments, Bool.and_eq_true] at free
      rcases List.mem_cons.mp member with rfl | member
      · exact free.1
      · exact ih free.2 member

namespace Task

/-- Whether a task neither is nor opens a binding at its own level. -/
def IsLetFree : Task → Prop
  | .expr value => value.isLetFree = true
  | .statements list => areLetFreeStatements list = true
  | .bind _ => False

theorem isLetFree_ofBlock {block : Block} (free : block.isLetFree = true) :
    (ofBlock block).IsLetFree := by
  cases block
  exact free

theorem isLetFree_ofStatement {statement : Statement} (free : statement.isLetFree = true)
    {part : Task} (member : part ∈ ofStatement statement) : part.IsLetFree := by
  cases statement with
  | bind => cases free
  | _ =>
      cases List.mem_singleton.mp member
      exact free

theorem isLetFree_parts {task : Task} (free : task.IsLetFree) :
    ∀ part ∈ task.parts, part.IsLetFree := by
  intro part member
  -- What a tree with several parts needs is that each of them is free.
  cases isPart_of_mem member with
  | operand => exact free
  | left => exact (Bool.and_eq_true_iff.mp free).1
  | right => exact (Bool.and_eq_true_iff.mp free).2
  | condition => exact (Bool.and_eq_true_iff.mp (Bool.and_eq_true_iff.mp free).1).1
  | consequence =>
      exact isLetFree_ofBlock (Bool.and_eq_true_iff.mp (Bool.and_eq_true_iff.mp free).1).2
  | alternative => exact isLetFree_ofBlock (Bool.and_eq_true_iff.mp free).2
  | callee => exact (Bool.and_eq_true_iff.mp free).1
  | argument inside => exact Expr.isLetFree_of_mem (Bool.and_eq_true_iff.mp free).2 inside
  | statement inside => exact isLetFree_ofStatement (Bool.and_eq_true_iff.mp free).1 inside
  | rest => exact (Bool.and_eq_true_iff.mp free).2

end Task

namespace Configuration

/-- All moments of a run that nothing waits for are moments of one evaluation. -/
theorem within_of_runs {base moment : Configuration} (alone : base.stack = [])
    (runs : base.Runs moment) : base.Within moment := by
  induction runs with
  | refl => exact .refl
  | @tail earlier later _ stepped ih =>
      refine ih.tail ⟨stepped, fun ended => ?_⟩
      rcases earlier with ⟨control, scope, stack, depth, arena⟩
      rcases ended with ⟨rfl, done⟩
      cases control with
      | done outcome => simp [step, alone] at stepped
      | _ => cases done

/-- A program without `let` binds names within its calls alone. -/
theorem callers_ne_nil_of_isBinding {program : Program} (free : program.isLetFree = true)
    {scope : FrameId} {arena : Arena} {moment : Configuration}
    (runs : (Configuration.start program scope arena).Runs moment)
    (binding : moment.control.isBinding = true) : moment.callers ≠ [] := by
  rcases Relation.reflTransGen_iff_eq_or_transGen.mp (within_of_runs rfl runs) with rfl | during
  · cases binding
  · have whole : (Task.statements program.statements).IsLetFree := free
    have opened : ∀ task ∈ (Configuration.start program scope arena).control.opened,
        task.IsLetFree := Task.isLetFree_parts whole
    cases During.stage (fun _ => Task.isLetFree_parts) rfl opened during with
    | level waiting level ahead =>
        rcases Control.exists_bind_of_isBinding binding with entering | ⟨name, member⟩
        · rw [level.steady] at entering
          cases entering
        · exact (ahead _ member).elim
    | entering function opening waiting called enters =>
        rw [called.callers_eq]
        exact List.cons_ne_nil _ _
    | inside function opening middle waiting called begins within =>
        have deeper := within.callers_le
        rw [called.callers_eq, List.length_cons] at deeper
        exact List.ne_nil_of_length_pos ((Nat.succ_pos _).trans_le deeper)

end Configuration

/-! ## What stays in reach -/

namespace Arena

/-- Whether a frame can be reached from a handle. -/
def InReach (arena : Arena) (held : List FrameId) (id : FrameId) : Prop :=
  ∃ handle ∈ held, arena.Reaches handle id

/-- Whether another arena shows the same in all frames that handles reach. -/
def Retains (arena : Arena) (held : List FrameId) (later : Arena) : Prop :=
  ∀ ⦃id frame⦄, arena.InReach held id → arena.frame? id = some frame →
    ∃ same, later.frame? id = some same ∧ same.bindings = frame.bindings ∧
      same.outer = frame.outer

variable {arena middle later : Arena} {held held' : List FrameId}

theorem InReach.step {id next : FrameId} (reached : arena.InReach held id)
    (refers : next ∈ arena.references id) : arena.InReach held next := by
  rcases reached with ⟨handle, member, reaches⟩
  exact ⟨handle, member, reaches.tail refers⟩

theorem WellFormed.isAllocated_of_inReach (wellFormed : arena.WellFormed held) {id : FrameId}
    (reached : arena.InReach held id) : arena.IsAllocated id := by
  have reachable : arena.Reachable [] id := wellFormed.reachable_iff.mpr (.inl reached)
  refine wellFormed.isAllocated_of_reachable ?_ reachable
  rintro _ ⟨⟩

namespace Retains

theorem refl (arena : Arena) (held : List FrameId) : arena.Retains held arena :=
  fun _ frame _ found => ⟨frame, found, rfl, rfl⟩

/-- More frames, with the others as they were seen, hide nothing. -/
theorem extend (retains : arena.Retains held middle) (part : middle.PartOf later) :
    arena.Retains held later := by
  intro id frame reached found
  rcases retains reached found with ⟨old, before, bindings, outer⟩
  rcases part before with ⟨same, after, bindings', outer'⟩
  exact ⟨same, after, bindings'.trans bindings, outer'.trans outer⟩

/-- A binding in a frame out of reach is not seen. -/
theorem bind (retains : arena.Retains held middle) {scope : FrameId}
    (hidden : ¬arena.InReach held scope) (name : String) (value : Value) :
    arena.Retains held (middle.bind scope name value) := by
  intro id frame reached found
  rcases retains reached found with ⟨old, before, same⟩
  have elsewhere : id ≠ scope := by
    rintro rfl
    exact hidden reached
  exact ⟨old, by simp [Arena.bind, frame?_modifyFrame, elsewhere, before], same⟩

/-- What is in reach of a handle is not freed as long as the handle is held. -/
theorem prune (retains : arena.Retains held middle) (wellFormed : later.WellFormed held')
    (part : later.PartOf middle) (subset : held ⊆ held') : arena.Retains held later := by
  have shown {id : FrameId} {frame : Frame} (reached : arena.InReach held id)
      (found : arena.frame? id = some frame) (allocated : later.IsAllocated id) :
      ∃ same, later.frame? id = some same ∧ same.bindings = frame.bindings ∧
        same.outer = frame.outer := by
    rcases isAllocated_iff.mp allocated with ⟨same, remains⟩
    rcases part remains with ⟨between, before, bindings, outer⟩
    rcases retains reached found with ⟨_, before', bindings', outer'⟩
    cases before.symm.trans before'
    exact ⟨same, remains, bindings.symm.trans bindings', outer.symm.trans outer'⟩
  have allocated {id : FrameId} (reached : arena.InReach held id) : later.IsAllocated id := by
    rcases reached with ⟨handle, member, reaches⟩
    induction reaches with
    | refl => exact wellFormed.held_allocated handle (subset member)
    | @tail inner next reaches refers ih =>
        rcases mem_references.mp refers with ⟨frame, found, seen⟩
        rcases shown ⟨handle, member, reaches⟩ found ih with ⟨same, remains, bindings, outer⟩
        rcases seen with outward | ⟨binding, bound, home⟩
        · have step : later.outer? inner = some next := by
            rw [outer?, remains, Option.bind_some, outer, outward]
          exact wellFormed.outer_allocated step
        · rw [← bindings] at bound
          exact (wellFormed.home_captured remains binding bound _ home).isAllocated
  exact fun id frame reached found => shown reached found (allocated reached)

end Retains

end Arena

namespace Configuration

/-- What holds at every moment of an evaluation that binds nothing: what handles reached at the
beginning is there as it was, and the frames of calls are not in reach of them. -/
structure Quiet (arena : Arena) (held : List FrameId) (moment : Configuration) : Prop where
  retains : arena.Retains held moment.arena
  hidden : ∀ id ∈ moment.frames, ¬arena.InReach held id

theorem Quiet.moves {arena : Arena} {held : List FrameId} {outermost : FrameId}
    {moment later : Configuration} (quiet : moment.Quiet arena held)
    (wellFormed : arena.WellFormed held) (balanced : moment.Balanced outermost held)
    (deals : moment.DealsIn moment.arena.Admits) (balanced' : later.Balanced outermost held)
    (within : moment.control.isBinding = true → moment.callers ≠ [])
    (moves : moment.Moves later) : later.Quiet arena held := by
  have frames_eq (same : moment.SameCalls later) : later.frames = moment.frames := by
    rw [frames, frames, same.scope_eq, same.callers_eq]
  cases moves with
  | stays same arena_eq =>
      exact ⟨arena_eq ▸ quiet.retains, frames_eq same ▸ quiet.hidden⟩
  | closes same parameters body arena_eq =>
      refine ⟨?_, frames_eq same ▸ quiet.hidden⟩
      rw [arena_eq]
      exact quiet.retains.extend (.of_recount _ _ Frame.recounts_capture)
  | binds same name used arena_eq binding =>
      refine ⟨?_, frames_eq same ▸ quiet.hidden⟩
      rw [arena_eq]
      refine quiet.retains.bind (quiet.hidden _ ?_) name _
      rcases List.exists_cons_of_ne_nil (within binding) with ⟨caller, callers, callers_eq⟩
      rw [frames, callers_eq]
      exact List.mem_cons_self
  | calls function used _ scope_eq callers_eq _ arena_eq =>
      have home : moment.arena.IsCaptured function.home := deals.control.used _ used _ rfl
      have opened :=
        (FramePolicy.reusing_lawful.enclose balanced.wellFormed home.isAllocated).2
      refine ⟨?_, ?_⟩
      · rw [arena_eq]
        exact quiet.retains.extend opened.partOf
      · rw [frames, scope_eq, callers_eq]
        refine List.forall_mem_cons.mpr ⟨fun reached => ?_, quiet.hidden⟩
        -- The place of the new frame was free, and frames in reach are in use.
        rcases Arena.isAllocated_iff.mp (wellFormed.isAllocated_of_inReach reached) with
          ⟨frame, found⟩
        rcases quiet.retains reached found with ⟨same, here, _⟩
        cases opened.vacant.symm.trans here
  | returns callers_eq _ arena_eq =>
      refine ⟨quiet.retains.prune balanced'.wellFormed ?_ ?_, fun id member => ?_⟩
      · rw [arena_eq]
        exact .drop _ _
      · exact List.subset_append_right _ _
      · refine quiet.hidden id ?_
        rw [frames, callers_eq]
        exact List.mem_cons_of_mem _ member

end Configuration

/-- A program that binds nothing leaves what handles reach as it was, whatever comes of it. -/
theorem Program.evaluate_retains {program : Program} (free : program.isLetFree = true)
    {arena : Arena} {held : List FrameId} {scope : FrameId} (wellFormed : arena.WellFormed held)
    (member : scope ∈ held) : arena.Retains held (program.evaluate scope arena).2 := by
  rcases Configuration.balanced_start program scope wellFormed with ⟨balanced, deals⟩
  rcases program.runs_evaluate scope arena with ⟨outcome, last, runs, ended⟩
  have quiet {moment : Configuration}
      (runs : (Configuration.start program scope arena).Runs moment) :
      moment.Quiet arena held := by
    induction runs with
    | refl => exact ⟨.refl arena held, by rintro _ ⟨⟩⟩
    | tail runs stepped ih =>
        rcases balanced.runs member deals runs with ⟨balanced, deals⟩
        exact ih.moves wellFormed balanced deals (balanced.step member deals stepped).1
          (Configuration.callers_ne_nil_of_isBinding free runs)
          (Configuration.moves_of_step stepped)
  rcases balanced.runs member deals runs with ⟨finished, dealt⟩
  rw [ended]
  exact (quiet runs).retains.prune
    (finished.wellFormed.collect _ dealt.control.outcomeValues)
    (Arena.WellFormed.partOf_collect last _) (List.Subset.refl _)

/-! ## What follows sees no difference -/

section Mirrored

variable {A B : Arena} {held : List FrameId}

/-- Frames in reach stand for themselves, and so do the closures there are; those still to be made
are paired as they come. -/
def Correspondence.unmoved (A B : Arena) (held : List FrameId) : Correspondence where
  homes a b := (a = b ∧ A.InReach held a) ∧ A.IsCaptured a ∧ B.IsCaptured b
  ids id id' := (id = id' ∧ A.HasIssued id) ∨
    ∃ count, id = A.upcomingId count ∧ id' = B.upcomingId count
  held := held.map fun id => (id, id)

/-- An arena mirrors any that shows the same in the frames that handles reach, if its closures are
still known there. -/
theorem Arena.Retains.mirrors (retains : A.Retains held B) (wellFormed : A.WellFormed held)
    (wellFormed' : B.WellFormed held) (precedes : A.Precedes B) (known : A.BindsOnly A.Knows) :
    Mirrors Arena.WellFormed Arena.WellFormed (Correspondence.unmoved A B held)
      (fun a b => a = b ∧ A.InReach held a) A B where
  left := by simpa [Correspondence.unmoved, Function.comp_def] using wellFormed
  right := by simpa [Correspondence.unmoved, Function.comp_def] using wellFormed'
  unique := ⟨fun _ _ _ one other => one.1.trans other.1.symm,
    fun _ _ _ one other => one.1.symm.trans other.1⟩
  alike {a b} same := by
    rcases same with ⟨rfl, reached⟩
    rcases Arena.isAllocated_iff.mp (wellFormed.isAllocated_of_inReach reached) with
      ⟨frame, found⟩
    rcases retains reached found with ⟨frame', found', bindings, outer⟩
    refine ⟨frame, frame', found, found', fun name => ?_, ?_⟩
    · rw [Frame.lookup?, Frame.lookup?, bindings]
      cases bound : frame.bindings.lookup name with
      | none => exact .none
      | some value =>
          have member := Frame.mem_of_lookup? bound
          refine .some (.refl value fun function carried => ?_)
          have refers := value.home_mem carried
          refine ⟨.inl ⟨rfl, known found _ member function carried⟩, rfl, rfl, ⟨rfl, ?_⟩, ?_, ?_⟩
          · exact reached.step (Arena.mem_references_of_binding found member refers)
          · exact wellFormed.home_captured found _ member _ refers
          · exact wellFormed'.home_captured found' _ (bindings ▸ member) _ refers
    · rw [outer]
      cases outward : frame.outer with
      | none => exact .none
      | some outer =>
          exact .some ⟨rfl, reached.step (Arena.mem_references_of_outer found outward)⟩
  homes same := same
  held {a b} member := by
    rcases List.mem_map.mp member with ⟨id, inHeld, same⟩
    cases same
    exact ⟨rfl, _, inHeld, .refl⟩
  unique_ids := by
    let issued : Correspondence := ⟨fun _ _ => False, fun id id' => id = id' ∧ A.HasIssued id, []⟩
    have unique : Relator.BiUnique issued.ids :=
      ⟨fun _ _ _ one other => one.1.trans other.1.symm,
        fun _ _ _ one other => one.1.symm.trans other.1⟩
    have paired : ∀ id id', issued.ids id id' → A.HasIssued id ∧ B.HasIssued id' := by
      rintro id _ ⟨rfl, issued⟩
      exact ⟨issued, precedes.hasIssued issued⟩
    have extended : Relator.BiUnique (issued.reached A B [] []).ids :=
      Correspondence.unique_reached_ids unique paired
    exact extended
  upcoming count := .inr ⟨count, rfl, rfl⟩

end Mirrored

/-- Whatever runs after a program that binds nothing runs as it would have before. -/
theorem Program.evaluate_mirrored {program : Program} (free : program.isLetFree = true)
    {arena : Arena} {held : List FrameId} {scope : FrameId} (wellFormed : arena.WellFormed held)
    (member : scope ∈ held) (known : arena.BindsOnly arena.Knows) :
    Mirrored Arena.WellFormed Arena.WellFormed
      (Correspondence.unmoved arena (program.evaluate scope arena).2 held) arena
      (program.evaluate scope arena).2 := by
  have retains := program.evaluate_retains free wellFormed member
  have precedes := (program.evaluate_knows scope known).2
  have wellFormed' := (program.evaluate_wellFormed wellFormed member).1
  exact ⟨_, retains.mirrors wellFormed wellFormed' precedes known⟩

end Monkey
