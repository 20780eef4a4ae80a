import Monkey.Proofs.Evaluation.Quiet
import Monkey.Proofs.Evaluation.Termination

/-!
# Where an evaluation writes

Only one frame can be written at any moment, that of the innermost call, and only by a parameter or
a `let` of that call. All other frames stay as they are seen. A frame that no open call runs in is
idle: it stays as it is for good, since a new call gets a place that no frame is at, and no frame is
freed by a return but that of the call. While a call waits for another one its frame is not written
either, so `WritesOnly` follows an evaluation step by step: what is bound in the frame of its scope
is bound at its own level, under the names that its tree binds.
-/

namespace Monkey

/-! ## Names that a tree binds -/

mutual

/-- The names that an expression binds outside of the bodies of functions. -/
def Expr.letNames : Expr → List String
  | .unary _ _ operand => operand.letNames
  | .binary _ left _ right => left.letNames ++ right.letNames
  | .conditional _ condition consequence alternative =>
      condition.letNames ++ (consequence.letNames ++ letNamesOfAlternative alternative)
  | .call _ callee arguments => callee.letNames ++ letNamesOfArguments arguments
  | _ => []

def letNamesOfAlternative : Option Block → List String
  | none => []
  | some block => block.letNames

def letNamesOfArguments : List Expr → List String
  | [] => []
  | argument :: rest => argument.letNames ++ letNamesOfArguments rest

def Statement.letNames : Statement → List String
  | .bind _ identifier value => value.letNames ++ [identifier.name]
  | .result _ value => value.letNames
  | .expr _ value => value.letNames

def letNamesOfStatements : List Statement → List String
  | [] => []
  | statement :: rest => statement.letNames ++ letNamesOfStatements rest

def Block.letNames : Block → List String
  | ⟨_, statements⟩ => letNamesOfStatements statements

end

/-- The names that a program binds outside of the bodies of functions. -/
def Program.letNames (program : Program) : List String :=
  letNamesOfStatements program.statements

theorem Expr.letNames_subset_of_mem {argument : Expr} {arguments : List Expr}
    (member : argument ∈ arguments) : argument.letNames ⊆ letNamesOfArguments arguments := by
  induction arguments with
  | nil => cases member
  | cons first rest ih =>
      rw [letNamesOfArguments]
      rcases List.mem_cons.mp member with rfl | member
      · exact List.subset_append_left _ _
      · exact List.Subset.trans (ih member) (List.subset_append_right _ _)

namespace Task

/-- The names that a task binds at its own level. -/
def letNames : Task → List String
  | .expr value => value.letNames
  | .statements list => letNamesOfStatements list
  | .bind name => [name]

theorem letNames_ofBlock (block : Block) : (ofBlock block).letNames = block.letNames := by
  cases block
  rfl

theorem letNames_ofStatement {statement : Statement} {part : Task}
    (member : part ∈ ofStatement statement) : part.letNames ⊆ statement.letNames := by
  cases statement with
  | bind _ identifier value =>
      simp only [ofStatement, List.mem_cons, List.not_mem_nil, or_false] at member
      rcases member with rfl | rfl
      · exact List.subset_append_left _ _
      · exact List.subset_append_right _ _
  | _ =>
      cases List.mem_singleton.mp member
      exact List.Subset.refl _

theorem letNames_parts {task part : Task} (member : part ∈ task.parts) :
    part.letNames ⊆ task.letNames := by
  -- What a tree with several parts binds is bound by one of them.
  cases isPart_of_mem member with
  | operand => exact List.Subset.refl _
  | left => exact List.subset_append_left _ _
  | right => exact List.subset_append_right _ _
  | condition => exact List.subset_append_left _ _
  | consequence =>
      rw [letNames_ofBlock]
      exact List.Subset.trans (List.subset_append_left _ _) (List.subset_append_right _ _)
  | alternative =>
      rw [letNames_ofBlock]
      exact List.Subset.trans (List.subset_append_right _ _) (List.subset_append_right _ _)
  | callee => exact List.subset_append_left _ _
  | argument inside =>
      exact List.Subset.trans (Expr.letNames_subset_of_mem inside)
        (List.subset_append_right _ _)
  | statement inside =>
      exact List.Subset.trans (letNames_ofStatement inside) (List.subset_append_left _ _)
  | rest => exact List.subset_append_right _ _

end Task

/-! ## Open calls and idle frames -/

namespace Configuration

/-- The scopes of the calls that have not returned, the innermost first, and the outermost scope. -/
def scopes (configuration : Configuration) : List FrameId :=
  configuration.scope :: configuration.callers

/-- What holds at every moment of an evaluation that starts in a scope with the given handles: it is
in balance, the homes of all closures in use are captured, and the frame of each call that has not
returned lies within a captured one. -/
structure Orderly (outermost : FrameId) (held : List FrameId) (configuration : Configuration) :
    Prop where
  balanced : configuration.Balanced outermost held
  deals : configuration.DealsIn configuration.arena.Admits
  rooted : ∀ id ∈ configuration.frames, ∀ outer, configuration.arena.outer? id = some outer →
    configuration.arena.IsCaptured outer

theorem SameCalls.scopes_eq {configuration later : Configuration}
    (same : configuration.SameCalls later) : later.scopes = configuration.scopes := by
  rw [scopes, scopes, same.scope_eq, same.callers_eq]

theorem frames_eq_of_scopes {configuration later : Configuration}
    (same : later.scopes = configuration.scopes) : later.frames = configuration.frames :=
  congrArg List.dropLast same

namespace Orderly

variable {outermost : FrameId} {held : List FrameId} {configuration later : Configuration}
  (orderly : configuration.Orderly outermost held)

include orderly

theorem isAllocated (member : outermost ∈ held) {id : FrameId}
    (isScope : id ∈ configuration.scopes) : configuration.arena.IsAllocated id := by
  refine orderly.balanced.wellFormed.held_allocated id ?_
  rw [scopes, ← List.dropLast_append_getLast? outermost orderly.balanced.getLast?_eq,
    List.mem_append, List.mem_singleton] at isScope
  rcases isScope with inside | rfl
  · exact List.mem_append_left _ inside
  · exact List.mem_append_right _ member

/-- The frame that a call is opened with is made at a place that has none. -/
theorem opened {function : Closure} (used : .closure function ∈ configuration.control.used) :
    configuration.arena.Opened function.home (configuration.arena.enclose function.home).1
      (configuration.arena.enclose function.home).2 := by
  have home : configuration.arena.IsCaptured function.home :=
    orderly.deals.control.used _ used _ rfl
  exact (FramePolicy.reusing_lawful.enclose orderly.balanced.wellFormed home.isAllocated).2

/-- All frames but that of the innermost call stay as they are seen. -/
theorem shows (moves : configuration.Moves later) {id : FrameId} {frame : Frame}
    (apart : id ≠ configuration.scope) (shown : configuration.arena.Shows id frame) :
    later.arena.Shows id frame := by
  cases moves with
  | stays same arena_eq => rwa [arena_eq]
  | closes same parameters body arena_eq =>
      rw [arena_eq]
      exact shown.extend (.of_recount _ configuration.scope Frame.recounts_capture)
  | binds same name bound arena_eq =>
      rw [arena_eq]
      exact shown.bind apart name _
  | calls function used _ _ _ _ arena_eq =>
      rw [arena_eq]
      exact shown.extend (orderly.opened used).partOf
  | returns callers_eq _ arena_eq =>
      rw [arena_eq]
      refine shown.drop apart (orderly.rooted _ ?_)
      rw [frames, callers_eq]
      exact List.mem_cons_self

/-- A frame that stays in use stays within the same outer frame. -/
theorem outer?_eq (moves : configuration.Moves later) {id : FrameId}
    (allocated : configuration.arena.IsAllocated id) (allocated' : later.arena.IsAllocated id) :
    later.arena.outer? id = configuration.arena.outer? id := by
  cases moves with
  | stays _ arena_eq => rw [arena_eq]
  | closes _ parameters body arena_eq =>
      rw [arena_eq]
      exact Arena.outer?_modifyFrame _ _ Frame.recounts_capture.outer id
  | @binds _ name value _ arena_eq =>
      have keeps : ∀ frame, (Frame.bind name value frame).outer = frame.outer := fun _ => rfl
      rw [arena_eq]
      exact Arena.outer?_modifyFrame _ _ keeps id
  | calls function used _ _ _ _ arena_eq =>
      rw [arena_eq]
      exact ((orderly.opened used).partOf.outer?_eq allocated).symm
  | returns _ _ arena_eq =>
      rw [arena_eq] at allocated' ⊢
      exact (Arena.PartOf.drop configuration.scope _).outer?_eq allocated'

theorem step (member : outermost ∈ held) (stepped : configuration.step = some later) :
    later.Orderly outermost held := by
  have moves := moves_of_step stepped
  have keeps := (orderly.balanced.moves orderly.deals moves).2
  rcases orderly.balanced.step member orderly.deals stepped with ⟨balanced, deals⟩
  refine ⟨balanced, deals, fun id isFrame outer outward => ?_⟩
  have known (before : id ∈ configuration.frames) : later.arena.IsCaptured outer := by
    have allocated := orderly.isAllocated member (List.dropLast_subset _ before)
    rw [orderly.outer?_eq moves allocated (Arena.isAllocated_of_outer? outward)] at outward
    exact keeps outer (orderly.rooted id before outer outward)
  cases moves with
  | stays same => exact known (frames_eq_of_scopes same.scopes_eq ▸ isFrame)
  | closes same => exact known (frames_eq_of_scopes same.scopes_eq ▸ isFrame)
  | binds same => exact known (frames_eq_of_scopes same.scopes_eq ▸ isFrame)
  | calls function used _ scope_eq callers_eq _ arena_eq =>
      rw [frames, scope_eq, callers_eq] at isFrame
      rcases List.mem_cons.mp isFrame with rfl | before
      · rw [arena_eq, Arena.outer?, (orderly.opened used).here] at outward
        cases outward
        exact keeps _ (orderly.deals.control.used _ used _ rfl)
      · exact known before
  | returns callers_eq _ _ =>
      refine known ?_
      rw [frames, callers_eq]
      exact List.mem_cons_of_mem _ isFrame

theorem runs (member : outermost ∈ held) (runs : configuration.Runs later) :
    later.Orderly outermost held := by
  induction runs with
  | refl => exact orderly
  | tail _ stepped ih => exact ih.step member stepped

/-- A frame that no open call runs in is not written, and none will. -/
theorem idle (member : outermost ∈ held) (runs : configuration.Runs later) {id : FrameId}
    {frame : Frame} (apart : id ∉ configuration.scopes)
    (shown : configuration.arena.Shows id frame) :
    id ∉ later.scopes ∧ later.arena.Shows id frame := by
  induction runs with
  | refl => exact ⟨apart, shown⟩
  | @tail middle later reached stepped ih =>
      rcases ih with ⟨apart, shown⟩
      have orderly := orderly.runs member reached
      have moves := moves_of_step stepped
      have elsewhere : id ≠ middle.scope := fun same => apart (same ▸ List.mem_cons_self)
      refine ⟨?_, orderly.shows moves elsewhere shown⟩
      cases moves with
      | stays same => rwa [same.scopes_eq]
      | closes same => rwa [same.scopes_eq]
      | binds same => rwa [same.scopes_eq]
      | calls function used _ scope_eq callers_eq =>
          rw [scopes, scope_eq, callers_eq, List.mem_cons, not_or]
          refine ⟨?_, apart⟩
          -- The new call gets a place that had no frame.
          rintro rfl
          rcases Arena.isAllocated_iff.mp shown.isAllocated with ⟨old, found⟩
          cases (orderly.opened used).vacant.symm.trans found
      | returns callers_eq =>
          rw [scopes, ← callers_eq]
          exact fun inside => apart (List.mem_cons_of_mem _ inside)

/-- Within an evaluation its calls stay open, and no call that it makes runs in the frame of its
scope. -/
theorem scopes_of_within (member : outermost ∈ held) {moment : Configuration}
    (within : configuration.Within moment) :
    ∃ inner, moment.scopes = inner ++ configuration.scopes ∧ configuration.scope ∉ inner := by
  induction within with
  | refl => exact ⟨[], rfl, List.not_mem_nil⟩
  | @tail earlier later within stepped ih =>
      rcases ih with ⟨inner, scopes_eq, apart⟩
      cases moves_of_step stepped.1 with
      | stays same => exact ⟨inner, same.scopes_eq.trans scopes_eq, apart⟩
      | closes same => exact ⟨inner, same.scopes_eq.trans scopes_eq, apart⟩
      | binds same => exact ⟨inner, same.scopes_eq.trans scopes_eq, apart⟩
      | calls function used _ scope_eq callers_eq =>
          refine ⟨later.scope :: inner, ?_, ?_⟩
          · rw [scopes, callers_eq, List.cons_append, ← scopes_eq, scopes]
          · rw [List.mem_cons, not_or]
            refine ⟨fun same => ?_, apart⟩
            have orderly := orderly.runs member (Within.runs within)
            have here : configuration.scope ∈ earlier.scopes := by
              rw [scopes_eq]
              exact List.mem_append_right _ List.mem_cons_self
            rcases Arena.isAllocated_iff.mp (orderly.isAllocated member here) with ⟨frame, found⟩
            rw [same, scope_eq, (orderly.opened used).vacant] at found
            cases found
      | returns callers_eq =>
          cases inner with
          | nil =>
              have open_ := Within.callers_le (within.tail stepped)
              have counted := congrArg List.length scopes_eq
              simp [scopes, callers_eq] at counted
              omega
          | cons first inner =>
              refine ⟨inner, ?_, fun inside => apart (List.mem_cons_of_mem _ inside)⟩
              rw [scopes, callers_eq, List.cons_append, List.cons.injEq] at scopes_eq
              exact scopes_eq.2

theorem scopes_eq_of_stack (member : outermost ∈ held) {moment : Configuration}
    (within : configuration.Within moment) (stack_eq : moment.stack = configuration.stack) :
    moment.scopes = configuration.scopes := by
  rcases orderly.scopes_of_within member within with ⟨inner, scopes_eq, _⟩
  have counted := congrArg List.length scopes_eq
  have callers_eq : moment.callers = configuration.callers := by rw [callers, callers, stack_eq]
  rw [scopes, scopes, List.length_append, List.length_cons, List.length_cons, callers_eq,
    Nat.right_eq_add, List.length_eq_zero_iff] at counted
  rwa [counted, List.nil_append] at scopes_eq

end Orderly

/-- A program starts in order. -/
theorem orderly_start (program : Program) {arena : Arena} {held : List FrameId} (scope : FrameId)
    (wellFormed : arena.WellFormed held) :
    (Configuration.start program scope arena).Orderly scope held := by
  rcases balanced_start program scope wellFormed with ⟨balanced, deals⟩
  exact ⟨balanced, deals, by rintro _ ⟨⟩⟩

end Configuration

/-! ## What an evaluation binds -/

/-- The name that a control binds next. -/
def Control.boundName? : Control → Option String
  | .enter (parameter :: _) (_ :: _) _ => some parameter.name
  | .bind name _ => some name
  | _ => none

theorem Control.bind_mem_ahead {control : Control} {name : String}
    (steady : control.isEntering = false) (bound : name ∈ control.boundName?) :
    .bind name ∈ control.ahead := by
  cases control with
  | enter => cases steady
  | bind other value =>
      cases bound
      exact List.mem_cons_self
  | _ => cases bound

namespace Configuration

/-- Whether the frame of an evaluation's scope stays in use up to its outcome, keeps its outer
frame, and is changed by no step but those that bind one of the given names with no call open but
those that were open at the beginning. -/
def WritesOnly (base : Configuration) (names : List String) : Prop :=
  ∀ earlier later, base.Within earlier → base.StepOf earlier later →
    ∃ frame, earlier.arena.frame? base.scope = some frame ∧
      (later.arena.Shows base.scope frame ∨ earlier.scopes = base.scopes ∧
        ∃ name ∈ names, ∃ value, later.arena.Shows base.scope (frame.bind name value))

/-- A step that binds a name binds the one that its control says. -/
theorem binds_of_step {configuration later : Configuration}
    (binding : configuration.control.isBinding = true)
    (stepped : configuration.step = some later) :
    later.arena = configuration.arena ∨ ∃ name ∈ configuration.control.boundName?, ∃ value,
      later.arena = configuration.arena.bind configuration.scope name value := by
  rcases configuration with ⟨control, scope, stack, depth, arena⟩
  cases control with
  | enter parameters arguments body =>
      cases stepped
      cases parameters with
      | nil => exact .inl rfl
      | cons parameter parameters =>
          cases arguments with
          | nil => exact .inl rfl
          | cons argument arguments => exact .inr ⟨parameter.name, rfl, argument, rfl⟩
  | bind name value =>
      cases stepped
      exact .inr ⟨name, rfl, value, rfl⟩
  | _ => cases binding

namespace Orderly

variable {outermost : FrameId} {held : List FrameId} {configuration later : Configuration}
  (orderly : configuration.Orderly outermost held)

include orderly

/-- The frame of the innermost call changes by what the control binds, if it stays. -/
theorem shows_scope (stepped : configuration.step = some later) {frame : Frame}
    (found : configuration.arena.frame? configuration.scope = some frame)
    (stays : later.arena.IsAllocated configuration.scope) :
    later.arena.Shows configuration.scope frame ∨
      ∃ name ∈ configuration.control.boundName?, ∃ value,
        later.arena.Shows configuration.scope (frame.bind name value) := by
  have shown : configuration.arena.Shows configuration.scope frame := ⟨frame, found, rfl, rfl⟩
  cases moves_of_step stepped with
  | stays same arena_eq => exact .inl (arena_eq ▸ shown)
  | closes same parameters body arena_eq =>
      rw [arena_eq]
      exact .inl (shown.extend (.of_recount _ configuration.scope Frame.recounts_capture))
  | binds same _ _ _ binding =>
      rcases binds_of_step binding stepped with arena_eq | ⟨name, bound, value, arena_eq⟩
      · exact .inl (arena_eq ▸ shown)
      · refine .inr ⟨name, bound, value, frame.bind name value, ?_, rfl, rfl⟩
        simp [arena_eq, Arena.bind, Arena.frame?_modifyFrame, found]
  | calls function used _ _ _ _ arena_eq =>
      rw [arena_eq]
      exact .inl (shown.extend (orderly.opened used).partOf)
  | returns _ _ arena_eq =>
      rw [arena_eq] at stays ⊢
      exact .inl (shown.prune (.drop _ _) stays)

theorem writesOnly (member : outermost ∈ held) {names : List String}
    (bound : ∀ moment, configuration.Within moment → moment.scopes = configuration.scopes →
      ∀ name ∈ moment.control.boundName?, name ∈ names) : configuration.WritesOnly names := by
  intro earlier later within stepped
  rcases orderly.scopes_of_within member within with ⟨inner, scopes_eq, apart⟩
  rcases orderly.scopes_of_within member (within.tail stepped) with ⟨_, scopes_eq', _⟩
  have orderly' := orderly.runs member within.runs
  have inUse : earlier.arena.IsAllocated configuration.scope := by
    refine orderly'.isAllocated member ?_
    rw [scopes_eq]
    exact List.mem_append_right _ List.mem_cons_self
  rcases Arena.isAllocated_iff.mp inUse with ⟨frame, found⟩
  refine ⟨frame, found, ?_⟩
  cases inner with
  | nil =>
      have scope_eq : earlier.scope = configuration.scope := (List.cons.inj scopes_eq).1
      have stays : later.arena.IsAllocated earlier.scope := by
        refine (orderly'.step member stepped.1).isAllocated member ?_
        rw [scopes_eq', scope_eq]
        exact List.mem_append_right _ List.mem_cons_self
      rw [← scope_eq] at found ⊢
      rcases orderly'.shows_scope stepped.1 found stays with shown | ⟨name, binds, written⟩
      · exact .inl shown
      · exact .inr ⟨scopes_eq, name, bound earlier within scopes_eq name binds, written⟩
  | cons first inner =>
      -- A call within the evaluation is the innermost one, and runs in another frame.
      have elsewhere : configuration.scope ≠ earlier.scope := by
        rw [(List.cons.inj scopes_eq).1]
        exact List.ne_of_not_mem_cons apart
      exact .inl (orderly'.shows (moves_of_step stepped.1) elsewhere ⟨frame, found, rfl, rfl⟩)

end Orderly

/-- At the level of what is evaluated only names are bound that its tree binds. -/
theorem boundName_of_begins {base moment : Configuration} {task : Task}
    (begins : base.Begins task) (within : base.Within moment)
    (level : moment.scopes = base.scopes) {name : String}
    (bound : name ∈ moment.control.boundName?) : name ∈ task.letNames := by
  rcases Control.ahead_of_begun begins with ⟨steady, ahead_eq, opened_eq⟩
  have kept {moment : Configuration} (steady : moment.control.isEntering = false)
      (ahead : ∀ task' ∈ moment.control.ahead, task'.letNames ⊆ task.letNames)
      (bound : name ∈ moment.control.boundName?) : name ∈ task.letNames :=
    ahead _ (Control.bind_mem_ahead steady bound) List.mem_cons_self
  have callers_eq : moment.callers = base.callers := (List.cons.inj level).2
  rcases Relation.reflTransGen_iff_eq_or_transGen.mp within with rfl | during
  · refine kept steady ?_ bound
    rw [ahead_eq]
    exact List.forall_mem_singleton.mpr (List.Subset.refl _)
  · have opened : ∀ part ∈ base.control.opened, part.letNames ⊆ task.letNames := by
      rw [opened_eq]
      exact fun part member => Task.letNames_parts member
    have closed (task' : Task) (among : task'.letNames ⊆ task.letNames) (part : Task)
        (member : part ∈ task'.parts) : part.letNames ⊆ task.letNames :=
      List.Subset.trans (Task.letNames_parts member) among
    cases During.stage closed steady opened during with
    | level waiting level ahead => exact kept level.steady ahead bound
    | entering function opening waiting called enters =>
        rw [called.callers_eq] at callers_eq
        exact absurd callers_eq (List.cons_ne_self _ _)
    | inside function opening middle waiting called begins within =>
        have deeper := within.callers_le
        rw [called.callers_eq, callers_eq, List.length_cons] at deeper
        exact absurd deeper (Nat.not_succ_le_self _)

/-- A call binds its parameters first. All moments after that are within its body. -/
theorem entering_or_inside {base moment : Configuration} {parameters : List Identifier}
    {arguments : List Value} {body : Block}
    (enters : base.control = .enter parameters arguments body) (within : base.Within moment) :
    (∃ rest values, rest <:+ parameters ∧ moment.control = .enter rest values body ∧
        moment.stack = base.stack) ∨
      ∃ middle, base.Within middle ∧ middle.stack = base.stack ∧
        middle.control = body.control ∧ middle.Within moment := by
  induction within with
  | refl => exact .inl ⟨parameters, arguments, List.suffix_refl _, enters, rfl⟩
  | @tail earlier later within stepped ih =>
      rcases ih with ⟨rest, values, suffix, control_eq, stack_eq⟩ | ⟨middle, reached, stack_eq,
        begins, inner⟩
      · have begun (control_eq' : later.control = body.control)
            (stack_eq' : later.stack = earlier.stack) :
            ∃ middle, base.Within middle ∧ middle.stack = base.stack ∧
              middle.control = body.control ∧ middle.Within later :=
          ⟨later, within.tail stepped, stack_eq'.trans stack_eq, control_eq', .refl⟩
        have stepped' := stepped.1
        rw [step, control_eq] at stepped'
        cases stepped'
        cases rest with
        | nil => exact .inr (begun rfl rfl)
        | cons parameter rest =>
            cases values with
            | nil => exact .inr (begun rfl rfl)
            | cons value values =>
                exact .inl ⟨rest, values, (List.suffix_cons _ _).trans suffix, rfl, stack_eq⟩
      · refine .inr ⟨middle, reached, stack_eq, begins, inner.tail ⟨stepped.1, fun ended => ?_⟩⟩
        exact stepped.2 ⟨ended.1.trans stack_eq, ended.2⟩

theorem Orderly.writesOnly_begins {outermost : FrameId} {held : List FrameId}
    {base : Configuration} (orderly : base.Orderly outermost held) (member : outermost ∈ held)
    {task : Task} (begins : base.Begins task) : base.WritesOnly task.letNames :=
  orderly.writesOnly member fun _ within level _ bound =>
    boundName_of_begins begins within level bound

/-- The frame of a call is written by the call alone, under the names of its parameters and those
that its body binds. -/
theorem Orderly.writesOnly_enters {outermost : FrameId} {held : List FrameId}
    {base : Configuration} (orderly : base.Orderly outermost held) (member : outermost ∈ held)
    {parameters : List Identifier} {arguments : List Value} {body : Block}
    (enters : base.control = .enter parameters arguments body) :
    base.WritesOnly (parameters.map Identifier.name ++ body.letNames) := by
  refine orderly.writesOnly member fun moment within level name bound => ?_
  rcases entering_or_inside enters within with ⟨rest, values, suffix, control_eq, _⟩ |
    ⟨middle, reached, stack_eq, begins, inner⟩
  · refine List.mem_append_left _ ?_
    rw [control_eq] at bound
    cases rest with
    | nil => cases bound
    | cons parameter rest =>
        cases values with
        | nil => cases bound
        | cons value values =>
            cases bound
            exact List.mem_map_of_mem (suffix.subset List.mem_cons_self)
  · refine List.mem_append_right _ ?_
    have task : middle.Begins (.ofBlock body) := by
      rw [Begins, begins]
      rfl
    have level' := level.trans (orderly.scopes_eq_of_stack member reached stack_eq).symm
    rw [← Task.letNames_ofBlock]
    exact boundName_of_begins task inner level' bound

end Configuration

/-! ## What an evaluation leaves -/

/-- Whether a frame stands at a place that has the outer frame of a given one, and that binds
what the given one binds but for the given names. -/
def Arena.ShowsBut (names : List String) (arena : Arena) (id : FrameId) (frame : Frame) : Prop :=
  ∃ same, arena.frame? id = some same ∧ same.outer = frame.outer ∧
    ∀ name, name ∉ names → same.lookup? name = frame.lookup? name

theorem Arena.ShowsBut.prune {names : List String} {arena later : Arena} {id : FrameId}
    {frame : Frame} (shown : arena.ShowsBut names id frame) (part : later.PartOf arena)
    (allocated : later.IsAllocated id) : later.ShowsBut names id frame := by
  rcases isAllocated_iff.mp allocated with ⟨same, remains⟩
  rcases shown with ⟨old, found, outer, alike⟩
  rcases part remains with ⟨_, before, bindings', outer'⟩
  cases found.symm.trans before
  refine ⟨same, remains, outer'.symm.trans outer, fun name apart => ?_⟩
  rw [← alike name apart, Frame.lookup?, Frame.lookup?, bindings']

namespace Configuration

theorem WritesOnly.showsBut {base moment : Configuration} {names : List String}
    (writes : base.WritesOnly names) {frame : Frame}
    (found : base.arena.frame? base.scope = some frame) (within : base.Within moment) :
    moment.arena.ShowsBut names base.scope frame := by
  induction within with
  | refl => exact ⟨frame, found, rfl, fun _ _ => rfl⟩
  | @tail earlier later within stepped ih =>
      rcases ih with ⟨old, here, outer, alike⟩
      rcases writes earlier later within stepped with ⟨_, here', written⟩
      cases here.symm.trans here'
      rcases written with ⟨same, found', bindings, outer'⟩ |
        ⟨_, bound, member, value, same, found', bindings, outer'⟩
      · refine ⟨same, found', outer'.trans outer, fun name apart => ?_⟩
        rw [← alike name apart, Frame.lookup?, Frame.lookup?, bindings]
      · refine ⟨same, found', outer'.trans outer, fun name apart => ?_⟩
        have different : name ≠ bound := fun same => apart (same ▸ member)
        have kept : same.lookup? name = (old.bind bound value).lookup? name := by
          rw [Frame.lookup?, Frame.lookup?, bindings]
        rw [kept, Frame.lookup?_bind, if_neg different, alike name apart]

/-- Whether a moment opens a call of a closure. -/
structure Opens (opening : Configuration) (function : Closure) (arguments : List Value) :
    Prop where
  control_eq : opening.control = .apply (.closure function) arguments
  step_eq : opening.step = some (opening.call function arguments)

/-- Whether the call that a moment opens comes to its outcome at another one, and returns by the
next step. -/
structure Returns (opening : Configuration) (function : Closure) (arguments : List Value)
    (ended returned : Configuration) : Prop where
  within : (opening.call function arguments).Within ended
  comes : (opening.call function arguments).Ended ended
  step_eq : ended.step = some returned

theorem Opens.used {opening : Configuration} {function : Closure} {arguments : List Value}
    (opens : opening.Opens function arguments) :
    .closure function ∈ opening.control.used := by
  rw [opens.control_eq]
  exact List.mem_cons_self

/-- A call goes back to the calls that it was made in, and its frame is given up. -/
theorem Returns.arena_eq {opening ended returned : Configuration} {function : Closure}
    {arguments : List Value} (returns : opening.Returns function arguments ended returned) :
    returned.scopes = opening.scopes ∧ returned.arena = ended.arena.drop ended.scope := by
  rcases returns with ⟨-, comes, stepped⟩
  rcases ended with ⟨control, scope, stack, depth, arena⟩
  rcases comes with ⟨rfl, done⟩
  cases control with
  | done outcome =>
      cases stepped
      exact ⟨rfl, rfl⟩
  | _ => cases done

/-- A run that has come to its end is the rest of any other run from the same beginning. -/
theorem runs_of_runs {configuration moment last : Configuration}
    (runs : configuration.Runs moment) (toEnd : configuration.Runs last)
    (ended : last.step = none) : moment.Runs last := by
  induction runs with
  | refl => exact toEnd
  | tail _ stepped ih =>
      rcases Relation.ReflTransGen.cases_head ih with rfl | ⟨next, stepped', rest⟩
      · rw [ended] at stepped
        cases stepped
      · cases stepped.symm.trans stepped'
        exact rest

/-- In a run that has come to its end every call that was opened has returned. -/
theorem Opens.exists_returns {opening last : Configuration} {function : Closure}
    {arguments : List Value} (opens : opening.Opens function arguments)
    (runs : opening.Runs last) (alone : last.stack = []) (ended : last.step = none) :
    ∃ ended returned, opening.Returns function arguments ended returned := by
  let entered := opening.call function arguments
  have reached {moment : Configuration} (runs : entered.Runs moment) :
      entered.Within moment ∨ ∃ ended, entered.Within ended ∧ entered.Ended ended := by
    induction runs with
    | refl => exact .inl .refl
    | @tail middle moment _ stepped ih =>
        rcases ih with within | ended
        · by_cases comes : entered.Ended middle
          · exact .inr ⟨middle, within, comes⟩
          · exact .inl (within.tail ⟨stepped, comes⟩)
        · exact .inr ended
  have toEnd : entered.Runs last := runs_of_runs (.single opens.step_eq) runs ended
  rcases reached toEnd with within | ⟨moment, within, comes⟩
  · -- The call itself would wait at the end.
    have suffix := within.suffix
    rw [alone, List.suffix_nil] at suffix
    cases suffix
  · have steps : ∃ returned, moment.step = some returned := by
      rcases moment with ⟨control, scope, stack, depth, arena⟩
      rcases comes with ⟨rfl, done⟩
      cases control with
      | done outcome => exact ⟨_, rfl⟩
      | _ => cases done
    rcases steps with ⟨returned, step_eq⟩
    exact ⟨moment, returned, within, comes, step_eq⟩

/-- The frame of a call that has returned is not written any more in the same evaluation. -/
theorem Orderly.returned {outermost : FrameId} {held : List FrameId}
    {opening ended returned : Configuration} (orderly : opening.Orderly outermost held)
    (member : outermost ∈ held) {function : Closure} {arguments : List Value}
    (opens : opening.Opens function arguments)
    (returns : opening.Returns function arguments ended returned) {frame : Frame}
    (found : ended.arena.frame? (opening.call function arguments).scope = some frame)
    (stays : returned.arena.IsAllocated (opening.call function arguments).scope)
    {moment : Configuration} (runs : returned.Runs moment) :
    moment.arena.Shows (opening.call function arguments).scope frame := by
  have entered := orderly.step member opens.step_eq
  have orderly' := (entered.runs member returns.within.runs).step member returns.step_eq
  rcases returns.arena_eq with ⟨scopes_eq, arena_eq⟩
  have apart : (opening.call function arguments).scope ∉ returned.scopes := by
    rw [scopes_eq]
    intro inside
    rcases Arena.isAllocated_iff.mp (orderly.isAllocated member inside) with ⟨old, here⟩
    cases (orderly.opened opens.used).vacant.symm.trans here
  have shown : ended.arena.Shows (opening.call function arguments).scope frame :=
    ⟨frame, found, rfl, rfl⟩
  have shown' : returned.arena.Shows (opening.call function arguments).scope frame := by
    refine shown.prune ?_ stays
    rw [arena_eq]
    exact .drop _ _
  exact (orderly'.idle member runs apart shown').2

end Configuration

/-- A program leaves the frames that there were as they were, but for that of its own scope. -/
theorem Program.evaluate_shows (program : Program) {arena : Arena} {held : List FrameId}
    {scope : FrameId} (wellFormed : arena.WellFormed held) (member : scope ∈ held) {id : FrameId}
    {frame : Frame} (apart : id ≠ scope) (shown : arena.Shows id frame) :
    (∀ moment, (Configuration.start program scope arena).Runs moment →
      moment.arena.Shows id frame) ∧
    ((program.evaluate scope arena).2.IsAllocated id →
      (program.evaluate scope arena).2.Shows id frame) := by
  have orderly := Configuration.orderly_start program scope wellFormed
  have kept {moment : Configuration}
      (runs : (Configuration.start program scope arena).Runs moment) :
      moment.arena.Shows id frame := by
    refine (orderly.idle member runs (fun inside => ?_) shown).2
    exact apart (List.mem_singleton.mp inside)
  refine ⟨fun moment => kept, fun stays => ?_⟩
  rcases program.runs_evaluate scope arena with ⟨outcome, last, runs, ended⟩
  rw [ended] at stays ⊢
  exact (kept runs).prune (Arena.WellFormed.partOf_collect last _) stays

end Monkey
