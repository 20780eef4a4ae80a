import Monkey.Proofs.Arena.Reach
import Monkey.Proofs.Evaluation.Policy
import Monkey.Proofs.Evaluation.Sorts

/-!
# Balance of handles and calls

At every moment of an evaluation one handle is held on the frame of each call that has not returned,
besides those that were held before, and as many calls are counted as have not returned. A return
gives up the handle on its frame and counts down whether the call comes to a value, to a pending
result or to an error.

So an evaluation that fails many calls deep leaves the same behind as one that succeeds: the handles
that there were before, and the frames in reach of them and of the value of the program, if it has
one.
-/

namespace Monkey

namespace Arena

/-- The number of handles on a frame; there are none on a frame that is not in use. -/
def handlesOn (arena : Arena) (id : FrameId) : Nat :=
  ((arena.frame? id).map Frame.handles).getD 0

theorem WellFormed.handlesOn_eq {arena : Arena} {held : List FrameId}
    (wellFormed : arena.WellFormed held) (id : FrameId) : arena.handlesOn id = held.count id := by
  cases found : arena.frame? id with
  | none =>
      have unheld : id ∉ held := by
        intro member
        simpa [IsAllocated, found] using wellFormed.held_allocated id member
      simp [handlesOn, found, List.count_eq_zero.mpr unheld]
  | some frame => simp [handlesOn, found, wellFormed.handles_eq found]

theorem isSort_admits (arena : Arena) : Value.IsSort arena.Admits where
  plain settled home refers := (settled.home_inside home refers).elim
  unwrap {value} admits := by cases value <;> exact admits

end Arena

namespace Configuration

/-- The frames of the calls that have not returned, the innermost first. The outermost scope is no
frame of a call. -/
def frames (configuration : Configuration) : List FrameId :=
  (configuration.scope :: configuration.callers).dropLast

/-- What holds at every moment of an evaluation that starts in a scope with the given handles: each
call that has not returned counts, and has a handle on its frame. -/
structure Balanced (outermost : FrameId) (held : List FrameId) (configuration : Configuration) :
    Prop where
  depth_eq : configuration.depth = configuration.callers.length
  wellFormed : configuration.arena.WellFormed (configuration.frames ++ held)
  getLast?_eq : (configuration.scope :: configuration.callers).getLast? = some outermost

/-- Whether a run comes back to the same frame, with the same things waiting and the same number of
calls. -/
def ComesBack (configuration : Configuration) : Prop :=
  ∃ outcome later, configuration.Runs
    { configuration with control := .done outcome, arena := later }

/-- Whether a run makes a frame at a place that has none. -/
def Makes (configuration : Configuration) (id : FrameId) : Prop :=
  ∃ before after, configuration.Runs before ∧ before.step = some after ∧
    ¬before.arena.IsAllocated id ∧ after.arena.IsAllocated id

/-- An application comes back, whatever comes of it. -/
theorem comesBack {configuration : Configuration} {callee : Value} {arguments : List Value}
    (applies : configuration.control = .apply callee arguments) : configuration.ComesBack := by
  rcases configuration with ⟨control, scope, stack, depth, arena⟩
  cases applies
  exact ⟨_, _, applies_apply rfl scope callee arguments stack arena⟩

namespace Balanced

variable {outermost : FrameId} {held : List FrameId} {configuration later : Configuration}
  (balanced : configuration.Balanced outermost held)

include balanced

theorem scope_mem (member : outermost ∈ held) :
    configuration.scope ∈ configuration.frames ++ held := by
  have last := balanced.getLast?_eq
  unfold frames
  cases callers : configuration.callers with
  | nil =>
      rw [callers] at last
      cases last
      simpa using member
  | cons caller callers => exact List.mem_cons_self

theorem of_sameCalls (same : configuration.SameCalls later)
    (wellFormed : later.arena.WellFormed (configuration.frames ++ held)) :
    later.Balanced outermost held where
  depth_eq := by rw [same.depth_eq, same.callers_eq, balanced.depth_eq]
  wellFormed := by rwa [frames, same.scope_eq, same.callers_eq]
  getLast?_eq := by rw [same.scope_eq, same.callers_eq, balanced.getLast?_eq]

/-- A move keeps the balance and frees no captured frame. -/
theorem moves (deals : configuration.DealsIn configuration.arena.Admits)
    (moves : configuration.Moves later) :
    later.Balanced outermost held ∧ configuration.arena.KeepsCaptured later.arena := by
  have wellFormed := balanced.wellFormed
  have used := deals.control.used
  cases moves with
  | stays same arena_eq =>
      refine ⟨balanced.of_sameCalls same ?_, ?_⟩ <;> rw [arena_eq]
      · exact wellFormed
      · exact .refl _
  | closes same parameters body arena_eq =>
      refine ⟨balanced.of_sameCalls same ?_, ?_⟩ <;> rw [arena_eq]
      · exact wellFormed.close _ parameters body
      · exact .capture _ configuration.scope
  | binds same name bound arena_eq =>
      refine ⟨balanced.of_sameCalls same ?_, ?_⟩ <;> rw [arena_eq]
      · exact wellFormed.bind (used _ bound)
      · exact .bind _ configuration.scope name _
  | calls function callee _ scope_eq callers_eq depth_eq arena_eq =>
      -- The home of a closure in use is in use, so the new frame has an outer frame.
      have home : configuration.arena.IsCaptured function.home := used _ callee _ rfl
      have opened := FramePolicy.reusing_lawful.enclose wellFormed home.isAllocated
      refine ⟨⟨?_, ?_, ?_⟩, ?_⟩
      · rw [depth_eq, callers_eq, balanced.depth_eq, List.length_cons]
      · rw [frames, scope_eq, callers_eq, arena_eq]
        exact opened.1
      · rw [callers_eq, List.getLast?_cons_cons, balanced.getLast?_eq]
      · rw [arena_eq]
        exact opened.2.keepsCaptured
  | returns callers_eq depth_eq arena_eq =>
      have counted := balanced.depth_eq
      have last := balanced.getLast?_eq
      rw [frames, callers_eq] at wellFormed
      have dropped := wellFormed.drop configuration.scope
      rw [List.dropLast_cons_cons, List.cons_append, List.erase_cons_head] at dropped
      refine ⟨⟨?_, ?_, ?_⟩, ?_⟩
      · rw [depth_eq, counted, callers_eq, List.length_cons, Nat.add_sub_cancel]
      · rw [arena_eq]
        exact dropped.1
      · rwa [callers_eq, List.getLast?_cons_cons] at last
      · rw [arena_eq]
        exact dropped.2

/-- A step keeps the balance, and the homes of all closures in use. -/
theorem step (member : outermost ∈ held)
    (deals : configuration.DealsIn configuration.arena.Admits)
    (stepped : configuration.step = some later) :
    later.Balanced outermost held ∧ later.DealsIn later.arena.Admits := by
  rcases balanced.moves deals (moves_of_step stepped) with ⟨balanced', keeps⟩
  have kept : configuration.DealsIn later.arena.Admits :=
    deals.mono fun _ admits home refers => keeps home (admits home refers)
  refine ⟨balanced', kept.step later.arena.isSort_admits ?_ stepped⟩
  -- The home of a new closure has just been captured.
  rintro token parameters body literal home ⟨⟩
  rw [Configuration.step, literal] at stepped
  cases stepped
  exact Arena.isCaptured_capture
    (balanced.wellFormed.held_allocated _ (balanced.scope_mem member))

theorem runs (member : outermost ∈ held)
    (deals : configuration.DealsIn configuration.arena.Admits)
    (runs : configuration.Runs later) :
    later.Balanced outermost held ∧ later.DealsIn later.arena.Admits := by
  induction runs with
  | refl => exact ⟨balanced, deals⟩
  | tail _ stepped ih => exact ih.1.step member ih.2 stepped

/-- A place where a run makes a frame had no handle on it before. -/
theorem not_mem_of_makes (member : outermost ∈ held)
    (deals : configuration.DealsIn configuration.arena.Admits) {id : FrameId}
    (makes : configuration.Makes id) : id ∉ held := by
  rcases makes with ⟨before, _, reached, _, vacant, _⟩
  intro handle
  have wellFormed := (balanced.runs member deals reached).1.wellFormed
  exact vacant (wellFormed.held_allocated id (List.mem_append_right _ handle))

end Balanced

/-- A program starts in balance, and with closures whose homes are captured. -/
theorem balanced_start (program : Program) {arena : Arena} {held : List FrameId} (scope : FrameId)
    (wellFormed : arena.WellFormed held) :
    (Configuration.start program scope arena).Balanced scope held ∧
      (Configuration.start program scope arena).DealsIn arena.Admits := by
  refine ⟨⟨rfl, wellFormed, rfl⟩, .start arena.isSort_admits program scope ?_⟩
  exact fun _ _ found binding bound => wellFormed.home_captured found binding bound

end Configuration

/-- An evaluation comes to its end with the handles and the count of calls that there were before,
whether it succeeds or fails, and no frame stays but those in reach of handles and of the value of
the program. -/
theorem Program.evaluate_balanced (program : Program) {arena : Arena} {held : List FrameId}
    {scope : FrameId} (wellFormed : arena.WellFormed held) (member : scope ∈ held) :
    let begun := Configuration.start program scope arena
    let outcome := (program.evaluate scope arena).1
    let after := (program.evaluate scope arena).2
    (∀ configuration, begun.Runs configuration → configuration.Balanced scope held ∧
      ∀ callee arguments, configuration.control = .apply callee arguments →
        configuration.ComesBack) ∧
    (∃ result last, begun.Runs ⟨.done result, scope, [], 0, last⟩ ∧
      outcome = result.map Value.unwrap ∧ after = (last.collect (outcomeValues outcome)).2) ∧
    after.WellFormed held ∧
    (∀ id, after.handlesOn id = arena.handlesOn id) ∧
    (∀ id, begun.Makes id → after.handlesOn id = 0) ∧
    ∀ id, after.IsAllocated id ↔
      (∃ handle ∈ held, after.Reaches handle id) ∨
        after.ReachedFrom (outcomeValues outcome) id := by
  intro begun outcome after
  rcases Configuration.balanced_start program scope wellFormed with ⟨balanced, deals⟩
  rcases program.runs_evaluate scope arena with ⟨result, last, runs, ended⟩
  rcases balanced.runs member deals runs with ⟨finished, dealt⟩
  have outcome_eq : outcome = result.map Value.unwrap := congrArg Prod.fst ended
  have admitted : ∀ value ∈ outcomeValues outcome, last.Admits value :=
    outcome_eq ▸ dealt.control.outcomeValues
  have after_eq : after = (last.collect (outcomeValues outcome)).2 :=
    outcome_eq ▸ congrArg Prod.snd ended
  have wellFormed' : after.WellFormed held := after_eq ▸ finished.wellFormed.collect _ admitted
  refine ⟨fun configuration runs => ⟨(balanced.runs member deals runs).1, ?_⟩,
    ⟨result, last, runs, outcome_eq, after_eq⟩, wellFormed', fun id => ?_, fun id makes => ?_,
    fun id => ?_⟩
  · exact fun callee arguments => Configuration.comesBack
  · rw [wellFormed'.handlesOn_eq, wellFormed.handlesOn_eq]
  · rw [wellFormed'.handlesOn_eq, List.count_eq_zero]
    exact balanced.not_mem_of_makes member deals makes
  · rw [after_eq]
    exact finished.wellFormed.isAllocated_collect_iff admitted

/-- Two calls deep a program negates a Boolean. The frames of both calls are freed, although a
closure has captured the outer one. -/
theorem Program.evaluate_balanced_failure :
    let name (text : String) : Identifier := .ofToken (.ident text)
    let function (parameter : String) (statements : List Statement) : Expr :=
      .function (.keyword .fnWord) [name parameter] ⟨.punctuation .openBrace, statements⟩
    let define (text : String) (value : Expr) : Statement :=
      .bind (.keyword .letWord) (name text) value
    let call (callee : String) (argument : Expr) : Statement :=
      .expr .eof (.call (.punctuation .openParen) (.ident (name callee)) [argument])
    let negate : Expr :=
      function "y" [.expr .eof (.unary (.operator .minus) .minus (.ident (name "y")))]
    let program : Program :=
      ⟨[define "f" (function "x" [define "g" negate, call "g" (.ident (name "x"))]),
        call "f" (.bool (.keyword .trueWord) true)]⟩
    let opened := Arena.start 0
    let outcome := (program.evaluate opened.1 opened.2).1
    let after := (program.evaluate opened.1 opened.2).2
    opened.2.WellFormed [opened.1] ∧ opened.1 ∈ [opened.1] ∧
      outcome.isOk = false ∧ after.live = 1 ∧ after.free = [1, 2] ∧
      (∀ id, after.handlesOn id = opened.2.handlesOn id) ∧
      ∀ id, after.IsAllocated id ↔
        (∃ handle ∈ [opened.1], after.Reaches handle id) ∨
          after.ReachedFrom (outcomeValues outcome) id := by
  intro name function define call negate program opened outcome after
  have wellFormed : opened.2.WellFormed [opened.1] := .start 0
  have member : opened.1 ∈ [opened.1] := List.mem_cons_self
  have evaluated := (program.evaluate_balanced wellFormed member).2.2.2
  exact ⟨wellFormed, member, by decide +kernel, by decide +kernel, by decide +kernel,
    evaluated.1, evaluated.2.2⟩

end Monkey
