import Mathlib.Data.Prod.Lex
import Monkey.Proofs.Evaluation.Balance
import Monkey.Proofs.Evaluation.Levels

/-!
# Every evaluation ends

A program may call itself without end, and the bodies of its calls come out of the arena, so the
tree of the program gives no bound. What does is a pair: the number of calls that may still be
nested, and then the size of what is evaluated. An evaluation that another one begins is either one
of a smaller part of the tree at the same number of calls, or that of the body of a closure with one
call more, of which there are at most `callDepthLimit`.

The machine shows this for all moments of a run: `During.stage` says where in an evaluation a moment
is, with the tasks that are smaller than the evaluation's own for those at its level.
-/

namespace Monkey

/-! ## The size of a tree -/

mutual

/-- The number of nodes of an expression. -/
def Expr.size : Expr → Nat
  | .unary _ _ operand => operand.size + 1
  | .binary _ left _ right => left.size + right.size + 1
  | .conditional _ condition consequence alternative =>
      condition.size + consequence.size + alternativeSize alternative + 1
  | .function _ _ body => body.size + 1
  | .call _ callee arguments => callee.size + argumentsSize arguments + 1
  | _ => 1

def alternativeSize : Option Block → Nat
  | none => 0
  | some block => block.size

def argumentsSize : List Expr → Nat
  | [] => 0
  | argument :: rest => argument.size + argumentsSize rest

def Statement.size : Statement → Nat
  | .bind _ _ value => value.size + 1
  | .result _ value => value.size + 1
  | .expr _ value => value.size + 1

def statementsSize : List Statement → Nat
  | [] => 0
  | statement :: rest => statement.size + statementsSize rest

def Block.size : Block → Nat
  | ⟨_, statements⟩ => statementsSize statements + 1

end

theorem Expr.size_le_of_mem {argument : Expr} {arguments : List Expr}
    (member : argument ∈ arguments) : argument.size ≤ argumentsSize arguments := by
  induction arguments with
  | nil => cases member
  | cons first rest ih =>
      rw [argumentsSize]
      rcases List.mem_cons.mp member with rfl | member
      · exact Nat.le_add_right _ _
      · exact (ih member).trans (Nat.le_add_left _ _)

theorem Statement.size_pos (statement : Statement) : 0 < statement.size := by
  cases statement <;> exact Nat.succ_pos _

namespace Task

/-- The size of the tree of a task; a value that is there only has to be bound. -/
def size : Task → Nat
  | .expr value => value.size
  | .statements list => statementsSize list
  | .bind _ => 0

theorem size_ofBlock (block : Block) : (ofBlock block).size < block.size := by
  cases block
  exact Nat.lt_succ_self _

theorem size_lt_of_mem_ofStatement {statement : Statement} {part : Task}
    (member : part ∈ ofStatement statement) : part.size < statement.size := by
  cases statement with
  | bind _ identifier value =>
      simp only [ofStatement, List.mem_cons, List.not_mem_nil, or_false] at member
      rcases member with rfl | rfl
      · exact Nat.lt_succ_self _
      · exact Nat.succ_pos _
  | _ =>
      cases List.mem_singleton.mp member
      exact Nat.lt_succ_self _

/-- The parts of a task are smaller than the task. -/
theorem size_lt_of_mem_parts {task part : Task} (member : part ∈ task.parts) :
    part.size < task.size := by
  cases isPart_of_mem member with
  | @operand _ _ operand => exact Nat.lt_succ_self operand.size
  | @left _ left right => exact Nat.lt_succ_of_le (Nat.le_add_right left.size right.size)
  | @right _ left right => exact Nat.lt_succ_of_le (Nat.le_add_left right.size left.size)
  | @condition _ condition consequence alternative =>
      show condition.size < condition.size + consequence.size + alternativeSize alternative + 1
      omega
  | @consequence _ condition consequence alternative =>
      have small := size_ofBlock consequence
      show _ < condition.size + consequence.size + alternativeSize alternative + 1
      omega
  | @alternative _ condition consequence alternative =>
      have small := size_ofBlock alternative
      show _ < condition.size + consequence.size + alternative.size + 1
      omega
  | @callee _ callee arguments =>
      exact Nat.lt_succ_of_le (Nat.le_add_right callee.size (argumentsSize arguments))
  | @argument _ callee argument arguments inside =>
      have small := Expr.size_le_of_mem inside
      show argument.size < callee.size + argumentsSize arguments + 1
      omega
  | statement inside =>
      exact (size_lt_of_mem_ofStatement inside).trans_le (Nat.le_add_right _ _)
  | @rest statement _ => exact Nat.lt_add_of_pos_left statement.size_pos

end Task

namespace Control

/-- What a control begins to evaluate. -/
def begun : Control → Option Task
  | .expr value => some (.expr value)
  | .statements _ list => some (.statements list)
  | _ => none

variable {control : Control} {task : Task}

theorem ahead_of_begun (begun : control.begun = some task) :
    control.isEntering = false ∧ control.ahead = [task] ∧ control.opened = task.parts := by
  cases control with
  | expr value => cases begun; exact ⟨rfl, rfl, rfl⟩
  | statements latest list => cases begun; exact ⟨rfl, rfl, rfl⟩
  | _ => cases begun

end Control

namespace Configuration

/-- Whether a moment begins the evaluation of an expression, or of what is left of the statements of
a program or block. -/
def Begins (task : Task) (moment : Configuration) : Prop :=
  moment.control.begun = some task

/-- Whether an evaluation begins directly within another one, not within a third one. -/
def Nests (outer inner : Configuration) : Prop :=
  outer.During inner ∧
    ∀ middle task, middle.Begins task → outer.During middle → ¬middle.During inner

/-- Whether an evaluation calls a closure, the body of which begins at another moment. -/
def CallsInto (outer : Configuration) (function : Closure) (inner : Configuration) : Prop :=
  ∃ opening arguments, outer.Within opening ∧
    opening.control = .apply (.closure function) arguments ∧
    inner.stack = .call opening.scope :: opening.stack ∧ inner.control = function.body.control

theorem acc_of_runs {configuration last : Configuration} (runs : configuration.Runs last)
    (ended : last.step = none) :
    Acc (fun later earlier : Configuration => earlier.step = some later) configuration := by
  induction runs using Relation.ReflTransGen.head_induction_on with
  | refl =>
      refine ⟨_, fun later stepped => ?_⟩
      rw [ended] at stepped
      cases stepped
  | head stepped _ ih =>
      refine ⟨_, fun later stepped' => ?_⟩
      cases stepped.symm.trans stepped'
      exact ih

/-- No step makes more calls be nested than may be. -/
theorem depth_le_of_runs {configuration later : Configuration} (runs : configuration.Runs later)
    (bounded : configuration.depth ≤ callDepthLimit) : later.depth ≤ callDepthLimit := by
  induction runs with
  | refl => exact bounded
  | @tail middle later _ stepped ih =>
      cases moves_of_step stepped with
      | stays same => exact same.depth_eq.trans_le ih
      | closes same => exact same.depth_eq.trans_le ih
      | binds same => exact same.depth_eq.trans_le ih
      | calls _ _ room _ _ depth_eq => exact depth_eq.trans_le room
      | returns _ depth_eq => exact depth_eq.trans_le ((Nat.sub_le _ _).trans ih)

/-- An evaluation within another one is of a smaller part of its tree, with the same calls open, or
is or lies within that of the body of a closure it calls, with one call more open. -/
theorem During.begins {outer inner : Configuration} {task part : Task}
    (during : outer.During inner) (begins : outer.Begins task) (begins' : inner.Begins part) :
    (inner.callers.length = outer.callers.length ∧ part.size < task.size) ∨
    ∃ function middle, outer.CallsInto function middle ∧ outer.During middle ∧
      middle.callers.length = outer.callers.length + 1 ∧ middle.Within inner := by
  have first := Control.ahead_of_begun begins
  have stage := during.stage (fun task' small part member =>
    (Task.size_lt_of_mem_parts member).trans small) first.1 (by
      rw [first.2.2]
      exact fun part member => Task.size_lt_of_mem_parts member)
  cases stage with
  | level waiting level ahead =>
      rw [(Control.ahead_of_begun begins').2.1] at ahead
      exact .inl ⟨congrArg _ level.callers_eq, ahead part List.mem_cons_self⟩
  | entering function opening waiting called enters =>
      rcases enters with ⟨parameters, arguments, control_eq⟩
      rw [Begins, control_eq] at begins'
      cases begins'
  | inside function opening middle waiting called body within =>
      rcases called.applies with ⟨arguments, control_eq⟩
      refine .inr ⟨function, middle, ?_, called.during, ?_, within⟩
      · exact ⟨opening, arguments, called.level.within, control_eq, called.stack_eq, body⟩
      · exact congrArg _ called.callers_eq

end Configuration

/-- An evaluation ends after finitely many steps with the outcome that evaluation has. At every
moment the calls that have not returned are at most as many as may be nested, and the way outward
from every frame ends. What an evaluation begins is of a smaller part of its tree with the same
calls, or the body of a closure it calls with one call more; so the pair of the calls that are left
and of the size decreases with every evaluation within another one. -/
theorem Program.evaluate_ends (program : Program) {arena : Arena} {held : List FrameId}
    {scope : FrameId} (wellFormed : arena.WellFormed held) (member : scope ∈ held) :
    let begun := Configuration.start program scope arena
    Acc (fun later earlier : Configuration => earlier.step = some later) begun ∧
    (∃ outcome last, begun.Runs ⟨.done outcome, scope, [], 0, last⟩ ∧
      program.evaluate scope arena = (outcome.map Value.unwrap,
        (last.collect (outcomeValues (outcome.map Value.unwrap))).2)) ∧
    (∀ moment, begun.Runs moment → moment.depth = moment.callers.length ∧
      moment.callers.length ≤ callDepthLimit ∧ moment.arena.Nested) ∧
    ∀ outer inner task part, begun.Runs outer → outer.Begins task → inner.Begins part →
      (outer.During inner → Prod.Lex (· < ·) (· < ·)
        (callDepthLimit - inner.depth, part.size) (callDepthLimit - outer.depth, task.size)) ∧
      (outer.Nests inner → inner.depth = outer.depth ∧ part.size < task.size ∨
        ∃ function, outer.CallsInto function inner ∧ inner.depth = outer.depth + 1 ∧
          inner.depth ≤ callDepthLimit) := by
  intro begun
  rcases Configuration.balanced_start program scope wellFormed with ⟨balanced, deals⟩
  rcases program.runs_evaluate scope arena with ⟨outcome, last, runs, ended⟩
  have kept {moment : Configuration} (runs : begun.Runs moment) :
      moment.depth = moment.callers.length ∧ moment.depth ≤ callDepthLimit ∧
        moment.arena.Nested := by
    have now := (balanced.runs member deals runs).1
    exact ⟨now.depth_eq, Configuration.depth_le_of_runs runs (Nat.zero_le _),
      now.wellFormed.toNested⟩
  refine ⟨Configuration.acc_of_runs runs rfl, ⟨outcome, last, runs, ended⟩,
    fun moment runs => ?_, fun outer inner task part runs begins begins' => ⟨fun during => ?_,
      fun nests => ?_⟩⟩
  · rcases kept runs with ⟨counted, bounded, nested⟩
    exact ⟨counted, counted ▸ bounded, nested⟩
  · rcases kept runs with ⟨counted, _⟩
    rcases kept (runs.trans during.within.runs) with ⟨counted', bounded', _⟩
    rcases during.begins begins begins' with ⟨same, smaller⟩ | ⟨_, _, _, _, deeper, within⟩
    · rw [show inner.depth = outer.depth by rw [counted, counted', same]]
      exact .right _ smaller
    · have deepest := within.callers_le
      exact .left _ _ (by omega)
  · rcases kept runs with ⟨counted, _⟩
    rcases kept (runs.trans nests.1.within.runs) with ⟨counted', bounded', _⟩
    rcases nests.1.begins begins begins' with
      ⟨same, smaller⟩ | ⟨function, middle, into, during, deeper, within⟩
    · exact .inl ⟨by rw [counted, counted', same], smaller⟩
    · -- Nothing comes between, so it is the body itself that begins.
      rcases Relation.reflTransGen_iff_eq_or_transGen.mp within with rfl | later
      · exact .inr ⟨function, into, by omega, bounded'⟩
      · have body : middle.Begins (.ofBlock function.body) := by
          rcases into with ⟨_, _, _, _, _, control_eq⟩
          rw [Configuration.Begins, control_eq]
          rfl
        exact absurd later (nests.2 middle _ body during)

/-- A function that calls its argument on itself, called on itself: the program has no base case. -/
theorem Program.evaluate_ends_self_application :
    let name (text : String) : Identifier := .ofToken (.ident text)
    let call (callee argument : String) : Statement :=
      .expr .eof (.call (.punctuation .openParen) (.ident (name callee)) [.ident (name argument)])
    let function : Expr :=
      .function (.keyword .fnWord) [name "x"] ⟨.punctuation .openBrace, [call "x" "x"]⟩
    let program : Program := ⟨[.bind (.keyword .letWord) (name "f") function, call "f" "f"]⟩
    let opened := Arena.start 0
    let begun := Configuration.start program opened.1 opened.2
    opened.2.WellFormed [opened.1] ∧ opened.1 ∈ [opened.1] ∧
      Acc (fun later earlier : Configuration => earlier.step = some later) begun ∧
      (∀ moment, begun.Runs moment → moment.callers.length ≤ callDepthLimit) ∧
      ∀ inner task part, begun.Begins task → inner.Begins part → begun.During inner →
        Prod.Lex (· < ·) (· < ·)
          (callDepthLimit - inner.depth, part.size) (callDepthLimit - begun.depth, task.size) := by
  intro name call function program opened begun
  have wellFormed : opened.2.WellFormed [opened.1] := .start 0
  have member : opened.1 ∈ [opened.1] := List.mem_cons_self
  rcases program.evaluate_ends wellFormed member with ⟨ends, -, moments, nested⟩
  refine ⟨wellFormed, member, ends, fun moment runs => (moments moment runs).2.1, ?_⟩
  exact fun inner task part begins begins' => (nested begun inner task part .refl begins begins').1

end Monkey
