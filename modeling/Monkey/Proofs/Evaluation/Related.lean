import Mathlib.Data.List.Forall2
import Monkey.Builtin
import Monkey.Evaluation.Operation

/-!
# Related values

Values are related if they agree in everything but their closures, and if these are related in a
given sense. Operators and built-in functions take related values to related results. They see
of a closure only whether it is the same as another one.
-/

namespace Monkey

/-- Values that agree up to their closures. -/
inductive Value.Related (closures : Closure → Closure → Prop) : Value → Value → Prop where
  | int (value : Int64) : Related closures (.int value) (.int value)
  | bool (value : Bool) : Related closures (.bool value) (.bool value)
  | string (text : String) : Related closures (.string text) (.string text)
  | null : Related closures .null .null
  | closure {left right : Closure} (same : closures left right) :
      Related closures (.closure left) (.closure right)
  | builtin (function : Builtin) : Related closures (.builtin function) (.builtin function)
  | returned {left right : Value} (inner : Related closures left right) :
      Related closures (.returned left) (.returned right)

namespace Value

/-- The closure that a value is or carries. -/
def closure? : Value → Option Closure
  | closure function => some function
  | returned value => value.closure?
  | _ => none

theorem home_mem {function : Closure} (value : Value) (carried : function ∈ value.closure?) :
    function.home ∈ value.home? := by
  induction value with
  | closure _ => exact congrArg (Option.map Closure.home) carried
  | returned value ih => exact ih carried
  | _ => cases carried

/-- A value is related to itself if the closure that it may carry is. -/
theorem Related.refl {closures : Closure → Closure → Prop} (value : Value)
    (same : ∀ function ∈ value.closure?, closures function function) :
    Related closures value value := by
  induction value with
  | int value => exact .int value
  | bool value => exact .bool value
  | string text => exact .string text
  | null => exact .null
  | closure function => exact .closure (same function rfl)
  | builtin function => exact .builtin function
  | returned value ih => exact .returned (ih same)

end Value

/-- Results that are the same error or agree in a given sense. -/
inductive Result.Related {Left Right : Type} (values : Left → Right → Prop) :
    Except EvalError Left → Except EvalError Right → Prop where
  | ok {left : Left} {right : Right} (same : values left right) :
      Related values (.ok left) (.ok right)
  | error (error : EvalError) : Related values (.error error) (.error error)

theorem Result.Related.map {Left Right Left' Right' : Type} {values : Left → Right → Prop}
    {values' : Left' → Right' → Prop} {f : Left → Left'} {g : Right → Right'}
    (keeps : ∀ left right, values left right → values' (f left) (g right))
    {left : Except EvalError Left} {right : Except EvalError Right}
    (related : Result.Related values left right) :
    Result.Related values' (left.map f) (right.map g) := by
  cases related with
  | ok same => exact .ok (keeps _ _ same)
  | error error => exact .error error

theorem Result.Related.mono {Left Right : Type} {values values' : Left → Right → Prop}
    (weaker : ∀ left right, values left right → values' left right)
    {left : Except EvalError Left} {right : Except EvalError Right}
    (related : Result.Related values left right) : Result.Related values' left right := by
  cases related with
  | ok same => exact .ok (weaker _ _ same)
  | error error => exact .error error

/-- Whether closures are told apart alike on both sides. -/
def Closure.ToldApart (closures : Closure → Closure → Prop) : Prop :=
  ∀ ⦃left right left' right'⦄, closures left right → closures left' right' →
    (left.id = left'.id ↔ right.id = right'.id)

namespace Value.Related

variable {closures closures' : Closure → Closure → Prop} {left right left' right' : Value}

theorem mono (weaker : ∀ left right, closures left right → closures' left right)
    (related : Related closures left right) : Related closures' left right := by
  induction related with
  | int value => exact .int value
  | bool value => exact .bool value
  | string text => exact .string text
  | null => exact .null
  | closure same => exact .closure (weaker _ _ same)
  | builtin function => exact .builtin function
  | returned _ ih => exact .returned ih

theorem typeName_eq (related : Related closures left right) : left.typeName = right.typeName := by
  induction related with
  | returned _ ih => simpa [typeName] using ih
  | _ => rfl

theorem isTruthy_eq (related : Related closures left right) : left.isTruthy = right.isTruthy := by
  cases related <;> rfl

theorem unwrap (related : Related closures left right) :
    Related closures left.unwrap right.unwrap := by
  cases related with
  | returned inner => exact inner
  | int value => exact .int value
  | bool value => exact .bool value
  | string text => exact .string text
  | null => exact .null
  | closure same => exact .closure same
  | builtin function => exact .builtin function

theorem inspect_eq_of_closures
    (shown : ∀ {left right}, closures left right → left.inspect = right.inspect)
    (related : Related closures left right) : left.inspect = right.inspect := by
  induction related with
  | closure same => exact shown same
  | returned _ ih => exact ih
  | _ => rfl

theorem inspect_eq
    (literals : ∀ {left right}, closures left right →
      left.parameters = right.parameters ∧ left.body = right.body)
    (related : Related closures left right) : left.inspect = right.inspect := by
  refine related.inspect_eq_of_closures fun same => ?_
  rcases literals same with ⟨parameters, body⟩
  rw [Closure.inspect, Closure.inspect, parameters, body]

theorem beq_eq (apart : Closure.ToldApart closures) (related : Related closures left right)
    (related' : Related closures left' right') : (left == left') = (right == right') := by
  change left.beq left' = right.beq right'
  induction related generalizing left' right' with
  | closure same =>
      cases related' with
      | closure same' => simp [beq, beq_eq_decide, apart same same']
      | _ => rfl
  | returned _ ih =>
      cases related' with
      | returned inner => simpa [beq] using ih inner
      | _ => rfl
  | _ => cases related' <;> rfl

end Value.Related

open Value

section Operation

variable {closures : Closure → Closure → Prop} {left right left' right' : Value}

theorem Operator.applyUnary_related (operator : Operator)
    (related : Value.Related closures left right) :
    Result.Related (Value.Related closures) (operator.applyUnary left)
      (operator.applyUnary right) := by
  have types := related.typeName_eq
  have truth := related.isTruthy_eq
  cases operator with
  | bang =>
      simp only [applyUnary, truth]
      exact .ok (.bool _)
  | minus =>
      cases related with
      | int value => exact .ok (.int _)
      | _ => simpa [applyUnary, types] using .error _
  | _ => simpa [applyUnary, types] using .error _

theorem Operator.applyInts_related (closures : Closure → Closure → Prop) (operator : Operator)
    (left right : Int64) :
    Result.Related (Value.Related closures) (operator.applyInts left right)
      (operator.applyInts left right) := by
  cases operator with
  | plus => exact .ok (.int _)
  | minus => exact .ok (.int _)
  | asterisk => exact .ok (.int _)
  | slash =>
      simp only [applyInts]
      split
      · exact .error _
      · exact .ok (.int _)
  | bang => exact .error _
  | _ => exact .ok (.bool _)

theorem Operator.applyStrings_related (closures : Closure → Closure → Prop) (operator : Operator)
    (left right : String) :
    Result.Related (Value.Related closures) (operator.applyStrings left right)
      (operator.applyStrings left right) := by
  cases operator with
  | plus => exact .ok (.string _)
  | equal => exact .ok (.bool _)
  | notEqual => exact .ok (.bool _)
  | _ => exact .error _

theorem Operator.applyMixed_related (apart : Closure.ToldApart closures) (operator : Operator)
    (related : Value.Related closures left right) (related' : Value.Related closures left' right') :
    Result.Related (Value.Related closures) (operator.applyMixed left left')
      (operator.applyMixed right right') := by
  have types := related.typeName_eq
  have types' := related'.typeName_eq
  have equal := related.beq_eq apart related'
  cases operator with
  | equal =>
      simp only [applyMixed, equal]
      exact .ok (.bool _)
  | notEqual =>
      simp only [applyMixed, bne, equal]
      exact .ok (.bool _)
  | _ =>
      simp only [applyMixed, types, types']
      exact .error _

theorem Operator.applyBinary_related (apart : Closure.ToldApart closures) (operator : Operator)
    (related : Value.Related closures left right) (related' : Value.Related closures left' right') :
    Result.Related (Value.Related closures) (operator.applyBinary left left')
      (operator.applyBinary right right') := by
  have mixed := applyMixed_related apart operator related related'
  cases related with
  | int value =>
      cases related' with
      | int value' => exact applyInts_related closures operator value value'
      | _ => exact mixed
  | string text =>
      cases related' with
      | string text' => exact applyStrings_related closures operator text text'
      | _ => exact mixed
  | _ => cases related' <;> exact mixed

theorem Builtin.apply_len_related {arguments arguments' : List Value}
    (related : List.Forall₂ (Value.Related closures) arguments arguments') :
    Result.Related (Value.Related closures) (len.apply arguments) (len.apply arguments') := by
  have lengths := related.length_eq
  cases related with
  | nil => exact .error _
  | @cons argument argument' rest rest' first others =>
      cases others with
      | nil =>
          have types := first.typeName_eq
          cases first with
          | string text => exact .ok (.int _)
          | _ => simpa [apply, types] using .error _
      | cons _ _ => simpa [apply, lengths] using .error _

theorem Builtin.apply_count_related {arguments arguments' : List Value}
    (related : List.Forall₂ (Value.Related closures) arguments arguments') :
    Result.Related (Value.Related closures) (count.apply arguments) (count.apply arguments') := by
  have lengths := related.length_eq
  cases related with
  | nil => exact .error _
  | cons first others =>
      cases others with
      | nil => simpa [apply, lengths] using .error _
      | cons second others =>
          cases others with
          | nil =>
              have types := first.typeName_eq
              have types' := second.typeName_eq
              cases first with
              | string text =>
                  cases second with
                  | string pattern => exact .ok (.int _)
                  | _ => simpa [apply, types'] using .error _
              | _ => simpa [apply, types] using .error _
          | cons _ _ => simpa [apply, lengths] using .error _

theorem Builtin.apply_related (builtin : Builtin) {arguments arguments' : List Value}
    (related : List.Forall₂ (Value.Related closures) arguments arguments') :
    Result.Related (Value.Related closures) (builtin.apply arguments)
      (builtin.apply arguments') := by
  cases builtin with
  | len => exact apply_len_related related
  | count => exact apply_count_related related

end Operation

end Monkey
