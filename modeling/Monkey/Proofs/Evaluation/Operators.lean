import Mathlib.Data.Int.ModEq
import Monkey.Proofs.Evaluation.Related

/-!
# The law of the operators between two values

Two integers, two texts and all other pairs of values are dealt with apart from each other, but by
one law. Any two values can be compared for equality, which is an equivalence of values. Two
integers have the exact result of an operator of arithmetic, as far as a word can hold it, and are
ordered as the integers that they are. Two texts can be joined. All else is an error that names the
types of both values.
-/

namespace Monkey

/-- Whether a word is the one that is congruent to an integer. -/
def IsResidue (exact : Int) (word : Int64) : Prop :=
  ∀ other : Int64, other.toInt ≡ exact [ZMOD 2 ^ 64] ↔ other = word

theorem bmod_eq_bmod_iff {left right : Int} {modulus : Nat} :
    left.bmod modulus = right.bmod modulus ↔ left ≡ right [ZMOD modulus] := by
  rw [Int.bmod_eq_bmod_iff_bmod_sub_eq_zero, ← Int.dvd_iff_bmod_eq_zero, Int.modEq_comm,
    Int.modEq_iff_dvd]

theorem isResidue_ofInt (exact : Int) : IsResidue exact (.ofInt exact) := by
  intro other
  have modulus : (2 : Int) ^ 64 = ((2 ^ 64 : Nat) : Int) := rfl
  have inRange : other.toInt.bmod (2 ^ 64) = other.toInt := Int64.toInt_bmod other
  rw [modulus, ← bmod_eq_bmod_iff, inRange, eq_comm (a := other),
    Int64.ofInt_eq_iff_bmod_eq_toInt, eq_comm]

namespace Value

/-- Whether values are the same to a program: closures that are one and the same, and all other
values of one content. -/
def Same : Value → Value → Prop :=
  Related fun left right => left.id = right.id

variable {left right : Value}

theorem Same.refl (value : Value) : value.Same value :=
  Related.refl value fun _ _ => rfl

theorem beq_iff_same : (left == right) = true ↔ left.Same right := by
  constructor
  · intro equal
    change left.beq right = true at equal
    induction left generalizing right with
    | int value =>
        cases right with
        | int other => exact beq_iff_eq.mp equal ▸ .int value
        | _ => cases equal
    | bool value =>
        cases right with
        | bool other => exact beq_iff_eq.mp equal ▸ .bool value
        | _ => cases equal
    | string text =>
        cases right with
        | string other => exact beq_iff_eq.mp equal ▸ .string text
        | _ => cases equal
    | null =>
        cases right with
        | null => exact .null
        | _ => cases equal
    | closure function =>
        cases right with
        | closure other => exact .closure (beq_iff_eq.mp equal)
        | _ => cases equal
    | builtin function =>
        cases right with
        | builtin other => exact beq_iff_eq.mp equal ▸ .builtin function
        | _ => cases equal
    | returned value ih =>
        cases right with
        | returned other => exact .returned (ih equal)
        | _ => cases equal
  · intro same
    change left.beq right = true
    induction same with
    | null => rfl
    | closure same => exact beq_iff_eq.mpr same
    | returned _ ih => exact ih
    | _ => exact beq_iff_eq.mpr rfl

/-- What is the same as one of two values equals the other one just if that one does. -/
theorem Same.beq_eq (same : left.Same right) (other : Value) :
    (left == other) = (right == other) := by
  have apart : Closure.ToldApart fun left right => left.id = right.id := by
    intro first second third fourth same same'
    rw [same, same']
  exact Related.beq_eq apart same (Same.refl other)

theorem beq_equivalence : Equivalence fun left right : Value => (left == right) = true where
  refl value := beq_iff_same.mpr (.refl value)
  symm {left right} equal := by
    rw [← (beq_iff_same.mp equal).beq_eq left]
    exact beq_iff_same.mpr (.refl left)
  trans {left middle right} first second := by
    rw [(beq_iff_same.mp first).beq_eq right]
    exact second

end Value

namespace Operator

/-- The operators that make an integer of two. -/
def arithmetic : List Operator :=
  [plus, minus, asterisk, slash]

/-- The exact result of an operator of arithmetic; a quotient is cut off toward zero. -/
def exact : Operator → Int → Int → Int
  | plus, left, right => left + right
  | minus, left, right => left - right
  | asterisk, left, right => left * right
  | slash, left, right => left.tdiv right
  | _, _, _ => 0

/-- Whether an operator has a meaning between two values. -/
inductive Takes : Operator → Value → Value → Prop where
  | equality {operator : Operator} (member : operator ∈ [equal, notEqual]) (left right : Value) :
      Takes operator left right
  | integers {operator : Operator} (member : operator ∈ arithmetic ++ [less, greater])
      (left right : Int64) : Takes operator (.int left) (.int right)
  | texts (left right : String) : Takes plus (.string left) (.string right)

variable {operator : Operator}

theorem applyInts_eq_ofInt (member : operator ∈ arithmetic) {left right : Int64}
    (divides : operator = slash → right ≠ 0) :
    operator.applyInts left right =
      .ok (.int (.ofInt (operator.exact left.toInt right.toInt))) := by
  simp only [arithmetic, List.mem_cons, List.not_mem_nil, or_false] at member
  rcases member with rfl | rfl | rfl | rfl
  · simp [applyInts, exact, Int64.ofInt_add]
  · simp [applyInts, exact, Int64.ofInt_sub]
  · simp [applyInts, exact, Int64.ofInt_mul]
  · have quotient : Int64.ofInt (left.toInt.tdiv right.toInt) = left / right := by
      rw [Int64.ofInt_eq_iff_bmod_eq_toInt, Int64.toInt_div]
    simp [applyInts, exact, divides rfl, quotient]

theorem applyBinary_equal (left right : Value) :
    equal.applyBinary left right = .ok (.bool (left == right)) := by
  cases left <;> cases right <;> rfl

theorem applyBinary_notEqual (left right : Value) :
    notEqual.applyBinary left right = .ok (.bool !(left == right)) := by
  cases left <;> cases right <;> rfl

section Refusal

variable (unequal : operator ∉ [equal, notEqual])

include unequal

theorem applyInts_of_not_mem (outside : operator ∉ arithmetic ++ [less, greater])
    (left right : Int64) :
    operator.applyInts left right = .error (.ofBinary "INTEGER" operator "INTEGER") := by
  cases operator with
  | bang => rfl
  | equal => exact absurd (by decide) unequal
  | notEqual => exact absurd (by decide) unequal
  | _ => exact absurd (by decide) outside

theorem applyStrings_of_ne (other : operator ≠ plus) (left right : String) :
    operator.applyStrings left right = .error (.ofBinary "STRING" operator "STRING") := by
  cases operator with
  | plus => exact absurd rfl other
  | equal => exact absurd (by decide) unequal
  | notEqual => exact absurd (by decide) unequal
  | _ => rfl

theorem applyMixed_of_not_mem (left right : Value) :
    operator.applyMixed left right =
      .error (.ofBinary left.typeName operator right.typeName) := by
  cases operator with
  | equal => exact absurd (by decide) unequal
  | notEqual => exact absurd (by decide) unequal
  | _ => rfl

end Refusal

/-- Each of the three ways to deal with operands refuses in the same words what it does not
take. -/
theorem applyBinary_of_not_takes {left right : Value} (refused : ¬operator.Takes left right) :
    operator.applyBinary left right =
      .error (.ofBinary left.typeName operator right.typeName) := by
  have unequal : operator ∉ [equal, notEqual] := fun member => refused (.equality member left right)
  have mixed := applyMixed_of_not_mem unequal left right
  cases left with
  | int left =>
      cases right with
      | int right =>
          exact applyInts_of_not_mem unequal (fun member => refused (.integers member left right))
            left right
      | _ => exact mixed
  | string left =>
      cases right with
      | string right =>
          refine applyStrings_of_ne unequal ?_ left right
          rintro rfl
          exact refused (.texts left right)
      | _ => exact mixed
  | _ => exact mixed

/-- Operators follow one law, whatever the two values are. -/
theorem applyBinary_law :
    (∀ left right : Value,
      equal.applyBinary left right = .ok (.bool (left == right)) ∧
      notEqual.applyBinary left right = .ok (.bool !(left == right)) ∧
      ((left == right) = true ↔ left.Same right)) ∧
    Equivalence (fun left right : Value => (left == right) = true) ∧
    (∀ left right : Builtin,
      (Value.builtin left == .builtin right) = true ↔ left.name = right.name) ∧
    (∀ operator ∈ arithmetic, ∀ left right : Int64, (operator = slash → right ≠ 0) →
      ∃ word, IsResidue (operator.exact left.toInt right.toInt) word ∧
        operator.applyBinary (.int left) (.int right) = .ok (.int word)) ∧
    (∀ left : Int64, slash.applyBinary (.int left) (.int 0) = .error .divisionByZero) ∧
    (∀ left right : Int64,
      less.applyBinary (.int left) (.int right) = .ok (.bool (left.toInt < right.toInt)) ∧
      greater.applyBinary (.int left) (.int right) = .ok (.bool (right.toInt < left.toInt))) ∧
    (∀ left right : String,
      plus.applyBinary (.string left) (.string right) = .ok (.string (left ++ right))) ∧
    ∀ (operator : Operator) (left right : Value), ¬operator.Takes left right →
      operator.applyBinary left right =
        .error (.ofBinary left.typeName operator right.typeName) ∧
      EvalError.ofBinary left.typeName operator right.typeName =
        if left.typeName = right.typeName then
          .unknownBinary left.typeName operator right.typeName
        else
          .typeMismatch left.typeName operator right.typeName := by
  refine ⟨fun left right => ⟨applyBinary_equal left right, applyBinary_notEqual left right,
    Value.beq_iff_same⟩, Value.beq_equivalence, fun left right => ?_,
    fun operator member left right divides =>
      ⟨_, isResidue_ofInt _, applyInts_eq_ofInt member divides⟩,
    fun _ => rfl, fun left right => ⟨?_, ?_⟩, fun _ _ => rfl,
    fun operator left right refused => ⟨applyBinary_of_not_takes refused, rfl⟩⟩
  · cases left <;> cases right <;> decide
  · simp only [applyBinary, applyInts, Int64.lt_iff_toInt_lt]
  · simp only [applyBinary, applyInts, Int64.lt_iff_toInt_lt]

/-- A sum overflows, a quotient overflows, and a pending integer is no operand, although its type is
that of the other one. -/
theorem applyBinary_law_overflow :
    (∃ word, IsResidue (2 ^ 63) word ∧
      plus.applyBinary (.int Int64.maxValue) (.int 1) = .ok (.int word)) ∧
    (∃ word, IsResidue (2 ^ 63) word ∧
      slash.applyBinary (.int Int64.minValue) (.int (-1)) = .ok (.int word)) ∧
    plus.applyBinary (.returned (.int 1)) (.int 2) =
      .error (.unknownBinary "INTEGER" plus "INTEGER") ∧
    minus.applyBinary (.string "a") .null = .error (.typeMismatch "STRING" minus "NULL") := by
  rcases applyBinary_law with ⟨-, -, -, integers, -, -, -, others⟩
  have pending : ¬plus.Takes (.returned (.int 1)) (.int 2) := by
    rintro ⟨member⟩
    simp at member
  have unlike : ¬minus.Takes (.string "a") .null := by
    rintro ⟨member⟩
    simp at member
  exact ⟨integers plus (by decide) Int64.maxValue 1 (by decide),
    integers slash (by decide) Int64.minValue (-1) (by decide),
    (others plus _ _ pending).1, (others minus _ _ unlike).1⟩

end Operator

end Monkey
