/-!
# Decimal integers

An integer is written as an optional sign and at least one digit of ASCII, with nothing around
them. `Decimal.int64?` reads one that fits into 64 bits.
-/

namespace Monkey.Decimal

def digitValue (digit : Char) : Nat :=
  digit.toNat - '0'.toNat

/-- The number that a row of digits writes, on top of digits read before. -/
def accumulate (sum : Nat) (digits : List Char) : Nat :=
  digits.foldl (fun value digit => 10 * value + digitValue digit) sum

/-- The number that a text of digits alone writes; a text without digits writes none. -/
def nat? (digits : List Char) : Option Nat :=
  if digits ≠ [] ∧ digits.all Char.isDigit then some (accumulate 0 digits) else none

/-- The integer that a text writes with an optional sign. -/
def int? : List Char → Option Int
  | '-' :: digits => (nat? digits).map fun value => -(value : Int)
  | '+' :: digits => (nat? digits).map Int.ofNat
  | digits => (nat? digits).map Int.ofNat

/-- The integer that a text writes, if 64 bits hold it. -/
def int64? (text : String) : Option Int64 :=
  match int? text.toList with
  | none => none
  | some value =>
      if Int64.minValue.toInt ≤ value ∧ value ≤ Int64.maxValue.toInt then
        some (Int64.ofInt value)
      else
        none

def render (value : Int64) : String :=
  match value.toInt with
  | .ofNat magnitude => Nat.repr magnitude
  | .negSucc below => "-" ++ Nat.repr (below + 1)

end Monkey.Decimal
