import Monkey.Program.Printer
import Monkey.Text.Decimal

/-!
# Values

What running a program computes with: integers of 64 bits, Booleans, text, null, closures,
built-in functions, and the pending result of a `return` on its way out of the blocks that
enclose it.
-/

namespace Monkey

/-- The place of a frame in the arena of its session. -/
structure FrameId where
  slot : Nat
  deriving DecidableEq

/-- What tells one closure from all others: the session that made it and its number there. -/
structure ClosureId where
  session : Nat
  serial : Nat
  deriving DecidableEq

/-- A function literal together with the frame that it was evaluated in. -/
structure Closure where
  id : ClosureId
  parameters : List Identifier
  body : Block
  home : FrameId

inductive Builtin where
  | len
  | count
  deriving DecidableEq

namespace Builtin

def all : List Builtin :=
  [len, count]

theorem mem_all (builtin : Builtin) : builtin ∈ all := by
  cases builtin <;> decide

/-- The name that a program calls a built-in function by. -/
def name : Builtin → String
  | len => "len"
  | count => "count"

def ofName? (name : String) : Option Builtin :=
  all.find? fun builtin => builtin.name == name

end Builtin

/-- A value; `returned` wraps the result of a `return` that is still pending. -/
inductive Value where
  | int (value : Int64)
  | bool (value : Bool)
  | string (text : String)
  | null
  | closure (function : Closure)
  | builtin (function : Builtin)
  | returned (value : Value)

def Closure.inspect (closure : Closure) : String :=
  "fn(" ++ commaSeparated (closure.parameters.map Identifier.name) ++ ") " ++ closure.body.print

namespace Value

/-- Equality of values: integers and text by content, closures by identity. -/
def beq : Value → Value → Bool
  | int left, int right => left == right
  | bool left, bool right => left == right
  | string left, string right => left == right
  | null, null => true
  | closure left, closure right => left.id == right.id
  | builtin left, builtin right => left == right
  | returned left, returned right => left.beq right
  | _, _ => false

instance : BEq Value := ⟨beq⟩

instance : Inhabited Value := ⟨null⟩

/-- The name of a value's type; a pending result has the type of what it carries. -/
def typeName : Value → String
  | int _ => "INTEGER"
  | bool _ => "BOOLEAN"
  | string _ => "STRING"
  | null => "NULL"
  | closure _ => "FUNCTION"
  | builtin _ => "BUILTIN"
  | returned value => value.typeName

/-- Everything counts as true but `false` and null. -/
def isTruthy : Value → Bool
  | bool false => false
  | null => false
  | _ => true

def inspect : Value → String
  | int value => Decimal.render value
  | bool value => if value then "true" else "false"
  | string text => text
  | null => "null"
  | closure function => function.inspect
  | builtin _ => "builtin function"
  | returned value => value.inspect

def isReturned : Value → Bool
  | returned _ => true
  | _ => false

/-- A pending result arrives: one layer of wrapping is taken off. -/
def unwrap : Value → Value
  | returned value => value
  | value => value

/-- The frame that a value keeps in use, if it is a closure or carries one. -/
def home? : Value → Option FrameId
  | closure function => some function.home
  | returned value => value.home?
  | _ => none

end Value

end Monkey
