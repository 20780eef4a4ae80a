import Monkey.Arena.Basic
import Monkey.Text.Quoted

/-!
# Described frames

A frame is described by its place and by the names bound in it, sorted and in quotes.
-/

namespace Monkey

def FrameId.describe (id : FrameId) : String :=
  "FrameId(" ++ Nat.repr id.slot ++ ")"

def Builtin.describe (builtin : Builtin) : String :=
  "Builtin(" ++ builtin.name ++ ")"

namespace Arena

/-- The names bound in a frame itself, in the order of their characters, which is also the order
of their bytes. -/
def names (arena : Arena) (id : FrameId) : List String :=
  match arena.frame? id with
  | none => []
  | some frame => (frame.bindings.map Prod.fst).mergeSort fun left right => decide (left ≤ right)

def describe (arena : Arena) (id : FrameId) : String :=
  "Environment \x7b frame: " ++ id.describe ++ ", names: [" ++
    commaSeparated ((arena.names id).map Quoted.encode) ++ "] \x7d"

end Arena

end Monkey
