import Monkey.Arena.Basic

/-!
# Collection

A collection frees every frame that can be reached neither from a frame with a handle nor from
the values that are held outside the arena. What is reachable is marked from these roots along
outer frames and bound closures; then the places that bear no mark are freed in their order.
-/

namespace Monkey

/-- The frames that a frame refers to: its outer frame and the homes of the closures bound in
it. -/
def Frame.references (frame : Frame) : List FrameId :=
  frame.outer.toList ++ frame.bindings.filterMap fun binding => binding.2.home?

namespace Arena

/-- The places of an arena, in order. -/
def places (arena : Arena) : List FrameId :=
  (List.range arena.frames.size).map FrameId.mk

def isHeld (arena : Arena) (id : FrameId) : Bool :=
  match arena.frame? id with
  | some frame => 0 < frame.handles
  | none => false

def references (arena : Arena) (id : FrameId) : List FrameId :=
  match arena.frame? id with
  | some frame => frame.references
  | none => []

/-- Marks at most the given number of places: the pending ones and all that can be reached from
them through places without a mark. A place outside the arena counts as marked. -/
def markWithin (arena : Arena) : Nat → List FrameId → Array Bool → Array Bool
  | 0, _, marks => marks
  | limit + 1, pending, marks =>
      match pending.dropWhile fun id => marks.getD id.slot true with
      | [] => marks
      | id :: rest =>
          arena.markWithin limit (arena.references id ++ rest) (marks.setIfInBounds id.slot true)

/-- Marks the places that can be reached from frames with a handle and from values. -/
def mark (arena : Arena) (values : List Value) : Array Bool :=
  arena.markWithin arena.frames.size
    (arena.places.filter arena.isHeld ++ values.filterMap Value.home?)
    (Array.replicate arena.frames.size false)

/-- The frames in use whose places bear no mark, in the order of their places. -/
def unmarked (arena : Arena) (marks : Array Bool) : List FrameId :=
  arena.places.filter fun id => (arena.frame? id).isSome && !marks.getD id.slot true

/-- Frees frames, and then takes them out of the count of the outer frames that stay. -/
def discardAll (ids : List FrameId) (arena : Arena) : Arena :=
  let outers := ids.filterMap fun id => (arena.frame? id).bind Frame.outer
  let kept := ids.foldl (fun arena id => arena.discard id) arena
  outers.foldl (fun arena outer => arena.modifyFrame outer Frame.loseChild) kept

/-- Frees every frame that can be reached neither from a handle nor from the given values, and
says how many those were. -/
def collect (values : List Value) (arena : Arena) : Nat × Arena :=
  let garbage := arena.unmarked (arena.mark values)
  (garbage.length, arena.discardAll garbage)

end Arena

end Monkey
