import Monkey.Value

/-!
# Arenas of scope frames

All frames of a session live in one arena. A frame refers to its outer frame, and a closure to
the frame that it was made in, by the place of that frame, so no frame owns another one.

A frame is freed as soon as no handle is held on it, no frame lies within it, and no closure has
captured it. Captured frames stay until a collection finds them unreachable. A new frame takes
the place that was freed last, if there is one.
-/

namespace Monkey

/-- The bindings of one scope, and what keeps the scope in use: the handles held on it, the
frames whose outer frame it is, and whether a closure ever captured it. -/
structure Frame where
  bindings : List (String × Value)
  outer : Option FrameId
  handles : Nat
  children : Nat
  captured : Bool

namespace Frame

/-- A frame without bindings and with one handle. -/
def fresh (outer : Option FrameId) : Frame where
  bindings := []
  outer := outer
  handles := 1
  children := 0
  captured := false

def isUnreferenced (frame : Frame) : Bool :=
  frame.handles == 0 && frame.children == 0 && !frame.captured

def lookup? (frame : Frame) (name : String) : Option Value :=
  frame.bindings.lookup name

/-- Binds a name among bindings, in the place of an earlier binding of that name. -/
def bindAmong (name : String) (value : Value) : List (String × Value) → List (String × Value)
  | [] => [(name, value)]
  | binding :: rest =>
      if binding.1 = name then (name, value) :: rest else binding :: bindAmong name value rest

def bind (name : String) (value : Value) (frame : Frame) : Frame :=
  { frame with bindings := bindAmong name value frame.bindings }

def gainHandle (frame : Frame) : Frame :=
  { frame with handles := frame.handles + 1 }

def loseHandle (frame : Frame) : Frame :=
  { frame with handles := frame.handles - 1 }

def gainChild (frame : Frame) : Frame :=
  { frame with children := frame.children + 1 }

def loseChild (frame : Frame) : Frame :=
  { frame with children := frame.children - 1 }

/-- Notes that a closure refers to a frame. -/
def capture (frame : Frame) : Frame :=
  { frame with captured := true }

end Frame

/-- The frames of a session, the places that are free with the one freed last in front, and the
number of closures made so far. -/
structure Arena where
  frames : Array (Option Frame)
  free : List Nat
  session : Nat
  closures : Nat

namespace Arena

/-- The arena of a session before its first frame. -/
def empty (session : Nat) : Arena where
  frames := #[]
  free := []
  session := session
  closures := 0

def frame? (arena : Arena) (id : FrameId) : Option Frame :=
  arena.frames.getD id.slot none

def modifyFrame (id : FrameId) (change : Frame → Frame) (arena : Arena) : Arena :=
  { arena with frames := arena.frames.modify id.slot (Option.map change) }

/-- Puts a frame into the place freed last, or else into a new place. -/
def insert (frame : Frame) (arena : Arena) : FrameId × Arena :=
  match arena.free with
  | [] => (⟨arena.frames.size⟩, { arena with frames := arena.frames.push (some frame) })
  | slot :: free =>
      (⟨slot⟩, { arena with frames := arena.frames.setIfInBounds slot (some frame), free := free })

/-- Opens a session: an arena with one frame and a handle on it. -/
def start (session : Nat) : FrameId × Arena :=
  (empty session).insert (Frame.fresh none)

/-- Makes a frame within another one, with a handle on it. -/
def enclose (outer : FrameId) (arena : Arena) : FrameId × Arena :=
  (arena.modifyFrame outer Frame.gainChild).insert (Frame.fresh (some outer))

def share (id : FrameId) (arena : Arena) : Arena :=
  arena.modifyFrame id Frame.gainHandle

/-- Lets a closure refer to a frame. -/
def capture (id : FrameId) (arena : Arena) : Arena :=
  arena.modifyFrame id Frame.capture

/-- Makes a closure over a frame; it equals no other closure. -/
def close (home : FrameId) (parameters : List Identifier) (body : Block) (arena : Arena) :
    Closure × Arena :=
  let arena := arena.capture home
  (⟨⟨arena.session, arena.closures⟩, parameters, body, home⟩,
    { arena with closures := arena.closures + 1 })

/-- Binds a name in a frame itself; a binding of that name further out is shadowed. -/
def bind (id : FrameId) (name : String) (value : Value) (arena : Arena) : Arena :=
  arena.modifyFrame id (Frame.bind name value)

/-- Binds names to values one after the other, as far as both go. -/
def bindAll (id : FrameId) : List Identifier → List Value → Arena → Arena
  | identifier :: identifiers, value :: values, arena =>
      bindAll id identifiers values (arena.bind id identifier.name value)
  | _, _, arena => arena

/-- The value of a name in the innermost of the given number of frames, from one outward, that
binds it. -/
def lookupWithin (arena : Arena) (name : String) : Nat → FrameId → Option Value
  | 0, _ => none
  | limit + 1, id =>
      match arena.frame? id with
      | none => none
      | some frame =>
          match frame.lookup? name with
          | some value => some value
          | none =>
              match frame.outer with
              | none => none
              | some outer => lookupWithin arena name limit outer

/-- The value of a name in the innermost frame, from the given one outward, that binds it. No
way outward is longer than the number of places. -/
def lookup? (arena : Arena) (id : FrameId) (name : String) : Option Value :=
  arena.lookupWithin name arena.frames.size id

def discard (id : FrameId) (arena : Arena) : Arena :=
  { arena with
    frames := arena.frames.setIfInBounds id.slot none
    free := id.slot :: arena.free }

/-- Frees at most the given number of frames, from one outward, each of which nothing refers to
any more once the one within it is gone. -/
def releaseWithin : Nat → FrameId → Arena → Arena
  | 0, _, arena => arena
  | limit + 1, id, arena =>
      match arena.frame? id with
      | none => arena
      | some frame =>
          if frame.isUnreferenced then
            match frame.outer with
            | none => arena.discard id
            | some outer =>
                releaseWithin limit outer ((arena.discard id).modifyFrame outer Frame.loseChild)
          else
            arena

/-- Frees a frame if nothing refers to it, and then, outward, each frame that loses its last
inner frame by that. -/
def release (id : FrameId) (arena : Arena) : Arena :=
  releaseWithin arena.frames.size id arena

def drop (id : FrameId) (arena : Arena) : Arena :=
  (arena.modifyFrame id Frame.loseHandle).release id

def live (arena : Arena) : Nat :=
  arena.frames.size - arena.free.length

end Arena

end Monkey
