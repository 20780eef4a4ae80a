import Monkey.Arena.Collect
import Monkey.Arena.Describe
import Monkey.Proofs.Evaluation.Related
import Monkey.Proofs.Printing.Tokens

/-!
# Arenas up to tokens

The trees in an arena are the parameters and the bodies of the closures that are bound in it. A
change of their tokens changes nothing else, and nothing that is done to an arena depends on it:
names are looked up and bound, and frames are made, given up and collected, as before the change.
-/

namespace Monkey

def Closure.retoken (change : TokenChange) (function : Closure) : Closure :=
  { function with
    parameters := function.parameters.map (Identifier.retoken change)
    body := function.body.retoken change }

theorem Closure.inspect_eq_of_retoken {left right : Closure}
    (same : left.retoken .ignoring = right.retoken .ignoring) : left.inspect = right.inspect := by
  have parameters : left.parameters = right.parameters := by
    simpa [retoken] using congrArg Closure.parameters same
  have body : left.body.print = right.body.print :=
    Block.print_eq_of_beq (Block.beq_iff.mpr (congrArg Closure.body same))
  rw [inspect, inspect, parameters, body]

namespace Value

def retoken (change : TokenChange) : Value → Value
  | closure function => closure (function.retoken change)
  | returned value => returned (value.retoken change)
  | value => value

variable (change : TokenChange)

@[simp]
theorem home?_retoken (value : Value) : (value.retoken change).home? = value.home? := by
  induction value with
  | returned value ih => exact ih
  | _ => rfl

@[simp]
theorem unwrap_retoken (value : Value) :
    (value.retoken change).unwrap = value.unwrap.retoken change := by
  cases value <;> rfl

/-- A change of tokens as a relation between closures. -/
def Retokened (left right : Closure) : Prop :=
  right = left.retoken change

theorem related_retoken (value : Value) :
    Related (Retokened change) value (value.retoken change) := by
  induction value with
  | int value => exact .int value
  | bool value => exact .bool value
  | string text => exact .string text
  | null => exact .null
  | closure function => exact .closure rfl
  | builtin function => exact .builtin function
  | returned value ih => exact .returned ih

theorem eq_retoken_of_related {left right : Value}
    (related : Related (Retokened change) left right) : right = left.retoken change := by
  induction related with
  | closure same => exact congrArg closure same
  | returned _ ih => exact congrArg returned ih
  | _ => rfl

/-- Values that are the same up to a change of tokens: of one kind, type and truth, made the same by
the change if they are functions, and equal if they are not. -/
structure SameUpTo (left right : Value) : Prop where
  kind : Related (fun left right => left.retoken change = right.retoken change) left right
  typeName : left.typeName = right.typeName
  isTruthy : left.isTruthy = right.isTruthy
  eq : left.closure? = none → left = right

theorem related_of_retoken_eq {left right : Value}
    (same : left.retoken change = right.retoken change) :
    Related (fun left right => left.retoken change = right.retoken change) left right := by
  induction left generalizing right with
  | closure function =>
      cases right with
      | closure other => exact .closure (closure.inj same)
      | _ => cases same
  | returned value ih =>
      cases right with
      | returned other => exact .returned (ih (returned.inj same))
      | _ => cases same
  | int value => cases right <;> cases same; exact .int value
  | bool value => cases right <;> cases same; exact .bool value
  | string text => cases right <;> cases same; exact .string text
  | null => cases right <;> cases same; exact .null
  | builtin function => cases right <;> cases same; exact .builtin function

theorem eq_of_related_of_closure? {closures : Closure → Closure → Prop} {left right : Value}
    (related : Related closures left right) (plain : left.closure? = none) : left = right := by
  induction related with
  | closure same => cases plain
  | returned _ ih => exact congrArg returned (ih plain)
  | _ => rfl

theorem SameUpTo.of_retoken_eq {left right : Value}
    (same : left.retoken change = right.retoken change) : left.SameUpTo change right :=
  have related := related_of_retoken_eq change same
  ⟨related, related.typeName_eq, related.isTruthy_eq, eq_of_related_of_closure? related⟩

/-- The text of a value does not show what the comparison of trees ignores. -/
theorem SameUpTo.inspect_eq {left right : Value} (same : left.SameUpTo .ignoring right) :
    left.inspect = right.inspect :=
  same.kind.inspect_eq_of_closures Closure.inspect_eq_of_retoken

end Value

namespace Frame

def retoken (change : TokenChange) (frame : Frame) : Frame :=
  { frame with
    bindings := frame.bindings.map fun binding => (binding.1, binding.2.retoken change) }

variable (change : TokenChange)

@[simp]
theorem lookup?_retoken (frame : Frame) (name : String) :
    (frame.retoken change).lookup? name = (frame.lookup? name).map (Value.retoken change) := by
  unfold lookup? retoken
  induction frame.bindings with
  | nil => rfl
  | cons binding rest ih =>
      rcases binding with ⟨bound, value⟩
      rw [List.map_cons, List.lookup_cons, List.lookup_cons, ih]
      cases name == bound <;> rfl

theorem bindAmong_retoken (name : String) (value : Value) (bindings : List (String × Value)) :
    bindAmong name (value.retoken change)
        (bindings.map fun binding => (binding.1, binding.2.retoken change)) =
      (bindAmong name value bindings).map fun binding =>
        (binding.1, binding.2.retoken change) := by
  induction bindings with
  | nil => rfl
  | cons binding rest ih =>
      by_cases same : binding.1 = name
      · simp [bindAmong, same]
      · simp [bindAmong, same, ih]

theorem bind_retoken (name : String) (value : Value) (frame : Frame) :
    (frame.retoken change).bind name (value.retoken change) =
      (frame.bind name value).retoken change := by
  rw [bind, retoken, bindAmong_retoken]
  rfl

@[simp]
theorem references_retoken (frame : Frame) :
    (frame.retoken change).references = frame.references := by
  simp [references, retoken, List.filterMap_map]

end Frame

namespace Arena

def retoken (change : TokenChange) (arena : Arena) : Arena :=
  { arena with frames := arena.frames.map (Option.map (Frame.retoken change)) }

variable (change : TokenChange)

@[simp]
theorem frame?_retoken (arena : Arena) (id : FrameId) :
    (arena.retoken change).frame? id = (arena.frame? id).map (Frame.retoken change) := by
  simp only [frame?, retoken, Array.getD_eq_getD_getElem?, Array.getElem?_map]
  cases arena.frames[id.slot]? <;> rfl

@[simp]
theorem size_retoken (arena : Arena) :
    (arena.retoken change).frames.size = arena.frames.size :=
  Array.size_map

theorem modifyFrame_retoken (f g : Frame → Frame)
    (same : ∀ frame, g (frame.retoken change) = (f frame).retoken change) (id : FrameId)
    (arena : Arena) :
    (arena.retoken change).modifyFrame id g = (arena.modifyFrame id f).retoken change := by
  refine congrArg (fun frames => (⟨frames, arena.free, arena.session, arena.closures⟩ : Arena)) ?_
  ext index frame
  · simp [modifyFrame]
  · simp only [Array.getElem_map, Array.getElem_modify, modifyFrame, retoken]
    split
    · simp [Function.comp_def, same]
    · rfl

theorem insert_retoken (frame : Frame) (arena : Arena) :
    (arena.retoken change).insert (frame.retoken change) =
      ((arena.insert frame).1, (arena.insert frame).2.retoken change) := by
  rcases arena with ⟨frames, _ | ⟨slot, free⟩, session, closures⟩ <;> simp [insert, retoken]

theorem enclose_retoken (outer : FrameId) (arena : Arena) :
    (arena.retoken change).enclose outer =
      ((arena.enclose outer).1, (arena.enclose outer).2.retoken change) := by
  have gained : (arena.retoken change).modifyFrame outer Frame.gainChild =
      (arena.modifyFrame outer Frame.gainChild).retoken change :=
    modifyFrame_retoken change Frame.gainChild Frame.gainChild (fun _ => rfl) outer arena
  rw [enclose, gained]
  exact insert_retoken change (Frame.fresh (some outer)) _

theorem close_retoken (home : FrameId) (parameters : List Identifier) (body : Block)
    (arena : Arena) :
    (arena.retoken change).close home (parameters.map (Identifier.retoken change))
        (body.retoken change) =
      ((arena.close home parameters body).1.retoken change,
        (arena.close home parameters body).2.retoken change) := by
  have captured : (arena.retoken change).capture home = (arena.capture home).retoken change :=
    modifyFrame_retoken change Frame.capture Frame.capture (fun _ => rfl) home arena
  rw [close, captured]
  rfl

theorem bind_retoken (id : FrameId) (name : String) (value : Value) (arena : Arena) :
    (arena.retoken change).bind id name (value.retoken change) =
      (arena.bind id name value).retoken change :=
  modifyFrame_retoken change _ _ (Frame.bind_retoken change name value) id arena

theorem bindAll_retoken (id : FrameId) (parameters : List Identifier) (values : List Value)
    (arena : Arena) :
    (arena.retoken change).bindAll id (parameters.map (Identifier.retoken change))
        (values.map (Value.retoken change)) =
      (arena.bindAll id parameters values).retoken change := by
  induction parameters generalizing values arena with
  | nil => rfl
  | cons parameter parameters ih =>
      cases values with
      | nil => rfl
      | cons value values =>
          simp only [List.map_cons, bindAll]
          rw [← ih]
          exact congrArg _ (bind_retoken change id parameter.name value arena)

theorem lookupWithin_retoken (name : String) (limit : Nat) (id : FrameId) (arena : Arena) :
    (arena.retoken change).lookupWithin name limit id =
      (arena.lookupWithin name limit id).map (Value.retoken change) := by
  induction limit generalizing id with
  | zero => rfl
  | succ limit ih =>
      simp only [lookupWithin, frame?_retoken]
      cases arena.frame? id with
      | none => rfl
      | some frame =>
          simp only [Option.map_some, Frame.lookup?_retoken]
          cases frame.lookup? name with
          | some value => rfl
          | none =>
              simp only [Option.map_none, Frame.retoken]
              cases frame.outer with
              | none => rfl
              | some outer => exact ih outer

theorem lookup?_retoken (id : FrameId) (name : String) (arena : Arena) :
    (arena.retoken change).lookup? id name =
      (arena.lookup? id name).map (Value.retoken change) := by
  rw [lookup?, size_retoken, lookupWithin_retoken, lookup?]

theorem discard_retoken (id : FrameId) (arena : Arena) :
    (arena.retoken change).discard id = (arena.discard id).retoken change := by
  simp [discard, retoken]

theorem loseChild_retoken (outer : FrameId) (arena : Arena) :
    (arena.retoken change).modifyFrame outer Frame.loseChild =
      (arena.modifyFrame outer Frame.loseChild).retoken change :=
  modifyFrame_retoken change Frame.loseChild Frame.loseChild (fun _ => rfl) outer arena

theorem releaseWithin_retoken (limit : Nat) (id : FrameId) (arena : Arena) :
    (arena.retoken change).releaseWithin limit id =
      (arena.releaseWithin limit id).retoken change := by
  induction limit generalizing id arena with
  | zero => rfl
  | succ limit ih =>
      simp only [releaseWithin, frame?_retoken]
      cases arena.frame? id with
      | none => rfl
      | some frame =>
          have unreferenced : (frame.retoken change).isUnreferenced = frame.isUnreferenced := rfl
          simp only [Option.map_some, unreferenced]
          split
          · have outer_eq : (frame.retoken change).outer = frame.outer := rfl
            rw [outer_eq, discard_retoken]
            cases frame.outer with
            | none => rfl
            | some outer => simp only [loseChild_retoken, ih]
          · rfl

theorem drop_retoken (id : FrameId) (arena : Arena) :
    (arena.retoken change).drop id = (arena.drop id).retoken change := by
  have lost : (arena.retoken change).modifyFrame id Frame.loseHandle =
      (arena.modifyFrame id Frame.loseHandle).retoken change :=
    modifyFrame_retoken change Frame.loseHandle Frame.loseHandle (fun _ => rfl) id arena
  rw [drop, lost, release, size_retoken, releaseWithin_retoken, drop, release]

@[simp]
theorem names_retoken (id : FrameId) (arena : Arena) :
    (arena.retoken change).names id = arena.names id := by
  rw [names, frame?_retoken]
  cases found : arena.frame? id with
  | none => simp [names, found]
  | some frame => simp [names, found, Frame.retoken, Function.comp_def]

@[simp]
theorem live_retoken (arena : Arena) : (arena.retoken change).live = arena.live := by
  rw [live, size_retoken]
  rfl

/-! ## Collection -/

@[simp]
theorem references_retoken (id : FrameId) (arena : Arena) :
    (arena.retoken change).references id = arena.references id := by
  simp only [references, frame?_retoken]
  cases arena.frame? id with
  | none => rfl
  | some frame => exact frame.references_retoken change

@[simp]
theorem isHeld_retoken (id : FrameId) (arena : Arena) :
    (arena.retoken change).isHeld id = arena.isHeld id := by
  simp only [isHeld, frame?_retoken]
  cases arena.frame? id <;> rfl

theorem markWithin_retoken (limit : Nat) (pending : List FrameId) (marks : Array Bool)
    (arena : Arena) :
    (arena.retoken change).markWithin limit pending marks =
      arena.markWithin limit pending marks := by
  induction limit generalizing pending marks with
  | zero => rfl
  | succ limit ih =>
      simp only [markWithin, references_retoken, ih]

@[simp]
theorem places_retoken (arena : Arena) : (arena.retoken change).places = arena.places := by
  rw [places, size_retoken, places]

theorem mark_retoken (values : List Value) (arena : Arena) :
    (arena.retoken change).mark (values.map (Value.retoken change)) = arena.mark values := by
  have homes : (values.map (Value.retoken change)).filterMap Value.home? =
      values.filterMap Value.home? := by
    rw [List.filterMap_map]
    exact congrArg (values.filterMap ·) (funext fun value => value.home?_retoken change)
  have held : (arena.retoken change).isHeld = arena.isHeld :=
    funext fun id => isHeld_retoken change id arena
  rw [mark, markWithin_retoken, homes, held, size_retoken, places_retoken, mark]

theorem unmarked_retoken (marks : Array Bool) (arena : Arena) :
    (arena.retoken change).unmarked marks = arena.unmarked marks := by
  simp [unmarked]

theorem discardAll_retoken (ids : List FrameId) (arena : Arena) :
    (arena.retoken change).discardAll ids = (arena.discardAll ids).retoken change := by
  have outers : (ids.filterMap fun id => ((arena.retoken change).frame? id).bind Frame.outer) =
      ids.filterMap fun id => (arena.frame? id).bind Frame.outer := by
    refine List.filterMap_congr fun id _ => ?_
    rw [frame?_retoken]
    cases arena.frame? id <;> rfl
  rw [discardAll, outers,
    List.foldl_hom (retoken change) fun arena id => discard_retoken change id arena,
    List.foldl_hom (retoken change) fun arena outer => loseChild_retoken change outer arena]
  rfl

theorem collect_retoken (values : List Value) (arena : Arena) :
    (arena.retoken change).collect (values.map (Value.retoken change)) =
      ((arena.collect values).1, (arena.collect values).2.retoken change) := by
  rw [collect, mark_retoken, unmarked_retoken, discardAll_retoken]
  rfl

end Arena

end Monkey
