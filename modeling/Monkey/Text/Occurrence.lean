/-!
# Occurrences of a pattern

Occurrences of a pattern in a list are counted from left to right, each starting where the one
before it ended or later. The empty pattern occurs before each item and at the end.
-/

namespace Monkey.Occurrence

variable {Item : Type} [DecidableEq Item]

/-- Adds the occurrences of a pattern, given by its first item and the others, to those found
before. -/
@[specialize]
def countFrom (first : Item) (others : List Item) (found : Nat) : List Item → Nat
  | [] => found
  | item :: rest =>
      if item = first ∧ others.isPrefixOf rest then
        countFrom first others (found + 1) (rest.drop others.length)
      else
        countFrom first others found rest
termination_by items => items.length
decreasing_by
  · simp only [List.length_drop, List.length_cons]
    omega
  · simp only [List.length_cons]
    omega

@[specialize]
def count (items pattern : List Item) : Nat :=
  match pattern with
  | [] => items.length + 1
  | first :: others => countFrom first others 0 items

end Monkey.Occurrence
