import Monkey.Program.Cursor

/-!
# What readers keep to

A reader only ever appends diagnostics, and it fails only after a diagnostic. So a reading at the
end of which no diagnostic is new has met no failure anywhere inside, not even one that an
`attempt` has turned into an answer. `Parse.Reads` joins this rule with what such a quiet reading
tells about the tokens before and after it, and is proved of a reader from the readers it is made
of.
-/

namespace Monkey

variable {Result Next : Type}

/-- What a quiet reading tells about the tokens before it, its result and the tokens after it. -/
abbrev Parse.Condition (Result : Type) := List Token → Result → List Token → Prop

/-- Whether an outcome keeps to the rule of diagnostics, and to a condition if it is quiet. -/
def Outcome.Meets (start : Cursor) (post : Parse.Condition Result) : Outcome Result → Prop
  | .parsed value stop =>
      start.diagnostics <+: stop.diagnostics ∧
        (stop.diagnostics = start.diagnostics → post start.remaining value stop.remaining)
  | .failed stop => start.diagnostics <+: stop.diagnostics ∧ stop.diagnostics ≠ start.diagnostics
  | .unfinished => True

namespace Parse

/-- Whether every outcome of a reader keeps to the rule of diagnostics, and every quiet one to a
condition. -/
def Reads (parse : Parse Result) (post : Parse.Condition Result) : Prop :=
  ∀ start, (parse start).Meets start post

/-- If two rows of diagnostics extend a row in turn and the second one ends as the row was, so did
the first. -/
theorem quiet_of_between {start middle stop : List Diagnostic} (first : start <+: middle)
    (second : middle <+: stop) (quiet : stop = start) : middle = start ∧ stop = middle := by
  subst quiet
  have same := first.eq_of_length (Nat.le_antisymm first.length_le second.length_le)
  exact ⟨same.symm, same⟩

namespace Reads

variable {post : Condition Result}

theorem mono {parse : Parse Result} {weaker : Condition Result} (reads : parse.Reads post)
    (implies : ∀ before value after, post before value after → weaker before value after) :
    parse.Reads weaker := by
  intro start
  have meets := reads start
  cases outcome : parse start with
  | parsed value stop =>
      rw [outcome] at meets
      exact ⟨meets.1, fun quiet => implies _ _ _ (meets.2 quiet)⟩
  | failed stop =>
      rw [outcome] at meets
      exact meets
  | unfinished => trivial

theorem pure (value : Result) :
    (Pure.pure value : Parse Result).Reads fun before result after =>
      result = value ∧ after = before :=
  fun _ => ⟨List.prefix_rfl, fun _ => ⟨rfl, rfl⟩⟩

/-- A sequence of two readings meets a condition if the second one meets it for every row of
tokens that the first one may have started from. -/
theorem bind {first : Parse Result} {next : Result → Parse Next} {target : Condition Next}
    (reads : first.Reads post)
    (readsNext : ∀ value, (next value).Reads fun middle result after =>
      ∀ before, post before value middle → target before result after) :
    (first >>= next).Reads target := by
  intro start
  have meets := reads start
  change (Parse.bind first next start).Meets start _
  unfold Parse.bind
  cases outcome : first start with
  | unfinished => trivial
  | failed stop =>
      rw [outcome] at meets
      exact meets
  | parsed value middle =>
      rw [outcome] at meets
      obtain ⟨grows, holds⟩ := meets
      have meetsNext := readsNext value middle
      simp only
      cases outcomeNext : next value middle with
      | unfinished => trivial
      | failed stop =>
          rw [outcomeNext] at meetsNext
          obtain ⟨growsNext, loud⟩ := meetsNext
          exact ⟨grows.trans growsNext,
            fun quiet => loud (quiet_of_between grows growsNext quiet).2⟩
      | parsed result stop =>
          rw [outcomeNext] at meetsNext
          obtain ⟨growsNext, holdsNext⟩ := meetsNext
          refine ⟨grows.trans growsNext, fun quiet => ?_⟩
          obtain ⟨quietFirst, quietNext⟩ := quiet_of_between grows growsNext quiet
          exact holdsNext quietNext _ (holds quietFirst)

theorem unfinished : (Parse.unfinished : Parse Result).Reads post :=
  fun _ => trivial

theorem fail (diagnostic : Diagnostic) : (Parse.fail diagnostic : Parse Result).Reads post :=
  fun _ => ⟨List.prefix_append _ _, by simp [Cursor.report]⟩

theorem current :
    Parse.current.Reads fun before token after => token = before.headD .eof ∧ after = before :=
  fun _ => ⟨List.prefix_rfl, fun _ => ⟨rfl, rfl⟩⟩

theorem upcoming :
    Parse.upcoming.Reads fun before token after =>
      token = before.tail.headD .eof ∧ after = before :=
  fun _ => ⟨List.prefix_rfl, fun _ => ⟨rfl, rfl⟩⟩

theorem advance : Parse.advance.Reads fun before _ after => after = before.tail :=
  fun _ => ⟨List.prefix_rfl, fun _ => rfl⟩

theorem skipTo (stop : Token → Bool) : (Parse.skipTo stop).Reads fun _ _ _ => True :=
  fun _ => ⟨List.prefix_rfl, fun _ => trivial⟩

theorem expect (kind : Kind) :
    (Parse.expect kind).Reads fun before _ after =>
      (before.tail.headD .eof).kind = kind ∧ after = before.tail := by
  intro start
  unfold Parse.expect
  split
  · next found => exact ⟨List.prefix_rfl, fun _ => ⟨found, rfl⟩⟩
  · exact ⟨List.prefix_append _ _, by simp [Cursor.report]⟩

theorem skipOptional (kind : Kind) :
    (Parse.skipOptional kind).Reads fun before _ after =>
      if (before.tail.headD .eof).kind = kind then after = before.tail else after = before := by
  intro start
  unfold Parse.skipOptional
  split
  · next found => exact ⟨List.prefix_rfl, fun _ => (if_pos found).mpr rfl⟩
  · next other => exact ⟨List.prefix_rfl, fun _ => (if_neg other).mpr rfl⟩

/-- A quiet attempt has succeeded. -/
theorem attempt {parse : Parse Result} (reads : parse.Reads post) :
    (Parse.attempt parse).Reads fun before result after =>
      ∃ value, result = some value ∧ post before value after := by
  intro start
  have meets := reads start
  unfold Parse.attempt
  cases outcome : parse start with
  | unfinished => trivial
  | failed stop =>
      rw [outcome] at meets
      exact ⟨meets.1, fun quiet => absurd quiet meets.2⟩
  | parsed value stop =>
      rw [outcome] at meets
      exact ⟨meets.1, fun quiet => ⟨value, rfl, meets.2 quiet⟩⟩

end Reads

end Parse

/-- A token other than the end mark at the front of a row is really there. -/
theorem eq_cons_of_headD {tokens : List Token} {token : Token} (head : tokens.headD .eof = token)
    (real : token ≠ .eof) : tokens = token :: tokens.tail := by
  cases tokens with
  | nil => exact absurd head.symm real
  | cons first rest =>
      obtain rfl : first = token := head
      rfl

end Monkey
