import Monkey.Program.Cursor

/-!
# What readers build, whatever the diagnostics

`Parse.Reads` tells what readings without a diagnostic come to. This file is about all readings:
if every token that is still to be read is of an allowed sort, then so is every token that a
reader leaves, whether it succeeds or fails, and its results keep to a condition. `Parse.Builds`
is proved of a reader from the readers it is made of.
-/

namespace Monkey

variable {Result Next : Type}

/-- Whether an outcome leaves allowed tokens only, and a result of it keeps to a condition. -/
def Outcome.Keeps (allowed : Token → Prop) (good : Result → Prop) : Outcome Result → Prop
  | .parsed value stop => (∀ token ∈ stop.remaining, allowed token) ∧ good value
  | .failed stop => ∀ token ∈ stop.remaining, allowed token
  | .unfinished => True

namespace Parse

/-- Whether a reader that starts on allowed tokens leaves allowed tokens, and its results keep to
a condition. -/
def Builds (parse : Parse Result) (allowed : Token → Prop) (good : Result → Prop) : Prop :=
  ∀ start, (∀ token ∈ start.remaining, allowed token) → (parse start).Keeps allowed good

namespace Builds

variable {allowed : Token → Prop} {good : Result → Prop} {target : Next → Prop}

theorem pure {value : Result} (holds : good value) :
    (Pure.pure value : Parse Result).Builds allowed good :=
  fun _ inside => ⟨inside, holds⟩

theorem bind {first : Parse Result} {next : Result → Parse Next}
    (builds : first.Builds allowed good)
    (rest : ∀ value, good value → (next value).Builds allowed target) :
    (first >>= next).Builds allowed target := by
  intro start inside
  have keeps := builds start inside
  change (Parse.bind first next start).Keeps allowed target
  unfold Parse.bind
  cases outcome : first start with
  | unfinished => trivial
  | failed stop =>
      rw [outcome] at keeps
      exact keeps
  | parsed value middle =>
      rw [outcome] at keeps
      exact rest value keeps.2 middle keeps.1

theorem unfinished : (Parse.unfinished : Parse Result).Builds allowed good :=
  fun _ _ => trivial

theorem fail (diagnostic : Diagnostic) :
    (Parse.fail diagnostic : Parse Result).Builds allowed good :=
  fun _ inside => inside

/-- The token that a cursor stands on is the end mark or one of those to be read. -/
theorem current (atEnd : allowed .eof) : Parse.current.Builds allowed allowed := by
  intro start inside
  refine ⟨inside, ?_⟩
  change allowed (start.remaining.headD .eof)
  cases shape : start.remaining with
  | nil => exact atEnd
  | cons first rest => exact inside first (by simp [shape])

theorem upcoming : Parse.upcoming.Builds allowed fun _ => True :=
  fun _ inside => ⟨inside, trivial⟩

theorem advance : Parse.advance.Builds allowed fun _ => True :=
  fun _ inside => ⟨fun _ member => inside _ (List.mem_of_mem_tail member), trivial⟩

theorem skipTo (stop : Token → Bool) : (Parse.skipTo stop).Builds allowed fun _ => True :=
  fun _ inside =>
    ⟨fun _ member => inside _ ((List.dropWhile_sublist _).subset member), trivial⟩

theorem expect (kind : Kind) : (Parse.expect kind).Builds allowed fun _ => True := by
  intro start inside
  unfold Parse.expect
  split
  · exact advance start inside
  · exact inside

theorem skipOptional (kind : Kind) :
    (Parse.skipOptional kind).Builds allowed fun _ => True := by
  intro start inside
  unfold Parse.skipOptional
  split
  · exact advance start inside
  · exact ⟨inside, trivial⟩

theorem attempt {parse : Parse Result} (builds : parse.Builds allowed good) :
    (Parse.attempt parse).Builds allowed fun result => ∀ value ∈ result, good value := by
  intro start inside
  have keeps := builds start inside
  unfold Parse.attempt
  cases outcome : parse start with
  | unfinished => trivial
  | failed stop =>
      rw [outcome] at keeps
      exact ⟨keeps, by simp⟩
  | parsed value stop =>
      rw [outcome] at keeps
      refine ⟨keeps.1, ?_⟩
      rintro _ ⟨⟩
      exact keeps.2

/-- After an expected token has come, the cursor stands on it. -/
theorem expect_current {kind : Kind} {next : Token → Parse Next} (atEnd : allowed .eof)
    (rest : ∀ token, token.kind = kind → allowed token → (next token).Builds allowed target) :
    (Parse.expect kind >>= fun _ => Parse.current >>= next).Builds allowed target := by
  intro start inside
  change (Parse.bind (Parse.expect kind) (fun _ => Parse.bind Parse.current next)
    start).Keeps allowed target
  unfold Parse.bind Parse.expect
  by_cases same : start.upcoming.kind = kind
  · have later := (advance start inside).1
    have isAllowed := (current atEnd start.advance later).2
    simp only [if_pos same]
    exact rest _ same isAllowed start.advance later
  · simp only [if_neg same]
    exact inside

/-- A reader whose first step has to come before it, as when a block is read from its brace. -/
theorem bind_after {Opening : Type} {opening : Parse Opening} {first : Parse Result}
    {next : Result → Parse Next}
    (builds : (opening >>= fun _ => first).Builds allowed good)
    (rest : ∀ value, good value → (next value).Builds allowed target) :
    (opening >>= fun _ => first >>= next).Builds allowed target := by
  have assoc : (opening >>= fun _ => first >>= next) = (opening >>= fun _ => first) >>= next := by
    funext start
    change Parse.bind opening (fun _ => Parse.bind first next) start =
      Parse.bind (Parse.bind opening fun _ => first) next start
    unfold Parse.bind
    cases opening start <;> rfl
  rw [assoc]
  exact bind builds rest

end Builds

end Parse

end Monkey
