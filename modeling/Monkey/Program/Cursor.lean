import Monkey.Program.Diagnostic

/-!
# Reading tokens

A cursor stands on the current token of a token list and can see the one after it; past the end
of the list every token is the end mark. `Parse` is the type of a reader of one construct: it
moves the cursor, appends diagnostics, and yields the construct, or fails after a diagnostic, or
runs out of the budget of steps that the readers of nested constructs share.
-/

namespace Monkey

/-- The tokens still to be read, the current one first, and the diagnostics so far. -/
structure Cursor where
  remaining : List Token
  diagnostics : List Diagnostic

namespace Cursor

/-- The token that the cursor stands on. -/
def current (cursor : Cursor) : Token :=
  cursor.remaining.headD .eof

/-- The token after the current one. -/
def upcoming (cursor : Cursor) : Token :=
  cursor.remaining.tail.headD .eof

/-- Steps to the next token. -/
def advance (cursor : Cursor) : Cursor :=
  { cursor with remaining := cursor.remaining.tail }

/-- Steps to the first token, from the current one on, that satisfies a condition, or past the
end of the list. -/
def skipTo (stop : Token → Bool) (cursor : Cursor) : Cursor :=
  { cursor with remaining := cursor.remaining.dropWhile fun token => !stop token }

/-- Appends a diagnostic. -/
def report (diagnostic : Diagnostic) (cursor : Cursor) : Cursor :=
  { cursor with diagnostics := cursor.diagnostics ++ [diagnostic] }

end Cursor

/-- What an attempt to read a construct comes to. -/
inductive Outcome (Result : Type) where
  | parsed (value : Result) (cursor : Cursor)
  | failed (cursor : Cursor)
  | unfinished

/-- A reader of one construct. -/
def Parse (Result : Type) : Type :=
  Cursor → Outcome Result

namespace Parse

variable {Result Next : Type}

/-- Reads nothing and yields a value. -/
@[always_inline, inline]
protected def pure (value : Result) : Parse Result := fun cursor =>
  .parsed value cursor

/-- Reads a construct and goes on with what follows it; a failure ends the whole. -/
@[always_inline, inline]
protected def bind (first : Parse Result) (next : Result → Parse Next) : Parse Next := fun cursor =>
  match first cursor with
  | .parsed value cursor => next value cursor
  | .failed cursor => .failed cursor
  | .unfinished => .unfinished

@[always_inline]
instance : Monad Parse where
  pure := Parse.pure
  bind := Parse.bind

/-- The reader whose budget is spent. -/
def unfinished : Parse Result := fun _ =>
  .unfinished

/-- Yields the current token. -/
@[inline]
def current : Parse Token := fun cursor =>
  .parsed cursor.current cursor

/-- Yields the token after the current one. -/
@[inline]
def upcoming : Parse Token := fun cursor =>
  .parsed cursor.upcoming cursor

/-- Steps to the next token. -/
@[inline]
def advance : Parse Unit := fun cursor =>
  .parsed () cursor.advance

/-- Steps to the first token that satisfies a condition. -/
@[inline]
def skipTo (stop : Token → Bool) : Parse Unit := fun cursor =>
  .parsed () (cursor.skipTo stop)

/-- Fails with a diagnostic. -/
@[inline]
def fail (diagnostic : Diagnostic) : Parse Result := fun cursor =>
  .failed (cursor.report diagnostic)

/-- Steps to the next token if it is of the given kind, and fails on the spot otherwise. -/
def expect (kind : Kind) : Parse Unit := fun cursor =>
  if cursor.upcoming.kind = kind then
    .parsed () cursor.advance
  else
    .failed (cursor.report (.unexpectedToken kind cursor.upcoming.kind))

/-- Steps to the next token if it is of the given kind, and stays otherwise. -/
def skipOptional (kind : Kind) : Parse Unit := fun cursor =>
  if cursor.upcoming.kind = kind then .parsed () cursor.advance else .parsed () cursor

/-- Turns a failure into an answer, so that reading can go on after it. -/
@[inline]
def attempt (parse : Parse Result) : Parse (Option Result) := fun cursor =>
  match parse cursor with
  | .parsed value cursor => .parsed (some value) cursor
  | .failed cursor => .parsed none cursor
  | .unfinished => .unfinished

end Parse

end Monkey
