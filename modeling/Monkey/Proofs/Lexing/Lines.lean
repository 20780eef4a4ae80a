import Monkey.Proofs.Lexing.Factorization
import Monkey.Text.Line

/-!
# Sources of several lines

A line feed is white space to the lexer, so the tokens of two lines with a line feed in between are
those of one line and then those of the other. There is one exception, a string that no quote ends:
it would go on in the next line. The last token of a line says whether that happens.

The lines that a text is split into are those it has been joined from, if none of them holds a byte
that ends lines.
-/

namespace Monkey

/-- Where no string is left open, no row of letters or digits goes on, and no symbol grows. -/
theorem Lexeme.Spells.before_feed {before after lexeme : List UInt8} {token : Token}
    (spells : Spells before after token lexeme)
    (closed : after = [] → ∀ text, token ≠ .string text) (more : List UInt8) :
    Spells before (after ++ Line.feed :: more) token lexeme := by
  have head_eq : (after ++ Line.feed :: more).head? = after.head?.or (some Line.feed) :=
    List.head?_append
  have alone (apart : after.head? ≠ some '='.toUInt8) :
      (after ++ Line.feed :: more).head? ≠ some '='.toUInt8 := by
    rw [head_eq]
    cases after with
    | nil => decide
    | cons first rest => exact apart
  have extend {accept : UInt8 → Bool} {run : List UInt8} (blank : accept Line.feed = false)
      (isRun : IsRun accept before run after) :
      IsRun accept before run (after ++ Line.feed :: more) := by
    refine { isRun with stops := ?_ }
    rw [head_eq]
    cases after with
    | nil => exact fun byte member => Option.some.inj member ▸ blank
    | cons first rest => exact isRun.stops
  cases spells with
  | operator sign apart => exact .operator sign fun bang => alone (apart bang)
  | punctuation mark apart => exact .punctuation mark fun assign => alone (apart assign)
  | keyword word run => exact .keyword word (extend (by decide) run)
  | ident name run free => exact .ident name (extend (by decide) run) free
  | int digits run => exact .int digits (extend (by decide) run)
  | string text unquoted => exact .string text unquoted
  | unclosed text unquoted last => exact absurd rfl (closed last text)
  | illegal byte notBlank notLetter notDigit notQuote noSymbol =>
      exact .illegal byte notBlank notLetter notDigit notQuote noSymbol

/-- The tokens of a line that ends in no string, and then those of what comes after it. -/
theorem Lexeme.Factors.tokens_before_feed {before bytes trailing : List UInt8}
    {pieces : List Piece} (factors : Factors before bytes pieces trailing)
    (closed : ∀ token ∈ (pieces.map Piece.token).getLast?, ∀ text, token ≠ .string text)
    (more : List UInt8) :
    Token.ofBytes (bytes ++ Line.feed :: more) =
      pieces.map Piece.token ++ Token.ofBytes more := by
  induction factors with
  | @finish _ trailing blank =>
      have blanks : ∀ byte ∈ trailing ++ [Line.feed], isBlank byte = true := by
        refine List.forall_mem_append.mpr ⟨blank, List.forall_mem_singleton.mpr (by decide)⟩
      have same := next_blanks blanks more
      rw [List.append_assoc] at same
      exact Token.ofBytes_of_next_eq same
  | @piece _ after _ piece pieces blank spells rest ih =>
      have spells' := spells.before_feed (fun none => ?_) more
      · rcases next_piece blank spells' with ⟨found, step, proper, token_eq⟩
        rw [List.append_assoc, Token.ofBytes_of_next step proper, token_eq, ih ?_,
          List.map_cons, List.cons_append]
        intro token member
        refine closed token ?_
        rw [List.map_cons, List.getLast?_cons, Option.mem_def.mp member]
        rfl
      · -- Nothing comes after the piece, so its token is the last one.
        have empty : pieces.map Piece.token = [] := by rw [← rest.tokens, none, Token.ofBytes_nil]
        refine closed _ ?_
        rw [List.map_cons, empty]
        rfl

theorem Token.exists_factors (source : String) :
    ∃ pieces trailing, Lexeme.Factors [] (sourceBytes source) pieces trailing ∧
      Token.ofSource source = pieces.map Lexeme.Piece.token := by
  have parted : Lexeme.Parted [] (sourceBytes source) :=
    .of_last (by rintro _ ⟨⟩) (by rintro _ ⟨⟩)
  rcases Lexeme.exists_factors [] (sourceBytes source) rfl parted with ⟨pieces, trailing, factors⟩
  exact ⟨pieces, trailing, factors, factors.tokens⟩

/-- A source has no end mark among its tokens. -/
theorem Token.eof_not_mem_ofSource (source : String) : .eof ∉ Token.ofSource source := by
  rcases Token.exists_factors source with ⟨pieces, trailing, factors, read⟩
  exact read ▸ factors.eof_not_mem

/-- The tokens of two lines are those of the first and those of the second, if the first one ends in
no string. -/
theorem Token.ofBytes_lines {line : String}
    (closed : ∀ token ∈ (Token.ofSource line).getLast?, ∀ text, token ≠ .string text)
    (more : List UInt8) :
    Token.ofBytes (sourceBytes line ++ Line.feed :: more) =
      Token.ofSource line ++ Token.ofBytes more := by
  rcases Token.exists_factors line with ⟨pieces, trailing, factors, read⟩
  rw [read] at closed ⊢
  exact factors.tokens_before_feed closed more

theorem sourceBytes_intercalate (first second : String) (rest : List String) :
    sourceBytes ("\n".intercalate (first :: second :: rest)) =
      sourceBytes first ++ Line.feed :: sourceBytes ("\n".intercalate (second :: rest)) := by
  rw [String.intercalate_cons_cons, sourceBytes_append, sourceBytes_append, List.append_assoc]
  rfl

/-- The tokens of lines that end in no string are those of one line after the other. -/
theorem Token.ofSource_intercalate {lines : List String}
    (closed : ∀ line ∈ lines, ∀ token ∈ (Token.ofSource line).getLast?,
      ∀ text, token ≠ .string text) :
    Token.ofSource ("\n".intercalate lines) = lines.flatMap Token.ofSource := by
  induction lines with
  | nil => exact Token.ofBytes_nil
  | cons first rest ih =>
      rw [List.forall_mem_cons] at closed
      cases rest with
      | nil => rw [String.intercalate_singleton, List.flatMap_singleton]
      | cons second rest =>
          have joined := Token.ofBytes_lines closed.1
            (sourceBytes ("\n".intercalate (second :: rest)))
          rw [← sourceBytes_intercalate] at joined
          rw [List.flatMap_cons, ← ih closed.2]
          exact joined

/-! ## Lines of a text -/

namespace Line

/-- Whether bytes hold none that ends a line. -/
def IsWhole (bytes : List UInt8) : Prop :=
  feed ∉ bytes ∧ carriageReturn ∉ bytes

theorem isWhole_sourceBytes {line : String} (noFeed : '\n' ∉ line.toList)
    (noReturn : '\r' ∉ line.toList) : IsWhole (sourceBytes line) := by
  have absent {byte : UInt8} {char : Char} (ascii : byte.toNat < 128)
      (code : Char.ofNat byte.toNat = char) (absent : char ∉ line.toList) :
      byte ∉ sourceBytes line := by
    intro member
    rcases mem_sourceBytes member with ⟨letter, inside, encodes⟩
    rw [← code, ← toNat_eq_of_mem_utf8EncodeChar encodes ascii, Char.ofNat_toNat] at absent
    exact absent inside
  exact ⟨absent (by decide) (by decide) noFeed, absent (by decide) (by decide) noReturn⟩

theorem dropReturn_eq {bytes : List UInt8} (noReturn : carriageReturn ∉ bytes) :
    dropReturn bytes = bytes := by
  cases bytes with
  | nil => rfl
  | cons byte rest =>
      rw [dropReturn, if_neg]
      rintro rfl
      exact noReturn List.mem_cons_self

theorem splitAfter_feed {line : List UInt8} (begun rest : List UInt8) (noFeed : feed ∉ line) :
    splitAfter begun (line ++ feed :: rest) =
      (dropReturn (line.reverse ++ begun)).reverse :: split rest := by
  induction line generalizing begun with
  | nil => rw [List.nil_append, splitAfter, if_pos rfl]; rfl
  | cons byte line ih =>
      rw [List.mem_cons, not_or] at noFeed
      rw [List.cons_append, splitAfter, if_neg (Ne.symm noFeed.1), ih _ noFeed.2]
      simp

theorem splitAfter_last {line : List UInt8} (begun : List UInt8) (noFeed : feed ∉ line) :
    splitAfter begun line =
      if (line.reverse ++ begun).isEmpty then [] else [begun.reverse ++ line] := by
  induction line generalizing begun with
  | nil => simp [splitAfter]
  | cons byte line ih =>
      rw [List.mem_cons, not_or] at noFeed
      rw [splitAfter, if_neg (Ne.symm noFeed.1), ih _ noFeed.2]
      simp

/-- Joined lines are split again, unless the last one is empty. -/
theorem split_intercalate {lines : List String}
    (whole : ∀ line ∈ lines, IsWhole (sourceBytes line))
    (last : ∀ line ∈ lines.getLast?, line ≠ "") :
    split (sourceBytes ("\n".intercalate lines)) = lines.map sourceBytes := by
  induction lines with
  | nil => rfl
  | cons first rest ih =>
      rw [List.forall_mem_cons] at whole
      cases rest with
      | nil =>
          have nonempty := sourceBytes_ne_nil (last first rfl)
          rw [String.intercalate_singleton, split, splitAfter_last [] whole.1.1]
          simp [nonempty]
      | cons second rest =>
          have noReturn : carriageReturn ∉ (sourceBytes first).reverse := by
            simpa using whole.1.2
          rw [sourceBytes_intercalate, split, splitAfter_feed [] _ whole.1.1, List.append_nil,
            dropReturn_eq noReturn, List.reverse_reverse, ih whole.2 last]
          rfl

end Line

end Monkey
