import Monkey.Proofs.Printing.Lexed

/-!
# What a source is made of

The bytes of a source are lexemes with white space between them, and in one way only. Symbols are
spelled as they always are, names and numerals reach as far as letters and digits do on both sides,
a string goes from quote to quote or else to the end, and any other byte stands for itself. These
rules say nothing of how a source is read; reading it from front to back takes the one way there is.

A string has text between its quotes because a quote is a character of its own wherever its byte
stands in a source, so that a source cut at a quote is text on both sides.
-/

namespace Monkey

/-- A source that is cut at a byte of ASCII is text on both sides of it. -/
theorem exists_sourceBytes_of_cut {source : String} {before after : List UInt8} {byte : UInt8}
    (ascii : byte.toNat < 128) (cut : sourceBytes source = before ++ byte :: after) :
    ∃ front back, before = sourceBytes front ∧ after = sourceBytes back := by
  rw [sourceBytes_eq_flatMap] at cut
  have spelled (letters : List Char) :
      letters.flatMap String.utf8EncodeChar = sourceBytes (String.ofList letters) := by
    rw [sourceBytes_eq_flatMap, String.toList_ofList]
  generalize source.toList = letters at cut
  induction letters generalizing before with
  | nil => simp at cut
  | cons letter rest ih =>
      rw [List.flatMap_cons] at cut
      have later {middle : List UInt8} (left : before = String.utf8EncodeChar letter ++ middle)
          (right : rest.flatMap String.utf8EncodeChar = middle ++ byte :: after) :
          ∃ front back, before = sourceBytes front ∧ after = sourceBytes back := by
        rcases ih right with ⟨front, back, rfl, same⟩
        refine ⟨String.ofList [letter] ++ front, back, ?_, same⟩
        rw [left, sourceBytes_append, ← spelled, List.flatMap_singleton]
      rcases List.append_eq_append_iff.mp cut with ⟨middle, left, right⟩ | ⟨middle, left, right⟩
      · exact later left right
      · cases middle with
        | nil =>
            have whole : before = String.utf8EncodeChar letter ++ [] := by simp [left]
            exact later whole right.symm
        | cons first others =>
            -- The cut is at a byte of this character, which is therefore the only one.
            rcases List.cons.inj right with ⟨rfl, following⟩
            have member : byte ∈ String.utf8EncodeChar letter := by simp [left]
            have code := toNat_eq_of_mem_utf8EncodeChar member ascii
            have single : String.utf8EncodeChar letter = [byte] := by
              rw [← Char.ofNat_toNat letter, code, Lexeme.utf8EncodeChar_ofNat ascii]
            rw [single] at left
            rcases List.singleton_eq_append_iff.mp left with ⟨rfl, alone⟩ | ⟨_, none⟩
            · rw [(List.cons.inj alone).2] at following
              exact ⟨"", String.ofList rest, rfl, following.trans (spelled rest)⟩
            · cases none

namespace Lexeme

/-- What stands between a quote and the next one, or the end, is text. -/
theorem sourceBytes_text_of_quoted {source : String} {before body after : List UInt8}
    (whole : sourceBytes source = before ++ quote :: (body ++ after))
    (closed : ∀ byte ∈ after.head?, byte = quote) : sourceBytes (text body) = body := by
  rcases exists_sourceBytes_of_cut (by decide) whole with ⟨_, inside, _, cut⟩
  cases after with
  | nil => rw [← List.append_nil body, cut, text_sourceBytes]
  | cons byte after =>
      obtain rfl := closed byte rfl
      rcases exists_sourceBytes_of_cut (by decide) cut.symm with ⟨front, _, rfl, _⟩
      rw [text_sourceBytes]

/-- Whether bytes are a row of accepted ones that none follows and that follows none. -/
structure IsRun (accept : UInt8 → Bool) (before run after : List UInt8) : Prop where
  nonempty : run ≠ []
  inside : ∀ byte ∈ run, accept byte = true
  starts : ∀ byte ∈ before.getLast?, accept byte = false
  stops : ∀ byte ∈ after.head?, accept byte = false

/-- Whether a symbol starts with a byte. -/
def StartsSymbol (byte : UInt8) : Prop :=
  (∃ sign : Operator, (sourceBytes sign.symbol).head? = some byte) ∨
    ∃ mark : Punctuation, (sourceBytes mark.symbol).head? = some byte

/-- The lexemes of a token where they stand: what comes before and after them counts as well. -/
inductive Spells (before after : List UInt8) : Token → List UInt8 → Prop where
  | operator (sign : Operator) (alone : sign = .bang → after.head? ≠ some '='.toUInt8) :
      Spells before after (.operator sign) (sourceBytes sign.symbol)
  | punctuation (mark : Punctuation) (alone : mark = .assign → after.head? ≠ some '='.toUInt8) :
      Spells before after (.punctuation mark) (sourceBytes mark.symbol)
  | keyword (word : Keyword) (run : IsRun isLetter before (sourceBytes word.spelling) after) :
      Spells before after (.keyword word) (sourceBytes word.spelling)
  | ident (name : String) (run : IsRun isLetter before (sourceBytes name) after)
      (free : ∀ word : Keyword, name ≠ word.spelling) :
      Spells before after (.ident name) (sourceBytes name)
  | int (digits : String) (run : IsRun isDigit before (sourceBytes digits) after) :
      Spells before after (.int digits) (sourceBytes digits)
  | string (text : String) (unquoted : quote ∉ sourceBytes text) :
      Spells before after (.string text) (quote :: (sourceBytes text ++ [quote]))
  | unclosed (text : String) (unquoted : quote ∉ sourceBytes text) (last : after = []) :
      Spells before after (.string text) (quote :: sourceBytes text)
  | illegal (byte : UInt8) (notBlank : isBlank byte = false) (notLetter : isLetter byte = false)
      (notDigit : isDigit byte = false) (notQuote : byte ≠ quote)
      (noSymbol : ¬StartsSymbol byte) : Spells before after (.illegal byte) [byte]

/-- A token with its lexeme, and the white space in front of it. -/
@[ext]
structure Piece where
  blanks : List UInt8
  token : Token
  lexeme : List UInt8

def Piece.bytes (piece : Piece) : List UInt8 :=
  piece.blanks ++ piece.lexeme

/-- Whether bytes, with other bytes before them, are made of pieces and of white space after
those. -/
inductive Factors : (before bytes : List UInt8) → List Piece → (trailing : List UInt8) → Prop where
  | finish {before trailing : List UInt8} (blank : ∀ byte ∈ trailing, isBlank byte = true) :
      Factors before trailing [] trailing
  | piece {before after trailing : List UInt8} {piece : Piece} {pieces : List Piece}
      (blank : ∀ byte ∈ piece.blanks, isBlank byte = true)
      (spells : Spells (before ++ piece.blanks) after piece.token piece.lexeme)
      (rest : Factors (before ++ piece.bytes) after pieces trailing) :
      Factors before (piece.bytes ++ after) (piece :: pieces) trailing

/-! ## Reading a lexeme -/

theorem next_blanks {blanks : List UInt8} (blank : ∀ byte ∈ blanks, isBlank byte = true)
    (rest : List UInt8) : next (blanks ++ rest) = next rest := by
  rw [next, next, List.dropWhile_append_of_pos blank]

/-- A byte that spells a symbol by itself spells that symbol. -/
theorem sourceBytes_of_symbol? {byte : UInt8} {token : Token} (found : symbol? byte = some token) :
    (∃ sign : Operator, token = .operator sign ∧ sourceBytes sign.symbol = [byte]) ∨
      ∃ mark : Punctuation, token = .punctuation mark ∧ sourceBytes mark.symbol = [byte] := by
  have spelled := forall_byte (fun byte => (symbol? byte).all fun token =>
    (Operator.all.any fun sign => token = .operator sign && sourceBytes sign.symbol = [byte]) ||
      Punctuation.all.any fun mark =>
        token = .punctuation mark && sourceBytes mark.symbol = [byte]) (by decide +kernel) byte
  simp only [found, Option.all_some, Bool.or_eq_true, List.any_eq_true, Bool.and_eq_true,
    decide_eq_true_eq] at spelled
  rcases spelled with ⟨sign, _, same⟩ | ⟨mark, _, same⟩
  · exact .inl ⟨sign, same⟩
  · exact .inr ⟨mark, same⟩

theorem not_startsSymbol {byte : UInt8} (none : symbol? byte = none) : ¬StartsSymbol byte := by
  rintro (⟨sign, starts⟩ | ⟨mark, starts⟩)
  · cases sign <;> cases starts <;> cases none
  · cases mark <;> cases starts <;> cases none

theorem symbol?_of_not_startsSymbol {byte : UInt8} (noSymbol : ¬StartsSymbol byte) :
    symbol? byte = none := by
  cases found : symbol? byte with
  | none => rfl
  | some token =>
      exfalso
      rcases sourceBytes_of_symbol? found with ⟨sign, _, spelled⟩ | ⟨mark, _, spelled⟩
      · exact noSymbol (.inl ⟨sign, by rw [spelled, List.head?_cons]⟩)
      · exact noSymbol (.inr ⟨mark, by rw [spelled, List.head?_cons]⟩)

theorem token_word (letters : String) : (word (sourceBytes letters)).token = .ofWord letters := by
  rw [token, text_sourceBytes]

theorem next_unclosed {body : List UInt8} (inside : ∀ byte ∈ body, isQuotable byte = true) :
    next (quote :: body) = (.quoted body, []) := by
  have opening : next (quote :: body) =
      (.quoted (body.takeWhile isQuotable), (body.dropWhile isQuotable).tail) := rfl
  rw [opening, List.takeWhile_eq_self_iff.mpr inside, List.dropWhile_eq_nil_iff.mpr inside,
    List.tail_nil]

theorem next_stray {byte : UInt8} (notBlank : isBlank byte = false)
    (notLetter : isLetter byte = false) (notDigit : isDigit byte = false) (notQuote : byte ≠ quote)
    (noSymbol : symbol? byte = none) (rest : List UInt8) :
    next (byte :: rest) = (.stray byte, rest) := by
  have short : longSymbol? byte rest.head? = none := by
    refine longSymbol?_of_short _ ?_ ?_
    all_goals
      rintro rfl
      cases noSymbol
  rw [next, List.dropWhile_cons_of_neg (by simp [notBlank])]
  simp only [startingWith, notLetter, notDigit, Bool.false_eq_true, if_false, if_neg notQuote,
    short, noSymbol]

namespace Spells

variable {before after lexeme : List UInt8} {token : Token}
  (spells : Spells before after token lexeme)

include spells

/-- A lexeme is read as its token, and what comes after it is left. -/
theorem next_eq :
    ∃ found, next (lexeme ++ after) = (found, after) ∧ found ≠ .finish ∧ found.token = token := by
  have short {byte : UInt8} (notEquals : byte ≠ '='.toUInt8) (notBang : byte ≠ '!'.toUInt8) :=
    longSymbol?_of_short after.head? notEquals notBang
  cases spells with
  | operator sign alone =>
      cases sign with
      | bang =>
          exact ⟨_, next_symbol rfl (longSymbol?_of_ne_equals (alone rfl)), Lexeme.noConfusion, rfl⟩
      | equal => exact ⟨_, rfl, Lexeme.noConfusion, rfl⟩
      | notEqual => exact ⟨_, rfl, Lexeme.noConfusion, rfl⟩
      | _ => exact ⟨_, next_symbol rfl (short (by decide) (by decide)), Lexeme.noConfusion, rfl⟩
  | punctuation mark alone =>
      cases mark with
      | assign =>
          exact ⟨_, next_symbol rfl (longSymbol?_of_ne_equals (alone rfl)), Lexeme.noConfusion, rfl⟩
      | _ => exact ⟨_, next_symbol rfl (short (by decide) (by decide)), Lexeme.noConfusion, rfl⟩
  | keyword word run =>
      refine ⟨_, next_word run.nonempty run.inside run.stops, Lexeme.noConfusion, ?_⟩
      rw [token_word, Token.ofWord_spelling]
  | ident name run free =>
      refine ⟨_, next_word run.nonempty run.inside run.stops, Lexeme.noConfusion, ?_⟩
      rw [token_word, Token.ofWord_of_free free]
  | int digits run =>
      refine ⟨_, next_number run.nonempty run.inside run.stops, Lexeme.noConfusion, ?_⟩
      rw [Lexeme.token, text_sourceBytes]
  | string text unquoted =>
      have read := next_quoted (isQuotable_of_not_mem unquoted) after
      refine ⟨.quoted (sourceBytes text), by simpa using read, Lexeme.noConfusion, ?_⟩
      rw [Lexeme.token, text_sourceBytes]
  | unclosed text unquoted last =>
      have read := next_unclosed (isQuotable_of_not_mem unquoted)
      refine ⟨.quoted (sourceBytes text), by simpa [last] using read, Lexeme.noConfusion, ?_⟩
      rw [Lexeme.token, text_sourceBytes]
  | illegal byte notBlank notLetter notDigit notQuote noSymbol =>
      have none := symbol?_of_not_startsSymbol noSymbol
      exact ⟨_, next_stray notBlank notLetter notDigit notQuote none after,
        Lexeme.noConfusion, rfl⟩

theorem head_not_blank : ∀ byte ∈ lexeme.head?, isBlank byte = false := by
  intro byte member
  cases spells with
  | operator sign _ => cases sign <;> cases member <;> rfl
  | punctuation mark _ => cases mark <;> cases member <;> rfl
  | keyword word run => exact isBlank_of_isLetter (run.inside byte (List.mem_of_mem_head? member))
  | ident name run _ => exact isBlank_of_isLetter (run.inside byte (List.mem_of_mem_head? member))
  | int digits run =>
      exact (isBlank_of_isDigit (run.inside byte (List.mem_of_mem_head? member))).1
  | string text _ => cases member; rfl
  | unclosed text _ _ => cases member; rfl
  | illegal _ notBlank => cases member; exact notBlank

theorem token_ne_eof : token ≠ .eof := by
  rintro rfl
  cases spells

end Spells

/-! ## Reading a source -/

namespace Factors

variable {before bytes trailing : List UInt8} {pieces : List Piece}

theorem bytes_eq (factors : Factors before bytes pieces trailing) :
    bytes = pieces.flatMap Piece.bytes ++ trailing := by
  induction factors with
  | finish _ => rfl
  | piece _ _ _ ih => rw [List.flatMap_cons, List.append_assoc, ← ih]

theorem next_blank {bytes : List UInt8} (blank : ∀ byte ∈ bytes, isBlank byte = true) :
    next bytes = (.finish, []) := by
  rw [← List.append_nil bytes, next_blanks blank]
  rfl

theorem next_piece {after : List UInt8} {piece : Piece}
    (blank : ∀ byte ∈ piece.blanks, isBlank byte = true)
    (spells : Spells (before ++ piece.blanks) after piece.token piece.lexeme) :
    ∃ found, next (piece.bytes ++ after) = (found, after) ∧ found ≠ .finish ∧
      found.token = piece.token := by
  rw [Piece.bytes, List.append_assoc, next_blanks blank]
  exact spells.next_eq

/-- The tokens of the pieces are those that are read. -/
theorem tokens (factors : Factors before bytes pieces trailing) :
    Token.ofBytes bytes = pieces.map Piece.token := by
  induction factors with
  | @finish _ trailing blank =>
      have same : next trailing = next [] := next_blank blank
      rw [Token.ofBytes_of_next_eq same, Token.ofBytes_nil, List.map_nil]
  | piece blank spells _ ih =>
      rcases next_piece blank spells with ⟨found, step, more, token_eq⟩
      rw [Token.ofBytes_of_next step more, token_eq, ih, List.map_cons]

/-- Bytes are made of pieces in one way at most. -/
theorem unique {before' trailing' : List UInt8} {pieces' : List Piece}
    (factors : Factors before bytes pieces trailing)
    (factors' : Factors before' bytes pieces' trailing') :
    pieces' = pieces ∧ trailing' = trailing := by
  induction factors generalizing before' pieces' with
  | finish blank =>
      cases factors' with
      | finish _ => exact ⟨rfl, rfl⟩
      | piece blank' spells _ =>
          rcases next_piece blank' spells with ⟨found, step, more, _⟩
          rw [next_blank blank] at step
          exact absurd (congrArg Prod.fst step).symm more
  | @piece before after trailing piece pieces blank spells _ ih =>
      rcases next_piece blank spells with ⟨found, step, more, token_eq⟩
      generalize whole : piece.bytes ++ after = bytes at factors' step
      cases factors' with
      | finish blank' =>
          rw [next_blank blank'] at step
          exact absurd (congrArg Prod.fst step).symm more
      | @piece _ after' _ piece' pieces' blank' spells' rest' =>
          rcases next_piece blank' spells' with ⟨found', step', _, token_eq'⟩
          obtain ⟨rfl, rfl⟩ := Prod.mk.inj (step.symm.trans step')
          -- White space ends where a lexeme starts, so both pieces are cut at the same place.
          have bytes_eq := List.append_cancel_right whole
          have blanks_eq : piece.blanks = piece'.blanks := by
            rw [← takeWhile_run blank spells.head_not_blank,
              ← takeWhile_run blank' spells'.head_not_blank]
            exact congrArg _ bytes_eq
          have lexeme_eq : piece.lexeme = piece'.lexeme := by
            rw [Piece.bytes, Piece.bytes, blanks_eq] at bytes_eq
            exact List.append_cancel_left bytes_eq
          have piece_eq : piece' = piece :=
            Piece.ext blanks_eq.symm (token_eq'.symm.trans token_eq) lexeme_eq.symm
          rcases ih rest' with ⟨rfl, same⟩
          exact ⟨by rw [piece_eq], same⟩

end Factors

/-! ## Existence -/

theorem apart_of_isBlank {byte : UInt8} (blank : isBlank byte = true) :
    isLetter byte = false ∧ isDigit byte = false := by
  have excluded := forall_byte (fun byte => !(isBlank byte && (isLetter byte || isDigit byte)))
    (by decide +kernel) byte
  simpa [blank] using excluded

theorem isDigit_of_isLetter {byte : UInt8} (letter : isLetter byte = true) :
    isDigit byte = false := by
  have excluded := forall_byte (fun byte => !(isLetter byte && isDigit byte))
    (by decide +kernel) byte
  simpa [letter] using excluded

/-- Whether no row of letters and no row of digits goes on from one side to the other. -/
structure Parted (before after : List UInt8) : Prop where
  letter : ∀ first ∈ after.head?, isLetter first = true →
    ∀ last ∈ before.getLast?, isLetter last = false
  digit : ∀ first ∈ after.head?, isDigit first = true →
    ∀ last ∈ before.getLast?, isDigit last = false

namespace Parted

variable {before after : List UInt8}

theorem of_last (letter : ∀ last ∈ before.getLast?, isLetter last = false)
    (digit : ∀ last ∈ before.getLast?, isDigit last = false) : Parted before after :=
  ⟨fun _ _ _ => letter, fun _ _ _ => digit⟩

theorem append (parted : Parted before after) (nonempty : before ≠ []) (front : List UInt8) :
    Parted (front ++ before) after := by
  have same : (front ++ before).getLast? = before.getLast? := by
    rw [List.getLast?_append, List.getLast?_eq_some_getLast nonempty, Option.some_or]
  exact ⟨same ▸ parted.letter, same ▸ parted.digit⟩

theorem blanks {blanks : List UInt8} (parted : Parted before (blanks ++ after))
    (blank : ∀ byte ∈ blanks, isBlank byte = true) : Parted (before ++ blanks) after := by
  cases blanks with
  | nil => simpa using parted
  | cons first rest =>
      have white : ∀ last ∈ (first :: rest).getLast?,
          isLetter last = false ∧ isDigit last = false :=
        fun last member => apart_of_isBlank (blank last (List.mem_of_mem_getLast? member))
      refine append (.of_last ?_ ?_) (List.cons_ne_nil first rest) before
      · exact fun last member => (white last member).1
      · exact fun last member => (white last member).2

end Parted

theorem Spells.parted {before after lexeme : List UInt8} {token : Token}
    (spells : Spells before after token lexeme) : lexeme ≠ [] ∧ Parted lexeme after := by
  have word {run : List UInt8} (letters : IsRun isLetter before run after) : Parted run after := by
    refine ⟨fun first member letter => ?_, fun _ _ _ last member => ?_⟩
    · rw [letters.stops first member] at letter
      cases letter
    · exact isDigit_of_isLetter (letters.inside last (List.mem_of_mem_getLast? member))
  cases spells with
  | operator sign _ =>
      refine ⟨by cases sign <;> decide, .of_last ?_ ?_⟩
      all_goals
        intro last member
        cases sign <;> cases member <;> rfl
  | punctuation mark _ =>
      refine ⟨by cases mark <;> decide, .of_last ?_ ?_⟩
      all_goals
        intro last member
        cases mark <;> cases member <;> rfl
  | keyword _ run => exact ⟨run.nonempty, word run⟩
  | ident _ run _ => exact ⟨run.nonempty, word run⟩
  | int _ run =>
      refine ⟨run.nonempty, fun _ _ _ last member => ?_, fun first member digit => ?_⟩
      · exact (isBlank_of_isDigit (run.inside last (List.mem_of_mem_getLast? member))).2
      · rw [run.stops first member] at digit
        cases digit
  | string text _ =>
      refine ⟨List.cons_ne_nil _ _, .append (.of_last ?_ ?_) (List.cons_ne_nil quote [])
        (quote :: sourceBytes text)⟩
      all_goals
        intro last member
        cases member
        rfl
  | unclosed _ _ last =>
      subst last
      exact ⟨List.cons_ne_nil _ _, by rintro _ ⟨⟩, by rintro _ ⟨⟩⟩
  | illegal byte _ notLetter notDigit _ _ =>
      refine ⟨List.cons_ne_nil _ _, .of_last ?_ ?_⟩
      · rintro _ ⟨⟩
        exact notLetter
      · rintro _ ⟨⟩
        exact notDigit

section Reading

variable {before rest : List UInt8} {byte : UInt8}

theorem isRun_takeWhile {accept : UInt8 → Bool} (first : accept byte = true)
    (starts : ∀ last ∈ before.getLast?, accept last = false) :
    IsRun accept before (byte :: rest.takeWhile accept) (rest.dropWhile accept) where
  nonempty := List.cons_ne_nil _ _
  inside := List.forall_mem_cons.mpr ⟨first, fun _ member => List.mem_takeWhile_imp member⟩
  starts := starts
  stops next member := by
    have stopped := rest.head?_dropWhile_not accept
    rwa [Option.mem_def.mp member] at stopped

theorem spells_word {letters after : List UInt8} (run : IsRun isLetter before letters after) :
    Spells before after (word letters).token letters := by
  have spelled : sourceBytes (text letters) = letters := sourceBytes_text_of_ascii
    fun byte member => (isNameChar_of_isLetter byte (run.inside byte member)).1
  rw [token, Token.ofWord]
  split
  · next keyword found =>
      have same : keyword.spelling = text letters := by
        simpa using List.find?_some found
      rw [← same] at spelled
      rw [← spelled] at run ⊢
      exact .keyword keyword run
  · next none =>
      rw [← spelled] at run
      have free : ∀ word : Keyword, text letters ≠ word.spelling := by
        intro word same
        have differs := List.find?_eq_none.mp none word word.mem_all
        simp [same] at differs
      have spells := Spells.ident (text letters) run free
      rwa [spelled] at spells

theorem spells_number {digits after : List UInt8} (run : IsRun isDigit before digits after) :
    Spells before after (number digits).token digits := by
  have spelled : sourceBytes (text digits) = digits := sourceBytes_text_of_ascii
    fun byte member => (isDigit_ofNat_of_isDigit byte (run.inside byte member)).1
  rw [← spelled] at run
  have spells := Spells.int (text digits) run
  rwa [spelled] at spells

/-- The opening quote of a string is followed by text up to the next quote or the end. -/
theorem exists_spells_quoted {source : String}
    (whole : sourceBytes source = before ++ quote :: rest) :
    ∃ lexeme, quote :: rest = lexeme ++ (rest.dropWhile isQuotable).tail ∧
      Spells before (rest.dropWhile isQuotable).tail
        (quoted (rest.takeWhile isQuotable)).token lexeme := by
  have closed : ∀ byte ∈ (rest.dropWhile isQuotable).head?, byte = quote := by
    intro byte member
    have stopped := rest.head?_dropWhile_not isQuotable
    rw [Option.mem_def.mp member] at stopped
    simpa [isQuotable] using stopped
  have split := List.takeWhile_append_dropWhile (p := isQuotable) (l := rest)
  rw [← split] at whole
  have spelled := sourceBytes_text_of_quoted whole closed
  have unquoted : quote ∉ sourceBytes (text (rest.takeWhile isQuotable)) := by
    rw [spelled]
    intro member
    exact absurd (List.mem_takeWhile_imp member) (by decide)
  rw [token]
  cases shape : rest.dropWhile isQuotable with
  | nil =>
      rw [shape, List.append_nil] at split
      refine ⟨quote :: sourceBytes (text (rest.takeWhile isQuotable)), ?_,
        .unclosed _ unquoted rfl⟩
      rw [spelled, split, List.tail_nil, List.append_nil]
  | cons byte after =>
      rw [shape] at split closed
      obtain rfl := closed byte rfl
      refine ⟨_, ?_, .string _ unquoted⟩
      rw [spelled, List.tail_cons]
      simp [split]

theorem spells_symbol {token : Token} (found : symbol? byte = some token)
    (short : longSymbol? byte rest.head? = none) : Spells before rest token [byte] := by
  have apart (either : byte = '='.toUInt8 ∨ byte = '!'.toUInt8) :
      rest.head? ≠ some '='.toUInt8 := by
    intro follows
    rw [longSymbol?, if_pos follows] at short
    rcases either with rfl | rfl <;> exact absurd short (by decide)
  rcases sourceBytes_of_symbol? found with ⟨sign, rfl, spelled⟩ | ⟨mark, rfl, spelled⟩
  · rw [← spelled]
    refine .operator sign fun bang => apart (.inr ?_)
    rw [bang] at spelled
    exact (Option.some.inj (congrArg List.head? spelled)).symm
  · rw [← spelled]
    refine .punctuation mark fun assign => apart (.inl ?_)
    rw [assign] at spelled
    exact (Option.some.inj (congrArg List.head? spelled)).symm

theorem exists_spells_longSymbol {token : Token}
    (found : longSymbol? byte rest.head? = some token) :
    ∃ lexeme, byte :: rest = lexeme ++ rest.tail ∧ Spells before rest.tail token lexeme := by
  unfold longSymbol? at found
  split at found
  · next follows =>
      cases rest with
      | nil => cases follows
      | cons first rest =>
          obtain rfl : first = '='.toUInt8 := Option.some.inj follows
          split at found
          · next equals =>
              subst equals
              cases found
              exact ⟨_, rfl, .operator .equal (by rintro ⟨⟩)⟩
          · split at found
            · next bang =>
                subst bang
                cases found
                exact ⟨_, rfl, .operator .notEqual (by rintro ⟨⟩)⟩
            · cases found
  · cases found

/-- A byte that is not blank starts a lexeme. -/
theorem exists_spells {source : String} (whole : sourceBytes source = before ++ byte :: rest)
    (notBlank : isBlank byte = false) (parted : Parted before (byte :: rest)) :
    ∃ lexeme, byte :: rest = lexeme ++ (startingWith byte rest).2 ∧
      Spells before (startingWith byte rest).2 (startingWith byte rest).1.token lexeme := by
  have run (accept : UInt8 → Bool) :
      byte :: rest = (byte :: rest.takeWhile accept) ++ rest.dropWhile accept := by
    rw [List.cons_append, List.takeWhile_append_dropWhile]
  unfold startingWith
  split
  · next letter =>
      exact ⟨_, run isLetter, spells_word (isRun_takeWhile letter (parted.letter byte rfl letter))⟩
  · next notLetter =>
      split
      · next digit =>
          exact ⟨_, run isDigit,
            spells_number (isRun_takeWhile digit (parted.digit byte rfl digit))⟩
      · next notDigit =>
          split
          · next isQuote =>
              subst isQuote
              exact exists_spells_quoted whole
          · next notQuote =>
              split
              · next token found => exact exists_spells_longSymbol found
              · next short =>
                  split
                  · next token found => exact ⟨[byte], rfl, spells_symbol found short⟩
                  · next none =>
                      rw [Bool.not_eq_true] at notLetter notDigit
                      exact ⟨[byte], rfl, .illegal byte notBlank notLetter notDigit notQuote
                        (not_startsSymbol none)⟩

end Reading

/-- What is left of a source at a place where no row of letters or digits goes on is made of
pieces. -/
theorem exists_factors {source : String} (before bytes : List UInt8)
    (whole : sourceBytes source = before ++ bytes) (parted : Parted before bytes) :
    ∃ pieces trailing, Factors before bytes pieces trailing := by
  cases shape : bytes.dropWhile isBlank with
  | nil => exact ⟨[], bytes, .finish (List.dropWhile_eq_nil_iff.mp shape)⟩
  | cons byte rest =>
      have blank : ∀ byte ∈ bytes.takeWhile isBlank, isBlank byte = true :=
        fun _ member => List.mem_takeWhile_imp member
      have notBlank : isBlank byte = false := by
        have stopped := bytes.head?_dropWhile_not isBlank
        rwa [shape] at stopped
      have split : bytes = bytes.takeWhile isBlank ++ byte :: rest := by
        rw [← shape, List.takeWhile_append_dropWhile]
      have shorter : (startingWith byte rest).2.length < bytes.length := by
        have length := congrArg List.length split
        have consumed := length_startingWith_le byte rest
        rw [List.length_append, List.length_cons] at length
        omega
      -- The lexeme that is read ends where no row goes on either, and leaves less of the source.
      rw [split] at whole parted ⊢
      generalize bytes.takeWhile isBlank = blanks at blank whole parted
      rw [← List.append_assoc] at whole
      rcases exists_spells whole notBlank (parted.blanks blank) with ⟨lexeme, cut, spells⟩
      have parted' := spells.parted.2.append spells.parted.1 (before ++ blanks)
      rw [cut, ← List.append_assoc, List.append_assoc before] at whole
      rw [List.append_assoc before] at parted'
      rcases exists_factors _ _ whole parted' with ⟨pieces, trailing, factors⟩
      have first := @Factors.piece before _ trailing ⟨blanks, _, lexeme⟩ pieces blank spells factors
      rw [Piece.bytes, List.append_assoc, ← cut] at first
      exact ⟨_, trailing, first⟩
termination_by bytes.length

/-- Asked again and again, the lexer gives the tokens of the pieces one after the other, and then
always the end mark. -/
theorem Factors.map_token_take {before bytes trailing : List UInt8} {pieces : List Piece}
    (factors : Factors before bytes pieces trailing) (count : Nat) :
    (take count bytes).map token =
      (List.range count).map fun index => (pieces.map Piece.token).getD index .eof := by
  induction count generalizing before bytes trailing pieces with
  | zero => rfl
  | succ count ih =>
      rw [take, List.map_cons, List.range_succ_eq_map, List.map_cons, List.map_map]
      cases factors with
      | finish blank =>
          have ended : Factors [] [] [] [] := .finish (by rintro _ ⟨⟩)
          rw [next_blank blank, ih ended]
          rfl
      | piece blank spells rest =>
          rcases next_piece blank spells with ⟨found, step, _, token_eq⟩
          rw [step, ih rest, token_eq]
          rfl

theorem Factors.eof_not_mem {before bytes trailing : List UInt8} {pieces : List Piece}
    (factors : Factors before bytes pieces trailing) : .eof ∉ pieces.map Piece.token := by
  induction factors with
  | finish _ => exact List.not_mem_nil
  | piece _ spells _ ih =>
      rw [List.map_cons]
      exact List.not_mem_cons_of_ne_of_not_mem spells.token_ne_eof.symm ih

/-- A source is made of lexemes and of white space between them in one way only. The lexer reads the
tokens of these lexemes, of which none is the end mark, and nothing but the end mark after them. -/
theorem factors_ofSource (source : String) :
    (∃ pieces trailing, Factors [] (sourceBytes source) pieces trailing ∧
      sourceBytes source = pieces.flatMap Piece.bytes ++ trailing ∧
      pieces.map Piece.token = Token.ofSource source ∧
      ∀ pieces' trailing', Factors [] (sourceBytes source) pieces' trailing' →
        pieces' = pieces ∧ trailing' = trailing) ∧
    .eof ∉ Token.ofSource source ∧
    ∀ count, (take count (sourceBytes source)).map token =
      (List.range count).map fun index => (Token.ofSource source).getD index .eof := by
  have parted : Parted [] (sourceBytes source) := .of_last (by rintro _ ⟨⟩) (by rintro _ ⟨⟩)
  rcases exists_factors [] (sourceBytes source) rfl parted with ⟨pieces, trailing, factors⟩
  have read : Token.ofSource source = pieces.map Piece.token := factors.tokens
  rw [read]
  exact ⟨⟨pieces, trailing, factors, factors.bytes_eq, rfl, fun _ _ => factors.unique⟩,
    factors.eof_not_mem, factors.map_token_take⟩

example : (take 5 (sourceBytes "a1 = \"b ")).map token =
    [.ident "a", .int "1", .punctuation .assign, .string "b ", .eof] := by
  decide

end Lexeme

end Monkey
