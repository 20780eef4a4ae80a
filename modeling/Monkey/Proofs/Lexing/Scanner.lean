import Mathlib
import Monkey.Proofs.Lexing.Factorization

/-!
# Reading a text in place

The lexemes of a text can be found without taking the text apart. A scanner walks over the bytes and
holds no more than where it stands, which position comes next, and the byte where it stands; beyond
the end, where it may go on, it sees the byte 0. It cuts names, numerals and strings out of the text
by the positions where they start and stop. That is possible only if neither position is beyond the
end or inside a character, and the first one is not behind the second one.

A scanner reads what the lexer reads, so all its cuts are possible. The bytes at which a run or a
string starts and stops are bytes of ASCII, unless it stops at the end of the text, and they are
characters of their own wherever they stand, even if the scanner has been inside a character before.
-/

namespace Monkey

/-- The byte at a position of a text; beyond the end it is 0. -/
def byteAt (source : String) (position : Nat) : UInt8 :=
  ((sourceBytes source).drop position).headD 0

/-- Whether a position of a text is its end or the start of a character. -/
def IsBorder (source : String) (position : Nat) : Prop :=
  String.Pos.Raw.IsValid source ⟨position⟩

instance (source : String) (position : Nat) : Decidable (IsBorder source position) :=
  inferInstanceAs (Decidable (String.Pos.Raw.IsValid source ⟨position⟩))

/-- Whether two positions of a text have a part of it between them that is text as well. -/
structure IsExcerpt (source : String) (first last : Nat) : Prop where
  ordered : first ≤ last
  within : last ≤ source.utf8ByteSize
  starts : IsBorder source first
  ends : IsBorder source last

instance (source : String) (first last : Nat) : Decidable (IsExcerpt source first last) :=
  decidable_of_iff
    (first ≤ last ∧ last ≤ source.utf8ByteSize ∧ IsBorder source first ∧ IsBorder source last)
    ⟨fun ⟨ordered, within, starts, ends⟩ => ⟨ordered, within, starts, ends⟩,
      fun ⟨ordered, within, starts, ends⟩ => ⟨ordered, within, starts, ends⟩⟩

/-- The part of a text from one position to another one, if it can be cut out. -/
def cut? (source : String) (first last : Nat) : Option String :=
  if excerpt : IsExcerpt source first last then
    some (source.extract ⟨⟨first⟩, excerpt.starts⟩ ⟨⟨last⟩, excerpt.ends⟩)
  else
    none

/-! ## Cuts that are possible -/

theorem isExcerpt_of_cut? {source part : String} {first last : Nat}
    (found : cut? source first last = some part) : IsExcerpt source first last := by
  unfold cut? at found
  split at found
  · next excerpt => exact excerpt
  · cases found

theorem cut?_append (front middle back : String) :
    cut? (front ++ middle ++ back) front.utf8ByteSize
      (front.utf8ByteSize + middle.utf8ByteSize) = some middle := by
  have starts : IsBorder (front ++ middle ++ back) front.utf8ByteSize :=
    String.Pos.Raw.isValid_iff_exists_append.mpr
      ⟨front, middle ++ back, String.append_assoc, rfl⟩
  have ends : IsBorder (front ++ middle ++ back) (front.utf8ByteSize + middle.utf8ByteSize) :=
    String.Pos.Raw.isValid_iff_exists_append.mpr
      ⟨front ++ middle, back, rfl, String.Pos.Raw.ext String.utf8ByteSize_append.symm⟩
  have bytes : (front ++ middle ++ back).toByteArray.extract front.utf8ByteSize
      (front.utf8ByteSize + middle.utf8ByteSize) = middle.toByteArray := by
    simp only [String.toByteArray_append, ← String.size_toByteArray, ← ByteArray.size_append,
      ByteArray.extract_append_size_left]
    exact ByteArray.extract_append_eq_right rfl ByteArray.size_append
  rw [cut?, dif_pos ⟨Nat.le_add_right .., ends.le_utf8ByteSize, starts, ends⟩]
  exact congrArg some (String.toByteArray_inj.mp (String.toByteArray_extract.trans bytes))

section Bytes

variable {source : String} {before body after : List UInt8}

theorem cut?_of_sourceBytes (whole : sourceBytes source = before ++ body ++ after)
    (left : ∃ front, before = sourceBytes front) (inside : sourceBytes (Lexeme.text body) = body)
    (right : ∃ back, after = sourceBytes back) :
    cut? source before.length (before.length + body.length) = some (Lexeme.text body) := by
  rcases left with ⟨front, rfl⟩
  rcases right with ⟨back, rfl⟩
  have split : source = front ++ Lexeme.text body ++ back := by
    rw [← Lexeme.text_sourceBytes source, whole, ← Lexeme.text_sourceBytes (_ ++ back),
      sourceBytes_append, sourceBytes_append, inside]
  have possible := cut?_append front (Lexeme.text body) back
  rwa [← split, ← length_sourceBytes, ← length_sourceBytes, inside] at possible

/-- What stands before and behind a row of bytes of ASCII is text. -/
theorem cut?_of_ascii (whole : sourceBytes source = before ++ body ++ after) (nonempty : body ≠ [])
    (ascii : ∀ byte ∈ body, byte.toNat < 128) :
    cut? source before.length (before.length + body.length) = some (Lexeme.text body) := by
  refine cut?_of_sourceBytes whole ?_ (Lexeme.sourceBytes_text_of_ascii ascii) ?_
  · have first : sourceBytes source = before ++ body.head nonempty :: (body.tail ++ after) := by
      rw [whole, ← List.cons_append, List.cons_head_tail, List.append_assoc]
    rcases exists_sourceBytes_of_cut (ascii _ (List.head_mem nonempty)) first with
      ⟨front, _, left, _⟩
    exact ⟨front, left⟩
  · have last : sourceBytes source =
        (before ++ body.dropLast) ++ body.getLast nonempty :: after := by
      rw [whole, List.append_cons, List.append_assoc before body.dropLast,
        List.dropLast_concat_getLast]
    rcases exists_sourceBytes_of_cut (ascii _ (List.getLast_mem nonempty)) last with
      ⟨_, back, _, right⟩
    exact ⟨back, right⟩

/-- What stands before and behind the inside of a string is text, a quote counted in. -/
theorem cut?_of_quoted (whole : sourceBytes source = before ++ Lexeme.quote :: (body ++ after))
    (closed : ∀ byte ∈ after.head?, byte = Lexeme.quote) :
    cut? source (before.length + 1) (before.length + 1 + body.length) =
      some (Lexeme.text body) := by
  have opened : sourceBytes source = (before ++ [Lexeme.quote]) ++ body ++ after := by
    rw [whole, List.append_cons, List.append_assoc _ body]
  have length : before.length + 1 = (before ++ [Lexeme.quote]).length := by simp
  rw [length]
  refine cut?_of_sourceBytes opened ?_ (Lexeme.sourceBytes_text_of_quoted whole closed) ?_
  · rcases exists_sourceBytes_of_cut (by decide) whole with ⟨front, _, rfl, _⟩
    exact ⟨front ++ "\"", (sourceBytes_append front "\"").symm⟩
  · cases after with
    | nil => exact ⟨"", rfl⟩
    | cons byte after =>
        obtain rfl := closed byte rfl
        rcases exists_sourceBytes_of_cut (by decide) opened with ⟨_, back, _, rfl⟩
        exact ⟨"\"" ++ back, (sourceBytes_append "\"" back).symm⟩

end Bytes

/-- What a scanner comes upon: a token that is plain from what it has seen, or the place of a part
of the text to make a token of. -/
inductive Sighting where
  | plain (token : Token)
  | word (first last : Nat)
  | number (first last : Nat)
  | quoted (first last : Nat)
  deriving DecidableEq

namespace Sighting

/-- The part of the text that has to be cut out, by its first position and the one behind it. -/
def place? : Sighting → Option (Nat × Nat)
  | plain _ => none
  | word first last => some (first, last)
  | number first last => some (first, last)
  | quoted first last => some (first, last)

/-- The token that is made of a sighting, unless a part cannot be cut out of the text. -/
def token? (source : String) : Sighting → Option Token
  | plain token => some token
  | word first last => (cut? source first last).map .ofWord
  | number first last => (cut? source first last).map .int
  | quoted first last => (cut? source first last).map .string

end Sighting

/-- A place in a text, or beyond its end. -/
structure Scanner (source : String) where
  position : Nat
  ahead : Nat
  byte : UInt8
  ahead_eq : ahead = position + 1
  byte_eq : byte = byteAt source position

namespace Scanner

variable {source : String}

def start (source : String) : Scanner source :=
  ⟨0, 1, byteAt source 0, rfl, rfl⟩

/-- Goes to the next position. -/
def readByte (scanner : Scanner source) : Scanner source :=
  ⟨scanner.ahead, scanner.ahead + 1, byteAt source scanner.ahead, rfl, rfl⟩

/-- The byte at the next position. -/
def peek (scanner : Scanner source) : UInt8 :=
  byteAt source scanner.ahead

/-- What is left of the text where a scanner stands. -/
def rest (scanner : Scanner source) : List UInt8 :=
  (sourceBytes source).drop scanner.position

@[simp] theorem position_readByte (scanner : Scanner source) :
    scanner.readByte.position = scanner.position + 1 :=
  scanner.ahead_eq

theorem length_rest (scanner : Scanner source) :
    scanner.rest.length = source.utf8ByteSize - scanner.position := by
  rw [rest, List.length_drop, length_sourceBytes]

theorem headD_rest (scanner : Scanner source) : scanner.rest.headD 0 = scanner.byte :=
  scanner.byte_eq.symm

theorem rest_readByte (scanner : Scanner source) : scanner.readByte.rest = scanner.rest.tail := by
  rw [rest, rest, position_readByte, List.tail_drop]

/-- Beyond the end there is nothing but the byte 0; before it there is the byte of a scanner. -/
theorem rest_cases (scanner : Scanner source) :
    (source.utf8ByteSize ≤ scanner.position ∧ scanner.byte = 0 ∧ scanner.rest = []) ∨
      (scanner.position < source.utf8ByteSize ∧
        scanner.rest = scanner.byte :: scanner.readByte.rest) := by
  have length := scanner.length_rest
  have head := scanner.headD_rest
  have tail := scanner.rest_readByte
  cases shape : scanner.rest with
  | nil =>
      rw [shape] at length head
      exact .inl ⟨by rw [List.length_nil] at length; omega, head.symm, rfl⟩
  | cons first others =>
      rw [shape] at length head tail
      refine .inr ⟨by rw [List.length_cons] at length; omega, ?_⟩
      rw [tail, ← head, List.headD_cons, List.tail_cons]

theorem position_lt (scanner : Scanner source) (nonzero : scanner.byte ≠ 0) :
    scanner.position < source.utf8ByteSize := by
  rcases scanner.rest_cases with ⟨_, zero, _⟩ | ⟨inside, _⟩
  · exact absurd zero nonzero
  · exact inside

/-! ## Loops -/

/-- Goes on to the first byte that is not accepted, at the latest beyond the end. -/
def skipWhile (accept : UInt8 → Bool) (stops : accept 0 = false) (scanner : Scanner source) :
    Scanner source :=
  if _accepted : accept scanner.byte = true then
    skipWhile accept stops scanner.readByte
  else
    scanner
termination_by source.utf8ByteSize - scanner.position
decreasing_by
  have nonzero : scanner.byte ≠ 0 := by
    intro zero
    rw [zero, stops] at _accepted
    cases _accepted
  have inside := scanner.position_lt nonzero
  rw [position_readByte]
  omega

/-- Goes on to the next quote, or else to the end, but at least by one byte. -/
def toQuote (scanner : Scanner source) : Scanner source :=
  if _stop : scanner.readByte.byte = Lexeme.quote ∨
      source.utf8ByteSize ≤ scanner.readByte.position then
    scanner.readByte
  else
    scanner.readByte.toQuote
termination_by source.utf8ByteSize - scanner.position
decreasing_by
  rw [position_readByte] at _stop ⊢
  omega

theorem skipWhile_spec (accept : UInt8 → Bool) (stops : accept 0 = false)
    (scanner : Scanner source) :
    (scanner.skipWhile accept stops).rest = scanner.rest.dropWhile accept ∧
      (scanner.skipWhile accept stops).position =
        scanner.position + (scanner.rest.takeWhile accept).length := by
  fun_induction skipWhile accept stops scanner with
  | case1 scanner accepted ih =>
      rcases scanner.rest_cases with ⟨_, zero, _⟩ | ⟨_, shape⟩
      · rw [zero, stops] at accepted
        cases accepted
      · rw [shape, List.dropWhile_cons_of_pos accepted, List.takeWhile_cons_of_pos accepted,
          List.length_cons]
        rw [position_readByte] at ih
        exact ⟨ih.1, by omega⟩
  | case2 scanner refused =>
      rcases scanner.rest_cases with ⟨_, _, none⟩ | ⟨_, shape⟩
      · rw [none]
        exact ⟨rfl, rfl⟩
      · rw [shape, List.dropWhile_cons_of_neg refused, List.takeWhile_cons_of_neg refused]
        exact ⟨rfl, rfl⟩

theorem takeWhile_append_rest (accept : UInt8 → Bool) (stops : accept 0 = false)
    (scanner : Scanner source) :
    scanner.rest.takeWhile accept ++ (scanner.skipWhile accept stops).rest = scanner.rest := by
  rw [(skipWhile_spec accept stops scanner).1, List.takeWhile_append_dropWhile]

theorem byte_skipWhile (accept : UInt8 → Bool) (stops : accept 0 = false)
    (scanner : Scanner source) : accept (scanner.skipWhile accept stops).byte = false := by
  fun_induction skipWhile accept stops scanner with
  | case1 _ _ ih => exact ih
  | case2 _ refused => exact Bool.eq_false_iff.mpr refused

theorem toQuote_spec (scanner : Scanner source) :
    scanner.toQuote.rest = scanner.readByte.rest.dropWhile Lexeme.isQuotable ∧
      scanner.toQuote.position = scanner.readByte.position +
        (scanner.readByte.rest.takeWhile Lexeme.isQuotable).length := by
  fun_induction toQuote scanner with
  | case1 scanner stop =>
      rcases scanner.readByte.rest_cases with ⟨_, _, none⟩ | ⟨inside, shape⟩
      · rw [none]
        exact ⟨rfl, rfl⟩
      · have closed := stop.resolve_right (Nat.not_le.mpr inside)
        have refused : ¬Lexeme.isQuotable scanner.readByte.byte = true := by
          rw [closed]
          decide
        rw [shape, List.dropWhile_cons_of_neg refused, List.takeWhile_cons_of_neg refused]
        exact ⟨rfl, rfl⟩
  | case2 scanner more ih =>
      rcases scanner.readByte.rest_cases with ⟨ended, _, _⟩ | ⟨_, shape⟩
      · exact absurd (.inr ended) more
      · have accepted : Lexeme.isQuotable scanner.readByte.byte = true :=
          bne_iff_ne.mpr fun closed => more (.inl closed)
        rw [shape, List.dropWhile_cons_of_pos accepted, List.takeWhile_cons_of_pos accepted,
          List.length_cons]
        rw [position_readByte] at ih
        exact ⟨ih.1, by omega⟩

/-! ## Tokens -/

/-- Comes upon the token where a scanner stands. At the end of the text it stays there. -/
def meet (here : Scanner source) : Sighting × Scanner source :=
  match Lexeme.longSymbol? here.byte (some here.peek) with
  | some token => (.plain token, here.readByte.readByte)
  | none =>
      match Lexeme.symbol? here.byte with
      | some token => (.plain token, here.readByte)
      | none =>
          if here.byte = Lexeme.quote then
            let last := here.toQuote
            (.quoted (here.position + 1) (min last.position source.utf8ByteSize), last.readByte)
          else if here.byte = 0 ∧ source.utf8ByteSize ≤ here.position then
            (.plain .eof, here)
          else if Lexeme.isLetter here.byte then
            let last := here.skipWhile Lexeme.isLetter rfl
            (.word here.position last.position, last)
          else if Lexeme.isDigit here.byte then
            let last := here.skipWhile Lexeme.isDigit rfl
            (.number here.position last.position, last)
          else
            (.plain (.illegal here.byte), here.readByte)

/-- Comes upon the next token. -/
def next (scanner : Scanner source) : Sighting × Scanner source :=
  (scanner.skipWhile Lexeme.isBlank rfl).meet

/-- What a scanner comes upon when it is asked for the next token a given number of times. -/
def scan : Nat → Scanner source → List Sighting
  | 0, _ => []
  | count + 1, scanner => scanner.next.1 :: scan count scanner.next.2

/-- What stands before a scanner. -/
def front (scanner : Scanner source) : List UInt8 :=
  (sourceBytes source).take scanner.position

theorem front_append_rest (scanner : Scanner source) :
    scanner.front ++ scanner.rest = sourceBytes source :=
  List.take_append_drop ..

theorem length_front {scanner : Scanner source} (inside : scanner.position < source.utf8ByteSize) :
    scanner.front.length = scanner.position := by
  rw [front, List.length_take, length_sourceBytes, Nat.min_eq_left (Nat.le_of_lt inside)]

/-- The byte beyond the end does not prolong a symbol. -/
theorem longSymbol?_peek (scanner : Scanner source) :
    Lexeme.longSymbol? scanner.byte (some scanner.peek) =
      Lexeme.longSymbol? scanner.byte scanner.readByte.rest.head? := by
  have same : scanner.peek = scanner.readByte.byte := rfl
  rcases scanner.readByte.rest_cases with ⟨_, zero, none⟩ | ⟨_, shape⟩
  · rw [same, zero, none]
    rfl
  · rw [same, shape, List.head?_cons]

section Runs

variable {accept : UInt8 → Bool} (stops : accept 0 = false) {here : Scanner source}
  (accepted : accept here.byte = true)

include accepted

theorem isRun_rest :
    Lexeme.IsRun accept [] (here.rest.takeWhile accept) (here.skipWhile accept stops).rest := by
  rw [(skipWhile_spec accept stops here).1]
  rcases here.rest_cases with ⟨_, zero, _⟩ | ⟨_, shape⟩
  · rw [zero, stops] at accepted
    cases accepted
  · rw [shape, List.takeWhile_cons_of_pos accepted, List.dropWhile_cons_of_pos accepted]
    exact Lexeme.isRun_takeWhile accepted (by rintro _ ⟨⟩)

/-- A row of letters or digits can be cut out. -/
theorem cut?_run (ascii : ∀ byte, accept byte = true → byte.toNat < 128)
    (inside : here.position < source.utf8ByteSize) :
    cut? source here.position (here.skipWhile accept stops).position =
      some (Lexeme.text (here.rest.takeWhile accept)) := by
  have run := isRun_rest stops accepted
  have whole : sourceBytes source =
      here.front ++ here.rest.takeWhile accept ++ (here.skipWhile accept stops).rest := by
    rw [List.append_assoc, takeWhile_append_rest, front_append_rest]
  have possible := cut?_of_ascii whole run.nonempty fun byte member =>
    ascii byte (run.inside byte member)
  rwa [length_front inside, ← (skipWhile_spec accept stops here).2] at possible

/-- A row of letters or digits is what the lexer reads. -/
theorem next_run {make : List UInt8 → Lexeme}
    (reads : ∀ {run after : List UInt8}, run ≠ [] →
      (∀ byte ∈ run, accept byte = true) → (∀ byte ∈ after.head?, accept byte = false) →
        Lexeme.next (run ++ after) = (make run, after)) :
    Lexeme.next here.rest =
      (make (here.rest.takeWhile accept), (here.skipWhile accept stops).rest) := by
  have run := isRun_rest stops accepted
  rw [← reads run.nonempty run.inside run.stops, takeWhile_append_rest]

end Runs

/-- The inside of a string can be cut out, even if a quote ends the text or none follows. -/
theorem cut?_toQuote {here : Scanner source} (inside : here.position < source.utf8ByteSize)
    (opens : here.rest = Lexeme.quote :: here.readByte.rest) :
    cut? source (here.position + 1) (min here.toQuote.position source.utf8ByteSize) =
      some (Lexeme.text (here.readByte.rest.takeWhile Lexeme.isQuotable)) := by
  have whole : sourceBytes source = here.front ++ Lexeme.quote ::
      (here.readByte.rest.takeWhile Lexeme.isQuotable ++
        here.readByte.rest.dropWhile Lexeme.isQuotable) := by
    rw [List.takeWhile_append_dropWhile, ← opens, front_append_rest]
  have closed : ∀ byte ∈ (here.readByte.rest.dropWhile Lexeme.isQuotable).head?,
      byte = Lexeme.quote := by
    intro byte member
    have stopped := here.readByte.rest.head?_dropWhile_not Lexeme.isQuotable
    rw [Option.mem_def.mp member] at stopped
    simpa [Lexeme.isQuotable] using stopped
  have possible := cut?_of_quoted whole closed
  rw [length_front inside, ← position_readByte, ← (toQuote_spec here).2] at possible
  rwa [Nat.min_eq_left (isExcerpt_of_cut? possible).within, ← position_readByte]

theorem next_quote {here : Scanner source}
    (opens : here.rest = Lexeme.quote :: here.readByte.rest) :
    Lexeme.next here.rest =
      (.quoted (here.readByte.rest.takeWhile Lexeme.isQuotable), here.toQuote.readByte.rest) := by
  rw [opens, rest_readByte here.toQuote, (toQuote_spec here).1]
  rfl

/-! ## Agreement with the lexer -/

theorem next_longSymbol {byte : UInt8} {bytes : List UInt8} {token : Token}
    (found : Lexeme.longSymbol? byte bytes.head? = some token) :
    ∃ lexeme, Lexeme.next (byte :: bytes) = (lexeme, bytes.tail) ∧ lexeme.token = token := by
  have spelled : ∃ symbol, byte :: bytes = symbol ++ bytes.tail ∧
      Lexeme.Spells [] bytes.tail token symbol := Lexeme.exists_spells_longSymbol found
  rcases spelled with ⟨symbol, split, spells⟩
  rcases spells.next_eq with ⟨lexeme, step, _, same⟩
  exact ⟨lexeme, split ▸ step, same⟩

theorem meet_of_end {here : Scanner source} (ended : source.utf8ByteSize ≤ here.position)
    (zero : here.byte = 0) : here.meet = (.plain .eof, here) := by
  have noLong (following : Option UInt8) : Lexeme.longSymbol? 0 following = none :=
    Lexeme.longSymbol?_of_short following (by decide) (by decide)
  have noSymbol : Lexeme.symbol? 0 = none := rfl
  rw [meet, zero, noLong, noSymbol]
  simp only [ended, and_self, if_true]
  exact if_neg (by decide)

/-- What a scanner comes upon where no blank is what the lexer reads there. -/
theorem meet_eq {here : Scanner source} (notBlank : Lexeme.isBlank here.byte = false) :
    here.meet.1.token? source = some (Lexeme.next here.rest).1.token ∧
      here.meet.2.rest = (Lexeme.next here.rest).2 := by
  rcases here.rest_cases with ⟨ended, zero, none⟩ | ⟨inside, shape⟩
  · rw [meet_of_end ended zero, none]
    exact ⟨rfl, rfl⟩
  unfold meet
  rw [longSymbol?_peek]
  split
  · next token found =>
      rcases next_longSymbol found with ⟨lexeme, step, same⟩
      rw [shape, step, same, ← rest_readByte]
      exact ⟨rfl, rfl⟩
  · next short =>
      split
      · next token found =>
          rw [shape, Lexeme.next_symbol found short]
          exact ⟨rfl, rfl⟩
      · next noSymbol =>
          split
          · next opens =>
              rw [opens] at shape
              rw [Sighting.token?, cut?_toQuote inside shape, next_quote shape]
              exact ⟨rfl, rfl⟩
          · next notQuote =>
              rw [if_neg fun ended => Nat.not_le.mpr inside ended.2]
              split
              · next letter =>
                  have ascii (byte : UInt8) (accepted : Lexeme.isLetter byte = true) :=
                    (Lexeme.isNameChar_of_isLetter byte accepted).1
                  rw [Sighting.token?, cut?_run rfl letter ascii inside,
                    next_run rfl letter Lexeme.next_word]
                  exact ⟨rfl, rfl⟩
              · next notLetter =>
                  split
                  · next digit =>
                      have ascii (byte : UInt8) (accepted : Lexeme.isDigit byte = true) :=
                        (Lexeme.isDigit_ofNat_of_isDigit byte accepted).1
                      rw [Sighting.token?, cut?_run rfl digit ascii inside,
                        next_run rfl digit Lexeme.next_number]
                      exact ⟨rfl, rfl⟩
                  · next notDigit =>
                      rw [Bool.not_eq_true] at notLetter notDigit
                      rw [shape, Lexeme.next_stray notBlank notLetter notDigit notQuote noSymbol]
                      exact ⟨rfl, rfl⟩

/-- A scanner comes upon the tokens that the lexer reads, and stops where it stops. -/
theorem next_eq (scanner : Scanner source) :
    scanner.next.1.token? source = some (Lexeme.next scanner.rest).1.token ∧
      scanner.next.2.rest = (Lexeme.next scanner.rest).2 := by
  have agree := meet_eq (scanner.byte_skipWhile Lexeme.isBlank rfl)
  have blanks := scanner.takeWhile_append_rest Lexeme.isBlank rfl
  rwa [← Lexeme.next_blanks fun _ member => List.mem_takeWhile_imp member, blanks] at agree

theorem map_token?_scan (count : Nat) (scanner : Scanner source) :
    (scanner.scan count).map (Sighting.token? source) =
      (Lexeme.take count scanner.rest).map fun lexeme => some lexeme.token := by
  induction count generalizing scanner with
  | zero => rfl
  | succ count ih =>
      rcases scanner.next_eq with ⟨token, rest⟩
      rw [scan, Lexeme.take, List.map_cons, List.map_cons, token, ih, rest]

theorem isExcerpt_of_token? {sighting : Sighting} {first last : Nat} {token : Token}
    (found : sighting.token? source = some token) (place : sighting.place? = some (first, last)) :
    IsExcerpt source first last := by
  have excerpt {make : String → Token} (made : (cut? source first last).map make = some token) :
      IsExcerpt source first last := by
    rcases Option.map_eq_some_iff.mp made with ⟨_, possible, _⟩
    exact isExcerpt_of_cut? possible
  cases sighting with
  | plain _ => cases place
  | word _ _ =>
      cases place
      exact excerpt found
  | number _ _ =>
      cases place
      exact excerpt found
  | quoted _ _ =>
      cases place
      exact excerpt found

/-- However often a scanner is asked for the next token of a text, each part that it has to cut out
lies within the text and between two borders of characters, so that it never fails, and it comes
upon the tokens that the lexer reads. -/
theorem scan_cuts_text (source : String) (count : Nat) :
    ((start source).scan count).map (Sighting.token? source) =
        (Lexeme.take count (sourceBytes source)).map (fun lexeme => some lexeme.token) ∧
      ∀ sighting ∈ (start source).scan count, ∀ first last,
        sighting.place? = some (first, last) → IsExcerpt source first last := by
  have tokens := map_token?_scan count (start source)
  refine ⟨tokens, fun sighting member first last place => ?_⟩
  have found : sighting.token? source ∈ ((start source).scan count).map (Sighting.token? source) :=
    List.mem_map_of_mem member
  rw [tokens] at found
  rcases List.mem_map.mp found with ⟨lexeme, _, made⟩
  exact isExcerpt_of_token? made.symm place

/-- A character outside of strings is taken byte by byte, and a string that is not closed is cut out
up to the end of the text, where a scanner stands from then on. -/
theorem scan_cuts_text_unclosed :
    let source := "é\"é"
    let sightings := (start source).scan 5
    sightings = [.plain (.illegal 0xc3), .plain (.illegal 0xa9), .quoted 3 5, .plain .eof,
        .plain .eof] ∧
      sightings.map (Sighting.token? source) = [some (.illegal 0xc3), some (.illegal 0xa9),
        some (.string "é"), some .eof, some .eof] ∧
      IsExcerpt source 3 5 := by
  have seen : (start "é\"é").scan 5 = [.plain (.illegal 0xc3), .plain (.illegal 0xa9),
      .quoted 3 5, .plain .eof, .plain .eof] := by
    cbv
  rcases scan_cuts_text "é\"é" 5 with ⟨tokens, places⟩
  have quoted : .quoted 3 5 ∈ (start "é\"é").scan 5 := by
    rw [seen]
    decide
  exact ⟨seen, tokens.trans (by decide), places _ quoted 3 5 rfl⟩

end Scanner

end Monkey
