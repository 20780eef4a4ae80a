import Monkey.Proofs.Printing.Canonical
import Monkey.Token.Lexeme

/-!
# Reading printed words

Each item of a printed program is read back as its token, whatever stands after it, as long as
that does not prolong the item: a name may not go on with a letter, a numeral with a digit, and
`=` and `!` may not meet another `=`. What is printed is text of ASCII but for the strings, whose
bytes are skipped up to the closing quote.
-/

namespace Monkey

section Bytes

theorem sourceBytes_eq_flatMap (source : String) :
    sourceBytes source = source.toList.flatMap String.utf8EncodeChar := by
  have encoded : source.toUTF8 = (source.toList.flatMap String.utf8EncodeChar).toByteArray := by
    conv => lhs; rw [← String.ofList_toList (s := source)]
    rw [String.toUTF8_eq_toByteArray, String.toByteArray_ofList]
    rfl
  rw [sourceBytes, encoded, List.data_toByteArray, List.toList_toArray]

theorem sourceBytes_append (left right : String) :
    sourceBytes (left ++ right) = sourceBytes left ++ sourceBytes right := by
  simp only [sourceBytes_eq_flatMap, String.toList_append, List.flatMap_append]

theorem length_sourceBytes (source : String) :
    (sourceBytes source).length = source.utf8ByteSize := by
  rw [sourceBytes, Array.length_toList, String.toUTF8_eq_toByteArray]
  exact String.size_toByteArray

theorem sourceBytes_ne_nil {source : String} (nonempty : source ≠ "") :
    sourceBytes source ≠ [] := by
  intro none
  apply nonempty
  rw [← String.toList_eq_nil_iff]
  rw [sourceBytes_eq_flatMap, List.flatMap_eq_nil_iff] at none
  cases shape : source.toList with
  | nil => rfl
  | cons first rest =>
      have empty := none first (by rw [shape]; exact List.mem_cons_self)
      exact absurd (congrArg List.length empty) (by
        have := first.utf8Size_pos
        rw [String.length_utf8EncodeChar, List.length_nil]
        omega)

/-- The bytes of a text can be read as that text again. -/
theorem fromUTF8?_sourceBytes (source : String) :
    String.fromUTF8? ⟨(sourceBytes source).toArray⟩ = some source := by
  have packed : (⟨(sourceBytes source).toArray⟩ : ByteArray) = source.toUTF8 := by
    apply ByteArray.ext
    rw [sourceBytes, Array.toArray_toList]
  unfold String.fromUTF8?
  rw [packed, String.toUTF8_eq_toByteArray, dif_pos source.isValidUTF8]
  rfl

/-- A text is what its bytes encode. -/
theorem Lexeme.text_sourceBytes (source : String) : Lexeme.text (sourceBytes source) = source := by
  rw [text, fromUTF8?_sourceBytes, Option.getD_some]

theorem mem_sourceBytes {source : String} {byte : UInt8} (member : byte ∈ sourceBytes source) :
    ∃ letter ∈ source.toList, byte ∈ String.utf8EncodeChar letter := by
  rwa [sourceBytes_eq_flatMap, List.mem_flatMap] at member

/-- What a test says of the bytes of a character, checked for the characters of ASCII one by
one. -/
theorem forall_mem_utf8EncodeChar_of_ascii {accept : Char → Bool} {test : UInt8 → Bool}
    (ascii : ∀ letter, accept letter = true → letter.toNat < 128)
    (checked : ∀ code < 128, accept (Char.ofNat code) = true →
      (String.utf8EncodeChar (Char.ofNat code)).all test = true)
    {letter : Char} (accepted : accept letter = true) {byte : UInt8}
    (member : byte ∈ String.utf8EncodeChar letter) : test byte = true := by
  have below := checked letter.toNat (ascii letter accepted)
  rw [Char.ofNat_toNat] at below
  exact List.all_eq_true.mp (below accepted) byte member

/-- A byte of ASCII stands for its own character only, never for a part of another one. -/
theorem toNat_eq_of_mem_utf8EncodeChar {letter : Char} {byte : UInt8}
    (member : byte ∈ String.utf8EncodeChar letter) (ascii : byte.toNat < 128) :
    letter.toNat = byte.toNat := by
  have code : letter.toNat = letter.val.toNat := rfl
  unfold String.utf8EncodeChar at member
  dsimp only at member
  split at member
  · obtain rfl := List.mem_singleton.mp member
    rw [UInt8.toNat_ofNat'] at ascii ⊢
    omega
  all_goals
    exfalso
    split at member <;> try split at member
    all_goals
      simp only [List.mem_cons, List.not_mem_nil, or_false] at member
      rcases member with rfl | rfl | rfl | rfl | rfl
      all_goals
        rw [UInt8.toNat_ofNat'] at ascii
        omega

theorem Lexeme.isQuotable_of_not_mem {bytes : List UInt8} (unquoted : quote ∉ bytes) :
    ∀ byte ∈ bytes, isQuotable byte = true := by
  intro byte member
  rw [isQuotable, bne_iff_ne]
  rintro rfl
  exact unquoted member

/-- A text without quotes has no byte of a quote either. -/
theorem quote_not_mem_sourceBytes {text : String} (noQuote : '"' ∉ text.toList) :
    Lexeme.quote ∉ sourceBytes text := by
  intro member
  rcases mem_sourceBytes member with ⟨letter, inText, member⟩
  have code := toNat_eq_of_mem_utf8EncodeChar member (by decide)
  have same : letter = '"' := Char.toNat_inj.mp code
  exact noQuote (same ▸ inText)

end Bytes

namespace Identifier

theorem toNat_lt_of_isNameChar (letter : Char) (accepted : isNameChar letter = true) :
    letter.toNat < 128 := by
  rw [isNameChar, Bool.or_eq_true] at accepted
  rcases accepted with alpha | underscore
  · have cased : (letter.isUpper || letter.isLower) = true := alpha
    rcases Bool.or_eq_true_iff.mp cased with upper | lower
    · have range : 'A'.val ≤ letter.val ∧ letter.val ≤ 'Z'.val := of_decide_eq_true upper
      exact Nat.lt_of_le_of_lt (UInt32.le_iff_toNat_le.mp range.2) (by decide)
    · have range := Bool.and_eq_true_iff.mp lower
      have below : letter.val ≤ 'z'.val := of_decide_eq_true range.2
      exact Nat.lt_of_le_of_lt (UInt32.le_iff_toNat_le.mp below) (by decide)
  · rw [eq_of_beq underscore]
    decide

theorem isLetter_of_isName {name : String} (isName : IsName name) :
    ∀ byte ∈ sourceBytes name, Lexeme.isLetter byte = true := by
  intro byte member
  rcases mem_sourceBytes member with ⟨letter, inName, member⟩
  exact forall_mem_utf8EncodeChar_of_ascii toNat_lt_of_isNameChar (by decide +kernel)
    (isName.letters letter inName) member

end Identifier

namespace Decimal

theorem toNat_lt_of_isDigit (digit : Char) (accepted : digit.isDigit = true) :
    digit.toNat < 128 := by
  simp only [Char.isDigit, Bool.and_eq_true, decide_eq_true_eq, UInt32.le_iff_toNat_le,
    ge_iff_le] at accepted
  have code : digit.toNat = digit.val.toNat := rfl
  have nine : '9'.val.toNat = 57 := rfl
  omega

theorem isDigit_of_isNumeral {digits : String} (numeral : IsNumeral digits) :
    ∀ byte ∈ sourceBytes digits, Lexeme.isDigit byte = true := by
  intro byte member
  rcases mem_sourceBytes member with ⟨digit, inDigits, member⟩
  exact forall_mem_utf8EncodeChar_of_ascii toNat_lt_of_isDigit (by decide +kernel)
    (numeral.isDigit digit inDigits) member

end Decimal

namespace Lexeme

/-- Whether what stands in front of a text can be read without a look at that text: it goes on
neither with a letter nor with a digit nor with `=`. -/
def Apart (rest : List UInt8) : Prop :=
  ∀ byte ∈ rest.head?, isLetter byte = false ∧ isDigit byte = false ∧ byte ≠ '='.toUInt8

theorem apart_nil : Apart [] := by
  intro byte member
  cases member

theorem Apart.head?_ne {rest : List UInt8} (apart : Apart rest) :
    rest.head? ≠ some '='.toUInt8 := by
  intro same
  exact (apart _ same).2.2 rfl

theorem apart_cons {byte : UInt8} (rest : List UInt8) (letter : isLetter byte = false)
    (digit : isDigit byte = false) (equals : byte ≠ '='.toUInt8) : Apart (byte :: rest) := by
  intro first member
  obtain rfl : byte = first := Option.some.inj member
  exact ⟨letter, digit, equals⟩

theorem apart_mark {mark : Punctuation} (rest : List UInt8) (short : mark ≠ .assign) :
    Apart (sourceBytes mark.symbol ++ rest) := by
  cases mark with
  | assign => exact absurd rfl short
  | _ => exact apart_cons _ rfl rfl (by decide)

theorem apart_space (rest : List UInt8) : Apart (sourceBytes " " ++ rest) :=
  apart_cons _ rfl rfl (by decide)

theorem takeWhile_run {accept : UInt8 → Bool} {run rest : List UInt8}
    (inside : ∀ byte ∈ run, accept byte = true)
    (stop : ∀ byte ∈ rest.head?, accept byte = false) :
    (run ++ rest).takeWhile accept = run := by
  rw [List.takeWhile_append_of_pos inside]
  cases rest with
  | nil => rw [List.takeWhile_nil, List.append_nil]
  | cons first rest =>
      rw [List.takeWhile_cons_of_neg (by simp [stop first rfl]), List.append_nil]

theorem dropWhile_run {accept : UInt8 → Bool} {run rest : List UInt8}
    (inside : ∀ byte ∈ run, accept byte = true)
    (stop : ∀ byte ∈ rest.head?, accept byte = false) :
    (run ++ rest).dropWhile accept = rest := by
  rw [List.dropWhile_append_of_pos inside]
  cases rest with
  | nil => rfl
  | cons first rest => rw [List.dropWhile_cons_of_neg (by simp [stop first rfl])]

/-- A property of bytes, checked one by one. -/
theorem forall_byte (test : UInt8 → Bool)
    (checked : ∀ code < 256, test (UInt8.ofNat code) = true) (byte : UInt8) :
    test byte = true := by
  have holds := checked byte.toNat byte.toNat_lt
  rwa [UInt8.ofNat_toNat] at holds

theorem isBlank_of_isLetter {byte : UInt8} (letter : isLetter byte = true) :
    isBlank byte = false := by
  have excluded := forall_byte (fun byte => !(isLetter byte && isBlank byte))
    (by decide +kernel) byte
  simpa [letter] using excluded

theorem isBlank_of_isDigit {byte : UInt8} (digit : isDigit byte = true) :
    isBlank byte = false ∧ isLetter byte = false := by
  have excluded := forall_byte
    (fun byte => !(isDigit byte && (isBlank byte || isLetter byte)))
    (by decide +kernel) byte
  simpa [digit] using excluded

theorem next_word {letters rest : List UInt8} (nonempty : letters ≠ [])
    (inside : ∀ byte ∈ letters, isLetter byte = true)
    (stop : ∀ byte ∈ rest.head?, isLetter byte = false) :
    next (letters ++ rest) = (.word letters, rest) := by
  rcases List.exists_cons_of_ne_nil nonempty with ⟨first, others, rfl⟩
  rcases List.forall_mem_cons.mp inside with ⟨letter, inOthers⟩
  have notBlank := isBlank_of_isLetter letter
  rw [next, List.cons_append, List.dropWhile_cons_of_neg (by simp [notBlank])]
  simp only [startingWith, if_pos letter]
  rw [takeWhile_run inOthers stop, dropWhile_run inOthers stop]

theorem next_number {digits rest : List UInt8} (nonempty : digits ≠ [])
    (inside : ∀ byte ∈ digits, isDigit byte = true)
    (stop : ∀ byte ∈ rest.head?, isDigit byte = false) :
    next (digits ++ rest) = (.number digits, rest) := by
  rcases List.exists_cons_of_ne_nil nonempty with ⟨first, others, rfl⟩
  rcases List.forall_mem_cons.mp inside with ⟨digit, inOthers⟩
  rcases isBlank_of_isDigit digit with ⟨notBlank, notLetter⟩
  rw [next, List.cons_append, List.dropWhile_cons_of_neg (by simp [notBlank])]
  simp only [startingWith, notLetter, if_pos digit, Bool.false_eq_true, if_false]
  rw [takeWhile_run inOthers stop, dropWhile_run inOthers stop]

theorem next_symbol {byte : UInt8} {token : Token} {rest : List UInt8}
    (symbol : symbol? byte = some token)
    (short : longSymbol? byte rest.head? = none) :
    next (byte :: rest) = (.symbol token, rest) := by
  have excluded := forall_byte
    (fun byte => (symbol? byte).isNone ||
      !(isBlank byte || isLetter byte || isDigit byte || byte == quote))
    (by decide +kernel) byte
  rw [symbol] at excluded
  simp only [Option.isNone_some, Bool.false_or, Bool.not_eq_true', Bool.or_eq_false_iff,
    beq_eq_false_iff_ne] at excluded
  rcases excluded with ⟨⟨⟨notBlank, notLetter⟩, notDigit⟩, notQuote⟩
  rw [next, List.dropWhile_cons_of_neg (by simp [notBlank])]
  simp only [startingWith, notLetter, notDigit, Bool.false_eq_true, if_false, if_neg notQuote,
    short, symbol]

theorem longSymbol?_of_ne_equals {byte : UInt8} {following : Option UInt8}
    (apart : following ≠ some '='.toUInt8) : longSymbol? byte following = none := by
  rw [longSymbol?, if_neg apart]

theorem longSymbol?_of_short {byte : UInt8} (following : Option UInt8)
    (notEquals : byte ≠ '='.toUInt8) (notBang : byte ≠ '!'.toUInt8) :
    longSymbol? byte following = none := by
  rw [longSymbol?, if_neg notEquals, if_neg notBang, ite_self]

theorem next_quoted {body : List UInt8} (inside : ∀ byte ∈ body, isQuotable byte = true)
    (rest : List UInt8) :
    next (quote :: (body ++ quote :: rest)) = (.quoted body, rest) := by
  have stop : ∀ byte ∈ (quote :: rest).head?, isQuotable byte = false := by
    intro byte member
    obtain rfl : quote = byte := Option.some.inj member
    rfl
  have opening : next (quote :: (body ++ quote :: rest)) =
      (.quoted ((body ++ quote :: rest).takeWhile isQuotable),
        ((body ++ quote :: rest).dropWhile isQuotable).tail) := rfl
  rw [opening, takeWhile_run inside stop, dropWhile_run inside stop, List.tail_cons]

end Lexeme

namespace Token

/-- The tokens of program text that is given as bytes. -/
def ofBytes (bytes : List UInt8) : List Token :=
  (Lexeme.all bytes).map Lexeme.token

theorem ofBytes_nil : ofBytes [] = [] := by
  rw [ofBytes, Lexeme.all]
  rfl

theorem ofBytes_of_next {bytes rest : List UInt8} {lexeme : Lexeme}
    (step : Lexeme.next bytes = (lexeme, rest)) (more : lexeme ≠ .finish) :
    ofBytes bytes = lexeme.token :: ofBytes rest := by
  rw [ofBytes, Lexeme.all]
  simp only [step, more, ne_eq, not_false_eq_true, dite_true, List.map_cons, ofBytes]

theorem ofBytes_of_next_eq {left right : List UInt8} (same : Lexeme.next left = Lexeme.next right) :
    ofBytes left = ofBytes right := by
  have all : Lexeme.all left = Lexeme.all right := by
    rw [Lexeme.all.eq_def left, Lexeme.all.eq_def right]
    simp only [same]
  rw [ofBytes, ofBytes, all]

theorem ofBytes_space (rest : List UInt8) : ofBytes (sourceBytes " " ++ rest) = ofBytes rest :=
  ofBytes_of_next_eq rfl

theorem ofBytes_mark {mark : Punctuation} (rest : List UInt8) (short : mark ≠ .assign) :
    ofBytes (sourceBytes mark.symbol ++ rest) = .punctuation mark :: ofBytes rest := by
  cases mark with
  | assign => exact absurd rfl short
  | _ =>
      have alone {byte : UInt8} (notEquals : byte ≠ '='.toUInt8) (notBang : byte ≠ '!'.toUInt8) :=
        Lexeme.longSymbol?_of_short rest.head? notEquals notBang
      exact ofBytes_of_next (Lexeme.next_symbol rfl (alone (by decide) (by decide)))
        Lexeme.noConfusion

theorem ofBytes_assign (rest : List UInt8) :
    ofBytes (sourceBytes " = " ++ rest) = .punctuation .assign :: ofBytes rest := by
  have apart := (Lexeme.apart_space rest).head?_ne
  have assign : ofBytes (sourceBytes "=" ++ (sourceBytes " " ++ rest)) =
      .punctuation .assign :: ofBytes (sourceBytes " " ++ rest) :=
    ofBytes_of_next (Lexeme.next_symbol rfl (Lexeme.longSymbol?_of_ne_equals apart))
      Lexeme.noConfusion
  have spaced : sourceBytes " = " ++ rest =
      sourceBytes " " ++ (sourceBytes "=" ++ (sourceBytes " " ++ rest)) := rfl
  rw [spaced, ofBytes_space, assign, ofBytes_space]

/-- An operator is read wherever no `=` follows, which could turn it into another one. -/
theorem ofBytes_operator (operator : Operator) {rest : List UInt8}
    (apart : rest.head? ≠ some '='.toUInt8) :
    ofBytes (sourceBytes operator.symbol ++ rest) = .operator operator :: ofBytes rest := by
  have alone (byte : UInt8) : Lexeme.longSymbol? byte rest.head? = none :=
    Lexeme.longSymbol?_of_ne_equals apart
  cases operator with
  | equal => exact ofBytes_of_next rfl Lexeme.noConfusion
  | notEqual => exact ofBytes_of_next rfl Lexeme.noConfusion
  | _ => exact ofBytes_of_next (Lexeme.next_symbol rfl (alone _)) Lexeme.noConfusion

theorem ofBytes_word {text : String} {rest : List UInt8} (nonempty : text ≠ "")
    (inside : ∀ byte ∈ sourceBytes text, Lexeme.isLetter byte = true)
    (apart : Lexeme.Apart rest) :
    ofBytes (sourceBytes text ++ rest) = ofWord text :: ofBytes rest := by
  have step := Lexeme.next_word (sourceBytes_ne_nil nonempty) inside
    fun byte member => (apart byte member).1
  rw [ofBytes_of_next step Lexeme.noConfusion, Lexeme.token, Lexeme.text_sourceBytes]

theorem ofWord_spelling (word : Keyword) : ofWord word.spelling = .keyword word := by
  cases word <;> decide

theorem ofWord_of_free {name : String} (free : ∀ word : Keyword, name ≠ word.spelling) :
    ofWord name = .ident name := by
  have none : Keyword.ofSpelling? name = none := by
    rw [Keyword.ofSpelling?, List.find?_eq_none]
    intro word _ same
    exact free word (eq_of_beq same).symm
  rw [ofWord, none]

theorem ofBytes_keyword (word : Keyword) {rest : List UInt8} (apart : Lexeme.Apart rest) :
    ofBytes (sourceBytes word.spelling ++ rest) = .keyword word :: ofBytes rest := by
  have spelled : word.spelling ≠ "" ∧ (sourceBytes word.spelling).all Lexeme.isLetter = true := by
    cases word <;> decide
  rw [ofBytes_word spelled.1 (List.all_eq_true.mp spelled.2) apart, ofWord_spelling]

theorem ofBytes_name {name : String} {rest : List UInt8} (isName : Identifier.IsName name)
    (apart : Lexeme.Apart rest) :
    ofBytes (sourceBytes name ++ rest) = .ident name :: ofBytes rest := by
  rw [ofBytes_word isName.nonempty (Identifier.isLetter_of_isName isName) apart,
    ofWord_of_free isName.not_keyword]

theorem ofBytes_numeral {digits : String} {rest : List UInt8} (numeral : Decimal.IsNumeral digits)
    (apart : Lexeme.Apart rest) :
    ofBytes (sourceBytes digits ++ rest) = .int digits :: ofBytes rest := by
  have step := Lexeme.next_number (sourceBytes_ne_nil numeral.nonempty)
    (Decimal.isDigit_of_isNumeral numeral) fun byte member => (apart byte member).2.1
  rw [ofBytes_of_next step Lexeme.noConfusion, Lexeme.token, Lexeme.text_sourceBytes]

theorem ofBytes_string {text : String} (noQuote : '"' ∉ text.toList) (rest : List UInt8) :
    ofBytes (sourceBytes ("\"" ++ text ++ "\"") ++ rest) = .string text :: ofBytes rest := by
  have quoted : sourceBytes ("\"" ++ text ++ "\"") ++ rest =
      Lexeme.quote :: (sourceBytes text ++ Lexeme.quote :: rest) := by
    simp only [sourceBytes_append, List.append_assoc]
    rfl
  have unquoted := Lexeme.isQuotable_of_not_mem (quote_not_mem_sourceBytes noQuote)
  have step := Lexeme.next_quoted unquoted rest
  rw [quoted, ofBytes_of_next step Lexeme.noConfusion, Lexeme.token, Lexeme.text_sourceBytes]

end Token

end Monkey
