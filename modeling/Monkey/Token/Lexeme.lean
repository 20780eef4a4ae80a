import Monkey.Token.Basic

/-!
# Lexemes

A program text is cut into lexemes byte by byte. White space between lexemes is dropped;
letters and digits are taken in maximal runs; a string runs from quote to quote, or to the end
of the text when its closing quote is missing; any byte that starts nothing else is a lexeme of
its own. Runs and strings end only at bytes of ASCII, so what they hold is always text.

`Lexeme.next` takes one lexeme off the front, `Lexeme.length_next_lt` says that it consumes
something unless the text has ended, and `Token.ofSource` reads a whole text.
-/

namespace Monkey

/-- One item of a program text as bytes: a symbol, a run of letters or digits, the inside of a
string, a byte that starts none of these, or the end. -/
inductive Lexeme where
  | finish
  | symbol (token : Token)
  | word (letters : List UInt8)
  | number (digits : List UInt8)
  | quoted (body : List UInt8)
  | stray (byte : UInt8)
  deriving DecidableEq

namespace Lexeme

/-- White space between lexemes: space, tab, line feed, form feed and carriage return. -/
def isBlank (byte : UInt8) : Bool :=
  byte == 0x20 || byte == 0x09 || byte == 0x0a || byte == 0x0c || byte == 0x0d

def isLetter (byte : UInt8) : Bool :=
  (0x41 ≤ byte && byte ≤ 0x5a) || (0x61 ≤ byte && byte ≤ 0x7a) || byte == 0x5f

def isDigit (byte : UInt8) : Bool :=
  0x30 ≤ byte && byte ≤ 0x39

def quote : UInt8 := 0x22

def isQuotable (byte : UInt8) : Bool :=
  byte != quote

/-- The symbol that a byte spells by itself. -/
def symbol? (byte : UInt8) : Option Token :=
  if byte = '='.toUInt8 then some (.punctuation .assign)
  else if byte = ','.toUInt8 then some (.punctuation .comma)
  else if byte = ';'.toUInt8 then some (.punctuation .semicolon)
  else if byte = '('.toUInt8 then some (.punctuation .openParen)
  else if byte = ')'.toUInt8 then some (.punctuation .closeParen)
  else if byte = '{'.toUInt8 then some (.punctuation .openBrace)
  else if byte = '}'.toUInt8 then some (.punctuation .closeBrace)
  else if byte = '!'.toUInt8 then some (.operator .bang)
  else if byte = '-'.toUInt8 then some (.operator .minus)
  else if byte = '+'.toUInt8 then some (.operator .plus)
  else if byte = '*'.toUInt8 then some (.operator .asterisk)
  else if byte = '/'.toUInt8 then some (.operator .slash)
  else if byte = '<'.toUInt8 then some (.operator .less)
  else if byte = '>'.toUInt8 then some (.operator .greater)
  else none

/-- The symbol of two bytes that starts with the given one; both of them end in `=`. -/
def longSymbol? (byte : UInt8) (following : Option UInt8) : Option Token :=
  if following = some '='.toUInt8 then
    if byte = '='.toUInt8 then some (.operator .equal)
    else if byte = '!'.toUInt8 then some (.operator .notEqual)
    else none
  else none

/-- The lexeme that starts with the given byte, and what follows it; a symbol of two bytes wins
over a symbol of one. -/
def startingWith (byte : UInt8) (rest : List UInt8) : Lexeme × List UInt8 :=
  if isLetter byte then
    (.word (byte :: rest.takeWhile isLetter), rest.dropWhile isLetter)
  else if isDigit byte then
    (.number (byte :: rest.takeWhile isDigit), rest.dropWhile isDigit)
  else if byte = quote then
    (.quoted (rest.takeWhile isQuotable), (rest.dropWhile isQuotable).tail)
  else
    match longSymbol? byte rest.head? with
    | some token => (.symbol token, rest.tail)
    | none =>
        match symbol? byte with
        | some token => (.symbol token, rest)
        | none => (.stray byte, rest)

/-- The first lexeme of a text and what follows it; at the end of the text there is always
`finish` and nothing after it. -/
def next (bytes : List UInt8) : Lexeme × List UInt8 :=
  match bytes.dropWhile isBlank with
  | [] => (.finish, [])
  | byte :: rest => startingWith byte rest

theorem length_dropWhile_le (accept : UInt8 → Bool) (bytes : List UInt8) :
    (bytes.dropWhile accept).length ≤ bytes.length :=
  (List.dropWhile_sublist accept).length_le

theorem length_startingWith_le (byte : UInt8) (rest : List UInt8) :
    (startingWith byte rest).2.length ≤ rest.length := by
  have letters := length_dropWhile_le isLetter rest
  have digits := length_dropWhile_le isDigit rest
  have body := length_dropWhile_le isQuotable rest
  unfold startingWith
  split
  · exact letters
  · split
    · exact digits
    · split
      · simp only [List.length_tail]
        omega
      · split
        · simp only [List.length_tail]
          omega
        · split <;> exact Nat.le_refl _

/-- Every lexeme but the end of the text consumes at least one byte. -/
theorem length_next_lt {bytes : List UInt8} (more : (next bytes).1 ≠ .finish) :
    (next bytes).2.length < bytes.length := by
  have skipped := length_dropWhile_le isBlank bytes
  unfold next at more ⊢
  cases found : bytes.dropWhile isBlank with
  | nil => simp [found] at more
  | cons byte rest =>
      have shorter := length_startingWith_le byte rest
      rw [found, List.length_cons] at skipped
      simp only
      omega

/-- The lexemes of a text, the end left out. -/
def all (bytes : List UInt8) : List Lexeme :=
  let step := next bytes
  if _more : step.1 ≠ .finish then
    step.1 :: all step.2
  else
    []
termination_by bytes.length
decreasing_by exact length_next_lt _more

/-- The results of asking for the next lexeme a given number of times. -/
def take : Nat → List UInt8 → List Lexeme
  | 0, _ => []
  | count + 1, bytes => (next bytes).1 :: take count (next bytes).2

/-- The text that a lexeme's bytes encode. -/
def text (bytes : List UInt8) : String :=
  (String.fromUTF8? ⟨bytes.toArray⟩).getD ""

def token : Lexeme → Token
  | finish => .eof
  | symbol token => token
  | word letters => .ofWord (text letters)
  | number digits => .int (text digits)
  | quoted body => .string (text body)
  | stray byte => .illegal byte

end Lexeme

def sourceBytes (source : String) : List UInt8 :=
  source.toUTF8.data.toList

/-- The tokens of a program text, the end mark left out. -/
def Token.ofSource (source : String) : List Token :=
  (Lexeme.all (sourceBytes source)).map Lexeme.token

end Monkey
