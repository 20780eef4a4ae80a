import Mathlib.Data.List.TakeWhile
import Monkey.Proofs.Printing.Lexing

/-!
# What the lexer reads

Whatever bytes it meets, the lexer makes names, numerals and texts only of bytes that can stand
in them: a name is a row of letters that is no keyword, a numeral is a row of digits, and a text
has no quote inside, even if its closing quote is missing. Such a token can be printed and read
again.
-/

namespace Monkey

/-- Whether a token carries only text that a program can write. -/
def Token.IsLexical : Token → Prop
  | .ident name => Identifier.IsName name
  | .int digits => Decimal.IsNumeral digits
  | .string text => '"' ∉ text.toList
  | _ => True

namespace Lexeme

theorem utf8EncodeChar_ofNat {byte : UInt8} (ascii : byte.toNat < 128) :
    String.utf8EncodeChar (Char.ofNat byte.toNat) = [byte] := by
  have single := forall_byte (fun byte => decide (byte.toNat < 128 →
    String.utf8EncodeChar (Char.ofNat byte.toNat) = [byte])) (by decide +kernel) byte
  exact of_decide_eq_true single ascii

theorem sourceBytes_ofList_of_ascii {bytes : List UInt8}
    (ascii : ∀ byte ∈ bytes, byte.toNat < 128) :
    sourceBytes (String.ofList (bytes.map fun byte => Char.ofNat byte.toNat)) = bytes := by
  rw [sourceBytes_eq_flatMap, String.toList_ofList]
  induction bytes with
  | nil => rfl
  | cons byte rest ih =>
      rcases List.forall_mem_cons.mp ascii with ⟨first, others⟩
      simp [utf8EncodeChar_ofNat first, ih others]

/-- A row of bytes of ASCII has a character for each byte. -/
theorem toList_text_of_ascii {bytes : List UInt8} (ascii : ∀ byte ∈ bytes, byte.toNat < 128) :
    (text bytes).toList = bytes.map fun byte => Char.ofNat byte.toNat := by
  have text := text_sourceBytes (String.ofList (bytes.map fun byte => Char.ofNat byte.toNat))
  rw [sourceBytes_ofList_of_ascii ascii] at text
  rw [text, String.toList_ofList]

/-- A row of bytes of ASCII is what the text that it encodes has for bytes. -/
theorem sourceBytes_text_of_ascii {bytes : List UInt8}
    (ascii : ∀ byte ∈ bytes, byte.toNat < 128) : sourceBytes (text bytes) = bytes := by
  rw [← String.ofList_toList (s := text bytes), toList_text_of_ascii ascii,
    sourceBytes_ofList_of_ascii ascii]

/-- A row of bytes that each stand for a character of one sort is a text of that sort. -/
theorem text_of_run {run : List UInt8} {accept : UInt8 → Bool} {sort : Char → Bool}
    (checked : ∀ byte, accept byte = true →
      byte.toNat < 128 ∧ sort (Char.ofNat byte.toNat) = true)
    (nonempty : run ≠ []) (inside : ∀ byte ∈ run, accept byte = true) :
    text run ≠ "" ∧ ∀ letter ∈ (text run).toList, sort letter = true := by
  have letters := toList_text_of_ascii fun byte member => (checked byte (inside byte member)).1
  refine ⟨?_, ?_⟩
  · intro empty
    simp [empty, nonempty] at letters
  · rw [letters]
    intro letter member
    rcases List.mem_map.mp member with ⟨byte, inRun, rfl⟩
    exact (checked byte (inside byte inRun)).2

theorem isNameChar_of_isLetter (byte : UInt8) (letter : isLetter byte = true) :
    byte.toNat < 128 ∧ Identifier.isNameChar (Char.ofNat byte.toNat) = true := by
  have holds := forall_byte (fun byte => decide (isLetter byte = true →
    byte.toNat < 128 ∧ Identifier.isNameChar (Char.ofNat byte.toNat) = true))
    (by decide +kernel) byte
  exact of_decide_eq_true holds letter

theorem isDigit_ofNat_of_isDigit (byte : UInt8) (digit : isDigit byte = true) :
    byte.toNat < 128 ∧ (Char.ofNat byte.toNat).isDigit = true := by
  have holds := forall_byte (fun byte => decide (isDigit byte = true →
    byte.toNat < 128 ∧ (Char.ofNat byte.toNat).isDigit = true))
    (by decide +kernel) byte
  exact of_decide_eq_true holds digit

/-- The bytes of a quote are the quote itself, so a text of other bytes has none; bytes that are
no text at all read as the empty text. -/
theorem not_mem_text_of_quotable {body : List UInt8}
    (inside : ∀ byte ∈ body, isQuotable byte = true) : '"' ∉ (text body).toList := by
  intro member
  unfold text at member
  cases decoded : String.fromUTF8? ⟨body.toArray⟩ with
  | none => simp [decoded] at member
  | some source =>
      rw [decoded, Option.getD_some] at member
      have spelled : sourceBytes source = body := by
        unfold String.fromUTF8? at decoded
        split at decoded
        · cases decoded
          rfl
        · cases decoded
      have quoteIn : quote ∈ sourceBytes source := by
        rw [sourceBytes_eq_flatMap]
        exact List.mem_flatMap.mpr ⟨'"', member, by decide⟩
      rw [spelled] at quoteIn
      exact absurd (inside quote quoteIn) (by decide)

theorem isLexical_ofWord {text : String} (nonempty : text ≠ "")
    (letters : ∀ letter ∈ text.toList, Identifier.isNameChar letter = true) :
    (Token.ofWord text).IsLexical := by
  unfold Token.ofWord
  cases found : Keyword.ofSpelling? text with
  | some word => trivial
  | none =>
      refine ⟨nonempty, letters, fun word same => ?_⟩
      have differs := List.find?_eq_none.mp found word word.mem_all
      exact absurd same.symm (by simpa using differs)

theorem isLexical_longSymbol? {byte : UInt8} {following : Option UInt8} {token : Token}
    (found : longSymbol? byte following = some token) : token.IsLexical := by
  unfold longSymbol? at found
  split at found
  · split at found
    · cases found
      trivial
    · split at found
      · cases found
        trivial
      · cases found
  · cases found

theorem isLexical_symbol? {byte : UInt8} {token : Token} (found : symbol? byte = some token) :
    token.IsLexical := by
  have noText := forall_byte (fun byte => (symbol? byte).all fun token =>
    token.kind ≠ .ident && token.kind ≠ .int && token.kind ≠ .string) (by decide +kernel) byte
  rw [found] at noText
  cases token with
  | ident name => simp [Token.kind] at noText
  | int digits => simp [Token.kind] at noText
  | string text => simp [Token.kind] at noText
  | _ => trivial

theorem isLexical_startingWith (byte : UInt8) (rest : List UInt8) :
    (startingWith byte rest).1.token.IsLexical := by
  have run {accept : UInt8 → Bool} (first : accept byte = true) :
      ∀ other ∈ byte :: rest.takeWhile accept, accept other = true :=
    List.forall_mem_cons.mpr ⟨first, fun _ member => List.mem_takeWhile_imp member⟩
  unfold startingWith
  split
  · next letter =>
      have word := text_of_run isNameChar_of_isLetter (by simp) (run letter)
      exact isLexical_ofWord word.1 word.2
  · split
    · next digit =>
        have number := text_of_run isDigit_ofNat_of_isDigit (by simp) (run digit)
        exact ⟨number.1, number.2⟩
    · split
      · exact not_mem_text_of_quotable fun _ member => List.mem_takeWhile_imp member
      · split
        · next found => exact isLexical_longSymbol? found
        · split
          · next found => exact isLexical_symbol? found
          · trivial

theorem isLexical_next (bytes : List UInt8) : (next bytes).1.token.IsLexical := by
  unfold next
  split
  · trivial
  · next byte rest _ => exact isLexical_startingWith byte rest

theorem isLexical_of_mem_all {bytes : List UInt8} {lexeme : Lexeme}
    (member : lexeme ∈ all bytes) : lexeme.token.IsLexical := by
  fun_induction all bytes with
  | case1 bytes step more ih =>
      rcases List.mem_cons.mp member with rfl | later
      · exact isLexical_next bytes
      · exact ih later
  | case2 => cases member

end Lexeme

/-- Every token that the lexer makes of a text can be written in a program. -/
theorem Token.isLexical_of_mem_ofSource {source : String} {token : Token}
    (member : token ∈ Token.ofSource source) : token.IsLexical := by
  rcases List.mem_map.mp member with ⟨lexeme, inAll, rfl⟩
  exact Lexeme.isLexical_of_mem_all inAll

end Monkey
