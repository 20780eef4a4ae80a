import Mathlib.Data.List.Forall2
import Monkey.Program.Printer
import Monkey.Proofs.Grammar.Recognition
import Monkey.Proofs.Printing.Lexing
import Monkey.Proofs.Printing.Spelling

/-!
# Reading a printed program

On a canonical tree the lexer reads exactly the spelling of the tree off the printed text: no two
neighbouring items run together, and no sign meets an `=`. With what the grammar derives from
the spelling, parsing undoes printing.
-/

namespace Monkey

open Token Lexeme

/-- Whether a text reads as the given tokens wherever nothing prolongs it. -/
def Spells (text : String) (tokens : List Token) : Prop :=
  ∀ rest, Apart rest → ofBytes (sourceBytes text ++ rest) = tokens ++ ofBytes rest

namespace Spells

theorem ident {name : String} (isName : Identifier.IsName name) : Spells name [.ident name] :=
  fun _ apart => ofBytes_name isName apart

/-- Where a text starts that reads as an expression, no `=` stands. -/
theorem head?_ne {text : String} {first : Token} {tokens : List Token}
    (spells : Spells text (first :: tokens)) (starts : first.startsExpression = true)
    {rest : List UInt8} (apart : Apart rest) :
    (sourceBytes text ++ rest).head? ≠ some '='.toUInt8 := by
  intro equals
  have read := spells rest apart
  cases shape : sourceBytes text ++ rest with
  | nil => simp [shape] at equals
  | cons byte bytes =>
      obtain rfl : byte = '='.toUInt8 := by simpa [shape] using equals
      rw [shape] at read
      by_cases following : bytes.head? = some '='.toUInt8
      · rcases List.head?_eq_some_iff.mp following with ⟨others, rfl⟩
        have equal : next ('='.toUInt8 :: '='.toUInt8 :: others) =
            (.symbol (.operator .equal), others) := rfl
        rw [ofBytes_of_next equal Lexeme.noConfusion] at read
        rcases List.cons.inj read with ⟨rfl, _⟩
        cases starts
      · have assign : next ('='.toUInt8 :: bytes) = (.symbol (.punctuation .assign), bytes) :=
          next_symbol rfl (longSymbol?_of_ne_equals following)
        rw [ofBytes_of_next assign Lexeme.noConfusion] at read
        rcases List.cons.inj read with ⟨rfl, _⟩
        cases starts

/-- Texts with commas between them read as their tokens with commas between them. -/
theorem commaSeparated {texts : List String} {items : List (List Token)}
    (spell : List.Forall₂ Spells texts items) :
    Spells (Monkey.commaSeparated texts) (Token.commaSeparated items) := by
  induction spell with
  | nil => exact fun rest _ => rfl
  | @cons text item texts items first others ih =>
      cases others with
      | nil => rwa [Monkey.commaSeparated, String.intercalate_singleton, commaSeparated_singleton]
      | @cons second secondItem texts items _ others =>
          intro rest apart
          have bytes : sourceBytes (Monkey.commaSeparated (text :: second :: texts)) ++ rest =
              sourceBytes text ++ (sourceBytes Punctuation.comma.symbol ++ (sourceBytes " " ++
                (sourceBytes (Monkey.commaSeparated (second :: texts)) ++ rest))) := by
            rw [Monkey.commaSeparated, String.intercalate_cons_cons]
            simp only [sourceBytes_append, List.append_assoc]
            rfl
          rw [bytes, first _ (apart_mark _ (by decide)), ofBytes_mark _ (by decide), ofBytes_space,
            ih rest apart, commaSeparated_cons_cons, List.append_assoc, List.cons_append]

theorem parameters {parameters : List Identifier}
    (canonical : ∀ parameter ∈ parameters, parameter.Canonical) :
    Spells (Monkey.commaSeparated (parameters.map Identifier.name))
      (Token.commaSeparated (parameters.map fun parameter => [.ident parameter.name])) := by
  refine commaSeparated (List.forall₂_map_left_iff.mpr (List.forall₂_map_right_iff.mpr ?_))
  exact List.forall₂_same.mpr fun parameter member => ident (canonical parameter member).2

end Spells

namespace Expr

theorem spells_int {token : Token} {value : Int64} {digits : String}
    (canonical : token = .int digits) (numeral : Decimal.IsNumeral digits) :
    Spells (int token value).print (int token value).spelling := by
  subst canonical
  intro rest apart
  rw [print, Token.literal, ofBytes_numeral numeral apart, spelling, List.singleton_append]

theorem spells_bool (token : Token) (value : Bool) :
    Spells (bool token value).print (bool token value).spelling := by
  intro rest apart
  have word : (bool token value).print = (Keyword.ofBool value).spelling := by
    cases value <;> rw [print] <;> rfl
  rw [word, ofBytes_keyword _ apart, spelling, List.singleton_append]

theorem spells_unary {token : Token} {operator : Operator} {operand : Expr}
    (canonical : operand.Canonical) (spells : Spells operand.print operand.spelling) :
    Spells (unary token operator operand).print (unary token operator operand).spelling := by
  intro rest _
  have bytes : sourceBytes (unary token operator operand).print ++ rest =
      sourceBytes Punctuation.openParen.symbol ++ (sourceBytes operator.symbol ++
        (sourceBytes operand.print ++ (sourceBytes Punctuation.closeParen.symbol ++ rest))) := by
    simp only [print, sourceBytes_append, List.append_assoc]
    rfl
  have closing : Apart (sourceBytes Punctuation.closeParen.symbol ++ rest) :=
    apart_mark rest (by decide)
  have sign : (sourceBytes operand.print ++
      (sourceBytes Punctuation.closeParen.symbol ++ rest)).head? ≠ some '='.toUInt8 := by
    rcases operand.writtenBy_spelling canonical with ⟨reading, derives, _⟩
    rcases derives.opens with ⟨first, others, shape, starts⟩
    rw [shape] at spells
    exact spells.head?_ne starts closing
  rw [bytes, ofBytes_mark _ (by decide), ofBytes_operator _ sign, spells _ closing,
    ofBytes_mark _ (by decide), spelling]
  simp only [List.cons_append, List.append_assoc, List.nil_append]

theorem spells_binary {token : Token} {left right : Expr} {operator : Operator}
    (ofLeft : Spells left.print left.spelling) (ofRight : Spells right.print right.spelling) :
    Spells (binary token left operator right).print
      (binary token left operator right).spelling := by
  intro rest _
  have bytes : sourceBytes (binary token left operator right).print ++ rest =
      sourceBytes Punctuation.openParen.symbol ++ (sourceBytes left.print ++ (sourceBytes " " ++
        (sourceBytes operator.symbol ++ (sourceBytes " " ++ (sourceBytes right.print ++
          (sourceBytes Punctuation.closeParen.symbol ++ rest)))))) := by
    simp only [print, sourceBytes_append, List.append_assoc]
    rfl
  rw [bytes, ofBytes_mark _ (by decide), ofLeft _ (apart_space _), ofBytes_space,
    ofBytes_operator _ (apart_space _).head?_ne, ofBytes_space,
    ofRight _ (apart_mark _ (by decide)), ofBytes_mark _ (by decide), spelling]
  simp only [List.cons_append, List.append_assoc, List.nil_append]

theorem spells_conditional {token : Token} {condition : Expr} {consequence : Block}
    {alternative : Option Block} (ofCondition : Spells condition.print condition.spelling)
    (ofConsequence : Spells consequence.print consequence.spelling)
    (ofAlternative : ∀ block ∈ alternative, Spells block.print block.spelling) :
    Spells (conditional token condition consequence alternative).print
      (conditional token condition consequence alternative).spelling := by
  intro rest apart
  have bytes : sourceBytes (conditional token condition consequence alternative).print ++ rest =
      sourceBytes Keyword.ifWord.spelling ++ (sourceBytes " " ++
        (sourceBytes Punctuation.openParen.symbol ++ (sourceBytes condition.print ++
          (sourceBytes Punctuation.closeParen.symbol ++ (sourceBytes " " ++
            (sourceBytes consequence.print ++
              (sourceBytes (printAlternative alternative) ++ rest))))))) := by
    simp only [print, sourceBytes_append, List.append_assoc]
    rfl
  rw [bytes, ofBytes_keyword _ (apart_space _), ofBytes_space, ofBytes_mark _ (by decide),
    ofCondition _ (apart_mark _ (by decide)), ofBytes_mark _ (by decide), ofBytes_space, spelling]
  cases alternative with
  | none =>
      rw [printAlternative, alternativeSpelling]
      have empty : sourceBytes "" ++ rest = rest := rfl
      rw [empty, ofConsequence _ apart]
      simp only [List.cons_append, List.append_assoc, List.nil_append]
  | some block =>
      have bytes : sourceBytes (printAlternative (some block)) ++ rest =
          sourceBytes " " ++ (sourceBytes Keyword.elseWord.spelling ++ (sourceBytes " " ++
            (sourceBytes block.print ++ rest))) := by
        simp only [printAlternative, sourceBytes_append, List.append_assoc]
        rfl
      rw [bytes, ofConsequence _ (apart_space _), ofBytes_space, ofBytes_keyword _ (apart_space _),
        ofBytes_space, ofAlternative block rfl _ apart, alternativeSpelling]
      simp only [List.cons_append, List.append_assoc]

theorem spells_function {token : Token} {parameters : List Identifier} {body : Block}
    (names : ∀ parameter ∈ parameters, parameter.Canonical)
    (ofBody : Spells body.print body.spelling) :
    Spells (function token parameters body).print (function token parameters body).spelling := by
  intro rest apart
  have bytes : sourceBytes (function token parameters body).print ++ rest =
      sourceBytes Keyword.fnWord.spelling ++ (sourceBytes Punctuation.openParen.symbol ++
        (sourceBytes (Monkey.commaSeparated (parameters.map Identifier.name)) ++
          (sourceBytes Punctuation.closeParen.symbol ++ (sourceBytes " " ++
            (sourceBytes body.print ++ rest))))) := by
    simp only [print, sourceBytes_append, List.append_assoc]
    rfl
  rw [bytes, ofBytes_keyword _ (apart_mark _ (by decide)), ofBytes_mark _ (by decide),
    Spells.parameters names _ (apart_mark _ (by decide)), ofBytes_mark _ (by decide),
    ofBytes_space, ofBody _ apart, spelling]
  simp only [List.cons_append, List.append_assoc]

theorem spells_call {token : Token} {callee : Expr} {values : List Expr}
    (ofCallee : Spells callee.print callee.spelling)
    (ofArguments : List.Forall₂ Spells (printArguments values) (argumentSpellings values)) :
    Spells (call token callee values).print (call token callee values).spelling := by
  intro rest _
  have bytes : sourceBytes (call token callee values).print ++ rest =
      sourceBytes callee.print ++ (sourceBytes Punctuation.openParen.symbol ++
        (sourceBytes (Monkey.commaSeparated (printArguments values)) ++
          (sourceBytes Punctuation.closeParen.symbol ++ rest))) := by
    simp only [print, sourceBytes_append, List.append_assoc]
    rfl
  rw [bytes, ofCallee _ (apart_mark _ (by decide)), ofBytes_mark _ (by decide),
    Spells.commaSeparated ofArguments _ (apart_mark _ (by decide)), ofBytes_mark _ (by decide),
    spelling]
  simp only [List.cons_append, List.append_assoc, List.nil_append]

end Expr

namespace Statement

/-- Whether a statement reads as its tokens in a row, in front of the statements that follow it;
the last one of a row needs what `Spells` needs. -/
def SpellsBefore (statement : Statement) (following : List Statement) : Prop :=
  ∀ rest, (following = [] → Apart rest) →
    ofBytes (sourceBytes (statement.print ++ statement.separator following) ++ rest) =
      statement.spelling ++ statement.terminator following ++ ofBytes rest

/-- A statement that is printed with its semicolon needs nothing of what follows it. -/
theorem spells_closed {statement : Statement}
    (blank : ∀ following, statement.separator following = "" ∨
      statement.separator following = " ")
    (closed : ∀ following, statement.terminator following = [.punctuation .semicolon])
    (spells : ∀ rest, ofBytes (sourceBytes statement.print ++ rest) =
      statement.spelling ++ .punctuation .semicolon :: ofBytes rest) (following : List Statement) :
    statement.SpellsBefore following := by
  intro rest _
  have separated :
      ofBytes (sourceBytes (statement.separator following) ++ rest) = ofBytes rest := by
    rcases blank following with empty | space
    · rw [empty]
      rfl
    · rw [space]
      exact ofBytes_space rest
  rw [sourceBytes_append, List.append_assoc, spells, separated, closed]
  simp only [List.append_assoc, List.cons_append, List.nil_append]

theorem spells_bind {token : Token} {identifier : Identifier} {value : Expr}
    (canonical : token = .keyword .letWord) (name : identifier.Canonical)
    (ofValue : Spells value.print value.spelling) (following : List Statement) :
    (bind token identifier value).SpellsBefore following := by
  subst canonical
  refine spells_closed ?_ ?_ (fun rest => ?_) following
  · rintro (_ | _) <;> simp [separator]
  · rintro (_ | _) <;> rfl
  · have bytes : sourceBytes (bind (.keyword .letWord) identifier value).print ++ rest =
        sourceBytes Keyword.letWord.spelling ++ (sourceBytes " " ++
          (sourceBytes identifier.name ++ (sourceBytes " = " ++ (sourceBytes value.print ++
            (sourceBytes Punctuation.semicolon.symbol ++ rest))))) := by
      simp only [print, sourceBytes_append, List.append_assoc]
      rfl
    have equals (rest : List UInt8) : Apart (sourceBytes " = " ++ rest) := apart_space _
    rw [bytes, ofBytes_keyword _ (apart_space _), ofBytes_space, ofBytes_name name.2 (equals _),
      ofBytes_assign, ofValue _ (apart_mark _ (by decide)), ofBytes_mark _ (by decide), spelling]
    simp only [List.cons_append]

theorem spells_result {token : Token} {value : Expr} (canonical : token = .keyword .returnWord)
    (ofValue : Spells value.print value.spelling) (following : List Statement) :
    (result token value).SpellsBefore following := by
  subst canonical
  refine spells_closed ?_ ?_ (fun rest => ?_) following
  · rintro (_ | _) <;> simp [separator]
  · rintro (_ | _) <;> rfl
  · have bytes : sourceBytes (result (.keyword .returnWord) value).print ++ rest =
        sourceBytes Keyword.returnWord.spelling ++ (sourceBytes " " ++
          (sourceBytes value.print ++ (sourceBytes Punctuation.semicolon.symbol ++ rest))) := by
      simp only [print, sourceBytes_append, List.append_assoc]
      rfl
    rw [bytes, ofBytes_keyword _ (apart_space _), ofBytes_space,
      ofValue _ (apart_mark _ (by decide)), ofBytes_mark _ (by decide), spelling]
    simp only [List.cons_append]

theorem spells_expr (token : Token) {value : Expr} (ofValue : Spells value.print value.spelling)
    (following : List Statement) : (expr token value).SpellsBefore following := by
  intro rest apart
  rw [print, spelling]
  cases following with
  | nil =>
      have bytes : sourceBytes (value.print ++ (expr token value).separator []) ++ rest =
          sourceBytes value.print ++ rest := by
        rw [sourceBytes_append, List.append_assoc]
        rfl
      rw [bytes, ofValue _ (apart rfl), terminator, List.append_nil]
  | cons next others =>
      have bytes :
          sourceBytes (value.print ++ (expr token value).separator (next :: others)) ++ rest =
            sourceBytes value.print ++ (sourceBytes Punctuation.semicolon.symbol ++
              (sourceBytes " " ++ rest)) := by
        rw [sourceBytes_append, List.append_assoc]
        rfl
      rw [bytes, ofValue _ (apart_mark _ (by decide)), ofBytes_mark _ (by decide), ofBytes_space,
        List.append_assoc]
      rfl

end Statement

theorem spells_statements_cons {value : Statement} {rest : List Statement}
    (ofValue : value.SpellsBefore rest)
    (ofRest : Spells (printStatements rest) (statementsSpelling rest)) :
    Spells (printStatements (value :: rest)) (statementsSpelling (value :: rest)) := by
  intro after apart
  have inFront : rest = [] → Apart (sourceBytes (printStatements rest) ++ after) := by
    rintro rfl
    rw [printStatements]
    exact apart
  rw [printStatements, sourceBytes_append, List.append_assoc, ofValue _ inFront, ofRest _ apart,
    statementsSpelling]
  simp only [List.append_assoc]

theorem Block.spells_mk {token : Token} {values : List Statement}
    (ofStatements : Spells (printStatements values) (statementsSpelling values)) :
    Spells (Block.mk token values).print (Block.mk token values).spelling := by
  intro rest _
  cases values with
  | nil =>
      have bytes : sourceBytes (Block.mk token []).print ++ rest =
          sourceBytes Punctuation.openBrace.symbol ++ (sourceBytes " " ++
            (sourceBytes Punctuation.closeBrace.symbol ++ rest)) := by
        rw [print]
        rfl
      rw [bytes, ofBytes_mark _ (by decide), ofBytes_space, ofBytes_mark _ (by decide), spelling,
        statementsSpelling]
      rfl
  | cons value others =>
      have bytes : sourceBytes (Block.mk token (value :: others)).print ++ rest =
          sourceBytes Punctuation.openBrace.symbol ++ (sourceBytes " " ++
            (sourceBytes (printStatements (value :: others)) ++ (sourceBytes " " ++
              (sourceBytes Punctuation.closeBrace.symbol ++ rest)))) := by
        rw [print]
        · simp only [sourceBytes_append, List.append_assoc]
          rfl
        · exact List.cons_ne_nil _ _
      rw [bytes, ofBytes_mark _ (by decide), ofBytes_space, ofStatements _ (apart_space _),
        ofBytes_space, ofBytes_mark _ (by decide), spelling]
      simp only [List.cons_append, List.append_assoc, List.nil_append]

mutual

/-- A printed canonical expression reads as its spelling. -/
theorem Expr.spells_print (value : Expr) (canonical : value.Canonical) :
    Spells value.print value.spelling := by
  cases value with
  | ident identifier =>
      rw [Expr.print, Expr.spelling]
      exact Spells.ident canonical.2
  | int token value =>
      rcases canonical with ⟨digits, same, numeral, _⟩
      exact Expr.spells_int same numeral
  | bool token value => exact Expr.spells_bool token value
  | string token text =>
      rw [Expr.print, Expr.spelling]
      exact fun rest _ => ofBytes_string canonical.2 rest
  | unary token operator operand =>
      exact Expr.spells_unary canonical.2.2 (operand.spells_print canonical.2.2)
  | binary token left operator right =>
      rcases canonical with ⟨_, _, ofLeft, ofRight⟩
      exact Expr.spells_binary (left.spells_print ofLeft) (right.spells_print ofRight)
  | conditional token condition consequence alternative =>
      rcases canonical with ⟨_, ofCondition, ofConsequence, ofAlternative⟩
      exact Expr.spells_conditional (condition.spells_print ofCondition)
        (consequence.spells_print ofConsequence) (spells_alternative alternative ofAlternative)
  | function token parameters body =>
      exact Expr.spells_function canonical.2.1 (body.spells_print canonical.2.2)
  | call token callee arguments =>
      exact Expr.spells_call (callee.spells_print canonical.2.1)
        (spells_arguments arguments canonical.2.2)

theorem spells_alternative (alternative : Option Block)
    (canonical : canonicalAlternative alternative) :
    ∀ block ∈ alternative, Spells block.print block.spelling := by
  cases alternative with
  | none => exact fun block none => absurd none (by simp)
  | some block =>
      intro other same
      obtain rfl : block = other := Option.some.inj same
      exact block.spells_print canonical

theorem spells_arguments (values : List Expr) (canonical : canonicalArguments values) :
    List.Forall₂ Spells (printArguments values) (argumentSpellings values) := by
  cases values with
  | nil =>
      rw [printArguments, argumentSpellings]
      exact .nil
  | cons value rest =>
      rw [printArguments, argumentSpellings]
      exact .cons (value.spells_print canonical.1) (spells_arguments rest canonical.2)

theorem Statement.spells_print (value : Statement) (canonical : value.Canonical)
    (following : List Statement) : value.SpellsBefore following := by
  cases value with
  | bind token identifier value =>
      rcases canonical with ⟨same, name, ofValue⟩
      exact Statement.spells_bind same name (value.spells_print ofValue) following
  | result token value =>
      exact Statement.spells_result canonical.1 (value.spells_print canonical.2) following
  | expr token value => exact Statement.spells_expr token (value.spells_print canonical) following

theorem spells_statements (values : List Statement) (canonical : canonicalStatements values) :
    Spells (printStatements values) (statementsSpelling values) := by
  cases values with
  | nil =>
      rw [printStatements, statementsSpelling]
      exact fun rest _ => rfl
  | cons value rest =>
      exact spells_statements_cons (value.spells_print canonical.1 rest)
        (spells_statements rest canonical.2)

theorem Block.spells_print (value : Block) (canonical : value.Canonical) :
    Spells value.print value.spelling := by
  cases value with
  | mk token statements => exact Block.spells_mk (spells_statements statements canonical.2)

end

namespace Program

/-- The lexer reads the spelling of a canonical program off its text. -/
theorem ofSource_print {program : Program} (canonical : program.Canonical) :
    Token.ofSource program.print = statementsSpelling program.statements := by
  have spells := spells_statements program.statements canonical [] apart_nil
  rw [List.append_nil, ofBytes_nil, List.append_nil] at spells
  exact spells

theorem exists_ofSource_print {program : Program} (canonical : program.Canonical) :
    ∃ reading : Program, Program.ofSource program.print = ⟨reading, []⟩ ∧
      (program == reading) = true := by
  rcases statementsWrittenBy_spelling program.statements canonical with ⟨readings, derives, same⟩
  refine ⟨⟨readings⟩, ?_, same⟩
  rw [Program.ofSource, ofSource_print canonical]
  exact parse_of_derives derives

/-- Parsing undoes printing: the text of a canonical program is read without a diagnostic as a
program equal to it. -/
theorem print_roundTrips (program : Program) (canonical : program.Canonical) :
    (Program.ofSource program.print).diagnostics = [] ∧
      (program == (Program.ofSource program.print).program) = true := by
  rcases exists_ofSource_print canonical with ⟨reading, parsed, same⟩
  rw [parsed]
  exact ⟨rfl, same⟩

/-- A function whose body ends in a conditional with an empty alternative, and a call of a call
after a negated group. -/
theorem print_roundTrips_function :
    let name (text : String) : Identifier := .ofToken (.ident text)
    let int (digits : String) (value : Int64) : Expr := .int (.int digits) value
    let less : Expr := .binary (.operator .less) (.ident (name "x")) .less (int "010" 10)
    let text : Statement := .result (.keyword .returnWord) (.string (.string "é;\x7d") "é;\x7d")
    let choice : Expr := .conditional (.keyword .ifWord) less ⟨.punctuation .openBrace, [text]⟩
      (some ⟨.punctuation .openBrace, []⟩)
    let function : Expr := .function (.keyword .fnWord) [name "x", name "y"]
      ⟨.punctuation .openBrace, [.expr .eof choice]⟩
    let call : Expr := .call (.punctuation .openParen) (.ident (name "f")) [int "7" 7, function]
    let program : Program := ⟨[.bind (.keyword .letWord) (name "f") function,
      .expr .eof (.unary (.operator .bang) .bang (.bool (.keyword .trueWord) true)),
      .expr .eof (.call (.punctuation .openParen) call [])]⟩
    program.Canonical ∧ (Program.ofSource program.print).diagnostics = [] ∧
      (program == (Program.ofSource program.print).program) = true := by
  intro name int less text choice function call program
  have named (text : String) (isName : Identifier.IsName text) : (name text).Canonical :=
    ⟨rfl, isName⟩
  have x : (name "x").Canonical :=
    named "x" ⟨by decide, List.all_eq_true.mp (by decide), fun word => by cases word <;> decide⟩
  have y : (name "y").Canonical :=
    named "y" ⟨by decide, List.all_eq_true.mp (by decide), fun word => by cases word <;> decide⟩
  have f : (name "f").Canonical :=
    named "f" ⟨by decide, List.all_eq_true.mp (by decide), fun word => by cases word <;> decide⟩
  have ten : (int "010" 10).Canonical :=
    ⟨"010", rfl, ⟨by decide, List.all_eq_true.mp (by decide)⟩, by decide⟩
  have seven : (int "7" 7).Canonical :=
    ⟨"7", rfl, ⟨by decide, List.all_eq_true.mp (by decide)⟩, by decide⟩
  have ofChoice : choice.Canonical :=
    ⟨rfl, ⟨rfl, by decide, x, ten⟩, ⟨rfl, ⟨rfl, rfl, by decide⟩, trivial⟩, ⟨rfl, trivial⟩⟩
  have ofFunction : function.Canonical :=
    ⟨rfl, by simpa using ⟨x, y⟩, rfl, ofChoice, trivial⟩
  have canonical : program.Canonical :=
    ⟨⟨rfl, f, ofFunction⟩, ⟨rfl, .inl rfl, rfl⟩,
      ⟨rfl, ⟨rfl, f, seven, ofFunction, trivial⟩, trivial⟩, trivial⟩
  exact ⟨canonical, print_roundTrips program canonical⟩

end Program

end Monkey
