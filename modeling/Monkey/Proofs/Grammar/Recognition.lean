import Monkey.Proofs.Grammar.Completeness

/-!
# The parser recognizes its grammar

A token list without an end mark is read as a program, and without a diagnostic, exactly if it
derives from the grammar with that program as its tree. So the grammar is unambiguous, and the
order in which the readers climb through the strata of operators cannot be seen in the trees.
-/

namespace Monkey

open Phrase

/-- A program that is read without a diagnostic derives from the tokens before the first end
mark. -/
theorem Program.exists_derives_of_parse {tokens : List Token} {program : Program}
    (accepted : Program.parse tokens = ⟨program, []⟩) :
    ∃ front rest, tokens = front ++ rest ∧ rest.headD .eof = .eof ∧
      (Phrase.statements program.statements).Derives front := by
  unfold Program.parse at accepted
  cases outcome : Program.parseStatements (Program.parseBudget tokens) ⟨tokens, []⟩ with
  | parsed values cursor =>
      rw [outcome] at accepted
      rcases Reading.mk.inj accepted with ⟨rfl, quiet⟩
      have meets := reads_parseStatements (Program.parseBudget tokens) ⟨tokens, []⟩
      rw [outcome] at meets
      rcases meets.2 quiet with ⟨ended, front, split, derives⟩
      exact ⟨front, cursor.remaining, split, ended, derives⟩
  | failed cursor =>
      rw [outcome] at accepted
      have meets := reads_parseStatements (Program.parseBudget tokens) ⟨tokens, []⟩
      rw [outcome] at meets
      exact absurd (Reading.mk.inj accepted).2 meets.2
  | unfinished => exact absurd outcome (parseStatements_budget tokens [])

theorem Program.derives_of_parse {tokens : List Token} (noEnd : .eof ∉ tokens) {program : Program}
    (accepted : Program.parse tokens = ⟨program, []⟩) :
    (Phrase.statements program.statements).Derives tokens := by
  rcases exists_derives_of_parse accepted with ⟨front, rest, rfl, ended, derives⟩
  cases rest with
  | nil => rwa [List.append_nil]
  | cons first rest =>
      obtain rfl : first = .eof := ended
      simp at noEnd

theorem Program.parse_of_derives {tokens : List Token} {program : Program}
    (derives : (Phrase.statements program.statements).Derives tokens) :
    Program.parse tokens = ⟨program, []⟩ := by
  have enough : 8 * tokens.length + 5 ≤ Program.parseBudget tokens := by
    unfold Program.parseBudget
    omega
  unfold Program.parse
  rw [derives.isRead.2 _ [] enough]

/-- A token list is read as a program without a diagnostic exactly if it derives from the grammar
with that program as its tree. -/
theorem Program.parse_eq_iff_derives {tokens : List Token} (noEnd : .eof ∉ tokens)
    (program : Program) :
    Program.parse tokens = ⟨program, []⟩ ↔
      (Phrase.statements program.statements).Derives tokens :=
  ⟨derives_of_parse noEnd, parse_of_derives⟩

/-- The tokens of `a - b * -c(d)` and of `!e` right after it are two statements. -/
theorem Program.derives_two_statements :
    let minus : Token := .operator .minus
    let name (text : String) : Expr := .ident (.ofToken (.ident text))
    let tokens : List Token := [.ident "a", minus, .ident "b", .operator .asterisk, minus,
      .ident "c", .punctuation .openParen, .ident "d", .punctuation .closeParen, .operator .bang,
      .ident "e"]
    let call : Expr := .call (.punctuation .openParen) (name "c") [name "d"]
    let product : Expr :=
      .binary (.operator .asterisk) (name "b") .asterisk (.unary minus .minus call)
    .eof ∉ tokens ∧
      (Phrase.statements
        [.expr (.ident "a") (.binary minus (name "a") .minus product),
          .expr (.operator .bang) (.unary (.operator .bang) .bang (name "e"))]).Derives tokens := by
  intro minus name tokens call product
  have noEnd : .eof ∉ tokens := by decide
  exact ⟨noEnd, (Program.parse_eq_iff_derives noEnd ⟨_⟩).mp rfl⟩

end Monkey
