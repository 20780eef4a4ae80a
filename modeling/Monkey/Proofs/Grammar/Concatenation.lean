import Monkey.Proofs.Grammar.Recognition

/-!
# Rows of statements one after the other

No expression ends in a semicolon, so the semicolon at the end of a row of statements belongs to the
row. It also keeps the last statement apart from whatever comes next: a row that ends in one and any
row after it are one row.
-/

namespace Monkey

open Phrase

/-- Whether there are tokens and the last of them is no semicolon. -/
def Token.EndOpen (tokens : List Token) : Prop :=
  ∃ front last, tokens = front ++ [last] ∧ last ≠ .punctuation .semicolon

theorem Token.EndOpen.behind {tokens : List Token} (front : List Token) (ends : EndOpen tokens) :
    EndOpen (front ++ tokens) := by
  rcases ends with ⟨before, last, rfl, other⟩
  exact ⟨front ++ before, last, (List.append_assoc _ _ _).symm, other⟩

/-- What the grammar fixes about the last token of a phrase. -/
def Phrase.Closes : Phrase → List Token → Prop
  | expression _ _, tokens => Token.EndOpen tokens
  | statement _, tokens => Token.EndOpen tokens
  | block _, tokens => Token.EndOpen tokens
  | _, _ => True

namespace Phrase.Derives

theorem closes {phrase : Phrase} {tokens : List Token} (derives : phrase.Derives tokens) :
    phrase.Closes tokens := by
  have alone {token : Token} (front : List Token) (other : token ≠ .punctuation .semicolon) :
      Token.EndOpen (front ++ [token]) :=
    ⟨front, token, rfl, other⟩
  -- The tokens of a phrase end as those of its last part do.
  induction derives with
  | tighter _ _ ih => exact ih
  | binary _ _ _ _ _ ihRight => exact (ihRight.behind [_]).behind _
  | unary _ _ ih => exact ih.behind [_]
  | call _ _ _ _ => exact ((alone _ (by decide)).behind [_]).behind _
  | group _ _ => exact (alone _ (by decide)).behind [_]
  | conditional _ _ _ ihConsequence => exact ((ihConsequence.behind [_]).behind _).behind [_, _]
  | alternative _ _ _ _ _ ihAlternative =>
      exact ((((ihAlternative.behind [_]).behind _).behind [_]).behind _).behind [_, _]
  | function _ ih => exact ((ih.behind [_]).behind _).behind [_, _]
  | bind _ ih => exact ih.behind [_, _, _]
  | result _ ih => exact ih.behind [_]
  | expr _ ih => exact ih
  | block _ _ => exact (alone _ (by decide)).behind [_]
  | ident | int | string | trueWord | falseWord => exact alone [] (by rintro ⟨⟩)
  | _ => trivial

/-- A row of statements that ends in a semicolon goes on with any other row. -/
theorem append {first rest : List Statement} {tokens more : List Token}
    (derives : (statements first).Derives tokens)
    (ended : ∀ token ∈ tokens.getLast?, token = .punctuation .semicolon)
    (following : (statements rest).Derives more) :
    (statements (first ++ rest)).Derives (tokens ++ more) := by
  induction first generalizing tokens with
  | nil =>
      cases derives with
      | noStatements => exact following
  | cons value values ih =>
      cases derives with
      | @terminated _ _ valueTokens tokens ofValue ofRest =>
          rw [List.append_assoc, List.cons_append]
          refine .terminated ofValue (ih ofRest fun token member => ended token ?_)
          rw [List.getLast?_append, List.getLast?_cons, Option.mem_def.mp member]
          rfl
      | @unterminated _ _ valueTokens tokens ofValue ofRest apart =>
          cases tokens with
          | nil =>
              rcases ofValue.closes with ⟨front, last, rfl, other⟩
              exact absurd (ended last (by simp)) other
          | cons token tokens =>
              rw [List.append_assoc]
              refine .unterminated ofValue (ih ofRest fun token member => ended token ?_) apart
              rw [List.getLast?_append, Option.mem_def.mp member]
              rfl

/-- Rows of statements that end in semicolons are one row. -/
theorem flatMap {Item : Type} {items : List Item} {values : Item → List Statement}
    {tokens : Item → List Token}
    (derives : ∀ item ∈ items, (statements (values item)).Derives (tokens item))
    (ended : ∀ item ∈ items, ∀ token ∈ (tokens item).getLast?,
      token = .punctuation .semicolon) :
    (statements (items.flatMap values)).Derives (items.flatMap tokens) := by
  induction items with
  | nil => exact .noStatements
  | cons item items ih =>
      rw [List.forall_mem_cons] at derives ended
      exact derives.1.append ended.1 (ih derives.2 ended.2)

end Phrase.Derives

end Monkey
