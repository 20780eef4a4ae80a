import Monkey.Proofs.Grammar.Concatenation
import Monkey.Proofs.Grammar.Lockstep

/-!
# Local recovery

A program is read one statement at a time, and what is wrong with a statement is over at the
semicolon that ends it: what stands behind the semicolon is read as if it stood alone. A malformed
statement that no semicolon ends is skipped up to the end mark, and the reading goes on behind it.
-/

namespace Monkey

open Parse

/-- What a row of statements and another one after it read as, each read for itself. -/
def Reading.append (first second : Reading) : Reading :=
  ⟨⟨first.program.statements ++ second.program.statements⟩,
    first.diagnostics ++ second.diagnostics⟩

theorem Reading.append_assoc (first second third : Reading) :
    (first.append second).append third = first.append (second.append third) := by
  simp [append]

/-! ## One statement at a time -/

namespace Statement

/-- Reads a statement, or skips a malformed one up to a token that ends it. -/
def parseOrSkip (ends : Token → Bool) (budget : Nat) : Parse (List Statement) := do
  match ← attempt (Statement.parse budget) with
  | some statement => return [statement]
  | none =>
      skipTo ends
      return []

variable {ends : Token → Bool} {budget : Nat} {start stop : Cursor}

theorem parseOrSkip_of_parsed {value : Statement}
    (parsed : Statement.parse budget start = .parsed value stop) :
    parseOrSkip ends budget start = .parsed [value] stop := by
  have attempted : attempt (Statement.parse budget) start = .parsed (some value) stop := by
    rw [attempt, parsed]
  rw [parseOrSkip, bind_of_parsed attempted]
  rfl

theorem parseOrSkip_of_failed (failed : Statement.parse budget start = .failed stop) :
    parseOrSkip ends budget start = .parsed [] (stop.skipTo ends) := by
  have attempted : attempt (Statement.parse budget) start = .parsed none stop := by
    rw [attempt, failed]
  rw [parseOrSkip, bind_of_parsed attempted]
  rfl

theorem inStep_parseOrSkip {alike : List Token → List Token → Prop} (pairs : Token.Alike alike)
    {before : List Diagnostic} {ends ends' : Token → Bool}
    (skips : InStep alike before Anywhere Anywhere (skipTo ends) (skipTo ends'))
    (budget budget' : Nat) :
    InStep alike before Anywhere Anywhere (parseOrSkip ends budget)
      (parseOrSkip ends' budget') := by
  unfold parseOrSkip
  refine .bind (.attempt (lockstep pairs before budget budget').statement) fun attempted => ?_
  split
  · exact .pure fun _ holds => holds
  · exact .bind skips fun _ => .pure fun _ holds => holds

/-- Reading a statement or skipping one ends, and leaves no more tokens than there were. -/
theorem exists_parseOrSkip (ends : Token → Bool) (budget : Nat) (start : Cursor)
    (enough : 8 * start.remaining.length + 4 ≤ budget) :
    ∃ first stop, parseOrSkip ends budget start = .parsed first stop ∧
      stop.remaining.length ≤ start.remaining.length := by
  have leaves := (endsWithin budget).statement enough start (Nat.le_refl _)
  cases outcome : Statement.parse budget start with
  | parsed value stop =>
      rw [outcome] at leaves
      exact ⟨[value], stop, parseOrSkip_of_parsed outcome, leaves⟩
  | failed stop =>
      rw [outcome] at leaves
      refine ⟨[], _, parseOrSkip_of_failed outcome, ?_⟩
      exact Nat.le_trans (List.dropWhile_sublist _).length_le leaves
  | unfinished =>
      rw [outcome] at leaves
      exact leaves.elim

end Statement

namespace Program

/-- Before the end a program is read by its first statement, malformed or not, and then by the
rest. -/
theorem parseStatements_succ (budget : Nat) {token : Token} (tokens : List Token)
    (diagnostics : List Diagnostic) (more : token ≠ .eof) :
    Program.parseStatements (budget + 1) ⟨token :: tokens, diagnostics⟩ = (do
      let first ← Statement.parseOrSkip Token.endsStatement budget
      advance
      let rest ← Program.parseStatements budget
      return first ++ rest) ⟨token :: tokens, diagnostics⟩ := by
  rw [Program.parseStatements, current_bind, List.headD_cons]
  split
  · exact absurd rfl more
  · rw [Statement.parseOrSkip, Parse.bind_assoc]
    refine congrFun (bind_congr fun attempted => ?_) _
    cases attempted with
    | some value => rfl
    | none =>
        rw [Parse.bind_assoc]
        refine bind_congr fun _ => funext fun start => ?_
        change Program.parseStatements budget start.advance =
          Parse.bind (Program.parseStatements budget) _ start.advance
        unfold Parse.bind
        cases Program.parseStatements budget start.advance <;> rfl

theorem inStep_parseStatements (before : List Diagnostic) (budget budget' : Nat) :
    InStep Eq before Anywhere Anywhere (Program.parseStatements budget)
      (Program.parseStatements budget') := by
  have pairs := Token.alike_eq
  induction budget generalizing budget' with
  | zero => exact .unfinished_left _
  | succ budget ih =>
      cases budget' with
      | zero => exact .unfinished_right _
      | succ budget' =>
          unfold Program.parseStatements
          refine .current_bind pairs fun token => ?_
          split
          · exact .pure fun _ _ => trivial
          · have statement := (lockstep pairs before budget budget').statement
            refine .bind (.attempt (statement.weaken fun _ _ => trivial)) fun attempted => ?_
            split
            · refine .advance_onward Token.onward_eq (.bind (ih budget') fun _ => ?_)
              exact .pure fun _ holds => holds
            · refine .bind (.skipTo pairs fun _ ends => ends) fun _ => ?_
              exact .advance_onward Token.onward_eq (ih budget')

theorem exists_parseStatements (budget : Nat) (start : Cursor)
    (enough : 8 * start.remaining.length + 5 ≤ budget) :
    ∃ values stop, Program.parseStatements budget start = .parsed values stop := by
  induction budget generalizing start with
  | zero => omega
  | succ budget ih =>
      rcases start with ⟨_ | ⟨token, tokens⟩, diagnostics⟩
      · exact ⟨[], _, rfl⟩
      by_cases ended : token = .eof
      · subst ended
        exact ⟨[], _, rfl⟩
      · rw [List.length_cons] at enough
        rcases Statement.exists_parseOrSkip Token.endsStatement budget
          ⟨token :: tokens, diagnostics⟩ (by rw [List.length_cons]; omega) with
          ⟨first, stop, read, fewer⟩
        have few : 8 * stop.advance.remaining.length + 5 ≤ budget := by
          rw [Cursor.advance, List.length_tail]
          rw [List.length_cons] at fewer
          omega
        rcases ih _ few with ⟨values, last, parsed⟩
        rw [parseStatements_succ _ _ _ ended, bind_of_parsed read]
        exact ⟨first ++ values, last, bind_of_parsed parsed⟩

/-- A program reads the same whatever was read before, and with any budget that suffices. -/
theorem parseStatements_eq {budget : Nat} (tokens : List Token) (diagnostics : List Diagnostic)
    (enough : 8 * tokens.length + 5 ≤ budget) :
    ∃ stop, Program.parseStatements budget ⟨tokens, diagnostics⟩ =
        .parsed (Program.parse tokens).program.statements stop ∧
      stop.diagnostics = diagnostics ++ (Program.parse tokens).diagnostics := by
  have enough' : 8 * tokens.length + 5 ≤ parseBudget tokens := by
    unfold parseBudget
    omega
  rcases exists_parseStatements budget ⟨tokens, diagnostics⟩ enough with ⟨near, stop, parsed⟩
  rcases exists_parseStatements _ ⟨tokens, []⟩ enough' with ⟨far, stop', parsed'⟩
  have follows := inStep_parseStatements diagnostics budget (parseBudget tokens)
    ⟨tokens, diagnostics⟩ ⟨tokens, []⟩ ⟨rfl, (List.append_nil _).symm⟩ trivial
  rw [parsed, parsed'] at follows
  rcases follows with ⟨rfl, abreast, _⟩
  rw [Program.parse, parsed']
  exact ⟨stop, parsed, abreast.diagnostics⟩

theorem parse_nil : Program.parse [] = ⟨⟨[]⟩, []⟩ :=
  rfl

/-- A program reads as its first statement and then as what the tokens after it read as. -/
theorem parse_eq_append {budget : Nat} {tokens : List Token} {first : List Statement}
    {stop : Cursor} (more : tokens.headD .eof ≠ .eof)
    (read : Statement.parseOrSkip Token.endsStatement budget ⟨tokens, []⟩ = .parsed first stop) :
    Program.parse tokens =
      Reading.append ⟨⟨first⟩, stop.diagnostics⟩ (Program.parse stop.remaining.tail) := by
  cases tokens with
  | nil => exact absurd rfl more
  | cons token tokens =>
      have real : token ≠ .eof := more
      have budget_eq : parseBudget (token :: tokens) = 8 * tokens.length + 15 + 1 := by
        rw [parseBudget, List.length_cons]
        omega
      rcases Statement.exists_parseOrSkip Token.endsStatement (8 * tokens.length + 15)
        ⟨token :: tokens, []⟩ (by rw [List.length_cons]; omega) with
        ⟨first', stop', read', fewer⟩
      have skips : InStep Eq [] Anywhere Anywhere (skipTo Token.endsStatement)
          (skipTo Token.endsStatement) := .skipTo Token.alike_eq fun _ ends => ends
      have follows := Statement.inStep_parseOrSkip Token.alike_eq skips budget
        (8 * tokens.length + 15) ⟨token :: tokens, []⟩ ⟨token :: tokens, []⟩ ⟨rfl, rfl⟩ trivial
      rw [read, read'] at follows
      rcases follows with ⟨rfl, ⟨remaining, diagnostics⟩, _⟩
      have few : 8 * stop'.remaining.tail.length + 5 ≤ 8 * tokens.length + 15 := by
        rw [List.length_tail]
        rw [List.length_cons] at fewer
        omega
      rcases parseStatements_eq stop'.remaining.tail stop'.diagnostics few with
        ⟨last, parsed, diagnostics'⟩
      have whole : Program.parseStatements (parseBudget (token :: tokens)) ⟨token :: tokens, []⟩ =
          .parsed (first ++ (Program.parse stop'.remaining.tail).program.statements) last := by
        rw [budget_eq, parseStatements_succ _ _ _ real, bind_of_parsed read']
        exact bind_of_parsed parsed
      rw [Program.parse, whole, remaining, diagnostics]
      simp [Reading.append, diagnostics']

end Program

/-! ## Behind a semicolon -/

/-- Whether a row of tokens ends in a semicolon, or what stands behind it cannot continue a
statement. -/
def Token.Parted (tokens rest : List Token) : Prop :=
  (∀ token ∈ tokens.getLast?, token = .punctuation .semicolon) ∨
    (rest.headD .eof).continuesStatement = false ∧ rest.headD .eof ≠ .keyword .elseWord

theorem Token.Parted.of_suffix {tokens last rest : List Token} (parted : Token.Parted tokens rest)
    (suffix : last <:+ tokens) : Token.Parted last rest := by
  rcases suffix with ⟨front, rfl⟩
  refine parted.imp_left fun ended token member => ended token ?_
  rw [List.getLast?_append, Option.mem_def.mp member]
  rfl

/-- Whether two token lists are the same part of a row of tokens, the first one with given tokens
behind it and the second one with a mark. -/
def Token.SharesRow (row left : List Token) (mark : Token) : List Token → List Token → Prop :=
  fun near far => ∃ front, front <:+ row ∧ near = front ++ left ∧ far = front ++ [mark]

section SharesRow

variable {row left : List Token} {mark : Token} (begins : left.headD .eof = mark)
  (ended : mark.endsStatement = true)

include begins ended

theorem Token.alike_sharesRow (noBlock : .punctuation .openBrace ∉ row) :
    Token.Alike (Token.SharesRow row left mark) where
  head := by
    rintro _ _ ⟨_ | ⟨first, front⟩, _, rfl, rfl⟩
    · exact begins
    · rfl
  tail := by
    rintro _ _ ⟨_ | ⟨first, front⟩, suffix, rfl, rfl⟩ inside
    · rw [begins, ended] at inside
      cases inside
    · exact ⟨front, (List.suffix_cons first front).trans suffix, rfl, rfl⟩
  onward := by
    rintro _ _ ⟨_ | ⟨first, front⟩, suffix, rfl, rfl⟩ opens
    · rw [begins.symm.trans opens] at ended
      cases ended
    · obtain rfl : first = .punctuation .openBrace := opens
      exact absurd (suffix.subset List.mem_cons_self) noBlock

/-- Two searches that tell the tokens of a row and the mark alike end alike. -/
theorem Token.inStep_skipTo_sharesRow {ends : Token → Bool}
    (agree : ∀ token, token ∈ row ∨ token = mark → ends token = token.endsStatement)
    (before : List Diagnostic) :
    InStep (Token.SharesRow row left mark) before Anywhere Anywhere (skipTo ends)
      (skipTo Token.endsStatement) := by
  rintro ⟨_, _⟩ ⟨_, diagnostics⟩ ⟨⟨front, suffix, rfl, rfl⟩, rfl⟩ _
  refine ⟨rfl, ⟨?_, rfl⟩, trivial⟩
  induction front with
  | nil =>
      have stops : ends mark = true := (agree mark (.inr rfl)).trans ended
      refine ⟨[], suffix, ?_, by simp [Cursor.skipTo, ended]⟩
      cases left with
      | nil => rfl
      | cons first rest =>
          obtain rfl : first = mark := begins
          simp [Cursor.skipTo, stops]
  | cons token front ih =>
      have told := agree token (.inl (suffix.subset List.mem_cons_self))
      cases found : ends token with
      | true =>
          refine ⟨token :: front, suffix, ?_, ?_⟩
          · simp [Cursor.skipTo, found]
          · simp [Cursor.skipTo, ← told, found]
      | false =>
          have onward := ih ((List.suffix_cons token front).trans suffix) trivial
          simpa [Cursor.skipTo, ← told, found] using onward

end SharesRow

/-- The first statement of a row without a block is read, or skipped, up to the mark behind the row
at the most, whatever follows the mark and whatever was read before. -/
theorem Statement.exists_parseOrSkip_row {row : List Token}
    (noBlock : .punctuation .openBrace ∉ row) (mark : Token) (ended : mark.endsStatement = true) :
    ∃ first front reported, front <:+ row ∧ ∀ left, left.headD .eof = mark →
      ∀ ends : Token → Bool,
        (∀ token, token ∈ row ∨ token = mark → ends token = token.endsStatement) →
          ∀ budget diagnostics, 8 * (row.length + left.length) + 4 ≤ budget →
            Statement.parseOrSkip ends budget ⟨row ++ left, diagnostics⟩ =
              .parsed first ⟨front ++ left, diagnostics ++ reported⟩ := by
  let budget' := 8 * (row ++ [mark]).length + 4
  rcases Statement.exists_parseOrSkip Token.endsStatement budget' ⟨row ++ [mark], []⟩
    (Nat.le_refl _) with ⟨first, ⟨remaining, reported⟩, alone, _⟩
  have reads (left : List Token) (begins : left.headD .eof = mark) (ends : Token → Bool)
      (agree : ∀ token, token ∈ row ∨ token = mark → ends token = token.endsStatement)
      (budget : Nat) (diagnostics : List Diagnostic)
      (enough : 8 * (row.length + left.length) + 4 ≤ budget) :
      ∃ front, front <:+ row ∧ remaining = front ++ [mark] ∧
        Statement.parseOrSkip ends budget ⟨row ++ left, diagnostics⟩ =
          .parsed first ⟨front ++ left, diagnostics ++ reported⟩ := by
    rcases Statement.exists_parseOrSkip ends budget ⟨row ++ left, diagnostics⟩
      (by rw [List.length_append]; omega) with ⟨first', ⟨tokens, last⟩, read, _⟩
    have skips := Token.inStep_skipTo_sharesRow begins ended agree diagnostics
    have follows := Statement.inStep_parseOrSkip (Token.alike_sharesRow begins ended noBlock) skips
      budget budget' ⟨row ++ left, diagnostics⟩ ⟨row ++ [mark], []⟩
      ⟨⟨row, List.suffix_refl _, rfl, rfl⟩, (List.append_nil _).symm⟩ trivial
    rw [alone, read] at follows
    rcases follows with ⟨rfl, ⟨⟨front, suffix, rfl, rfl⟩, rfl⟩, _⟩
    exact ⟨front, suffix, rfl, read⟩
  rcases reads [mark] rfl _ (fun _ _ => rfl) _ [] (Nat.le_refl _) with ⟨front, suffix, rfl, _⟩
  refine ⟨first, front, reported, suffix, ?_⟩
  intro left begins ends agree budget diagnostics enough
  rcases reads left begins ends agree budget diagnostics enough with ⟨front', _, same, read⟩
  rwa [List.append_cancel_right same]

theorem Token.headD_row_ne {row : List Token} {token : Token} (stranger : token ∉ row)
    (other : token ≠ .punctuation .semicolon) (rest : List Token) :
    (row ++ .punctuation .semicolon :: rest).headD .eof ≠ token := by
  cases row with
  | nil => exact other.symm
  | cons first row =>
      rintro rfl
      exact stranger List.mem_cons_self

namespace Program

/-- What is wrong in a row of tokens without a block is over at the semicolon after it. -/
theorem parse_row_append {row : List Token} (noEnd : .eof ∉ row)
    (noBlock : .punctuation .openBrace ∉ row) (rest : List Token) :
    Program.parse (row ++ .punctuation .semicolon :: rest) =
      (Program.parse (row ++ [.punctuation .semicolon])).append (Program.parse rest) := by
  rcases Statement.exists_parseOrSkip_row noBlock (.punctuation .semicolon) rfl with
    ⟨first, front, reported, suffix, reads⟩
  have read (rest : List Token) := reads (.punctuation .semicolon :: rest) rfl Token.endsStatement
    (fun _ _ => rfl) _ [] (Nat.le_refl _)
  rw [parse_eq_append (Token.headD_row_ne noEnd (by simp) rest) (read rest),
    parse_eq_append (Token.headD_row_ne noEnd (by simp) []) (read [])]
  cases front with
  | nil => simp [Reading.append, parse_nil]
  | cons token front =>
      have shorter : front.length < row.length := suffix.length_le
      have inside : front ⊆ row := List.Subset.trans (List.subset_cons_self _ _) suffix.subset
      have ih := parse_row_append (fun member => noEnd (inside member))
        (fun member => noBlock (inside member)) rest
      simp only [List.cons_append, List.tail_cons, ih, Reading.append_assoc]
termination_by row.length

/-- A row of statements is read up to its end if what stands behind it cannot be taken for a part
of it. -/
theorem parse_derives_append {values : List Statement} {tokens : List Token}
    (derives : (Phrase.statements values).Derives tokens) {rest : List Token}
    (parted : Token.Parted tokens rest) :
    Program.parse (tokens ++ rest) = Reading.append ⟨⟨values⟩, []⟩ (Program.parse rest) := by
  induction values generalizing tokens with
  | nil =>
      cases derives with
      | noStatements => rfl
  | cons value values ih =>
      have begins {valueTokens : List Token}
          (ofValue : (Phrase.statement value).Derives valueTokens) (others : List Token) :
          (valueTokens ++ others).headD .eof ≠ .eof := by
        rcases ofValue.opens with ⟨first, _, rfl, starts⟩
        rintro rfl
        cases starts
      cases derives with
      | @terminated _ _ valueTokens tokens ofValue ofRest =>
          have suffix := (List.suffix_cons _ _).trans
            (List.suffix_append valueTokens (.punctuation .semicolon :: tokens))
          have read := (ofValue.isRead _ (.punctuation .semicolon :: (tokens ++ rest)) []
            (Nat.le_refl _)).1 rfl
          rw [List.append_assoc, List.cons_append,
            parse_eq_append (begins ofValue _) (Statement.parseOrSkip_of_parsed read)]
          simp only [List.tail_cons, ih ofRest (parted.of_suffix suffix)]
          rfl
      | @unterminated _ _ valueTokens tokens ofValue ofRest apart =>
          have next : ((tokens ++ rest).headD .eof).continuesStatement = false ∧
              (tokens ++ rest).headD .eof ≠ .keyword .elseWord := by
            cases tokens with
            | nil =>
                refine parted.resolve_left fun ended => ?_
                rcases ofValue.closes with ⟨front, last, rfl, other⟩
                exact other (ended last (by simp))
            | cons token tokens =>
                refine ⟨apart token rfl, ?_⟩
                rintro rfl
                cases ofRest.opens _ rfl
          rcases (ofValue.isRead _ (tokens ++ rest) [] (Nat.le_refl _)).2 next.1 next.2 with
            ⟨last, read⟩
          have parted' := parted.of_suffix (List.suffix_append valueTokens tokens)
          rw [List.append_assoc,
            parse_eq_append (begins ofValue _) (Statement.parseOrSkip_of_parsed read)]
          simp only [List.tail_cons, ih ofRest parted']
          rfl

end Program

/-! ## Behind the end mark -/

namespace Program

theorem parse_eof (rest : List Token) : Program.parse (.eof :: rest) = ⟨⟨[]⟩, []⟩ :=
  rfl

theorem parse_derives_eof {values : List Statement} {tokens : List Token}
    (derives : (Phrase.statements values).Derives tokens) {rest : List Token}
    (ended : rest.headD .eof = .eof) : Program.parse (tokens ++ rest) = ⟨⟨values⟩, []⟩ := by
  have parted : Token.Parted tokens rest := by
    refine .inr ?_
    rw [ended]
    exact ⟨rfl, by decide⟩
  rw [parse_derives_append derives parted]
  cases rest with
  | nil => simp [Reading.append, parse_nil]
  | cons token rest =>
      obtain rfl : token = .eof := ended
      simp [Reading.append, parse_eof]

/-- A row of tokens without a block decides whether what stands behind the end mark after it is
left out, or read as if it stood alone since a malformed statement was skipped up to the mark. -/
theorem parse_row_eof {row : List Token} (noEnd : .eof ∉ row)
    (noBlock : .punctuation .openBrace ∉ row) :
    (∀ rest, Program.parse (row ++ .eof :: rest) = Program.parse row) ∨
      ∀ rest, Program.parse (row ++ .eof :: rest) =
        (Program.parse row).append (Program.parse rest) := by
  by_cases empty : row = []
  · subst empty
    exact .inl parse_eof
  have more (rest : List Token) : (row ++ rest).headD .eof ≠ .eof := by
    cases row with
    | nil => exact absurd rfl empty
    | cons token row =>
        rintro rfl
        exact noEnd List.mem_cons_self
  rcases Statement.exists_parseOrSkip_row noBlock .eof rfl with
    ⟨first, front, reported, suffix, reads⟩
  have whole := parse_eq_append (more [])
    (reads [] rfl Token.endsStatement (fun _ _ => rfl) _ [] (Nat.le_refl _))
  have marked (rest : List Token) := parse_eq_append (more (.eof :: rest))
    (reads (.eof :: rest) rfl Token.endsStatement (fun _ _ => rfl) _ [] (Nat.le_refl _))
  simp only [List.append_nil] at whole
  cases front with
  | nil =>
      refine .inr fun rest => ?_
      rw [marked rest, whole]
      simp [Reading.append, parse_nil]
  | cons token front =>
      have shorter : front.length < row.length := suffix.length_le
      have inside : front ⊆ row := List.Subset.trans (List.subset_cons_self _ _) suffix.subset
      rcases parse_row_eof (fun member => noEnd (inside member))
        (fun member => noBlock (inside member)) with same | onward
      · refine .inl fun rest => ?_
        rw [marked rest, whole, List.cons_append, List.tail_cons, same rest]
        rfl
      · refine .inr fun rest => ?_
        rw [marked rest, whole, List.cons_append, List.tail_cons, onward rest,
          Reading.append_assoc]
        rfl
termination_by row.length

/-- Nothing behind an end mark is read if what stands before it is well-formed, or has no block and
ends in a semicolon. Any other row without a block decides whether what stands behind the mark is
left out or read as if it stood alone. -/
theorem parse_marked (tokens : List Token) :
    ((Program.parse tokens).diagnostics = [] →
      ∀ rest, Program.parse (tokens ++ .eof :: rest) = Program.parse tokens) ∧
    (.eof ∉ tokens → .punctuation .openBrace ∉ tokens →
      ((∀ rest, Program.parse (tokens ++ .eof :: rest) = Program.parse tokens) ∨
        ∀ rest, Program.parse (tokens ++ .eof :: rest) =
          (Program.parse tokens).append (Program.parse rest)) ∧
      (tokens.getLast? = some (.punctuation .semicolon) →
        ∀ rest, Program.parse (tokens ++ .eof :: rest) = Program.parse tokens)) := by
  refine ⟨fun quiet rest => ?_, fun noEnd noBlock => ⟨parse_row_eof noEnd noBlock, ?_⟩⟩
  · have accepted : Program.parse tokens = ⟨(Program.parse tokens).program, []⟩ := by
      rw [← quiet]
    rcases exists_derives_of_parse accepted with ⟨front, others, split, ended, derives⟩
    have ended' : (others ++ .eof :: rest).headD .eof = .eof := by
      cases others with
      | nil => rfl
      | cons token others => exact ended
    have read := parse_derives_eof derives ended'
    rw [← List.append_assoc, ← split] at read
    exact read.trans accepted.symm
  · intro last rest
    rcases List.getLast?_eq_some_iff.mp last with ⟨row, rfl⟩
    have reads := parse_row_append (fun member => noEnd (List.mem_append_left _ member))
      (fun member => noBlock (List.mem_append_left _ member)) (.eof :: rest)
    rw [List.append_assoc, List.singleton_append, reads, parse_eof]
    simp [Reading.append]

/-- Behind a name nothing is read, behind a sign that starts no statement a name is, and behind the
sign with a semicolon nothing again. -/
theorem parse_marked_sign :
    let name : List Token := [.ident "a"]
    let sign : List Token := [.operator .plus]
    let ended : List Token := sign ++ [.punctuation .semicolon]
    Program.parse (name ++ .eof :: sign) = Program.parse name ∧
      Program.parse (sign ++ .eof :: name) = (Program.parse sign).append (Program.parse name) ∧
      Program.parse (ended ++ .eof :: name) = Program.parse ended := by
  intro name sign ended
  refine ⟨(parse_marked name).1 rfl sign, ?_, ?_⟩
  · rcases ((parse_marked sign).2 (by decide) (by decide)).1 with same | onward
    · have lengths := congrArg (fun reading => reading.program.statements.length) (same name)
      exact absurd lengths (by decide)
    · exact onward name
  · exact ((parse_marked ended).2 (by decide) (by decide)).2 rfl name

/-- The end mark does not always end the reading: `+` is skipped up to it, and the number behind it
is read. -/
theorem parse_past_end :
    Program.parse ([.operator .plus] ++ [.eof] ++ [.int "1"]) =
        ⟨⟨[.expr (.int "1") (.int (.int "1") 1)]⟩, [.noExpression (.operator .plus)]⟩ ∧
      Program.parse [.operator .plus] = ⟨⟨[]⟩, [.noExpression (.operator .plus)]⟩ :=
  ⟨rfl, rfl⟩

end Program

/-! ## Within a block -/

namespace Block

/-- Before its end a block is read by its first statement and then by the rest, unless the first
statement is malformed and the block ends with it. -/
theorem parseStatements_succ {budget : Nat} {tokens remaining : List Token}
    {diagnostics reported : List Diagnostic} {first : List Statement}
    (notClose : tokens.headD .eof ≠ .punctuation .closeBrace) (notEnd : tokens.headD .eof ≠ .eof)
    (read : Statement.parseOrSkip Token.endsStatementOfBlock budget ⟨tokens, diagnostics⟩ =
      .parsed first ⟨remaining, reported⟩)
    (onward : remaining.headD .eof ≠ .punctuation .closeBrace) :
    Block.parseStatements (budget + 1) ⟨tokens, diagnostics⟩ =
      (Block.parseStatements budget >>= fun rest => pure (first ++ rest))
        ⟨remaining.tail, reported⟩ := by
  rw [Block.parseStatements, current_bind]
  generalize tokens.headD .eof = token at notClose notEnd
  split
  · exact absurd rfl notClose
  · exact absurd rfl notEnd
  · cases outcome : Statement.parse budget ⟨tokens, diagnostics⟩ with
    | parsed value cursor =>
        cases read.symm.trans (Statement.parseOrSkip_of_parsed outcome)
        have attempted : attempt (Statement.parse budget) ⟨tokens, diagnostics⟩ =
            .parsed (some value) ⟨remaining, reported⟩ := by
          rw [attempt, outcome]
        rw [bind_of_parsed attempted]
        rfl
    | failed cursor =>
        have same := read.symm.trans (Statement.parseOrSkip_of_failed outcome)
        obtain ⟨rfl, skips⟩ := Outcome.parsed.inj same
        have skipped : skipTo Token.endsStatementOfBlock cursor =
            .parsed () ⟨remaining, reported⟩ :=
          congrArg (Outcome.parsed ()) skips.symm
        have attempted : attempt (Statement.parse budget) ⟨tokens, diagnostics⟩ =
            .parsed none cursor := by
          rw [attempt, outcome]
        simp only [bind_of_parsed attempted, bind_of_parsed skipped, current_bind, advance_bind]
        change _ = Parse.bind (Block.parseStatements budget) _ _
        unfold Parse.bind
        cases Block.parseStatements budget _ <;> rfl
    | unfinished =>
        change Parse.bind (attempt (Statement.parse budget)) _ _ = _ at read
        rw [Parse.bind, attempt, outcome] at read
        cases read

/-- What is wrong in a row without braces is over at the semicolon after it, in a block as in a
program. -/
theorem parseStatements_row {row rest stop : List Token} {values : List Statement}
    (noEnd : .eof ∉ row) (noOpen : .punctuation .openBrace ∉ row)
    (noClose : .punctuation .closeBrace ∉ row)
    (readRest : ∀ budget diagnostics, 8 * rest.length + 5 ≤ budget →
      Block.parseStatements budget ⟨rest, diagnostics⟩ = .parsed values ⟨stop, diagnostics⟩)
    (budget : Nat) (diagnostics : List Diagnostic)
    (enough : 8 * (row.length + rest.length) + 13 ≤ budget) :
    Block.parseStatements budget ⟨row ++ .punctuation .semicolon :: rest, diagnostics⟩ =
      .parsed ((Program.parse (row ++ [.punctuation .semicolon])).program.statements ++ values)
        ⟨stop, diagnostics ++ (Program.parse (row ++ [.punctuation .semicolon])).diagnostics⟩ := by
  rcases budget with _ | budget
  · omega
  have agree (token : Token) (inside : token ∈ row ∨ token = .punctuation .semicolon) :
      token.endsStatementOfBlock = token.endsStatement := by
    have other : token ≠ .punctuation .closeBrace := by
      rintro rfl
      exact inside.elim noClose (by simp)
    rw [Token.endsStatementOfBlock, beq_eq_false_iff_ne.mpr other, Bool.or_false]
  rcases Statement.exists_parseOrSkip_row noOpen (.punctuation .semicolon) rfl with
    ⟨first, front, reported, suffix, reads⟩
  have alone := reads [.punctuation .semicolon] rfl _ (fun _ _ => rfl) _ [] (Nat.le_refl _)
  have read := reads (.punctuation .semicolon :: rest) rfl _ agree budget diagnostics
    (by rw [List.length_cons]; omega)
  rw [Program.parse_eq_append (Token.headD_row_ne noEnd (by simp) []) alone,
    parseStatements_succ (Token.headD_row_ne noClose (by simp) rest)
      (Token.headD_row_ne noEnd (by simp) rest) read
      (Token.headD_row_ne (fun member => noClose (suffix.subset member)) (by simp) rest)]
  cases front with
  | nil =>
      simp only [List.nil_append, List.tail_cons, Program.parse_nil, Reading.append,
        List.append_nil]
      exact bind_of_parsed (readRest budget _ (by omega))
  | cons token front =>
      have shorter : front.length < row.length := suffix.length_le
      have inside : front ⊆ row := List.Subset.trans (List.subset_cons_self _ _) suffix.subset
      have ih := parseStatements_row (fun member => noEnd (inside member))
        (fun member => noOpen (inside member)) (fun member => noClose (inside member)) readRest
        budget (diagnostics ++ reported) (by omega)
      simp only [List.cons_append, List.tail_cons, Reading.append, List.append_assoc] at ih ⊢
      exact bind_of_parsed ih
termination_by row.length

end Block

/-- A function without parameters whose body is read up to the brace at the end. -/
theorem Expr.parse_function {body : List Token} {values : List Statement}
    {reported : List Diagnostic} {budget : Nat}
    (read : Block.parseStatements budget ⟨body, []⟩ =
      .parsed values ⟨[.punctuation .closeBrace], reported⟩) :
    Expr.parse (budget + 4) .lowest ⟨.keyword .fnWord :: .punctuation .openParen ::
        .punctuation .closeParen :: .punctuation .openBrace :: body, []⟩ =
      .parsed (.function (.keyword .fnWord) [] ⟨.punctuation .openBrace, values⟩)
        ⟨[.punctuation .closeBrace], reported⟩ := by
  have parameters : Identifier.parseList (budget + 1) ⟨.punctuation .openParen ::
        .punctuation .closeParen :: .punctuation .openBrace :: body, []⟩ =
      .parsed [] ⟨.punctuation .closeParen :: .punctuation .openBrace :: body, []⟩ :=
    Identifier.parseList_names [] (Nat.zero_le _) _
  have block : Block.parse (budget + 1) ⟨.punctuation .openBrace :: body, []⟩ =
      .parsed ⟨.punctuation .openBrace, values⟩ ⟨[.punctuation .closeBrace], reported⟩ := by
    rw [Block.parse, current_bind, advance_bind, List.tail_cons, bind_of_parsed read]
    rfl
  have function : Expr.parseFunction (budget + 2) ⟨.keyword .fnWord :: .punctuation .openParen ::
        .punctuation .closeParen :: .punctuation .openBrace :: body, []⟩ =
      .parsed (.function (.keyword .fnWord) [] ⟨.punctuation .openBrace, values⟩)
        ⟨[.punctuation .closeBrace], reported⟩ := by
    rw [Expr.parseFunction, expect_mark, bind_of_parsed parameters, expect_mark,
      bind_of_parsed block]
    rfl
  rw [Expr.parse, Expr.parseOperand]
  exact (bind_of_parsed function).trans (Expr.parseOperators_stop (by omega) (by decide))

namespace Program

/-- A function without parameters whose body is read up to the brace at the end is a program. -/
theorem parse_function {body : List Token} {values : List Statement}
    {reported : List Diagnostic} {budget : Nat}
    (read : Block.parseStatements budget ⟨body, []⟩ =
      .parsed values ⟨[.punctuation .closeBrace], reported⟩) :
    Program.parse (.keyword .fnWord :: .punctuation .openParen :: .punctuation .closeParen ::
        .punctuation .openBrace :: body) =
      ⟨⟨[.expr (.keyword .fnWord)
        (.function (.keyword .fnWord) [] ⟨.punctuation .openBrace, values⟩)]⟩, reported⟩ := by
  have statement : Statement.parse (budget + 5) ⟨.keyword .fnWord :: .punctuation .openParen ::
        .punctuation .closeParen :: .punctuation .openBrace :: body, []⟩ =
      .parsed (.expr (.keyword .fnWord)
          (.function (.keyword .fnWord) [] ⟨.punctuation .openBrace, values⟩))
        ⟨[.punctuation .closeBrace], reported⟩ := by
    rw [Statement.parse, current_bind]
    exact bind_of_parsed (Expr.parse_function read)
  rw [parse_eq_append (by simp) (Statement.parseOrSkip_of_parsed statement)]
  simp [Reading.append, parse_nil]

/-- What is wrong with a statement is over at the semicolon behind it: what follows reads as if it
stood alone, unless a block is left open before the semicolon. In the block of a function the same
holds up to the brace that closes it. -/
theorem parse_local {first : List Token} (noEnd : .eof ∉ first) (rest : List Token) :
    let ended := Program.parse (first ++ [.punctuation .semicolon])
    (.punctuation .openBrace ∉ first ∨ ended.diagnostics = [] →
      Program.parse (first ++ [.punctuation .semicolon] ++ rest) =
        ended.append (Program.parse rest)) ∧
    (.punctuation .openBrace ∉ first → .punctuation .closeBrace ∉ first → .eof ∉ rest →
      (Program.parse rest).diagnostics = [] →
      Program.parse ([.keyword .fnWord, .punctuation .openParen, .punctuation .closeParen,
          .punctuation .openBrace] ++ first ++ [.punctuation .semicolon] ++ rest ++
          [.punctuation .closeBrace]) =
        ⟨⟨[.expr (.keyword .fnWord) (.function (.keyword .fnWord) [] ⟨.punctuation .openBrace,
          ended.program.statements ++ (Program.parse rest).program.statements⟩)]⟩,
          ended.diagnostics⟩) := by
  intro ended
  constructor
  · rintro (noBlock | quiet)
    · rw [List.append_assoc, List.singleton_append]
      exact parse_row_append noEnd noBlock rest
    · have accepted : Program.parse (first ++ [.punctuation .semicolon]) = ⟨ended.program, []⟩ := by
        rw [← quiet]
      have derives := derives_of_parse (by simpa using noEnd) accepted
      have parted : Token.Parted (first ++ [.punctuation .semicolon]) rest :=
        .inl (by simp)
      rw [parse_derives_append derives parted, ← quiet]
  · intro noOpen noClose noEndRest quiet
    have accepted : Program.parse rest = ⟨(Program.parse rest).program, []⟩ := by
      rw [← quiet]
    have derives := derives_of_parse noEndRest accepted
    have readRest (budget : Nat) (diagnostics : List Diagnostic)
        (enough : 8 * (rest ++ [Token.punctuation .closeBrace]).length + 5 ≤ budget) :
        Block.parseStatements budget ⟨rest ++ [.punctuation .closeBrace], diagnostics⟩ =
          .parsed (Program.parse rest).program.statements
            ⟨[.punctuation .closeBrace], diagnostics⟩ := by
      rw [List.length_append, List.length_singleton] at enough
      exact derives.isRead.1 budget [] diagnostics (by rw [List.length_nil]; omega)
    have body := Block.parseStatements_row noEnd noOpen noClose readRest _ [] (Nat.le_refl _)
    simpa using parse_function body

/-- A binding without its mark, `let a 1`, costs neither the statement behind it nor the function
around them. -/
theorem parse_local_binding :
    let first : List Token := [.keyword .letWord, .ident "a", .int "1"]
    let rest : List Token := [.ident "b"]
    let name : Statement := .expr (.ident "b") (.ident (.ofToken (.ident "b")))
    let reported : List Diagnostic := [.unexpectedToken (.punctuation .assign) .int]
    .eof ∉ first ∧
      Program.parse (first ++ [.punctuation .semicolon] ++ rest) = ⟨⟨[name]⟩, reported⟩ ∧
      Program.parse ([.keyword .fnWord, .punctuation .openParen, .punctuation .closeParen,
          .punctuation .openBrace] ++ first ++ [.punctuation .semicolon] ++ rest ++
          [.punctuation .closeBrace]) =
        ⟨⟨[.expr (.keyword .fnWord)
          (.function (.keyword .fnWord) [] ⟨.punctuation .openBrace, [name]⟩)]⟩, reported⟩ := by
  intro first rest name reported
  have noEnd : .eof ∉ first := by decide
  rcases parse_local noEnd rest with ⟨row, inBlock⟩
  refine ⟨noEnd, ?_, ?_⟩
  · exact (row (.inl (by decide))).trans rfl
  · exact (inBlock (by decide) (by decide) (by decide) rfl).trans rfl

end Program

end Monkey
