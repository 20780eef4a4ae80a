import Monkey.Operator

/-!
# Tokens

The words that a program is made of. A token carries the text it was read from only where
its kind leaves that text open; for all others the kind fixes the spelling.
-/

namespace Monkey

inductive Keyword where
  | elseWord
  | falseWord
  | fnWord
  | ifWord
  | letWord
  | returnWord
  | trueWord
  deriving DecidableEq

namespace Keyword

def all : List Keyword :=
  [elseWord, falseWord, fnWord, ifWord, letWord, returnWord, trueWord]

theorem mem_all (keyword : Keyword) : keyword ∈ all := by
  cases keyword <;> decide

def spelling : Keyword → String
  | elseWord => "else"
  | falseWord => "false"
  | fnWord => "fn"
  | ifWord => "if"
  | letWord => "let"
  | returnWord => "return"
  | trueWord => "true"

def name : Keyword → String
  | elseWord => "Else"
  | falseWord => "False"
  | fnWord => "Function"
  | ifWord => "If"
  | letWord => "Let"
  | returnWord => "Return"
  | trueWord => "True"

def ofSpelling? (text : String) : Option Keyword :=
  all.find? fun keyword => keyword.spelling == text

end Keyword

/-- A mark that separates, groups or assigns. -/
inductive Punctuation where
  | assign
  | comma
  | semicolon
  | openParen
  | closeParen
  | openBrace
  | closeBrace
  deriving DecidableEq

namespace Punctuation

def all : List Punctuation :=
  [assign, comma, semicolon, openParen, closeParen, openBrace, closeBrace]

theorem mem_all (mark : Punctuation) : mark ∈ all := by
  cases mark <;> decide

def symbol : Punctuation → String
  | assign => "="
  | comma => ","
  | semicolon => ";"
  | openParen => "("
  | closeParen => ")"
  | openBrace => "\x7b"
  | closeBrace => "\x7d"

def name : Punctuation → String
  | assign => "Assign"
  | comma => "Comma"
  | semicolon => "Semicolon"
  | openParen => "LParen"
  | closeParen => "RParen"
  | openBrace => "LBrace"
  | closeBrace => "RBrace"

end Punctuation

/-- One word of a program; `illegal` is a byte that starts no other token, and `eof` marks the
end of the program. -/
inductive Token where
  | illegal (byte : UInt8)
  | eof
  | ident (name : String)
  | int (digits : String)
  | string (text : String)
  | operator (sign : Operator)
  | punctuation (mark : Punctuation)
  | keyword (word : Keyword)
  deriving DecidableEq

/-- What remains of a token when the text that it carries is dropped. -/
inductive Kind where
  | illegal
  | eof
  | ident
  | int
  | string
  | operator (sign : Operator)
  | punctuation (mark : Punctuation)
  | keyword (word : Keyword)
  deriving DecidableEq

namespace Kind

def all : List Kind :=
  [illegal, eof, ident, int, string] ++ Operator.all.map operator ++
    Punctuation.all.map punctuation ++ Keyword.all.map keyword

theorem mem_all (kind : Kind) : kind ∈ all := by
  cases kind with
  | operator sign => simp [all, Operator.mem_all]
  | punctuation mark => simp [all, Punctuation.mem_all]
  | keyword word => simp [all, Keyword.mem_all]
  | _ => simp [all]

def name : Kind → String
  | illegal => "Illegal"
  | eof => "Eof"
  | ident => "Ident"
  | int => "Int"
  | string => "String"
  | operator sign => sign.name
  | punctuation mark => mark.name
  | keyword word => word.name

end Kind

namespace Token

def kind : Token → Kind
  | illegal _ => .illegal
  | eof => .eof
  | ident _ => .ident
  | int _ => .int
  | string _ => .string
  | operator sign => .operator sign
  | punctuation mark => .punctuation mark
  | keyword word => .keyword word

/-- The text of a token, without the quotes of a string; an illegal byte reads as the
character whose code it is. -/
def literal : Token → String
  | illegal byte => String.singleton (Char.ofNat byte.toNat)
  | eof => ""
  | ident name => name
  | int digits => digits
  | string text => text
  | operator sign => sign.symbol
  | punctuation mark => mark.symbol
  | keyword word => word.spelling

/-- A word of letters: the keyword it spells, else an identifier. -/
def ofWord (text : String) : Token :=
  match Keyword.ofSpelling? text with
  | some word => .keyword word
  | none => .ident text

def operator? : Token → Option Operator
  | operator sign => some sign
  | _ => none

/-- How strongly a token binds to an operand on its left. -/
def precedence : Token → Precedence
  | operator sign => sign.precedence
  | punctuation .openParen => .call
  | _ => .lowest

end Token

end Monkey
