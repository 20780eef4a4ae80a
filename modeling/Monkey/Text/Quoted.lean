import Monkey.Text.Invisible

/-!
# Quoted text

A text in quotes on one line: quotes and backslashes stand behind a backslash, some control
characters have letters, and any other character without a form of its own is given by its code
in hexadecimal digits.
-/

namespace Monkey.Quoted

def encodeChar (char : Char) : String :=
  if char = '\x00' then "\\0"
  else if char = '\t' then "\\t"
  else if char = '\n' then "\\n"
  else if char = '\r' then "\\r"
  else if char = '"' then "\\\""
  else if char = '\\' then "\\\\"
  else if Invisible.isInvisible char then
    "\\u\x7b" ++ String.ofList (Nat.toDigits 16 char.toNat) ++ "\x7d"
  else String.singleton char

def encode (text : String) : String :=
  "\"" ++ String.join (text.toList.map encodeChar) ++ "\""

end Monkey.Quoted
