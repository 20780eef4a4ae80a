import Monkey.EvalError
import Monkey.Text.Occurrence
import Monkey.Value

/-!
# Built-in functions

`len` measures a text in bytes of its encoding; `count` counts the occurrences of one text in
another. A wrong number of arguments is an error of its own; among a right number, the last
argument of a wrong type is named only when those before it are right.
-/

namespace Monkey.Builtin

def apply : Builtin → List Value → Except EvalError Value
  | len, [.string text] => .ok (.int (Int64.ofNat text.utf8ByteSize))
  | len, [argument] => .error (.unsupportedArgument len.name argument.typeName)
  | len, arguments => .error (.wrongArity arguments.length 1)
  | count, [.string text, .string pattern] =>
      .ok (.int (Int64.ofNat (Occurrence.count text.toList pattern.toList)))
  | count, [.string _, argument] =>
      .error (.unsupportedArgumentAt count.name 1 argument.typeName)
  | count, [argument, _] => .error (.unsupportedArgumentAt count.name 0 argument.typeName)
  | count, arguments => .error (.wrongArity arguments.length 2)

end Monkey.Builtin
