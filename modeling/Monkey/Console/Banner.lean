/-!
# Banner

What the console shows above the diagnostics of a program that cannot be read.
-/

namespace Monkey.Console

def face : String :=
  "            __,__\n" ++
  "   .--.  .-\"     \"-.  .--.\n" ++
  "  / .. \\/  .-. .-.  \\/ .. \\\n" ++
  " | |  '|  /   Y   \\  |'  | |\n" ++
  " | \\   \\  \\ 0 | 0 /  /   / |\n" ++
  "  \\ '- ,\\.-\"\"\"\"\"\"\"-./, -' /\n" ++
  "   ''-' /_   ^ ^   _\\ '-''\n" ++
  "       |  \\._   _./  |\n" ++
  "       \\   \\ '~' /   /\n" ++
  "        '._ '-=-' _.'\n" ++
  "           '-----'\n"

def banner : String :=
  face ++ "Looks like we ran into some monkey business here...\nparser errors:\n"

end Monkey.Console
