/-!
# Lines

A line ends at a line feed, and a carriage return right before it belongs to the end of the line.
The last line needs no end; nothing after the last line feed is no line.
-/

namespace Monkey.Line

def feed : UInt8 := 0x0a

/-- The byte that may stand before the end of a line. -/
def carriageReturn : UInt8 := 0x0d

/-- A line, given backwards, without the carriage return at its end. -/
def dropReturn : List UInt8 → List UInt8
  | [] => []
  | byte :: rest => if byte = carriageReturn then rest else byte :: rest

/-- The lines of bytes, the first of which has begun with the given bytes, backwards. -/
def splitAfter (begun : List UInt8) : List UInt8 → List (List UInt8)
  | [] => if begun.isEmpty then [] else [begun.reverse]
  | byte :: rest =>
      if byte = feed then
        (dropReturn begun).reverse :: splitAfter [] rest
      else
        splitAfter (byte :: begun) rest

def split (bytes : List UInt8) : List (List UInt8) :=
  splitAfter [] bytes

end Monkey.Line
