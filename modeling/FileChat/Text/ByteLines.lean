/-!
# Lines of bytes

Bytes come in pieces that know nothing of lines or characters. A line ends at a line feed, which is
not part of it, and what stands after the last one is still to be continued.
-/

namespace FileChat.ByteLines

def lineFeed : UInt8 := 10

def carriageReturn : UInt8 := 13

/-- The whole lines of some bytes, and the bytes after the last line feed. -/
def split (bytes : List UInt8) : List (List UInt8) × List UInt8 :=
  let pieces := bytes.splitOn lineFeed
  (pieces.dropLast, pieces.getLast (List.splitOn_ne_nil _ _))

/-- A line without the carriage return at its end. -/
def chomp (line : List UInt8) : List UInt8 :=
  if line.getLast? = some carriageReturn then line.dropLast else line

/-- The lines of an input that has come to its end. -/
def ofInput (input : List UInt8) : List (List UInt8) :=
  let (lines, rest) := split input
  lines.map chomp ++ if rest = [] then [] else [rest]

end FileChat.ByteLines
