import FileChat.Pool
import FileChat.Text.Blank
import FileChat.Text.Lowercase
import FileChat.Text.Occurrence

/-!
# Searching the pool

Lines that have a text in them, whatever its case: the first three of an artifact, and the first ten
artifacts with any.
-/

namespace FileChat

/-- A line found, its number counted from one. -/
structure LineMatch where
  number : Nat
  text : String
  deriving DecidableEq, Repr

structure SearchHit where
  name : String
  path : String
  found : List LineMatch
  deriving DecidableEq, Repr

namespace Search

open Text

def maxPerArtifact : Nat := 3

def maxArtifacts : Nat := 10

/-- The length to which a line is cut. -/
def maxLineChars : Nat := 70

/-- What is shown of a line. -/
def excerpt (line : List Char) : String := String.ofList ((trim line).take maxLineChars)

/-- The first lines of a text that have the needle, which is in lower case. -/
def matchingLines (needle content : List Char) : List LineMatch :=
  let numbered := (lines content).zipIdx 1
  let found := numbered.filter fun (line, _) => occurs needle (lower line)
  (found.take maxPerArtifact).map fun (line, number) => ⟨number, excerpt line⟩

/-- The hits in a pool, in the order of paths. An empty needle has none. -/
def pool (p : Pool) (needle : String) : List SearchHit :=
  let needle := lower needle.toList
  if needle.isEmpty then []
  else
    let hits := p.loaded.map fun a => ⟨a.name, a.path, matchingLines needle a.content.toList⟩
    (hits.filter fun (h : SearchHit) => !h.found.isEmpty).take maxArtifacts

end Search
end FileChat
