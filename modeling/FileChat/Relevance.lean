import FileChat.Pins
import FileChat.Pool
import FileChat.Text.Blank
import FileChat.Text.Lowercase
import FileChat.Text.Occurrence

/-!
# Relevance

An artifact's score for a question: a weight if it is pinned, a bonus if the question names it, and
a little for each long word of the question that its content has. Scores are 32-bit words.
-/

namespace FileChat

structure Weights where
  pinned : UInt32 := 1000
  nameInQuery : UInt32 := 50
  keywordHit : UInt32 := 5
  /-- Words up to this length do not count. -/
  minKeywordLength : Nat := 4
  deriving DecidableEq, Repr, Inhabited

/-- A loaded artifact with its score for a question. -/
structure Scored where
  artifact : LoadedArtifact
  score : UInt32
  deriving DecidableEq, Repr, Inhabited

namespace Relevance

open Text

/-- The words of a question in lower case that are long enough and occur in the content. -/
def hits (query content : List Char) (minLength : Nat) : List (List Char) :=
  (words query).filter fun w => decide (minLength < w.length) && occurs w content

/-- The score of an artifact for a question in lower case. -/
def scoreLowered (query : List Char) (a : LoadedArtifact) (pins : Pins) (w : Weights) : UInt32 :=
  let pinned := if pins.covers a then w.pinned else 0
  let named := if occurs (lower a.name.toList) query then w.nameInQuery else 0
  let hits := hits query (lower a.content.toList) w.minKeywordLength
  hits.foldl (fun score _ => score + w.keywordHit) (pinned + named)

/-- The score of an artifact for a question. -/
def score (query : String) (a : LoadedArtifact) (pins : Pins) (w : Weights) : UInt32 :=
  scoreLowered (lower query.toList) a pins w

/-- The loaded artifacts of a pool, the highest score first, equal scores in the order of paths. -/
def rank (query : String) (pool : Pool) (pins : Pins) (w : Weights) : List Scored :=
  let query := lower query.toList
  (pool.loaded.map fun a => ⟨a, scoreLowered query a pins w⟩).mergeSort
    fun a b => decide (b.score ≤ a.score)

end Relevance
end FileChat
