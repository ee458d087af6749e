import FileChat.Mode
import FileChat.Relevance

/-!
# Assembling the context

Ranked artifacts become one block of text within a token budget. Each comes in whole, as content or
as summary, or leaves a marker that it was skipped; no budget is ever an error.
-/

namespace FileChat

/-- Which text of an artifact is taken. -/
inductive Form where
  | full
  | summary
  deriving DecidableEq, Repr, Inhabited

def Form.text (form : Form) (a : LoadedArtifact) : String :=
  match form with
  | .full => a.content
  | .summary => a.summary

def Form.name : Form → String
  | .full => "full"
  | .summary => "summary"

/-- An artifact that came into the block. -/
structure Included where
  path : String
  name : String
  score : UInt32
  form : Form
  tokens : Nat
  deriving DecidableEq, Repr, Inhabited

/-- The block and what went into it. It is empty if there was nothing to assemble. -/
structure Context where
  text : String := ""
  included : List Included := []
  /-- Names of those that found no place in the budget. -/
  skipped : List String := []
  /-- The estimated tokens of what was included. -/
  usedTokens : Nat := 0
  deriving DecidableEq, Repr, Inhabited

/-- The tokens that a block may hold, and the score above which smart mode sends content. -/
structure Assembler where
  budget : Nat := 8000
  threshold : UInt32 := 40
  deriving DecidableEq, Repr, Inhabited

namespace Assembler

def header : String := "=== PROVIDED CODE CONTEXT ==="

def block (a : LoadedArtifact) (score : UInt32) (form : Form) : String :=
  "\n--- FILE: " ++ a.name ++ " (relevance: " ++ toString score.toNat ++ ") ---\n" ++ form.text a ++
    "\n"

def skipMarker (a : LoadedArtifact) : String :=
  "\n[Skipped: " ++ a.name ++ " - budget exhausted]"

def trailer (files tokens : Nat) : String :=
  "\n=== END CONTEXT (" ++ toString files ++ " files, ~" ++ toString tokens ++ " tokens) ==="

/-- The form that the mode asks for. -/
def preferred (c : Assembler) (mode : Mode) (score : UInt32) : Form :=
  match mode with
  | .full => .full
  | .smart => if c.threshold < score then .full else .summary
  | .summary => .summary

/-- The form that fits into what is left: the preferred one, or in place of the content a summary
that is shorter than it. -/
def fit (preferred : Form) (a : LoadedArtifact) (left : Nat) : Option Form :=
  if tokens (preferred.text a) ≤ left then some preferred
  else if preferred = .full ∧ a.summary.utf8ByteSize < a.content.utf8ByteSize
      ∧ tokens a.summary ≤ left then some .summary
  else none

/-- A block in progress, its lists in reverse. -/
structure Draft where
  parts : List String
  included : List Included
  skipped : List String
  left : Nat

/-- Takes in the next artifact, or skips it. -/
def add (c : Assembler) (mode : Mode) (d : Draft) (s : Scored) : Draft :=
  match fit (c.preferred mode s.score) s.artifact d.left with
  | none =>
    { d with
      parts := skipMarker s.artifact :: d.parts
      skipped := s.artifact.name :: d.skipped }
  | some form =>
    let cost := tokens (form.text s.artifact)
    { d with
      parts := block s.artifact s.score form :: d.parts
      included := ⟨s.artifact.path, s.artifact.name, s.score, form, cost⟩ :: d.included
      left := d.left - cost }

/-- The context of artifacts in the order in which they are to be taken. -/
def assemble (c : Assembler) (mode : Mode) (scored : List Scored) : Context :=
  if scored.isEmpty then {}
  else
    let d := scored.foldl (c.add mode) ⟨[header], [], [], c.budget⟩
    let used := c.budget - d.left
    let parts := (trailer d.included.length used :: d.parts).reverse
    { text := String.intercalate "\n" parts
      included := d.included.reverse
      skipped := d.skipped.reverse
      usedTokens := used }

end Assembler
end FileChat
