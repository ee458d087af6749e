import FileChat.Path
import FileChat.Summary
import FileChat.Tokens

/-!
# Artifacts

What ingesting a file leaves: its text with everything derived from it, or the reason why there is
none. Only loaded artifacts take part in scoring and assembly.
-/

namespace FileChat

/-- A text with its identity, its summary and its measures. -/
structure LoadedArtifact where
  path : String
  name : String
  content : String
  summary : String
  lines : Nat
  tokens : Nat
  deriving DecidableEq, Repr, Inhabited

/-- A file that could not be read. -/
structure FailedArtifact where
  path : String
  name : String
  reason : String
  deriving DecidableEq, Repr, Inhabited

inductive Artifact where
  | loaded (a : LoadedArtifact)
  | failed (a : FailedArtifact)
  deriving DecidableEq, Repr, Inhabited

/-- What was found at a path: its content, or the reason why it has none. -/
abbrev Outcome := Except String String

namespace Artifact

/-- The loaded artifact of a text, everything but path and content derived. -/
def ofContent (path content : String) : Artifact :=
  .loaded
    { path, content
      name := Path.displayName path
      summary := summarize content
      lines := Summary.lineCount content
      tokens := FileChat.tokens content }

def ofFailure (path reason : String) : Artifact :=
  .failed { path, reason, name := Path.displayName path }

def ofOutcome (path : String) : Outcome → Artifact
  | .ok content => ofContent path content
  | .error reason => ofFailure path reason

def path : Artifact → String
  | loaded a => a.path
  | failed a => a.path

def name : Artifact → String
  | loaded a => a.name
  | failed a => a.name

def loaded? : Artifact → Option LoadedArtifact
  | loaded a => some a
  | failed _ => none

def isFailed : Artifact → Bool
  | loaded _ => false
  | failed _ => true

@[simp] theorem path_ofContent (path content : String) : (ofContent path content).path = path := rfl

@[simp] theorem path_ofFailure (path reason : String) : (ofFailure path reason).path = path := rfl

@[simp] theorem path_ofOutcome (path : String) (o : Outcome) : (ofOutcome path o).path = path := by
  cases o <;> rfl

end Artifact
end FileChat
