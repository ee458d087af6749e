import FileChat.Wire.Basic

/-!
# Artifacts on the wire

An artifact says first which of the two it is. To find that out the whole value is gathered before
it is taken apart, so every part of it has to be readable, the parts that are passed over too.
-/

namespace FileChat.Wire

open Json

def loadedFields : List String := ["path", "name", "content", "summary", "lines", "tokens"]

def loadedMembers (a : LoadedArtifact) : List (String × Value) :=
  [("path", .string a.path), ("name", .string a.name), ("content", .string a.content),
    ("summary", .string a.summary), ("lines", ofNat a.lines), ("tokens", ofNat a.tokens)]

def loadedOf? (v : Value) : Option LoadedArtifact := do
  match ← slots? loadedFields v with
  | [path, name, content, summary, lines, tokens] =>
    pure
      { path := ← path.required string?
        name := ← name.required string?
        content := ← content.required string?
        summary := ← summary.required string?
        lines := ← lines.required size?
        tokens := ← tokens.required size? }
  | _ => none

def failedMembers (a : FailedArtifact) : List (String × Value) :=
  [("path", .string a.path), ("name", .string a.name), ("reason", .string a.reason)]

def failedOf? (v : Value) : Option FailedArtifact := do
  match ← slots? ["path", "name", "reason"] v with
  | [path, name, reason] =>
    pure
      { path := ← path.required string?
        name := ← name.required string?
        reason := ← reason.required string? }
  | _ => none

/-- The tag of a value, and the rest of it. -/
def untag? (tag : String) : Value → Option (String × Value)
  | .object members =>
    match members.filter (·.1 == tag) with
    | [(_, .string s)] => some (s, .object (members.filter (·.1 != tag)))
    | _ => none
  | .array (.string s :: rest) => some (s, .array rest)
  | _ => none

/-- The containers that may stand inside one another in a value that is gathered. -/
def maxDepth : Nat := 127

instance : Wire Artifact where
  toJson
    | .loaded a => .object (("status", .string "loaded") :: loadedMembers a)
    | .failed a => .object (("status", .string "failed") :: failedMembers a)
  ofJson? v := do
    if v.readable ∧ v.depth ≤ maxDepth then
      let (tag, rest) ← untag? "status" v
      match tag with
      | "loaded" => (loadedOf? rest).map .loaded
      | "failed" => (failedOf? rest).map .failed
      | _ => none
    else none

instance : Wire Included where
  toJson i := .object
    [("path", .string i.path), ("name", .string i.name), ("score", ofNat i.score.toNat),
      ("form", toJson i.form), ("tokens", ofNat i.tokens)]
  ofJson? v := do
    match ← slots? ["path", "name", "score", "form", "tokens"] v with
    | [path, name, score, form, tokens] =>
      pure
        { path := ← path.required string?
          name := ← name.required string?
          score := ← score.required word32?
          form := ← form.required ofJson?
          tokens := ← tokens.required size? }
    | _ => none

end FileChat.Wire
