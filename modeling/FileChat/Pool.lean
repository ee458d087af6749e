import FileChat.Artifact

/-!
# The pool

The artifacts of a session, at most one a path, in ascending order of their paths. The order is part
of the type, so whatever walks the pool meets the artifacts in one order.
-/

namespace FileChat

structure Pool where
  artifacts : List Artifact
  ascending : artifacts.Pairwise (fun a b => a.path < b.path) := by simp

namespace Pool

def empty : Pool := ⟨[], .nil⟩

/-- Puts an artifact before the first one of a greater path, in place of one of its own path. -/
def insertInto (a : Artifact) : List Artifact → List Artifact
  | [] => [a]
  | b :: rest =>
    if a.path < b.path then a :: b :: rest
    else if a.path = b.path then a :: rest
    else b :: insertInto a rest

theorem mem_insertInto {a x : Artifact} {xs : List Artifact} (h : x ∈ insertInto a xs) :
    x = a ∨ x ∈ xs := by
  induction xs with
  | nil => simpa [insertInto] using h
  | cons b rest ih =>
    simp only [insertInto] at h
    split at h
    · simpa using h
    · split at h
      · rcases List.mem_cons.1 h with h | h
        · exact .inl h
        · exact .inr (List.mem_cons_of_mem _ h)
      · rcases List.mem_cons.1 h with h | h
        · exact .inr (h ▸ List.mem_cons_self)
        · exact (ih h).imp id (List.mem_cons_of_mem _)

theorem pairwise_insertInto (a : Artifact) {xs : List Artifact}
    (h : xs.Pairwise (fun a b => a.path < b.path)) :
    (insertInto a xs).Pairwise (fun a b => a.path < b.path) := by
  induction xs with
  | nil => simp [insertInto]
  | cons b rest ih =>
    have hb := List.pairwise_cons.1 h
    simp only [insertInto]
    split
    · next hlt =>
      refine List.pairwise_cons.2 ⟨fun x hx => ?_, h⟩
      rcases List.mem_cons.1 hx with rfl | hx
      · exact hlt
      · exact String.lt_trans hlt (hb.1 x hx)
    · next hnot =>
      split
      · next heq => exact List.pairwise_cons.2 ⟨fun x hx => heq ▸ hb.1 x hx, hb.2⟩
      · next hne =>
        refine List.pairwise_cons.2 ⟨fun x hx => ?_, ih hb.2⟩
        rcases mem_insertInto hx with rfl | hx
        · exact Std.lt_of_le_of_ne (Std.not_lt.1 hnot) (Ne.symm hne)
        · exact hb.1 x hx

/-- The pool with an artifact in it, in place of one of the same path. -/
def insert (p : Pool) (a : Artifact) : Pool :=
  ⟨insertInto a p.artifacts, pairwise_insertInto a p.ascending⟩

def get? (p : Pool) (path : String) : Option Artifact := p.artifacts.find? (·.path == path)

def size (p : Pool) : Nat := p.artifacts.length

/-- The artifacts that scoring and assembly see. -/
def loaded (p : Pool) : List LoadedArtifact := p.artifacts.filterMap Artifact.loaded?

def failedCount (p : Pool) : Nat := p.artifacts.countP Artifact.isFailed

/-- The estimated tokens of all loaded artifacts. -/
def totalTokens (p : Pool) : Nat := p.loaded.foldr (fun a total => a.tokens + total) 0

end Pool
end FileChat
