import FileChat.Artifact

/-!
# Pins

Names and paths that are always relevant. A pin that no artifact has does nothing.
-/

namespace FileChat

structure Pins where
  identifiers : List String
  nodup : identifiers.Nodup := by simp

namespace Pins

def empty : Pins := ⟨[], .nil⟩

def contains (p : Pins) (identifier : String) : Bool := p.identifiers.contains identifier

def size (p : Pins) : Nat := p.identifiers.length

/-- The pins with one more, or the same if they hold it already. -/
def insert (p : Pins) (identifier : String) : Pins :=
  if h : identifier ∈ p.identifiers then p
  else ⟨identifier :: p.identifiers, List.nodup_cons.2 ⟨h, p.nodup⟩⟩

/-- Whether an artifact is pinned by its name or by its path. -/
def covers (p : Pins) (a : LoadedArtifact) : Bool := p.contains a.name || p.contains a.path

@[simp] theorem contains_iff {p : Pins} {i : String} : p.contains i ↔ i ∈ p.identifiers := by
  simp [contains]

theorem mem_insert {p : Pins} {i j : String} :
    j ∈ (p.insert i).identifiers ↔ j = i ∨ j ∈ p.identifiers := by
  unfold insert
  split
  · next h => exact ⟨.inr, fun hj => hj.elim (fun e => e ▸ h) id⟩
  · simp

end Pins
end FileChat
