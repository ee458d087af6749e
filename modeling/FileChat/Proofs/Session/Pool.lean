import FileChat.Pool
import Mathlib.Data.List.Nodup
import Mathlib.Data.List.Sort

/-!
# The pool as a map

A pool is a map from paths to artifacts: what is put in is found under its path, and nothing else
changes. Since a pool keeps its artifacts in the order of their paths, it is determined by what is
found in it.
-/
namespace FileChat.Pool

variable {p q : Pool}

theorem find?_insertInto (a : Artifact) (xs : List Artifact) (path : String) :
    (insertInto a xs).find? (·.path == path) =
      if a.path = path then some a else xs.find? (·.path == path) := by
  induction xs with
  | nil =>
    rw [insertInto, List.find?_cons]
    split <;> simp_all
  | cons b rest ih =>
    rw [insertInto]
    split
    · rw [List.find?_cons]
      split <;> simp_all
    · split
      · next heq =>
        rw [List.find?_cons, List.find?_cons, ← heq]
        split <;> simp_all
      · rw [List.find?_cons, List.find?_cons, ih]
        split <;> simp_all

/-- What is put in is found under its path, and nothing else changes. -/
theorem get?_insert (p : Pool) (a : Artifact) (path : String) :
    (p.insert a).get? path = if a.path = path then some a else p.get? path :=
  find?_insertInto a p.artifacts path

theorem nodup_paths (p : Pool) : (p.artifacts.map Artifact.path).Nodup := by
  refine List.Pairwise.map _ (fun a b hlt heq => ?_) p.ascending
  rw [heq] at hlt
  exact String.lt_irrefl _ hlt

theorem get?_eq_some_iff {path : String} {a : Artifact} :
    p.get? path = some a ↔ a ∈ p.artifacts ∧ a.path = path := by
  constructor
  · intro h
    have hpath := List.find?_some h
    exact ⟨List.mem_of_find?_eq_some h, by simpa using hpath⟩
  · rintro ⟨hmem, rfl⟩
    cases hfound : p.get? a.path with
    | none =>
      have hnone := List.find?_eq_none.mp hfound a hmem
      simp at hnone
    | some b =>
      have hb : b.path = a.path := by simpa using List.find?_some hfound
      have hbmem := List.mem_of_find?_eq_some hfound
      rw [List.inj_on_of_nodup_map p.nodup_paths hbmem hmem hb]

theorem mem_artifacts_iff {a : Artifact} : a ∈ p.artifacts ↔ p.get? a.path = some a := by
  rw [get?_eq_some_iff, and_iff_left rfl]

/-- A pool is determined by what is found in it. -/
theorem ext_get? (h : ∀ path, p.get? path = q.get? path) : p = q := by
  have hmem (a : Artifact) : a ∈ p.artifacts ↔ a ∈ q.artifacts := by
    rw [mem_artifacts_iff, mem_artifacts_iff, h]
  have hirrefl : Std.Irrefl fun a b : Artifact => a.path < b.path :=
    ⟨fun a => String.lt_irrefl a.path⟩
  have hantisymm : Std.Antisymm fun a b : Artifact => a.path < b.path :=
    ⟨fun a b hab hba => absurd (String.lt_trans hab hba) (String.lt_irrefl a.path)⟩
  have hsame := p.ascending.eq_of_mem_iff q.ascending hmem
  cases p
  cases q
  subst hsame
  rfl

theorem ascending_loaded (p : Pool) : (p.loaded.map (·.path)).Pairwise (· < ·) := by
  refine List.Pairwise.map _ (fun _ _ hlt => hlt) (p.ascending.filterMap _ ?_)
  intro a b hlt x hx y hy
  cases a <;> cases hx
  cases b <;> cases hy
  exact hlt

theorem nodup_loaded (p : Pool) : p.loaded.Nodup := by
  have h : (p.loaded.map (·.path)).Nodup := p.ascending_loaded.imp fun {x y} hlt heq => by
    rw [heq] at hlt
    exact String.lt_irrefl _ hlt
  exact h.of_map

theorem mem_loaded_iff {a : LoadedArtifact} : a ∈ p.loaded ↔ .loaded a ∈ p.artifacts := by
  rw [loaded, List.mem_filterMap]
  constructor
  · rintro ⟨b, hmem, hb⟩
    cases b with
    | loaded b =>
      obtain rfl := Option.some.inj hb
      exact hmem
    | failed b => cases hb
  · intro hmem
    exact ⟨.loaded a, hmem, rfl⟩

end FileChat.Pool
