import Mathlib.Data.List.Nodup
import Mathlib.Data.List.Sort

/-!
# Entries under distinct keys

A list of entries under distinct keys is a map: look-up finds what stands in the list and nothing
else. Sorted by their keys, entries stand in one order, whichever order they came in.
-/
namespace FileChat.Entries

/-- What stands under a key is found, if no key stands twice. -/
theorem lookup_eq_some_iff {κ α : Type} [BEq κ] [LawfulBEq κ] {entries : List (κ × α)}
    (h : (entries.map (·.1)).Nodup) {key : κ} {a : α} :
    entries.lookup key = some a ↔ (key, a) ∈ entries := by
  constructor
  · intro hfound
    obtain ⟨before, after, rfl, -⟩ := List.lookup_eq_some_iff.mp hfound
    exact List.mem_append_right _ List.mem_cons_self
  · intro hmem
    obtain ⟨before, after, rfl⟩ := List.append_of_mem hmem
    refine List.lookup_eq_some_iff.mpr ⟨before, after, rfl, fun p hp => ?_⟩
    rw [List.map_append, List.map_cons, List.nodup_append] at h
    have hne := h.2.2 p.1 (List.mem_map_of_mem hp) key List.mem_cons_self
    simpa using Ne.symm hne

/-- What has a key is found by it, if no key stands twice. -/
theorem find?_eq_some_iff {κ α : Type} [BEq κ] [LawfulBEq κ] {key : α → κ} {entries : List α}
    (h : (entries.map key).Nodup) {k : κ} {a : α} :
    entries.find? (fun b => key b == k) = some a ↔ a ∈ entries ∧ key a = k := by
  constructor
  · intro hfound
    exact ⟨List.mem_of_find?_eq_some hfound, by simpa using List.find?_some hfound⟩
  · rintro ⟨hmem, rfl⟩
    cases hfound : entries.find? (fun b => key b == key a) with
    | none => simpa using List.find?_eq_none.mp hfound a hmem
    | some b =>
      have hb : key b = key a := by simpa using List.find?_some hfound
      rw [List.inj_on_of_nodup_map h (List.mem_of_find?_eq_some hfound) hmem hb]

section Sorted

variable {α κ : Type} [LE κ] [LT κ] [Std.IsLinearOrder κ] [Std.LawfulOrderLT κ] [DecidableLT κ]
  (key : α → κ)

/-- Entries in the order of their keys. -/
theorem pairwise_mergeSort (entries : List α) (h : (entries.map key).Nodup) :
    (entries.mergeSort fun a b => !decide (key b < key a)).Pairwise fun a b => key a < key b := by
  have hle (a b : α) : (!decide (key b < key a)) = true ↔ key a ≤ key b := by
    rw [Bool.not_eq_true', decide_eq_false_iff_not, Std.not_lt]
  have htrans (a b c : α) (hab : (!decide (key b < key a)) = true)
      (hbc : (!decide (key c < key b)) = true) : (!decide (key c < key a)) = true :=
    (hle a c).mpr (Std.le_trans ((hle a b).mp hab) ((hle b c).mp hbc))
  have htotal (a b : α) : (!decide (key b < key a) || !decide (key a < key b)) = true := by
    rw [Bool.or_eq_true, hle, hle]
    exact Std.le_total
  have hsorted := List.pairwise_mergeSort htrans htotal entries
  have hperm := List.mergeSort_perm entries fun a b => !decide (key b < key a)
  have hdistinct := List.pairwise_map.mp ((hperm.map key).nodup_iff.mpr h)
  refine (hsorted.and hdistinct).imp fun {a b} hab => ?_
  exact Std.lt_of_le_of_ne ((hle a b).mp hab.1) hab.2

/-- Sorting gives the one order in which the keys ascend. -/
theorem mergeSort_eq_of_ascending {entries sorted : List α} (h : entries.Perm sorted)
    (hsorted : sorted.Pairwise fun a b => key a < key b) :
    (entries.mergeSort fun a b => !decide (key b < key a)) = sorted := by
  have hdistinct : (sorted.map key).Nodup :=
    List.pairwise_map.mpr (hsorted.imp fun hlt => Std.ne_of_lt hlt)
  have hentries : (entries.map key).Nodup := (h.map key).nodup_iff.mpr hdistinct
  refine List.Perm.eq_of_pairwise (fun a b _ _ hab hba => ?_) (pairwise_mergeSort key _ hentries)
    hsorted ((List.mergeSort_perm _ _).trans h)
  exact absurd (Std.lt_trans hab hba) (Std.lt_irrefl)

/-- Two lists of entries that hold the same ones under distinct keys are sorted alike. -/
theorem mergeSort_eq_of_perm {entries others : List α} (h : entries.Perm others)
    (hdistinct : (entries.map key).Nodup) :
    (entries.mergeSort fun a b => !decide (key b < key a)) =
      others.mergeSort fun a b => !decide (key b < key a) := by
  have hothers : (others.map key).Nodup := (h.map key).nodup_iff.mp hdistinct
  exact mergeSort_eq_of_ascending key (h.trans (List.mergeSort_perm _ _).symm)
    (pairwise_mergeSort key _ hothers)

end Sorted

end FileChat.Entries
