import FileChat.Proofs.Session.Pool
import FileChat.Relevance
import Mathlib.Data.List.Infix

/-!
# The order in which artifacts are taken

Scores are words of 32 bits, but for a question with few enough words nothing wraps around, and a
score is the sum that its parts amount to. Ranked artifacts stand in the order of these sums, equal
ones in the order of their paths; since no two paths are the same, there is only one such list.
-/
namespace FileChat

theorem Pins.covers_iff {p : Pins} {a : LoadedArtifact} :
    p.covers a ↔ a.name ∈ p.identifiers ∨ a.path ∈ p.identifiers := by
  rw [covers, Bool.or_eq_true, contains_iff, contains_iff]

namespace Relevance

open Text

/-- The words of a question, in lower case and as often as they stand in it. -/
def queryWords (query : String) : List (List Char) := words (lower query.toList)

/-- The words that are long enough to count. -/
def longWords (query : String) (w : Weights) : List (List Char) :=
  (queryWords query).filter fun word => w.minKeywordLength < word.length

/-- The long words that the content of an artifact has, whatever its case. -/
def foundWords (query : String) (a : LoadedArtifact) (w : Weights) : List (List Char) :=
  (longWords query w).filter fun word => word <:+: lower a.content.toList

def pinnedValue (a : LoadedArtifact) (pins : Pins) (w : Weights) : Nat :=
  if a.name ∈ pins.identifiers ∨ a.path ∈ pins.identifiers then w.pinned.toNat else 0

def namedValue (query : String) (a : LoadedArtifact) (w : Weights) : Nat :=
  if lower a.name.toList <:+: lower query.toList then w.nameInQuery.toNat else 0

/-- What an artifact scores for a question, added up without a bound. -/
def value (query : String) (a : LoadedArtifact) (pins : Pins) (w : Weights) : Nat :=
  pinnedValue a pins w + namedValue query a w +
    w.keywordHit.toNat * (foundWords query a w).length

/-- Whether an entry is to be taken before another. -/
def Above (s t : Scored) : Prop :=
  t.score < s.score ∨ s.score = t.score ∧ s.artifact.path < t.artifact.path

instance (s t : Scored) : Decidable (Above s t) := inferInstanceAs (Decidable (_ ∨ _))

/-- A list of the loaded artifacts of a pool, each once, with what they score, in their order. -/
structure Ranks (query : String) (pool : Pool) (pins : Pins) (w : Weights) (ranked : List Scored) :
    Prop where
  distinct : (ranked.map (·.artifact)).Nodup
  mem_iff : ∀ a, a ∈ ranked.map (·.artifact) ↔ .loaded a ∈ pool.artifacts
  score_eq : ∀ s ∈ ranked, s.score.toNat = value query s.artifact pins w
  ordered : ranked.Pairwise Above

variable {query : String} {pool : Pool} {pins : Pins} {w : Weights} {a : LoadedArtifact}
  {ranked others : List Scored}

/-! ## Scores -/

theorem hits_eq_foundWords :
    hits (lower query.toList) (lower a.content.toList) w.minKeywordLength =
      foundWords query a w := by
  rw [hits, foundWords, longWords, queryWords, List.filter_filter]
  congr 1
  funext word
  rw [Bool.and_comm, Bool.eq_iff_iff, Bool.and_eq_true, Bool.and_eq_true, occurs_iff,
    decide_eq_true_iff, decide_eq_true_iff]

theorem foundWords_le_longWords (query : String) (a : LoadedArtifact) (w : Weights) :
    (foundWords query a w).length ≤ (longWords query w).length :=
  List.length_filter_le _ _

theorem longWords_le_queryWords (query : String) (w : Weights) :
    (longWords query w).length ≤ (queryWords query).length :=
  List.length_filter_le _ _

theorem toNat_add_of_lt {a b : UInt32} (h : a.toNat + b.toNat < UInt32.size) :
    (a + b).toNat = a.toNat + b.toNat := by
  rw [UInt32.toNat_add]
  exact Nat.mod_eq_of_lt h

/-- Adding a weight once for each word is multiplication, as long as nothing wraps around. -/
theorem toNat_foldl_add (hit : UInt32) (found : List (List Char)) (start : UInt32)
    (h : start.toNat + hit.toNat * found.length < UInt32.size) :
    (found.foldl (fun score _ => score + hit) start).toNat =
      start.toNat + hit.toNat * found.length := by
  induction found generalizing start with
  | nil => rfl
  | cons word found ih =>
    rw [List.length_cons, Nat.mul_succ] at h ⊢
    have hadd : (start + hit).toNat = start.toNat + hit.toNat := by
      apply toNat_add_of_lt
      omega
    rw [List.foldl_cons, ih (start + hit) (by rw [hadd]; omega), hadd]
    omega

theorem toNat_pinned (a : LoadedArtifact) (pins : Pins) (w : Weights) :
    (if pins.covers a then w.pinned else 0).toNat = pinnedValue a pins w := by
  unfold pinnedValue
  by_cases hcovers : pins.covers a
  · rw [if_pos hcovers, if_pos (Pins.covers_iff.mp hcovers)]
  · rw [if_neg hcovers, if_neg fun hpin => hcovers (Pins.covers_iff.mpr hpin)]
    rfl

theorem toNat_named (query : String) (a : LoadedArtifact) (w : Weights) :
    (if occurs (lower a.name.toList) (lower query.toList) then w.nameInQuery else 0).toNat =
      namedValue query a w := by
  unfold namedValue
  by_cases hname : lower a.name.toList <:+: lower query.toList
  · rw [if_pos (occurs_iff.mpr hname), if_pos hname]
  · rw [if_neg fun hoccurs => hname (occurs_iff.mp hoccurs), if_neg hname]
    rfl

theorem pinnedValue_le (a : LoadedArtifact) (pins : Pins) (w : Weights) :
    pinnedValue a pins w ≤ w.pinned.toNat := by
  unfold pinnedValue
  split <;> omega

theorem namedValue_le (query : String) (a : LoadedArtifact) (w : Weights) :
    namedValue query a w ≤ w.nameInQuery.toNat := by
  unfold namedValue
  split <;> omega

/-- Nothing wraps around in the score of an artifact. -/
theorem toNat_score
    (h : w.pinned.toNat + w.nameInQuery.toNat + w.keywordHit.toNat * (queryWords query).length <
      UInt32.size) (a : LoadedArtifact) (pins : Pins) :
    (score query a pins w).toNat = value query a pins w := by
  have hpinned := pinnedValue_le a pins w
  have hnamed := namedValue_le query a w
  have hfound := Nat.mul_le_mul_left w.keywordHit.toNat
    (Nat.le_trans (foundWords_le_longWords query a w) (longWords_le_queryWords query w))
  have hstart : ((if pins.covers a then w.pinned else 0) +
      if occurs (lower a.name.toList) (lower query.toList) then w.nameInQuery else 0).toNat =
        pinnedValue a pins w + namedValue query a w := by
    rw [toNat_add_of_lt, toNat_pinned, toNat_named]
    rw [toNat_pinned, toNat_named]
    omega
  unfold score scoreLowered value
  rw [hits_eq_foundWords, toNat_foldl_add _ _ _ (by rw [hstart]; omega), hstart]

theorem pinned_le_value (query : String) (w : Weights)
    (h : a.name ∈ pins.identifiers ∨ a.path ∈ pins.identifiers) :
    w.pinned.toNat ≤ value query a pins w := by
  rw [value, pinnedValue, if_pos h]
  omega

theorem value_le_of_not_pinned (query : String) (w : Weights)
    (h : ¬(a.name ∈ pins.identifiers ∨ a.path ∈ pins.identifiers)) :
    value query a pins w ≤
      w.nameInQuery.toNat + w.keywordHit.toNat * (longWords query w).length := by
  have hnamed := namedValue_le query a w
  have hfound := Nat.mul_le_mul_left w.keywordHit.toNat (foundWords_le_longWords query a w)
  rw [value, pinnedValue, if_neg h]
  omega

/-! ## Order -/

theorem Above.score_le {s t : Scored} (h : Above s t) : t.score ≤ s.score := by
  obtain hlt | ⟨heq, -⟩ := h
  · exact UInt32.le_of_lt hlt
  · exact heq ▸ UInt32.le_refl _

instance : Std.Irrefl Above where
  irrefl s h := by
    obtain hlt | ⟨-, hlt⟩ := h
    · exact UInt32.lt_irrefl _ hlt
    · exact String.lt_irrefl _ hlt

instance : Std.Antisymm Above where
  antisymm s t hst hts := by
    have heq := UInt32.le_antisymm hts.score_le hst.score_le
    obtain hlt | ⟨-, hlt⟩ := hst
    · exact absurd (heq ▸ hlt) (UInt32.lt_irrefl _)
    · obtain hlt' | ⟨-, hlt'⟩ := hts
      · exact absurd (heq ▸ hlt') (UInt32.lt_irrefl _)
      · exact absurd (String.lt_trans hlt hlt') (String.lt_irrefl _)

theorem rank_perm : (rank query pool pins w).Perm
    (pool.loaded.map fun a => ⟨a, score query a pins w⟩) :=
  List.mergeSort_perm _ _

theorem artifacts_rank_perm :
    ((rank query pool pins w).map (·.artifact)).Perm pool.loaded := by
  have h : ((rank query pool pins w).map (·.artifact)).Perm _ := rank_perm.map _
  rw [List.map_map] at h
  exact h.trans (.of_eq (List.map_id _))

theorem score_of_mem_rank {s : Scored} (hs : s ∈ rank query pool pins w) :
    s.score = score query s.artifact pins w := by
  obtain ⟨a, -, rfl⟩ := List.mem_map.mp (rank_perm.mem_iff.mp hs)
  rfl

theorem scores_trans (s t u : Scored) (hst : decide (t.score ≤ s.score))
    (htu : decide (u.score ≤ t.score)) : decide (u.score ≤ s.score) := by
  rw [decide_eq_true_iff] at hst htu ⊢
  exact UInt32.le_trans htu hst

theorem scores_total (s t : Scored) :
    (decide (t.score ≤ s.score) || decide (s.score ≤ t.score)) = true := by
  rw [Bool.or_eq_true, decide_eq_true_iff, decide_eq_true_iff]
  exact UInt32.le_total _ _

theorem descending_rank : (rank query pool pins w).Pairwise fun s t => t.score ≤ s.score := by
  have h := List.pairwise_mergeSort scores_trans scores_total
    (pool.loaded.map fun a => ⟨a, score query a pins w⟩)
  exact h.imp of_decide_eq_true

/-- Artifacts of the same score stand as they stand in the pool. -/
theorem filter_rank (k : UInt32) :
    (rank query pool pins w).filter (·.score == k) =
      (pool.loaded.map fun a => ⟨a, score query a pins w⟩).filter (·.score == k) := by
  have hsub : ((pool.loaded.map fun a => ⟨a, score query a pins w⟩).filter (·.score == k)).Sublist
      (rank query pool pins w) := by
    -- Entries of one score are in order as they are, so a stable sort keeps them as they stand.
    refine List.sublist_mergeSort scores_trans scores_total ?_ List.filter_sublist
    refine List.pairwise_of_forall_mem_list fun s hs t ht => ?_
    have hs' := (List.mem_filter.mp hs).2
    have ht' := (List.mem_filter.mp ht).2
    rw [beq_iff_eq] at hs' ht'
    rw [decide_eq_true_iff, hs', ht']
    exact UInt32.le_refl _
  have hfilter := hsub.filter (·.score == k)
  rw [List.filter_filter] at hfilter
  simp only [Bool.and_self] at hfilter
  exact (hfilter.eq_of_length (rank_perm.filter _).length_eq.symm).symm

theorem rank_above : (rank query pool pins w).Pairwise Above := by
  rw [List.pairwise_iff_forall_sublist]
  intro s t hst
  have hle : t.score ≤ s.score := List.pairwise_iff_forall_sublist.mp descending_rank hst
  by_cases hlt : t.score < s.score
  · exact .inl hlt
  · have heq : s.score = t.score := UInt32.le_antisymm (UInt32.not_lt.mp hlt) hle
    refine .inr ⟨heq, ?_⟩
    have hpair := hst.filter (·.score == t.score)
    rw [filter_rank, List.filter_cons_of_pos (by simp [heq]), List.filter_cons_of_pos (by simp),
      List.filter_nil] at hpair
    have hpaths := (hpair.trans List.filter_sublist).map (·.artifact.path)
    rw [List.map_map] at hpaths
    exact List.pairwise_iff_forall_sublist.mp pool.ascending_loaded hpaths

theorem ranks_rank
    (h : w.pinned.toNat + w.nameInQuery.toNat + w.keywordHit.toNat * (queryWords query).length <
      UInt32.size) : Ranks query pool pins w (rank query pool pins w) where
  distinct := artifacts_rank_perm.nodup_iff.mpr pool.nodup_loaded
  mem_iff _ := artifacts_rank_perm.mem_iff.trans Pool.mem_loaded_iff
  score_eq s hs := by rw [score_of_mem_rank hs, toNat_score h]
  ordered := rank_above

/-- What an entry scores is determined by its artifact. -/
theorem Ranks.mem_of_mem (h : Ranks query pool pins w ranked) (h' : Ranks query pool pins w others)
    {s : Scored} (hs : s ∈ ranked) : s ∈ others := by
  have hloaded := (h.mem_iff s.artifact).mp (List.mem_map_of_mem hs)
  obtain ⟨t, ht, hart⟩ := List.mem_map.mp ((h'.mem_iff s.artifact).mpr hloaded)
  have hscore : t.score = s.score := by
    apply UInt32.toNat_inj.mp
    rw [h'.score_eq t ht, h.score_eq s hs, hart]
  obtain ⟨a, k⟩ := s
  obtain ⟨b, l⟩ := t
  cases hart
  cases hscore
  exact ht

theorem Ranks.unique (h : Ranks query pool pins w ranked) (h' : Ranks query pool pins w others) :
    ranked = others := by
  apply h.ordered.eq_of_mem_iff h'.ordered
  intro s
  exact ⟨h.mem_of_mem h', h'.mem_of_mem h⟩

/-- With few long words in the question, an artifact that is pinned beats all that are not. -/
theorem Ranks.pinned_first (h : Ranks query pool pins w ranked)
    (hfew : w.nameInQuery.toNat + w.keywordHit.toNat * (longWords query w).length <
      w.pinned.toNat) {i j : Nat} (hi : i < ranked.length) (hj : j < ranked.length)
    (hpinned : pins.covers ranked[i].artifact) (hnot : pins.covers ranked[j].artifact = false) :
    i < j ∧ ranked[j].score < ranked[i].score := by
  have hless : ranked[j].score < ranked[i].score := by
    rw [UInt32.lt_iff_toNat_lt, h.score_eq _ (List.getElem_mem hi),
      h.score_eq _ (List.getElem_mem hj)]
    have hhigh := pinned_le_value query w (Pins.covers_iff.mp hpinned)
    have hlow := value_le_of_not_pinned query w
      (mt Pins.covers_iff.mpr (Bool.not_eq_true _ ▸ hnot))
    omega
  refine ⟨?_, hless⟩
  by_cases hlt : i < j
  · exact hlt
  · by_cases heq : i = j
    · subst heq
      exact absurd hless (UInt32.lt_irrefl _)
    · have habove := List.pairwise_iff_getElem.mp h.ordered j i hj hi (by omega)
      exact absurd hless (UInt32.not_lt.mpr habove.score_le)

/-- As long as nothing wraps around, the loaded artifacts are ranked by what they score, equal ones
by path; no other list is ranked so. Few long words in the question leave the pinned ones first. -/
theorem rank_by_relevance (query : String) (pool : Pool) (pins : Pins) (w : Weights)
    (hfits : w.pinned.toNat + w.nameInQuery.toNat +
      w.keywordHit.toNat * (queryWords query).length < UInt32.size) :
    Ranks query pool pins w (rank query pool pins w) ∧
      (∀ s ∈ rank query pool pins w, s.score = score query s.artifact pins w) ∧
      (∀ others, Ranks query pool pins w others → others = rank query pool pins w) ∧
      (w.nameInQuery.toNat + w.keywordHit.toNat * (longWords query w).length < w.pinned.toNat →
        ∀ (i j : Nat) (hi : i < (rank query pool pins w).length)
          (hj : j < (rank query pool pins w).length),
          pins.covers (rank query pool pins w)[i].artifact →
            pins.covers (rank query pool pins w)[j].artifact = false →
              i < j ∧ (rank query pool pins w)[j].score < (rank query pool pins w)[i].score) := by
  have hranks : Ranks query pool pins w _ := ranks_rank hfits
  refine ⟨hranks, fun _ => score_of_mem_rank, fun _ hothers => hothers.unique hranks, ?_⟩
  intro hfew i j hi hj hpinned hnot
  exact hranks.pinned_first hfew hi hj hpinned hnot

/-- Of three artifacts the two pinned ones come first, by path, before the one that the question
names and finds a word in. -/
theorem rank_by_relevance_pinned :
    let alpha : LoadedArtifact := ⟨"alpha.txt", "alpha.txt", "Ports 80 and 443", "", 1, 4⟩
    let beta : LoadedArtifact := ⟨"beta.txt", "beta.txt", "", "", 0, 0⟩
    let gamma : LoadedArtifact := ⟨"in/gamma.txt", "gamma.txt", "", "", 0, 0⟩
    let pool : Pool := ⟨[.loaded alpha, .loaded beta, .loaded gamma], by decide⟩
    let pins : Pins := ⟨["gamma.txt", "beta.txt"], by decide⟩
    let query := "Which ports does alpha.txt list?"
    rank query pool pins {} = [⟨beta, 1000⟩, ⟨gamma, 1000⟩, ⟨alpha, 55⟩] ∧
      ∀ (i j : Nat) (hi : i < (rank query pool pins {}).length)
        (hj : j < (rank query pool pins {}).length),
        pins.covers (rank query pool pins {})[i].artifact →
          pins.covers (rank query pool pins {})[j].artifact = false → i < j := by
  intro alpha beta gamma pool pins query
  have hquery : queryWords query =
      ["which".toList, "ports".toList, "does".toList, "alpha.txt".toList, "list?".toList] := by
    decide +kernel
  have hlong : longWords query {} =
      ["which".toList, "ports".toList, "alpha.txt".toList, "list?".toList] := by
    rw [longWords, hquery]
    decide
  have hfits : (1000 : UInt32).toNat + (50 : UInt32).toNat +
      (5 : UInt32).toNat * (queryWords query).length < UInt32.size := by rw [hquery]; decide
  have hscores : ∀ s : Scored, s ∈ [⟨beta, 1000⟩, ⟨gamma, 1000⟩, ⟨alpha, 55⟩] →
      s.score = score query s.artifact pins {} := by decide +kernel
  obtain ⟨-, -, hunique, hfirst⟩ := rank_by_relevance query pool pins {} hfits
  refine ⟨(hunique _ ⟨by decide, ?_, ?_, ?_⟩).symm, ?_⟩
  · intro a
    simp [pool, or_comm, or_left_comm]
  · intro s hs
    rw [hscores s hs, toNat_score (w := {}) hfits]
  · decide
  · intro i j hi hj hpinned hnot
    exact (hfirst (by rw [hlong]; decide) i j hi hj hpinned hnot).1

end Relevance
end FileChat
