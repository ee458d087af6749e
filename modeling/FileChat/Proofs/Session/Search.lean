import FileChat.Proofs.Session.Pool
import FileChat.Proofs.Text.Lowering
import FileChat.Search
import Mathlib.Data.List.Perm.Subperm

/-!
# What a search finds

A search reports the first artifacts that have its needle in a line, and of each the first lines
that have it. `Firsts` says what the first ones are, for both limits alike and without the passes
that find them: they meet a condition, stand in order, are no more than the limit, and whatever else
meets the condition comes after a full number of them. In a strict order one list at most is so.
-/
namespace FileChat.Search

open Text

section Firsts

variable {α : Type} {R : α → α → Prop} {P : α → Prop} {n : Nat} {items found other : List α}

/-- The first ones in an order of what meets a condition, up to a limit. -/
structure Firsts (R : α → α → Prop) (P : α → Prop) (n : Nat) (found : List α) : Prop where
  sound : ∀ x ∈ found, P x
  ordered : found.Pairwise R
  limit : found.length ≤ n
  complete : ∀ x, P x → x ∈ found ∨ found.length = n ∧ ∀ y ∈ found, R y x

/-- An item of an ordered list is among the first ones or comes after them. -/
theorem mem_take_or_after (h : items.Pairwise R) {x : α} (hx : x ∈ items) (n : Nat) :
    x ∈ items.take n ∨ (items.take n).length = n ∧ ∀ y ∈ items.take n, R y x := by
  rw [← List.take_append_drop n items] at h
  have hsplit : x ∈ items.take n ++ items.drop n := by rwa [List.take_append_drop]
  obtain hfirst | hrest := List.mem_append.mp hsplit
  · exact .inl hfirst
  · refine .inr ⟨?_, fun y hy => (List.pairwise_append.mp h).2.2 y hy x hrest⟩
    have hpos := List.length_pos_of_mem hrest
    rw [List.length_drop] at hpos
    rw [List.length_take]
    omega

/-- The front of all items in order are the first ones. -/
theorem firsts_take (h : items.Pairwise R) (hmem : ∀ x, x ∈ items ↔ P x) (n : Nat) :
    Firsts R P n (items.take n) := by
  constructor
  · exact fun x hx => (hmem x).mp (List.mem_of_mem_take hx)
  · exact h.sublist (List.take_sublist n items)
  · exact List.length_take_le n items
  · exact fun x hx => mem_take_or_after h ((hmem x).mpr hx) n

theorem Firsts.nodup (hasymm : ∀ x y, R x y → ¬ R y x) (h : Firsts R P n found) : found.Nodup := by
  refine h.ordered.imp ?_
  rintro x y hxy rfl
  exact hasymm x x hxy hxy

theorem Firsts.mem_of_mem (hasymm : ∀ x y, R x y → ¬ R y x) (h : Firsts R P n found)
    (h' : Firsts R P n other) {x : α} (hx : x ∈ found) : x ∈ other := by
  obtain hmem | ⟨hfull, hbefore⟩ := h'.complete x (h.sound x hx)
  · exact hmem
  · -- A full list before `x` would stand in the other one, with `x` besides.
    have hsubset : ∀ y ∈ other, y ∈ found := by
      intro y hy
      obtain hmem | ⟨-, hafter⟩ := h.complete y (h'.sound y hy)
      · exact hmem
      · exact absurd (hbefore y hy) (hasymm x y (hafter x hx))
    have hnew : x ∉ other := fun hmem => hasymm x x (hbefore x hmem) (hbefore x hmem)
    have hnodup : (x :: other).Nodup := List.nodup_cons.mpr ⟨hnew, h'.nodup hasymm⟩
    have hle := (List.subperm_of_subset hnodup (List.cons_subset.mpr ⟨hx, hsubset⟩)).length_le
    have hlimit := h.limit
    rw [List.length_cons, hfull] at hle
    omega

/-- There is one list of the first ones. -/
theorem Firsts.unique (hasymm : ∀ x y, R x y → ¬ R y x) (h : Firsts R P n found)
    (h' : Firsts R P n other) : other = found := by
  have hirrefl : Std.Irrefl R := ⟨fun x hx => hasymm x x hx hx⟩
  have hantisymm : Std.Antisymm R := ⟨fun x y hxy hyx => absurd hyx (hasymm x y hxy)⟩
  apply h'.ordered.eq_of_mem_iff h.ordered
  intro x
  exact ⟨fun hx => h'.mem_of_mem hasymm h hx, fun hx => h.mem_of_mem hasymm h' hx⟩

end Firsts

/-- A match reports a line of a content that has the needle in it, whatever its case: by its number
counted from one, and by what its first characters are without the white space around it. -/
def Reports (needle content : String) (m : LineMatch) : Prop :=
  ∃ line, 1 ≤ m.number ∧ (lines content.toList)[m.number - 1]? = some line ∧
    lower needle.toList <:+: lower line ∧ m.text = String.ofList ((trim line).take 70)

/-- Whether an artifact has the needle in a line, whatever its case. -/
def HasLine (needle : String) (a : LoadedArtifact) : Prop :=
  ∃ line ∈ lines a.content.toList, lower needle.toList <:+: lower line

instance (needle : String) (a : LoadedArtifact) : Decidable (HasLine needle a) :=
  inferInstanceAs (Decidable (∃ line ∈ lines a.content.toList, _))

/-- A hit shows an artifact by the first three lines of it that have the needle. -/
structure Shows (needle : String) (a : LoadedArtifact) (h : SearchHit) : Prop where
  name : h.name = a.name
  path : h.path = a.path
  found : Firsts (fun m m' => m.number < m'.number) (Reports needle a.content) 3 h.found

variable {p : Pool} {needle content : String} {a : LoadedArtifact} {shown : SearchHit}

/-! ## Lines -/

theorem pairwise_zipIdx {α : Type} (items : List α) (start : Nat) :
    (items.zipIdx start).Pairwise fun x y => x.2 < y.2 := by
  rw [← List.pairwise_map (f := Prod.snd) (R := (· < ·)), List.zipIdx_map_snd]
  exact List.pairwise_lt_range'

/-- All lines of a content that have the needle. -/
def allMatches (needle content : List Char) : List LineMatch :=
  (((lines content).zipIdx 1).filter fun (line, _) => occurs needle (lower line)).map
    fun (line, number) => ⟨number, excerpt line⟩

theorem matchingLines_eq (needle content : List Char) :
    matchingLines needle content = (allMatches needle content).take 3 :=
  List.map_take

theorem mem_allMatches {m : LineMatch} :
    m ∈ allMatches (lower needle.toList) content.toList ↔ Reports needle content m := by
  rw [allMatches, List.mem_map]
  constructor
  · rintro ⟨⟨line, number⟩, hfound, rfl⟩
    obtain ⟨hline, hneedle⟩ := List.mem_filter.mp hfound
    obtain ⟨hpos, hget⟩ := List.mk_mem_zipIdx_iff_le_and_getElem?_sub.mp hline
    exact ⟨line, hpos, hget, occurs_iff.mp hneedle, rfl⟩
  · rintro ⟨line, hpos, hget, hneedle, htext⟩
    refine ⟨(line, m.number), List.mem_filter.mpr ⟨?_, occurs_iff.mpr hneedle⟩, ?_⟩
    · exact List.mk_mem_zipIdx_iff_le_and_getElem?_sub.mpr ⟨hpos, hget⟩
    · show LineMatch.mk m.number (String.ofList ((trim line).take 70)) = m
      rw [← htext]

theorem firsts_matchingLines (needle content : String) :
    Firsts (fun m m' => m.number < m'.number) (Reports needle content) 3
      (matchingLines (lower needle.toList) content.toList) := by
  rw [matchingLines_eq]
  apply firsts_take
  · exact List.Pairwise.map _ (fun _ _ hlt => hlt) ((pairwise_zipIdx _ 1).filter _)
  · exact fun _ => mem_allMatches

theorem hasLine_of_reports {m : LineMatch} (h : Reports needle a.content m) :
    HasLine needle a := by
  obtain ⟨line, -, hget, hneedle, -⟩ := h
  exact ⟨line, List.mem_of_getElem? hget, hneedle⟩

theorem Shows.found_ne_nil (h : Shows needle a shown) (hline : HasLine needle a) :
    shown.found ≠ [] := by
  obtain ⟨line, hmem, hneedle⟩ := hline
  obtain ⟨k, hget⟩ := List.mem_iff_getElem?.mp hmem
  have hreports : Reports needle a.content ⟨k + 1, String.ofList ((trim line).take 70)⟩ :=
    ⟨line, Nat.le_add_left 1 k, hget, hneedle, rfl⟩
  obtain hfound | ⟨hfull, -⟩ := h.found.complete _ hreports
  · exact List.ne_nil_of_mem hfound
  · apply List.ne_nil_of_length_pos
    rw [hfull]
    decide

/-! ## Artifacts -/

/-- What a search finds in an artifact, be it nothing. -/
def hit (needle : List Char) (a : LoadedArtifact) : SearchHit :=
  ⟨a.name, a.path, matchingLines needle a.content.toList⟩

theorem shows_hit (needle : String) (a : LoadedArtifact) :
    Shows needle a (hit (lower needle.toList) a) :=
  ⟨rfl, rfl, firsts_matchingLines needle a.content⟩

theorem Shows.eq_hit (h : Shows needle a shown) : shown = hit (lower needle.toList) a := by
  have hfound : shown.found = matchingLines (lower needle.toList) a.content.toList :=
    (firsts_matchingLines needle a.content).unique (fun _ _ => Nat.lt_asymm) h.found
  show SearchHit.mk shown.name shown.path shown.found = SearchHit.mk _ _ _
  rw [h.name, h.path, hfound]

/-- All hits in a pool. -/
def allHits (p : Pool) (needle : List Char) : List SearchHit :=
  (p.loaded.map (hit needle)).filter fun h => !h.found.isEmpty

theorem pool_of_ne_nil (h : lower needle.toList ≠ []) :
    pool p needle = (allHits p (lower needle.toList)).take 10 :=
  if_neg (mt List.isEmpty_iff.mp h)

theorem pool_of_eq_nil (h : lower needle.toList = []) : pool p needle = [] :=
  if_pos (List.isEmpty_iff.mpr h)

theorem mem_allHits :
    shown ∈ allHits p (lower needle.toList) ↔
      ∃ a ∈ p.loaded, HasLine needle a ∧ Shows needle a shown := by
  rw [allHits, List.mem_filter, List.mem_map, Bool.not_eq_true', List.isEmpty_eq_false_iff]
  constructor
  · rintro ⟨⟨a, ha, rfl⟩, hfound⟩
    obtain ⟨m, hm⟩ := List.exists_mem_of_ne_nil _ hfound
    have hreports := (shows_hit needle a).found.sound m hm
    exact ⟨a, ha, hasLine_of_reports hreports, shows_hit needle a⟩
  · rintro ⟨a, ha, hline, hshows⟩
    exact ⟨⟨a, ha, hshows.eq_hit.symm⟩, hshows.found_ne_nil hline⟩

theorem ascending_allHits (p : Pool) (needle : List Char) :
    (allHits p needle).Pairwise fun h h' => h.path < h'.path := by
  apply List.Pairwise.filter
  rw [← List.pairwise_map (f := SearchHit.path) (R := (· < ·)), List.map_map]
  exact p.ascending_loaded

theorem firsts_pool (h : lower needle.toList ≠ []) (p : Pool) :
    Firsts (fun h h' => h.path < h'.path)
      (fun h => ∃ a ∈ p.loaded, HasLine needle a ∧ Shows needle a h) 10 (pool p needle) := by
  rw [pool_of_ne_nil h]
  exact firsts_take (ascending_allHits p _) (fun _ => mem_allHits) 10

theorem eq_pool_iff (h : lower needle.toList ≠ []) (p : Pool) (hits : List SearchHit) :
    hits = pool p needle ↔ Firsts (fun h h' => h.path < h'.path)
      (fun h => ∃ a ∈ p.loaded, HasLine needle a ∧ Shows needle a h) 10 hits := by
  constructor
  · rintro rfl
    exact firsts_pool h p
  · exact (firsts_pool h p).unique fun _ _ => String.lt_asymm

/-- A search for a needle with an empty lower-case form finds nothing. Any other finds, in the order
of paths, the first ten loaded artifacts that have the needle in a line, and of each its first three
such lines in order; the hits are the one list of which this is true. Artifacts that failed or have
no such line take up no place: pools that have the others in common have the same hits. -/
theorem pool_finds_first (p : Pool) (needle : String) :
    (lower needle.toList = [] → pool p needle = []) ∧
    (lower needle.toList ≠ [] → ∀ hits, hits = pool p needle ↔
      Firsts (fun h h' => h.path < h'.path)
        (fun h => ∃ a ∈ p.loaded, HasLine needle a ∧ Shows needle a h) 10 hits) ∧
    ∀ q : Pool, (∀ a, HasLine needle a → (a ∈ q.loaded ↔ a ∈ p.loaded)) →
      pool q needle = pool p needle := by
  refine ⟨pool_of_eq_nil, fun hneedle => eq_pool_iff hneedle p, fun q hsame => ?_⟩
  by_cases hneedle : lower needle.toList = []
  · rw [pool_of_eq_nil hneedle, pool_of_eq_nil hneedle]
  · have hcondition : (fun h => ∃ a ∈ q.loaded, HasLine needle a ∧ Shows needle a h) =
        fun h => ∃ a ∈ p.loaded, HasLine needle a ∧ Shows needle a h := by
      funext h
      apply propext
      apply exists_congr
      intro a
      exact and_congr_left fun hfound => hsame a hfound.1
    rw [eq_pool_iff hneedle, ← hcondition]
    exact firsts_pool hneedle q

/-- Eleven files have four lines with the needle each; the one that failed and the one without the
needle stand before them and take up no place. -/
theorem pool_finds_first_full :
    let content := "hit\n\n  A HIT \nno\nhits\nhit"
    let matched : Pool := ["a", "b", "c", "d", "e", "f", "g", "h", "i", "j", "k"].foldl
      (fun p path => p.insert (.ofContent path content)) .empty
    let p := (matched.insert (.ofFailure "0" "hit")).insert (.ofContent "1" "no line")
    lower "Hit".toList ≠ [] ∧
    Firsts (fun h h' => h.path < h'.path)
      (fun h => ∃ a ∈ p.loaded, HasLine "Hit" a ∧ Shows "Hit" a h) 10 (pool p "Hit") ∧
    (pool p "Hit").map (·.path) = ["a", "b", "c", "d", "e", "f", "g", "h", "i", "j"] ∧
    (∀ h ∈ pool p "Hit", h.found = [⟨1, "hit"⟩, ⟨3, "A HIT"⟩, ⟨5, "hits"⟩]) ∧
    pool matched "Hit" = pool p "Hit" := by
  intro content matched p
  obtain ⟨-, hfirsts, hsame⟩ := pool_finds_first p "Hit"
  have hneedle : lower "Hit".toList ≠ [] := by decide +kernel
  refine ⟨hneedle, (hfirsts hneedle _).mp rfl, ?_, ?_, hsame matched ?_⟩
  · decide +kernel
  · decide +kernel
  · intro a hline
    have hloaded : p.loaded = ⟨"1", "1", "no line", "no line", 1, 2⟩ :: matched.loaded := by
      decide +kernel
    rw [hloaded, List.mem_cons]
    refine ⟨.inr, fun hmem => hmem.resolve_left ?_⟩
    rintro rfl
    exact absurd hline (by decide +kernel)

end FileChat.Search
