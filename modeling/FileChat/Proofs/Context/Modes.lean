import Mathlib.Data.List.Basic
import FileChat.Proofs.Context.Budget

/-!
# What a mode changes

A mode and a threshold say which form of each artifact is preferred, and nothing else. So two of
them that prefer the same forms assemble the same context. Where every summary is the content
itself, there is no shorter text to fall back on, and each form costs what the other one costs: the
decisions of one mode, with the forms that another prefers, are those of the other.
-/
namespace FileChat

/-- What is recorded of an inclusion but for its form. -/
def Included.listed (i : Included) : String × String × UInt32 × Nat :=
  (i.path, i.name, i.score, i.tokens)

/-- Two contexts that differ at most in the forms that they record. -/
structure Context.Alike (x y : Context) : Prop where
  text : x.text = y.text
  skipped : x.skipped = y.skipped
  usedTokens : x.usedTokens = y.usedTokens
  included : x.included.map Included.listed = y.included.map Included.listed

namespace Assembler

variable {c c' : Assembler} {mode mode' : Mode} {scored : List Scored} {s : Scored}

/-! ## Preferred forms -/

theorem preferred_smart_of_lt {score : UInt32} (h : c.threshold < score) :
    c.preferred .smart score = .full :=
  if_pos h

theorem preferred_smart_of_le {score : UInt32} (h : score ≤ c.threshold) :
    c.preferred .smart score = .summary :=
  if_neg (UInt32.not_lt.mpr h)

/-- A context depends on mode and threshold only through the forms that they prefer. -/
theorem assemble_congr (hbudget : c'.budget = c.budget)
    (h : ∀ s ∈ scored, c'.preferred mode' s.score = c.preferred mode s.score) :
    c'.assemble mode' scored = c.assemble mode scored := by
  have hadd : ∀ (d : Draft), ∀ s ∈ scored, c'.add mode' d s = c.add mode d s := by
    intro d s hs
    rw [add, add, h s hs]
  unfold assemble
  rw [List.foldl_ext _ _ _ hadd, hbudget]

/-! ## Summaries that are the content -/

theorem text_eq_content (h : s.artifact.summary = s.artifact.content) (form : Form) :
    form.text s.artifact = s.artifact.content := by
  cases form with
  | full => rfl
  | summary => exact h

theorem cost_eq_of_same (h : s.artifact.summary = s.artifact.content) (form form' : Form) :
    cost s form = cost s form' := by
  rw [cost, cost, text_eq_content h, text_eq_content h]

/-- There is no shorter text than the content to fall back on. -/
theorem permitted_of_same (h : s.artifact.summary = s.artifact.content) (c : Assembler)
    (mode : Mode) : c.permitted mode s = [c.preferred mode s.score] := by
  have hshorter : ¬ s.artifact.summary.utf8ByteSize < s.artifact.content.utf8ByteSize := by
    rw [h]
    exact Nat.lt_irrefl _
  unfold permitted
  rw [if_neg hshorter]
  split
  · next hfull => rw [preferred_eq_full_iff.mpr hfull]
  · next hfull =>
    cases hpreferred : c.preferred mode s.score with
    | full => exact absurd (preferred_eq_full_iff.mp hpreferred) hfull
    | summary => rfl

theorem firstFit_of_same (h : s.artifact.summary = s.artifact.content) {left : Nat} {form : Form}
    (hfit : c.FirstFit mode s left form) (c' : Assembler) (mode' : Mode) :
    c'.FirstFit mode' s left (c'.preferred mode' s.score) := by
  obtain ⟨_, _, _, _, hcost⟩ := hfit
  rw [cost_eq_of_same h form (c'.preferred mode' s.score)] at hcost
  exact ⟨[], [], permitted_of_same h c' mode', by simp, hcost⟩

theorem none_fits_of_same (h : s.artifact.summary = s.artifact.content) {left : Nat}
    (hnone : ∀ f ∈ c.permitted mode s, left < cost s f) (c' : Assembler) (mode' : Mode) :
    ∀ f ∈ c'.permitted mode' s, left < cost s f := by
  intro f _
  rw [cost_eq_of_same h f (c.preferred mode s.score)]
  apply hnone
  rw [permitted_of_same h]
  exact List.mem_singleton_self _

/-- A decision as it is recorded where another form is preferred. -/
def Decision.recast (c : Assembler) (mode : Mode) (d : Decision) : Decision :=
  ⟨d.entry, d.form.map fun _ => c.preferred mode d.entry.score⟩

/-- The decisions of one mode, in the forms of another one, are the decisions of that one: in each
the same is left at every entry. -/
theorem Greedy.recast {left final : Nat} {ds : List Decision} (h : c.Greedy mode left ds final)
    (hsame : ∀ d ∈ ds, d.entry.artifact.summary = d.entry.artifact.content) (c' : Assembler)
    (mode' : Mode) : c'.Greedy mode' left (ds.map (Decision.recast c' mode')) final := by
  induction h with
  | done => exact .done
  | @take left left' final s form ds hfit hcost _ ih =>
    have hs : s.artifact.summary = s.artifact.content := hsame ⟨s, some form⟩ List.mem_cons_self
    have hrest := ih fun d hd => hsame d (List.mem_cons_of_mem _ hd)
    rw [cost_eq_of_same hs form (c'.preferred mode' s.score)] at hcost
    exact .take (firstFit_of_same hs hfit c' mode') hcost hrest
  | @skip left final s ds hnone _ ih =>
    have hs : s.artifact.summary = s.artifact.content := hsame ⟨s, none⟩ List.mem_cons_self
    have hrest := ih fun d hd => hsame d (List.mem_cons_of_mem _ hd)
    exact .skip (none_fits_of_same hs hnone c' mode') hrest

/-! ## What is shown of a decision in another form -/

theorem Decision.skipped?_recast (d : Decision) (c : Assembler) (mode : Mode) :
    (d.recast c mode).skipped? = d.skipped? := by
  obtain ⟨s, form⟩ := d
  cases form <;> rfl

theorem Decision.part_recast {d : Decision}
    (h : d.entry.artifact.summary = d.entry.artifact.content) (c : Assembler) (mode : Mode) :
    (d.recast c mode).part = d.part := by
  obtain ⟨s, form⟩ := d
  cases form with
  | none => rfl
  | some form =>
    show label s ++ (c.preferred mode s.score).text s.artifact ++ "\n" =
      label s ++ form.text s.artifact ++ "\n"
    rw [text_eq_content h, text_eq_content h]

theorem Decision.listed_recast {d : Decision}
    (h : d.entry.artifact.summary = d.entry.artifact.content) (c : Assembler) (mode : Mode) :
    (d.recast c mode).included?.map Included.listed = d.included?.map Included.listed := by
  obtain ⟨s, form⟩ := d
  cases form with
  | none => rfl
  | some form =>
    show some (s.artifact.path, s.artifact.name, s.score, cost s (c.preferred mode s.score)) =
      some (s.artifact.path, s.artifact.name, s.score, cost s form)
    rw [cost_eq_of_same h (c.preferred mode s.score) form]

section Recast

variable {ds : List Decision} (h : ∀ d ∈ ds, d.entry.artifact.summary = d.entry.artifact.content)

include h

theorem parts_recast (c : Assembler) (mode : Mode) :
    (ds.map (Decision.recast c mode)).map Decision.part = ds.map Decision.part := by
  rw [List.map_map]
  exact List.map_congr_left fun d hd => Decision.part_recast (h d hd) c mode

theorem listed_recast (c : Assembler) (mode : Mode) :
    ((ds.map (Decision.recast c mode)).filterMap Decision.included?).map Included.listed =
      (ds.filterMap Decision.included?).map Included.listed := by
  rw [List.filterMap_map, List.map_filterMap, List.map_filterMap]
  exact List.filterMap_congr fun d hd => Decision.listed_recast (h d hd) c mode

end Recast

theorem skipped_recast (ds : List Decision) (c : Assembler) (mode : Mode) :
    (ds.map (Decision.recast c mode)).filterMap Decision.skipped? =
      ds.filterMap Decision.skipped? := by
  rw [List.filterMap_map]
  exact List.filterMap_congr fun d _ => d.skipped?_recast c mode

/-- Decisions in other forms make a context that is alike. -/
theorem alike_recast {ds : List Decision}
    (h : ∀ d ∈ ds, d.entry.artifact.summary = d.entry.artifact.content) (left : Nat)
    (hbudget : c'.budget = c.budget) :
    (c.ofDecisions ds left).Alike
      (c'.ofDecisions (ds.map (Decision.recast c' mode')) left) := by
  have hlisted := listed_recast h c' mode'
  have hcount := congrArg List.length hlisted
  rw [List.length_map, List.length_map] at hcount
  by_cases hds : ds = []
  · rw [hds, List.map_nil, ofDecisions, if_pos rfl, ofDecisions, if_pos rfl]
    exact ⟨rfl, rfl, rfl, rfl⟩
  · have hmap : ds.map (Decision.recast c' mode') ≠ [] := mt List.map_eq_nil_iff.mp hds
    rw [ofDecisions, if_neg hds, ofDecisions, if_neg hmap, parts_recast h, skipped_recast, hcount,
      hbudget]
    exact ⟨rfl, rfl, rfl, hlisted.symm⟩

theorem assemble_alike (h : ∀ s ∈ scored, s.artifact.summary = s.artifact.content)
    (hbudget : c'.budget = c.budget) :
    (c.assemble mode scored).Alike (c'.assemble mode' scored) := by
  obtain ⟨ds, left, hgreedy, hentries, heq⟩ := assemble_eq_ofDecisions c mode scored
  obtain ⟨ds', left', hgreedy', hentries', heq'⟩ := assemble_eq_ofDecisions c' mode' scored
  have hsame : ∀ d ∈ ds, d.entry.artifact.summary = d.entry.artifact.content := by
    intro d hd
    apply h
    rw [← hentries]
    exact List.mem_map_of_mem hd
  have hrecast := hgreedy.recast hsame c' mode'
  rw [← hbudget] at hrecast
  have hkept : ds'.map (·.entry) = (ds.map (Decision.recast c' mode')).map (·.entry) := by
    rw [hentries', ← hentries, List.map_map]
    rfl
  obtain ⟨rfl, rfl⟩ := hrecast.unique hgreedy' hkept
  rw [heq, heq']
  exact alike_recast hsame _ hbudget

/-- The smart mode is the full one if all scores are above the threshold, and the summary one if
none is. If every summary is the content itself, then all modes and all thresholds make contexts
that are alike: of the same text, with the same artifacts included at the same tokens and the same
ones skipped. -/
theorem assemble_modes (c : Assembler) (scored : List Scored) :
    ((∀ s ∈ scored, c.threshold < s.score) →
      c.assemble .smart scored = c.assemble .full scored) ∧
    ((∀ s ∈ scored, s.score ≤ c.threshold) →
      c.assemble .smart scored = c.assemble .summary scored) ∧
    ((∀ s ∈ scored, s.artifact.summary = s.artifact.content) →
      ∀ (mode mode' : Mode) (threshold threshold' : UInt32),
        (assemble ⟨c.budget, threshold⟩ mode scored).Alike
          (assemble ⟨c.budget, threshold'⟩ mode' scored)) := by
  refine ⟨fun habove => ?_, fun hbelow => ?_, fun hsame mode mode' threshold threshold' => ?_⟩
  · apply assemble_congr rfl
    exact fun s hs => preferred_smart_of_lt (habove s hs)
  · apply assemble_congr rfl
    exact fun s hs => preferred_smart_of_le (hbelow s hs)
  · exact assemble_alike hsame rfl

/-- Two files of four tokens, of which only the first one fits into five. Above the threshold the
second one falls back on its summary, at the threshold and below it both are summaries. Without a
shorter summary the second one is skipped, and the form recorded of the first one is all that a
mode changes. -/
theorem assemble_modes_five_tokens :
    let file (name summary : String) (score : UInt32) : Scored :=
      ⟨{ path := name, name, content := "let x = y + z;", summary, lines := 1, tokens := 4 }, score⟩
    let c : Assembler := ⟨5, 50⟩
    let above := [file "a.rs" "let x" 52, file "b.rs" "let x" 51]
    let below := [file "a.rs" "let x" 50, file "b.rs" "let x" 49]
    let same := [file "a.rs" "let x = y + z;" 51, file "b.rs" "let x = y + z;" 50]
    let forms (context : Context) := context.included.map (·.form)
    (c.assemble .smart above = c.assemble .full above ∧
      forms (c.assemble .smart above) = [.full, .summary]) ∧
    (c.assemble .smart below = c.assemble .summary below ∧
      forms (c.assemble .smart below) = [.summary, .summary]) ∧
    ((c.assemble .smart same).Alike (assemble ⟨5, 51⟩ .smart same) ∧
      (c.assemble .smart same).skipped = ["b.rs"] ∧
      forms (c.assemble .smart same) = [.full] ∧
      forms (assemble ⟨5, 51⟩ .smart same) = [.summary]) := by
  intro file c above below same forms
  have habove : ∀ s ∈ above, c.threshold < s.score := by decide
  have hbelow : ∀ s ∈ below, s.score ≤ c.threshold := by decide
  have hsame : ∀ s ∈ same, s.artifact.summary = s.artifact.content := by decide
  have hfull := (assemble_modes c above).1 habove
  have hsummary := (assemble_modes c below).2.1 hbelow
  have halike := (assemble_modes c same).2.2 hsame .smart .smart 50 51
  refine ⟨⟨hfull, ?_⟩, ⟨hsummary, ?_⟩, halike, ?_, ?_, ?_⟩ <;> decide +kernel

end Assembler
end FileChat
