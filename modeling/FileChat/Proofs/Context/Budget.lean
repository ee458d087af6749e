import FileChat.Assembly
import Mathlib.Algebra.Ring.Nat

/-!
# The greedy budget law of assembly

`Greedy` says, without the accumulators of the assembler, what a pass over ranked artifacts decides:
each in turn comes in the first permitted form that fits into what is left, or is skipped when none
of them fits. What a form takes from the budget is stated by addition, so the law itself excludes a
subtraction that underflows. The law allows exactly one list of decisions for a list of artifacts,
and the assembled context is its record.
-/
namespace FileChat.Assembler

/-- The tokens that an artifact takes up in a form. -/
def cost (s : Scored) (form : Form) : Nat := tokens (form.text s.artifact)

/-- The forms in which an artifact may come, in the order in which they are tried. -/
def permitted (c : Assembler) (mode : Mode) (s : Scored) : List Form :=
  if mode = .full ∨ mode = .smart ∧ c.threshold < s.score then
    if s.artifact.summary.utf8ByteSize < s.artifact.content.utf8ByteSize then [.full, .summary]
    else [.full]
  else [.summary]

/-- The first permitted form that fits into what is left. -/
def FirstFit (c : Assembler) (mode : Mode) (s : Scored) (left : Nat) (form : Form) : Prop :=
  ∃ tried later, c.permitted mode s = tried ++ form :: later ∧
    (∀ f ∈ tried, left < cost s f) ∧ cost s form ≤ left

/-- What becomes of an artifact: it comes in a form, or it is skipped. -/
structure Decision where
  entry : Scored
  form : Option Form
  deriving DecidableEq, Repr

/-- The line above a text in the block. -/
def label (s : Scored) : String :=
  "\n--- FILE: " ++ s.artifact.name ++ " (relevance: " ++ toString s.score.toNat ++ ") ---\n"

/-- The line that is left of an artifact that is skipped. -/
def mark (s : Scored) : String :=
  "\n[Skipped: " ++ s.artifact.name ++ " - budget exhausted]"

/-- The first line of the block. -/
def opening : String := "=== PROVIDED CODE CONTEXT ==="

/-- The last line of the block. -/
def closing (files used : Nat) : String :=
  "\n=== END CONTEXT (" ++ toString files ++ " files, ~" ++ toString used ++ " tokens) ==="

namespace Decision

def included? (d : Decision) : Option Included :=
  d.form.map fun form =>
    ⟨d.entry.artifact.path, d.entry.artifact.name, d.entry.score, form, cost d.entry form⟩

def skipped? (d : Decision) : Option String :=
  match d.form with
  | some _ => none
  | none => some d.entry.artifact.name

/-- What the block shows of a decision: the text of the form, whole, under its label, or a mark. -/
def part (d : Decision) : String :=
  match d.form with
  | some form => label d.entry ++ form.text d.entry.artifact ++ "\n"
  | none => mark d.entry

end Decision

/-- `Greedy c mode left ds final`: with so many tokens left, the decisions on the entries of `ds`
are those of `ds`, and so many tokens are left after them. -/
inductive Greedy (c : Assembler) (mode : Mode) : Nat → List Decision → Nat → Prop
  | done {left : Nat} : Greedy c mode left [] left
  | take {left left' final : Nat} {s : Scored} {form : Form} {ds : List Decision} :
      c.FirstFit mode s left form → cost s form + left' = left → Greedy c mode left' ds final →
      Greedy c mode left (⟨s, some form⟩ :: ds) final
  | skip {left final : Nat} {s : Scored} {ds : List Decision} :
      (∀ f ∈ c.permitted mode s, left < cost s f) → Greedy c mode left ds final →
      Greedy c mode left (⟨s, none⟩ :: ds) final

/-- The tokens recorded for what came into the block. -/
def includedTokens (xs : List Included) : Nat := xs.foldr (fun i total => i.tokens + total) 0

theorem includedTokens_eq_sum (xs : List Included) :
    includedTokens xs = (xs.map (·.tokens)).sum := by
  rw [includedTokens, List.sum_eq_foldr, List.foldr_map]

/-! ## The choice of a form -/

theorem preferred_eq_full_iff {c : Assembler} {mode : Mode} {score : UInt32} :
    c.preferred mode score = .full ↔ mode = .full ∨ mode = .smart ∧ c.threshold < score := by
  cases mode with
  | full => simp [preferred]
  | smart => by_cases h : c.threshold < score <;> simp [preferred, h]
  | summary => simp [preferred]

/-- The assembler's preference and its fallback are a search of the permitted forms. -/
theorem fit_eq_find? (c : Assembler) (mode : Mode) (s : Scored) (left : Nat) :
    fit (c.preferred mode s.score) s.artifact left =
      (c.permitted mode s).find? fun f => decide (cost s f ≤ left) := by
  cases hp : c.preferred mode s.score with
  | full =>
    rw [permitted, if_pos (preferred_eq_full_iff.mp hp), fit]
    change (if cost s .full ≤ left then some Form.full
      else if _ ∧ _ ∧ cost s .summary ≤ left then some Form.summary else none) = _
    by_cases hfull : cost s .full ≤ left
    · rw [if_pos hfull]
      split <;> simp [hfull]
    · rw [if_neg hfull]
      by_cases hshort : s.artifact.summary.utf8ByteSize < s.artifact.content.utf8ByteSize
      · by_cases hsummary : cost s .summary ≤ left <;> simp [hfull, hshort, hsummary]
      · simp [hfull, hshort]
  | summary =>
    have hnot : ¬ (mode = .full ∨ mode = .smart ∧ c.threshold < s.score) := fun h => by
      rw [preferred_eq_full_iff.mpr h] at hp
      cases hp
    rw [permitted, if_neg hnot, fit]
    change (if cost s .summary ≤ left then some Form.summary else _) = _
    by_cases hsummary : cost s .summary ≤ left <;> simp [hsummary]

theorem fit_eq_some_iff {c : Assembler} {mode : Mode} {s : Scored} {left : Nat} {form : Form} :
    fit (c.preferred mode s.score) s.artifact left = some form ↔ c.FirstFit mode s left form := by
  rw [fit_eq_find?, List.find?_eq_some_iff_append, FirstFit]
  constructor
  · rintro ⟨hform, tried, later, heq, htried⟩
    refine ⟨tried, later, heq, fun f hf => ?_, of_decide_eq_true hform⟩
    have h := htried f hf
    simp only [Bool.not_eq_true', decide_eq_false_iff_not] at h
    omega
  · rintro ⟨tried, later, heq, htried, hform⟩
    refine ⟨decide_eq_true hform, tried, later, heq, fun f hf => ?_⟩
    have h := htried f hf
    simp only [Bool.not_eq_true', decide_eq_false_iff_not]
    omega

theorem fit_eq_none_iff {c : Assembler} {mode : Mode} {s : Scored} {left : Nat} :
    fit (c.preferred mode s.score) s.artifact left = none ↔
      ∀ f ∈ c.permitted mode s, left < cost s f := by
  rw [fit_eq_find?, List.find?_eq_none]
  simp only [decide_eq_true_eq, Nat.not_le]

theorem FirstFit.unique {c : Assembler} {mode : Mode} {s : Scored} {left : Nat} {f g : Form}
    (hf : c.FirstFit mode s left f) (hg : c.FirstFit mode s left g) : f = g := by
  rw [← fit_eq_some_iff] at hf hg
  exact Option.some.inj (hf.symm.trans hg)

/-- A form that fits is permitted, so no artifact is both taken and skipped. -/
theorem FirstFit.exists_fitting {c : Assembler} {mode : Mode} {s : Scored} {left : Nat}
    {form : Form} (h : c.FirstFit mode s left form) :
    ¬ ∀ f ∈ c.permitted mode s, left < cost s f := by
  obtain ⟨tried, later, heq, _, hfit⟩ := h
  intro hnone
  have hmem : form ∈ c.permitted mode s := by rw [heq]; simp
  have := hnone form hmem
  omega

/-! ## The law -/

/-- The law determines the decisions and what they leave. -/
theorem Greedy.unique {c : Assembler} {mode : Mode} {left final final' : Nat}
    {ds ds' : List Decision} (h : c.Greedy mode left ds final) (h' : c.Greedy mode left ds' final')
    (hentries : ds'.map (·.entry) = ds.map (·.entry)) : ds' = ds ∧ final' = final := by
  induction h generalizing ds' with
  | done =>
    obtain rfl : ds' = [] := by simpa using hentries
    cases h'
    exact ⟨rfl, rfl⟩
  | take hfit hcost _ ih =>
    cases h' with
    | done => simp at hentries
    | take hfit' hcost' hrest' =>
      simp only [List.map_cons, List.cons.injEq] at hentries
      obtain ⟨rfl, htail⟩ := hentries
      obtain rfl := hfit.unique hfit'
      obtain rfl := Nat.add_left_cancel (hcost'.trans hcost.symm)
      obtain ⟨rfl, rfl⟩ := ih hrest' htail
      exact ⟨rfl, rfl⟩
    | skip hnone' _ =>
      simp only [List.map_cons, List.cons.injEq] at hentries
      obtain ⟨rfl, _⟩ := hentries
      exact absurd hnone' hfit.exists_fitting
  | skip hnone _ ih =>
    cases h' with
    | done => simp at hentries
    | take hfit' _ _ =>
      simp only [List.map_cons, List.cons.injEq] at hentries
      obtain ⟨rfl, _⟩ := hentries
      exact absurd hnone hfit'.exists_fitting
    | skip _ hrest' =>
      simp only [List.map_cons, List.cons.injEq] at hentries
      obtain ⟨rfl, htail⟩ := hentries
      obtain ⟨rfl, rfl⟩ := ih hrest' htail
      exact ⟨rfl, rfl⟩

/-- What was included and what is left add up to what there was. -/
theorem Greedy.included_add_left {c : Assembler} {mode : Mode} {left final : Nat}
    {ds : List Decision} (h : c.Greedy mode left ds final) :
    includedTokens (ds.filterMap Decision.included?) + final = left := by
  induction h with
  | done => simp [includedTokens]
  | take _ hcost _ ih =>
    simp only [includedTokens, Decision.included?, List.filterMap_cons, Option.map_some,
      List.foldr_cons] at ih ⊢
    omega
  | skip _ _ ih =>
    rw [List.filterMap_cons]
    exact ih

/-- Every decision is recorded on exactly one of the two lists. -/
theorem length_included_add_skipped (ds : List Decision) :
    (ds.filterMap Decision.included?).length + (ds.filterMap Decision.skipped?).length =
      ds.length := by
  induction ds with
  | nil => rfl
  | cons d ds ih =>
    obtain ⟨s, form⟩ := d
    cases form <;>
      simp only [Decision.included?, Decision.skipped?, List.filterMap_cons, Option.map_some,
        Option.map_none, List.length_cons] at ih ⊢ <;> omega

/-! ## The pass -/

/-- A draft that has recorded some decisions more than another. -/
structure Draft.Records (before after : Draft) (ds : List Decision) : Prop where
  parts : after.parts = (ds.map Decision.part).reverse ++ before.parts
  included : after.included = (ds.filterMap Decision.included?).reverse ++ before.included
  skipped : after.skipped = (ds.filterMap Decision.skipped?).reverse ++ before.skipped

/-- The draft before the first artifact. -/
def blank (c : Assembler) : Draft := ⟨[header], [], [], c.budget⟩

theorem Draft.Records.trans {a b d : Draft} {ds es : List Decision} (h : Draft.Records a b ds)
    (h' : Draft.Records b d es) : Draft.Records a d (ds ++ es) := by
  constructor
  · rw [h'.parts, h.parts]; simp
  · rw [h'.included, h.included]; simp
  · rw [h'.skipped, h.skipped]; simp

/-- One artifact more is one decision of the law, recorded. -/
theorem add_greedy (c : Assembler) (mode : Mode) (d : Draft) (s : Scored) :
    ∃ form, Draft.Records d (c.add mode d s) [⟨s, form⟩] ∧
      c.Greedy mode d.left [⟨s, form⟩] (c.add mode d s).left := by
  cases hfit : fit (c.preferred mode s.score) s.artifact d.left with
  | none =>
    have hadd : c.add mode d s = { d with
        parts := skipMarker s.artifact :: d.parts
        skipped := s.artifact.name :: d.skipped } := by rw [add, hfit]
    rw [hadd]
    exact ⟨none, ⟨rfl, rfl, rfl⟩, .skip (fit_eq_none_iff.mp hfit) .done⟩
  | some form =>
    have hadd : c.add mode d s = { d with
        parts := block s.artifact s.score form :: d.parts
        included := ⟨s.artifact.path, s.artifact.name, s.score, form, cost s form⟩ :: d.included
        left := d.left - cost s form } := by rw [add, hfit]; rfl
    have hfirst := fit_eq_some_iff.mp hfit
    obtain ⟨_, _, _, _, hle⟩ := id hfirst
    rw [hadd]
    refine ⟨some form, ⟨rfl, rfl, rfl⟩, .take hfirst ?_ .done⟩
    change cost s form + (d.left - cost s form) = d.left
    omega

theorem Greedy.append {c : Assembler} {mode : Mode} {left mid final : Nat} {ds es : List Decision}
    (h : c.Greedy mode left ds mid) (h' : c.Greedy mode mid es final) :
    c.Greedy mode left (ds ++ es) final := by
  induction h with
  | done => exact h'
  | take hfit hcost _ ih => exact .take hfit hcost (ih h')
  | skip hnone _ ih => exact .skip hnone (ih h')

/-- The pass decides as the law says, and records each decision once. -/
theorem foldl_add_greedy (c : Assembler) (mode : Mode) (scored : List Scored) (d : Draft) :
    ∃ ds, ds.map (·.entry) = scored ∧ Draft.Records d (scored.foldl (c.add mode) d) ds ∧
      c.Greedy mode d.left ds (scored.foldl (c.add mode) d).left := by
  induction scored generalizing d with
  | nil => exact ⟨[], rfl, ⟨rfl, rfl, rfl⟩, .done⟩
  | cons s scored ih =>
    obtain ⟨form, hrec, hstep⟩ := add_greedy c mode d s
    obtain ⟨ds, hentries, hrecs, hrest⟩ := ih (c.add mode d s)
    refine ⟨⟨s, form⟩ :: ds, by simp [hentries], hrec.trans hrecs, hstep.append hrest⟩

/-- Since the lists of a draft are in reverse, the decisions recorded in it come out in order. -/
theorem Draft.Records.reverse_of_blank {c : Assembler} {d : Draft} {ds : List Decision}
    (h : Draft.Records c.blank d ds) :
    d.parts.reverse = opening :: ds.map Decision.part ∧
      d.included.reverse = ds.filterMap Decision.included? ∧
      d.skipped.reverse = ds.filterMap Decision.skipped? := by
  refine ⟨?_, ?_, ?_⟩
  · rw [h.parts, List.reverse_append, List.reverse_reverse]; rfl
  · rw [h.included, List.reverse_append, List.reverse_reverse]; rfl
  · rw [h.skipped, List.reverse_append, List.reverse_reverse]; rfl

/-- The context that records some decisions, after which so many tokens are left. -/
def ofDecisions (c : Assembler) (ds : List Decision) (left : Nat) : Context :=
  if ds = [] then {}
  else
    { text := String.intercalate "\n" (opening :: ds.map Decision.part ++
        [closing (ds.filterMap Decision.included?).length (c.budget - left)])
      included := ds.filterMap Decision.included?
      skipped := ds.filterMap Decision.skipped?
      usedTokens := c.budget - left }

/-- The assembled context records decisions on all artifacts that follow the law. -/
theorem assemble_eq_ofDecisions (c : Assembler) (mode : Mode) (scored : List Scored) :
    ∃ ds left, c.Greedy mode c.budget ds left ∧ ds.map (·.entry) = scored ∧
      c.assemble mode scored = c.ofDecisions ds left := by
  obtain ⟨ds, hentries, hrec, hgreedy⟩ := foldl_add_greedy c mode scored c.blank
  refine ⟨ds, _, hgreedy, hentries, ?_⟩
  by_cases hne : scored = []
  · subst hne
    obtain rfl : ds = [] := by simpa using hentries
    rfl
  · have hds : ds ≠ [] := by
      rintro rfl
      exact hne hentries.symm
    have hempty : ¬ scored.isEmpty = true := by simpa using hne
    obtain ⟨hparts, hincluded, hskipped⟩ := hrec.reverse_of_blank
    rw [ofDecisions, if_neg hds, assemble, if_neg hempty]
    change Context.mk _ _ _ _ = _
    rw [List.reverse_cons, ← hincluded, ← hskipped, List.length_reverse, ← hparts]
    rfl

/-! ## The assembled context -/

theorem included_ofDecisions (c : Assembler) (ds : List Decision) (left : Nat) :
    (c.ofDecisions ds left).included = ds.filterMap Decision.included? := by
  unfold ofDecisions
  split
  · next h => rw [h]; rfl
  · rfl

theorem skipped_ofDecisions (c : Assembler) (ds : List Decision) (left : Nat) :
    (c.ofDecisions ds left).skipped = ds.filterMap Decision.skipped? := by
  unfold ofDecisions
  split
  · next h => rw [h]; rfl
  · rfl

theorem usedTokens_ofDecisions {c : Assembler} {mode : Mode} {ds : List Decision} {left : Nat}
    (h : c.Greedy mode c.budget ds left) :
    (c.ofDecisions ds left).usedTokens = includedTokens (ds.filterMap Decision.included?) := by
  have hsum := h.included_add_left
  unfold ofDecisions
  split
  · next hds => rw [hds]; rfl
  · change c.budget - left = _
    omega

/-- The tokens recorded in a context never exceed the budget. -/
theorem includedTokens_assemble_le (c : Assembler) (mode : Mode) (scored : List Scored) :
    includedTokens (c.assemble mode scored).included ≤ c.budget := by
  obtain ⟨ds, left, hgreedy, _, heq⟩ := assemble_eq_ofDecisions c mode scored
  have hsum := hgreedy.included_add_left
  rw [heq, included_ofDecisions]
  omega

/-- The block is empty only if there was nothing to assemble. -/
theorem text_assemble_eq_empty_iff (c : Assembler) (mode : Mode) (scored : List Scored) :
    (c.assemble mode scored).text = "" ↔ scored = [] := by
  obtain ⟨ds, left, _, rfl, heq⟩ := assemble_eq_ofDecisions c mode scored
  rw [heq, ofDecisions, List.map_eq_nil_iff]
  constructor
  · intro htext
    by_cases hds : ds = []
    · exact hds
    · rw [if_neg hds] at htext
      change String.intercalate "\n" (opening :: (ds.map Decision.part ++ _)) = "" at htext
      rw [String.intercalate_cons_of_ne_nil (by simp), String.append_assoc,
        String.append_eq_empty_iff] at htext
      exact absurd htext.1 (by decide)
  · intro hds
    rw [if_pos hds]

/-- Assembly is the greedy budget law. The law allows one list of decisions, one for each artifact
in order; what is included and what is skipped are the two kinds of them; the tokens used are those
of the included texts and never more than the budget; and the text is the first line, what each
decision shows, and the last line. -/
theorem assemble_greedy (c : Assembler) (mode : Mode) (scored : List Scored) :
    ∃ ds left, c.Greedy mode c.budget ds left ∧ ds.map (·.entry) = scored ∧
      (∀ ds' left', c.Greedy mode c.budget ds' left' → ds'.map (·.entry) = scored →
        ds' = ds ∧ left' = left) ∧
      (c.assemble mode scored).included = ds.filterMap Decision.included? ∧
      (c.assemble mode scored).skipped = ds.filterMap Decision.skipped? ∧
      (c.assemble mode scored).included.length + (c.assemble mode scored).skipped.length =
        scored.length ∧
      (c.assemble mode scored).usedTokens = includedTokens (c.assemble mode scored).included ∧
      (c.assemble mode scored).usedTokens + left = c.budget ∧
      (c.assemble mode scored).text =
        if scored = [] then "" else
          String.intercalate "\n" (opening :: ds.map Decision.part ++
            [closing (c.assemble mode scored).included.length
              (c.assemble mode scored).usedTokens]) := by
  obtain ⟨ds, left, hgreedy, rfl, heq⟩ := assemble_eq_ofDecisions c mode scored
  have hused := usedTokens_ofDecisions hgreedy
  have hsum := hgreedy.included_add_left
  rw [heq, included_ofDecisions, skipped_ofDecisions, hused, List.length_map]
  refine ⟨ds, left, hgreedy, rfl, fun ds' left' h he => hgreedy.unique h he, rfl, rfl,
    length_included_add_skipped ds, rfl, hsum, ?_⟩
  by_cases hds : ds = []
  · subst hds
    rfl
  · have hleft : c.budget - left = includedTokens (ds.filterMap Decision.included?) := by omega
    rw [ofDecisions, if_neg hds, if_neg (by simpa using hds), hleft]

end FileChat.Assembler
