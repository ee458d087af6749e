import FileChat.Proofs.Context.Budget

/-!
# How long a context is

The budget counts the tokens of the texts that come in. What else is in a context is bounded by the
number of its entries and by their names: a label or a mark for each, and a line at each end. Each
included text may have up to three characters more than its tokens account for. So the length of a
context is bounded by the budget and by what it was assembled from, and many small files can exceed
the budget by no more than this.
-/
namespace FileChat.Assembler

/-- Seven characters are two tokens, and up to three characters are lost to rounding. -/
theorem two_mul_length_le (text : String) : 2 * text.length ≤ 7 * tokens text + 6 := by
  unfold tokens
  omega

theorem length_toString_le {n k : Nat} (hk : 0 < k) (h : n < 10 ^ k) :
    (toString n).length ≤ k :=
  (Nat.length_repr_le_iff hk).mpr h

theorem length_intercalate_cons (sep first : String) (rest : List String) :
    (sep.intercalate (first :: rest)).length =
      first.length + (rest.map fun s => s.length + sep.length).sum := by
  induction rest generalizing first with
  | nil => rw [String.intercalate_singleton, List.map_nil, List.sum_nil, Nat.add_zero]
  | cons second rest ih =>
    rw [String.intercalate_cons_cons, String.length_append, String.length_append, ih,
      List.map_cons, List.sum_cons]
    omega

theorem length_append_append (a b c : String) :
    (a ++ b ++ c).length = a.length + b.length + c.length := by
  rw [String.length_append, String.length_append]

/-! ## Labels and marks -/

/-- The length of a text with two others set into it. -/
theorem length_with_two (a first b second c : String) :
    (a ++ first ++ b ++ second ++ c).length =
      a.length + first.length + b.length + second.length + c.length := by
  rw [length_append_append, length_append_append]

theorem length_label (s : Scored) :
    (label s).length =
      11 + s.artifact.name.length + 13 + (toString s.score.toNat).length + 6 :=
  length_with_two _ _ _ _ _

theorem length_mark (s : Scored) : (mark s).length = 11 + s.artifact.name.length + 20 :=
  length_append_append _ _ _

theorem length_closing (files used : Nat) :
    (closing files used).length =
      18 + (toString files).length + 9 + (toString used).length + 12 :=
  length_with_two _ _ _ _ _

theorem length_score_le (score : UInt32) : (toString score.toNat).length ≤ 10 := by
  apply length_toString_le (by decide)
  exact Nat.lt_trans score.toNat_lt (by decide)

theorem length_word_le {n : Nat} (h : n < UInt64.size) : (toString n).length ≤ 20 := by
  apply length_toString_le (by decide)
  exact Nat.lt_trans h (by decide)

/-! ## Decisions -/

theorem includedTokens_cons (i : Included) (rest : List Included) :
    includedTokens (i :: rest) = i.tokens + includedTokens rest := rfl

/-- What the entries of a context may add to it by their names. -/
def labels (scored : List Scored) : Nat := (scored.map fun s => s.artifact.name.length + 42).sum

/-- What decisions show, each behind a line feed. -/
def shown (ds : List Decision) : Nat := (ds.map fun d => d.part.length + 1).sum

theorem length_part_some (s : Scored) (form : Form) :
    (Decision.part ⟨s, some form⟩).length =
      (label s).length + (form.text s.artifact).length + 1 :=
  length_append_append _ _ _

/-- The text of a form, its label and a line feed at each end. -/
theorem length_part_some_le (s : Scored) (form : Form) :
    2 * ((Decision.part ⟨s, some form⟩).length + 1) ≤
      7 * cost s form + 6 + 2 * (s.artifact.name.length + 42) := by
  have htext : 2 * (form.text s.artifact).length ≤ 7 * cost s form + 6 := two_mul_length_le _
  have hscore := length_score_le s.score
  rw [length_part_some, length_label]
  omega

theorem length_part_none_le (s : Scored) :
    (Decision.part ⟨s, none⟩).length + 1 ≤ s.artifact.name.length + 42 := by
  show (mark s).length + 1 ≤ _
  rw [length_mark]
  omega

/-- Decisions show no more than the tokens that they take, a rest for each text, and the names. -/
theorem two_mul_shown_le (ds : List Decision) :
    2 * shown ds ≤ 7 * includedTokens (ds.filterMap Decision.included?) +
      6 * (ds.filterMap Decision.included?).length + 2 * labels (ds.map (·.entry)) := by
  induction ds with
  | nil => exact Nat.zero_le _
  | cons d ds ih =>
    obtain ⟨s, form⟩ := d
    have hshown : shown (⟨s, form⟩ :: ds) =
        ((Decision.part ⟨s, form⟩).length + 1) + shown ds := List.sum_cons
    have hlabels : labels (s :: ds.map (·.entry)) =
        (s.artifact.name.length + 42) + labels (ds.map (·.entry)) := List.sum_cons
    rw [hshown, List.map_cons, hlabels]
    cases form with
    | none =>
      have hpart := length_part_none_le s
      have hskipped : Decision.included? ⟨s, none⟩ = none := rfl
      rw [List.filterMap_cons_none hskipped]
      omega
    | some form =>
      have hpart := length_part_some_le s form
      have hincluded : Decision.included? ⟨s, some form⟩ =
        some ⟨s.artifact.path, s.artifact.name, s.score, form, cost s form⟩ := rfl
      rw [List.filterMap_cons_some hincluded, includedTokens_cons, List.length_cons]
      dsimp only
      omega

/-! ## The whole -/

/-- The first line, the decisions, and a last line with two words of 64 bits in it. -/
theorem length_ofDecisions_le {c : Assembler} {ds : List Decision} {left : Nat}
    (hbudget : c.budget < UInt64.size) (hcount : ds.length < UInt64.size) :
    (c.ofDecisions ds left).text.length ≤ shown ds + 109 := by
  have hfiles : (ds.filterMap Decision.included?).length < UInt64.size :=
    Nat.lt_of_le_of_lt (List.length_filterMap_le _ _) hcount
  have hused : c.budget - left < UInt64.size := Nat.lt_of_le_of_lt (Nat.sub_le _ _) hbudget
  have hfiles := length_word_le hfiles
  have hused := length_word_le hused
  unfold ofDecisions
  split
  · exact Nat.zero_le _
  · have hopening : opening.length = 29 := rfl
    have hfeed : "\n".length = 1 := rfl
    have hparts : ((ds.map Decision.part).map fun s => s.length + 1).sum = shown ds :=
      congrArg List.sum List.map_map
    rw [List.cons_append, length_intercalate_cons, hopening, hfeed, List.map_append,
      List.sum_append, hparts, List.map_singleton, List.sum_singleton, length_closing]
    omega

/-- A context is no longer than the tokens used allow, seven characters for two tokens, and at most
three characters for each text that came in, 42 beside its name for each entry, and 110 for the
first and the last line. The tokens used are within the budget. Budget and number of entries are
words of 64 bits, and scores are words of 32 bits: this bounds their digits. -/
theorem length_assemble_le (c : Assembler) (mode : Mode) (scored : List Scored)
    (hbudget : c.budget < UInt64.size) (hcount : scored.length < UInt64.size) :
    2 * (c.assemble mode scored).text.length ≤
      7 * (c.assemble mode scored).usedTokens + 6 * (c.assemble mode scored).included.length +
        2 * (scored.map fun s => s.artifact.name.length + 42).sum + 220 ∧
    (c.assemble mode scored).usedTokens ≤ c.budget := by
  obtain ⟨ds, left, hgreedy, rfl, heq⟩ := assemble_eq_ofDecisions c mode scored
  rw [List.length_map] at hcount
  have htext : (c.ofDecisions ds left).text.length ≤ shown ds + 109 :=
    length_ofDecisions_le hbudget hcount
  have hshown := two_mul_shown_le ds
  have hused := usedTokens_ofDecisions hgreedy
  have hsum := hgreedy.included_add_left
  rw [heq, included_ofDecisions, hused]
  constructor
  · show _ ≤ _ + 2 * labels (ds.map (·.entry)) + 220
    omega
  · omega

/-- A file of three characters takes no token, and with ten digits in its score it adds all that one
file can; another one does not fit and leaves a mark. -/
theorem length_assemble_le_tiny :
    let file (name content : String) (score : UInt32) : Scored :=
      ⟨{ path := name, name, content, summary := content, lines := 1, tokens := tokens content },
        score⟩
    let scored := [file "a.rs" "abc" 4294967295, file "b.rs" "fn b() \x7b\x7d" 7]
    let context := (⟨1, 40⟩ : Assembler).assemble .full scored
    context.included.map (·.name) = ["a.rs"] ∧ context.skipped = ["b.rs"] ∧
      context.usedTokens = 0 ∧ context.text.length = 29 + (4 + 42 + 3) + (4 + 32) + 42 ∧
      2 * context.text.length ≤ 7 * context.usedTokens + 6 * context.included.length +
        2 * (scored.map fun s => s.artifact.name.length + 42).sum + 220 := by
  intro file scored context
  have hbound := (length_assemble_le ⟨1, 40⟩ .full scored (by decide) (by decide)).1
  exact ⟨by decide +kernel, by decide +kernel, by decide +kernel, by decide +kernel, hbound⟩

end FileChat.Assembler
