import FileChat.Text.Lowercase
import FileChat.Text.Occurrence
import Mathlib.Data.List.TakeWhile

/-!
# What lower case keeps of an occurrence

A text that stands in another one is put into lower case there among what stands around it, and a
capital sigma looks around. So the lower-case form of a text is found wherever the text is, exactly
if the form of each of its capital sigmas is settled by the text alone. A sigma that is not settled
is the first or the last character of the text that case does not ignore.
-/
namespace FileChat.Text

/-- The lower-case form of a piece of text between the text before it, in reverse, and the text
after it. -/
def lowerWithin (before : List Char) : List Char → List Char → List Char
  | [], _ => []
  | c :: cs, after => lowerBetween before c (cs ++ after) ++ lowerWithin (c :: before) cs after

theorem lowerOnto_eq (out before text : List Char) :
    lowerOnto out before text = (lowerWithin before text []).reverse ++ out := by
  induction text generalizing out before with
  | nil => rfl
  | cons c text ih =>
    rw [lowerOnto, ih, lowerWithin, List.reverse_append, List.append_assoc, List.append_nil]

theorem lower_eq (text : List Char) : lower text = lowerWithin [] text [] := by
  rw [lower, lowerOnto_eq, List.append_nil, List.reverse_reverse]

theorem lowerWithin_append (before a b after : List Char) :
    lowerWithin before (a ++ b) after =
      lowerWithin before a (b ++ after) ++ lowerWithin (a.reverse ++ before) b after := by
  induction a generalizing before with
  | nil => rfl
  | cons c a ih =>
    rw [List.cons_append, lowerWithin, lowerWithin, ih, List.reverse_cons, List.append_assoc,
      List.append_assoc, List.append_assoc, List.singleton_append]

/-- A text in the middle of another is put into lower case between its neighbours. -/
theorem lower_middle (front text back : List Char) :
    lower (front ++ (text ++ back)) =
      lowerWithin [] front (text ++ back) ++ (lowerWithin front.reverse text back ++
        lowerWithin (text.reverse ++ front.reverse) back []) := by
  rw [lower_eq, lowerWithin_append, lowerWithin_append]
  simp only [List.append_nil]

theorem lowerChar_ne_nil (c : Char) : lowerChar c ≠ [] := by
  unfold lowerChar
  dsimp only
  split
  · exact List.cons_ne_nil _ _
  split
  · exact List.cons_ne_nil _ _
  split
  · exact List.cons_ne_nil _ _
  · exact List.cons_ne_nil _ _

theorem lowerBetween_ne_nil (before : List Char) (c : Char) (after : List Char) :
    lowerBetween before c after ≠ [] := by
  unfold lowerBetween
  split
  · split
    · exact List.cons_ne_nil _ _
    · exact List.cons_ne_nil _ _
  · exact lowerChar_ne_nil c

theorem lower_eq_nil_iff {text : List Char} : lower text = [] ↔ text = [] := by
  constructor
  · intro h
    cases text with
    | nil => rfl
    | cons c text =>
      rw [lower_eq, lowerWithin] at h
      exact absurd (List.append_eq_nil_iff.mp h).1 (lowerBetween_ne_nil _ _ _)
  · rintro rfl
    rfl

/-! ## What a capital sigma sees -/

/-- The first character that case does not ignore is met before anything behind it. -/
theorem startsCased_append_of_not_all {a : List Char} (h : ¬ a.all isCaseIgnorable)
    (b : List Char) : startsCased (a ++ b) = startsCased a := by
  have hne : (a.dropWhile isCaseIgnorable).isEmpty = false := by
    rw [List.isEmpty_eq_false_iff, Ne, List.dropWhile_eq_nil_iff, ← List.all_eq_true]
    exact h
  rw [startsCased, startsCased, List.dropWhile_append, hne]
  obtain ⟨c, rest, hrest⟩ := List.exists_cons_of_ne_nil (List.isEmpty_eq_false_iff.mp hne)
  rw [hrest]
  rfl

theorem startsCased_append_of_all {a : List Char} (h : a.all isCaseIgnorable) (b : List Char) :
    startsCased (a ++ b) = startsCased b := by
  rw [startsCased, List.dropWhile_append_of_pos (List.all_eq_true.mp h), startsCased]

theorem startsCased_of_all {a : List Char} (h : a.all isCaseIgnorable) : startsCased a = false := by
  rw [← List.append_nil a, startsCased_append_of_all h]
  rfl

theorem not_all_of_startsCased {a : List Char} (h : startsCased a) : ¬ a.all isCaseIgnorable := by
  intro hall
  rw [startsCased_of_all hall] at h
  cases h

theorem startsCased_append {a : List Char} (h : startsCased a) (b : List Char) :
    startsCased (a ++ b) := by
  rw [startsCased_append_of_not_all (not_all_of_startsCased h)]
  exact h

/-- Whether the form of a capital sigma between two texts depends on what stands around these: it
is the first letter and none comes next, or it is the last and one stands before it. -/
def Exposed (front back : List Char) : Prop :=
  front.all isCaseIgnorable ∧ startsCased back = false ∨
    startsCased front.reverse ∧ back.all isCaseIgnorable

/-- Whether no capital sigma of a text depends on what stands around the text. -/
def Settled (text : List Char) : Prop :=
  ∀ front back, text = front ++ capitalSigma :: back → ¬ Exposed front back

theorem settled_of_not_mem {text : List Char} (h : capitalSigma ∉ text) : Settled text := by
  rintro front back rfl
  simp at h

/-- A sigma that is not exposed has one form in all surroundings. -/
theorem lowerBetween_of_not_exposed {front back : List Char} (h : ¬ Exposed front back)
    (before after : List Char) :
    lowerBetween (front.reverse ++ before) capitalSigma (back ++ after) =
      lowerBetween front.reverse capitalSigma back := by
  rw [Exposed, not_or, not_and_or, not_and_or, ← List.all_reverse (l := front)] at h
  obtain ⟨hfront, hback⟩ := h
  unfold lowerBetween
  rw [if_pos rfl, if_pos rfl]
  by_cases hopen : front.reverse.all isCaseIgnorable
  · -- What comes next is a letter, so no end of a word is here.
    have hnext : startsCased back := by simpa using hfront.resolve_left (not_not.mpr hopen)
    rw [hnext, startsCased_append hnext, Bool.not_true, Bool.and_false, Bool.and_false]
  · rw [startsCased_append_of_not_all hopen]
    by_cases hlast : back.all isCaseIgnorable
    · have hno : startsCased front.reverse = false := by
        simpa using hback.resolve_right (not_not.mpr hlast)
      rw [hno, Bool.false_and, Bool.false_and]
    · rw [startsCased_append_of_not_all hlast]

theorem lowerWithin_of_settled {front text : List Char} (h : Settled (front ++ text))
    (before after : List Char) :
    lowerWithin (front.reverse ++ before) text after = lowerWithin front.reverse text [] := by
  induction text generalizing front with
  | nil => rfl
  | cons c text ih =>
    have hchar : lowerBetween (front.reverse ++ before) c (text ++ after) =
        lowerBetween front.reverse c text := by
      by_cases hc : c = capitalSigma
      · rw [hc]
        exact lowerBetween_of_not_exposed (h front text (hc ▸ rfl)) before after
      · unfold lowerBetween
        rw [if_neg hc, if_neg hc]
    have hsettled : Settled (front ++ [c] ++ text) := by
      rwa [List.append_assoc, List.singleton_append]
    have hrest := ih hsettled
    rw [List.reverse_append, List.reverse_singleton, List.singleton_append, List.cons_append]
      at hrest
    rw [lowerWithin, lowerWithin, hchar, hrest, List.append_nil]

/-- A settled text is put into lower case in the same way wherever it stands. -/
theorem lower_infix_of_settled {needle text : List Char} (h : Settled needle)
    (hin : needle <:+: text) : lower needle <:+: lower text := by
  obtain ⟨front, back, rfl⟩ := hin
  have hsame : lowerWithin front.reverse needle back = lower needle := by
    rw [lower_eq]
    exact @lowerWithin_of_settled [] needle h front.reverse back
  rw [List.append_assoc, lower_middle, hsame]
  exact ⟨_, _, List.append_assoc _ _ _⟩

/-! ## Texts that are not settled -/

/-- A letter comes no more often from a text if none of its characters gives more of it. -/
theorem count_lowerWithin_le {x : Char} {before before' after after' : List Char}
    (h : ∀ front c back, (lowerBetween (front ++ before) c (back ++ after)).count x ≤
      (lowerBetween (front ++ before') c (back ++ after')).count x) (front text : List Char) :
    (lowerWithin (front ++ before) text after).count x ≤
      (lowerWithin (front ++ before') text after').count x := by
  induction text generalizing front with
  | nil => exact Nat.le_refl _
  | cons c text ih =>
    rw [lowerWithin, lowerWithin, List.count_append, List.count_append]
    exact Nat.add_le_add (h front c text) (ih (c :: front))

/-- One character from which the letter comes less often is enough. -/
theorem count_lowerWithin_lt {x c : Char} {before before' after after' front back : List Char}
    (h : ∀ front c back, (lowerBetween (front ++ before) c (back ++ after)).count x ≤
      (lowerBetween (front ++ before') c (back ++ after')).count x)
    (hless : (lowerBetween (front.reverse ++ before) c (back ++ after)).count x <
      (lowerBetween (front.reverse ++ before') c (back ++ after')).count x) :
    (lowerWithin before (front ++ c :: back) after).count x <
      (lowerWithin before' (front ++ c :: back) after').count x := by
  have hfront : (lowerWithin before front (c :: back ++ after)).count x ≤
      (lowerWithin before' front (c :: back ++ after')).count x := by
    refine count_lowerWithin_le (fun front' c' back' => ?_) [] front
    rw [← List.append_assoc, ← List.append_assoc]
    exact h front' c' (back' ++ c :: back)
  have hback := count_lowerWithin_le h (c :: front.reverse) back
  rw [lowerWithin_append, lowerWithin_append, lowerWithin, lowerWithin, List.count_append,
    List.count_append, List.count_append, List.count_append]
  rw [List.cons_append, List.cons_append] at hback
  omega

/-- After a letter, sigmas are final where they were, and maybe more. -/
theorem count_sigma_after_letter (front : List Char) (c : Char) (back : List Char) :
    (lowerBetween (front ++ ['a']) c (back ++ [])).count 'σ' ≤
      (lowerBetween (front ++ []) c (back ++ [])).count 'σ' := by
  rw [List.append_nil, List.append_nil]
  unfold lowerBetween
  by_cases hc : c = capitalSigma
  · rw [if_pos hc, if_pos hc]
    by_cases hfront : startsCased front
    · rw [startsCased_append hfront, hfront]
    · rw [Bool.not_eq_true] at hfront
      rw [hfront, Bool.false_and, if_neg Bool.false_ne_true]
      split <;> decide
  · rw [if_neg hc, if_neg hc]

/-- Before a letter, sigmas are final only where they were. -/
theorem count_final_before_letter (front : List Char) (c : Char) (back : List Char) :
    (lowerBetween (front ++ []) c (back ++ ['a'])).count 'ς' ≤
      (lowerBetween (front ++ []) c (back ++ [])).count 'ς' := by
  rw [List.append_nil, List.append_nil]
  unfold lowerBetween
  by_cases hc : c = capitalSigma
  · rw [if_pos hc, if_pos hc]
    by_cases hback : startsCased back
    · rw [startsCased_append hback, hback]
    · rw [Bool.not_eq_true] at hback
      rw [hback, Bool.not_false, Bool.and_true]
      by_cases hfront : startsCased front
      · rw [hfront, Bool.true_and, if_pos rfl]
        split <;> decide
      · rw [Bool.not_eq_true] at hfront
        rw [hfront, Bool.false_and]
  · rw [if_neg hc, if_neg hc]

theorem not_infix_of_count_lt (x : Char) {needle text : List Char}
    (h : text.count x < needle.count x) : ¬ needle <:+: text := by
  intro hin
  have hle := hin.sublist.count_le x
  omega

theorem lowerWithin_letter (before after : List Char) : lowerWithin before ['a'] after = ['a'] := by
  have hletter : lowerBetween before 'a' after = lowerChar 'a' := if_neg (by decide)
  rw [lowerWithin, List.nil_append, hletter]
  rfl

theorem startsCased_letter : startsCased ['a'] = true := by decide +kernel

/-- Behind a letter, a first sigma that no letter follows becomes final. -/
theorem not_infix_after_letter {front back : List Char} (hfront : front.all isCaseIgnorable)
    (hback : startsCased back = false) :
    ¬ lower (front ++ capitalSigma :: back) <:+:
      lower (['a'] ++ (front ++ capitalSigma :: back ++ [])) := by
  have hreverse : front.reverse.all isCaseIgnorable := List.all_reverse.trans hfront
  have hless : (lowerWithin ['a'] (front ++ capitalSigma :: back) []).count 'σ' <
      (lowerWithin [] (front ++ capitalSigma :: back) []).count 'σ' := by
    apply count_lowerWithin_lt count_sigma_after_letter
    unfold lowerBetween
    rw [if_pos rfl, if_pos rfl, List.append_nil, List.append_nil,
      startsCased_append_of_all hreverse, startsCased_letter, hback, startsCased_of_all hreverse]
    decide
  apply not_infix_of_count_lt 'σ'
  rw [lower_middle, lowerWithin_letter, List.count_append, List.count_append, lower_eq]
  change 0 + (List.count 'σ' (lowerWithin ['a'] _ []) + 0) < _
  omega

/-- Before a letter, a last sigma is no longer final. -/
theorem not_infix_before_letter {front back : List Char} (hfront : startsCased front.reverse)
    (hback : back.all isCaseIgnorable) :
    ¬ lower (front ++ capitalSigma :: back) <:+:
      lower ([] ++ (front ++ capitalSigma :: back ++ ['a'])) := by
  have hless : (lowerWithin [] (front ++ capitalSigma :: back) ['a']).count 'ς' <
      (lowerWithin [] (front ++ capitalSigma :: back) []).count 'ς' := by
    apply count_lowerWithin_lt count_final_before_letter
    unfold lowerBetween
    rw [if_pos rfl, if_pos rfl, List.append_nil, List.append_nil,
      startsCased_append_of_all hback, startsCased_letter, hfront, startsCased_of_all hback]
    decide
  apply not_infix_of_count_lt 'ς'
  rw [lower_middle, lowerWithin_letter, List.count_append, List.count_append, lower_eq]
  change 0 + (List.count 'ς' (lowerWithin [] _ ['a']) + 0) < _
  omega

/-- A text that is not settled stands in one whose lower-case form does not have it; a letter at one
of its ends is all that it takes. -/
theorem exists_missed {needle : List Char} (h : ¬ Settled needle) :
    ∃ text, needle <:+: text ∧ (∀ c ∈ text, c ∈ needle ∨ c = 'a') ∧
      ¬ lower needle <:+: lower text := by
  simp only [Settled, not_forall, not_not] at h
  obtain ⟨front, back, rfl, ⟨hfront, hback⟩ | ⟨hfront, hback⟩⟩ := h
  · refine ⟨_, ⟨['a'], [], List.append_assoc _ _ _⟩, fun c hc => ?_,
      not_infix_after_letter hfront hback⟩
    rw [List.append_nil, List.singleton_append, List.mem_cons] at hc
    exact hc.symm
  · refine ⟨_, ⟨[], ['a'], List.append_assoc _ _ _⟩, fun c hc => ?_,
      not_infix_before_letter hfront hback⟩
    rw [List.nil_append, List.mem_append, List.mem_singleton] at hc
    exact hc

end FileChat.Text
