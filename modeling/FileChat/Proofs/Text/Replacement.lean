import FileChat.Text.Occurrence
import Mathlib.Data.List.Infix

/-!
# What stands in the place of a mark

A text is taken apart at the marks in it: the pieces between them hold no mark, and joined with the
mark they give the text again. Joined with something else they give the text with that in the place
of every mark. `Replaces` says this of two texts without going through either of them.

Where the first character of a mark stands nowhere else in it, two marks cannot overlap, and so
there is one way to take a text apart.
-/
namespace FileChat.Text

/-- A text has something else in the place of each mark of another. -/
def Replaces (mark new text replaced : String) : Prop :=
  ∃ pieces : List String, (∀ piece ∈ pieces, ¬ mark.toList <:+: piece.toList) ∧
    text = mark.intercalate pieces ∧ replaced = new.intercalate pieces

variable {mark new text piece rest : List Char} {c : Char}

/-! ## One step -/

theorem replaceOnto_eq (skip : Nat) (out text : List Char) :
    replaceOnto mark new out skip text = out.reverse ++ replace mark new (text.drop skip) := by
  induction text generalizing skip out with
  | nil => cases skip <;> simp [replaceOnto, replace]
  | cons c text ih =>
    cases skip with
    | succ skip => exact ih skip out
    | zero =>
      rw [List.drop_zero, replace, replaceOnto, replaceOnto]
      split
      · rw [ih, ih (mark.length - 1) (new.reverse ++ [])]
        simp
      · rw [ih, ih 0 [c]]
        simp

/-- A mark is replaced, and what stands behind it is gone through next. -/
theorem replace_mark (hmark : mark ≠ []) (new rest : List Char) :
    replace mark new (mark ++ rest) = new ++ replace mark new rest := by
  obtain ⟨c, cs, rfl⟩ := List.exists_cons_of_ne_nil hmark
  have hprefix : (c :: cs).isPrefixOf (c :: (cs ++ rest)) = true :=
    List.isPrefixOf_iff_prefix.mpr (List.prefix_append (c :: cs) rest)
  rw [List.cons_append, replace, replaceOnto, if_pos hprefix, replaceOnto_eq]
  simp

theorem replace_cons (h : ¬ mark <+: c :: rest) :
    replace mark new (c :: rest) = c :: replace mark new rest := by
  rw [replace, replaceOnto, if_neg (List.isPrefixOf_iff_prefix.not.mpr h), replaceOnto_eq]
  rfl

/-! ## Pieces -/

theorem prefix_intercalate (mark piece : List Char) (pieces : List (List Char)) :
    piece <+: mark.intercalate (piece :: pieces) := by
  cases pieces with
  | nil => rw [List.intercalate_singleton]
  | cons next pieces =>
    rw [List.intercalate_cons_cons, List.append_assoc]
    exact List.prefix_append _ _

theorem intercalate_cons_piece (mark : List Char) (c : Char) (piece : List Char)
    (pieces : List (List Char)) :
    mark.intercalate ((c :: piece) :: pieces) = c :: mark.intercalate (piece :: pieces) := by
  cases pieces with
  | nil => rw [List.intercalate_singleton, List.intercalate_singleton]
  | cons next pieces =>
    rw [List.intercalate_cons_cons, List.intercalate_cons_cons]
    rfl

/-- Every text can be taken apart. -/
theorem exists_pieces (hmark : mark ≠ []) (text : List Char) :
    ∃ piece pieces, text = mark.intercalate (piece :: pieces) ∧
      ∀ p ∈ piece :: pieces, ¬ mark <:+: p := by
  have hfree : ¬ mark <:+: [] := fun h => hmark (List.infix_nil.mp h)
  induction hlength : text.length using Nat.strongRecOn generalizing text with
  | _ length ih =>
    by_cases hprefix : mark <+: text
    · obtain ⟨rest, rfl⟩ := hprefix
      have hpos := List.length_pos_of_ne_nil hmark
      rw [List.length_append] at hlength
      obtain ⟨piece, pieces, hrest, hpieces⟩ := ih rest.length (by omega) rest rfl
      refine ⟨[], piece :: pieces, ?_, List.forall_mem_cons.mpr ⟨hfree, hpieces⟩⟩
      rw [List.intercalate_cons_cons, ← hrest, List.nil_append]
    · cases text with
      | nil =>
        refine ⟨[], [], List.intercalate_singleton.symm, ?_⟩
        exact List.forall_mem_cons.mpr ⟨hfree, nofun⟩
      | cons c rest =>
        rw [List.length_cons] at hlength
        obtain ⟨piece, pieces, hrest, hpieces⟩ := ih rest.length (by omega) rest rfl
        obtain ⟨hpiece, hpieces⟩ := List.forall_mem_cons.mp hpieces
        have hkept : c :: rest = mark.intercalate ((c :: piece) :: pieces) := by
          rw [hrest, intercalate_cons_piece]
        refine ⟨c :: piece, pieces, hkept, List.forall_mem_cons.mpr ⟨?_, hpieces⟩⟩
        rw [List.infix_cons_iff, not_or]
        -- a mark at the front of the piece would be one at the front of the text
        refine ⟨fun h => hprefix ?_, hpiece⟩
        rw [hkept]
        exact h.trans (prefix_intercalate mark (c :: piece) pieces)

section Unbordered

variable {m : Char} {ms : List Char} (hfirst : m ∉ ms)
include hfirst

/-- In a text without marks none begins, also if one stands behind it. -/
theorem not_prefix_of_free (hfree : ¬ (m :: ms) <:+: c :: piece) (rest : List Char) :
    ¬ (m :: ms) <+: c :: (piece ++ (m :: ms ++ rest)) := by
  intro hprefix
  have hwhole : c :: piece <+: c :: (piece ++ (m :: ms ++ rest)) :=
    List.prefix_append (c :: piece) _
  obtain hwithin | ⟨back, hback⟩ := List.prefix_or_prefix_of_prefix hprefix hwhole
  · exact hfree hwithin.isInfix
  · -- the mark would end in the one behind, which begins with a character that it has once
    cases back with
    | nil =>
      rw [List.append_nil] at hback
      exact hfree (hback ▸ List.infix_rfl)
    | cons b back =>
      obtain ⟨after, hafter⟩ := hprefix
      have hbehind : c :: piece ++ (b :: back ++ after) = c :: piece ++ (m :: ms ++ rest) := by
        rw [← List.append_assoc, hback]
        exact hafter
      obtain rfl : b = m := (List.cons.inj (List.append_cancel_left hbehind)).1
      have hms : piece ++ b :: back = ms := (List.cons.inj hback).2
      exact hfirst (hms ▸ List.mem_append_right piece List.mem_cons_self)

theorem replace_piece (hfree : ¬ (m :: ms) <:+: piece) (new rest : List Char) :
    replace (m :: ms) new (piece ++ (m :: ms ++ rest)) =
      piece ++ (new ++ replace (m :: ms) new rest) := by
  induction piece with
  | nil => exact replace_mark (List.cons_ne_nil m ms) new rest
  | cons c piece ih =>
    have hbehind : ¬ (m :: ms) <:+: piece := fun h => hfree (List.infix_cons h)
    rw [List.cons_append, replace_cons (not_prefix_of_free hfirst hfree rest), ih hbehind]
    rfl

omit hfirst in
theorem replace_free (hfree : ¬ mark <:+: piece) (new : List Char) :
    replace mark new piece = piece := by
  induction piece with
  | nil => rfl
  | cons c piece ih =>
    rw [List.infix_cons_iff, not_or] at hfree
    rw [replace_cons hfree.1, ih hfree.2]

theorem replace_intercalate (new : List Char) {pieces : List (List Char)}
    (hfree : ∀ piece ∈ pieces, ¬ (m :: ms) <:+: piece) :
    replace (m :: ms) new ((m :: ms).intercalate pieces) = new.intercalate pieces := by
  induction pieces with
  | nil => rfl
  | cons piece pieces ih =>
    obtain ⟨hpiece, hpieces⟩ := List.forall_mem_cons.mp hfree
    cases pieces with
    | nil =>
      rw [List.intercalate_singleton, List.intercalate_singleton]
      exact replace_free hpiece new
    | cons next pieces =>
      rw [List.intercalate_cons_cons, List.intercalate_cons_cons, List.append_assoc,
        replace_piece hfirst hpiece, ih hpieces, List.append_assoc]

end Unbordered

/-! ## Texts -/

/-- Going through a text replaces the marks in it, and there is one way to replace them. -/
theorem replaces_iff {mark new text replaced : String} {m : Char} {ms : List Char}
    (hmark : mark.toList = m :: ms) (hfirst : m ∉ ms) :
    Replaces mark new text replaced ↔
      replaced = String.ofList (replace mark.toList new.toList text.toList) := by
  have hdone (pieces : List String) (hfree : ∀ piece ∈ pieces, ¬ mark.toList <:+: piece.toList) :
      new.intercalate pieces =
        String.ofList (replace mark.toList new.toList (mark.intercalate pieces).toList) := by
    rw [← String.toList_inj, String.toList_ofList, String.toList_intercalate,
      String.toList_intercalate, hmark, replace_intercalate hfirst]
    simpa [hmark] using hfree
  constructor
  · intro h
    obtain ⟨pieces, hfree, rfl, rfl⟩ := h
    exact hdone pieces hfree
  · intro h
    have hne : mark.toList ≠ [] := by simp [hmark]
    obtain ⟨piece, pieces, htext, hfree⟩ := exists_pieces hne text.toList
    have hstrings : ((piece :: pieces).map String.ofList).map String.toList = piece :: pieces := by
      simp [Function.comp_def]
    have hjoined : text = mark.intercalate ((piece :: pieces).map String.ofList) := by
      rw [← String.toList_inj, String.toList_intercalate, hstrings, htext]
    have hstringsFree : ∀ s ∈ (piece :: pieces).map String.ofList, ¬ mark.toList <:+: s.toList := by
      intro s hs
      obtain ⟨p, hp, rfl⟩ := List.mem_map.mp hs
      rw [String.toList_ofList]
      exact hfree p hp
    refine ⟨(piece :: pieces).map String.ofList, hstringsFree, hjoined, ?_⟩
    rw [h, hdone _ hstringsFree, ← hjoined]

end FileChat.Text
