/-!
# Lines of a text

A line is what stands between two line feeds, so a text has one line more than line feeds and
joining its lines gives it back.
-/

namespace FileChat.Text

/-- The lines of a text. -/
def lines (text : List Char) : List (List Char) := text.splitOn '\n'

/-- The text of some lines. -/
def unlines (lines : List (List Char)) : List Char := ['\n'].intercalate lines

/-- Joining the lines of a text gives the text. -/
theorem unlines_lines (text : List Char) : unlines (lines text) = text :=
  List.intercalate_splitOn _

/-- Lines without line feeds are the lines of the text they make. -/
theorem lines_unlines {ls : List (List Char)} (hne : ls ≠ []) (h : ∀ l ∈ ls, '\n' ∉ l) :
    lines (unlines ls) = ls :=
  List.splitOn_intercalate _ h hne

theorem lines_injective {text other : List Char} (h : lines text = lines other) : text = other := by
  rw [← unlines_lines text, h, unlines_lines]

/-- What a text is split at is in none of the pieces. -/
theorem not_mem_of_mem_splitOn {c : Char} {text piece : List Char} (h : piece ∈ text.splitOn c) :
    c ∉ piece := by
  induction text generalizing piece with
  | nil =>
    obtain rfl := List.mem_singleton.mp h
    exact List.not_mem_nil
  | cons d text ih =>
    obtain ⟨first, rest, hsplit⟩ := List.exists_cons_of_ne_nil (List.splitOn_ne_nil c text)
    have hfirst : c ∉ first := ih (hsplit ▸ List.mem_cons_self)
    have hrest : ∀ piece ∈ rest, c ∉ piece := fun _ hp => ih (hsplit ▸ List.mem_cons_of_mem _ hp)
    rw [List.splitOn_cons_eq_if_modifyHead, hsplit] at h
    by_cases hd : d = c
    · rw [if_pos (beq_iff_eq.mpr hd), List.mem_cons, List.mem_cons] at h
      obtain rfl | rfl | hp := h
      · exact List.not_mem_nil
      · exact hfirst
      · exact hrest piece hp
    · rw [if_neg (mt beq_iff_eq.mp hd), List.modifyHead_cons, List.mem_cons] at h
      obtain rfl | hp := h
      · exact List.not_mem_cons_of_ne_of_not_mem (Ne.symm hd) hfirst
      · exact hrest piece hp

/-- No line has a line feed in it. -/
theorem lineFeed_not_mem_of_mem_lines {text l : List Char} (h : l ∈ lines text) : '\n' ∉ l :=
  not_mem_of_mem_splitOn h

end FileChat.Text
