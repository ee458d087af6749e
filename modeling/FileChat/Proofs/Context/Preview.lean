import FileChat.Proofs.Context.Summary

/-!
# The lines of a summary

A summary is its content, or a text of 61 lines: the first 40 lines of the content, one that says
how many are hidden, and the last 20. `Abridges` says this of two texts by their lines alone. Lines
without line feeds are the lines of the text they make, so a content with more than 60 lines has
exactly one such text, and that text is its summary if it takes fewer bytes than a long content.
-/
namespace FileChat

namespace Summary

open Text

/-- A text of 61 lines that tells a content by its first 40 lines, its last 20 and the number of
those between them. -/
structure Abridges (short content : String) : Prop where
  count : lineCount short = 61
  head : (lines short.toList).take 40 = (lines content.toList).take 40
  mark : (lines short.toList)[40]? =
    some ("... [" ++ toString (lineCount content - 60) ++ " lines hidden] ...").toList
  tail : (lines short.toList).drop 41 = (lines content.toList).drop (lineCount content - 20)

variable {content short other : String}

theorem Abridges.unique (h : Abridges short content) (h' : Abridges other content) :
    other = short := by
  have hsplit (text : String) (hcount : lineCount text = 61) {line : List Char}
      (hmark : (lines text.toList)[40]? = some line) : lines text.toList =
        (lines text.toList).take 40 ++ line :: (lines text.toList).drop 41 := by
    obtain ⟨hlt, hline⟩ := List.getElem?_eq_some_iff.mp hmark
    rw [← hline, List.getElem_cons_drop, List.take_append_drop]
  have hlines : lines other.toList = lines short.toList := by
    rw [hsplit other h'.count h'.mark, hsplit short h.count h.mark, h'.head, h'.tail, h.head,
      h.tail]
  exact String.toList_inj.mp (lines_injective hlines)

theorem lineFeed_not_mem_marker (n : Nat) : '\n' ∉ marker n := by
  intro h
  simp only [marker, String.toList_append, List.mem_append, Nat.toString_eq_ofList_toDigits,
    String.toList_ofList] at h
  obtain (hopen | hdigit) | hclose := h
  · exact absurd hopen (by decide)
  · exact absurd (Nat.isDigit_of_mem_toDigits (by decide) (by decide) hdigit) (by decide)
  · exact absurd hclose (by decide)

/-- The lines of a preview are those that it was made of. -/
theorem lines_preview (text : List Char) :
    lines (unlines (preview (lines text))) = preview (lines text) := by
  apply lines_unlines
  · exact List.append_ne_nil_of_right_ne_nil _ (List.cons_ne_nil _ _)
  · intro l hl
    rw [preview, List.mem_append, List.mem_cons] at hl
    obtain hhead | rfl | htail := hl
    · exact lineFeed_not_mem_of_mem_lines (List.mem_of_mem_take hhead)
    · exact lineFeed_not_mem_marker _
    · exact lineFeed_not_mem_of_mem_lines (List.mem_of_mem_drop htail)

/-- The one text that abridges a content, if it has lines to hide. -/
theorem abridges_preview (h : 60 < lineCount content) :
    Abridges (String.ofList (unlines (preview (lines content.toList)))) content := by
  have hlines : lines (String.ofList (unlines (preview (lines content.toList)))).toList =
      (lines content.toList).take 40 ++ marker (lineCount content - 60) ::
        (lines content.toList).drop (lineCount content - 20) := by
    rw [String.toList_ofList, lines_preview, preview]
    change _ ++ marker (lineCount content - 40 - 20) :: _ = _
    rw [Nat.sub_sub]
    rfl
  have hcount : (lines content.toList).length = lineCount content := rfl
  have hhead : ((lines content.toList).take 40).length = 40 := by
    rw [List.length_take]
    omega
  refine ⟨?_, ?_, ?_, ?_⟩
  · rw [lineCount, hlines, List.length_append, hhead, List.length_cons, List.length_drop]
    omega
  · rw [hlines, List.take_left' hhead]
  · rw [hlines, List.getElem?_append_right (Nat.le_of_eq hhead), hhead]
    rfl
  · rw [hlines, List.drop_append, hhead, List.drop_eq_nil_of_le (by omega)]
    rfl

/-- Whether a preview stands for a content is told by the one text that abridges it. -/
theorem previewed_iff : Previewed content ↔ 6000 < content.length ∧ 60 < lineCount content ∧
    ∃ short, Abridges short content ∧ short.utf8ByteSize < content.utf8ByteSize := by
  constructor
  · intro h
    exact ⟨h.long, h.many, _, abridges_preview h.many,
      (utf8ByteSize_preview_lt_iff h.many).mpr h.wide⟩
  · rintro ⟨hlong, hmany, short, habridges, hshort⟩
    obtain rfl := (abridges_preview hmany).unique habridges
    exact ⟨hlong, hmany, (utf8ByteSize_preview_lt_iff hmany).mp hshort⟩

theorem summarize_eq_self_iff : summarize content = content ↔ ¬ Previewed content := by
  constructor
  · intro heq h
    have hless : (summarize content).utf8ByteSize < content.utf8ByteSize := by
      rw [summarize_of_previewed h, around_mark h.many]
      exact (utf8ByteSize_preview_lt_iff h.many).mpr h.wide
    rw [heq] at hless
    exact Nat.lt_irrefl _ hless
  · exact summarize_of_not_previewed

/-- A summary is its content exactly if the content has at most 6000 characters, or at most 60
lines, or if no text that abridges it has fewer bytes. Any other summary is the one text that
abridges its content, with a line at least hidden, and has fewer bytes. -/
theorem summarize_abridges (content : String) :
    (60 < lineCount content → ∃! short, Abridges short content) ∧
    (summarize content = content ↔ content.length ≤ 6000 ∨ lineCount content ≤ 60 ∨
      ∀ short, Abridges short content → content.utf8ByteSize ≤ short.utf8ByteSize) ∧
    (summarize content ≠ content → Abridges (summarize content) content ∧
      1 ≤ lineCount content - 60 ∧ (summarize content).utf8ByteSize < content.utf8ByteSize) ∧
    (summarize content).utf8ByteSize ≤ content.utf8ByteSize := by
  refine ⟨?_, ?_, ?_, utf8ByteSize_summarize_le content⟩
  · intro hmany
    exact ⟨_, abridges_preview hmany, fun _ => (abridges_preview hmany).unique⟩
  · rw [summarize_eq_self_iff, previewed_iff]
    simp only [not_and_or, not_exists, Nat.not_lt, imp_iff_not_or]
  · intro hne
    have h : Previewed content := not_not.mp (mt summarize_eq_self_iff.mpr hne)
    have hmany : 60 < lineCount content := h.many
    rw [summarize_of_previewed h, around_mark h.many]
    exact ⟨abridges_preview hmany, by omega, (utf8ByteSize_preview_lt_iff h.many).mpr h.wide⟩

/-- With 6001 characters in 61 lines and 25 bytes to hide, the preview is shorter by one byte. -/
theorem summarize_abridges_by_one :
    let content := String.ofList
      (unlines (sparse (List.replicate 5916 'a') (List.replicate 25 'b')))
    summarize content ≠ content ∧ Abridges (summarize content) content ∧
      1 ≤ lineCount content - 60 ∧ (summarize content).utf8ByteSize < content.utf8ByteSize := by
  intro content
  have hrow : '\n' ∉ List.replicate 5916 'a' := by
    intro h
    cases (List.mem_replicate.mp h).2
  have hprev : Previewed content := by
    apply previewed_sparse hrow (by decide)
    · rw [List.length_replicate, List.length_replicate]
      decide
    · decide
  have hne : summarize content ≠ content := fun heq => summarize_eq_self_iff.mp heq hprev
  exact ⟨hne, (summarize_abridges content).2.2.1 hne⟩

end Summary
end FileChat
