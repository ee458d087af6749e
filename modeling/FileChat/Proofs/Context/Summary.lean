import FileChat.Assembly
import Mathlib.Data.String.Basic

/-!
# What a summary costs

A preview stands for its text only if it takes fewer bytes, but its cost is measured in characters.
Preview and text differ by what stands between their first and their last lines: the marker in one,
the hidden lines in the other. So a summary is longer than its text exactly where hidden lines of
few but wide characters make way for a longer marker, and even there by a few characters only.
-/
namespace FileChat

namespace Text

theorem unlines_singleton (l : List Char) : unlines [l] = l := List.intercalate_singleton

theorem unlines_cons (l : List Char) {ls : List (List Char)} (h : ls ≠ []) :
    unlines (l :: ls) = l ++ '\n' :: unlines ls := by
  rw [unlines, List.intercalate_cons_of_ne_nil h, List.append_assoc]
  rfl

theorem unlines_append {xs ys : List (List Char)} (hx : xs ≠ []) (hy : ys ≠ []) :
    unlines (xs ++ ys) = unlines xs ++ '\n' :: unlines ys := by
  induction xs with
  | nil => exact absurd rfl hx
  | cons l xs ih =>
    by_cases hlast : xs = []
    · rw [hlast, List.singleton_append, unlines_cons l hy, unlines_singleton]
    · have hrest := List.append_ne_nil_of_left_ne_nil hlast ys
      rw [List.cons_append, unlines_cons l hrest, ih hlast, unlines_cons l hlast, List.append_assoc,
        List.cons_append]

theorem length_le_length_unlines (ls : List (List Char)) :
    ls.length ≤ (unlines ls).length + 1 := by
  induction ls with
  | nil => exact Nat.zero_le _
  | cons l ls ih =>
    by_cases hlast : ls = []
    · rw [hlast]
      exact Nat.le_add_left _ _
    · rw [unlines_cons l hlast, List.length_append, List.length_cons, List.length_cons]
      omega

theorem length_le_utf8Len (text : List Char) : text.length ≤ String.utf8Len text := by
  induction text with
  | nil => exact Nat.zero_le _
  | cons c text ih =>
    have hpos := c.utf8Size_pos
    rw [String.utf8Len_cons, List.length_cons]
    omega

theorem utf8Len_le (text : List Char) : String.utf8Len text ≤ 4 * text.length := by
  induction text with
  | nil => exact Nat.zero_le _
  | cons c text ih =>
    have hfour := c.utf8Size_le_four
    rw [String.utf8Len_cons, List.length_cons]
    omega

end Text

theorem tokens_mono {short long : String} (h : short.length ≤ long.length) :
    tokens short ≤ tokens long := Nat.div_le_div_right (Nat.mul_le_mul_right 2 h)

namespace Summary

open Text

def hiddenCount (ls : List (List Char)) : Nat := ls.length - headLines - tailLines

/-- The lines that a preview leaves out. -/
def hiddenLines (ls : List (List Char)) : List (List Char) :=
  (ls.drop headLines).take (hiddenCount ls)

/-- The first and the last lines of a text, with something between them. -/
def around (ls : List (List Char)) (middle : List Char) : List Char :=
  unlines (ls.take headLines) ++
    '\n' :: (middle ++ '\n' :: unlines (ls.drop (ls.length - tailLines)))

/-- What a preview of the content leaves out. -/
def hidden (content : String) : List Char := unlines (hiddenLines (lines content.toList))

/-- What a preview of the content says of it. -/
def mark (content : String) : List Char := marker (hiddenCount (lines content.toList))

/-- Whether a preview stands for the content: it is long, has lines to hide, and these take more
bytes than what is said of them. -/
structure Previewed (content : String) : Prop where
  long : maxChars < content.length
  many : headLines + tailLines < (lines content.toList).length
  wide : String.utf8Len (mark content) < String.utf8Len (hidden content)

variable {ls : List (List Char)} {content : String}

/-! ## The parts of a text -/

theorem length_hiddenLines (h : headLines + tailLines < ls.length) :
    (hiddenLines ls).length = hiddenCount ls := by
  unfold headLines tailLines at h
  unfold hiddenLines hiddenCount headLines tailLines
  rw [List.length_take, List.length_drop]
  omega

theorem take_hiddenLines_drop (h : headLines + tailLines < ls.length) :
    ls.take headLines ++ (hiddenLines ls ++ ls.drop (ls.length - tailLines)) = ls := by
  have hdrop : ls.drop (ls.length - tailLines) = (ls.drop headLines).drop (hiddenCount ls) := by
    unfold headLines tailLines at h
    unfold hiddenCount headLines tailLines
    rw [List.drop_drop]
    congr 1
    omega
  rw [hdrop, hiddenLines, List.take_append_drop, List.take_append_drop]

/-- What stands behind the first and before the last lines is hidden. -/
theorem hiddenLines_append {first middle last : List (List Char)}
    (hfirst : first.length = headLines) (hlast : last.length = tailLines) :
    hiddenLines (first ++ (middle ++ last)) = middle := by
  have hcount : hiddenCount (first ++ (middle ++ last)) = middle.length := by
    simp only [hiddenCount, List.length_append]
    omega
  rw [hiddenLines, hcount, List.drop_left' hfirst, List.take_left]

theorem drop_tail_ne_nil (h : headLines + tailLines < ls.length) :
    ls.drop (ls.length - tailLines) ≠ [] := by
  unfold headLines tailLines at h
  unfold tailLines
  apply List.ne_nil_of_length_pos
  rw [List.length_drop]
  omega

theorem take_head_ne_nil (h : headLines + tailLines < ls.length) : ls.take headLines ≠ [] := by
  unfold headLines tailLines at h
  unfold headLines
  apply List.ne_nil_of_length_pos
  rw [List.length_take]
  omega

/-- A text is what it hides between its first and its last lines. -/
theorem around_hidden (h : headLines + tailLines < (lines content.toList).length) :
    around (lines content.toList) (hidden content) = content.toList := by
  have hmiddle : hiddenLines (lines content.toList) ≠ [] := by
    apply List.ne_nil_of_length_pos
    rw [length_hiddenLines h]
    unfold headLines tailLines at h
    unfold hiddenCount headLines tailLines
    omega
  have hrest := List.append_ne_nil_of_left_ne_nil hmiddle
    ((lines content.toList).drop ((lines content.toList).length - tailLines))
  conv_rhs => rw [← unlines_lines content.toList, ← take_hiddenLines_drop h]
  rw [unlines_append (take_head_ne_nil h) hrest, unlines_append hmiddle (drop_tail_ne_nil h),
    around, hidden]

/-- A preview is what it says between the same lines. -/
theorem around_mark (h : headLines + tailLines < (lines content.toList).length) :
    around (lines content.toList) (mark content) = unlines (preview (lines content.toList)) := by
  rw [preview, unlines_append (take_head_ne_nil h) (List.cons_ne_nil _ _),
    unlines_cons _ (drop_tail_ne_nil h)]
  rfl

theorem length_around (ls : List (List Char)) (middle : List Char) :
    (around ls middle).length = (around ls []).length + middle.length := by
  simp only [around, List.length_append, List.length_cons, List.length_nil]
  omega

theorem utf8Len_around (ls : List (List Char)) (middle : List Char) :
    String.utf8Len (around ls middle) = String.utf8Len (around ls []) + String.utf8Len middle := by
  simp only [around, String.utf8Len_append, String.utf8Len_cons, String.utf8Len_nil]
  omega

/-! ## The summary -/

theorem utf8ByteSize_preview_lt_iff
    (h : headLines + tailLines < (lines content.toList).length) :
    (String.ofList (unlines (preview (lines content.toList)))).utf8ByteSize <
        content.utf8ByteSize ↔
      String.utf8Len (mark content) < String.utf8Len (hidden content) := by
  have hcontent := congrArg String.utf8Len (around_hidden h)
  rw [utf8Len_around, String.utf8Len_toList] at hcontent
  rw [String.utf8ByteSize_ofList, ← around_mark h, utf8Len_around]
  omega

theorem summarize_of_previewed (h : Previewed content) :
    summarize content = String.ofList (around (lines content.toList) (mark content)) := by
  obtain ⟨hlong, hmany, hwide⟩ := h
  rw [summarize, if_neg (by omega), if_pos ((utf8ByteSize_preview_lt_iff hmany).mpr hwide),
    around_mark hmany]

theorem summarize_of_not_previewed (h : ¬ Previewed content) : summarize content = content := by
  dsimp only [summarize]
  by_cases hcut : content.length ≤ maxChars ∨
      (lines content.toList).length ≤ headLines + tailLines
  · rw [if_pos hcut]
  · have hmany : headLines + tailLines < (lines content.toList).length := by omega
    rw [if_neg hcut, if_neg]
    intro hbytes
    exact h ⟨by omega, hmany, (utf8ByteSize_preview_lt_iff hmany).mp hbytes⟩

/-- A preview gains what is said of the hidden lines, and loses the lines. -/
theorem length_summarize (h : Previewed content) :
    (summarize content).length + (hidden content).length =
      content.length + (mark content).length := by
  have hcontent := congrArg List.length (around_hidden h.many)
  rw [length_around, String.length_toList] at hcontent
  rw [summarize_of_previewed h, String.length_ofList, length_around]
  omega

theorem utf8ByteSize_summarize_le (content : String) :
    (summarize content).utf8ByteSize ≤ content.utf8ByteSize := by
  by_cases h : Previewed content
  · have hcontent := congrArg String.utf8Len (around_hidden h.many)
    have hwide := h.wide
    rw [utf8Len_around, String.utf8Len_toList] at hcontent
    rw [summarize_of_previewed h, String.utf8ByteSize_ofList, utf8Len_around]
    omega
  · rw [summarize_of_not_previewed h]

theorem length_summarize_le_iff :
    (summarize content).length ≤ content.length ↔
      (Previewed content → (mark content).length ≤ (hidden content).length) := by
  by_cases h : Previewed content
  · have hlength := length_summarize h
    constructor
    · intro hle _
      omega
    · intro hmark
      have := hmark h
      omega
  · rw [summarize_of_not_previewed h]
    simp [h]

/-! ## How much longer a summary can be -/

theorem length_marker (n : Nat) : (marker n).length = 23 + (Nat.toDigits 10 n).length := by
  simp only [marker, Nat.toString_eq_ofList_toDigits, String.toList_append, List.length_append,
    String.length_toList, String.length_ofList]
  change 5 + (Nat.toDigits 10 n).length + 18 = 23 + (Nat.toDigits 10 n).length
  omega

theorem length_toDigits_le {n : Nat} (h : 9 ≤ n) : (Nat.toDigits 10 n).length + 8 ≤ n := by
  obtain ⟨k, rfl⟩ := Nat.exists_eq_add_of_le' h
  have hpow : k < 10 ^ k := Nat.lt_pow_self (by decide)
  have hlt : k + 9 < 10 ^ (k + 1) := by
    rw [Nat.pow_succ]
    omega
  have := (Nat.length_toDigits_le_iff (by decide) (Nat.succ_pos k)).mpr hlt
  omega

/-- A preview gains at most seventeen characters. What it hides has at least a line feed between any
two lines, so where many lines make the marker longer, they also are longer themselves. -/
theorem length_summarize_le (content : String) :
    (summarize content).length ≤ content.length + 17 := by
  by_cases h : Previewed content
  · have hlength := length_summarize h
    have hmark : (mark content).length = 23 + (Nat.toDigits 10 _).length := length_marker _
    have hlines := length_le_length_unlines (hiddenLines (lines content.toList))
    rw [length_hiddenLines h.many] at hlines
    change _ ≤ (hidden content).length + 1 at hlines
    have hwide := h.wide
    have hnarrow := length_le_utf8Len (mark content)
    have hfour := utf8Len_le (hidden content)
    by_cases hmany : 9 ≤ hiddenCount (lines content.toList)
    · have hdigits := length_toDigits_le hmany
      omega
    · have hone := Nat.length_toDigits_pos (b := 10) (n := hiddenCount (lines content.toList))
      have hdigits := (Nat.length_toDigits_le_iff (b := 10) (k := 1)
        (n := hiddenCount (lines content.toList)) (by decide) (by decide)).mpr (by omega)
      omega
  · rw [summarize_of_not_previewed h]
    exact Nat.le_add_right _ _

theorem tokens_summarize_le (content : String) :
    tokens (summarize content) ≤ tokens content + 5 := by
  have hlength := length_summarize_le content
  unfold tokens
  omega

end Summary

namespace Assembler

/-- What comes in place of a content is that content, or a summary that fits where it did not. -/
theorem tokens_of_fit_full {a : LoadedArtifact} {left : Nat} {form : Form}
    (h : fit .full a left = some form) : tokens (form.text a) ≤ tokens a.content := by
  unfold fit at h
  by_cases hfull : tokens (Form.full.text a) ≤ left
  · rw [if_pos hfull] at h
    obtain rfl := Option.some.inj h
    exact Nat.le_refl _
  · rw [if_neg hfull] at h
    split at h
    · next hshort =>
      obtain rfl := Option.some.inj h
      change ¬ tokens a.content ≤ left at hfull
      change tokens a.summary ≤ tokens a.content
      omega
    · cases h

theorem usedTokens_alone (c : Assembler) (mode : Mode) (s : Scored)
    (h : tokens ((c.preferred mode s.score).text s.artifact) ≤ c.budget) :
    (c.assemble mode [s]).usedTokens = tokens ((c.preferred mode s.score).text s.artifact) := by
  have hadd : (c.add mode ⟨[header], [], [], c.budget⟩ s).left =
      c.budget - tokens ((c.preferred mode s.score).text s.artifact) := by
    rw [add, fit, if_pos h]
  change c.budget - (c.add mode ⟨[header], [], [], c.budget⟩ s).left = _
  omega

end Assembler

namespace Summary

open Text

/-- The summary of an artifact has no more characters than its content, and so costs no more tokens,
unless a preview hides fewer characters than it spends on saying so. It has no more bytes in any
case, and never costs more than five tokens above the content. Where it comes in place of a content
that does not fit, it costs no more than that content. -/
theorem summary_length_le_iff (path content : String) :
    ∃ a, Artifact.ofContent path content = .loaded a ∧
      (a.summary.length ≤ a.content.length ↔
        (Previewed content → (mark content).length ≤ (hidden content).length)) ∧
      (a.summary.length ≤ a.content.length → tokens a.summary ≤ tokens a.content) ∧
      a.summary.utf8ByteSize ≤ a.content.utf8ByteSize ∧
      tokens a.summary ≤ tokens a.content + 5 ∧
      ∀ left form, Assembler.fit .full a left = some form →
        tokens (form.text a) ≤ tokens a.content := by
  refine ⟨_, rfl, length_summarize_le_iff, tokens_mono, utf8ByteSize_summarize_le content,
    tokens_summarize_le content, ?_⟩
  intro left form
  exact Assembler.tokens_of_fit_full

/-- The lines of a text of 61 lines, of which only the first and the one that a preview hides have
characters. -/
def sparse (row wide : List Char) : List (List Char) :=
  (row :: List.replicate 39 []) ++ ([wide] ++ List.replicate 20 [])

theorem unlines_replicate_nil (n : Nat) :
    unlines (List.replicate (n + 1) []) = List.replicate n '\n' := by
  induction n with
  | zero => rfl
  | succ n ih =>
    rw [List.replicate_succ, unlines_cons _ (by simp), ih]
    rfl

theorem length_unlines_sparse (row wide : List Char) :
    (unlines (sparse row wide)).length = row.length + wide.length + 60 := by
  rw [sparse, unlines_append (by simp) (by simp), unlines_cons _ (by simp), List.singleton_append,
    unlines_cons _ (by simp), unlines_replicate_nil, unlines_replicate_nil]
  simp only [List.length_append, List.length_cons, List.length_replicate]
  omega

theorem lines_sparse {row wide : List Char} (hrow : '\n' ∉ row) (hwide : '\n' ∉ wide) :
    lines (unlines (sparse row wide)) = sparse row wide := by
  apply lines_unlines (by simp [sparse])
  intro l hl
  simp only [sparse, List.mem_append, List.mem_cons, List.mem_replicate, List.not_mem_nil,
    or_false] at hl
  rcases hl with (rfl | ⟨-, rfl⟩) | rfl | ⟨-, rfl⟩
  · exact hrow
  · exact List.not_mem_nil
  · exact hwide
  · exact List.not_mem_nil

theorem hiddenLines_sparse (row wide : List Char) : hiddenLines (sparse row wide) = [wide] := by
  apply hiddenLines_append
  · rw [List.length_cons, List.length_replicate, headLines]
  · rw [List.length_replicate, tailLines]

/-- What a preview of such a text says, and of what. -/
theorem parts_sparse {row wide : List Char} (hrow : '\n' ∉ row) (hwide : '\n' ∉ wide) :
    let content := String.ofList (unlines (sparse row wide))
    content.length = row.length + wide.length + 60 ∧ lineCount content = 61 ∧
      hidden content = wide ∧ mark content = marker 1 := by
  intro content
  have hlines : lines content.toList = sparse row wide := by
    rw [String.toList_ofList]
    exact lines_sparse hrow hwide
  have hcount : lineCount content = 61 := by
    rw [lineCount, hlines, sparse]
    simp only [List.length_append, List.length_cons, List.length_replicate, List.length_nil]
  have hmany : headLines + tailLines < (lines content.toList).length := by
    change 60 < lineCount content
    omega
  refine ⟨?_, hcount, ?_, ?_⟩
  · rw [String.length_ofList, length_unlines_sparse]
  · rw [hidden, hlines, hiddenLines_sparse, unlines_singleton]
  · rw [mark, ← length_hiddenLines hmany, hlines, hiddenLines_sparse, List.length_singleton]

theorem previewed_sparse {row wide : List Char} (hrow : '\n' ∉ row) (hwide : '\n' ∉ wide)
    (hlong : 6000 < row.length + wide.length + 60)
    (hbytes : String.utf8Len (marker 1) < String.utf8Len wide) :
    Previewed (String.ofList (unlines (sparse row wide))) := by
  obtain ⟨hlength, hcount, hhidden, hmark⟩ := parts_sparse hrow hwide
  refine ⟨?_, ?_, ?_⟩
  · rw [hlength, maxChars]
    exact hlong
  · change 60 < lineCount _
    omega
  · rw [hhidden, hmark]
    exact hbytes

/-- A line of seven wide characters makes way for a marker that has fewer bytes and seventeen
characters more. -/
theorem length_summarize_sparse {row : List Char} (hrow : '\n' ∉ row)
    (hlong : 6000 ≤ row.length) :
    (summarize (String.ofList (unlines (sparse row (List.replicate 7 '𝄞'))))).length =
      row.length + 84 := by
  have hwide : '\n' ∉ List.replicate 7 '𝄞' := by decide
  obtain ⟨hlength, -, hhidden, hmark⟩ := parts_sparse hrow hwide
  have hgain := length_summarize (previewed_sparse hrow hwide (by omega) (by decide))
  rw [hhidden, hmark, hlength, length_marker, List.length_replicate] at hgain
  have hdigit : (Nat.toDigits 10 1).length = 1 := rfl
  omega

/-- What one artifact costs those who ask for contents and those who ask for summaries. -/
theorem usedTokens_full_summary {content : String} {full short : Nat} (path : String)
    (hcontent : tokens content = full) (hsummary : tokens (summarize content) = short)
    (hfit : full ≤ 8000 ∧ short ≤ 8000) :
    ∃ a, Artifact.ofContent path content = .loaded a ∧
      (Assembler.assemble {} .full [⟨a, 0⟩]).usedTokens = full ∧
      (Assembler.assemble {} .summary [⟨a, 0⟩]).usedTokens = short := by
  subst hcontent hsummary
  refine ⟨_, rfl, ?_, ?_⟩
  · exact Assembler.usedTokens_alone {} .full _ hfit.1
  · exact Assembler.usedTokens_alone {} .summary _ hfit.2

theorem tokens_of_length {text : String} {n : Nat} (h : text.length = n) :
    tokens text = n * 2 / 7 := by rw [tokens, h]

/-- With 6000 characters above the line that is hidden, the summary has 6084 characters where the
content has 6067, and whoever asks for summaries pays 1738 tokens for what costs 1733 in full. -/
theorem summary_dearer :
    let content := String.ofList (unlines (sparse (List.replicate 6000 'a') (List.replicate 7 '𝄞')))
    content.length = 6067 ∧ (summarize content).length = 6084 ∧
      ∃ a, Artifact.ofContent "a.txt" content = .loaded a ∧
        (Assembler.assemble {} .full [⟨a, 0⟩]).usedTokens = 1733 ∧
        (Assembler.assemble {} .summary [⟨a, 0⟩]).usedTokens = 1738 := by
  intro content
  have hrow : '\n' ∉ List.replicate 6000 'a' := by
    intro h
    cases (List.mem_replicate.mp h).2
  have hlong : (List.replicate 6000 'a').length = 6000 := List.length_replicate
  have hlength : content.length = 6067 := by
    rw [String.length_ofList, length_unlines_sparse, hlong, List.length_replicate]
  have hdearer : (summarize content).length = 6084 := by
    rw [length_summarize_sparse hrow (Nat.le_of_eq hlong.symm), hlong]
  exact ⟨hlength, hdearer, usedTokens_full_summary "a.txt" (tokens_of_length hlength)
    (tokens_of_length hdearer) (by decide)⟩

end Summary
end FileChat
