import FileChat.Text.ByteLines

/-!
# The framing of lines

`Framed` relates bytes to the lines that have ended in them and to what stands after the last line
feed. Every list of bytes is framed in one way, and `split` finds it. Two framings join where what
waited after the first begins the second, which is all that a reader of pieces relies on.
-/
namespace FileChat.ByteLines

/-- The bytes of some lines, each with the line feed that ends it. -/
def terminated (lines : List (List UInt8)) : List UInt8 := lines.flatMap (· ++ [lineFeed])

structure Framed (bytes : List UInt8) (lines : List (List UInt8)) (rest : List UInt8) : Prop where
  eq : bytes = terminated lines ++ rest
  lines_open : ∀ l ∈ lines, lineFeed ∉ l
  rest_open : lineFeed ∉ rest

theorem terminated_cons (l : List UInt8) (ls : List (List UInt8)) :
    terminated (l :: ls) = l ++ lineFeed :: terminated ls := by
  simp [terminated]

theorem terminated_append (ls ls' : List (List UInt8)) :
    terminated (ls ++ ls') = terminated ls ++ terminated ls' := List.flatMap_append

theorem split_of_not_mem {bytes : List UInt8} (h : lineFeed ∉ bytes) :
    split bytes = ([], bytes) := by
  have hs := List.splitOn_eq_singleton h
  simp only [split, hs, List.dropLast_singleton, List.getLast_singleton]

theorem split_line {l : List UInt8} (h : lineFeed ∉ l) (bytes : List UInt8) :
    split (l ++ lineFeed :: bytes) = (l :: (split bytes).1, (split bytes).2) := by
  have hs : (l ++ lineFeed :: bytes).splitOn lineFeed = l :: bytes.splitOn lineFeed :=
    List.splitOn_append_cons_self_of_not_mem h bytes
  have hne := List.splitOn_ne_nil lineFeed bytes
  simp only [split, hs, List.dropLast_cons_of_ne_nil hne, List.getLast_cons hne]

/-- The splitter finds any framing, so there is no other. -/
theorem Framed.split_eq {bytes rest : List UInt8} {lines : List (List UInt8)}
    (h : Framed bytes lines rest) : split bytes = (lines, rest) := by
  obtain ⟨rfl, hlines, hrest⟩ := h
  induction lines with
  | nil => exact split_of_not_mem hrest
  | cons l ls ih =>
    rw [terminated_cons, List.append_assoc, List.cons_append,
      split_line (hlines l List.mem_cons_self),
      ih fun l' hl' => hlines l' (List.mem_cons_of_mem _ hl')]

theorem Framed.unique {bytes rest rest' : List UInt8} {lines lines' : List (List UInt8)}
    (h : Framed bytes lines rest) (h' : Framed bytes lines' rest') :
    lines = lines' ∧ rest = rest' := by
  have he := h.split_eq.symm.trans h'.split_eq
  exact ⟨congrArg Prod.fst he, congrArg Prod.snd he⟩

theorem framed_of_not_mem {bytes : List UInt8} (h : lineFeed ∉ bytes) : Framed bytes [] bytes :=
  ⟨rfl, by simp, h⟩

theorem Framed.line {l bytes rest : List UInt8} {lines : List (List UInt8)} (hl : lineFeed ∉ l)
    (h : Framed bytes lines rest) : Framed (l ++ lineFeed :: bytes) (l :: lines) rest := by
  refine ⟨?_, List.forall_mem_cons.mpr ⟨hl, h.lines_open⟩, h.rest_open⟩
  rw [h.eq, terminated_cons]
  simp

/-- All bytes are framed. -/
theorem framed_split (bytes : List UInt8) : Framed bytes (split bytes).1 (split bytes).2 := by
  induction hn : bytes.length using Nat.strongRecOn generalizing bytes with
  | ind n ih =>
    by_cases hmem : lineFeed ∈ bytes
    · obtain ⟨l, more, rfl, hl⟩ := List.eq_append_cons_of_mem hmem
      have hshorter : more.length < n := by simp at hn; omega
      rw [split_line hl]
      exact (ih more.length hshorter more rfl).line hl
    · rw [split_of_not_mem hmem]
      exact framed_of_not_mem hmem

/-- What waits after the first bytes is continued by the next. -/
theorem Framed.append {a b rest rest' : List UInt8} {lines lines' : List (List UInt8)}
    (h : Framed a lines rest) (h' : Framed (rest ++ b) lines' rest') :
    Framed (a ++ b) (lines ++ lines') rest' := by
  refine ⟨?_, ?_, h'.rest_open⟩
  · rw [h.eq, List.append_assoc, h'.eq, terminated_append, List.append_assoc]
  · intro l hl
    rcases List.mem_append.mp hl with hl | hl
    · exact h.lines_open l hl
    · exact h'.lines_open l hl

/-- A place where a line may begin: the very front, or after a line feed. -/
def AtBoundary (before : List UInt8) : Prop := before = [] ∨ before.getLast? = some lineFeed

/-- Nothing waits at a boundary. -/
theorem Framed.rest_eq_nil {before rest : List UInt8} {lines : List (List UInt8)}
    (h : Framed before lines rest) (hb : AtBoundary before) : rest = [] := by
  cases hrest : rest with
  | nil => rfl
  | cons b bs =>
    have hne : rest ≠ [] := by rw [hrest]; exact List.cons_ne_nil b bs
    rcases hb with hb | hb
    · have heq := h.eq
      rw [hb] at heq
      exact absurd (List.append_eq_nil_iff.mp heq.symm).2 hne
    · have hlast : rest.getLast? = some lineFeed := by
        rw [h.eq, List.getLast?_append, List.getLast?_eq_some_getLast hne] at hb
        rw [List.getLast?_eq_some_getLast hne]
        exact hb
      exact absurd (List.mem_of_getLast? hlast) h.rest_open

theorem AtBoundary.framed {before : List UInt8} (h : AtBoundary before) :
    Framed before (split before).1 [] := by
  have hframed := framed_split before
  rwa [hframed.rest_eq_nil h] at hframed

end FileChat.ByteLines
