import FileChat.Text.Blank
import Mathlib.Data.List.TakeWhile

/-!
# Trimmed text

What cutting the white space at both ends leaves of a text.
-/
namespace FileChat.Text

/-- A text in front of which nothing is to be cut begins with a character that stays. -/
theorem isBlank_head_trimLeft {text rest : List Char} {c : Char} (h : trimLeft text = c :: rest) :
    isBlank c = false := by
  have hnot := List.head?_dropWhile_not isBlank text
  rw [trimLeft] at h
  rw [h] at hnot
  exact hnot

/-- Nothing is left exactly if the text is white space all through. -/
theorem trim_eq_nil_iff {text : List Char} : trim text = [] ↔ ∀ c ∈ text, isBlank c = true := by
  have hright : trim text = [] ↔ ∀ c ∈ trimLeft text, isBlank c = true := by
    rw [trim, trimRight, List.reverse_eq_nil_iff, List.dropWhile_eq_nil_iff]
    simp only [List.mem_reverse]
  have hleft : trimLeft text = [] ↔ ∀ c ∈ text, isBlank c = true := List.dropWhile_eq_nil_iff
  rw [hright, ← hleft]
  constructor
  · intro h
    cases hcut : trimLeft text with
    | nil => rfl
    | cons c rest =>
      have hblank := h c (by rw [hcut]; exact List.mem_cons_self)
      rw [isBlank_head_trimLeft hcut] at hblank
      cases hblank
  · intro h c hc
    rw [h] at hc
    cases hc

theorem trimLeft_eq_self {text : List Char} (h : ∀ c ∈ text.head?, isBlank c = false) :
    trimLeft text = text := by
  cases text with
  | nil => rfl
  | cons c rest => exact List.dropWhile_cons_of_neg (by simp [h c rfl])

theorem trimRight_eq_self {text : List Char} (h : ∀ c ∈ text.getLast?, isBlank c = false) :
    trimRight text = text := by
  have hreverse : trimLeft text.reverse = text.reverse := by
    apply trimLeft_eq_self
    rwa [List.head?_reverse]
  have htrim : trimRight text = (trimLeft text.reverse).reverse := rfl
  rw [htrim, hreverse, List.reverse_reverse]

/-- A text that begins and ends with characters that stay is left as it is. -/
theorem trim_eq_self {text : List Char} (hfirst : ∀ c ∈ text.head?, isBlank c = false)
    (hlast : ∀ c ∈ text.getLast?, isBlank c = false) : trim text = text := by
  rw [trim, trimLeft_eq_self hfirst, trimRight_eq_self hlast]

theorem trimRight_isPrefix (text : List Char) : trimRight text <+: text := by
  have h := List.dropWhile_suffix isBlank (l := text.reverse)
  rw [← List.reverse_prefix, List.reverse_reverse] at h
  exact h

/-- Whether a text has no white space at its ends. -/
def Bare (text : List Char) : Prop :=
  (∀ c ∈ text.head?, isBlank c = false) ∧ ∀ c ∈ text.getLast?, isBlank c = false

theorem bare_trim (text : List Char) : Bare (trim text) := by
  constructor
  · intro c hc
    obtain ⟨cut, hcut⟩ := trimRight_isPrefix (trimLeft text)
    change c ∈ (trimRight (trimLeft text)).head? at hc
    cases hright : trimRight (trimLeft text) with
    | nil =>
      rw [hright] at hc
      cases hc
    | cons first rest =>
      rw [hright] at hc hcut
      cases hc
      exact isBlank_head_trimLeft hcut.symm
  · intro c hc
    have hnot := List.head?_dropWhile_not isBlank (trimLeft text).reverse
    rw [trim, trimRight, List.getLast?_reverse] at hc
    rw [hc] at hnot
    exact hnot

theorem bare_of_forall {text : List Char} (h : ∀ c ∈ text, isBlank c = false) : Bare text :=
  ⟨fun c hc => h c (List.mem_of_mem_head? hc), fun c hc => h c (List.mem_of_mem_getLast? hc)⟩

theorem bare_append {front back : List Char} (hfront : front ≠ [])
    (hhead : ∀ c ∈ front.head?, isBlank c = false) (hback : back ≠ [])
    (hlast : ∀ c ∈ back.getLast?, isBlank c = false) : Bare (front ++ back) := by
  constructor
  · rwa [List.head?_append, Option.or_of_isSome (List.isSome_head?.mpr hfront)]
  · rwa [List.getLast?_append, Option.or_of_isSome (List.getLast?_isSome.mpr hback)]

theorem trim_of_bare {text : List Char} (h : Bare text) : trim text = text := trim_eq_self h.1 h.2

theorem trim_trim (text : List Char) : trim (trim text) = trim text := trim_of_bare (bare_trim text)

/-- A run ends before the first character that is not of its kind. -/
theorem span_append {p : Char → Bool} {front back : List Char} (hfront : ∀ c ∈ front, p c = true)
    (hback : ∀ c ∈ back.head?, p c = false) :
    (front ++ back).takeWhile p = front ∧ (front ++ back).dropWhile p = back := by
  have hstop : back.takeWhile p = [] ∧ back.dropWhile p = back := by
    cases back with
    | nil => exact ⟨rfl, rfl⟩
    | cons c back => simp [hback c rfl]
  rw [List.takeWhile_append_of_pos hfront, List.dropWhile_append_of_pos hfront, hstop.1, hstop.2,
    List.append_nil]
  exact ⟨rfl, rfl⟩

theorem trim_cons_of_isBlank {c : Char} (h : isBlank c = true) (text : List Char) :
    trim (c :: text) = trim text := by
  rw [trim, trimLeft, List.dropWhile_cons_of_pos h]
  rfl

/-- White space in front makes no difference. -/
theorem trim_blank_append {blanks : List Char} (h : ∀ c ∈ blanks, isBlank c = true)
    (text : List Char) : trim (blanks ++ text) = trim text := by
  rw [trim, trimLeft, List.dropWhile_append_of_pos h]
  rfl

/-- White space at the end makes no difference. -/
theorem trim_append_blank {blanks : List Char} (h : ∀ c ∈ blanks, isBlank c = true)
    (text : List Char) : trim (text ++ blanks) = trim text := by
  rw [trim, trim, trimLeft, trimLeft, List.dropWhile_append]
  split
  · next hempty =>
    have hblanks : blanks.dropWhile isBlank = [] := List.dropWhile_eq_nil_iff.mpr h
    rw [List.isEmpty_iff.mp hempty, hblanks]
  · have hreverse : ∀ c ∈ blanks.reverse, isBlank c = true := by
      simpa only [List.mem_reverse] using h
    rw [trimRight, trimRight, List.reverse_append, List.dropWhile_append_of_pos hreverse]

end FileChat.Text
