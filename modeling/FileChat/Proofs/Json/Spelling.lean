import FileChat.Json.Reader
import FileChat.Json.Writer
import Mathlib.Data.List.Basic

/-!
# The spellings of a string

Inside quotes a character stands for itself, or it is escaped: by a letter, by the four hexadecimal
digits of its number, or by the digits of two surrogates. `Spells` is the relation between a text
and what may stand for it between quotes. The reader gives the text back for every spelling, and
what the writer writes is one.
-/
namespace FileChat.Json

/-- The letters of escapes, and what they stand for. -/
def shortEscapes : List (Char × Char) :=
  [('"', '"'), ('\\', '\\'), ('/', '/'), ('b', '\x08'), ('f', '\x0c'), ('n', '\n'), ('r', '\r'),
    ('t', '\t')]

/-- Four hexadecimal digits, of either case, and their number. -/
def IsHex (n : Nat) (digits : List Char) : Prop :=
  digits.length = 4 ∧ Text.number? 16 digits = some n

/-- What may stand for a character. -/
inductive SpellsChar (c : Char) : List Char → Prop
  | plain : 0x20 ≤ c.toNat → c ≠ '"' → c ≠ '\\' → SpellsChar c [c]
  | short {letter : Char} : (letter, c) ∈ shortEscapes → SpellsChar c ['\\', letter]
  | hex {digits : List Char} : IsHex c.toNat digits → SpellsChar c ('\\' :: 'u' :: digits)
  | surrogates {high low : Nat} {digits digits' : List Char} :
      0xD800 ≤ high → high ≤ 0xDBFF → 0xDC00 ≤ low → low ≤ 0xDFFF →
      c.toNat = 0x10000 + (high - 0xD800) * 0x400 + (low - 0xDC00) →
      IsHex high digits → IsHex low digits' →
      SpellsChar c ('\\' :: 'u' :: (digits ++ '\\' :: 'u' :: digits'))

/-- What may stand for a text, a character after another. -/
inductive Spells : List Char → List Char → Prop
  | nil : Spells [] []
  | cons {c : Char} {cs spelling rest : List Char} :
      SpellsChar c spelling → Spells cs rest → Spells (c :: cs) (spelling ++ rest)

/-! ## Reading -/

theorem exists_digit_of_isDigitOf {base : Nat} {c : Char} (h : Text.isDigitOf base c = true) :
    ∃ d, Text.digit? c = some d := by
  rw [Text.isDigitOf] at h
  cases hd : Text.digit? c with
  | some d => exact ⟨d, rfl⟩
  | none => rw [hd] at h; cases h

theorem IsHex.digits {n : Nat} {digits : List Char} (h : IsHex n digits) :
    ∃ a b c d i j k l, digits = [a, b, c, d] ∧ Text.digit? a = some i ∧ Text.digit? b = some j ∧
      Text.digit? c = some k ∧ Text.digit? d = some l ∧
      n = ((i * 16 + j) * 16 + k) * 16 + l := by
  obtain ⟨hlength, hnumber⟩ := h
  obtain ⟨a, b, c, d, rfl⟩ := List.length_eq_four.mp hlength
  rw [Text.number?] at hnumber
  split at hnumber
  · next hall =>
    simp only [Bool.and_eq_true, List.all_cons, List.all_nil, Bool.and_true] at hall
    obtain ⟨-, ha, hb, hc, hd⟩ := hall
    obtain ⟨i, hi⟩ := exists_digit_of_isDigitOf ha
    obtain ⟨j, hj⟩ := exists_digit_of_isDigitOf hb
    obtain ⟨k, hk⟩ := exists_digit_of_isDigitOf hc
    obtain ⟨l, hl⟩ := exists_digit_of_isDigitOf hd
    refine ⟨a, b, c, d, i, j, k, l, rfl, hi, hj, hk, hl, ?_⟩
    rw [← Option.some.inj hnumber]
    simp [Text.digitsValue, hi, hj, hk, hl]
  · cases hnumber

namespace Reader

variable {frames : List Frame} {s : Scan} {rest : List Char}

/-- Four hexadecimal digits are read to their end, from wherever they were begun. -/
theorem run_hex {n : Nat} {digits : List Char} (h : IsHex n digits) {lead : Option Nat} {s' : Scan}
    (hend : endHex false s n lead = .ok s') :
    run false ⟨frames, .string { s with escape := .hex 0 0 lead }⟩ (digits ++ rest) =
      run false ⟨frames, .string s'⟩ rest := by
  obtain ⟨a, b, c, d, i, j, k, l, rfl, ha, hb, hc, hd, rfl⟩ := h.digits
  have hescape (e : Escape) : endHex false { s with escape := e } (((i * 16 + j) * 16 + k) * 16 + l)
      lead = .ok s' := by
    rw [← hend]
    cases lead <;> rfl
  simp [run, step, stepScan, ha, hb, hc, hd, hescape, Except.map]

theorem not_isTrailSurrogate (c : Char) : isTrailSurrogate c.toNat = false := by
  have h : c.toNat < 0xD800 ∨ 0xDFFF < c.toNat ∧ c.toNat < 0x110000 := c.valid
  simp only [isTrailSurrogate, Bool.and_eq_false_iff, decide_eq_false_iff_not]
  omega

theorem not_isLeadSurrogate (c : Char) : isLeadSurrogate c.toNat = false := by
  have h : c.toNat < 0xD800 ∨ 0xDFFF < c.toNat ∧ c.toNat < 0x110000 := c.valid
  simp only [isLeadSurrogate, Bool.and_eq_false_iff, decide_eq_false_iff_not]
  omega

/-- The number of a character, which is no surrogate, is that character. -/
theorem endHex_char (c : Char) : endHex false s c.toNat none = .ok (Scan.push s c) := by
  have hc : Char.ofNat c.toNat = c := c.ofNat_toNat
  simp [endHex, not_isTrailSurrogate, not_isLeadSurrogate, hc]

theorem escaped?_of_mem {letter c : Char} (h : (letter, c) ∈ shortEscapes) :
    letter ≠ 'u' ∧ escaped? letter = some c := by
  simp only [shortEscapes, List.mem_cons, List.not_mem_nil, or_false, Prod.mk.injEq] at h
  rcases h with h | h | h | h | h | h | h | h
  all_goals
    obtain ⟨rfl, rfl⟩ := h
    decide

theorem run_backslash (hs : s.escape = .none) :
    run false ⟨frames, .string s⟩ ('\\' :: rest) =
      run false ⟨frames, .string { s with escape := .opened }⟩ rest := by
  simp [run, step, stepScan, hs, stepText]

theorem run_hexMark :
    run false ⟨frames, .string { s with escape := .opened }⟩ ('u' :: rest) =
      run false ⟨frames, .string { s with escape := .hex 0 0 none }⟩ rest := by
  simp [run, step, stepScan, stepEscape, Except.map]

/-- What follows a leading surrogate has to be another escape. -/
theorem run_secondMark {high : Nat} :
    run false ⟨frames, .string { s with escape := .lead high }⟩ ('\\' :: 'u' :: rest) =
      run false ⟨frames, .string { s with escape := .hex 0 0 (some high) }⟩ rest := by
  simp [run, step, stepScan]

theorem run_spellsChar {c : Char} {spelling : List Char} (h : SpellsChar c spelling)
    (hs : s.escape = .none) : run false ⟨frames, .string s⟩ (spelling ++ rest) =
      run false ⟨frames, .string (Scan.push s c)⟩ rest := by
  cases h with
  | plain hlow hquote hbackslash =>
    have hnot : ¬ c.toNat < 0x20 := Nat.not_lt.mpr hlow
    simp [run, step, stepScan, hs, stepText, hquote, hbackslash, hnot]
  | @short letter hmem =>
    obtain ⟨hmark, hletter⟩ := escaped?_of_mem hmem
    rw [List.cons_append, run_backslash hs]
    simp [run, step, stepScan, stepEscape, hmark, hletter, Except.map, Scan.push]
  | hex hhex =>
    rw [List.cons_append, List.cons_append, run_backslash hs, run_hexMark]
    exact run_hex hhex (endHex_char c)
  | @surrogates high low digits digits' hhigh hhigh' hlow hlow' hc hhex hhex' =>
    have hfirst : endHex false s high none = .ok { s with escape := .lead high } := by
      have htrail : isTrailSurrogate high = false := by
        simp only [isTrailSurrogate, Bool.and_eq_false_iff, decide_eq_false_iff_not]
        omega
      have hlead : isLeadSurrogate high = true := by
        simp [isLeadSurrogate, hhigh, hhigh']
      simp [endHex, htrail, hlead]
    have hsecond : endHex false s low (some high) = .ok (Scan.push s c) := by
      have htrail : isTrailSurrogate low = true := by simp [isTrailSurrogate, hlow, hlow']
      have hnumber : (high - 0xD800) * 0x400 + (low - 0xDC00) + 0x10000 = c.toNat := by omega
      rw [endHex]
      simp only [htrail, if_true, hnumber]
      rw [Char.ofNat_toNat]
    rw [List.cons_append, List.cons_append, List.append_assoc, run_backslash hs, run_hexMark,
      run_hex hhex hfirst, List.cons_append, List.cons_append, run_secondMark,
      run_hex hhex' hsecond]

/-- A string is read as the text that it spells, up to the closing quote. -/
theorem run_spells {text spelling : List Char} (h : Spells text spelling) (hs : s.escape = .none) :
    run false ⟨frames, .string s⟩ (spelling ++ '"' :: rest) =
      run false (endString frames { s with text := text.reverse ++ s.text }) rest := by
  induction h generalizing s with
  | nil =>
    simp only [List.nil_append, run, step, stepScan, hs, stepText]
    rfl
  | @cons c cs spelling more hc _ ih =>
    have hpushed : (Scan.push s c).escape = .none := rfl
    rw [List.append_assoc, run_spellsChar hc hs, ih hpushed]
    simp [Scan.push, hs]

end Reader

/-! ## Writing -/

theorem isHex_control {n : Nat} (h : n < 0x20) :
    IsHex n ['0', '0', (n / 16).digitChar, (n % 16).digitChar] := by
  have hhigh : Text.digit? (n / 16).digitChar = some (n / 16) :=
    Text.digit?_digitChar _ (by omega)
  have hlow : Text.digit? (n % 16).digitChar = some (n % 16) := Text.digit?_digitChar _ (by omega)
  refine ⟨rfl, ?_⟩
  have hzero : Text.digit? '0' = some 0 := rfl
  have hnumber : n / 16 * 16 + n % 16 = n := by omega
  have h1 : n / 16 < 16 := by omega
  have h2 : n % 16 < 16 := by omega
  simp [Text.number?, Text.isDigitOf, Text.digitsValue, hzero, hhigh, hlow, hnumber, h1, h2]

theorem SpellsChar.of_mem {c c' letter : Char} (hc : c = c') (h : (letter, c') ∈ shortEscapes) :
    SpellsChar c ['\\', letter] := by
  subst hc
  exact .short h

theorem spellsChar_escape (c : Char) : SpellsChar c (escape c) := by
  unfold escape
  split
  · next h => exact .of_mem h (by decide)
  split
  · next h => exact .of_mem h (by decide)
  split
  · next h => exact .of_mem h (by decide)
  split
  · next h => exact .of_mem h (by decide)
  split
  · next h => exact .of_mem h (by decide)
  split
  · next h => exact .of_mem h (by decide)
  split
  · next h => exact .of_mem h (by decide)
  split
  · next h => exact .hex (isHex_control h)
  · next hquote hbackslash _ _ _ _ _ hlow =>
    exact .plain (Nat.not_lt.mp hlow) hquote hbackslash

/-- What the writer writes between quotes spells the text. -/
theorem spells_escape (text : List Char) : Spells text (text.flatMap escape) := by
  induction text with
  | nil => exact .nil
  | cons c text ih => exact .cons (spellsChar_escape c) ih

/-! ## No control characters -/

def Printable (t : List Char) : Prop := ∀ c ∈ t, 0x20 ≤ c.toNat

theorem printable_nil : Printable [] := fun _ hc => absurd hc List.not_mem_nil

theorem printable_cons {c : Char} {t : List Char} :
    Printable (c :: t) ↔ 0x20 ≤ c.toNat ∧ Printable t := List.forall_mem_cons

theorem printable_append {t t' : List Char} :
    Printable (t ++ t') ↔ Printable t ∧ Printable t' := List.forall_mem_append

theorem toNat_of_digit? {c : Char} {d : Nat} (h : Text.digit? c = some d) : 0x20 ≤ c.toNat := by
  rw [Text.digit?] at h
  split at h
  · next hdigit =>
    simp only [Char.isDigit, Bool.and_eq_true, decide_eq_true_eq] at hdigit
    exact Nat.le_trans (by decide) hdigit.1
  split at h
  · next hlower => exact Nat.le_trans (by decide) hlower.1
  split at h
  · next hupper => exact Nat.le_trans (by decide) hupper.1
  · cases h

theorem IsHex.printable {n : Nat} {digits : List Char} (h : IsHex n digits) : Printable digits := by
  obtain ⟨a, b, c, d, i, j, k, l, rfl, ha, hb, hc, hd, -⟩ := h.digits
  simp only [printable_cons]
  exact ⟨toNat_of_digit? ha, toNat_of_digit? hb, toNat_of_digit? hc, toNat_of_digit? hd,
    printable_nil⟩

theorem SpellsChar.printable {c : Char} {spelling : List Char} (h : SpellsChar c spelling) :
    Printable spelling := by
  cases h with
  | plain hlow => exact printable_cons.mpr ⟨hlow, printable_nil⟩
  | short hmem =>
    have hletter : ∀ e ∈ shortEscapes, 0x20 ≤ e.1.toNat := by decide
    simp only [printable_cons]
    exact ⟨by decide, hletter _ hmem, printable_nil⟩
  | hex hhex =>
    simp only [printable_cons]
    exact ⟨by decide, by decide, hhex.printable⟩
  | surrogates _ _ _ _ _ hhex hhex' =>
    simp only [printable_cons, printable_append]
    exact ⟨by decide, by decide, hhex.printable, by decide, by decide, hhex'.printable⟩

theorem Spells.printable {text spelling : List Char} (h : Spells text spelling) :
    Printable spelling := by
  induction h with
  | nil => exact printable_nil
  | cons hc _ ih => exact printable_append.mpr ⟨hc.printable, ih⟩

end FileChat.Json
