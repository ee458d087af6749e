import FileChat.Calendar.Timestamp
import FileChat.Proofs.Text.Parsing
import FileChat.Proofs.Text.Trimming
import Mathlib.Algebra.Group.Nat.Defs
import Mathlib.Data.List.Basic

/-!
# Timestamps are read as they are written

Each part of the text of a timestamp is a number with zeros in front, and ends where a mark or the
text ends. The parser takes the parts off one by one, so it gives every timestamp back: those of a
year with a sign and those within a leap second as well.
-/
namespace FileChat

open FileChat.Parser (char_cons ensure_true peek?_cons run_bind run_bind_of_eq run_pure
  satisfy_cons)

/-! ## Digits -/

/-- Characters that are the digits of a number, with or without zeros in front. -/
structure Text.Digits (ds : List Char) (n : Nat) : Prop where
  ne_nil : ds ≠ []
  all_digits : ∀ c ∈ ds, c.isDigit = true
  value : Nat.ofDigitChars 10 ds 0 = n

theorem Text.digitsValue_of_digits {ds : List Char} (h : ∀ c ∈ ds, c.isDigit = true) :
    Text.digitsValue 10 ds = Nat.ofDigitChars 10 ds 0 := by
  rw [Text.digitsValue, Nat.ofDigitChars_eq_foldl]
  refine List.foldl_ext _ _ _ fun n c hc => ?_
  rw [Text.digit?, if_pos (h c hc), Option.getD_some, Nat.mul_comm]

theorem Text.Digits.digitsValue_eq {ds : List Char} {n : Nat} (h : Text.Digits ds n) :
    Text.digitsValue 10 ds = n := by
  rw [Text.digitsValue_of_digits h.all_digits, h.value]

theorem Text.Digits.head {ds : List Char} {n : Nat} (h : Text.Digits ds n) :
    ∃ c cs, ds = c :: cs ∧ c.isDigit = true := by
  obtain ⟨c, cs, rfl⟩ := List.exists_cons_of_ne_nil h.ne_nil
  exact ⟨c, cs, rfl, h.all_digits c List.mem_cons_self⟩

theorem Text.not_isBlank_of_isDigit {c : Char} (h : c.isDigit = true) :
    Text.isBlank c = false := by
  simp only [Char.isDigit, Bool.and_eq_true, decide_eq_true_eq] at h
  have hlow : 48 ≤ c.toNat := h.1
  have hhigh : c.toNat ≤ 57 := h.2
  simp only [Text.isBlank, Bool.or_eq_false_iff, Bool.and_eq_false_iff, decide_eq_false_iff_not,
    beq_eq_false_iff_ne]
  omega

namespace Calendar

theorem toList_padded (width n : Nat) : (padded width n).toList =
    List.replicate (width - (Nat.toDigits 10 n).length) '0' ++ Nat.toDigits 10 n := by
  have hdigits : (toString n).toList = Nat.toDigits 10 n := Nat.toList_repr
  rw [padded, String.toList_append, String.toList_ofList, hdigits, ← String.length_toList, hdigits]

theorem digits_padded (width n : Nat) : Text.Digits (padded width n).toList n where
  ne_nil := by
    rw [toList_padded]
    exact List.append_ne_nil_of_right_ne_nil _ Nat.toDigits_ne_nil
  all_digits := by
    rw [toList_padded, List.forall_mem_append]
    refine ⟨fun c hc => ?_, fun c hc => Nat.isDigit_of_mem_toDigits (by decide) (by decide) hc⟩
    rw [List.eq_of_mem_replicate hc]
    rfl
  value := by
    rw [toList_padded, Nat.ofDigitChars_append, Nat.ofDigitChars_replicate_zero, Nat.mul_zero,
      Nat.ofDigitChars_ten_toDigits]

theorem length_padded {width n : Nat} (hwidth : 0 < width) (h : n < 10 ^ width) :
    (padded width n).toList.length = width := by
  have hle := (Nat.length_toDigits_le_iff (by decide) hwidth).mpr h
  rw [toList_padded, List.length_append, List.length_replicate]
  omega

end Calendar

namespace Timestamp

open Calendar

variable {ds rest : List Char} {limit n : Nat} {c : Char}

/-! ## Parts -/

/-- A text in which nothing is to be passed over as white space. -/
theorem blanks_of_head (h : ∀ c ∈ rest.head?, Text.isBlank c = false) :
    blanks rest = some ((), rest) := by
  cases rest with
  | nil => rfl
  | cons c rest =>
    have hblank := h c rfl
    rw [blanks, run_bind, Parser.takeWhile, List.takeWhile_cons, List.dropWhile_cons, hblank]
    rfl

theorem blanks_of_digits (h : Text.Digits ds n) : blanks (ds ++ rest) = some ((), ds ++ rest) := by
  obtain ⟨c, cs, rfl, hc⟩ := h.head
  refine blanks_of_head ?_
  rintro c ⟨⟩
  exact Text.not_isBlank_of_isDigit hc

theorem blanks_cons (h : Text.isBlank c = false) : blanks (c :: rest) = some ((), c :: rest) := by
  refine blanks_of_head ?_
  rintro _ ⟨⟩
  exact h

theorem separator_cons (h : Text.isBlank c = false) :
    separator c (c :: rest) = some ((), rest) := by
  rw [separator, run_bind_of_eq (blanks_cons h)]
  exact char_cons

/-- Digits come to an end at their limit, or before what is no digit. -/
theorem digits_append (hds : Text.Digits ds n) (hlimit : ds.length ≤ limit)
    (hend : ds.length = limit ∨ ∀ c ∈ rest.head?, c.isDigit = false) :
    digits limit (ds ++ rest) = some (ds, rest) := by
  have htake : ((ds ++ rest).take limit).takeWhile Char.isDigit = ds := by
    rw [List.take_append, List.take_of_length_le hlimit, List.takeWhile_append_of_pos
      hds.all_digits]
    rcases hend with heq | hhead
    · rw [heq, Nat.sub_self, List.take_zero, List.takeWhile_nil, List.append_nil]
    · cases rest with
      | nil => simp
      | cons c rest =>
        have hc := hhead c rfl
        cases limit - ds.length <;> simp [hc]
  have hempty : ds.isEmpty = false := by simpa using hds.ne_nil
  rw [digits]
  simp only [htake, hempty, List.drop_left]
  rfl

theorem number_append (hds : Text.Digits ds n) (hlimit : ds.length = limit) :
    number limit (ds ++ rest) = some (n, rest) := by
  have htaken : digits limit (ds ++ rest) = some (ds, rest) :=
    digits_append hds (Nat.le_of_eq hlimit) (.inl hlimit)
  rw [number, run_bind_of_eq (blanks_of_digits hds), run_bind_of_eq htaken, run_pure,
    hds.digitsValue_eq]

theorem number_two (h : n < 100) : number 2 ((padded 2 n).toList ++ rest) = some (n, rest) :=
  number_append (digits_padded 2 n) (length_padded (by decide) h)

theorem takeWhile_digits (hds : Text.Digits ds n) (hend : ∀ c ∈ rest.head?, c.isDigit = false) :
    Parser.takeWhile Char.isDigit (ds ++ rest) = some (ds, rest) := by
  obtain ⟨htaken, hleft⟩ := Text.span_append hds.all_digits hend
  rw [Parser.takeWhile, htaken, hleft]

/-- After a sign a year goes on to the first character that is no digit. -/
theorem year_signed (hds : Text.Digits ds n) (hend : ∀ c ∈ rest.head?, c.isDigit = false) :
    year ('-' :: (ds ++ rest)) = some (-(n : Int), rest) ∧
      year ('+' :: (ds ++ rest)) = some ((n : Int), rest) := by
  have htaken := takeWhile_digits hds hend
  have hsome : (!ds.isEmpty) = true := by simpa using hds.ne_nil
  constructor
  all_goals
    rw [year, run_bind_of_eq (blanks_cons (by decide)), run_bind_of_eq peek?_cons]
    simp only
    rw [run_bind_of_eq char_cons, run_bind_of_eq htaken, hsome, run_bind_of_eq ensure_true,
      run_pure, hds.digitsValue_eq]

/-- A year without a sign has four digits. -/
theorem year_unsigned (hds : Text.Digits ds n) (hlength : ds.length = 4) :
    year (ds ++ rest) = some ((n : Int), rest) := by
  have hfour : digits 4 (ds ++ rest) = some (ds, rest) :=
    digits_append hds (Nat.le_of_eq hlength) (.inl hlength)
  obtain ⟨c, cs, hcs, hc⟩ := hds.head
  have hpeek : Parser.peek? (ds ++ rest) = some (some c, ds ++ rest) := by
    rw [hcs]
    rfl
  have hminus : c ≠ '-' := by
    rintro rfl
    cases hc
  have hplus : c ≠ '+' := by
    rintro rfl
    cases hc
  rw [year, run_bind_of_eq (blanks_of_digits hds), run_bind_of_eq hpeek]
  simp only [Option.some.injEq, hminus, hplus, false_imp_iff]
  rw [run_bind_of_eq hfour, run_pure, hds.digitsValue_eq]

theorem year_text (y : Int) (hend : ∀ c ∈ rest.head?, c.isDigit = false) :
    year ((yearText y).toList ++ rest) = some (y, rest) := by
  have hdigits := digits_padded 4 y.natAbs
  obtain ⟨hnegative, hpositive⟩ := year_signed hdigits hend
  rw [yearText]
  split
  · next hneg =>
    have htext : ("-" ++ padded 4 y.natAbs).toList ++ rest =
        '-' :: ((padded 4 y.natAbs).toList ++ rest) := by
      simp [String.toList_append]
    have hvalue : (-(y.natAbs : Int)) = y := by omega
    rw [htext, hnegative, hvalue]
  have hvalue : (y.natAbs : Int) = y := by omega
  split
  · have htext : ("+" ++ padded 4 y.natAbs).toList ++ rest =
        '+' :: ((padded 4 y.natAbs).toList ++ rest) := by
      simp [String.toList_append]
    rw [htext, hpositive, hvalue]
  · rw [year_unsigned hdigits (length_padded (by decide) (by omega)), hvalue]

/-- The digits of a fraction say how many nanoseconds it is, as often as there is room for digits
after them. -/
theorem fraction_digits {n room : Nat} (hds : Text.Digits ds n) (hlength : ds.length + room = 9)
    (hend : ∀ c ∈ rest.head?, c.isDigit = false) :
    fraction ('.' :: (ds ++ rest)) = some (n * 10 ^ room, rest) := by
  have hrest : Parser.takeWhile Char.isDigit rest = some ([], rest) := by
    cases rest with
    | nil => rfl
    | cons c rest => simp [Parser.takeWhile, hend c rfl]
  have hroom : 9 - ds.length = room := by omega
  rw [fraction, run_bind_of_eq peek?_cons]
  simp only
  rw [run_bind_of_eq char_cons, run_bind_of_eq (digits_append hds (by omega) (.inr hend)),
    run_bind_of_eq hrest, run_pure, hds.digitsValue_eq, hroom]
  rfl

theorem fraction_text {nanosecond : Nat} (h : nanosecond < 1000000000)
    (hend : ∀ c ∈ rest.head?, c.isDigit = false ∧ c ≠ '.') :
    fraction ((fractionText nanosecond).toList ++ rest) = some (nanosecond, rest) := by
  have hdigit : ∀ c ∈ rest.head?, c.isDigit = false := fun c hc => (hend c hc).1
  have hpart : ∀ width room, width + room = 9 → 0 < width → nanosecond / 10 ^ room < 10 ^ width →
      nanosecond / 10 ^ room * 10 ^ room = nanosecond →
      fraction (("." ++ padded width (nanosecond / 10 ^ room)).toList ++ rest) =
        some (nanosecond, rest) := by
    intro width room hsum hwidth hfits hexact
    have htext : ("." ++ padded width (nanosecond / 10 ^ room)).toList ++ rest =
        '.' :: ((padded width (nanosecond / 10 ^ room)).toList ++ rest) := by
      simp [String.toList_append]
    have hlength : (padded width (nanosecond / 10 ^ room)).toList.length + room = 9 := by
      rw [length_padded hwidth hfits, hsum]
    rw [htext, fraction_digits (digits_padded _ _) hlength hdigit, hexact]
  rw [fractionText]
  split
  · next hzero =>
    rw [hzero]
    cases rest with
    | nil => rfl
    | cons c rest =>
      have hc := (hend c rfl).2
      change fraction (c :: rest) = _
      rw [fraction, run_bind_of_eq peek?_cons]
      simp only [Option.some.injEq, hc, false_imp_iff]
      rfl
  split
  · next hmilli => exact hpart 3 6 rfl (by decide) (by omega) (by omega)
  split
  · next hmicro => exact hpart 6 3 rfl (by decide) (by omega) (by omega)
  · have hwhole := hpart 9 0 rfl (by decide) (by omega) (by omega)
    rwa [Nat.pow_zero, Nat.div_one] at hwhole

theorem offset_universal : offset ('Z' :: rest) = some (0, rest) := by
  rw [offset, run_bind_of_eq peek?_cons]
  simp only
  rw [run_bind_of_eq (satisfy_cons rfl), run_pure]

/-! ## Timestamps -/

theorem ofLocal?_zero (t : Timestamp) :
    ofLocal? t.date t.hour t.minute t.second t.nanosecond 0 = some t := by
  obtain ⟨date, hour, minute, second, nanosecond, hdate, htime⟩ := t
  have hlow : ¬ (((hour * 60 + minute : Nat) : Int) - 0 < 0) := by omega
  have hhigh : ¬ (1440 ≤ ((hour * 60 + minute : Nat) : Int) - 0) := by omega
  have hhour : ((((hour * 60 + minute : Nat) : Int) - 0) / 60).toNat = hour := by omega
  have hminute : ((((hour * 60 + minute : Nat) : Int) - 0) % 60).toNat = minute := by omega
  rw [ofLocal?, if_pos ⟨hdate, htime.1, htime.2.1⟩]
  simp only [if_neg hlow, if_neg hhigh, hhour, hminute]
  exact dif_pos ⟨hdate, htime⟩

theorem daysIn_le (year : Int) (month : Nat) : daysIn year month ≤ 31 := by
  rw [daysIn]
  split
  · split <;> decide
  · split <;> decide

/-- What is written of a timestamp is read as the timestamp. -/
theorem ofText?_text (t : Timestamp) : ofText? t.text = some t := by
  obtain ⟨hminYear, hmaxYear, hmonth, hmonth', hday, hday'⟩ := t.date_valid
  obtain ⟨hhour, hminute, hsecond, hnanosecond⟩ := t.time_valid
  have hdays := daysIn_le t.date.year t.date.month
  have hzone : ∀ c ∈ ['Z'].head?, c.isDigit = false ∧ c ≠ '.' := by
    rintro c ⟨⟩
    decide
  have hmark : ∀ c : Char, c.isDigit = false → ∀ cs : List Char,
      ∀ d ∈ (c :: cs).head?, d.isDigit = false := by
    rintro c hc cs _ ⟨⟩
    exact hc
  have htext : t.text.toList = (yearText t.date.year).toList ++ '-' ::
      ((padded 2 t.date.month).toList ++ '-' :: ((padded 2 t.date.day).toList ++ 'T' ::
        ((padded 2 t.hour).toList ++ ':' :: ((padded 2 t.minute).toList ++ ':' ::
          ((padded 2 t.second).toList ++ ((fractionText t.nanosecond).toList ++ ['Z'])))))) := by
    simp [text, String.toList_append]
  have hparser : parser t.text.toList = some (some t, []) := by
    rw [htext, parser, run_bind_of_eq (year_text _ (hmark '-' (by decide) _)),
      run_bind_of_eq (separator_cons (by decide)), run_bind_of_eq (number_two (by omega)),
      run_bind_of_eq (separator_cons (by decide)), run_bind_of_eq (number_two (by omega)),
      run_bind_of_eq (satisfy_cons (by decide)), run_bind_of_eq (number_two (by omega)),
      run_bind_of_eq (separator_cons (by decide)), run_bind_of_eq (number_two (by omega)),
      run_bind_of_eq (separator_cons (by decide)), run_bind_of_eq (number_two (by omega)),
      run_bind_of_eq (fraction_text hnanosecond hzone), run_bind_of_eq (blanks_cons (by decide)),
      run_bind_of_eq offset_universal, run_bind_of_eq (blanks_of_head (by simp)), run_pure,
      ofLocal?_zero]
  rw [ofText?, hparser]

end Timestamp
end FileChat
