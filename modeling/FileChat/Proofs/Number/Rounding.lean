import FileChat.Number.Binary
import Mathlib.Algebra.Order.Field.Power
import Mathlib.Algebra.Order.Field.Rat
import Mathlib.Data.Int.Log
import Mathlib.Data.Rat.Floor
import Mathlib.Tactic.FieldSimp
import Mathlib.Tactic.Linarith
import Mathlib.Tactic.NormNum
import Mathlib.Tactic.Positivity
import Mathlib.Tactic.Ring

/-!
# Rounding

The numerators and denominators of `Binary.round` stand for rational numbers. Two facts say what a
rounding does to one. Within half a unit of a value of the format, it is that value
(`round_eq_spelled`); and away from the ends of the range, what comes out is as near as the
precision allows (`round_near`).
-/
namespace FileChat.Binary

variable {f : BinaryFormat} {num den m : Nat} {e unit : Int} {negative : Bool}

/-! ## Powers and quotients -/

theorem power_pos {base : Nat} (h : 0 < base) (e : Int) : 0 < power base e := Nat.pow_pos h

/-- A power and the power of the opposite exponent are the two parts of a quotient. -/
theorem power_div (base : Nat) (e : Int) :
    (power base e : ℚ) / power base (-e) = (base : ℚ) ^ e := by
  rcases le_total 0 e with he | he
  · obtain ⟨n, rfl⟩ := Int.eq_ofNat_of_zero_le he
    simp [power]
  · obtain ⟨n, hn⟩ := Int.eq_ofNat_of_zero_le (Int.neg_nonneg_of_nonpos he)
    obtain rfl : e = -(n : Int) := by omega
    simp [power]

/-- The comparison of a power with a quotient, cleared of denominators. -/
theorem power_le_iff {base : Nat} (hbase : 0 < base) (hden : 0 < den) (e : Int) :
    den * power base e ≤ num * power base (-e) ↔ (base : ℚ) ^ e ≤ num / den := by
  have hpower : (0 : ℚ) < power base (-e) := by exact_mod_cast power_pos hbase (-e)
  have hden' : (0 : ℚ) < den := by exact_mod_cast hden
  rw [← power_div, div_le_div_iff₀ hpower hden', mul_comm (power base e : ℚ)]
  exact_mod_cast Iff.rfl

theorem ratio_div (m : Nat) (e : Int) :
    ((ratio m e).1 : ℚ) / (ratio m e).2 = m * 2 ^ e := by
  have hpower := power_div 2 e
  simp only [ratio, Nat.cast_mul, mul_div_assoc, hpower, Nat.cast_ofNat]

theorem ratio_snd_pos (m : Nat) (e : Int) : 0 < (ratio m e).2 := power_pos (by decide) _

/-- The quotient in units of a power of two. -/
theorem quotient_scaled (num den : Nat) (unit : Int) :
    ((num * power 2 (-unit) : Nat) : ℚ) / ((den * power 2 unit : Nat) : ℚ) =
      num / den / 2 ^ unit := by
  have hpower := power_div 2 (-unit)
  rw [neg_neg] at hpower
  rw [Nat.cast_mul, Nat.cast_mul, mul_div_mul_comm, hpower, Nat.cast_ofNat, zpow_neg,
    div_eq_mul_inv (_ / _)]

theorem log_eq {q : ℚ} {k : Int} (hlow : 2 ^ k ≤ q) (hhigh : q < 2 ^ (k + 1)) :
    Int.log 2 q = k := by
  have hq : 0 < q := lt_of_lt_of_le (by positivity) hlow
  have hle := (Int.zpow_le_iff_le_log (b := 2) (by decide) hq).mp (by exact_mod_cast hlow)
  have hlt := (Int.lt_zpow_iff_log_lt (b := 2) (by decide) hq).mp (by exact_mod_cast hhigh)
  omega

theorem log_spec {q : ℚ} (hq : 0 < q) :
    (2 : ℚ) ^ Int.log 2 q ≤ q ∧ q < 2 ^ (Int.log 2 q + 1) := by
  have hlow := Int.zpow_log_le_self (b := 2) (by decide) hq
  have hhigh := Int.lt_zpow_succ_log_self (b := 2) (by decide) q
  exact ⟨by exact_mod_cast hlow, by exact_mod_cast hhigh⟩

/-- `floorLog2` is the logarithm of the quotient, rounded down. -/
theorem floorLog2_eq (hnum : 0 < num) (hden : 0 < den) :
    floorLog2 num den = Int.log 2 ((num : ℚ) / den) := by
  have hden' : (0 : ℚ) < den := by exact_mod_cast hden
  have hnumLow : (2 : ℚ) ^ (num.log2 : Int) ≤ num := by
    exact_mod_cast Nat.log2_self_le hnum.ne'
  have hnumHigh : (num : ℚ) < 2 ^ ((num.log2 : Int) + 1) := by
    exact_mod_cast Nat.lt_log2_self
  have hdenLow : (2 : ℚ) ^ (den.log2 : Int) ≤ den := by
    exact_mod_cast Nat.log2_self_le hden.ne'
  have hdenHigh : (den : ℚ) < 2 ^ ((den.log2 : Int) + 1) := by
    exact_mod_cast Nat.lt_log2_self
  rw [floorLog2]
  split
  · next h =>
    refine (log_eq ?_ ?_).symm
    · exact_mod_cast (power_le_iff (by decide) hden _).mp h
    · rw [div_lt_iff₀ hden']
      calc (num : ℚ) < 2 ^ ((num.log2 : Int) + 1) := hnumHigh
        _ = 2 ^ ((num.log2 : Int) - den.log2 + 1) * 2 ^ (den.log2 : Int) := by
          rw [← zpow_add₀ (by norm_num)]
          congr 1
          ring
        _ ≤ 2 ^ ((num.log2 : Int) - den.log2 + 1) * den := by gcongr
  · next h =>
    rw [power_le_iff (by decide) hden, not_le] at h
    refine (log_eq ?_ ?_).symm
    · rw [le_div_iff₀ hden']
      calc (2 : ℚ) ^ ((num.log2 : Int) - den.log2 - 1) * den
          ≤ 2 ^ ((num.log2 : Int) - den.log2 - 1) * 2 ^ ((den.log2 : Int) + 1) := by gcongr
        _ = 2 ^ (num.log2 : Int) := by
          rw [← zpow_add₀ (by norm_num)]
          congr 1
          ring
        _ ≤ num := hnumLow
    · rw [sub_add_cancel]
      exact_mod_cast h

/-! ## Rounding to a natural number -/

/-- The natural number within half of a quotient; halfway between two it is the even one. -/
theorem divToEven_eq (hden : 0 < den) (hlow : 2 * m * den ≤ 2 * num + den)
    (hhigh : 2 * num ≤ 2 * m * den + den)
    (htie : 2 * m * den = 2 * num + den ∨ 2 * num = 2 * m * den + den → m % 2 = 0) :
    divToEven num den = m := by
  have hsplit : den * (num / den) + num % den = num := Nat.div_add_mod num den
  have hrest : num % den < den := Nat.mod_lt num hden
  rw [divToEven]
  generalize num / den = q at *
  generalize num % den = r at *
  have hle : q ≤ m := by
    by_contra hlt
    have hmul : den * (m + 1) ≤ den * q := Nat.mul_le_mul_left den (by omega)
    linarith
  have hge : m ≤ q + 1 := by
    by_contra hlt
    have hmul : den * (q + 2) ≤ den * m := Nat.mul_le_mul_left den (by omega)
    linarith
  rcases Nat.lt_or_ge q m with hlt | heq
  · obtain rfl : m = q + 1 := by omega
    have hhalf : den ≤ 2 * r := by linarith
    refine if_pos ?_
    rcases Nat.lt_or_ge den (2 * r) with habove | htied
    · exact .inl habove
    · have heven := htie (.inl (by linarith))
      exact .inr ⟨by omega, by omega⟩
  · obtain rfl : q = m := by omega
    have hhalf : 2 * r ≤ den := by linarith
    refine if_neg ?_
    rintro (habove | ⟨htied, hodd⟩)
    · omega
    · have heven := htie (.inr (by linarith))
      omega

theorem divToEven_eq_of_close (hden : 0 < den) (hlow : (2 * m - 1 : ℚ) ≤ 2 * (num / den))
    (hhigh : 2 * (num / den : ℚ) ≤ 2 * m + 1)
    (hodd : m % 2 = 1 → (2 * m - 1 : ℚ) < 2 * (num / den) ∧ 2 * (num / den : ℚ) < 2 * m + 1) :
    divToEven num den = m := by
  have hden' : (0 : ℚ) < den := by exact_mod_cast hden
  rw [mul_div_assoc', le_div_iff₀ hden'] at hlow
  rw [mul_div_assoc', div_le_iff₀ hden'] at hhigh
  rw [mul_div_assoc', lt_div_iff₀ hden', div_lt_iff₀ hden'] at hodd
  apply divToEven_eq hden
  · have hsum : (2 * m * den : ℚ) ≤ 2 * num + den := by linarith
    exact_mod_cast hsum
  · have hsum : (2 * num : ℚ) ≤ 2 * m * den + den := by linarith
    exact_mod_cast hsum
  · intro htie
    by_contra heven
    obtain ⟨hlow', hhigh'⟩ := hodd (by omega)
    rcases htie with htie | htie
    · have htie' : (2 * m * den : ℚ) = 2 * num + den := by exact_mod_cast htie
      linarith
    · have htie' : (2 * num : ℚ) = 2 * m * den + den := by exact_mod_cast htie
      linarith

/-- What is rounded moves by a half at most. -/
theorem abs_divToEven_sub_le (num : Nat) (hden : 0 < den) :
    |(divToEven num den : ℚ) - num / den| ≤ 1 / 2 := by
  have hden' : (0 : ℚ) < den := by exact_mod_cast hden
  have hsplit : (den * (num / den : Nat) + (num % den : Nat) : ℚ) = num := by
    exact_mod_cast Nat.div_add_mod num den
  have hquotient : (num : ℚ) / den = (num / den : Nat) + (num % den : Nat) / den := by
    rw [← hsplit]
    field_simp
  have hrest : (0 : ℚ) ≤ (num % den : Nat) / den := by positivity
  rw [divToEven, hquotient]
  split
  · next h =>
    have hhalf : den ≤ 2 * (num % den) := by omega
    have hhalf' : (1 / 2 : ℚ) ≤ (num % den : Nat) / den := by
      rw [le_div_iff₀ hden']
      have : (den : ℚ) ≤ 2 * (num % den : Nat) := by exact_mod_cast hhalf
      linarith
    have hless : ((num % den : Nat) : ℚ) / den ≤ 1 := by
      rw [div_le_one hden']
      exact_mod_cast (Nat.mod_lt num hden).le
    push_cast
    rw [abs_le]
    constructor <;> linarith
  · next h =>
    have hhalf : 2 * (num % den) ≤ den := by omega
    have hhalf' : ((num % den : Nat) : ℚ) / den ≤ 1 / 2 := by
      rw [div_le_iff₀ hden']
      have : (2 * (num % den : Nat) : ℚ) ≤ den := by exact_mod_cast hhalf
      linarith
    rw [abs_le]
    constructor <;> linarith

/-! ## Spelling -/

/-- The value of a significand and an exponent, in its one spelling. -/
def spelled (negative : Bool) (m : Nat) (e : Int) : Binary :=
  .finite negative (strip (m.log2 + 1) m e).1 (strip (m.log2 + 1) m e).2

theorem strip_value (fuel m : Nat) (e : Int) :
    ((strip fuel m e).1 : ℚ) * 2 ^ (strip fuel m e).2 = m * 2 ^ e := by
  induction fuel generalizing m e with
  | zero => rfl
  | succ fuel ih =>
    rw [strip]
    split
    · next heven =>
      have hhalf : (m : ℚ) = 2 * (m / 2 : Nat) := by
        exact_mod_cast (Nat.mul_div_cancel' (Nat.dvd_of_mod_eq_zero heven)).symm
      rw [ih, zpow_add_one₀ (by norm_num), hhalf]
      ring
    · rfl

theorem strip_pos (fuel : Nat) (e : Int) (h : 0 < m) : 0 < (strip fuel m e).1 := by
  induction fuel generalizing m e with
  | zero => exact h
  | succ fuel ih =>
    rw [strip]
    split
    · exact ih (e + 1) (by omega)
    · exact h

/-- An even significand and its half spell the same value. -/
theorem spelled_double (h : 0 < m) : spelled negative (2 * m) (e - 1) = spelled negative m e := by
  have hlog : (2 * m).log2 = m.log2 + 1 := Nat.log2_two_mul h.ne'
  have hstrip : strip (m.log2 + 1 + 1) (2 * m) (e - 1) = strip (m.log2 + 1) m e := by
    rw [strip, if_pos (by omega), Nat.mul_div_cancel_left m (by decide), sub_add_cancel]
  rw [spelled, spelled, hlog, hstrip]

/-- A zero is not rounded, whatever its exponent. -/
theorem narrow_zero (f : BinaryFormat) (negative : Bool) (e : Int) :
    narrow f (.finite negative 0 e) = zero negative := by
  simp only [narrow, ratio, Nat.zero_mul]
  exact if_pos rfl

/-! ## The values of a format -/

/-- The significand and the exponent by which a format holds a value other than zero: with as many
bits as there are, unless the exponent is the least. -/
structure Normal (f : BinaryFormat) (m : Nat) (e : Int) : Prop where
  pos : 0 < m
  lt_precision : m < 2 ^ f.precision
  min_le : f.minExponent ≤ e
  le_max : e ≤ f.maxExponent
  full : 2 ^ (f.precision - 1) ≤ m ∨ e = f.minExponent

/-- How far below a value its interval reaches, in quarters of its unit. Below a power of two the
values lie closer. -/
def below (f : BinaryFormat) (m : Nat) (e : Int) : Nat :=
  if m = 2 ^ (f.precision - 1) ∧ f.minExponent < e then 1 else 2

/-- A number whose nearest value in a format is this one, the ends of the interval only if the
significand is even. -/
structure Nearest (f : BinaryFormat) (m : Nat) (e : Int) (q : ℚ) : Prop where
  low : (4 * m - below f m e) * 2 ^ e ≤ 4 * q
  high : 4 * q ≤ (4 * m + 2) * 2 ^ e
  odd : m % 2 = 1 → (4 * m - 2) * 2 ^ e < 4 * q ∧ 4 * q < (4 * m + 2) * 2 ^ e

theorem two_pow_precision (f : BinaryFormat) :
    2 ^ f.precision = 2 * 2 ^ (f.precision - 1) ∧ 4 ≤ 2 ^ f.precision := by
  cases f <;> decide

/-- A quotient that is rounded in a unit, to a significand that fits. -/
theorem round_eq_of_unit {negative : Bool} (hnum : 0 < num)
    (hunit : unitExponent f (floorLog2 num den) = unit)
    (hm : divToEven (num * power 2 (-unit)) (den * power 2 unit) = m) (hpos : 0 < m)
    (hmax : unit < f.maxExponent ∨ (unit = f.maxExponent ∧ m < 2 ^ f.precision)) :
    round f negative num den = spelled negative m unit := by
  have hrange : ¬ (f.maxExponent < unit ∨ (unit = f.maxExponent ∧ Nat.pow 2 f.precision ≤ m)) := by
    have hpow : Nat.pow 2 f.precision = 2 ^ f.precision := rfl
    rw [hpow]
    omega
  rw [round, if_neg hnum.ne']
  simp only [hunit, hm]
  rw [if_neg hpos.ne', if_neg hrange]
  rfl

theorem divToEven_scaled_eq (hden : 0 < den) (unit : Int)
    (hlow : (2 * m - 1 : ℚ) * 2 ^ unit ≤ 2 * (num / den))
    (hhigh : 2 * (num / den : ℚ) ≤ (2 * m + 1) * 2 ^ unit)
    (hodd : m % 2 = 1 → (2 * m - 1 : ℚ) * 2 ^ unit < 2 * (num / den) ∧
      2 * (num / den : ℚ) < (2 * m + 1) * 2 ^ unit) :
    divToEven (num * power 2 (-unit)) (den * power 2 unit) = m := by
  have hpow : (0 : ℚ) < 2 ^ unit := by positivity
  apply divToEven_eq_of_close (Nat.mul_pos hden (power_pos (by decide) unit))
  · rw [quotient_scaled, mul_div_assoc', le_div_iff₀ hpow]
    exact hlow
  · rw [quotient_scaled, mul_div_assoc', div_le_iff₀ hpow]
    exact hhigh
  · intro h
    rw [quotient_scaled, mul_div_assoc', lt_div_iff₀ hpow, div_lt_iff₀ hpow]
    exact hodd h

section Nearest

variable {q : ℚ}

/-- A number lies within half a unit of the value that it is nearest to, on this side as well. -/
theorem Nearest.half_low (hq : Nearest f m e q) : (4 * m - 2 : ℚ) * 2 ^ e ≤ 4 * q := by
  have hpow : (0 : ℚ) < 2 ^ e := by positivity
  have hbelow : (below f m e : ℚ) ≤ 2 := by
    rw [below]
    split <;> norm_num
  exact le_trans (mul_le_mul_of_nonneg_right (by linarith) hpow.le) hq.low

theorem Nearest.near (hq : Nearest f m e q) : |q - m * 2 ^ e| ≤ 2 ^ e / 2 := by
  rw [abs_le]
  constructor <;> linarith [hq.half_low, hq.high]

theorem Nearest.pos (hq : Nearest f m e q) (hm : 0 < m) : 0 < q := by
  have hpow : (0 : ℚ) < 2 ^ e := by positivity
  have hm' : (1 : ℚ) ≤ m := by exact_mod_cast hm
  have hleast : (2 : ℚ) * 2 ^ e ≤ (4 * m - 2) * 2 ^ e :=
    mul_le_mul_of_nonneg_right (by linarith) hpow.le
  linarith [hq.half_low]

/-- With the bits of the value there is room for all that is nearest to it. -/
theorem Nearest.lt_top (hq : Nearest f m e q) (hfits : m < 2 ^ f.precision) :
    q < 2 ^ (e + f.precision) := by
  have hfits' : (m + 1 : ℚ) ≤ 2 ^ f.precision := by exact_mod_cast hfits
  have hbound : (4 * m + 2 : ℚ) * 2 ^ e < 4 * 2 ^ f.precision * 2 ^ e :=
    mul_lt_mul_of_pos_right (by linarith) (by positivity)
  rw [zpow_add₀ (by norm_num), zpow_natCast]
  linarith [hq.high]

theorem two_zpow_bits (f : BinaryFormat) (e : Int) :
    (2 : ℚ) ^ (e + f.precision - 1) = 2 ^ (f.precision - 1) * 2 ^ e := by
  have hprecision : 1 ≤ f.precision := by cases f <;> decide
  have hexponent : e + f.precision - 1 = ((f.precision - 1 : Nat) : Int) + e := by omega
  rw [hexponent, zpow_add₀ (by norm_num), zpow_natCast]

/-- A number with fewer bits than the value that it is nearest to lies below a power of two. -/
theorem Nearest.eq_least (hq : Nearest f m e q) (hfull : 2 ^ (f.precision - 1) ≤ m)
    (hless : q < 2 ^ (e + f.precision - 1)) : m = 2 ^ (f.precision - 1) := by
  refine Nat.le_antisymm ?_ hfull
  by_contra hgreater
  have hgreater' : (2 : ℚ) ^ (f.precision - 1) + 1 ≤ m := by
    exact_mod_cast Nat.lt_of_not_le hgreater
  have hbound : (4 * 2 ^ (f.precision - 1) + 2 : ℚ) * 2 ^ e ≤ (4 * m - 2) * 2 ^ e :=
    mul_le_mul_of_nonneg_right (by linarith) (by positivity)
  have hpow : (0 : ℚ) < 2 ^ e := by positivity
  rw [two_zpow_bits] at hless
  linarith [hq.half_low]

end Nearest

/-- A number nearest to a value is rounded to it in the unit of the value. -/
theorem round_eq_spelled_of_unit (h : Normal f m e) (hnum : 0 < num) (hden : 0 < den)
    (hq : Nearest f m e (num / den)) (hunit : unitExponent f (floorLog2 num den) = e) :
    round f negative num den = spelled negative m e := by
  refine round_eq_of_unit hnum hunit (divToEven_scaled_eq hden e ?_ ?_ ?_) h.pos ?_
  · linarith [hq.half_low]
  · linarith [hq.high]
  · intro hodd
    obtain ⟨hlow, hhigh⟩ := hq.odd hodd
    constructor <;> linarith
  · have hmax := h.le_max
    have hfits := h.lt_precision
    omega

/-- A number nearest to a power of two, but below it, is rounded to it in half its unit. -/
theorem round_eq_spelled_below (h : Normal f m e) (hnum : 0 < num) (hden : 0 < den)
    (hq : Nearest f m e (num / den)) (hmin : f.minExponent < e)
    (hless : (num / den : ℚ) < 2 ^ (e + f.precision - 1)) :
    round f negative num den = spelled negative m e := by
  have hpos := h.pos
  have hpow : (0 : ℚ) < 2 ^ (e - 1) := by positivity
  have hhalf : (2 : ℚ) ^ e = 2 * 2 ^ (e - 1) := by
    rw [mul_comm, ← zpow_add_one₀ (by norm_num), sub_add_cancel]
  have hleast : m = 2 ^ (f.precision - 1) := hq.eq_least (h.full.resolve_right hmin.ne') hless
  have hvalue : (2 : ℚ) ^ (e + f.precision - 1) = m * 2 ^ e := by
    rw [two_zpow_bits, hleast]
    push_cast
    rfl
  have hquarter : (4 * m - 1 : ℚ) * 2 ^ e ≤ 4 * (num / den) := by
    have hlow := hq.low
    rwa [below, if_pos ⟨hleast, hmin⟩, Nat.cast_one] at hlow
  have hlog : Int.log 2 (num / den : ℚ) = e + f.precision - 2 := by
    refine log_eq ?_ ?_
    · have hdouble : (2 : ℚ) ^ (e + f.precision - 1) = 2 * 2 ^ (e + f.precision - 2) := by
        rw [mul_comm, ← zpow_add_one₀ (by norm_num)]
        congr 1
        ring
      have hone : (1 : ℚ) * 2 ^ e ≤ m * 2 ^ e :=
        mul_le_mul_of_nonneg_right (by exact_mod_cast hpos) (by positivity)
      linarith
    · have hnext : e + f.precision - 2 + 1 = e + f.precision - 1 := by ring
      rwa [hnext]
  have hunit : unitExponent f (floorLog2 num den) = e - 1 := by
    rw [floorLog2_eq hnum hden, unitExponent, hlog]
    omega
  have hm : divToEven (num * power 2 (-(e - 1))) (den * power 2 (e - 1)) = 2 * m := by
    apply divToEven_scaled_eq hden
    · push_cast
      rw [hhalf] at hquarter
      linarith
    · push_cast
      rw [hvalue, hhalf] at hless
      linarith
    · intro hodd
      omega
  have hmax := h.le_max
  rw [← spelled_double hpos]
  exact round_eq_of_unit hnum hunit hm (by omega) (.inl (by omega))

/-- A number nearest to a value of the format is rounded to the value. -/
theorem round_eq_spelled (h : Normal f m e) (hden : 0 < den) (hq : Nearest f m e (num / den)) :
    round f negative num den = spelled negative m e := by
  have hpos : (0 : ℚ) < num / den := hq.pos h.pos
  have hnum : 0 < num := by
    rcases Nat.eq_zero_or_pos num with rfl | hnum
    · simp at hpos
    · exact hnum
  have hlog : Int.log 2 (num / den : ℚ) < e + f.precision :=
    (Int.lt_zpow_iff_log_lt (b := 2) (by decide) hpos).mp (by
      exact_mod_cast hq.lt_top h.lt_precision)
  have hmin := h.min_le
  rcases lt_or_ge (num / den : ℚ) (2 ^ (e + f.precision - 1)) with hless | hsame
  · rcases hmin.lt_or_eq with hmin | hmin
    · exact round_eq_spelled_below h hnum hden hq hmin hless
    · -- the least unit is that of all below
      refine round_eq_spelled_of_unit h hnum hden hq ?_
      rw [floorLog2_eq hnum hden, unitExponent]
      omega
  · have hge := (Int.zpow_le_iff_le_log (b := 2) (by decide) hpos).mp (by exact_mod_cast hsame)
    refine round_eq_spelled_of_unit h hnum hden hq ?_
    rw [floorLog2_eq hnum hden, unitExponent]
    omega

/-- Away from the ends of the range, a rounding moves a number by less than its last bit. -/
theorem round_near (f : BinaryFormat) (negative : Bool) (hnum : 0 < num) (hden : 0 < den)
    (hlow : (2 : ℚ) ^ (f.minExponent + f.precision - 1) ≤ num / den)
    (hhigh : (num / den : ℚ) < 2 ^ (f.maxExponent + f.precision - 1)) :
    ∃ m e, 0 < m ∧ round f negative num den = .finite negative m e ∧
      |(m * 2 ^ e - num / den : ℚ)| ≤ num / den / 2 ^ f.precision := by
  have hq : (0 : ℚ) < num / den := by positivity
  obtain ⟨hlogLow, hlogHigh⟩ := log_spec hq
  have hmin := (Int.zpow_le_iff_le_log (b := 2) (by decide) hq).mp (by exact_mod_cast hlow)
  have hmax := (Int.lt_zpow_iff_log_lt (b := 2) (by decide) hq).mp (by exact_mod_cast hhigh)
  have hprecision : 2 ≤ f.precision := by cases f <;> decide
  generalize hk : Int.log 2 (num / den : ℚ) = k at *
  obtain ⟨unit, hunit⟩ : ∃ unit, unit = k - f.precision + 1 := ⟨_, rfl⟩
  have hunit' : unitExponent f (floorLog2 num den) = unit := by
    rw [floorLog2_eq hnum hden, unitExponent, hk]
    omega
  have hpow : (0 : ℚ) < 2 ^ unit := by positivity
  have hscaled : 0 < den * power 2 unit := Nat.mul_pos hden (power_pos (by decide) unit)
  have hround := abs_divToEven_sub_le (num * power 2 (-unit)) hscaled
  rw [quotient_scaled] at hround
  generalize hm : divToEven (num * power 2 (-unit)) (den * power 2 unit) = m at *
  have herror : |(m * 2 ^ unit - num / den : ℚ)| ≤ num / den / 2 ^ f.precision := by
    have hmoved : (m * 2 ^ unit - num / den : ℚ) = (m - num / den / 2 ^ unit) * 2 ^ unit := by
      field_simp
    have hunitLe : (2 : ℚ) ^ unit * 2 ^ f.precision ≤ 2 * (num / den) := by
      have hexponent : (2 : ℚ) ^ unit * 2 ^ f.precision = 2 * 2 ^ k := by
        rw [← zpow_natCast, ← zpow_add₀ (by norm_num), hunit, mul_comm,
          ← zpow_add_one₀ (by norm_num)]
        congr 1
        ring
      rw [hexponent]
      linarith
    rw [hmoved, abs_mul, abs_of_pos hpow, le_div_iff₀ (by positivity)]
    calc |(m - num / den / 2 ^ unit : ℚ)| * 2 ^ unit * 2 ^ f.precision
        ≤ 1 / 2 * 2 ^ unit * 2 ^ f.precision := by gcongr
      _ ≤ num / den := by linarith
  have hpos : 0 < m := by
    rcases Nat.eq_zero_or_pos m with rfl | hpos
    · rw [Nat.cast_zero, zero_mul, zero_sub, abs_neg, abs_of_pos hq] at herror
      have hless : (num / den : ℚ) / 2 ^ f.precision < num / den :=
        div_lt_self hq (one_lt_pow₀ (by norm_num) (by omega))
      linarith
    · exact hpos
  refine ⟨_, _, strip_pos _ _ hpos, round_eq_of_unit hnum hunit' hm hpos (.inl (by omega)), ?_⟩
  rw [strip_value]
  exact herror

/-- The significand in its unit: of as many bits as there are, but for a carry. -/
theorem divToEven_unit_bounds (hnum : 0 < num) (hden : 0 < den)
    (hunit : unitExponent f (floorLog2 num den) = unit) :
    divToEven (num * power 2 (-unit)) (den * power 2 unit) ≤ 2 ^ f.precision ∧
      (f.minExponent < unit →
        2 ^ (f.precision - 1) ≤ divToEven (num * power 2 (-unit)) (den * power 2 unit)) := by
  have hq : (0 : ℚ) < num / den := by positivity
  obtain ⟨hlogLow, hlogHigh⟩ := log_spec hq
  rw [floorLog2_eq hnum hden, unitExponent] at hunit
  have hscaled : 0 < den * power 2 unit := Nat.mul_pos hden (power_pos (by decide) unit)
  have hround := abs_divToEven_sub_le (num * power 2 (-unit)) hscaled
  rw [quotient_scaled, abs_le] at hround
  generalize divToEven (num * power 2 (-unit)) (den * power 2 unit) = m at *
  have hpow : (0 : ℚ) < 2 ^ unit := by positivity
  constructor
  · have htop : (num / den / 2 ^ unit : ℚ) ≤ 2 ^ f.precision := by
      rw [div_le_iff₀ hpow, ← zpow_natCast, ← zpow_add₀ (by norm_num)]
      exact hlogHigh.le.trans (zpow_le_zpow_right₀ (by norm_num) (by omega))
    have hless : (m : ℚ) < 2 ^ f.precision + 1 := by linarith [hround.2]
    exact Nat.lt_succ_iff.mp (by exact_mod_cast hless)
  · intro hmin
    have hbottom : (2 ^ (f.precision - 1) : ℚ) ≤ num / den / 2 ^ unit := by
      have hprecision : 2 ≤ f.precision := by cases f <;> decide
      rw [le_div_iff₀ hpow, ← zpow_natCast, ← zpow_add₀ (by norm_num)]
      exact (zpow_le_zpow_right₀ (by norm_num) (by omega)).trans hlogLow
    have hless : (2 ^ (f.precision - 1) : ℚ) < m + 1 := by linarith [hround.1]
    exact Nat.lt_succ_iff.mp (by exact_mod_cast hless)

/-- A rounding that comes out finite and not zero is a value of the format. -/
theorem round_normal {negative negative' : Bool} (hnum : 0 < num) (hden : 0 < den) (hpos : 0 < m)
    (h : round f negative num den = .finite negative' m e) :
    ∃ m' e', Normal f m' e' ∧ round f negative num den = spelled negative m' e' := by
  obtain ⟨hprecision, hfour⟩ := two_pow_precision f
  obtain ⟨unit, hunit⟩ : ∃ unit, unitExponent f (floorLog2 num den) = unit := ⟨_, rfl⟩
  have hbounds := divToEven_unit_bounds hnum hden hunit
  have hmin : f.minExponent ≤ unit := hunit ▸ le_max_left _ _
  obtain ⟨m', hm'⟩ : ∃ m', divToEven (num * power 2 (-unit)) (den * power 2 unit) = m' := ⟨_, rfl⟩
  rw [round, if_neg hnum.ne'] at h
  simp only [hunit, hm'] at h hbounds
  split at h
  · cases h
    exact absurd hpos (lt_irrefl 0)
  next hpos' =>
  split at h
  · cases h
  next hrange =>
  have hpow : Nat.pow 2 f.precision = 2 ^ f.precision := rfl
  rw [hpow] at hrange
  have hspelled : round f negative num den = spelled negative m' unit :=
    round_eq_of_unit hnum hunit hm' (by omega) (by omega)
  rcases Nat.lt_or_ge m' (2 ^ f.precision) with hfits | hcarry
  · exact ⟨m', unit, ⟨by omega, hfits, hmin, by omega, by omega⟩, hspelled⟩
  · -- the carry into a further bit is taken back by halving
    refine ⟨2 ^ (f.precision - 1), unit + 1, ⟨by omega, by omega, by omega, by omega, by omega⟩, ?_⟩
    have hdouble : m' = 2 * 2 ^ (f.precision - 1) := by omega
    rw [hspelled, hdouble, ← spelled_double (e := unit + 1) (by omega), add_sub_cancel_right]

/-- A value that narrowing to a format leaves as it is has a significand and an exponent there. -/
theorem normal_of_narrow_eq (hpos : 0 < m)
    (h : narrow f (.finite negative m e) = .finite negative m e) :
    ∃ m' e', Normal f m' e' ∧ (m' * 2 ^ e' : ℚ) = m * 2 ^ e ∧
      spelled negative m' e' = .finite negative m e := by
  have hnum : 0 < (ratio m e).1 := Nat.mul_pos hpos (power_pos (by decide) e)
  have hround : round f negative (ratio m e).1 (ratio m e).2 = .finite negative m e := h
  obtain ⟨m', e', hnormal, hspelled⟩ := round_normal hnum (ratio_snd_pos m e) hpos hround
  rw [hround] at hspelled
  refine ⟨m', e', hnormal, ?_, hspelled.symm⟩
  rw [← strip_value (m'.log2 + 1)]
  have hm : m = (strip (m'.log2 + 1) m' e').1 := by injection hspelled
  have he : e = (strip (m'.log2 + 1) m' e').2 := by injection hspelled
  rw [hm, he]

/-- A number within a quarter of a last bit of a value is nearest to the value. -/
theorem nearest_of_near {q : ℚ} (h : Normal f m e)
    (hq : |q - m * 2 ^ e| * 2 ^ (f.precision + 2) ≤ m * 2 ^ e) : Nearest f m e q := by
  have hpow : (0 : ℚ) < 2 ^ e := by positivity
  have hprecision : (0 : ℚ) < 2 ^ f.precision := by positivity
  have hfits : (m : ℚ) < 2 ^ f.precision := by exact_mod_cast h.lt_precision
  have hbelow : (1 : ℚ) ≤ below f m e := by
    rw [below]
    split <;> norm_num
  have hquarter : |q - m * 2 ^ e| * 4 < 2 ^ e := by
    have hbound : (m : ℚ) * 2 ^ e < 2 ^ f.precision * 2 ^ e := mul_lt_mul_of_pos_right hfits hpow
    refine lt_of_mul_lt_mul_left ?_ hprecision.le
    rw [pow_add] at hq
    linarith
  obtain ⟨hlow, hhigh⟩ := abs_lt.mp (by linarith : |q - m * 2 ^ e| < 2 ^ e / 4)
  have hreach : (4 * m - below f m e : ℚ) * 2 ^ e ≤ (4 * m - 1) * 2 ^ e :=
    mul_le_mul_of_nonneg_right (by linarith) hpow.le
  exact ⟨by linarith, by linarith, fun _ => ⟨by linarith, by linarith⟩⟩

theorem spelled_mul_two_pow (h : 0 < m) (j : Nat) :
    spelled negative (m * 2 ^ j) (e - j) = spelled negative m e := by
  induction j generalizing m e with
  | zero => rw [pow_zero, mul_one, Nat.cast_zero, sub_zero]
  | succ j ih =>
    have hexponent : e - ((j + 1 : Nat) : Int) = e - 1 - j := by omega
    have hsignificand : m * 2 ^ (j + 1) = 2 * m * 2 ^ j := by ring
    rw [hexponent, hsignificand, ih (by omega), spelled_double h]

/-- Every value of 32 bits has all the bits of a significand of 64. -/
theorem Normal.widen (h : Normal .binary32 m e) :
    ∃ m' e', Normal .binary64 m' e' ∧ 2 ^ 52 ≤ m' ∧ (m' * 2 ^ e' : ℚ) = m * 2 ^ e ∧
      ∀ negative, spelled negative m' e' = spelled negative m e := by
  obtain ⟨j, hj⟩ : ∃ j, m.log2 + j = 52 := by
    have hlog : m.log2 < 24 := (Nat.log2_lt h.pos.ne').mpr h.lt_precision
    exact ⟨52 - m.log2, by omega⟩
  have hlow : 2 ^ 52 ≤ m * 2 ^ j := by
    rw [← hj, pow_add]
    exact Nat.mul_le_mul_right _ (Nat.log2_self_le h.pos.ne')
  have hhigh : m * 2 ^ j < 2 ^ 53 := by
    have hsucc : 53 = m.log2 + 1 + j := by omega
    rw [hsucc, pow_add]
    exact Nat.mul_lt_mul_of_pos_right Nat.lt_log2_self (Nat.two_pow_pos j)
  have hmin : -149 ≤ e := h.min_le
  have hmax : e ≤ 104 := h.le_max
  refine ⟨m * 2 ^ j, e - j, ⟨by omega, hhigh, ?_, ?_, .inl hlow⟩, hlow, ?_, fun negative =>
    spelled_mul_two_pow h.pos j⟩
  · change -1074 ≤ _
    omega
  · change _ ≤ 971
    omega
  · push_cast
    rw [zpow_sub₀ (by norm_num), zpow_natCast]
    field_simp

end FileChat.Binary
