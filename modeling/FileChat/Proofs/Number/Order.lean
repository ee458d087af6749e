import FileChat.Proofs.Number.Rounding

/-!
# The order of values

Finite values are compared as the numbers that they are. A rounding gives zero, an infinite value or
a value of the format, which is not rounded any further, and it takes no number from one side of a
power of two to the other.
-/
namespace FileChat.Binary

variable {f : BinaryFormat} {negative negative' : Bool} {num den m : Nat} {e : Int}

/-- The number that a finite value is. -/
def value? : Binary → Option ℚ
  | .finite negative m e => some (if negative then -(m * 2 ^ e) else m * 2 ^ e)
  | .nan | .infinite _ => none

/-- Whether a value is a number from one number to another. -/
def Between (low high : ℚ) (x : Binary) : Prop := ∃ q, x.value? = some q ∧ low ≤ q ∧ q ≤ high

theorem signedRatio_div (negative : Bool) (m : Nat) (e : Int) :
    ((signedRatio negative m e).1 : ℚ) / (signedRatio negative m e).2 =
      if negative then -(m * 2 ^ e : ℚ) else m * 2 ^ e := by
  have hratio := ratio_div m e
  cases negative with
  | false =>
    rw [if_neg Bool.false_ne_true, ← hratio]
    show (((ratio m e).1 : Int) : ℚ) / (ratio m e).2 = _
    rw [Int.cast_natCast]
  | true =>
    rw [if_pos rfl, ← hratio]
    show (((-((ratio m e).1 : Int)) : Int) : ℚ) / (ratio m e).2 = _
    rw [Int.cast_neg, Int.cast_natCast, neg_div]

/-- Finite values have the order of their numbers. -/
theorem lt_iff {x y : Binary} {a b : ℚ} (hx : x.value? = some a) (hy : y.value? = some b) :
    x.lt y = true ↔ a < b := by
  cases x with
  | nan | infinite => cases hx
  | finite s m e =>
  cases y with
  | nan | infinite => cases hy
  | finite s' m' e' =>
  have ha : a = ((signedRatio s m e).1 : ℚ) / (signedRatio s m e).2 := by
    rw [signedRatio_div]
    exact (Option.some.inj hx).symm
  have hb : b = ((signedRatio s' m' e').1 : ℚ) / (signedRatio s' m' e').2 := by
    rw [signedRatio_div]
    exact (Option.some.inj hy).symm
  have hden : (0 : ℚ) < (signedRatio s m e).2 := by exact_mod_cast ratio_snd_pos m e
  have hden' : (0 : ℚ) < (signedRatio s' m' e').2 := by exact_mod_cast ratio_snd_pos m' e'
  rw [ha, hb, div_lt_div_iff₀ hden hden']
  show decide _ = true ↔ _
  rw [decide_eq_true_iff]
  exact_mod_cast Iff.rfl

theorem value?_ofNat (n : Nat) : (ofNat n).value? = some (n : ℚ) := by
  rw [ofNat, value?, if_neg Bool.false_ne_true, zpow_zero, mul_one]

/-! ## What a rounding gives -/

theorem nearest_self (f : BinaryFormat) (m : Nat) (e : Int) : Nearest f m e (m * 2 ^ e) := by
  have hpow : (0 : ℚ) < 2 ^ e := by positivity
  have hbelow : (0 : ℚ) ≤ below f m e := Nat.cast_nonneg _
  refine ⟨?_, by linarith, fun _ => ⟨by linarith, by linarith⟩⟩
  rw [sub_mul]
  linarith [mul_nonneg hbelow hpow.le]

/-- A value of a format is not rounded any further. -/
theorem narrow_spelled (h : Normal f m e) :
    narrow f (spelled negative m e) = spelled negative m e := by
  show round f negative (ratio (strip (m.log2 + 1) m e).1 (strip (m.log2 + 1) m e).2).1
    (ratio (strip (m.log2 + 1) m e).1 (strip (m.log2 + 1) m e).2).2 = _
  apply round_eq_spelled h (ratio_snd_pos _ _)
  rw [ratio_div, strip_value]
  exact nearest_self f m e

/-- A significand that is not zero is the one of the outcome, unless it is out of range. -/
theorem round_in_unit {unit : Int} (negative : Bool) (hnum : 0 < num)
    (hunit : unitExponent f (floorLog2 num den) = unit)
    (hm : divToEven (num * power 2 (-unit)) (den * power 2 unit) = m) (hpos : 0 < m) :
    round f negative num den = .infinite negative ∨
      round f negative num den = spelled negative m unit := by
  by_cases hrange : unit < f.maxExponent ∨ (unit = f.maxExponent ∧ m < 2 ^ f.precision)
  · exact .inr (round_eq_of_unit hnum hunit hm hpos hrange)
  · left
    have hbeyond : f.maxExponent < unit ∨
        (unit = f.maxExponent ∧ Nat.pow 2 f.precision ≤ m) := by
      have hpow : Nat.pow 2 f.precision = 2 ^ f.precision := rfl
      rw [hpow]
      omega
    rw [round, if_neg hnum.ne']
    simp only [hunit, hm]
    rw [if_neg hpos.ne', if_pos hbeyond]

theorem round_cases (f : BinaryFormat) (negative : Bool) (num : Nat) (hden : 0 < den) :
    round f negative num den = zero negative ∨ round f negative num den = .infinite negative ∨
      ∃ m e, Normal f m e ∧ round f negative num den = spelled negative m e := by
  rcases Nat.eq_zero_or_pos num with hnum | hnum
  · exact .inl (if_pos hnum)
  obtain ⟨unit, hunit⟩ : ∃ unit, unitExponent f (floorLog2 num den) = unit := ⟨_, rfl⟩
  obtain ⟨m, hm⟩ : ∃ m, divToEven (num * power 2 (-unit)) (den * power 2 unit) = m := ⟨_, rfl⟩
  rcases Nat.eq_zero_or_pos m with hzero | hpos
  · left
    rw [round, if_neg hnum.ne']
    simp only [hunit, hm]
    exact if_pos hzero
  · obtain hinfinite | hspelled := round_in_unit negative hnum hunit hm hpos
    · exact .inr (.inl hinfinite)
    · exact .inr (.inr (round_normal hnum hden (strip_pos _ _ hpos) hspelled))

theorem narrow_round (hden : 0 < den) :
    narrow f (round f negative num den) = round f negative num den := by
  obtain hzero | hinfinite | ⟨m, e, hnormal, hspelled⟩ := round_cases f negative num hden
  · rw [hzero]
    exact narrow_zero f negative 0
  · rw [hinfinite]
    rfl
  · rw [hspelled]
    exact narrow_spelled hnormal

theorem narrow_narrow (f : BinaryFormat) (x : Binary) : (x.narrow f).narrow f = x.narrow f := by
  cases x with
  | nan | infinite => rfl
  | finite negative m e => exact narrow_round (ratio_snd_pos m e)

theorem negative_of_round (hden : 0 < den) (h : round f negative num den = .finite negative' m e) :
    negative' = negative := by
  obtain hzero | hinfinite | ⟨m, e, -, hspelled⟩ := round_cases f negative num hden
  · rw [hzero] at h
    cases h
    rfl
  · rw [hinfinite] at h
    cases h
  · rw [hspelled] at h
    cases h
    rfl

/-- What is not below a power of two is not rounded to below it. -/
theorem two_zpow_le_of_round {k : Int} (hden : 0 < den) (hk : f.minExponent + f.precision ≤ k)
    (hq : (2 : ℚ) ^ k ≤ num / den) (h : round f negative num den = .finite negative' m e) :
    (2 : ℚ) ^ k ≤ m * 2 ^ e := by
  have hpos : (0 : ℚ) < num / den := lt_of_lt_of_le (by positivity) hq
  have hnum : 0 < num := by
    rcases Nat.eq_zero_or_pos num with rfl | hnum
    · simp at hpos
    · exact hnum
  have hlog := (Int.zpow_le_iff_le_log (b := 2) (by decide) hpos).mp (by exact_mod_cast hq)
  obtain ⟨unit, hunit⟩ : ∃ unit, unitExponent f (floorLog2 num den) = unit := ⟨_, rfl⟩
  obtain ⟨n, hn⟩ : ∃ n, divToEven (num * power 2 (-unit)) (den * power 2 unit) = n := ⟨_, rfl⟩
  -- above the least unit a significand has all its bits
  have hfull := (divToEven_unit_bounds hnum hden hunit).2
  have hexponent : f.minExponent < unit ∧ k ≤ unit + f.precision - 1 := by
    rw [floorLog2_eq hnum hden, unitExponent] at hunit
    omega
  rw [hn] at hfull
  have hn' : (2 ^ (f.precision - 1) : ℚ) ≤ n := by exact_mod_cast hfull hexponent.1
  have hpositive : 0 < n := lt_of_lt_of_le (Nat.two_pow_pos _) (hfull hexponent.1)
  have hvalue : (m * 2 ^ e : ℚ) = n * 2 ^ unit := by
    obtain hinfinite | hspelled := round_in_unit negative hnum hunit hn hpositive
    · rw [hinfinite] at h
      cases h
    · rw [hspelled] at h
      cases h
      exact strip_value _ _ _
  calc (2 : ℚ) ^ k ≤ 2 ^ (unit + f.precision - 1) := zpow_le_zpow_right₀ (by norm_num) hexponent.2
    _ = 2 ^ (f.precision - 1) * 2 ^ unit := two_zpow_bits f unit
    _ ≤ n * 2 ^ unit := mul_le_mul_of_nonneg_right hn' (by positivity)
    _ = m * 2 ^ e := hvalue.symm

end FileChat.Binary
