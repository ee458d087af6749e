import FileChat.Number.Shortest
import FileChat.Proofs.Number.Rounding

/-!
# The shortest decimal rounds back

For every value of a format the walk over the decimal grids finds a point: seventeen digits are
always enough, because such a grid is finer than the interval of the value is wide. The point lies
in the interval, so it rounds back to the value.
-/
namespace FileChat.Shortest

open Binary (Nearest Normal below power)

variable {f : BinaryFormat} {m : Nat} {e : Int}

/-! ## The interval of a value -/

theorem exists_strip_eq (fuel m : Nat) (e : Int) :
    ∃ j : Nat, m = (Binary.strip fuel m e).1 * 2 ^ j ∧ (Binary.strip fuel m e).2 = e + j := by
  induction fuel generalizing m e with
  | zero => exact ⟨0, by simp [Binary.strip], by simp [Binary.strip]⟩
  | succ fuel ih =>
    rw [Binary.strip]
    split
    · next heven =>
      obtain ⟨j, hm, he⟩ := ih (m / 2) (e + 1)
      refine ⟨j + 1, ?_, ?_⟩
      · rw [pow_succ, ← mul_assoc, ← hm, Nat.div_mul_cancel (Nat.dvd_of_mod_eq_zero heven)]
      · rw [he]
        push_cast
        ring
    · exact ⟨0, by simp, by simp⟩

theorem unitExponent_of_normal (h : Normal f m e) :
    Binary.unitExponent f (e + m.log2) = e := by
  have hlog : m.log2 < f.precision := (Nat.log2_lt h.pos.ne').mpr h.lt_precision
  have hmin := h.min_le
  rw [Binary.unitExponent]
  rcases h.full with hfull | hleast
  · have hge : f.precision - 1 ≤ m.log2 := (Nat.le_log2 h.pos.ne').mpr hfull
    omega
  · omega

/-- The interval of a value, in the unit in which the format holds it. -/
def valueInterval (f : BinaryFormat) (m : Nat) (e : Int) : Interval :=
  { low := (4 * m - below f m e) * power 2 e
    value := 4 * m * power 2 e
    high := (4 * m + 2) * power 2 e
    den := 4 * power 2 (-e)
    closed := m % 2 = 0 }

theorem interval_strip (h : Normal f m e) :
    interval f (Binary.strip (m.log2 + 1) m e).1 (Binary.strip (m.log2 + 1) m e).2 =
      valueInterval f m e := by
  have hpos := Binary.strip_pos (m.log2 + 1) e h.pos
  obtain ⟨j, hm, he⟩ := exists_strip_eq (m.log2 + 1) m e
  generalize (Binary.strip (m.log2 + 1) m e).1 = m' at *
  generalize (Binary.strip (m.log2 + 1) m e).2 = e' at *
  have hlog : m.log2 = m'.log2 + j := by
    refine (Nat.log2_eq_iff h.pos.ne').mpr ⟨?_, ?_⟩
    · rw [pow_add, hm]
      exact Nat.mul_le_mul_right _ (Nat.log2_self_le hpos.ne')
    · rw [add_right_comm, pow_add, hm]
      exact Nat.mul_lt_mul_of_pos_right Nat.lt_log2_self (Nat.two_pow_pos j)
  have hunit : Binary.unitExponent f (e' + m'.log2) = e := by
    have hsum : e' + (m'.log2 : Int) = e + (m.log2 : Int) := by omega
    rw [hsum]
    exact unitExponent_of_normal h
  have hscaled : m' * power 2 (e' - e) = m := by
    have hpower : power 2 (e' - e) = 2 ^ j := by
      rw [he, add_sub_cancel_left]
      rfl
    rw [hpower]
    exact hm.symm
  rw [interval]
  simp only [hunit, hscaled]
  rfl

/-! ## Points of a grid -/

variable {x : Int} {a b d : Nat}

/-- The common factor by which the comparisons with an interval are cleared of denominators. -/
theorem cast_scaled_binary (a : Nat) (e x : Int) : ((a * power 2 e * power 10 (-x) : Nat) : ℚ) =
    a * 2 ^ e * (power 2 (-e) * power 10 (-x)) := by
  have hpos : (0 : ℚ) < power 2 (-e) := by exact_mod_cast Binary.power_pos (by decide) (-e)
  have hpower := Binary.power_div 2 e
  rw [div_eq_iff hpos.ne'] at hpower
  push_cast
  rw [hpower]
  push_cast
  ring

theorem cast_scaled_decimal (d : Nat) (e x : Int) :
    ((d * power 10 x * (4 * power 2 (-e)) : Nat) : ℚ) =
      4 * (d * 10 ^ x) * (power 2 (-e) * power 10 (-x)) := by
  have hpos : (0 : ℚ) < power 10 (-x) := by exact_mod_cast Binary.power_pos (by decide) (-x)
  have hpower := Binary.power_div 10 x
  rw [div_eq_iff hpos.ne'] at hpower
  push_cast
  rw [hpower]
  push_cast
  ring

theorem factor_pos (e x : Int) : (0 : ℚ) < power 2 (-e) * power 10 (-x) := by
  have h2 : 0 < power 2 (-e) := Binary.power_pos (by decide) _
  have h10 : 0 < power 10 (-x) := Binary.power_pos (by decide) _
  exact_mod_cast Nat.mul_pos h2 h10

theorem scaled_le_iff : a * power 2 e * power 10 (-x) ≤ d * power 10 x * (4 * power 2 (-e)) ↔
    (a * 2 ^ e : ℚ) ≤ 4 * (d * 10 ^ x) := by
  rw [← @Nat.cast_le ℚ, cast_scaled_binary, cast_scaled_decimal,
    mul_le_mul_iff_left₀ (factor_pos e x)]

theorem le_scaled_iff : d * power 10 x * (4 * power 2 (-e)) ≤ a * power 2 e * power 10 (-x) ↔
    4 * (d * 10 ^ x) ≤ (a * 2 ^ e : ℚ) := by
  rw [← @Nat.cast_le ℚ, cast_scaled_binary, cast_scaled_decimal,
    mul_le_mul_iff_left₀ (factor_pos e x)]

theorem scaled_lt_iff : a * power 2 e * power 10 (-x) < d * power 10 x * (4 * power 2 (-e)) ↔
    (a * 2 ^ e : ℚ) < 4 * (d * 10 ^ x) := by
  rw [← not_le, ← not_le, le_scaled_iff]

theorem lt_scaled_iff : d * power 10 x * (4 * power 2 (-e)) < a * power 2 e * power 10 (-x) ↔
    4 * (d * 10 ^ x) < (a * 2 ^ e : ℚ) := by
  rw [← not_le, ← not_le, scaled_le_iff]

theorem below_of_odd (hodd : m % 2 = 1) : below f m e = 2 := by
  have heven : 2 ^ (f.precision - 1) % 2 = 0 := by cases f <;> decide
  refine if_neg ?_
  rintro ⟨rfl, -⟩
  omega

theorem cast_low (h : 0 < m) : ((4 * m - below f m e : Nat) : ℚ) = 4 * m - below f m e := by
  have hbelow : below f m e ≤ 4 * m := by
    rw [below]
    split <;> omega
  push_cast [Nat.cast_sub hbelow]
  rfl

/-- A decimal in the interval of a value is nearest to it. -/
theorem nearest_of_contains (h : 0 < m) (hd : (valueInterval f m e).contains d x = true) :
    Nearest f m e (d * 10 ^ x) := by
  have hpow : (0 : ℚ) < 2 ^ e := by positivity
  rw [Interval.contains] at hd
  split at hd
  · next hclosed =>
    obtain ⟨hlow, hhigh⟩ : _ ∧ _ := by simpa using hd
    have hlow' := scaled_le_iff.mp hlow
    have hhigh' := le_scaled_iff.mp hhigh
    rw [cast_low h] at hlow'
    push_cast at hhigh'
    refine ⟨hlow', hhigh', fun hodd => ?_⟩
    have heven : m % 2 = 0 := of_decide_eq_true hclosed
    omega
  · next hopen =>
    obtain ⟨hlow, hhigh⟩ : _ ∧ _ := by simpa using hd
    have hlow' := scaled_lt_iff.mp hlow
    have hhigh' := lt_scaled_iff.mp hhigh
    rw [cast_low h] at hlow'
    push_cast at hhigh'
    refine ⟨hlow'.le, hhigh'.le, fun hodd => ⟨?_, hhigh'⟩⟩
    rw [below_of_odd hodd] at hlow'
    exact hlow'

/-- A decimal strictly inside the interval is found to be there. -/
theorem contains_of_inside (h : 0 < m) (hlow : (4 * m - below f m e : ℚ) * 2 ^ e < 4 * (d * 10 ^ x))
    (hhigh : 4 * (d * 10 ^ x : ℚ) < (4 * m + 2) * 2 ^ e) :
    (valueInterval f m e).contains d x = true := by
  have hlow' : (4 * m - below f m e) * power 2 e * power 10 (-x) <
      d * power 10 x * (4 * power 2 (-e)) := by
    rw [scaled_lt_iff, cast_low h]
    exact hlow
  have hhigh' : d * power 10 x * (4 * power 2 (-e)) <
      (4 * m + 2) * power 2 e * power 10 (-x) := by
    rw [lt_scaled_iff]
    push_cast
    exact hhigh
  rw [Interval.contains]
  split
  · simp only [Bool.and_eq_true, decide_eq_true_eq]
    exact ⟨hlow'.le, hhigh'.le⟩
  · simp only [Bool.and_eq_true, decide_eq_true_eq]
    exact ⟨hlow', hhigh'⟩

/-- The point of a grid just below a value. -/
def floorPoint (m : Nat) (e x : Int) : Nat :=
  4 * m * power 2 e * power 10 (-x) / (4 * power 2 (-e) * power 10 x)

theorem floorPoint_spec (m : Nat) (e x : Int) :
    (floorPoint m e x : ℚ) * 10 ^ x ≤ m * 2 ^ e ∧
      (m * 2 ^ e : ℚ) < (floorPoint m e x + 1) * 10 ^ x := by
  have hden : 0 < 4 * power 2 (-e) * power 10 x :=
    Nat.mul_pos (Nat.mul_pos (by decide) (Binary.power_pos (by decide) _))
      (Binary.power_pos (by decide) _)
  have hle := Nat.div_mul_le_self (4 * m * power 2 e * power 10 (-x))
    (4 * power 2 (-e) * power 10 x)
  have hlt := Nat.lt_div_mul_add (a := 4 * m * power 2 e * power 10 (-x)) hden
  have hpoint (d : Nat) : d * (4 * power 2 (-e) * power 10 x) =
      d * power 10 x * (4 * power 2 (-e)) := by ring
  have hnext : floorPoint m e x * power 10 x * (4 * power 2 (-e)) + 4 * power 2 (-e) * power 10 x =
      (floorPoint m e x + 1) * power 10 x * (4 * power 2 (-e)) := by ring
  rw [← floorPoint, hpoint] at hle hlt
  rw [hnext, scaled_lt_iff] at hlt
  rw [le_scaled_iff] at hle
  push_cast at hle hlt
  constructor <;> linarith

/-- The first two points of a grid that a walk tries are those around the value. -/
theorem quotient_eq_floorPoint (f : BinaryFormat) (m : Nat) (e x : Int) :
    (valueInterval f m e).value * power 10 (-x) / ((valueInterval f m e).den * power 10 x) =
      floorPoint m e x := rfl

/-- What the walk takes on a grid lies in the interval, next to the value. -/
theorem contains_of_nearest? (h : (valueInterval f m e).nearest? x = some d) :
    (valueInterval f m e).contains d x = true ∧ d ≤ floorPoint m e x + 1 := by
  simp only [Interval.nearest?, quotient_eq_floorPoint] at h
  split at h
  · next hbelow habove =>
    obtain rfl := Option.some.inj h
    split
    · exact ⟨hbelow, Nat.le_succ _⟩
    · exact ⟨habove, le_rfl⟩
  · next hbelow _ =>
    obtain rfl := Option.some.inj h
    exact ⟨hbelow, Nat.le_succ _⟩
  · next _ habove =>
    obtain rfl := Option.some.inj h
    exact ⟨habove, le_rfl⟩
  · cases h

/-- A grid that is finer than the interval is wide has a point in it. -/
theorem nearest?_isSome (h : 0 < m) (hfine : 4 * (10 : ℚ) ^ x < (2 + below f m e) * 2 ^ e) :
    ((valueInterval f m e).nearest? x).isSome := by
  obtain ⟨hfloor, hnext⟩ := floorPoint_spec m e x
  have hpow : (0 : ℚ) < 2 ^ e := by positivity
  have hgrid : (0 : ℚ) < 10 ^ x := by positivity
  have hbelow : (1 : ℚ) ≤ below f m e := by
    rw [below]
    split <;> norm_num
  have hinside : (valueInterval f m e).contains (floorPoint m e x) x = true ∨
      (valueInterval f m e).contains (floorPoint m e x + 1) x = true := by
    rcases lt_or_ge ((4 * m - below f m e : ℚ) * 2 ^ e) (4 * (floorPoint m e x * 10 ^ x))
      with hlow | hlow
    · refine .inl (contains_of_inside h hlow ?_)
      linarith
    · refine .inr (contains_of_inside h ?_ ?_)
      · have hless : (0 : ℚ) < below f m e * 2 ^ e := by positivity
        push_cast
        linarith
      · push_cast
        linarith
  simp only [Interval.nearest?, quotient_eq_floorPoint]
  rcases hinside with hinside | hinside
  · rw [hinside]
    cases (valueInterval f m e).contains (floorPoint m e x + 1) x <;> rfl
  · rw [hinside]
    cases (valueInterval f m e).contains (floorPoint m e x) x <;> rfl

/-! ## Magnitudes -/

/-- The estimate of a decimal exponent from a binary one. -/
def guess (k : Int) : Int := k * 30103 / 100000

/-- The estimate is right, or one too small. -/
def GuessHolds (k : Int) : Prop :=
  power 2 (-k) * power 10 (guess k) ≤ power 2 k * power 10 (-guess k) ∧
    power 10 (-(guess k + 2)) * power 2 (k + 1) ≤ power 10 (guess k + 2) * power 2 (-(k + 1))

instance (k : Int) : Decidable (GuessHolds k) := by unfold GuessHolds; infer_instance

theorem guessHolds_nonneg : ∀ k < 1024, GuessHolds (k : Nat) := by decide +kernel

theorem guessHolds_neg : ∀ k < 1075, GuessHolds (-(k : Nat)) := by decide +kernel

theorem guess_spec {k : Int} (hlow : -1075 < k) (hhigh : k < 1024) :
    (10 : ℚ) ^ guess k ≤ 2 ^ k ∧ (2 : ℚ) ^ (k + 1) ≤ 10 ^ (guess k + 2) := by
  have hholds : GuessHolds k := by
    rcases le_total 0 k with hk | hk
    · obtain ⟨n, rfl⟩ := Int.eq_ofNat_of_zero_le hk
      exact guessHolds_nonneg n (by omega)
    · obtain ⟨n, hn⟩ := Int.eq_ofNat_of_zero_le (Int.neg_nonneg_of_nonpos hk)
      obtain rfl : k = -(n : Int) := by omega
      exact guessHolds_neg n (by omega)
  have h2 : 0 < power 2 (-k) := Binary.power_pos (by decide) _
  have h10 : 0 < power 10 (-(guess k + 2)) := Binary.power_pos (by decide) _
  have hle := (Binary.power_le_iff (by decide) h2 _).mp hholds.1
  have hge := (Binary.power_le_iff (by decide) h10 _).mp hholds.2
  rw [Binary.power_div] at hle hge
  exact ⟨by exact_mod_cast hle, by exact_mod_cast hge⟩

theorem value_pos (h : 0 < m) (e : Int) : 0 < 4 * m * power 2 e :=
  Nat.mul_pos (Nat.mul_pos (by decide) h) (Binary.power_pos (by decide) e)

theorem den_pos (e : Int) : 0 < 4 * power 2 (-e) :=
  Nat.mul_pos (by decide) (Binary.power_pos (by decide) _)

theorem value_div (m : Nat) (e : Int) :
    ((4 * m * power 2 e : Nat) : ℚ) / (4 * power 2 (-e) : Nat) = m * 2 ^ e := by
  have hpower := Binary.power_div 2 e
  push_cast
  rw [mul_assoc, mul_div_mul_left _ _ (by norm_num), mul_div_assoc, hpower]
  push_cast
  rfl

theorem value_bounds (h : Normal f m e) :
    (2 : ℚ) ^ f.minExponent ≤ m * 2 ^ e ∧ (m * 2 ^ e : ℚ) < 2 ^ (f.precision + f.maxExponent) := by
  have hone : (1 : ℚ) ≤ m := by exact_mod_cast h.pos
  have hfits : (m : ℚ) < 2 ^ f.precision := by exact_mod_cast h.lt_precision
  have hpow : (0 : ℚ) < 2 ^ e := by positivity
  constructor
  · calc (2 : ℚ) ^ f.minExponent ≤ 2 ^ e := zpow_le_zpow_right₀ (by norm_num) h.min_le
      _ ≤ m * 2 ^ e := le_mul_of_one_le_left hpow.le hone
  · calc (m * 2 ^ e : ℚ) < 2 ^ f.precision * 2 ^ e := by gcongr
      _ ≤ 2 ^ f.precision * 2 ^ f.maxExponent := by
        have hmax := h.le_max
        gcongr
        norm_num
      _ = 2 ^ (f.precision + f.maxExponent) := by rw [zpow_add₀ (by norm_num), zpow_natCast]

/-- The logarithm of a value lies where the guess of a decimal exponent is good. -/
theorem log_bounds (h : Normal f m e) :
    -1075 < Int.log 2 (m * 2 ^ e : ℚ) ∧ Int.log 2 (m * 2 ^ e : ℚ) < 1024 := by
  obtain ⟨hleast, hmost⟩ := value_bounds h
  have hq : (0 : ℚ) < m * 2 ^ e := lt_of_lt_of_le (by positivity) hleast
  have hlow := (Int.zpow_le_iff_le_log (b := 2) (by decide) hq).mp (by exact_mod_cast hleast)
  have hhigh := (Int.lt_zpow_iff_log_lt (b := 2) (by decide) hq).mp (by exact_mod_cast hmost)
  have hmin : -1074 ≤ f.minExponent := by cases f <;> decide
  have hmax : f.precision + f.maxExponent ≤ 1024 := by cases f <;> decide
  omega

/-- The exponent of the first digit is that of the value. -/
theorem magnitude_spec (h : Normal f m e) :
    (10 : ℚ) ^ (valueInterval f m e).magnitude ≤ m * 2 ^ e ∧
      (m * 2 ^ e : ℚ) < 10 ^ ((valueInterval f m e).magnitude + 1) := by
  have hq : (0 : ℚ) < m * 2 ^ e := by
    have hm : (0 : ℚ) < m := by exact_mod_cast h.pos
    positivity
  obtain ⟨hlogLow, hlogHigh⟩ := Binary.log_spec hq
  have hfloor : Binary.floorLog2 (4 * m * power 2 e) (4 * power 2 (-e)) =
      Int.log 2 (m * 2 ^ e : ℚ) := by
    rw [Binary.floorLog2_eq (value_pos h.pos e) (den_pos e), value_div]
  obtain ⟨hlow, hhigh⟩ := log_bounds h
  obtain ⟨hle, hge⟩ := guess_spec hlow hhigh
  have hmagnitude : (valueInterval f m e).magnitude =
      if 4 * power 2 (-e) * power 10 (guess (Int.log 2 (m * 2 ^ e : ℚ)) + 1) ≤
        4 * m * power 2 e * power 10 (-(guess (Int.log 2 (m * 2 ^ e : ℚ)) + 1))
      then guess (Int.log 2 (m * 2 ^ e : ℚ)) + 1 else guess (Int.log 2 (m * 2 ^ e : ℚ)) := by
    rw [← hfloor]
    rfl
  rw [hmagnitude]
  split
  · next hnext =>
    rw [Binary.power_le_iff (by decide) (den_pos e), value_div] at hnext
    refine ⟨by exact_mod_cast hnext, hlogHigh.trans_le (hge.trans_eq ?_)⟩
    congr 1
    ring
  · next hnext =>
    rw [Binary.power_le_iff (by decide) (den_pos e), value_div, not_le] at hnext
    exact ⟨hle.trans hlogLow, by exact_mod_cast hnext⟩

/-! ## The decimal -/

theorem stripZeros_value (fuel d : Nat) (x : Int) :
    ((stripZeros fuel d x).1 : ℚ) * 10 ^ (stripZeros fuel d x).2 = d * 10 ^ x := by
  induction fuel generalizing d x with
  | zero => rfl
  | succ fuel ih =>
    rw [stripZeros]
    split
    · next hzero =>
      have htenth : (d : ℚ) = 10 * (d / 10 : Nat) := by
        exact_mod_cast (Nat.mul_div_cancel' (Nat.dvd_of_mod_eq_zero hzero.1)).symm
      rw [ih, zpow_add_one₀ (by norm_num), htenth]
      ring
    · rfl

theorem stripZeros_le (fuel d : Nat) (x : Int) : (stripZeros fuel d x).1 ≤ d := by
  induction fuel generalizing d x with
  | zero => exact le_rfl
  | succ fuel ih =>
    rw [stripZeros]
    split
    · exact (ih _ _).trans (Nat.div_le_self d 10)
    · exact le_rfl

/-- Seventeen digits are enough for the values of every format. -/
theorem fine_grid (h : Normal f m e) :
    4 * (10 : ℚ) ^ ((valueInterval f m e).magnitude - 16) < (2 + below f m e) * 2 ^ e := by
  obtain ⟨hmagnitude, -⟩ := magnitude_spec h
  have hpow : (0 : ℚ) < 2 ^ e := by positivity
  have hshift : (10 : ℚ) ^ (valueInterval f m e).magnitude =
      10 ^ ((valueInterval f m e).magnitude - 16) * 10 ^ 16 := by
    rw [← zpow_natCast, ← zpow_add₀ (by norm_num)]
    congr 1
    omega
  rw [hshift] at hmagnitude
  rw [below]
  split
  · next hleast =>
    have hsmall : (m : ℚ) ≤ 2 ^ 52 := by
      rw [hleast.1]
      cases f <;> norm_num [BinaryFormat.precision]
    have hbound : (m * 2 ^ e : ℚ) ≤ 2 ^ 52 * 2 ^ e := by gcongr
    push_cast
    linarith
  · have hsmall : (m : ℚ) ≤ 2 ^ 53 := by
      have hprecision : 2 ^ f.precision ≤ 2 ^ 53 := by cases f <;> decide
      exact_mod_cast (h.lt_precision.trans_le hprecision).le
    have hbound : (m * 2 ^ e : ℚ) ≤ 2 ^ 53 * 2 ^ e := by gcongr
    push_cast
    linarith

/-- On a grid of so many digits, the point below a value has no more. -/
theorem floorPoint_lt {first : Int} {n : Nat} (h : (m * 2 ^ e : ℚ) < 10 ^ (first + 1)) :
    floorPoint m e (first - n) < 10 ^ (n + 1) := by
  have hgrid : (0 : ℚ) < 10 ^ (first - n) := by positivity
  have hpower : (10 : ℚ) ^ (first + 1) = 10 ^ (n + 1) * 10 ^ (first - n) := by
    rw [← zpow_natCast, ← zpow_add₀ (by norm_num)]
    congr 1
    push_cast
    ring
  have hless := (floorPoint_spec m e (first - n)).1.trans_lt h
  rw [hpower, mul_lt_mul_iff_left₀ hgrid] at hless
  exact_mod_cast hless

theorem pos_of_nearest (hm : 0 < m) (h : Nearest f m e (d * 10 ^ x)) : 0 < d := by
  rcases Nat.eq_zero_or_pos d with rfl | hd
  · have hpos := h.pos hm
    rw [Nat.cast_zero, zero_mul] at hpos
    exact absurd hpos (lt_irrefl 0)
  · exact hd

/-- A walk that would find something at a step finds something there at the latest. -/
theorem exists_findSome?_range {α : Type} {g : Nat → Option α} {n limit : Nat} (hn : n < limit)
    (h : (g n).isSome) : ∃ k ≤ n, ∃ a, (List.range limit).findSome? g = some a ∧ g k = some a := by
  obtain ⟨more, rfl⟩ := Nat.exists_eq_add_of_lt hn
  obtain ⟨a, ha⟩ : ∃ a, (List.range (n + 1)).findSome? g = some a :=
    Option.isSome_iff_exists.mp
      (List.findSome?_isSome_iff.mpr ⟨n, List.mem_range.mpr (Nat.lt_succ_self n), h⟩)
  obtain ⟨k, hk, hg⟩ := List.exists_of_findSome?_eq_some ha
  refine ⟨k, Nat.lt_succ_iff.mp (List.mem_range.mp hk), a, ?_, hg⟩
  rw [add_right_comm, List.range_add, List.findSome?_append, ha, Option.some_or]

/-- The walk ends on a grid of at most seventeen digits, at a point that rounds to the value. -/
theorem decimal_spec (h : Normal f m e) :
    ∃ d x, decimal f (Binary.strip (m.log2 + 1) m e).1 (Binary.strip (m.log2 + 1) m e).2 = (d, x) ∧
      0 < d ∧ d ≤ 10 ^ 17 ∧ Nearest f m e (d * 10 ^ x) := by
  obtain ⟨first, hfirst⟩ : ∃ first, (valueInterval f m e).magnitude = first := ⟨_, rfl⟩
  have hfine := fine_grid h
  obtain ⟨-, hmagnitude⟩ := magnitude_spec h
  rw [hfirst] at hfine hmagnitude
  have hprecision : 16 < f.precision := by cases f <;> decide
  obtain ⟨n, hn, ⟨d, x⟩, hwalk, hgrid⟩ := exists_findSome?_range
    (g := fun n : Nat => ((valueInterval f m e).nearest? (first - n)).map fun d => (d, first - n))
    hprecision (by simpa using nearest?_isSome h.pos hfine)
  obtain ⟨d', hd', hpair⟩ := Option.map_eq_some_iff.mp hgrid
  obtain ⟨rfl, rfl⟩ : d' = d ∧ first - n = x := Prod.ext_iff.mp hpair
  obtain ⟨hcontains, hdigits⟩ := contains_of_nearest? hd'
  have hnearest := nearest_of_contains h.pos hcontains
  have hdecimal : decimal f (Binary.strip (m.log2 + 1) m e).1 (Binary.strip (m.log2 + 1) m e).2 =
      stripZeros f.precision d' (first - n) := by
    rw [decimal, if_neg (Binary.strip_pos _ _ h.pos).ne']
    simp only [interval_strip h, hfirst, hwalk]
  rw [← stripZeros_value f.precision] at hnearest
  refine ⟨_, _, hdecimal, pos_of_nearest h.pos hnearest, ?_, hnearest⟩
  have hpower : 10 ^ (n + 1) ≤ 10 ^ 17 := Nat.pow_le_pow_right (by decide) (by omega)
  have hfloor := floorPoint_lt (n := n) hmagnitude
  have hstripped := stripZeros_le f.precision d' (first - n)
  omega

/-- The exponent of a decimal near a value, by the range of the value. -/
theorem exponent_bounds {low high : Int} (hm : 0 < m) (hpos : 0 < d) (hdigits : d ≤ 10 ^ 17)
    (hnearest : Nearest f m e (d * 10 ^ x)) (hlow : 2 * (10 : ℚ) ^ low ≤ m * 2 ^ e)
    (hhigh : 2 * (m * 2 ^ e : ℚ) ≤ 10 ^ high) : low - 17 ≤ x ∧ x < high := by
  have hpow : (0 : ℚ) < 10 ^ x := by positivity
  have hunit : (2 : ℚ) ^ e ≤ m * 2 ^ e := by
    have hone : (1 : ℚ) ≤ m := by exact_mod_cast hm
    exact le_mul_of_one_le_left (by positivity) hone
  obtain ⟨hbelow, habove⟩ := abs_le.mp hnearest.near
  constructor
  · have hmost : (d * 10 ^ x : ℚ) ≤ 10 ^ (17 + x) := by
      have hdigits' : (d : ℚ) ≤ 10 ^ 17 := by exact_mod_cast hdigits
      rw [zpow_add₀ (by norm_num)]
      exact mul_le_mul_of_nonneg_right hdigits' hpow.le
    have hle : (10 : ℚ) ^ low ≤ 10 ^ (17 + x) := by linarith
    have := (zpow_le_zpow_iff_right₀ (by norm_num)).mp hle
    omega
  · have hone : (1 : ℚ) ≤ d := by exact_mod_cast hpos
    have hleast : (10 : ℚ) ^ x ≤ d * 10 ^ x := le_mul_of_one_le_left hpow.le hone
    have hpositive : (0 : ℚ) < m * 2 ^ e := lt_of_lt_of_le (by positivity) hunit
    have hlt : (10 : ℚ) ^ x < 10 ^ high := by linarith
    exact (zpow_lt_zpow_iff_right₀ (by norm_num)).mp hlt

theorem ofDecimal_of_nearest {negative : Bool} (h : Normal f m e) (hpos : 0 < d)
    (hdigits : d ≤ 10 ^ 17) (hnearest : Nearest f m e (d * 10 ^ x)) :
    Binary.ofDecimal f negative d x = Binary.spelled negative m e := by
  obtain ⟨hlow, hhigh⟩ := value_bounds h
  have hleast : 2 * (10 : ℚ) ^ (-325 : Int) ≤ m * 2 ^ e := by
    have hguess : (10 : ℚ) ^ (-324 : Int) ≤ 2 ^ (-1074 : Int) :=
      (guess_spec (k := -1074) (by decide) (by decide)).1
    have hmin : (2 : ℚ) ^ (-1074 : Int) ≤ 2 ^ f.minExponent :=
      zpow_le_zpow_right₀ (by norm_num) (by cases f <;> decide)
    have htenth : (10 : ℚ) ^ (-324 : Int) = 10 ^ (-325 : Int) * 10 := by
      rw [← zpow_add_one₀ (by norm_num)]
      rfl
    have hpow : (0 : ℚ) < 10 ^ (-325 : Int) := by positivity
    linarith
  have hmost : 2 * (m * 2 ^ e : ℚ) ≤ 10 ^ (310 : Int) := by
    have hguess : (2 : ℚ) ^ (1024 : Int) ≤ 10 ^ (309 : Int) :=
      (guess_spec (k := 1023) (by decide) (by decide)).2
    have hmax : (2 : ℚ) ^ (f.precision + f.maxExponent) ≤ 2 ^ (1024 : Int) :=
      zpow_le_zpow_right₀ (by norm_num) (by cases f <;> decide)
    have htenfold : (10 : ℚ) ^ (310 : Int) = 10 ^ (309 : Int) * 10 := by
      rw [← zpow_add_one₀ (by norm_num)]
      rfl
    have hbound : (m * 2 ^ e : ℚ) ≤ 10 ^ (309 : Int) := (hhigh.le.trans hmax).trans hguess
    have hpow : (0 : ℚ) ≤ 10 ^ (309 : Int) := by positivity
    rw [htenfold, mul_comm]
    exact mul_le_mul hbound (by norm_num) (by norm_num) hpow
  obtain ⟨hmin, hmax⟩ := exponent_bounds h.pos hpos hdigits hnearest hleast hmost
  have hden : 0 < power 10 (-x) := Binary.power_pos (by decide) _
  have hquotient : ((d * power 10 x : Nat) : ℚ) / (power 10 (-x) : Nat) = d * 10 ^ x := by
    rw [Nat.cast_mul, mul_div_assoc, Binary.power_div]
    push_cast
    rfl
  rw [Binary.ofDecimal, if_neg hpos.ne', if_neg (by rw [Binary.decimalLimit]; omega),
    if_neg (by rw [Binary.decimalLimit]; omega)]
  exact Binary.round_eq_spelled h hden (hquotient ▸ hnearest)

/-- The decimal that is written of a value rounds back to the value. -/
theorem ofDecimal_decimal {negative : Bool}
    (h : Binary.narrow f (.finite negative m e) = .finite negative m e) :
    Binary.ofDecimal f negative (decimal f m e).1 (decimal f m e).2 = .finite negative m e := by
  rcases Nat.eq_zero_or_pos m with rfl | hm
  · have hzero : Binary.narrow f (.finite negative 0 e) = Binary.zero negative := by
      simp [Binary.narrow, Binary.ratio, Binary.round]
    rw [← h, hzero]
    rfl
  · obtain ⟨m', e', hnormal, -, hspelled⟩ := Binary.normal_of_narrow_eq hm h
    obtain ⟨d, x, hdecimal, hpos, hdigits, hnearest⟩ := decimal_spec hnormal
    have hsignificand : (Binary.strip (m'.log2 + 1) m' e').1 = m := by injection hspelled
    have hexponent : (Binary.strip (m'.log2 + 1) m' e').2 = e := by injection hspelled
    rw [hsignificand, hexponent] at hdecimal
    rw [hdecimal, ofDecimal_of_nearest hnormal hpos hdigits hnearest, hspelled]

end FileChat.Shortest
