import FileChat.Json.Numeral
import FileChat.Proofs.Number.Rounding

/-!
# How near a numeral is read

The value of a numeral comes out of three roundings: of the significand, of the power of ten, and of
their product or quotient. Each moves it by less than its last bit, so a numeral of moderate size is
read to fifty bits.
-/
namespace FileChat.Json

open Binary (power)

/-- A number is within a fraction of another one. -/
def Within (ε a q : ℚ) : Prop := (1 - ε) * q ≤ a ∧ a ≤ (1 + ε) * q

section Within

variable {ε a b q r : ℚ}

theorem within_of_abs (h : |a - q| ≤ ε * q) : Within ε a q := by
  obtain ⟨hlow, hhigh⟩ := abs_le.mp h
  constructor <;> linarith

theorem Within.abs (h : Within ε a q) : |a - q| ≤ ε * q := by
  obtain ⟨hlow, hhigh⟩ := h
  rw [abs_le]
  constructor <;> linarith

theorem Within.mono {δ : ℚ} (h : Within ε a q) (hle : ε ≤ δ) (hq : 0 ≤ q) : Within δ a q := by
  have hproduct : ε * q ≤ δ * q := mul_le_mul_of_nonneg_right hle hq
  obtain ⟨hlow, hhigh⟩ := h
  constructor <;> linarith

theorem Within.pos (h : Within ε a q) (hε : ε < 1) (hq : 0 < q) : 0 < a :=
  lt_of_lt_of_le (mul_pos (by linarith) hq) h.1

/-- The fractions of two factors, if they are small, add up to no more than thrice the one. -/
theorem Within.mul (ha : Within ε a q) (hb : Within ε b r) (hε : 0 ≤ ε) (hsmall : ε ≤ 1 / 4)
    (hq : 0 < q) (hr : 0 < r) : Within (3 * ε) (a * b) (q * r) := by
  have hapos := ha.pos (by linarith) hq
  have hbpos := hb.pos (by linarith) hr
  have hqr : 0 < q * r := mul_pos hq hr
  have hsquare : ε * ε ≤ ε := by nlinarith
  constructor
  · calc (1 - 3 * ε) * (q * r) ≤ (1 - ε) * (1 - ε) * (q * r) :=
        mul_le_mul_of_nonneg_right (by nlinarith) hqr.le
      _ = (1 - ε) * q * ((1 - ε) * r) := by ring
      _ ≤ a * b := mul_le_mul ha.1 hb.1 (mul_nonneg (by linarith) hr.le) hapos.le
  · calc a * b ≤ (1 + ε) * q * ((1 + ε) * r) :=
        mul_le_mul ha.2 hb.2 hbpos.le (mul_nonneg (by linarith) hq.le)
      _ = (1 + ε) * (1 + ε) * (q * r) := by ring
      _ ≤ (1 + 3 * ε) * (q * r) := mul_le_mul_of_nonneg_right (by nlinarith) hqr.le

theorem Within.div (ha : Within ε a q) (hb : Within ε b r) (hε : 0 ≤ ε) (hsmall : ε ≤ 1 / 4)
    (hq : 0 < q) (hr : 0 < r) : Within (3 * ε) (a / b) (q / r) := by
  have hapos := ha.pos (by linarith) hq
  have hbpos := hb.pos (by linarith) hr
  have hqr : 0 < q * r := mul_pos hq hr
  have hquotient : (1 : ℚ) * (q / r) = q / r := one_mul _
  constructor
  · rw [mul_div_assoc', div_le_div_iff₀ hr hbpos]
    calc (1 - 3 * ε) * q * b ≤ (1 - 3 * ε) * q * ((1 + ε) * r) :=
        mul_le_mul_of_nonneg_left hb.2 (mul_nonneg (by linarith) hq.le)
      _ = (1 - 3 * ε) * (1 + ε) * (q * r) := by ring
      _ ≤ (1 - ε) * (q * r) := mul_le_mul_of_nonneg_right (by nlinarith) hqr.le
      _ = (1 - ε) * q * r := by ring
      _ ≤ a * r := mul_le_mul_of_nonneg_right ha.1 hr.le
  · rw [mul_div_assoc', div_le_div_iff₀ hbpos hr]
    calc a * r ≤ (1 + ε) * q * r := mul_le_mul_of_nonneg_right ha.2 hr.le
      _ = (1 + ε) * (q * r) := by ring
      _ ≤ (1 + 3 * ε) * (1 - ε) * (q * r) := mul_le_mul_of_nonneg_right (by nlinarith) hqr.le
      _ = (1 + 3 * ε) * q * ((1 - ε) * r) := by ring
      _ ≤ (1 + 3 * ε) * q * b :=
        mul_le_mul_of_nonneg_left hb.1 (mul_nonneg (by linarith) hq.le)

/-- What is within a fraction of something that is itself within a small fraction. -/
theorem Within.trans (hb : Within ε b a) (ha : Within (3 * ε) a q) (hε : 0 ≤ ε)
    (hsmall : ε ≤ 1 / 4) (hq : 0 < q) : Within (5 * ε) b q := by
  constructor
  · calc (1 - 5 * ε) * q ≤ (1 - ε) * (1 - 3 * ε) * q :=
        mul_le_mul_of_nonneg_right (by nlinarith) hq.le
      _ = (1 - ε) * ((1 - 3 * ε) * q) := by ring
      _ ≤ (1 - ε) * a := mul_le_mul_of_nonneg_left ha.1 (by linarith)
      _ ≤ b := hb.1
  · calc b ≤ (1 + ε) * a := hb.2
      _ ≤ (1 + ε) * ((1 + 3 * ε) * q) := mul_le_mul_of_nonneg_left ha.2 (by linarith)
      _ = (1 + ε) * (1 + 3 * ε) * q := by ring
      _ ≤ (1 + 5 * ε) * q := mul_le_mul_of_nonneg_right (by nlinarith) hq.le

end Within

/-! ## Roundings -/

/-- The fraction that a rounding to 64 bits may amount to. -/
def lastBit : ℚ := 1 / 2 ^ 53

theorem lastBit_nonneg : 0 ≤ lastBit := by norm_num [lastBit]

theorem lastBit_small : lastBit ≤ 1 / 4 := by norm_num [lastBit]

theorem round_within (negative : Bool) {num den : Nat} (hnum : 0 < num) (hden : 0 < den)
    (hlow : (2 : ℚ) ^ (-1000 : Int) ≤ num / den) (hhigh : (num / den : ℚ) < 2 ^ (1000 : Int)) :
    ∃ m e, 0 < m ∧ Binary.round .binary64 negative num den = .finite negative m e ∧
      Within lastBit (m * 2 ^ e) (num / den) := by
  have hmin : (2 : ℚ) ^ (BinaryFormat.binary64.minExponent + BinaryFormat.binary64.precision - 1) ≤
      2 ^ (-1000 : Int) := zpow_le_zpow_right₀ (by norm_num) (by decide)
  have hmax : (2 : ℚ) ^ (1000 : Int) ≤
      2 ^ (BinaryFormat.binary64.maxExponent + BinaryFormat.binary64.precision - 1) :=
    zpow_le_zpow_right₀ (by norm_num) (by decide)
  obtain ⟨m, e, hpos, hround, herror⟩ := Binary.round_near .binary64 negative hnum hden
    (hmin.trans hlow) (hhigh.trans_le hmax)
  refine ⟨m, e, hpos, hround, within_of_abs (herror.trans_eq ?_)⟩
  rw [lastBit, BinaryFormat.precision]
  ring

variable {n : Numeral}

/-- A natural number of moderate size is rounded to its last bit. -/
theorem round_nat_within {s : Nat} (hpos : 0 < s) (hfits : (s : ℚ) < 2 ^ (1000 : Int)) :
    ∃ m e, 0 < m ∧ Binary.round .binary64 false s 1 = .finite false m e ∧
      Within lastBit (m * 2 ^ e) s := by
  have hs : (1 : ℚ) ≤ s := by exact_mod_cast hpos
  have hquotient : (s : ℚ) / (1 : Nat) = s := by rw [Nat.cast_one, div_one]
  have hlow : (2 : ℚ) ^ (-1000 : Int) ≤ (s : ℚ) / (1 : Nat) := by
    rw [hquotient]
    exact (zpow_le_one_of_nonpos₀ (by norm_num) (by norm_num)).trans hs
  obtain ⟨m, e, hm, hround, hwithin⟩ := round_within false hpos one_pos hlow
    (hquotient.trans_lt hfits)
  rw [hquotient] at hwithin
  exact ⟨m, e, hm, hround, hwithin⟩

/-- A significand of 64 bits is read to its last bit. -/
theorem ofInt_within {s : Nat} (hpos : 0 < s) (hfits : s < 2 ^ 64) :
    ∃ m e, 0 < m ∧ Binary.ofInt .binary64 s = .finite false m e ∧ Within lastBit (m * 2 ^ e) s := by
  have hfits' : (s : ℚ) < 2 ^ (64 : Int) := by exact_mod_cast hfits
  have hsign : decide ((s : Int) < 0) = false := decide_eq_false (by omega)
  obtain ⟨m, e, hm, hround, hwithin⟩ := round_nat_within hpos
    (hfits'.trans_le (zpow_le_zpow_right₀ (by norm_num) (by norm_num)))
  refine ⟨m, e, hm, ?_, hwithin⟩
  rw [Binary.ofInt, hsign, Int.natAbs_natCast, hround]

theorem ten_pow_lt {k : Nat} (hk : k ≤ 100) : (10 : ℚ) ^ k < 2 ^ (400 : Int) := by
  have hle : (10 : ℚ) ^ k ≤ 10 ^ 100 := pow_le_pow_right₀ (by norm_num) hk
  have hlt : (10 : ℚ) ^ 100 < 16 ^ 100 := by gcongr; norm_num
  have hsixteen : (16 : ℚ) ^ 100 = 2 ^ (400 : Int) := by
    rw [show (16 : ℚ) = 2 ^ 4 by norm_num, ← pow_mul, ← zpow_natCast]
    rfl
  exact hle.trans_lt (hlt.trans_eq hsixteen)

/-- A power of ten of moderate size is rounded to its last bit. -/
theorem power_within {k : Nat} (hk : k ≤ 100) :
    ∃ m e, 0 < m ∧ Numeral.power k = .finite false m e ∧ Within lastBit (m * 2 ^ e) (10 ^ k) := by
  have hcast : ((10 ^ k : Nat) : ℚ) = 10 ^ k := by push_cast; rfl
  have hfits : ((10 ^ k : Nat) : ℚ) < 2 ^ (1000 : Int) := by
    rw [hcast]
    exact (ten_pow_lt hk).trans_le (zpow_le_zpow_right₀ (by norm_num) (by norm_num))
  obtain ⟨m, e, hm, hround, hwithin⟩ := round_nat_within (Nat.pow_pos (by decide)) hfits
  rw [hcast] at hwithin
  exact ⟨m, e, hm, hround, hwithin⟩

/-- The power of ten by which the significand of a numeral is scaled. -/
def Numeral.total (n : Numeral) : Int :=
  if n.exponentNegative then n.scale - n.exponent else n.scale + n.exponent

/-- A finite value is within moderate bounds if it is near a number that is. -/
theorem bounds_of_within {a q : ℚ} {low high : Int} (h : Within lastBit a q) (hq : 0 < q)
    (hlow : (2 : ℚ) ^ low ≤ q) (hhigh : q < 2 ^ high) :
    (2 : ℚ) ^ (low - 1) ≤ a ∧ a < 2 ^ (high + 1) := by
  have hsmall := lastBit_small
  have hhalf : (2 : ℚ) ^ low = 2 ^ (low - 1) * 2 := by
    rw [← zpow_add_one₀ (by norm_num), sub_add_cancel]
  rw [zpow_add_one₀ (by norm_num)]
  constructor
  · have hbelow : 1 / 2 * q ≤ (1 - lastBit) * q := mul_le_mul_of_nonneg_right (by linarith) hq.le
    linarith [h.1]
  · have habove : (1 + lastBit) * q ≤ 2 * q := mul_le_mul_of_nonneg_right (by linarith) hq.le
    linarith [h.2]

theorem mul_within {a b : Nat} {i j low high low' high' : Int} (ha : 0 < a) (hb : 0 < b)
    (hlow : (2 : ℚ) ^ low ≤ a * 2 ^ i) (hhigh : (a * 2 ^ i : ℚ) < 2 ^ high)
    (hlow' : (2 : ℚ) ^ low' ≤ b * 2 ^ j) (hhigh' : (b * 2 ^ j : ℚ) < 2 ^ high')
    (hmin : -1000 ≤ low + low') (hmax : high + high' ≤ 1000) :
    ∃ m e, 0 < m ∧ Binary.mul .binary64 (.finite false a i) (.finite false b j) =
      .finite false m e ∧ Within lastBit (m * 2 ^ e) (a * 2 ^ i * (b * 2 ^ j)) := by
  have hquotient : (((Binary.ratio a i).1 * (Binary.ratio b j).1 : Nat) : ℚ) /
      ((Binary.ratio a i).2 * (Binary.ratio b j).2 : Nat) = a * 2 ^ i * (b * 2 ^ j) := by
    rw [Nat.cast_mul, Nat.cast_mul, mul_div_mul_comm, Binary.ratio_div, Binary.ratio_div]
  have hnum : 0 < (Binary.ratio a i).1 * (Binary.ratio b j).1 :=
    Nat.mul_pos (Nat.mul_pos ha (Binary.power_pos (by decide) _))
      (Nat.mul_pos hb (Binary.power_pos (by decide) _))
  have hden : 0 < (Binary.ratio a i).2 * (Binary.ratio b j).2 :=
    Nat.mul_pos (Binary.ratio_snd_pos a i) (Binary.ratio_snd_pos b j)
  have hbelow : (2 : ℚ) ^ (-1000 : Int) ≤ a * 2 ^ i * (b * 2 ^ j) := by
    calc (2 : ℚ) ^ (-1000 : Int) ≤ 2 ^ (low + low') := zpow_le_zpow_right₀ (by norm_num) hmin
      _ = 2 ^ low * 2 ^ low' := zpow_add₀ (by norm_num) _ _
      _ ≤ a * 2 ^ i * (b * 2 ^ j) := mul_le_mul hlow hlow' (by positivity) (by positivity)
  have habove : (a * 2 ^ i * (b * 2 ^ j) : ℚ) < 2 ^ (1000 : Int) := by
    calc (a * 2 ^ i * (b * 2 ^ j) : ℚ) < 2 ^ high * 2 ^ high' :=
          mul_lt_mul'' hhigh hhigh' (by positivity) (by positivity)
      _ = 2 ^ (high + high') := (zpow_add₀ (by norm_num) _ _).symm
      _ ≤ 2 ^ (1000 : Int) := zpow_le_zpow_right₀ (by norm_num) hmax
  obtain ⟨m, e, hm, hround, hwithin⟩ := round_within false hnum hden
    (hquotient ▸ hbelow) (hquotient ▸ habove)
  rw [hquotient] at hwithin
  exact ⟨m, e, hm, hround, hwithin⟩

theorem div_within {a b : Nat} {i j low high low' high' : Int} (ha : 0 < a) (hb : 0 < b)
    (hlow : (2 : ℚ) ^ low ≤ a * 2 ^ i) (hhigh : (a * 2 ^ i : ℚ) < 2 ^ high)
    (hlow' : (2 : ℚ) ^ low' ≤ b * 2 ^ j) (hhigh' : (b * 2 ^ j : ℚ) < 2 ^ high')
    (hmin : -1000 ≤ low - high') (hmax : high - low' ≤ 1000) :
    ∃ m e, 0 < m ∧ Binary.div .binary64 (.finite false a i) (.finite false b j) =
      .finite false m e ∧ Within lastBit (m * 2 ^ e) (a * 2 ^ i / (b * 2 ^ j)) := by
  have hquotient : (((Binary.ratio a i).1 * (Binary.ratio b j).2 : Nat) : ℚ) /
      ((Binary.ratio a i).2 * (Binary.ratio b j).1 : Nat) = a * 2 ^ i / (b * 2 ^ j) := by
    rw [Nat.cast_mul, Nat.cast_mul, mul_div_mul_comm, Binary.ratio_div, ← Binary.ratio_div b j,
      div_eq_mul_inv (a * 2 ^ i : ℚ), inv_div]
  have hnum : 0 < (Binary.ratio a i).1 * (Binary.ratio b j).2 :=
    Nat.mul_pos (Nat.mul_pos ha (Binary.power_pos (by decide) _)) (Binary.ratio_snd_pos b j)
  have hden : 0 < (Binary.ratio a i).2 * (Binary.ratio b j).1 :=
    Nat.mul_pos (Binary.ratio_snd_pos a i) (Nat.mul_pos hb (Binary.power_pos (by decide) _))
  have hb' : (0 : ℚ) < b * 2 ^ j := lt_of_lt_of_le (by positivity) hlow'
  have hbelow : (2 : ℚ) ^ (-1000 : Int) ≤ a * 2 ^ i / (b * 2 ^ j) := by
    calc (2 : ℚ) ^ (-1000 : Int) ≤ 2 ^ (low - high') := zpow_le_zpow_right₀ (by norm_num) hmin
      _ = 2 ^ low / 2 ^ high' := zpow_sub₀ (by norm_num) _ _
      _ ≤ a * 2 ^ i / (b * 2 ^ j) := div_le_div₀ (by positivity) hlow hb' hhigh'.le
  have habove : (a * 2 ^ i / (b * 2 ^ j) : ℚ) < 2 ^ (1000 : Int) := by
    calc (a * 2 ^ i / (b * 2 ^ j) : ℚ) < 2 ^ high / 2 ^ low' :=
          div_lt_div₀ hhigh hlow' (by positivity) (by positivity)
      _ = 2 ^ (high - low') := (zpow_sub₀ (by norm_num) _ _).symm
      _ ≤ 2 ^ (1000 : Int) := zpow_le_zpow_right₀ (by norm_num) hmax
  obtain ⟨m, e, hm, hround, hwithin⟩ := round_within false hnum hden
    (hquotient ▸ hbelow) (hquotient ▸ habove)
  rw [hquotient] at hwithin
  refine ⟨m, e, hm, ?_, hwithin⟩
  rw [Binary.div, if_neg hb.ne']
  exact hround

/-- A numeral of moderate size is read to fifty bits. -/
theorem scaled_within (hpos : 0 < n.significand) (hfits : n.significand < 2 ^ 64)
    (hmin : -100 ≤ n.total) (hmax : n.total ≤ 100) :
    ∃ m e, n.scaled = some (.finite false m e) ∧
      Within (5 * lastBit) (m * 2 ^ e) (n.significand * 10 ^ n.total) := by
  obtain ⟨k, hk⟩ : ∃ k, n.total.natAbs = k := ⟨_, rfl⟩
  obtain ⟨a, i, ha, hsignificand, hawithin⟩ := ofInt_within hpos hfits
  obtain ⟨b, j, hb, hpower, hbwithin⟩ := power_within (k := k) (by omega)
  have hs : (1 : ℚ) ≤ n.significand := by exact_mod_cast hpos
  have hs' : (n.significand : ℚ) < 2 ^ (64 : Int) := by exact_mod_cast hfits
  have hk' : (1 : ℚ) ≤ 10 ^ k := one_le_pow₀ (by norm_num)
  have hsPos : (0 : ℚ) < n.significand := by linarith
  have hkPos : (0 : ℚ) < 10 ^ k := by linarith
  have hone : (2 : ℚ) ^ (0 : Int) = 1 := zpow_zero 2
  obtain ⟨halow, hahigh⟩ := bounds_of_within hawithin hsPos (hone.trans_le hs) hs'
  obtain ⟨hblow, hbhigh⟩ := bounds_of_within hbwithin hkPos (hone.trans_le hk')
    (ten_pow_lt (by omega))
  have htotal : (if n.exponentNegative then n.scale - (n.exponent : Int)
      else n.scale + n.exponent) = n.total := rfl
  rw [Numeral.scaled]
  simp only [htotal, hsignificand]
  rw [if_neg hpos.ne']
  rcases lt_or_ge n.total 0 with hneg | hnonneg
  · obtain ⟨m, e, hm, hdiv, hwithin⟩ := div_within ha hb halow hahigh hblow hbhigh (by decide)
      (by decide)
    have hscaled : Numeral.scaleDown (.finite false a i) k = .finite false m e := by
      have hnonzero : ¬ (Binary.isZero (.finite false a i) = true) := by
        simpa [Binary.isZero] using ha.ne'
      have hgreatest : k ≤ Numeral.greatestPower := by
        rw [Numeral.greatestPower]
        omega
      rw [Numeral.scaleDown, if_neg hnonzero, if_pos hgreatest, hpower, hdiv]
    have hvalue : (n.significand * 10 ^ n.total : ℚ) = n.significand / 10 ^ k := by
      have hexponent : n.total = -(k : Int) := by omega
      rw [hexponent, zpow_neg, zpow_natCast, div_eq_mul_inv]
    rw [if_pos hneg, hk, hscaled, hvalue]
    exact ⟨m, e, rfl, hwithin.trans (hawithin.div hbwithin lastBit_nonneg lastBit_small hsPos hkPos)
      lastBit_nonneg lastBit_small (by positivity)⟩
  · obtain ⟨m, e, hm, hmul, hwithin⟩ := mul_within ha hb halow hahigh hblow hbhigh (by decide)
      (by decide)
    have hvalue : (n.significand * 10 ^ n.total : ℚ) = n.significand * 10 ^ k := by
      have hexponent : n.total = (k : Int) := by omega
      rw [hexponent, zpow_natCast]
    have hgreatest : n.total ≤ Numeral.greatestPower := by
      rw [Numeral.greatestPower]
      omega
    have htoNat : n.total.toNat = k := by omega
    rw [if_neg (not_lt.mpr hnonneg), if_pos hgreatest, htoNat, hpower, hmul, hvalue]
    exact ⟨m, e, rfl, hwithin.trans (hawithin.mul hbwithin lastBit_nonneg lastBit_small hsPos hkPos)
      lastBit_nonneg lastBit_small (by positivity)⟩

end FileChat.Json
