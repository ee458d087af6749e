import FileChat.Proofs.Backend.RequestBody
import FileChat.Proofs.Number.Order

/-!
# The temperature of a body

A 32-bit temperature from zero to two is written as a number that is read as one from zero to two.
What is read need not be the temperature, but rounds to it, and what lies beyond two does not round
to less. A temperature that is no number is written as null.
-/
namespace FileChat

open Json (Value realText)
open Json.Reader (Reads)

namespace Binary

/-- A 32-bit value of the number two. -/
theorem eq_two {m : Nat} {e : Int} (h : narrow .binary32 (.finite false m e) = .finite false m e)
    (hvalue : (m * 2 ^ e : ℚ) = 2) : Binary.finite false m e = .finite false 1 1 := by
  have hnormal : Normal .binary32 (2 ^ 23) (-22) := by
    constructor <;> decide
  have hspelled : spelled false (2 ^ 23) (-22) = .finite false 1 1 := by decide
  have hnearest := nearest_self .binary32 (2 ^ 23) (-22)
  have htwo : ((2 ^ 23 : Nat) * 2 ^ (-22 : Int) : ℚ) = 2 := by norm_num
  rw [htwo, ← hvalue, ← ratio_div] at hnearest
  rw [← h, ← hspelled]
  exact round_eq_spelled hnormal (ratio_snd_pos m e) hnearest

/-- What rounds to a positive number below two lies between zero and two. -/
theorem between_of_narrow {y : Binary} {m : Nat} {e : Int}
    (h : y.narrow .binary32 = .finite false m e) (hless : (m * 2 ^ e : ℚ) < 2) :
    y.Between 0 2 := by
  cases y with
  | nan | infinite => cases h
  | finite negative a i =>
    have hround : round .binary32 negative (ratio a i).1 (ratio a i).2 = .finite false m e := h
    obtain rfl := negative_of_round (ratio_snd_pos a i) hround
    refine ⟨a * 2 ^ i, rfl, by positivity, ?_⟩
    by_contra hmore
    have htwo : (2 : ℚ) ^ (1 : Int) ≤ (ratio a i).1 / (ratio a i).2 := by
      rw [ratio_div, zpow_one]
      exact (not_le.mp hmore).le
    have hnot := two_zpow_le_of_round (ratio_snd_pos a i) (by decide) htwo hround
    rw [zpow_one] at hnot
    exact absurd hless (not_lt.mpr hnot)

end Binary

namespace Json.Reader

theorem reads_two :
    Reads (realText .binary64 (.finite false 1 1)) (.real .binary64 (.finite false 1 1)) := by
  have htext : realText .binary64 (.finite false 1 1) =
      signText false ++ (['2'] ++ '.' :: ['0']) := by decide +kernel
  have hvalue : (pointed false 20 1).value? = some (.real .binary64 (.finite false 1 1)) := by
    have hscaled : (pointed false 20 1).scaled = some (.finite false 1 1) := by
      have htwenty : Binary.ofInt .binary64 20 = .finite false 5 2 := by decide +kernel
      have htenth : Binary.div .binary64 (.finite false 5 2) (Numeral.power 1) =
          .finite false 1 1 := by decide +kernel
      have hdown : Numeral.scaleDown (.finite false 5 2) 1 = .finite false 1 1 := by
        rw [Numeral.scaleDown, if_neg (by decide), if_pos (by decide), htenth]
      rw [← hdown, ← htwenty]
      rfl
    exact value?_of_scaled rfl hscaled
  have hwhole : ∀ c ∈ ['2'], c.isDigit = true := by simp
  have hfraction : ∀ c ∈ ['0'], c.isDigit = true := by simp
  have hplain := readsPlain_pointed false hwhole (.inr ⟨'2', [], rfl, by decide⟩) hfraction
    (List.cons_ne_nil _ _) (by decide)
  rw [htext]
  exact hplain.reads hvalue

/-- A 32-bit value from zero to two is written as what is read as one. -/
theorem exists_reads_between {t : Binary} (h32 : t.narrow .binary32 = t) (h : t.Between 0 2) :
    ∃ y, Reads (realText .binary64 t) (.real .binary64 y) ∧ y.narrow .binary32 = t ∧
      y.Between 0 2 := by
  obtain ⟨q, hq, hlow, hhigh⟩ := h
  cases t with
  | nan | infinite => cases hq
  | finite negative m e =>
  -- what is read of a number below two cannot be beyond it, but of two itself it could
  rcases Nat.eq_zero_or_pos m with rfl | hm
  · rw [Binary.narrow_zero] at h32
    rw [← h32]
    refine ⟨_, reads_zero negative, Binary.narrow_zero .binary32 negative 0, 0, ?_, le_refl _,
      by norm_num⟩
    simp [Binary.value?]
  have hpos : (0 : ℚ) < m * 2 ^ e := by
    have hm' : (0 : ℚ) < m := by exact_mod_cast hm
    positivity
  cases negative with
  | true =>
    obtain rfl : -(m * 2 ^ e : ℚ) = q := Option.some.inj hq
    linarith
  | false =>
    obtain rfl : (m * 2 ^ e : ℚ) = q := Option.some.inj hq
    rcases hhigh.lt_or_eq with hless | htwo
    · obtain ⟨y, hreads, hy⟩ := reads_realText rfl h32
      exact ⟨y, hreads, hy, Binary.between_of_narrow hy hless⟩
    · rw [Binary.eq_two h32 htwo]
      refine ⟨_, reads_two, by decide +kernel, 2, ?_, by norm_num, le_refl _⟩
      simp [Binary.value?]

end Json.Reader

namespace Provider

/-- What a body says of a temperature: a number from zero to two that is the temperature in 32 bits,
or null if the temperature is no number. -/
def TellsTemperature (t : Binary) (v : Option Value) : Prop :=
  t = .nan ∧ v = some .null ∨
    ∃ y, v = some (.real .binary64 y) ∧ y.Between 0 2 ∧ y.narrow .binary32 = t

theorem get?_temperature (r : ChatRequest) (v : Value) :
    (Value.object (frontMembers r ++ [("temperature", v)])).get? "temperature" = some v := by
  obtain ⟨model, messages, temperature, maxTokens⟩ := r
  cases maxTokens <;> rfl

theorem ofText?_temperature {r : ChatRequest} (h32 : r.temperature.narrow .binary32 = r.temperature)
    (h : r.temperature = .nan ∨ r.temperature.Between 0 2) :
    ∃ v, Value.ofText? (requestJson r).toText = some v ∧
      TellsTemperature r.temperature (v.get? "temperature") := by
  obtain hnan | hbetween := h
  · have hnull : Reads (realText .binary64 r.temperature) .null := by
      rw [hnan]
      exact Json.Reader.reads_of_exact (v := .null) trivial
    exact ⟨_, Json.Reader.ofText?_of_reads (reads_body hnull),
      .inl ⟨hnan, get?_temperature r .null⟩⟩
  · obtain ⟨y, hreads, hy, hbetween⟩ := Json.Reader.exists_reads_between h32 hbetween
    exact ⟨_, Json.Reader.ofText?_of_reads (reads_body hreads),
      .inr ⟨y, get?_temperature r _, hbetween, hy⟩⟩

end Provider
end FileChat
