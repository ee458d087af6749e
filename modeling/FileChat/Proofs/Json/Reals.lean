import FileChat.Json.Writer
import FileChat.Proofs.Json.Accuracy
import FileChat.Proofs.Json.Compact
import FileChat.Proofs.Number.Shortest

/-!
# Numbers with a point

A floating-point value is written with a point, and an exponent if it is very large or very small.
The reader gathers all digits of such a text, so the numeral stands for the very decimal that was
written; its value is rounded thrice, which leaves a 32-bit value as it is.
-/
namespace FileChat.Json

namespace Reader

variable {frames : List Frame} {slot : ValueSlot} {c : Char} {rest : List Char} {negative : Bool}
  {n places : Nat} {ds : List Char}

/-! ## Fractions and exponents -/

/-- A numeral of which all digits are gathered, so many of them after the point. -/
def pointed (negative : Bool) (n places : Nat) : Numeral :=
  ⟨negative, n, -(places : Int), false, false, false, 0⟩

theorem pointed_digit (hfits : 10 * n + (c.toNat - '0'.toNat) < 0x10000000000000000) :
    (pointed negative n places).fractionDigit (digit c) =
      pointed negative (10 * n + (c.toNat - '0'.toNat)) (places + 1) := by
  have hsum : n * 10 + digit c = 10 * n + (c.toNat - '0'.toNat) := by rw [digit]; omega
  have hroom : ¬ ((pointed negative n places).full = true ∨ Numeral.limit ≤ n * 10 + digit c) := by
    rw [hsum]
    rintro (hfull | hbeyond)
    · cases hfull
    · have hlimit : Numeral.limit = 0x10000000000000000 := rfl
      omega
  have hscale : -(places : Int) - 1 = -((places + 1 : Nat) : Int) := by omega
  rw [Numeral.fractionDigit]
  refine (if_neg hroom).trans ?_
  simp only [pointed, hsum, hscale]

theorem run_fraction (hds : ∀ c ∈ ds, c.isDigit = true)
    (hfits : Nat.ofDigitChars 10 ds n < 0x10000000000000000) :
    run false ⟨frames, .number (pointed negative n places) .fraction⟩ (ds ++ rest) =
      run false ⟨frames, .number (pointed negative (Nat.ofDigitChars 10 ds n)
        (places + ds.length)) .fraction⟩ rest := by
  induction ds generalizing n places with
  | nil => rfl
  | cons c ds ih =>
    rw [Nat.ofDigitChars_cons] at hfits ⊢
    have hle := le_ofDigitChars ds (10 * n + (c.toNat - '0'.toNat))
    have hdigit := hds c List.mem_cons_self
    have hstep : run false ⟨frames, .number (pointed negative n places) .fraction⟩
        (c :: ds ++ rest) =
        run false ⟨frames, .number ((pointed negative n places).fractionDigit (digit c)) .fraction⟩
          (ds ++ rest) := by
      simp [run, step, stepNumeral, hdigit]
    rw [hstep, pointed_digit (by omega), ih (fun d hd => hds d (List.mem_cons_of_mem _ hd)) hfits,
      List.length_cons, add_assoc, add_comm 1]

/-- The point and the digits after it. -/
theorem run_point {phase : NumeralPhase} (hphase : phase = .zero ∨ phase = .whole)
    (hds : ∀ c ∈ ds, c.isDigit = true) (hne : ds ≠ [])
    (hfits : Nat.ofDigitChars 10 ds n < 0x10000000000000000) :
    run false ⟨frames, .number (whole negative n) phase⟩ ('.' :: (ds ++ rest)) =
      run false ⟨frames, .number (pointed negative (Nat.ofDigitChars 10 ds n) ds.length) .fraction⟩
        rest := by
  obtain ⟨c, cs, rfl⟩ := List.exists_cons_of_ne_nil hne
  have hpoint : run false ⟨frames, .number (whole negative n) phase⟩ ('.' :: (c :: cs ++ rest)) =
      run false ⟨frames, .number (pointed negative n 0) .point⟩ (c :: cs ++ rest) := by
    rcases hphase with rfl | rfl <;> rfl
  have hfirst : run false ⟨frames, .number (pointed negative n 0) .point⟩ (c :: cs ++ rest) =
      run false ⟨frames, .number (pointed negative n 0) .fraction⟩ (c :: cs ++ rest) := by
    simp [run, step, stepNumeral, hds c List.mem_cons_self]
  rw [hpoint, hfirst, run_fraction hds hfits, zero_add]

/-- The numeral with an exponent. -/
def raised (m : Numeral) (negative : Bool) (exponent : Nat) : Numeral :=
  { m with whole := false, exponentNegative := negative, exponent := exponent }

theorem run_exponentDigits {m : Numeral} {k : Nat} (hds : ∀ c ∈ ds, c.isDigit = true) :
    run false ⟨frames, .number (raised m negative k) .exponent⟩ (ds ++ rest) =
      run false ⟨frames, .number (raised m negative (Nat.ofDigitChars 10 ds k)) .exponent⟩
        rest := by
  induction ds generalizing k with
  | nil => rfl
  | cons c ds ih =>
    have hdigit := hds c List.mem_cons_self
    have hstep : run false ⟨frames, .number (raised m negative k) .exponent⟩ (c :: ds ++ rest) =
        run false ⟨frames, .number (raised m negative (10 * k + (c.toNat - '0'.toNat))) .exponent⟩
          (ds ++ rest) := by
      have hsum : k * 10 + digit c = 10 * k + (c.toNat - '0'.toNat) := by rw [digit]; omega
      simp [run, step, stepNumeral, exponentDigit, Numeral.exponentDigit, raised, hdigit, hsum]
    rw [hstep, ih fun d hd => hds d (List.mem_cons_of_mem _ hd), Nat.ofDigitChars_cons]

/-- The mark, the sign and the digits of an exponent. -/
theorem run_exponent {m : Numeral} {phase : NumeralPhase} (hexponent : m.exponent = 0)
    (hsign : m.exponentNegative = false)
    (hphase : phase = .zero ∨ phase = .whole ∨ phase = .fraction)
    (hds : ∀ c ∈ ds, c.isDigit = true) (hne : ds ≠ []) :
    run false ⟨frames, .number m phase⟩
        ('e' :: (if negative then '-' else '+') :: (ds ++ rest)) =
      run false ⟨frames, .number (raised m negative (Nat.ofDigitChars 10 ds 0)) .exponent⟩
        rest := by
  obtain ⟨c, cs, rfl⟩ := List.exists_cons_of_ne_nil hne
  have hmark : ∀ text, run false ⟨frames, .number m phase⟩ ('e' :: text) =
      run false ⟨frames, .number m.mark .mark⟩ text := by
    intro text
    rcases hphase with rfl | rfl | rfl <;> rfl
  have hafter : ∀ text, run false ⟨frames, .number m.mark .mark⟩
      ((if negative then '-' else '+') :: text) =
      run false ⟨frames, .number (raised m negative 0) .exponentSign⟩ text := by
    intro text
    obtain ⟨_, _, _, _, _, _, _⟩ := m
    cases hexponent
    cases hsign
    cases negative <;> rfl
  have hfirst : run false ⟨frames, .number (raised m negative 0) .exponentSign⟩ (c :: cs ++ rest) =
      run false ⟨frames, .number (raised m negative 0) .exponent⟩ (c :: cs ++ rest) := by
    simp [run, step, stepNumeral, hds c List.mem_cons_self]
  rw [hmark, hafter, hfirst, run_exponentDigits hds]

/-! ## Texts -/

/-- A text that is read as a value, wherever it stands. -/
def Reads (t : List Char) (v : Value) : Prop :=
  ∀ (frames : List Frame) (slot : ValueSlot) (rest : List Char), Apart rest →
    run false ⟨frames, .value slot⟩ (t ++ rest) = run false (deliver frames v) rest

/-- A text that is read as a numeral without an exponent, which may follow. -/
def ReadsPlain (t : List Char) (n : Numeral) : Prop :=
  ∀ (frames : List Frame) (slot : ValueSlot) (rest : List Char),
    ∃ phase, (phase = .zero ∨ phase = .whole ∨ phase = .fraction) ∧
      run false ⟨frames, .value slot⟩ (t ++ rest) = run false ⟨frames, .number n phase⟩ rest

theorem ReadsPlain.reads {t : List Char} {m : Numeral} {v : Value} (h : ReadsPlain t m)
    (hv : m.value? = some v) : Reads t v := by
  intro frames slot rest hrest
  obtain ⟨phase, hphase, hrun⟩ := h frames slot rest
  refine hrun.trans (run_number hv ?_ hrest)
  rcases hphase with rfl | rfl | rfl <;> rfl

theorem ReadsPlain.reads_raised {t : List Char} {m : Numeral} {v : Value} (h : ReadsPlain t m)
    (hexponent : m.exponent = 0) (hsign : m.exponentNegative = false)
    (hds : ∀ c ∈ ds, c.isDigit = true) (hne : ds ≠ [])
    (hv : (raised m negative (Nat.ofDigitChars 10 ds 0)).value? = some v) :
    Reads (t ++ 'e' :: (if negative then '-' else '+') :: ds) v := by
  intro frames slot rest hrest
  obtain ⟨phase, hphase, hrun⟩ :=
    h frames slot ('e' :: (if negative then '-' else '+') :: (ds ++ rest))
  rw [run_exponent hexponent hsign hphase hds hne] at hrun
  have hend : mayEnd .exponent = true := rfl
  rw [← run_number hv hend hrest, ← hrun]
  simp only [List.append_assoc, List.cons_append]

theorem readsPlain_whole (negative : Bool) (hds : ∀ c ∈ ds, c.isDigit = true) (hhead : Leads ds)
    (hfits : Nat.ofDigitChars 10 ds 0 < 0x10000000000000000) :
    ReadsPlain (signText negative ++ ds) (whole negative (Nat.ofDigitChars 10 ds 0)) := by
  intro frames slot rest
  obtain ⟨phase, hphase, hrun⟩ := run_wholePart frames slot negative rest hds hhead hfits
  refine ⟨phase, hphase.imp id .inl, ?_⟩
  rw [← hrun, List.append_assoc]

theorem readsPlain_pointed (negative : Bool) {ws fs : List Char} (hws : ∀ c ∈ ws, c.isDigit = true)
    (hhead : Leads ws) (hfs : ∀ c ∈ fs, c.isDigit = true) (hne : fs ≠ [])
    (hfits : Nat.ofDigitChars 10 (ws ++ fs) 0 < 0x10000000000000000) :
    ReadsPlain (signText negative ++ (ws ++ '.' :: fs))
      (pointed negative (Nat.ofDigitChars 10 (ws ++ fs) 0) fs.length) := by
  intro frames slot rest
  rw [Nat.ofDigitChars_append] at hfits ⊢
  have hle := le_ofDigitChars fs (Nat.ofDigitChars 10 ws 0)
  obtain ⟨phase, hphase, hrun⟩ := run_wholePart frames slot negative ('.' :: (fs ++ rest)) hws
    hhead (by omega)
  refine ⟨.fraction, .inr (.inr rfl), ?_⟩
  rw [← run_point hphase hfs hne hfits, ← hrun]
  simp only [List.append_assoc, List.cons_append]

/-! ## Decimals -/

/-- A numeral that stands for a decimal: all its digits are there. -/
structure Stands (m : Numeral) (negative : Bool) (d : Nat) (x : Int) : Prop where
  negative_eq : m.negative = negative
  not_whole : m.whole = false
  fits : m.significand < 0x10000000000000000
  value : (m.significand : ℚ) * 10 ^ m.total = d * 10 ^ x

/-- A text that is read as a decimal, whichever value its numeral has. -/
def ReadsDecimal (t : List Char) (negative : Bool) (d : Nat) (x : Int) : Prop :=
  ∃ m, Stands m negative d x ∧ ∀ v, m.value? = some v → Reads t v

variable {d : Nat} {x : Int}

theorem leads_toDigits (hd : 0 < d) (more : List Char) : Leads (Nat.toDigits 10 d ++ more) := by
  obtain ⟨c, cs, hcs, hzero⟩ := toDigits_eq_cons hd
  exact .inr ⟨c, cs ++ more, by rw [hcs]; rfl, hzero⟩

theorem isDigit_of_mem_zeros {k : Nat} : ∀ c ∈ List.replicate k '0', c.isDigit = true := by
  intro c hc
  rw [List.eq_of_mem_replicate hc]
  rfl

/-- Digits with zeros after them, and `.0`. -/
theorem readsDecimal_integral (negative : Bool) {k : Nat}
    (hhead : Leads (Nat.toDigits 10 d ++ List.replicate k '0')) (hfits : d * 10 ^ k < 10 ^ 17) :
    ReadsDecimal (signText negative ++ Decimal.positionalText true (Nat.toDigits 10 d) k) negative
      d k := by
  have hws : ∀ c ∈ Nat.toDigits 10 d ++ List.replicate k '0', c.isDigit = true :=
    List.forall_mem_append.mpr ⟨isDigit_of_mem_toDigits, isDigit_of_mem_zeros⟩
  have hvalue : Nat.ofDigitChars 10 (Nat.toDigits 10 d ++ List.replicate k '0' ++ ['0']) 0 =
      d * 10 ^ k * 10 := by
    rw [Nat.ofDigitChars_append, Nat.ofDigitChars_append, Nat.ofDigitChars_ten_toDigits,
      Nat.ofDigitChars_replicate_zero]
    change 10 * (10 ^ k * d) + 0 = _
    ring
  have htext : signText negative ++ Decimal.positionalText true (Nat.toDigits 10 d) k =
      signText negative ++ (Nat.toDigits 10 d ++ List.replicate k '0' ++ '.' :: ['0']) := by
    rw [Decimal.positionalText, if_pos (Int.natCast_nonneg k)]
    rfl
  have hfs : ∀ c ∈ ['0'], c.isDigit = true := by simp
  have hplain := readsPlain_pointed negative hws hhead hfs (by simp) (by rw [hvalue]; omega)
  rw [hvalue] at hplain
  refine ⟨_, ⟨rfl, rfl, ?_, ?_⟩, fun v hv => htext ▸ hplain.reads hv⟩
  · change d * 10 ^ k * 10 < _
    omega
  · change ((d * 10 ^ k * 10 : Nat) : ℚ) * 10 ^ (-((1 : Nat) : Int) + (0 : Nat)) =
      d * 10 ^ (k : Int)
    norm_num
    ring

/-- Digits with as many zeros in front as it takes to have one before the point. -/
def reaching (places : Nat) (ds : List Char) : List Char :=
  List.replicate (places + 1 - ds.length) '0' ++ ds

theorem length_reaching (places : Nat) (ds : List Char) : places < (reaching places ds).length := by
  rw [reaching, List.length_append, List.length_replicate]
  omega

theorem isDigit_of_mem_reaching : ∀ c ∈ reaching places (Nat.toDigits 10 d), c.isDigit = true :=
  List.forall_mem_append.mpr ⟨isDigit_of_mem_zeros, isDigit_of_mem_toDigits⟩

theorem ofDigitChars_reaching (places d : Nat) :
    Nat.ofDigitChars 10 (reaching places (Nat.toDigits 10 d)) 0 = d := by
  rw [reaching, Nat.ofDigitChars_append, Nat.ofDigitChars_replicate_zero, Nat.mul_zero,
    Nat.ofDigitChars_ten_toDigits]

/-- A zero leads only if it stands alone before the point. -/
theorem leads_take_reaching (hd : 0 < d) (places : Nat) :
    Leads ((reaching places (Nat.toDigits 10 d)).take
      ((reaching places (Nat.toDigits 10 d)).length - places)) := by
  have hreaching : (reaching places (Nat.toDigits 10 d)).length =
      places + 1 - (Nat.toDigits 10 d).length + (Nat.toDigits 10 d).length := by
    rw [reaching, List.length_append, List.length_replicate]
  rcases Nat.lt_or_ge places (Nat.toDigits 10 d).length with hreach | hshort
  · obtain ⟨c, cs, hcs, hzero⟩ := toDigits_eq_cons hd
    have hnone : places + 1 - (Nat.toDigits 10 d).length = 0 := by omega
    have hcons : reaching places (Nat.toDigits 10 d) = c :: cs := by
      rw [reaching, hnone, hcs]
      rfl
    obtain ⟨k, hk⟩ : ∃ k, (reaching places (Nat.toDigits 10 d)).length - places = k + 1 :=
      ⟨_, (Nat.succ_pred (by omega)).symm⟩
    exact .inr ⟨c, cs.take k, by rw [hk, hcons, List.take_succ_cons], hzero⟩
  · have hone : (reaching places (Nat.toDigits 10 d)).length - places = 1 := by omega
    obtain ⟨k, hk⟩ : ∃ k, places + 1 - (Nat.toDigits 10 d).length = k + 1 :=
      ⟨_, (Nat.succ_pred (by omega)).symm⟩
    refine .inl ?_
    rw [hone, reaching, hk, List.replicate_succ]
    rfl

/-- Digits of which some stand after the point, with zeros in front if they do not reach it. -/
theorem readsDecimal_fractional (hd : 0 < d) (hplaces : 0 < places) (hfits : d ≤ 10 ^ 17) :
    ReadsDecimal (signText negative ++ Decimal.positionalText true (Nat.toDigits 10 d) (-places))
      negative d (-places) := by
  have hdigits : ∀ c ∈ reaching places (Nat.toDigits 10 d), c.isDigit = true :=
    isDigit_of_mem_reaching
  have hvalue := ofDigitChars_reaching places d
  have hlength := length_reaching places (Nat.toDigits 10 d)
  have hhead := leads_take_reaching hd places
  have htext : Decimal.positionalText true (Nat.toDigits 10 d) (-places) =
      (reaching places (Nat.toDigits 10 d)).take
        ((reaching places (Nat.toDigits 10 d)).length - places) ++
      '.' :: (reaching places (Nat.toDigits 10 d)).drop
        ((reaching places (Nat.toDigits 10 d)).length - places) := by
    have hnegative : ¬ (0 ≤ -(places : Int)) := by omega
    have hcount : (- -(places : Int)).toNat = places := by omega
    rw [Decimal.positionalText, if_neg hnegative, hcount]
    rfl
  generalize reaching places (Nat.toDigits 10 d) = padded at *
  have hlast : (padded.drop (padded.length - places)).length = places := by
    rw [List.length_drop]
    omega
  have hne : padded.drop (padded.length - places) ≠ [] := by
    intro hempty
    rw [hempty, List.length_nil] at hlast
    omega
  have hplain := readsPlain_pointed negative
    (fun c hc => hdigits c (List.mem_of_mem_take hc)) hhead
    (fun c hc => hdigits c (List.mem_of_mem_drop hc)) hne
    (by rw [List.take_append_drop, hvalue]; omega)
  rw [List.take_append_drop, hvalue, hlast] at hplain
  refine ⟨_, ⟨rfl, rfl, ?_, ?_⟩, fun v hv => htext ▸ hplain.reads hv⟩
  · change d < _
    omega
  · change (d : ℚ) * 10 ^ (-(places : Int) + (0 : Nat)) = _
    rw [Nat.cast_zero, add_zero]

/-- A numeral with the digits of a number, so many of them after the point, and no exponent. -/
structure Plain (m : Numeral) (negative : Bool) (d places : Nat) : Prop where
  negative_eq : m.negative = negative
  significand_eq : m.significand = d
  scale_eq : m.scale = -(places : Int)
  exponent_eq : m.exponent = 0
  sign_eq : m.exponentNegative = false

/-- A numeral with an exponent stands for the decimal with the sum of both exponents. -/
theorem stands_raised {m : Numeral} {first : Int} (hplain : Plain m negative d places)
    (hfits : d ≤ 10 ^ 17) (hfirst : first = x + places) :
    Stands (raised m (decide (first < 0)) first.natAbs) negative d x := by
  have hscale := hplain.scale_eq
  have htotal : (raised m (decide (first < 0)) first.natAbs).total = x := by
    change (if decide (first < 0) = true then m.scale - (first.natAbs : Int)
      else m.scale + (first.natAbs : Int)) = x
    split
    · next h =>
      have hless := of_decide_eq_true h
      omega
    · next h =>
      have hless := of_decide_eq_false (Bool.eq_false_of_not_eq_true h)
      omega
  have hsignificand : (raised m (decide (first < 0)) first.natAbs).significand = d :=
    hplain.significand_eq
  refine ⟨hplain.negative_eq, rfl, ?_, ?_⟩
  · omega
  · rw [hsignificand, htotal]

/-- Before its exponent a number has one digit, or a point after the first of them. -/
theorem exists_readsPlain_scientific (negative : Bool) (hd : 0 < d) (hfits : d ≤ 10 ^ 17)
    (first : Int) :
    ∃ t m places, Decimal.scientificText true (Nat.toDigits 10 d) first =
        t ++ 'e' :: (if decide (first < 0) then '-' else '+') :: Nat.toDigits 10 first.natAbs ∧
      ReadsPlain (signText negative ++ t) m ∧ Plain m negative d places ∧
      places + 1 = (Nat.toDigits 10 d).length := by
  have htoString : (toString first.natAbs).toList = Nat.toDigits 10 first.natAbs := Nat.toList_repr
  have hsign : (if first < 0 then ['-'] else if true then ['+'] else []) =
      [if decide (first < 0) then '-' else '+'] := by
    by_cases h : first < 0 <;> simp [h]
  have hvalue : Nat.ofDigitChars 10 (Nat.toDigits 10 d) 0 = d := Nat.ofDigitChars_ten_toDigits
  have hall : ∀ c ∈ Nat.toDigits 10 d, c.isDigit = true := isDigit_of_mem_toDigits
  obtain ⟨c, cs, hcs, hzero⟩ := toDigits_eq_cons hd
  rw [hcs] at hvalue hall ⊢
  cases cs with
  | nil =>
    have hplain := readsPlain_whole negative hall (.inr ⟨c, [], rfl, hzero⟩)
      (by rw [hvalue]; omega)
    refine ⟨[c], _, 0, ?_, hplain, ⟨rfl, hvalue, rfl, rfl, rfl⟩, rfl⟩
    rw [Decimal.scientificText, htoString, hsign]
    simp
  | cons c' cs =>
    have hwhole : ∀ d ∈ [c], d.isDigit = true :=
      fun d hd => hall d (List.mem_cons.mpr (.inl (List.mem_singleton.mp hd)))
    have hplaces : ∀ d ∈ c' :: cs, d.isDigit = true :=
      fun d hd => hall d (List.mem_cons_of_mem _ hd)
    have hjoined : Nat.ofDigitChars 10 ([c] ++ c' :: cs) 0 = d := hvalue
    have hplain := readsPlain_pointed negative hwhole (.inr ⟨c, [], rfl, hzero⟩) hplaces
      (List.cons_ne_nil _ _) (by rw [hjoined]; omega)
    refine ⟨[c] ++ '.' :: c' :: cs, _, (c' :: cs).length, ?_, hplain,
      ⟨rfl, hjoined, rfl, rfl, rfl⟩, rfl⟩
    rw [Decimal.scientificText, htoString, hsign]
    · simp
    · simp

/-- The exponent of the first digit, after all digits. -/
theorem readsDecimal_scientific {first : Int} (hd : 0 < d) (hfits : d ≤ 10 ^ 17)
    (hfirst : first = x + (Nat.toDigits 10 d).length - 1) :
    ReadsDecimal (signText negative ++ Decimal.scientificText true (Nat.toDigits 10 d) first)
      negative d x := by
  have hexponent : Nat.ofDigitChars 10 (Nat.toDigits 10 first.natAbs) 0 = first.natAbs :=
    Nat.ofDigitChars_ten_toDigits
  obtain ⟨t, m, places, htext, hreads, hplain, hplaces⟩ :=
    exists_readsPlain_scientific negative hd hfits first
  refine ⟨_, stands_raised hplain hfits (by omega : first = x + places), fun v hv => ?_⟩
  rw [htext, ← List.append_assoc]
  refine hreads.reads_raised hplain.exponent_eq hplain.sign_eq isDigit_of_mem_toDigits
    Nat.toDigits_ne_nil ?_
  rw [hexponent]
  exact hv

/-- What the writer writes of a decimal in the style of 64-bit values. -/
theorem readsDecimal_double (negative : Bool) (hd : 0 < d) (hfits : d ≤ 10 ^ 17) {first : Int}
    (hfirst : first = x + (Nat.toDigits 10 d).length - 1) :
    ReadsDecimal (signText negative ++ (if d = 0 ∨ (-5 ≤ first ∧ first ≤ 15) then
      Decimal.positionalText true (Nat.toDigits 10 d) x
      else Decimal.scientificText true (Nat.toDigits 10 d) first)) negative d x := by
  split
  · next h =>
    rcases le_or_gt 0 x with hx | hx
    · obtain ⟨k, rfl⟩ := Int.eq_ofNat_of_zero_le hx
      refine readsDecimal_integral negative (leads_toDigits hd _) ?_
      have hlength : (Nat.toDigits 10 d).length + k ≤ 16 := by
        have hhigh := (h.resolve_left hd.ne').2
        omega
      have hless : d < 10 ^ (Nat.toDigits 10 d).length :=
        (Nat.length_toDigits_le_iff (by decide) Nat.length_toDigits_pos).mp le_rfl
      calc d * 10 ^ k < 10 ^ (Nat.toDigits 10 d).length * 10 ^ k :=
            Nat.mul_lt_mul_of_pos_right hless (Nat.pow_pos (by decide))
        _ = 10 ^ ((Nat.toDigits 10 d).length + k) := (pow_add _ _ _).symm
        _ ≤ 10 ^ 17 := Nat.pow_le_pow_right (by decide) (by omega)
    · obtain ⟨k, hk⟩ := Int.eq_ofNat_of_zero_le (by omega : 0 ≤ -x)
      obtain rfl : x = -(k : Int) := by omega
      exact readsDecimal_fractional hd (by omega) hfits
  · exact readsDecimal_scientific hd hfits hfirst

/-! ## Values of 32 bits -/

variable {m M : Nat} {e U : Int}

/-- The text of a value, by its shortest decimal. -/
theorem realText_eq (h : Shortest.decimal .binary64 m e = (d, x)) :
    realText .binary64 (.finite negative m e) = signText negative ++
      (if d = 0 ∨ (-5 ≤ x + (Nat.toDigits 10 d).length - 1 ∧
          x + (Nat.toDigits 10 d).length - 1 ≤ 15) then
        Decimal.positionalText true (Nat.toDigits 10 d) x
      else Decimal.scientificText true (Nat.toDigits 10 d)
        (x + (Nat.toDigits 10 d).length - 1)) := by
  have htoString : (toString d).toList = Nat.toDigits 10 d := Nat.toList_repr
  rw [realText, Decimal.finiteText, h]
  simp only [doubleStyle, htoString]
  cases negative <;> rfl

/-- A decimal next to a value of moderate size has a numeral of moderate size. -/
theorem total_bounds {n : Numeral} (hn : Stands n negative d x) (hm : 0 < m)
    (hd : Binary.Nearest .binary64 m e (d * 10 ^ x)) (hlow : (10 : ℚ) ^ (-50 : Int) ≤ m * 2 ^ e)
    (hhigh : (m * 2 ^ e : ℚ) ≤ 10 ^ (50 : Int)) :
    0 < n.significand ∧ -100 ≤ n.total ∧ n.total ≤ 100 := by
  have hunit : (2 : ℚ) ^ e ≤ m * 2 ^ e := by
    have hone : (1 : ℚ) ≤ m := by exact_mod_cast hm
    exact le_mul_of_one_le_left (by positivity) hone
  obtain ⟨hbelow, habove⟩ := abs_le.mp hd.near
  rw [← hn.value] at hbelow habove
  have hpow : (0 : ℚ) < 10 ^ n.total := by positivity
  have hpositive : (0 : ℚ) < n.significand * 10 ^ n.total := by
    have hleast : (0 : ℚ) < 10 ^ (-50 : Int) := by positivity
    linarith
  have hsignificand : 0 < n.significand := by
    have := pos_of_mul_pos_left hpositive hpow.le
    exact_mod_cast this
  refine ⟨hsignificand, ?_, ?_⟩
  · have hfits : (n.significand : ℚ) ≤ 10 ^ (20 : Int) := by
      have hless := hn.fits
      have hle : n.significand ≤ 10 ^ 20 := by omega
      exact_mod_cast hle
    have hmost : (n.significand * 10 ^ n.total : ℚ) ≤ 10 ^ (20 + n.total) := by
      rw [zpow_add₀ (by norm_num)]
      exact mul_le_mul_of_nonneg_right hfits hpow.le
    have htenth : (10 : ℚ) ^ (-50 : Int) = 10 ^ (-51 : Int) * 10 := by
      rw [← zpow_add_one₀ (by norm_num)]
      rfl
    have hle : (10 : ℚ) ^ (-51 : Int) ≤ 10 ^ (20 + n.total) := by
      have hleast : (0 : ℚ) < 10 ^ (-51 : Int) := by positivity
      linarith
    have := (zpow_le_zpow_iff_right₀ (by norm_num)).mp hle
    omega
  · have hone : (1 : ℚ) ≤ n.significand := by exact_mod_cast hsignificand
    have hleast : (10 : ℚ) ^ n.total ≤ n.significand * 10 ^ n.total :=
      le_mul_of_one_le_left hpow.le hone
    have htenfold : (10 : ℚ) ^ (51 : Int) = 10 ^ (50 : Int) * 10 := by
      rw [← zpow_add_one₀ (by norm_num)]
      rfl
    have hle : (10 : ℚ) ^ n.total ≤ 10 ^ (51 : Int) := by linarith
    have := (zpow_le_zpow_iff_right₀ (by norm_num)).mp hle
    omega

theorem value?_of_scaled {n : Numeral} {y : Binary} (hn : n.whole = false)
    (hy : n.scaled = some y) :
    n.value? = some (.real .binary64 (if n.negative then y.neg else y)) := by
  have hnot : ¬ (n.whole = true ∧ ¬ n.negative = true) := by simp [hn]
  have hnot' : ¬ (n.whole = true ∧ 0 < n.significand ∧ n.significand ≤ 0x8000000000000000) := by
    simp [hn]
  rw [Numeral.value?, if_neg hnot, if_neg hnot', hy]
  rfl

theorem narrow_signed (f : BinaryFormat) (negative : Bool) (m : Nat) (e : Int) :
    (if negative then (Binary.finite false m e).neg else .finite false m e).narrow f =
      Binary.round f negative (Binary.ratio m e).1 (Binary.ratio m e).2 := by
  cases negative <;> rfl

/-- The text of a zero is read as the zero. -/
theorem reads_zero (negative : Bool) :
    Reads (realText .binary64 (.finite negative 0 0)) (.real .binary64 (.finite negative 0 0)) := by
  have hdecimal : Shortest.decimal .binary64 0 0 = (0, 0) := rfl
  obtain ⟨n, hn, hreads⟩ := readsDecimal_integral negative (d := 0) (k := 0) (.inl rfl)
    (by decide)
  have hsignificand : n.significand = 0 := by
    have hvalue := hn.value
    rw [Nat.cast_zero, zero_mul] at hvalue
    have hpow : (10 : ℚ) ^ n.total ≠ 0 := by positivity
    exact_mod_cast (mul_eq_zero.mp hvalue).resolve_right hpow
  have hscaled : n.scaled = some (.finite false 0 0) := by
    rw [Numeral.scaled]
    simp only [hsignificand]
    rfl
  have hvalue := value?_of_scaled hn.not_whole hscaled
  rw [hn.negative_eq] at hvalue
  rw [realText_eq hdecimal, if_pos (.inl rfl)]
  refine hreads _ (hvalue.trans ?_)
  cases negative <;> rfl

/-- Three roundings and the one of the shortest decimal, against the last bit of 24. -/
theorem near_of_within {y : ℚ} (hpos : 0 < m) (hfull : 2 ^ 52 ≤ m)
    (hnearest : Binary.Nearest .binary64 m e (d * 10 ^ x))
    (hwithin : Within (5 * lastBit) y (d * 10 ^ x)) :
    |y - m * 2 ^ e| * 2 ^ (BinaryFormat.binary32.precision + 2) ≤ m * 2 ^ e := by
  have hv : (0 : ℚ) < m * 2 ^ e := by
    have hm : (0 : ℚ) < m := by exact_mod_cast hpos
    positivity
  have hdecimal : Within lastBit (d * 10 ^ x) (m * 2 ^ e) := by
    refine within_of_abs (hnearest.near.trans ?_)
    have hfull' : (2 ^ 52 : ℚ) ≤ m := by exact_mod_cast hfull
    have hbound : (2 ^ 52 : ℚ) * 2 ^ e ≤ m * 2 ^ e :=
      mul_le_mul_of_nonneg_right hfull' (by positivity)
    rw [lastBit]
    linarith
  have hnear : Within (25 * lastBit) y (m * 2 ^ e) :=
    (hwithin.trans (hdecimal.mono (by norm_num [lastBit]) hv.le) (by norm_num [lastBit])
      (by norm_num [lastBit]) hv).mono (by norm_num [lastBit]) hv.le
  have hbits : (25 * lastBit : ℚ) * 2 ^ (BinaryFormat.binary32.precision + 2) ≤ 1 := by
    norm_num [lastBit, BinaryFormat.precision]
  calc |y - m * 2 ^ e| * 2 ^ (BinaryFormat.binary32.precision + 2)
      ≤ 25 * lastBit * (m * 2 ^ e) * 2 ^ (BinaryFormat.binary32.precision + 2) :=
        mul_le_mul_of_nonneg_right hnear.abs (by positivity)
    _ = 25 * lastBit * 2 ^ (BinaryFormat.binary32.precision + 2) * (m * 2 ^ e) := by ring
    _ ≤ 1 * (m * 2 ^ e) := mul_le_mul_of_nonneg_right hbits hv.le
    _ = m * 2 ^ e := one_mul _

/-- What is written of a 32-bit value is read as a value that is the same in 32 bits. -/
theorem reads_realText {t : Binary} (hfinite : t.isFinite = true) (h32 : t.narrow .binary32 = t) :
    ∃ y, Reads (realText .binary64 t) (.real .binary64 y) ∧ y.narrow .binary32 = t := by
  cases t with
  | nan | infinite => cases hfinite
  | finite negative m e =>
  rcases Nat.eq_zero_or_pos m with rfl | hm
  · rw [Binary.narrow_zero] at h32
    rw [← h32]
    exact ⟨_, reads_zero negative, Binary.narrow_zero .binary32 negative 0⟩
  obtain ⟨m', e', hsingle, hvalue, hspelled⟩ := Binary.normal_of_narrow_eq hm h32
  obtain ⟨M, U, hdouble, hfull, hvalue', hspelled'⟩ := hsingle.widen
  obtain ⟨d, x, hdecimal, hd, hdigits, hnearest⟩ := Shortest.decimal_spec hdouble
  have hparts : Binary.spelled negative M U = .finite negative m e :=
    (hspelled' negative).trans hspelled
  have hsignificand : (Binary.strip (M.log2 + 1) M U).1 = m := by injection hparts
  have hexponent : (Binary.strip (M.log2 + 1) M U).2 = e := by injection hparts
  rw [hsignificand, hexponent] at hdecimal
  obtain ⟨n, hn, hreads⟩ := readsDecimal_double negative (x := x) hd hdigits rfl
  obtain ⟨hlow, hhigh⟩ := Shortest.value_bounds hsingle
  rw [← hvalue'] at hlow hhigh
  obtain ⟨hpos, hmin, hmax⟩ := total_bounds hn hdouble.pos hnearest
    (le_trans (by norm_num [BinaryFormat.minExponent]) hlow)
    (hhigh.le.trans (by norm_num [BinaryFormat.precision, BinaryFormat.maxExponent]))
  obtain ⟨a, i, hscaled, hwithin⟩ := scaled_within hpos hn.fits hmin hmax
  rw [hn.value] at hwithin
  refine ⟨if n.negative then (Binary.finite false a i).neg else .finite false a i, ?_, ?_⟩
  · rw [realText_eq hdecimal]
    exact hreads _ (value?_of_scaled hn.not_whole hscaled)
  · have hnear := near_of_within hdouble.pos hfull hnearest hwithin
    rw [hvalue'] at hnear
    rw [hn.negative_eq, narrow_signed, ← hspelled]
    refine Binary.round_eq_spelled hsingle (Binary.ratio_snd_pos a i) ?_
    rw [Binary.ratio_div]
    exact Binary.nearest_of_near hsingle hnear

end Reader
end FileChat.Json
