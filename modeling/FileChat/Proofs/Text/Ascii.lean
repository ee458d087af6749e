import FileChat.Proofs.Bytes.Characters
import FileChat.Proofs.Text.Lowering
import FileChat.Text.Blank

/-!
# Lower case within ASCII

Two characters beyond ASCII have an ASCII letter in their lower-case forms: the Kelvin sign becomes
a `k`, and the capital I with a dot becomes an `i` with a dot to be put over it. So a word of ASCII
letters without a `k` is the lower-case form of its ASCII spellings and of nothing else.
-/
namespace FileChat.Text

open Utf8 (IsSingle not_isSingle_ofNat)

def kelvinSign : Char := '\u212A'

def dottedCapitalI : Char := '\u0130'

/-! ## ASCII letters -/

theorem toNat_toLower (c : Char) :
    c.toLower.toNat = if 65 ≤ c.toNat ∧ c.toNat ≤ 90 then c.toNat + 32 else c.toNat := by
  have hupper : (c.val ≥ 'A'.val ∧ c.val ≤ 'Z'.val) ↔ 65 ≤ c.toNat ∧ c.toNat ≤ 90 := by
    show ('A'.val ≤ c.val ∧ c.val ≤ 'Z'.val) ↔ _
    rw [UInt32.le_iff_toNat_le, UInt32.le_iff_toNat_le]
    rfl
  unfold Char.toLower
  by_cases h : 65 ≤ c.toNat ∧ c.toNat ≤ 90
  · rw [dif_pos (hupper.mpr h), if_pos h]
    show (c.val + 32).toNat = c.val.toNat + 32
    have hlt : c.val.toNat + 32 < 2 ^ 32 := by
      show c.toNat + 32 < 2 ^ 32
      omega
    rw [UInt32.toNat_add]
    exact Nat.mod_eq_of_lt hlt
  · rw [dif_neg (hupper.not.mpr h), if_neg h]

theorem toNat_lt_of_toLower {c : Char} (h : c.toLower.toNat < 0x80) : c.toNat < 0x80 := by
  rw [toNat_toLower] at h
  split at h <;> omega

theorem not_isBlank_of_letter {c : Char} (hlow : 65 ≤ c.toNat) (hhigh : c.toNat ≤ 122) :
    isBlank c = false := by
  simp only [isBlank, Bool.or_eq_false_iff, Bool.and_eq_false_iff, decide_eq_false_iff_not,
    beq_eq_false_iff_ne]
  omega

/-- Case makes nothing white space, nor anything else of it. -/
theorem isBlank_toLower (c : Char) : isBlank c.toLower = isBlank c := by
  have h := toNat_toLower c
  by_cases hupper : 65 ≤ c.toNat ∧ c.toNat ≤ 90
  · rw [if_pos hupper] at h
    rw [not_isBlank_of_letter (c := c) (by omega) (by omega),
      not_isBlank_of_letter (c := c.toLower) (by omega) (by omega)]
  · rw [if_neg hupper] at h
    rw [Char.toNat_inj.mp h]

/-! ## Characters whose lower case is ASCII -/

/-- No mapping leads from beyond ASCII into it, but for that of the Kelvin sign. -/
theorem target_of_caseRun : ∀ run ∈ caseRuns,
    run.first = kelvinSign.toNat ∧ run.last = kelvinSign.toNat ∨ 0x80 ≤ run.first + run.offset := by
  decide +kernel

theorem lowerChar_kelvinSign : lowerChar kelvinSign = ['k'] := by decide +kernel

theorem of_isSingle_mem_lowerChar {c x : Char} (hx : IsSingle x) (h : x ∈ lowerChar c) :
    c.toNat < 0x80 ∨ c = kelvinSign ∧ x = 'k' ∨ c = dottedCapitalI ∧ x = 'i' := by
  by_cases hascii : c.toNat < 0x80
  · exact .inl hascii
  by_cases hkelvin : c = kelvinSign
  · rw [hkelvin, lowerChar_kelvinSign] at h
    exact .inr (.inl ⟨hkelvin, List.mem_singleton.mp h⟩)
  unfold lowerChar at h
  dsimp only at h
  rw [if_neg hascii] at h
  by_cases hdotted : c.toNat = 0x130
  · rw [if_pos hdotted] at h
    obtain hi | hdot := (by simpa using h : x = 'i' ∨ x = '\u0307')
    · exact .inr (.inr ⟨Char.toNat_inj.mp hdotted, hi⟩)
    · rw [hdot] at hx
      exact absurd hx.2 (by decide)
  · rw [if_neg hdotted] at h
    cases hrun : caseRuns.find? (·.contains c.toNat) with
    | none =>
      rw [hrun] at h
      rw [List.mem_singleton.mp h] at hx
      exact absurd hx.2 hascii
    | some run =>
      rw [hrun] at h
      have hcontains := List.find?_some hrun
      simp only [CaseRun.contains, Bool.and_eq_true, decide_eq_true_eq] at hcontains
      obtain ⟨⟨hfirst, hlast⟩, -⟩ := hcontains
      obtain ⟨hk, hk'⟩ | htarget := target_of_caseRun run (List.mem_of_find?_eq_some hrun)
      · have hsign : c.toNat = kelvinSign.toNat := by omega
        exact absurd (Char.toNat_inj.mp hsign) hkelvin
      · rw [List.mem_singleton.mp h] at hx
        exact absurd hx (not_isSingle_ofNat (by omega))

/-- The character is ASCII if all of its lower-case form is, and no `k`. -/
theorem toNat_lt_of_lowerBetween {before after : List Char} {c : Char}
    (h : ∀ x ∈ lowerBetween before c after, IsSingle x ∧ x ≠ 'k') : c.toNat < 0x80 := by
  by_cases hsigma : c = capitalSigma
  · unfold lowerBetween at h
    rw [if_pos hsigma] at h
    split at h
    · exact absurd (h 'ς' List.mem_cons_self).1.2 (by decide)
    · exact absurd (h 'σ' List.mem_cons_self).1.2 (by decide)
  · have hchar : lowerBetween before c after = lowerChar c := if_neg hsigma
    rw [hchar] at h
    obtain ⟨x, rest, hx⟩ := List.exists_cons_of_ne_nil (lowerChar_ne_nil c)
    have hmem : x ∈ lowerChar c := hx ▸ List.mem_cons_self
    obtain hascii | ⟨-, hk⟩ | ⟨hdotted, -⟩ := of_isSingle_mem_lowerChar (h x hmem).1 hmem
    · exact hascii
    · exact absurd hk (h x hmem).2
    · -- The dot goes over the `i`, and it is not ASCII.
      have hdot : '\u0307' ∈ lowerChar c := by
        rw [hdotted]
        decide
      exact absurd (h '\u0307' hdot).1.2 (by decide)

/-! ## Texts whose lower case is ASCII -/

theorem toNat_lt_of_lowerWithin {before text after : List Char}
    (h : ∀ x ∈ lowerWithin before text after, IsSingle x ∧ x ≠ 'k') :
    ∀ c ∈ text, c.toNat < 0x80 := by
  induction text generalizing before with
  | nil => exact fun c hc => absurd hc List.not_mem_nil
  | cons first text ih =>
    rw [lowerWithin] at h
    obtain ⟨hfirst, htext⟩ := List.forall_mem_append.mp h
    exact List.forall_mem_cons.mpr ⟨toNat_lt_of_lowerBetween hfirst, ih htext⟩

theorem lowerBetween_of_ascii {c : Char} (h : c.toNat < 0x80) (before after : List Char) :
    lowerBetween before c after = [c.toLower] := by
  have hsigma : c ≠ capitalSigma := by
    intro hsigma
    rw [hsigma] at h
    exact absurd h (by decide)
  have hchar : lowerBetween before c after = lowerChar c := if_neg hsigma
  rw [hchar]
  exact if_pos h

theorem lowerWithin_of_ascii {text : List Char} (h : ∀ c ∈ text, c.toNat < 0x80)
    (before after : List Char) : lowerWithin before text after = text.map Char.toLower := by
  induction text generalizing before with
  | nil => rfl
  | cons first text ih =>
    obtain ⟨hfirst, htext⟩ := List.forall_mem_cons.mp h
    rw [lowerWithin, lowerBetween_of_ascii hfirst, ih htext, List.map_cons, List.singleton_append]

/-- The texts that become an ASCII word without a `k` in lower case are its ASCII spellings. -/
theorem lower_eq_iff_of_ascii {word : List Char} (h : ∀ x ∈ word, IsSingle x ∧ x ≠ 'k')
    (text : List Char) : lower text = word ↔ text.map Char.toLower = word := by
  constructor
  · intro hlower
    rw [lower_eq] at hlower
    have hascii : ∀ c ∈ text, c.toNat < 0x80 :=
      toNat_lt_of_lowerWithin fun x hx => h x (hlower ▸ hx)
    rw [← hlower, lowerWithin_of_ascii hascii]
  · intro hmap
    have hascii : ∀ c ∈ text, c.toNat < 0x80 := by
      intro c hc
      have hmem : c.toLower ∈ word := hmap ▸ List.mem_map_of_mem hc
      exact toNat_lt_of_toLower (h _ hmem).1.2
    rw [lower_eq, lowerWithin_of_ascii hascii, hmap]

end FileChat.Text
