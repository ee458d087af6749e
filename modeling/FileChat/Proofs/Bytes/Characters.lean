import FileChat.Text.Utf8

/-!
# Single-byte characters in decoded text

A byte below 0x80 stands for the character of its number wherever it comes, and no other byte ever
makes such a character: bytes that do not fit in leave gaps, and a character of several bytes has a
greater number. So the decoded text begins with given single-byte characters exactly if the bytes
do, and a single byte at the end is a character at the end.
-/
namespace FileChat.Utf8

/-- What a character that has been begun promises: the next byte is none of the single ones, and
the number will be greater than theirs. -/
structure Pending.Sound (p : Pending) : Prop where
  low : 0x80 ≤ p.low
  high : p.high ≤ 0xBF
  value : 2 ≤ p.value * 64 + (p.low - 0x80)
  last : p.needed ≤ 1 → 0x80 ≤ p.value * 64 + (p.low - 0x80)

def Decoder.Sound (d : Decoder) : Prop := ∀ p, d.pending = some p → p.Sound

theorem sound_of_lead {b : Nat} {p : Pending} (h : lead b = .pending p) : p.Sound := by
  unfold lead at h
  repeat' split at h
  all_goals first
    | exact Lead.noConfusion h
    | (obtain rfl := Lead.pending.inj h
       constructor <;> simp only <;> omega)

theorem lead_of_lt {b : Nat} (h : b < 0x80) : lead b = .ascii (Char.ofNat b) := by
  rw [lead, if_pos h]

theorem lead_ne_ascii {b : Nat} (h : ¬ b < 0x80) (c : Char) : lead b ≠ .ascii c := by
  unfold lead
  rw [if_neg h]
  repeat' split
  all_goals exact Lead.noConfusion

/-- A continuation byte in range adds six bits, and the character is done or goes on soundly. -/
theorem Pending.Sound.next {p : Pending} (h : p.Sound) {b : Nat} (hlow : p.low ≤ b)
    (hhigh : b ≤ p.high) : (p.needed ≤ 1 → 0x80 ≤ p.value * 64 + b % 64) ∧
      Pending.Sound ⟨p.value * 64 + b % 64, p.needed - 1, 0x80, 0xBF⟩ := by
  have h1 := h.low
  have h2 := h.high
  have h3 := h.value
  have hmod : b % 64 = b - 0x80 := by omega
  refine ⟨fun hn => ?_, ⟨?_, ?_, ?_, fun _ => ?_⟩⟩
  · have h4 := h.last hn
    omega
  · exact Nat.le_refl _
  · exact Nat.le_refl _
  · simp only; omega
  · simp only; omega

theorem sound_begin (out : List (Option Char)) (b : Nat) : (Decoder.begin out b).Sound := by
  intro p hp
  unfold Decoder.begin at hp
  cases hl : lead b with
  | ascii c => rw [hl] at hp; cases hp
  | invalid => rw [hl] at hp; cases hp
  | pending q =>
    rw [hl] at hp
    obtain rfl : q = p := Option.some.inj hp
    exact sound_of_lead hl

theorem sound_step {d : Decoder} (h : d.Sound) (byte : UInt8) : (d.step byte).Sound := by
  unfold Decoder.step
  cases hp : d.pending with
  | none => exact sound_begin _ _
  | some p =>
    simp only
    split
    · next hrange =>
      split
      · intro q hq; cases hq
      · intro q hq
        obtain rfl := Option.some.inj hq
        exact ((h p hp).next hrange.1 hrange.2).2
    · exact sound_begin _ _

theorem sound_foldl (bytes : List UInt8) {d : Decoder} (h : d.Sound) :
    (bytes.foldl Decoder.step d).Sound := by
  induction bytes generalizing d with
  | nil => exact h
  | cons b bs ih => exact ih (sound_step h b)

theorem sound_start : Decoder.start.Sound := fun _ h => by cases h

/-! ## A single byte at the end -/

/-- A single byte ends what was begun, leaving a gap there, and is a character of its own. -/
theorem step_single {d : Decoder} (h : d.Sound) {byte : UInt8} (hb : byte.toNat < 0x80) :
    d.step byte = ⟨some (Char.ofNat byte.toNat) :: d.finish.reverse, none⟩ := by
  unfold Decoder.step Decoder.finish
  cases hp : d.pending with
  | none =>
    simp only [Decoder.begin, lead_of_lt hb, List.reverse_reverse]
  | some p =>
    have hlow := (h p hp).low
    have hnot : ¬ (p.low ≤ byte.toNat ∧ byte.toNat ≤ p.high) := by omega
    simp only [if_neg hnot, Decoder.begin, lead_of_lt hb, List.reverse_reverse]

theorem decode_append_single (bytes : List UInt8) {byte : UInt8} (hb : byte.toNat < 0x80) :
    decode (bytes ++ [byte]) = decode bytes ++ [some (Char.ofNat byte.toNat)] := by
  have hs := sound_foldl bytes sound_start
  rw [decode, List.foldl_append, List.foldl_cons, List.foldl_nil, step_single hs hb]
  simp only [Decoder.finish, List.reverse_cons, List.reverse_reverse, decode]

theorem decodeReplacing_append_single (bytes : List UInt8) {byte : UInt8}
    (hb : byte.toNat < 0x80) :
    decodeReplacing (bytes ++ [byte]) = decodeReplacing bytes ++ [Char.ofNat byte.toNat] := by
  rw [decodeReplacing, decode_append_single bytes hb, List.map_append]
  rfl

/-! ## Single bytes at the front -/

theorem begin_out (out : List (Option Char)) (b : Nat) :
    Decoder.begin out b =
      ⟨(Decoder.begin [] b).out ++ out, (Decoder.begin [] b).pending⟩ := by
  unfold Decoder.begin
  cases lead b <;> rfl

/-- What has been put out already is never looked at. -/
theorem step_out (out : List (Option Char)) (p : Option Pending) (byte : UInt8) :
    Decoder.step ⟨out, p⟩ byte =
      ⟨(Decoder.step ⟨[], p⟩ byte).out ++ out, (Decoder.step ⟨[], p⟩ byte).pending⟩ := by
  cases p with
  | none => exact begin_out out _
  | some p =>
    simp only [Decoder.step]
    split
    · split <;> rfl
    · rw [begin_out (none :: out), begin_out [none]]
      simp

theorem finish_foldl_out (bytes : List UInt8) (out : List (Option Char)) (p : Option Pending) :
    (bytes.foldl Decoder.step ⟨out, p⟩).finish =
      out.reverse ++ (bytes.foldl Decoder.step ⟨[], p⟩).finish := by
  induction bytes generalizing out p with
  | nil => cases p <;> simp [Decoder.finish]
  | cons b bs ih =>
    rw [List.foldl_cons, List.foldl_cons, step_out, ih, ih (Decoder.step ⟨[], p⟩ b).out]
    rw [List.reverse_append, List.append_assoc]

theorem decode_cons_single {byte : UInt8} (hb : byte.toNat < 0x80) (bytes : List UInt8) :
    decode (byte :: bytes) = some (Char.ofNat byte.toNat) :: decode bytes := by
  have hstep := step_single sound_start hb
  rw [decode, List.foldl_cons, hstep]
  exact finish_foldl_out bytes _ none

/-- The characters of one byte, but for the one that stands for none. -/
def IsSingle (c : Char) : Prop := 0 < c.toNat ∧ c.toNat < 0x80

theorem toNat_ofNat_of_isValidChar {n : Nat} (h : n.isValidChar) : (Char.ofNat n).toNat = n := by
  rw [Char.ofNat, dif_pos h]
  rfl

/-- A number that makes no character makes the zero one, so it makes no single one either. -/
theorem not_isSingle_ofNat {n : Nat} (h : 0x80 ≤ n) : ¬ IsSingle (Char.ofNat n) := by
  rintro ⟨hpos, hlt⟩
  by_cases hv : n.isValidChar
  · rw [toNat_ofNat_of_isValidChar hv] at hlt
    omega
  · rw [Char.ofNat, dif_neg hv] at hpos
    exact absurd hpos (by decide)

/-- A character that has been begun never comes out as a single one. -/
theorem head_finish_pending (bytes : List UInt8) {p : Pending} (h : p.Sound) :
    ∀ c, (bytes.foldl Decoder.step ⟨[], some p⟩).finish.head? = some (some c) → ¬ IsSingle c := by
  induction bytes generalizing p with
  | nil => intro c hc; simp [Decoder.finish] at hc
  | cons b bs ih =>
    intro c hc
    rw [List.foldl_cons] at hc
    by_cases hrange : p.low ≤ b.toNat ∧ b.toNat ≤ p.high
    · obtain ⟨hdone, hnext⟩ := h.next hrange.1 hrange.2
      by_cases hneeded : p.needed ≤ 1
      · have hstep : Decoder.step ⟨[], some p⟩ b =
            ⟨[some (Char.ofNat (p.value * 64 + b.toNat % 64))], none⟩ := by
          simp only [Decoder.step, if_pos hrange, if_pos hneeded]
        rw [hstep, finish_foldl_out] at hc
        simp only [List.reverse_singleton, List.singleton_append, List.head?_cons,
          Option.some.injEq] at hc
        exact hc ▸ not_isSingle_ofNat (hdone hneeded)
      · have hstep : Decoder.step ⟨[], some p⟩ b =
            ⟨[], some ⟨p.value * 64 + b.toNat % 64, p.needed - 1, 0x80, 0xBF⟩⟩ := by
          simp only [Decoder.step, if_pos hrange, if_neg hneeded]
        rw [hstep] at hc
        exact ih hnext c hc
    · have hstep : Decoder.step ⟨[], some p⟩ b =
          ⟨(Decoder.begin [] b.toNat).out ++ [none], (Decoder.begin [] b.toNat).pending⟩ := by
        simp only [Decoder.step, if_neg hrange]
        exact begin_out [none] _
      rw [hstep, finish_foldl_out] at hc
      simp at hc

theorem replacement_not_isSingle : ¬ IsSingle replacement := fun h => by
  have : replacement.toNat < 0x80 := h.2
  exact absurd this (by decide)

/-- A byte that is none of the single ones begins no single character. -/
theorem head_decode {byte : UInt8} (hb : ¬ byte.toNat < 0x80) (bytes : List UInt8) :
    ∀ c, (decode (byte :: bytes)).head? = some (some c) → ¬ IsSingle c := by
  intro c hc
  rw [decode, List.foldl_cons] at hc
  have hstep : Decoder.step Decoder.start byte = Decoder.begin [] byte.toNat := rfl
  rw [hstep, Decoder.begin] at hc
  cases hl : lead byte.toNat with
  | ascii c' => exact absurd hl (lead_ne_ascii hb c')
  | pending p =>
    rw [hl] at hc
    exact head_finish_pending bytes (sound_of_lead hl) c hc
  | invalid =>
    rw [hl] at hc
    simp only at hc
    rw [finish_foldl_out] at hc
    simp at hc

/-- A single character at the front of the text is the first byte. -/
theorem decodeReplacing_eq_cons {bytes : List UInt8} {c : Char} {text : List Char}
    (hc : IsSingle c) (h : decodeReplacing bytes = c :: text) :
    ∃ rest, bytes = UInt8.ofNat c.toNat :: rest ∧ decodeReplacing rest = text := by
  cases bytes with
  | nil => cases h
  | cons byte rest =>
    by_cases hb : byte.toNat < 0x80
    · rw [decodeReplacing, decode_cons_single hb, List.map_cons] at h
      obtain ⟨hhead, htail⟩ := List.cons.inj h
      have hv : byte.toNat.isValidChar := Or.inl (by omega)
      have hnumber : (Char.ofNat byte.toNat).toNat = byte.toNat := toNat_ofNat_of_isValidChar hv
      have hc' : c = Char.ofNat byte.toNat := hhead.symm
      refine ⟨rest, ?_, htail⟩
      rw [hc', hnumber, UInt8.ofNat_toNat]
    · exfalso
      obtain ⟨d, ds, hd, hhead, _⟩ := List.map_eq_cons_iff.mp h
      have hfirst : (decode (byte :: rest)).head? = some d := by rw [hd]; rfl
      cases d with
      | none =>
        have hgap : replacement = c := hhead
        exact replacement_not_isSingle (hgap ▸ hc)
      | some c' =>
        obtain rfl : c' = c := hhead
        exact head_decode hb rest c' hfirst hc

/-- Single characters at the front of the text are the first bytes. -/
theorem single_bytes_of_decodeReplacing {field : List Char} (hfield : ∀ c ∈ field, IsSingle c)
    {bytes : List UInt8} (h : field <+: decodeReplacing bytes) :
    field.map (fun c => UInt8.ofNat c.toNat) <+: bytes := by
  induction field generalizing bytes with
  | nil => exact List.nil_prefix
  | cons c field ih =>
    obtain ⟨text, htext⟩ := h
    have hc := hfield c List.mem_cons_self
    obtain ⟨rest, rfl, hrest⟩ := decodeReplacing_eq_cons hc htext.symm
    have htail := ih (fun c' hc' => hfield c' (List.mem_cons_of_mem _ hc')) ⟨text, hrest.symm⟩
    rw [List.map_cons]
    exact List.cons_prefix_cons.mpr ⟨rfl, htail⟩

end FileChat.Utf8
