import FileChat.Proofs.Bytes.Characters
import FileChat.Proofs.Bytes.Encoding
import Mathlib.Algebra.Ring.Nat
import Mathlib.Data.List.ReduceOption

/-!
# The characters among some bytes

`Reads` takes bytes apart without a decoder: where the bytes of a character stand, that is the next
character, and a byte at which none begins is passed over. At most one text is read in this way, and
it is what a decoder makes of the bytes, its gaps left out. A decoder leaves one gap for all the
bytes of a character that breaks off; no character begins at any of those.
-/
namespace FileChat.Utf8

/-- Whether a text is what the characters among some bytes make, in their order. -/
inductive Reads : List UInt8 → List Char → Prop
  | nil : Reads [] []
  | char {rest : List UInt8} {text : List Char} (c : Char) :
      Reads rest text → Reads (String.utf8EncodeChar c ++ rest) (c :: text)
  | skip {byte : UInt8} {rest : List UInt8} {text : List Char} :
      (∀ c, ¬ String.utf8EncodeChar c <+: byte :: rest) → Reads rest text →
        Reads (byte :: rest) text

theorem encodeChar_ne_nil (c : Char) : String.utf8EncodeChar c ≠ [] := by
  rw [String.utf8EncodeChar]
  split
  · exact List.cons_ne_nil _ _
  split
  · exact List.cons_ne_nil _ _
  split
  · exact List.cons_ne_nil _ _
  · exact List.cons_ne_nil _ _

/-- All bytes can be read. -/
theorem exists_reads (bytes : List UInt8) : ∃ text, Reads bytes text := by
  induction hlength : bytes.length using Nat.strongRecOn generalizing bytes with
  | _ length ih =>
    by_cases hchar : ∃ c, String.utf8EncodeChar c <+: bytes
    · obtain ⟨c, rest, rfl⟩ := hchar
      have hpos := List.length_pos_of_ne_nil (encodeChar_ne_nil c)
      rw [List.length_append] at hlength
      obtain ⟨text, htext⟩ := ih rest.length (by omega) rest rfl
      exact ⟨c :: text, .char c htext⟩
    · rw [not_exists] at hchar
      cases bytes with
      | nil => exact ⟨[], .nil⟩
      | cons byte rest =>
        rw [List.length_cons] at hlength
        obtain ⟨text, htext⟩ := ih rest.length (by omega) rest rfl
        exact ⟨text, .skip hchar htext⟩

/-! ## Characters that have been begun -/

/-- The bytes that continue the character of a number, from the one on that this many bytes
follow. -/
def continuation (n : Nat) : Nat → List UInt8
  | 0 => []
  | k + 1 => UInt8.ofNat (n / 64 ^ k % 64 + 128) :: continuation n k

/-- Whether some bytes begin every character of which a decoder has read that much. -/
structure Begun (taken : List UInt8) (p : Pending) : Prop where
  needed : 0 < p.needed
  completes : ∀ n, n / 64 ^ p.needed = p.value →
    p.low ≤ n / 64 ^ (p.needed - 1) % 64 + 128 → n / 64 ^ (p.needed - 1) % 64 + 128 ≤ p.high →
      String.utf8EncodeChar (Char.ofNat n) = taken ++ continuation n p.needed

theorem utf8EncodeChar_ofNat {n : Nat} (h : n.isValidChar) :
    String.utf8EncodeChar (Char.ofNat n) =
      if n ≤ 0x7F then [UInt8.ofNat n]
      else if n ≤ 0x7FF then [UInt8.ofNat (n / 64 % 32 + 192), UInt8.ofNat (n % 64 + 128)]
      else if n ≤ 0xFFFF then
        [UInt8.ofNat (n / 4096 % 16 + 224), UInt8.ofNat (n / 64 % 64 + 128),
          UInt8.ofNat (n % 64 + 128)]
      else
        [UInt8.ofNat (n / 262144 % 8 + 240), UInt8.ofNat (n / 4096 % 64 + 128),
          UInt8.ofNat (n / 64 % 64 + 128), UInt8.ofNat (n % 64 + 128)] := by
  have hval : (Char.ofNat n).val.toNat = n := toNat_ofNat_of_isValidChar h
  simp only [String.utf8EncodeChar, hval]

theorem begun_two {b : Nat} (hlow : 0xC2 ≤ b) (hhigh : b ≤ 0xDF) :
    Begun [UInt8.ofNat b] ⟨b - 0xC0, 1, 0x80, 0xBF⟩ := by
  refine ⟨Nat.one_pos, fun n hvalue _ _ => ?_⟩
  simp only [Nat.reducePow] at hvalue
  have hvalid : n.isValidChar := .inl (by omega)
  have hlead : n / 64 % 32 + 192 = b := by omega
  rw [utf8EncodeChar_ofNat hvalid, if_neg (by omega), if_pos (by omega), hlead]
  simp only [continuation, Nat.pow_zero, Nat.div_one, List.singleton_append]

theorem begun_three {b low high : Nat} (hlow : 0xE0 ≤ b) (hhigh : b ≤ 0xEF)
    (hlong : b = 0xE0 → 0xA0 ≤ low) (hsurrogate : b = 0xED → high ≤ 0x9F) :
    Begun [UInt8.ofNat b] ⟨b - 0xE0, 2, low, high⟩ := by
  refine ⟨Nat.two_pos, fun n hvalue hl hh => ?_⟩
  simp only [Nat.reducePow, Nat.reduceSub] at hvalue hl hh
  have hvalid : n < 0xD800 ∨ 0xDFFF < n ∧ n < 0x110000 := by omega
  have hlead : n / 4096 % 16 + 224 = b := by omega
  rw [utf8EncodeChar_ofNat hvalid, if_neg (by omega), if_neg (by omega), if_pos (by omega), hlead]
  simp only [continuation, Nat.pow_zero, Nat.pow_one, Nat.div_one, List.singleton_append]

theorem begun_four {b low high : Nat} (hlow : 0xF0 ≤ b) (hhigh : b ≤ 0xF4)
    (hlong : b = 0xF0 → 0x90 ≤ low) (hlast : b = 0xF4 → high ≤ 0x8F) :
    Begun [UInt8.ofNat b] ⟨b - 0xF0, 3, low, high⟩ := by
  refine ⟨Nat.succ_pos 2, fun n hvalue hl hh => ?_⟩
  simp only [Nat.reducePow, Nat.reduceSub] at hvalue hl hh
  have hvalid : n < 0xD800 ∨ 0xDFFF < n ∧ n < 0x110000 := by omega
  have hlead : n / 262144 % 8 + 240 = b := by omega
  rw [utf8EncodeChar_ofNat hvalid, if_neg (by omega), if_neg (by omega), if_neg (by omega), hlead]
  simp only [continuation, Nat.pow_zero, Nat.pow_one, Nat.reducePow, Nat.div_one,
    List.singleton_append]

/-- A first byte begins the characters that are read after it. -/
theorem begun_of_lead {b : Nat} {p : Pending} (h : lead b = .pending p) :
    Begun [UInt8.ofNat b] p := by
  unfold lead at h
  split at h
  · cases h
  split at h
  · next hb => exact Lead.pending.inj h ▸ begun_two hb.1 hb.2
  split at h
  · next hb =>
    exact Lead.pending.inj h ▸ hb ▸ begun_three (by omega) (by omega) (by omega) (by omega)
  split at h
  · next hb =>
    exact Lead.pending.inj h ▸ hb ▸ begun_three (by omega) (by omega) (by omega) (by omega)
  split at h
  · next hb =>
    exact Lead.pending.inj h ▸ begun_three (by omega) (by omega) (by omega) (by omega)
  split at h
  · next hb =>
    exact Lead.pending.inj h ▸ hb ▸ begun_four (by omega) (by omega) (by omega) (by omega)
  split at h
  · next hb =>
    exact Lead.pending.inj h ▸ begun_four (by omega) (by omega) (by omega) (by omega)
  split at h
  · next hb =>
    exact Lead.pending.inj h ▸ hb ▸ begun_four (by omega) (by omega) (by omega) (by omega)
  · cases h

/-- The next six bits and the bits before them, from the byte that continues a character. -/
theorem continued {p : Pending} (h : p.Sound) {b k n : Nat} (hlow : p.low ≤ b) (hhigh : b ≤ p.high)
    (hvalue : n / 64 ^ k = p.value * 64 + b % 64) :
    n / 64 ^ (k + 1) = p.value ∧ n / 64 ^ k % 64 + 128 = b := by
  have hsoundLow := h.low
  have hsoundHigh := h.high
  rw [Nat.pow_succ, ← Nat.div_div_eq_div_mul, hvalue]
  omega

theorem Begun.next {taken : List UInt8} {p : Pending} (h : Begun taken p) (hp : p.Sound) {b : Nat}
    (hlow : p.low ≤ b) (hhigh : b ≤ p.high) (hneeded : ¬ p.needed ≤ 1) :
    Begun (taken ++ [UInt8.ofNat b]) ⟨p.value * 64 + b % 64, p.needed - 1, 0x80, 0xBF⟩ := by
  obtain ⟨k, hk⟩ : ∃ k, p.needed = k + 2 := ⟨p.needed - 2, by omega⟩
  refine ⟨by simp only; omega, fun n hvalue _ _ => ?_⟩
  simp only [hk, Nat.reduceSubDiff] at hvalue ⊢
  obtain ⟨hbefore, hbyte⟩ := continued hp hlow hhigh hvalue
  have hwhole := h.completes n
  simp only [hk, Nat.reduceSubDiff, hbyte, hlow, hhigh, true_implies] at hwhole
  rw [hwhole hbefore, continuation, hbyte, List.append_assoc, List.singleton_append]

/-- With its last byte a character is complete. -/
theorem Begun.last {taken : List UInt8} {p : Pending} (h : Begun taken p) (hp : p.Sound) {b : Nat}
    (hlow : p.low ≤ b) (hhigh : b ≤ p.high) (hneeded : p.needed ≤ 1) :
    String.utf8EncodeChar (Char.ofNat (p.value * 64 + b % 64)) = taken ++ [UInt8.ofNat b] := by
  have hone : p.needed = 1 := Nat.le_antisymm hneeded h.needed
  obtain ⟨hbefore, hbyte⟩ := continued (k := 0) hp hlow hhigh (Nat.div_one _)
  have hwhole := h.completes (p.value * 64 + b % 64)
  simp only [hone, Nat.sub_self, hbyte, hlow, hhigh, true_implies] at hwhole
  rw [hwhole hbefore, continuation, hbyte, continuation]

theorem lead_of_continuation {b : Nat} (hlow : 0x80 ≤ b) (hhigh : b ≤ 0xBF) :
    lead b = .invalid := by
  unfold lead
  repeat' rw [if_neg (by omega)]

theorem decode_cons (byte : UInt8) (rest : List UInt8) :
    decode (byte :: rest) =
      (rest.foldl Decoder.step (Decoder.begin [] byte.toNat)).finish := rfl

theorem decode_cons_of_invalid {byte : UInt8} (h : lead byte.toNat = .invalid)
    (rest : List UInt8) : decode (byte :: rest) = none :: decode rest := by
  rw [decode_cons, Decoder.begin, h]
  exact finish_foldl_out rest [none] none

/-- A character that has been begun is completed, or all that was begun comes to nothing. -/
theorem finish_begun (bytes : List UInt8) {taken : List UInt8} {p : Pending} (h : Begun taken p)
    (hp : p.Sound) :
    (∃ c, String.utf8EncodeChar c <+: taken ++ bytes) ∨
      (bytes.foldl Decoder.step ⟨[], some p⟩).finish.reduceOption =
        (decode bytes).reduceOption := by
  -- on the bytes to come: `Begun` keeps what those before have to be a part of
  induction bytes generalizing taken p with
  | nil => exact .inr rfl
  | cons byte bytes ih =>
    rw [List.foldl_cons]
    by_cases hrange : p.low ≤ byte.toNat ∧ byte.toNat ≤ p.high
    · by_cases hneeded : p.needed ≤ 1
      · left
        have hlast := h.last hp hrange.1 hrange.2 hneeded
        rw [UInt8.ofNat_toNat] at hlast
        refine ⟨Char.ofNat (p.value * 64 + byte.toNat % 64), bytes, ?_⟩
        rw [hlast, List.append_assoc, List.singleton_append]
      · have hstep : Decoder.step ⟨[], some p⟩ byte =
            ⟨[], some ⟨p.value * 64 + byte.toNat % 64, p.needed - 1, 0x80, 0xBF⟩⟩ := by
          simp only [Decoder.step, if_pos hrange, if_neg hneeded]
        have hlow := hp.low
        have hhigh := hp.high
        have hnext := ih (h.next hp hrange.1 hrange.2 hneeded) (hp.next hrange.1 hrange.2).2
        rw [UInt8.ofNat_toNat, List.append_assoc, List.singleton_append] at hnext
        -- The byte that goes on with this character begins none itself.
        rw [hstep, decode_cons_of_invalid (lead_of_continuation (by omega) (by omega)),
          List.reduceOption_cons_of_none]
        exact hnext
    · right
      have hstep : Decoder.step ⟨[], some p⟩ byte = Decoder.begin [none] byte.toNat := by
        simp only [Decoder.step, if_neg hrange]
      rw [hstep, begin_out, finish_foldl_out, List.reverse_append, List.append_assoc, decode_cons]
      rw [← finish_foldl_out]
      exact List.reduceOption_cons_of_none _

/-! ## Reading and decoding -/

theorem decode_encodeChar_append (c : Char) (rest : List UInt8) :
    decode (String.utf8EncodeChar c ++ rest) = some c :: decode rest := by
  rw [decode, List.foldl_append, Decoder.start, foldl_encodeChar]
  exact finish_foldl_out rest [some c] none

/-- Where no character begins, a decoder finds nothing that it does not find after it. -/
theorem reduceOption_decode_cons {byte : UInt8} {rest : List UInt8}
    (h : ∀ c, ¬ String.utf8EncodeChar c <+: byte :: rest) :
    (decode (byte :: rest)).reduceOption = (decode rest).reduceOption := by
  cases hlead : lead byte.toNat with
  | ascii c =>
    exfalso
    have hb : byte.toNat < 0x80 := by
      by_contra hnot
      exact lead_ne_ascii hnot c hlead
    have hvalid : byte.toNat.isValidChar := .inl (by omega)
    apply h (Char.ofNat byte.toNat)
    rw [utf8EncodeChar_ofNat hvalid, if_pos (by omega), UInt8.ofNat_toNat]
    exact ⟨rest, rfl⟩
  | invalid =>
    rw [decode_cons_of_invalid hlead, List.reduceOption_cons_of_none]
  | pending p =>
    have hbegun := begun_of_lead hlead
    rw [UInt8.ofNat_toNat] at hbegun
    rw [decode_cons, Decoder.begin, hlead]
    refine (finish_begun rest hbegun (sound_of_lead hlead)).resolve_left ?_
    rintro ⟨c, hc⟩
    exact h c hc

/-- What a decoder finds among some bytes is what is read there. -/
theorem Reads.reduceOption_decode {bytes : List UInt8} {text : List Char} (h : Reads bytes text) :
    (decode bytes).reduceOption = text := by
  induction h with
  | nil => rfl
  | char c _ ih => rw [decode_encodeChar_append, List.reduceOption_cons_of_some, ih]
  | skip hnone _ ih => rw [reduceOption_decode_cons hnone, ih]

theorem Reads.unique {bytes : List UInt8} {text other : List Char} (h : Reads bytes text)
    (h' : Reads bytes other) : other = text := by
  rw [← h.reduceOption_decode, h'.reduceOption_decode]

theorem reads_encode (text : List Char) : Reads (encode text) text := by
  induction text with
  | nil => exact .nil
  | cons c text ih => exact .char c ih

end FileChat.Utf8
