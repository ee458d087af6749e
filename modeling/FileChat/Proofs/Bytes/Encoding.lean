import FileChat.Text.Utf8

/-!
# Decoding encoded text

The bytes of a character are read as that character wherever a character may begin, so the bytes of
a text are read as the text and leave no gaps. A byte below 0x80 among them is a character of its
own, since all bytes of a longer character are greater.
-/
namespace FileChat.Utf8

/-! ## One character -/

theorem toNat_ofNat_byte {n : Nat} (h : n < 256) : (UInt8.ofNat n).toNat = n := by
  rw [UInt8.toNat_ofNat']
  exact Nat.mod_eq_of_lt h

/-- The numbers of characters: no surrogates, and none beyond the last. -/
theorem toNat_char_bounds (c : Char) :
    c.val.toNat < 0xD800 ∨ 0xDFFF < c.val.toNat ∧ c.val.toNat < 0x110000 := c.valid

/-- A continuation byte adds its six bits to a character that needs more than it. -/
theorem step_continuation {out : List (Option Char)} {p : Pending} {n : Nat} (hn : n < 64)
    (hlow : p.low ≤ n + 128) (hhigh : n + 128 ≤ p.high) (hneeded : 1 < p.needed) :
    Decoder.step ⟨out, some p⟩ (UInt8.ofNat (n + 128)) =
      ⟨out, some ⟨p.value * 64 + n, p.needed - 1, 0x80, 0xBF⟩⟩ := by
  have hbyte : (UInt8.ofNat (n + 128)).toNat = n + 128 := toNat_ofNat_byte (by omega)
  have hbits : (n + 128) % 64 = n := by omega
  simp only [Decoder.step, hbyte, if_pos (And.intro hlow hhigh), hbits,
    if_neg (by omega : ¬ p.needed ≤ 1)]

theorem step_last {out : List (Option Char)} {p : Pending} {n : Nat} (hn : n < 64)
    (hlow : p.low ≤ n + 128) (hhigh : n + 128 ≤ p.high) (hneeded : p.needed = 1) :
    Decoder.step ⟨out, some p⟩ (UInt8.ofNat (n + 128)) =
      ⟨some (Char.ofNat (p.value * 64 + n)) :: out, none⟩ := by
  have hbyte : (UInt8.ofNat (n + 128)).toNat = n + 128 := toNat_ofNat_byte (by omega)
  have hbits : (n + 128) % 64 = n := by omega
  simp only [Decoder.step, hbyte, if_pos (And.intro hlow hhigh), hbits,
    if_pos (Nat.le_of_eq hneeded)]

theorem step_lead {out : List (Option Char)} {n : Nat} {p : Pending} (hn : n < 256)
    (h : lead n = .pending p) : Decoder.step ⟨out, none⟩ (UInt8.ofNat n) = ⟨out, some p⟩ := by
  simp only [Decoder.step, toNat_ofNat_byte hn, Decoder.begin, h]

theorem lead_two {v : Nat} (hlow : 0x7F < v) (hhigh : v ≤ 0x7FF) :
    lead (v / 64 % 32 + 192) = .pending ⟨v / 64, 1, 0x80, 0xBF⟩ := by
  have hvalue : v / 64 % 32 + 192 - 0xC0 = v / 64 := by omega
  rw [lead, if_neg (by omega), if_pos (by omega), hvalue]

theorem lead_three {v : Nat} (hlow : 0x7FF < v) (hhigh : v ≤ 0xFFFF)
    (hvalid : v < 0xD800 ∨ 0xDFFF < v) :
    ∃ low high, lead (v / 4096 % 16 + 224) = .pending ⟨v / 4096, 2, low, high⟩ ∧
      low ≤ v / 64 % 64 + 128 ∧ v / 64 % 64 + 128 ≤ high := by
  have hvalue : v / 4096 % 16 + 224 - 0xE0 = v / 4096 := by omega
  rw [lead, if_neg (by omega), if_neg (by omega), hvalue]
  split
  · have hzero : v / 4096 = 0 := by omega
    exact ⟨0xA0, 0xBF, by rw [hzero], by omega, by omega⟩
  split
  · have hthirteen : v / 4096 = 0xD := by omega
    exact ⟨0x80, 0x9F, by rw [hthirteen], by omega, by omega⟩
  · rw [if_pos (by omega)]
    exact ⟨0x80, 0xBF, rfl, by omega, by omega⟩

theorem lead_four {v : Nat} (hlow : 0xFFFF < v) (hhigh : v < 0x110000) :
    ∃ low high, lead (v / 262144 % 8 + 240) = .pending ⟨v / 262144, 3, low, high⟩ ∧
      low ≤ v / 4096 % 64 + 128 ∧ v / 4096 % 64 + 128 ≤ high := by
  have hvalue : v / 262144 % 8 + 240 - 0xF0 = v / 262144 := by omega
  rw [lead, if_neg (by omega), if_neg (by omega), if_neg (by omega), if_neg (by omega),
    if_neg (by omega), hvalue]
  split
  · have hzero : v / 262144 = 0 := by omega
    exact ⟨0x90, 0xBF, by rw [hzero], by omega, by omega⟩
  split
  · exact ⟨0x80, 0xBF, rfl, by omega, by omega⟩
  · have hfour : v / 262144 = 4 := by omega
    rw [if_pos (by omega)]
    exact ⟨0x80, 0x8F, by rw [hfour], by omega, by omega⟩

/-- The bytes of a character are read as the character. -/
theorem foldl_encodeChar (out : List (Option Char)) (c : Char) :
    (String.utf8EncodeChar c).foldl Decoder.step ⟨out, none⟩ = ⟨some c :: out, none⟩ := by
  have hvalid := toNat_char_bounds c
  have hc : Char.ofNat c.val.toNat = c := c.ofNat_toNat
  rw [String.utf8EncodeChar]
  generalize c.val.toNat = v at hvalid hc
  -- one case a length; the bits of the bytes make the number again
  split
  · have hascii : lead v = .ascii (Char.ofNat v) := by rw [lead, if_pos (by omega)]
    simp only [List.foldl_cons, List.foldl_nil, Decoder.step, toNat_ofNat_byte (n := v) (by omega),
      Decoder.begin, hascii, hc]
  split
  · have hnumber : v / 64 * 64 + v % 64 = v := by omega
    rw [List.foldl_cons, step_lead (by omega) (lead_two (by omega) (by omega)), List.foldl_cons,
      step_last (by omega) (by simp only; omega) (by simp only; omega) rfl, List.foldl_nil]
    simp only [hnumber, hc]
  split
  · obtain ⟨low, high, hlead, hlow, hhigh⟩ := lead_three (v := v) (by omega) (by omega) (by omega)
    have hnumber : (v / 4096 * 64 + v / 64 % 64) * 64 + v % 64 = v := by omega
    rw [List.foldl_cons, step_lead (by omega) hlead, List.foldl_cons,
      step_continuation (by omega) hlow hhigh (by simp), List.foldl_cons,
      step_last (by omega) (by simp only; omega) (by simp only; omega) rfl, List.foldl_nil]
    simp only [hnumber, hc]
  · obtain ⟨low, high, hlead, hlow, hhigh⟩ := lead_four (v := v) (by omega) (by omega)
    have hnumber : ((v / 262144 * 64 + v / 4096 % 64) * 64 + v / 64 % 64) * 64 + v % 64 = v := by
      omega
    rw [List.foldl_cons, step_lead (by omega) hlead, List.foldl_cons,
      step_continuation (by omega) hlow hhigh (by simp), List.foldl_cons,
      step_continuation (by omega) (by simp only; omega) (by simp only; omega) (by simp),
      List.foldl_cons,
      step_last (by omega) (by simp only; omega) (by simp only; omega) rfl, List.foldl_nil]
    simp only [hnumber, hc]

/-! ## Texts -/

theorem encode_append (a b : List Char) : encode (a ++ b) = encode a ++ encode b :=
  List.flatMap_append

theorem foldl_encode (text : List Char) (out : List (Option Char)) :
    (encode text).foldl Decoder.step ⟨out, none⟩ = ⟨(text.map some).reverse ++ out, none⟩ := by
  induction text generalizing out with
  | nil => rfl
  | cons c text ih =>
    rw [encode, List.flatMap_cons, List.foldl_append, foldl_encodeChar]
    change (encode text).foldl Decoder.step _ = _
    rw [ih]
    simp

/-- The bytes of a text are read as the text, without a gap. -/
theorem decode_encode (text : List Char) : decode (encode text) = text.map some := by
  rw [decode, Decoder.start, foldl_encode, Decoder.finish]
  simp

theorem decode?_encode (text : List Char) : decode? (encode text) = some text := by
  rw [decode?, decode_encode]
  induction text with
  | nil => rfl
  | cons c text ih =>
    rw [List.map_cons, List.mapM_cons, ih]
    rfl

theorem decodeReplacing_encode (text : List Char) : decodeReplacing (encode text) = text := by
  rw [decodeReplacing, decode_encode, List.map_map]
  exact List.map_id text

/-- A byte of a text that could be a character is one of the text. -/
theorem mem_of_single_mem_encode {text : List Char} {byte : UInt8} (hbyte : byte.toNat < 0x80)
    (h : byte ∈ encode text) : Char.ofNat byte.toNat ∈ text := by
  rw [encode, List.mem_flatMap] at h
  obtain ⟨c, hc, hmem⟩ := h
  have hvalid : Char.ofNat c.val.toNat = c := c.ofNat_toNat
  suffices byte.toNat = c.val.toNat by rwa [this, hvalid]
  rw [String.utf8EncodeChar] at hmem
  generalize c.val.toNat = v at hmem
  have hlarge {n : Nat} (hlow : 0x80 ≤ n) (hhigh : n < 256) : byte ≠ UInt8.ofNat n := by
    rintro rfl
    rw [toNat_ofNat_byte hhigh] at hbyte
    omega
  split at hmem
  · rw [List.mem_singleton.mp hmem, toNat_ofNat_byte (by omega)]
  split at hmem
  · simp only [List.mem_cons, List.not_mem_nil, or_false] at hmem
    rcases hmem with hmem | hmem <;> exact absurd hmem (hlarge (by omega) (by omega))
  split at hmem
  · simp only [List.mem_cons, List.not_mem_nil, or_false] at hmem
    rcases hmem with hmem | hmem | hmem <;> exact absurd hmem (hlarge (by omega) (by omega))
  · simp only [List.mem_cons, List.not_mem_nil, or_false] at hmem
    rcases hmem with hmem | hmem | hmem | hmem <;>
      exact absurd hmem (hlarge (by omega) (by omega))

theorem lineFeed_not_mem_encode {text : List Char} (h : '\n' ∉ text) : 10 ∉ encode text :=
  fun hmem => h (mem_of_single_mem_encode (by decide) hmem)

end FileChat.Utf8
