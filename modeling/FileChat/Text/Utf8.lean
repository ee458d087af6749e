/-!
# UTF-8

`decode` takes bytes apart into the characters that are well formed and, for each longest piece that
could have begun one, a gap. What is done about the gaps is left to its callers.
-/

namespace FileChat.Utf8

/-- A character that has been begun: its bits so far, the bytes it still needs, and the range that
the next of them must lie in. -/
structure Pending where
  value : Nat
  needed : Nat
  low : Nat
  high : Nat

inductive Lead where
  | ascii (c : Char)
  | pending (p : Pending)
  | invalid

/-- What a first byte begins. The second byte's range keeps out long forms, surrogates and code
points beyond the last. -/
def lead (b : Nat) : Lead :=
  if b < 0x80 then .ascii (Char.ofNat b)
  else if 0xC2 ≤ b ∧ b ≤ 0xDF then .pending ⟨b - 0xC0, 1, 0x80, 0xBF⟩
  else if b = 0xE0 then .pending ⟨0, 2, 0xA0, 0xBF⟩
  else if b = 0xED then .pending ⟨0xD, 2, 0x80, 0x9F⟩
  else if 0xE1 ≤ b ∧ b ≤ 0xEF then .pending ⟨b - 0xE0, 2, 0x80, 0xBF⟩
  else if b = 0xF0 then .pending ⟨0, 3, 0x90, 0xBF⟩
  else if 0xF1 ≤ b ∧ b ≤ 0xF3 then .pending ⟨b - 0xF0, 3, 0x80, 0xBF⟩
  else if b = 0xF4 then .pending ⟨4, 3, 0x80, 0x8F⟩
  else .invalid

/-- Reading in progress: the output in reverse, a gap being `none`. -/
structure Decoder where
  out : List (Option Char)
  pending : Option Pending

namespace Decoder

def start : Decoder := ⟨[], none⟩

/-- A byte that begins a character. -/
def begin (out : List (Option Char)) (b : Nat) : Decoder :=
  match lead b with
  | .ascii c => ⟨some c :: out, none⟩
  | .pending p => ⟨out, some p⟩
  | .invalid => ⟨none :: out, none⟩

/-- The next byte: it continues the character begun, or leaves a gap there and begins anew. -/
def step (d : Decoder) (byte : UInt8) : Decoder :=
  let b := byte.toNat
  match d.pending with
  | none => begin d.out b
  | some p =>
    if p.low ≤ b ∧ b ≤ p.high then
      let value := p.value * 64 + b % 64
      if p.needed ≤ 1 then ⟨some (Char.ofNat value) :: d.out, none⟩
      else ⟨d.out, some ⟨value, p.needed - 1, 0x80, 0xBF⟩⟩
    else begin (none :: d.out) b

/-- The end of the bytes: a character that is still incomplete is a gap. -/
def finish (d : Decoder) : List (Option Char) :=
  match d.pending with
  | none => d.out.reverse
  | some _ => (none :: d.out).reverse

end Decoder

/-- The characters of some bytes, with a gap for each ill-formed piece. -/
def decode (bytes : List UInt8) : List (Option Char) :=
  (bytes.foldl Decoder.step Decoder.start).finish

/-- The bytes of a text. -/
def encode (text : List Char) : List UInt8 := text.flatMap String.utf8EncodeChar

def replacement : Char := '\ufffd'

/-- The text with a replacement character in each gap. -/
def decodeReplacing (bytes : List UInt8) : List Char :=
  (decode bytes).map (·.getD replacement)

/-- The text, if there is no gap. -/
def decode? (bytes : List UInt8) : Option (List Char) := (decode bytes).mapM id

/-- The first gap: the bytes before it, and the bytes that it takes up unless the end cuts it
off. -/
structure Flaw where
  validUpTo : Nat
  length : Option Nat
  deriving DecidableEq, Repr

/-- The first gap from a place on, where a character may have been begun that has taken some bytes
since. -/
def flawFrom (start taken : Nat) (pending : Option Pending) : List UInt8 → Option Flaw
  | [] => pending.map fun _ => ⟨start, none⟩
  | byte :: rest =>
    let b := byte.toNat
    match pending with
    | none =>
      match lead b with
      | .ascii _ => flawFrom (start + 1) 0 none rest
      | .pending p => flawFrom start 1 (some p) rest
      | .invalid => some ⟨start, some 1⟩
    | some p =>
      if p.low ≤ b ∧ b ≤ p.high then
        if p.needed ≤ 1 then flawFrom (start + taken + 1) 0 none rest
        else
          flawFrom start (taken + 1) (some ⟨p.value * 64 + b % 64, p.needed - 1, 0x80, 0xBF⟩) rest
      else some ⟨start, some taken⟩

/-- The first gap in some bytes. -/
def flaw? (bytes : List UInt8) : Option Flaw := flawFrom 0 0 none bytes

end FileChat.Utf8
