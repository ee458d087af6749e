/-!
# Binary floating-point values

A finite value is a sign, a significand and a power of two, so widening to a larger format changes
nothing and narrowing is one rounding. `Binary.round` is the only place where precision is lost: it
takes an exact quotient of naturals to the nearest value of a format, a tie to the even significand.
-/

namespace FileChat

inductive BinaryFormat where
  | binary32
  | binary64
  deriving DecidableEq, Repr

namespace BinaryFormat

/-- The bits of a significand. -/
def precision : BinaryFormat → Nat
  | binary32 => 24
  | binary64 => 53

/-- The least power of two that the last bit of a significand stands for. -/
def minExponent : BinaryFormat → Int
  | binary32 => -149
  | binary64 => -1074

/-- The greatest power of two that the last bit of a significand stands for. -/
def maxExponent : BinaryFormat → Int
  | binary32 => 104
  | binary64 => 971

end BinaryFormat

/-- A floating-point value; a finite one is `± significand * 2 ^ exponent`. -/
inductive Binary where
  | nan
  | infinite (negative : Bool)
  | finite (negative : Bool) (significand : Nat) (exponent : Int)
  deriving DecidableEq, Repr, Inhabited

namespace Binary

/-- The power of a base; one if the exponent is below zero. -/
def power (base : Nat) (exponent : Int) : Nat := Nat.pow base exponent.toNat

def zero (negative : Bool) : Binary := .finite negative 0 0

/-- The exponent `k` with `2 ^ k ≤ num / den < 2 ^ (k + 1)`, for positive `num` and `den`. -/
def floorLog2 (num den : Nat) : Int :=
  let k : Int := (num.log2 : Int) - (den.log2 : Int)
  if den * power 2 k ≤ num * power 2 (-k) then k else k - 1

/-- The quotient rounded to a natural number, a tie to the even one. -/
def divToEven (num den : Nat) : Nat :=
  let q := num / den
  let r := num % den
  if den < 2 * r ∨ (den = 2 * r ∧ q % 2 = 1) then q + 1 else q

/-- Halves an even significand until it is odd: the one spelling of a nonzero dyadic number. -/
def strip : Nat → Nat → Int → Nat × Int
  | 0, m, e => (m, e)
  | fuel + 1, m, e => if m % 2 = 0 then strip fuel (m / 2) (e + 1) else (m, e)

/-- The power of two of the last significand bit of a number that starts at bit `k`. -/
def unitExponent (f : BinaryFormat) (k : Int) : Int :=
  max f.minExponent (k - f.precision + 1)

/-- `± num / den` as the nearest value of the format; beyond its range, infinite. -/
def round (f : BinaryFormat) (negative : Bool) (num den : Nat) : Binary :=
  if num = 0 then zero negative
  else
    let unit := unitExponent f (floorLog2 num den)
    let m := divToEven (num * power 2 (-unit)) (den * power 2 unit)
    if m = 0 then zero negative
    else if f.maxExponent < unit ∨ (unit = f.maxExponent ∧ Nat.pow 2 f.precision ≤ m) then
      .infinite negative
    else
      let (m, e) := strip (m.log2 + 1) m unit
      .finite negative m e

/-- A finite value's numerator and denominator. -/
def ratio (significand : Nat) (exponent : Int) : Nat × Nat :=
  (significand * power 2 exponent, power 2 (-exponent))

/-- The nearest value of a smaller format. -/
def narrow (f : BinaryFormat) : Binary → Binary
  | .finite negative m e => let (num, den) := ratio m e; round f negative num den
  | x => x

/-- Decimal magnitudes from which on every format here is infinite or zero. -/
def decimalLimit : Int := 400

/-- `± digits * 10 ^ exponent` as the nearest value of the format. -/
def ofDecimal (f : BinaryFormat) (negative : Bool) (digits : Nat) (exponent : Int) : Binary :=
  if digits = 0 then zero negative
  else if decimalLimit < exponent then .infinite negative
  else if (digits.log2 : Int) / 3 + exponent < -decimalLimit then zero negative
  else round f negative (digits * power 10 exponent) (power 10 (-exponent))

def ofInt (f : BinaryFormat) (n : Int) : Binary := round f (n < 0) n.natAbs 1

def mul (f : BinaryFormat) : Binary → Binary → Binary
  | .finite s m e, .finite s' m' e' =>
    let (a, b) := ratio m e
    let (a', b') := ratio m' e'
    round f (s != s') (a * a') (b * b')
  | .infinite s, .finite s' m _ => if m = 0 then .nan else .infinite (s != s')
  | .finite s m _, .infinite s' => if m = 0 then .nan else .infinite (s != s')
  | .infinite s, .infinite s' => .infinite (s != s')
  | _, _ => .nan

/-- The quotient of two finite values, the second not zero. -/
def div (f : BinaryFormat) : Binary → Binary → Binary
  | .finite s m e, .finite s' m' e' =>
    if m' = 0 then (if m = 0 then .nan else .infinite (s != s'))
    else
      let (a, b) := ratio m e
      let (a', b') := ratio m' e'
      round f (s != s') (a * b') (b * a')
  | .infinite s, .finite s' _ _ => .infinite (s != s')
  | .finite s _ _, .infinite s' => zero (s != s')
  | _, _ => .nan

def isZero : Binary → Bool
  | .finite _ m _ => m == 0
  | _ => false

def isFinite : Binary → Bool
  | .finite .. => true
  | _ => false

def neg : Binary → Binary
  | .nan => .nan
  | .infinite s => .infinite (!s)
  | .finite s m e => .finite (!s) m e

/-- The numerator, with its sign, and the denominator of a finite value. -/
def signedRatio (negative : Bool) (significand : Nat) (exponent : Int) : Int × Nat :=
  let (num, den) := ratio significand exponent
  (if negative then -(num : Int) else num, den)

/-- The order of numbers. A value that is no number is neither less nor greater than any, and the
two zeros are one number. -/
def lt : Binary → Binary → Bool
  | .nan, _ | _, .nan => false
  | .infinite s, .infinite s' => s && !s'
  | .infinite s, .finite .. => s
  | .finite .., .infinite s' => !s'
  | .finite s m e, .finite s' m' e' =>
    let (a, b) := signedRatio s m e
    let (a', b') := signedRatio s' m' e'
    decide (a * b' < a' * b)

/-- A natural number as a value. -/
def ofNat (n : Nat) : Binary := .finite false n 0

end Binary
end FileChat
