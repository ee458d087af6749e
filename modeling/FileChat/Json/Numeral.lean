import FileChat.Json.Value

/-!
# Numerals

The digits of a number are gathered into a 64-bit significand; a digit that no longer fits only
shifts it, before the point by a power of ten and after the point not at all. The significand is
then taken to the nearest 64-bit floating-point value and scaled by one rounded power of ten, so a
long numeral may come out a unit beside the nearest value.
-/

namespace FileChat.Json

/-- What has been read of a number. -/
structure Numeral where
  negative : Bool
  significand : Nat
  /-- The power of ten that digits before and after the point amount to. -/
  scale : Int
  /-- Whether further digits of this part have no place in the significand. -/
  full : Bool
  /-- Whether the number has neither a point nor an exponent nor a dropped digit. -/
  whole : Bool
  exponentNegative : Bool
  exponent : Nat

namespace Numeral

def start (negative : Bool) : Numeral := ⟨negative, 0, 0, false, true, false, 0⟩

/-- The least number that no longer fits a significand. -/
def limit : Nat := UInt64.size

/-- The greatest exponent that is told from infinity. -/
def maxExponent : Nat := 0x7FFFFFFF

/-- The next digit before the point. -/
def wholeDigit (n : Numeral) (d : Nat) : Numeral :=
  if n.full ∨ limit ≤ n.significand * 10 + d then
    { n with full := true, whole := false, scale := n.scale + 1 }
  else { n with significand := n.significand * 10 + d }

/-- The point. -/
def point (n : Numeral) : Numeral := { n with full := false, whole := false }

/-- The next digit after the point. -/
def fractionDigit (n : Numeral) (d : Nat) : Numeral :=
  if n.full ∨ limit ≤ n.significand * 10 + d then { n with full := true }
  else { n with significand := n.significand * 10 + d, scale := n.scale - 1 }

/-- The mark before the exponent. -/
def mark (n : Numeral) : Numeral := { n with whole := false }

def exponentDigit (n : Numeral) (d : Nat) : Numeral := { n with exponent := n.exponent * 10 + d }

/-- Whether the exponent alone puts the number beyond every range. -/
def beyond (n : Numeral) : Bool :=
  maxExponent < n.exponent && !n.exponentNegative && n.significand != 0

/-- The rounded power of ten. -/
def power (n : Nat) : Binary := Binary.round .binary64 false (Nat.pow 10 n) 1

/-- The greatest power of ten in range. -/
def greatestPower : Nat := 308

/-- A value divided by `10 ^ n`, in steps of the greatest power. -/
def scaleDown (x : Binary) (n : Nat) : Binary :=
  if x.isZero then x
  else if n ≤ greatestPower then Binary.div .binary64 x (power n)
  else scaleDown (Binary.div .binary64 x (power greatestPower)) (n - greatestPower)
termination_by n
decreasing_by simp only [greatestPower] at *; omega

/-- The value of the significand scaled by a power of ten, unless it is beyond the range. -/
def scaled (n : Numeral) : Option Binary :=
  let x := Binary.ofInt .binary64 n.significand
  let exponent : Int :=
    if n.exponentNegative then n.scale - n.exponent else n.scale + n.exponent
  if n.significand = 0 then some x
  else if exponent < 0 then some (scaleDown x exponent.natAbs)
  else if exponent ≤ greatestPower then
    let y := Binary.mul .binary64 x (power exponent.toNat)
    if y.isFinite then some y else none
  else none

/-- The number, unless it is beyond the range. A whole number outside 64 bits, and the negative
zero, are floating-point values. -/
def value? (n : Numeral) : Option Value :=
  if n.whole ∧ ¬ n.negative then some (.integer n.significand)
  else if n.whole ∧ 0 < n.significand ∧ n.significand ≤ 0x8000000000000000 then
    some (.integer (-(n.significand : Int)))
  else n.scaled.map fun x => .real .binary64 (if n.negative then x.neg else x)

end Numeral
end FileChat.Json
