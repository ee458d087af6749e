import FileChat.Number.Binary

/-!
# The shortest decimal that reads back

A value of a format stands for an interval of reals: all those that round to it. `Shortest.decimal`
walks the decimal grids from the coarsest on and takes, on the first grid with a point inside the
interval, the point nearest to the value. If a grid has a point in the interval at all, then one of
the value's two neighbours on that grid is such a point, so two tests a grid are enough.
-/

namespace FileChat.Shortest

open Binary (power)

/-- The reals that round to a value, as numerators over one denominator. The ends belong to it
exactly if the significand is even. -/
structure Interval where
  low : Nat
  value : Nat
  high : Nat
  den : Nat
  closed : Bool

/-- The interval of `significand * 2 ^ exponent`. Below a power of two the values lie closer. -/
def interval (f : BinaryFormat) (significand : Nat) (exponent : Int) : Interval :=
  let unit := Binary.unitExponent f (exponent + significand.log2)
  let m := significand * power 2 (exponent - unit)
  let scale := power 2 unit
  let below := if m = Nat.pow 2 (f.precision - 1) ∧ f.minExponent < unit then 1 else 2
  { low := (4 * m - below) * scale
    value := 4 * m * scale
    high := (4 * m + 2) * scale
    den := 4 * power 2 (-unit)
    closed := m % 2 = 0 }

/-- Whether `digits * 10 ^ exponent` lies in the interval. -/
def Interval.contains (i : Interval) (digits : Nat) (exponent : Int) : Bool :=
  let num := digits * power 10 exponent * i.den
  let scale := power 10 (-exponent)
  if i.closed then i.low * scale ≤ num && num ≤ i.high * scale
  else i.low * scale < num && num < i.high * scale

/-- The point of the grid `10 ^ exponent` in the interval that is nearest to the value. -/
def Interval.nearest? (i : Interval) (exponent : Int) : Option Nat :=
  let num := i.value * power 10 (-exponent)
  let den := i.den * power 10 exponent
  let below := num / den
  match i.contains below exponent, i.contains (below + 1) exponent with
  | true, true => some (if 2 * (num % den) ≤ den then below else below + 1)
  | true, false => some below
  | false, true => some (below + 1)
  | false, false => none

/-- The exponent of the first decimal digit. -/
def Interval.magnitude (i : Interval) : Int :=
  let guess : Int := Binary.floorLog2 i.value i.den * 30103 / 100000
  let next := guess + 1
  if i.den * power 10 next ≤ i.value * power 10 (-next) then next else guess

/-- Drops the zeros at the end of the digits. -/
def stripZeros : Nat → Nat → Int → Nat × Int
  | 0, d, e => (d, e)
  | fuel + 1, d, e => if d % 10 = 0 ∧ d ≠ 0 then stripZeros fuel (d / 10) (e + 1) else (d, e)

/-- A decimal without trailing zeros, `digits * 10 ^ exponent`: the nearest to
`significand * 2 ^ exponent` among those with the fewest digits that read back. -/
def decimal (f : BinaryFormat) (significand : Nat) (exponent : Int) : Nat × Int :=
  if significand = 0 then (0, 0)
  else
    let i := interval f significand exponent
    let first := i.magnitude
    let hit := (List.range f.precision).findSome? fun (n : Nat) =>
      let grid := first - n
      (i.nearest? grid).map fun digits => (digits, grid)
    match hit with
    | some (digits, grid) => stripZeros f.precision digits grid
    | none => (0, 0)

end FileChat.Shortest
