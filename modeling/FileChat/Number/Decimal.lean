import FileChat.Number.Shortest

/-!
# Decimal text of floating-point values

`Decimal.Style` holds what a format decides about a number's text once its shortest digits are
known: where positional notation ends, whether a whole number keeps its `.0`, and how an exponent
is written.
-/

namespace FileChat.Decimal

/-- How the digits of a number are set out. -/
structure Style where
  /-- The exponents of the first digit that are written positionally; `none` means all. -/
  positional : Option (Int × Int)
  /-- Whether a whole number in positional notation ends in `.0`. -/
  pointZero : Bool
  /-- Whether an exponent that is not negative has a plus sign. -/
  signedExponent : Bool

/-- Always positional, a whole number without a fraction. -/
def plain : Style := ⟨none, false, false⟩

/-- Always positional, a whole number with `.0`. -/
def pointed : Style := ⟨none, true, false⟩

/-- The style of printed structures: positional from `0.0001` up to below `10 ^ 16`. -/
def shown : Style := ⟨some (-4, 15), true, false⟩

/-- The digits of a positional numeral whose last digit stands at `10 ^ exponent`. -/
def positionalText (pointZero : Bool) (digits : List Char) (exponent : Int) : List Char :=
  if 0 ≤ exponent then
    digits ++ List.replicate exponent.toNat '0' ++ (if pointZero then ['.', '0'] else [])
  else
    let places := (-exponent).toNat
    let padded := List.replicate (places + 1 - digits.length) '0' ++ digits
    padded.take (padded.length - places) ++ '.' :: padded.drop (padded.length - places)

/-- One digit, the rest as a fraction, and the exponent of the first digit. -/
def scientificText (signed : Bool) (digits : List Char) (first : Int) : List Char :=
  let mantissa :=
    match digits with
    | [] => []
    | [d] => [d]
    | d :: ds => d :: '.' :: ds
  let sign := if first < 0 then ['-'] else if signed then ['+'] else []
  mantissa ++ 'e' :: sign ++ (toString first.natAbs).toList

/-- The text of a finite value of a format. -/
def finiteText (style : Style) (f : BinaryFormat) (negative : Bool) (significand : Nat)
    (exponent : Int) : List Char :=
  let (n, e) := Shortest.decimal f significand exponent
  let digits := (toString n).toList
  let first := e + digits.length - 1
  let body :=
    match style.positional with
    | some (low, high) =>
      if n = 0 ∨ (low ≤ first ∧ first ≤ high) then positionalText style.pointZero digits e
      else scientificText style.signedExponent digits first
    | none => positionalText style.pointZero digits e
  if negative then '-' :: body else body

/-- The text of any value, with `NaN` and `inf` for those that are no number. -/
def text (style : Style) (f : BinaryFormat) : Binary → String
  | .nan => "NaN"
  | .infinite negative => if negative then "-inf" else "inf"
  | .finite negative m e => String.ofList (finiteText style f negative m e)

end FileChat.Decimal
