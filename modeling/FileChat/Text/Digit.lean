/-!
# Digits

Numbers written in a base of up to sixteen.
-/

namespace FileChat.Text

/-- The value of a hexadecimal digit of either case. -/
def digit? (c : Char) : Option Nat :=
  if c.isDigit then some (c.toNat - '0'.toNat)
  else if 'a' ≤ c ∧ c ≤ 'f' then some (c.toNat - 'a'.toNat + 10)
  else if 'A' ≤ c ∧ c ≤ 'F' then some (c.toNat - 'A'.toNat + 10)
  else none

theorem digit?_digitChar : ∀ d < 16, digit? (Nat.digitChar d) = some d := by decide

/-- Whether a character is a digit of a base. -/
def isDigitOf (base : Nat) (c : Char) : Bool :=
  match digit? c with
  | some d => d < base
  | none => false

/-- The number that digits write, the highest first. -/
def digitsValue (base : Nat) (ds : List Char) : Nat :=
  ds.foldl (fun n c => n * base + (digit? c).getD 0) 0

/-- The number that a whole text writes in a base. -/
def number? (base : Nat) (ds : List Char) : Option Nat :=
  if !ds.isEmpty && ds.all (isDigitOf base) then some (digitsValue base ds) else none

/-- The digits of a number in base sixteen, in lower case. -/
def hexDigits (n : Nat) : List Char := Nat.toDigits 16 n

end FileChat.Text
