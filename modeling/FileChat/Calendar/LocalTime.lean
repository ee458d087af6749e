/-!
# Local time

A reading of the clock on the wall, and the forms in which it is shown.
-/

namespace FileChat

structure LocalTime where
  year : Int
  month : Nat
  day : Nat
  hour : Nat
  minute : Nat
  second : Nat
  deriving DecidableEq, Repr, Inhabited

namespace Calendar

/-- A number with zeros in front up to a width. -/
def padded (width n : Nat) : String :=
  let digits := toString n
  String.ofList (List.replicate (width - digits.length) '0') ++ digits

/-- Four digits at least; a year before 0 or after 9999 has a sign. -/
def yearText (year : Int) : String :=
  if year < 0 then "-" ++ padded 4 year.natAbs
  else if 9999 < year then "+" ++ padded 4 year.natAbs
  else padded 4 year.natAbs

end Calendar

namespace LocalTime

open Calendar

def date (t : LocalTime) : String :=
  yearText t.year ++ "-" ++ padded 2 t.month ++ "-" ++ padded 2 t.day

/-- Date and minute: `2024-05-06 07:08`. -/
def toMinute (t : LocalTime) : String :=
  t.date ++ " " ++ padded 2 t.hour ++ ":" ++ padded 2 t.minute

/-- Date and minute as a part of a file name: `2024-05-06_0708`. -/
def stamp (t : LocalTime) : String := t.date ++ "_" ++ padded 2 t.hour ++ padded 2 t.minute

end LocalTime
end FileChat
