import FileChat.Calendar.LocalTime
import FileChat.Text.Blank
import FileChat.Text.Digit
import FileChat.Text.Parser

/-!
# Timestamps

An instant in universal time, to the nanosecond, and its text: a date and a time with a `T` between
them and a `Z` at the end. What is read may have another offset and be laid out more freely.
-/

namespace FileChat

namespace Calendar

def isLeap (year : Int) : Bool := year % 4 = 0 ∧ (year % 100 ≠ 0 ∨ year % 400 = 0)

def daysIn (year : Int) (month : Nat) : Nat :=
  if month = 2 then (if isLeap year then 29 else 28)
  else if month = 4 ∨ month = 6 ∨ month = 9 ∨ month = 11 then 30
  else 31

def minYear : Int := -262143

def maxYear : Int := 262142

/-- A day of the calendar, in the proleptic Gregorian reckoning. -/
structure Date where
  year : Int
  month : Nat
  day : Nat
  deriving DecidableEq, Repr

namespace Date

def Valid (d : Date) : Prop :=
  minYear ≤ d.year ∧ d.year ≤ maxYear ∧ 1 ≤ d.month ∧ d.month ≤ 12 ∧ 1 ≤ d.day ∧
    d.day ≤ daysIn d.year d.month

instance (d : Date) : Decidable d.Valid := by unfold Valid; infer_instance

def next (d : Date) : Date :=
  if d.day < daysIn d.year d.month then { d with day := d.day + 1 }
  else if d.month < 12 then ⟨d.year, d.month + 1, 1⟩
  else ⟨d.year + 1, 1, 1⟩

def previous (d : Date) : Date :=
  if 1 < d.day then { d with day := d.day - 1 }
  else if 1 < d.month then ⟨d.year, d.month - 1, daysIn d.year (d.month - 1)⟩
  else ⟨d.year - 1, 12, 31⟩

end Date
end Calendar

/-- An instant. A leap second is the second 60 of its minute. -/
structure Timestamp where
  date : Calendar.Date
  hour : Nat
  minute : Nat
  second : Nat
  nanosecond : Nat
  date_valid : date.Valid
  time_valid : hour < 24 ∧ minute < 60 ∧ second ≤ 60 ∧ nanosecond < 1000000000
  deriving DecidableEq

namespace Timestamp

open Calendar

/-- The instant of some fields, if there is one. -/
def ofFields? (date : Date) (hour minute second nanosecond : Nat) : Option Timestamp :=
  if h : date.Valid ∧ hour < 24 ∧ minute < 60 ∧ second ≤ 60 ∧ nanosecond < 1000000000 then
    some ⟨date, hour, minute, second, nanosecond, h.1, h.2⟩
  else none

/-- The instant of a local time that is so many minutes ahead of universal time. The minutes are
less than a day. -/
def ofLocal? (date : Date) (hour minute second nanosecond : Nat) (ahead : Int) : Option Timestamp :=
  if date.Valid ∧ hour < 24 ∧ minute < 60 then
    let minutes : Int := (hour * 60 + minute : Nat) - ahead
    let (date, minutes) :=
      if minutes < 0 then (date.previous, minutes + 1440)
      else if 1440 ≤ minutes then (date.next, minutes - 1440)
      else (date, minutes)
    ofFields? date (minutes / 60).toNat (minutes % 60).toNat second nanosecond
  else none

/-! ## Writing -/

/-- The fraction of a second in 0, 3, 6 or 9 digits. -/
def fractionText (nanosecond : Nat) : String :=
  if nanosecond = 0 then ""
  else if nanosecond % 1000000 = 0 then "." ++ padded 3 (nanosecond / 1000000)
  else if nanosecond % 1000 = 0 then "." ++ padded 6 (nanosecond / 1000)
  else "." ++ padded 9 nanosecond

def text (t : Timestamp) : String :=
  yearText t.date.year ++ "-" ++ padded 2 t.date.month ++ "-" ++ padded 2 t.date.day ++ "T" ++
    padded 2 t.hour ++ ":" ++ padded 2 t.minute ++ ":" ++ padded 2 t.second ++
    fractionText t.nanosecond ++ "Z"

/-! ## Reading -/

open FileChat.Parser

def blanks : Parser Unit := do let _ ← takeWhile Text.isBlank

/-- The next digits, at least one and at most so many. -/
def digits (limit : Nat) : Parser (List Char) := fun cs =>
  let ds := (cs.take limit).takeWhile Char.isDigit
  if ds.isEmpty then none else some (ds, cs.drop ds.length)

/-- A number of at most so many digits, after white space. -/
def number (limit : Nat) : Parser Nat := do
  blanks
  let ds ← digits limit
  pure (Text.digitsValue 10 ds)

/-- A year: up to four digits, or any number of them after a sign. -/
def year : Parser Int := do
  blanks
  match ← peek? with
  | some '-' => do
    char '-'
    let ds ← takeWhile Char.isDigit
    ensure (!ds.isEmpty)
    pure (-(Text.digitsValue 10 ds : Int))
  | some '+' => do
    char '+'
    let ds ← takeWhile Char.isDigit
    ensure (!ds.isEmpty)
    pure (Text.digitsValue 10 ds)
  | _ => do let ds ← digits 4; pure (Text.digitsValue 10 ds)

/-- A separator, after white space. -/
def separator (c : Char) : Parser Unit := do blanks; char c

/-- The digits after a point as nanoseconds. Those beyond the ninth are passed over. -/
def fraction : Parser Nat := do
  match ← peek? with
  | some '.' => do
    char '.'
    let ds ← digits 9
    let _ ← takeWhile Char.isDigit
    pure (Text.digitsValue 10 ds * Nat.pow 10 (9 - ds.length))
  | _ => pure 0

/-- An exact number of digits. -/
def twoDigits : Parser Nat := do
  let a ← satisfy Char.isDigit
  let b ← satisfy Char.isDigit
  pure (Text.digitsValue 10 [a, b])

/-- How many minutes the time is ahead of universal time. -/
def offset : Parser Int := do
  match ← peek? with
  | some 'Z' | some 'z' => do let _ ← satisfy fun _ => true; pure 0
  | some 'U' | some 'u' => do
    let _ ← satisfy fun _ => true
    let _ ← satisfy fun c => c == 'T' || c == 't'
    let _ ← satisfy fun c => c == 'C' || c == 'c'
    pure 0
  | _ => do
    let sign ← satisfy fun c => c == '+' || c == '-' || c == '−'
    let hours ← twoDigits
    let _ ← takeWhile fun c => c == ':' || Text.isBlank c
    let minutes ← twoDigits
    ensure (minutes < 60 && hours < 24)
    let n : Int := hours * 60 + minutes
    pure (if sign == '+' then n else -n)

/-- A date, a separator, a time and an offset. -/
def parser : Parser (Option Timestamp) := do
  let y ← year
  separator '-'
  let month ← number 2
  separator '-'
  let day ← number 2
  let _ ← satisfy fun c => c == 'T' || c == 't' || c == ' '
  let hour ← number 2
  separator ':'
  let minute ← number 2
  separator ':'
  let second ← number 2
  let nanosecond ← fraction
  blanks
  let ahead ← offset
  blanks
  pure (ofLocal? ⟨y, month, day⟩ hour minute second nanosecond ahead)

/-- The instant that a text names. -/
def ofText? (text : String) : Option Timestamp :=
  match parser text.toList with
  | some (t, []) => t
  | _ => none

end Timestamp
end FileChat
