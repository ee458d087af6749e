import FileChat.Json.Value

/-!
# Records in JSON

A record is an object, whose unknown members are passed over and whose known ones stand at most
once, or an array of the fields in their order. A choice without content is its name, or an object
whose one member of that name is null.
-/

namespace FileChat.Json

/-- What is found in the place of a field. -/
inductive Slot where
  | given (v : Value)
  /-- The object has no such member. -/
  | absent
  /-- The array ends before it. -/
  | beyond

namespace Slot

/-- A field that has to be there. -/
def required {α : Type} (read : Value → Option α) : Slot → Option α
  | given v => read v
  | absent | beyond => none

def orNull {α : Type} (read : Value → Option α) : Value → Option (Option α)
  | .null => some none
  | v => (read v).map some

/-- A field without which there is a default. -/
def orElse {α : Type} (default : α) (read : Value → Option α) : Slot → Option α
  | given v => read v
  | absent | beyond => some default

end Slot

/-- The places of the fields of a record. -/
def slots? (names : List String) : Value → Option (List Slot)
  | .object members =>
    let known := members.filter fun m => names.contains m.1
    if (known.map (·.1)).Nodup then
      some (names.map fun name =>
        match members.lookup name with
        | some v => .given v
        | none => .absent)
    else none
  | .array items =>
    if names.length < items.length then none
    else some (items.map .given ++ List.replicate (names.length - items.length) .beyond)
  | _ => none

def string? : Value → Option String
  | .string s => some s
  | _ => none

def bool? : Value → Option Bool
  | .bool b => some b
  | _ => none

/-- A whole number below a limit, written as one. -/
def natBelow? (limit : Nat) : Value → Option Nat
  | .integer n => if 0 ≤ n ∧ n < limit then some n.toNat else none
  | _ => none

def word32? (v : Value) : Option UInt32 := (natBelow? UInt32.size v).map Nat.toUInt32

/-- A size: a whole number of at most 64 bits. -/
def size? : Value → Option Nat := natBelow? UInt64.size

/-- A number as a 32-bit floating-point value. -/
def real32? : Value → Option Binary
  | .integer n => some (Binary.ofInt .binary32 n)
  | .real _ x => some (x.narrow .binary32)
  | _ => none

def list? {α : Type} (read : Value → Option α) : Value → Option (List α)
  | .array items => items.mapM read
  | _ => none

/-- The name of a choice without content. -/
def choice? : Value → Option String
  | .string s => some s
  | .object [(name, .null)] => some name
  | _ => none

/-- One of the values of an enumeration, by its name. -/
def named? {α : Type} (all : List α) (name : α → String) (v : Value) : Option α :=
  (choice? v).bind fun s => all.find? fun a => name a == s

/-- A member that is left out where there is no value. -/
def member (name : String) (v : Option Value) : List (String × Value) :=
  (v.map fun v => (name, v)).toList

def ofNat (n : Nat) : Value := .integer n

def ofOption {α : Type} (write : α → Value) : Option α → Value
  | some a => write a
  | none => .null

end FileChat.Json
