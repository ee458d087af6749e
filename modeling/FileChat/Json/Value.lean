import FileChat.Number.Binary

/-!
# JSON values

Members keep their order and their repetitions, because a reader of records has to see both. A
number is an integer if it is written as one and fits 64 bits, and a floating-point value otherwise.
-/

namespace FileChat.Json

inductive Value where
  | null
  | bool (b : Bool)
  | integer (n : Int)
  /-- A floating-point value, with the format whose shortest digits stand for it. -/
  | real (format : BinaryFormat) (x : Binary)
  | string (s : String)
  | array (items : List Value)
  | object (members : List (String × Value))
  /-- Text of correct form that stands for no value: a string with half a surrogate pair, an object
  with such a key, or a number beyond the range. It can be skipped but not used. -/
  | unreadable
  deriving Inhabited, Repr

namespace Value

/-- The value under the first member of that name. -/
def get? (key : String) : Value → Option Value
  | object members => (members.find? (·.1 == key)).map (·.2)
  | _ => none

mutual
/-- How many containers stand inside one another. -/
def depth : Value → Nat
  | array items => depthItems items + 1
  | object members => depthMembers members + 1
  | _ => 0
def depthItems : List Value → Nat
  | [] => 0
  | v :: vs => max v.depth (depthItems vs)
def depthMembers : List (String × Value) → Nat
  | [] => 0
  | (_, v) :: ms => max v.depth (depthMembers ms)
end

mutual
/-- Whether no part of the value is unreadable. -/
def readable : Value → Bool
  | unreadable => false
  | array items => readableItems items
  | object members => readableMembers members
  | _ => true
def readableItems : List Value → Bool
  | [] => true
  | v :: vs => v.readable && readableItems vs
def readableMembers : List (String × Value) → Bool
  | [] => true
  | (_, v) :: ms => v.readable && readableMembers ms
end

end Value
end FileChat.Json
