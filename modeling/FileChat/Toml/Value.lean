import FileChat.Number.Binary

/-!
# TOML values
-/

namespace FileChat.Toml

inductive Value where
  | string (s : String)
  | integer (n : Int)
  | float (x : Binary)
  | boolean (b : Bool)
  /-- A date, a time or both, as it was written. -/
  | datetime (text : String)
  | array (items : List Value)
  | table (entries : List (String × Value))
  deriving Inhabited, Repr

/-- The value of a key. -/
def Value.get? (key : String) : Value → Option Value
  | .table entries => entries.lookup key
  | _ => none

end FileChat.Toml
