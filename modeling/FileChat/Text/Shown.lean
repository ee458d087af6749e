import FileChat.Text.Quoted

/-!
# Values as reports show them

The text of a record with its fields, of a list and of what may be missing.
-/

namespace FileChat.Text

def shownOption (render : String → String) : Option String → String
  | some s => "Some(" ++ render s ++ ")"
  | none => "None"

def shownList (render : String → String) (items : List String) : String :=
  "[" ++ ", ".intercalate (items.map render) ++ "]"

/-- A record's name and its fields. -/
def shownRecord (name : String) (fields : List (String × String)) : String :=
  name ++ " \x7b " ++ ", ".intercalate (fields.map fun (k, v) => k ++ ": " ++ v) ++ " \x7d"

end FileChat.Text
