import FileChat.Text.Blank
import FileChat.Text.Lowercase

/-!
# Modes

How much of each artifact a request carries.
-/

namespace FileChat

inductive Mode where
  /-- The content of what is relevant, the summary of the rest. -/
  | smart
  /-- Always the content. -/
  | full
  /-- Always the summary. -/
  | summary
  deriving DecidableEq, Repr, Inhabited

/-- A name that is none of the modes, in lower case. -/
structure UnknownMode where
  name : String
  deriving DecidableEq, Repr

def UnknownMode.message (e : UnknownMode) : String :=
  "Unknown mode '" ++ e.name ++ "' (expected smart, full or summary)"

namespace Mode

def name : Mode → String
  | smart => "smart"
  | full => "full"
  | summary => "summary"

def all : List Mode := [smart, full, summary]

/-- The mode of a name, whatever its case and the white space around it. -/
def ofName (text : String) : Except UnknownMode Mode :=
  let wanted := String.ofList (Text.lower (Text.trim text.toList))
  match all.find? (·.name == wanted) with
  | some mode => .ok mode
  | none => .error ⟨wanted⟩

end Mode
end FileChat
