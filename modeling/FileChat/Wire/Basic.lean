import FileChat.Assembly
import FileChat.Calendar.Timestamp
import FileChat.Json.Reader
import FileChat.Json.Record
import FileChat.Json.Writer
import FileChat.Message
import FileChat.Reply
import FileChat.Session

/-!
# Values on the wire

The JSON form of the values that leave the program, and how they are read again.
-/

namespace FileChat

/-- A type with a JSON form. -/
class Wire (α : Type) where
  toJson : α → Json.Value
  ofJson? : Json.Value → Option α

namespace Wire

open Json

/-- The form of an enumeration: the name. -/
abbrev ofNames {α : Type} (all : List α) (name : α → String) : Wire α where
  toJson a := .string (name a)
  ofJson? := named? all name

instance : Wire Role := ofNames Role.all Role.name

instance : Wire Mode := ofNames Mode.all Mode.name

instance : Wire Form := ofNames [.full, .summary] Form.name

instance : Wire Activity := ofNames Activity.all Activity.name

instance : Wire Status := ofNames Status.all Status.name

instance : Wire Timestamp where
  toJson t := .string t.text
  ofJson? v := (string? v).bind Timestamp.ofText?

/-- The text of a value. -/
def write {α : Type} [Wire α] (a : α) : String := (toJson a).toText

/-- The value of a text. -/
def read? {α : Type} [Wire α] (text : String) : Option α := (Value.ofText? text).bind ofJson?

end Wire
end FileChat
