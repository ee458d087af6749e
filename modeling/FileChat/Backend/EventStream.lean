import FileChat.Exchange
import FileChat.Files.Tree
import FileChat.Json.Reader
import FileChat.Text.Blank
import FileChat.Text.ByteLines
import FileChat.Text.Utf8
import FileChat.Wire.Message

/-!
# Event streams

A streamed reply is a sequence of lines, of which those that begin with `data:` carry a piece of the
reply. Bytes come in pieces that know nothing of lines or characters, so what stands after the last
line feed waits for the next piece. Only whole lines are decoded.
-/

namespace FileChat

/-- What one line has to say. -/
inductive StreamEvent where
  | delta (text : String)
  /-- The end of the reply, with the usage if the backend counts. -/
  | done (usage : Option Usage)
  | unparseable (data : String)
  deriving DecidableEq, Repr

namespace EventStream

open Json

/-! ## One piece of a reply -/

/-- The text that a choice adds. -/
def deltaText? (v : Value) : Option (Option String) := do
  match ← slots? ["delta"] v with
  | [delta] => delta.required fun d => do
    match ← slots? ["content"] d with
    | [content] => content.orElse none (Slot.orNull string?)
    | _ => none
  | _ => none

/-- The texts of the choices, and the usage. -/
def payload? (v : Value) : Option (List (Option String) × Option Usage) := do
  match ← slots? ["choices", "usage"] v with
  | [choices, usage] =>
    pure (← choices.orElse [] (list? deltaText?), ← usage.orElse none (Slot.orNull Wire.ofJson?))
  | _ => none

/-- The events of a payload: the text of the first choice, and the end if the usage is told. -/
def eventsOfPayload (choices : List (Option String)) (usage : Option Usage) : List StreamEvent :=
  let text := (choices.head?.bind id).filter (· ≠ "")
  (text.map .delta).toList ++ (usage.map fun u => .done (some u)).toList

def endMark : String := "[DONE]"

/-- The events of what stands after `data:`. -/
def eventsOfData (data : String) : List StreamEvent :=
  if data = endMark then [.done none]
  else
    match (Value.ofText? data).bind payload? with
    | some (choices, usage) => eventsOfPayload choices usage
    | none => [.unparseable data]

/-! ## Lines -/

def dataField : List Char := "data:".toList

/-- The line without the line ends at its end. -/
def chomp (line : List Char) : List Char :=
  (line.reverse.dropWhile fun c => c == '\n' || c == '\r').reverse

/-- The events of a whole line. A line that carries no data has none. -/
def eventsOfLine (bytes : Bytes) : List StreamEvent :=
  let line := chomp (Utf8.decodeReplacing bytes)
  if dataField.isPrefixOf line then
    eventsOfData (String.ofList (Text.trim (line.drop dataField.length)))
  else []

/-- The events that a further piece completes, and what waits after it. -/
def feed (waiting piece : Bytes) : List StreamEvent × Bytes :=
  let (lines, rest) := ByteLines.split (waiting ++ piece)
  (lines.flatMap eventsOfLine, rest)

/-- The events that pieces complete one after another, and what waits in the end. -/
def feedAll (waiting : Bytes) : List Bytes → List StreamEvent × Bytes
  | [] => ([], waiting)
  | piece :: pieces =>
    let (events, waiting) := feed waiting piece
    let (more, waiting) := feedAll waiting pieces
    (events ++ more, waiting)

/-! ## The reply -/

/-- What the reader of the reply receives of an event. -/
def chunkOf : StreamEvent → Option Chunk
  | .delta text => some (.delta text)
  | .done usage => some (.finished usage)
  | .unparseable _ => none

/-- Sends on the chunks of some events, and nothing after the one that ends the reply; tells whether
that one came. -/
def forward : List StreamEvent → List Chunk × Bool
  | [] => ([], false)
  | event :: events =>
    match chunkOf event with
    | none => forward events
    | some chunk =>
      if chunk.done then ([chunk], true)
      else
        let (chunks, done) := forward events
        (chunk :: chunks, done)

def brokenBody : String := "error decoding response body"

/-- The item at the end of a body in which the reply has not ended. -/
def bodyEnd (broken : Bool) : Item :=
  if broken then .error (.streamInterrupted brokenBody) else .ok (.finished none)

/-- The items of the pieces still to come. Each piece is fed and sent on as it comes, and once the
reply has ended no further piece is looked at. -/
def itemsFrom (waiting : Bytes) (broken : Bool) : List Bytes → List Item
  | [] => [bodyEnd broken]
  | piece :: pieces =>
    let (events, waiting) := feed waiting piece
    let (chunks, done) := forward events
    chunks.map .ok ++ if done then [] else itemsFrom waiting broken pieces

/-- The items of a body. -/
def items (pieces : List Bytes) (broken : Bool) : List Item := itemsFrom [] broken pieces

end EventStream
end FileChat
