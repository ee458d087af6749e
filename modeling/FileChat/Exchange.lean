import FileChat.Fault
import FileChat.Message
import FileChat.Number.Binary

/-!
# Requests and streamed replies

What goes to a backend, and what comes back: a request with its messages, and a stream of pieces of
text of which one says that it is the last.
-/

namespace FileChat

/-- A request for a reply. -/
structure ChatRequest where
  model : String
  messages : List Message
  temperature : Binary
  maxTokens : Option UInt32
  deriving DecidableEq, Repr, Inhabited

/-- Tokens as the backend counts them. -/
structure Usage where
  promptTokens : UInt32
  completionTokens : UInt32
  totalTokens : UInt32
  deriving DecidableEq, Repr, Inhabited

/-- A piece of a streamed reply. -/
structure Chunk where
  content : Option String := none
  done : Bool := false
  usage : Option Usage := none
  deriving DecidableEq, Repr, Inhabited

def Chunk.delta (content : String) : Chunk := { content := some content }

/-- The piece that ends a reply. -/
def Chunk.finished (usage : Option Usage) : Chunk := { done := true, usage }

/-- What is received while a reply is streamed. -/
abbrev Item := Except ProviderError Chunk

/-- What stands at the end of the items received so far. -/
inductive StreamEnd where
  /-- Nothing more will come. -/
  | closed
  /-- More could come, but does not. -/
  | pending
  deriving DecidableEq, Repr

/-- A stream as its reader meets it. -/
structure ReplyStream where
  items : List Item
  ending : StreamEnd

/-- The answer of a backend to a request. -/
inductive Opening where
  | opened (stream : ReplyStream)
  | refused (e : ProviderError)
  /-- The backend does not answer. -/
  | pending

/-- The temperature of requests that set none. -/
def defaultTemperature : Binary := Binary.ofDecimal .binary32 false 7 (-1)

end FileChat
