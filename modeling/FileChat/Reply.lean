import FileChat.Exchange

/-!
# Consuming a reply

A reply is read piece by piece until it ends, fails or is cancelled. Cancellation is looked at
before each piece is taken and while the next one is awaited; text once taken stays.
-/

namespace FileChat

/-- How a generation came to its end. -/
inductive Status where
  | completed
  | aborted
  | failed
  deriving DecidableEq, Repr, Inhabited

namespace Status

def name : Status → String
  | completed => "completed"
  | aborted => "aborted"
  | failed => "failed"

def all : List Status := [completed, aborted, failed]

/-- Whether the turn goes into the history. -/
def isRecorded : Status → Bool
  | completed | aborted => true
  | failed => false

end Status

/-- When the user cancels. -/
inductive Cancellation where
  | never
  /-- Before the first piece is taken. -/
  | beforehand
  /-- While the delta of that number, counted from one, is being shown. -/
  | duringDelta (n : Nat)
  /-- While the next piece is awaited. -/
  | whileWaiting
  deriving DecidableEq, Repr

/-- A reply that has come to its end. -/
structure Reply where
  status : Status
  /-- What was received, and a note if it was cut off. -/
  text : String
  /-- How many pieces had a text. -/
  chunks : Nat
  /-- The pieces of text as they were shown. -/
  deltas : List String
  usage : Option Usage
  error : Option ProviderError
  deriving DecidableEq, Repr, Inhabited

namespace Reply

/-- The note after a reply that was cancelled. -/
def abortMarker : String := "\n\n[ABORTED]"

/-- The note after a reply that failed. -/
def errorNote (e : ProviderError) : String := "\n\n[ERROR: " ++ e.message ++ "]"

/-- What has been taken so far. -/
structure Progress where
  text : String := ""
  chunks : Nat := 0
  deltas : List String := []
  usage : Option Usage := none
  deriving DecidableEq, Repr, Inhabited

namespace Progress

/-- The text of a piece that is shown. -/
def shown? (c : Chunk) : Option String := c.content.filter (· ≠ "")

/-- Appends the text of a piece and shows it. -/
def append (p : Progress) (delta : String) : Progress :=
  { p with text := p.text ++ delta, chunks := p.chunks + 1, deltas := p.deltas ++ [delta] }

/-- Takes a piece. -/
def take (p : Progress) (c : Chunk) : Progress :=
  let p :=
    match shown? c with
    | some delta => p.append delta
    | none => p
  { p with usage := c.usage <|> p.usage }

/-- The reply at its end, with a note after what was received. -/
def conclude (p : Progress) (status : Status) (note : String) (error : Option ProviderError) :
    Reply :=
  { status, text := p.text ++ note, chunks := p.chunks, deltas := p.deltas, usage := p.usage,
    error }

def complete (p : Progress) : Reply := p.conclude .completed "" none

def abort (p : Progress) : Reply := p.conclude .aborted abortMarker none

def fail (p : Progress) (e : ProviderError) : Reply :=
  p.conclude .failed (errorNote e) (some e)

end Progress

/-- Whether the user has cancelled after so many deltas. -/
def cancelled (cancel : Cancellation) (deltas : Nat) : Bool :=
  match cancel with
  | .beforehand => true
  | .duringDelta n => 0 < n && n ≤ deltas
  | .never | .whileWaiting => false

/-- Where reading stops: at an end, or still waiting after what has been taken. -/
inductive Consumption where
  | ended (reply : Reply)
  | waiting (soFar : Progress)
  deriving DecidableEq, Repr

/-- What comes of waiting for an item when none is there. -/
def await (cancel : Cancellation) (ending : StreamEnd) (p : Progress) : Consumption :=
  match ending, cancel with
  | .closed, _ => .ended p.complete
  | .pending, .whileWaiting => .ended p.abort
  | .pending, _ => .waiting p

/-- Reads on after what has been taken. -/
def consumeFrom (cancel : Cancellation) (ending : StreamEnd) (p : Progress) :
    List Item → Consumption
  | [] =>
    if cancelled cancel p.deltas.length then .ended p.abort else await cancel ending p
  | .error e :: _ =>
    if cancelled cancel p.deltas.length then .ended p.abort else .ended (p.fail e)
  | .ok chunk :: rest =>
    if cancelled cancel p.deltas.length then .ended p.abort
    else
      let p := p.take chunk
      if chunk.done then .ended p.complete else consumeFrom cancel ending p rest

/-- Reads a stream to its end, unless it leaves the reader waiting. -/
def consume (cancel : Cancellation) (stream : ReplyStream) : Consumption :=
  consumeFrom cancel stream.ending {} stream.items

end Reply
end FileChat
