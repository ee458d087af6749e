import FileChat.Backend.Provider
import FileChat.Ingest.Load
import FileChat.Terminal.Host
import FileChat.Terminal.Screen
import FileChat.Terminal.Transcript

/-!
# The conversation at the terminal

Line after line is a question, a command or nothing, until the user leaves or the input ends. A
question that fails leaves the conversation going.
-/

namespace FileChat

/-- A conversation: its session, and what surrounds it. -/
structure Repl where
  session : Session
  provider : Provider
  /-- The model that is asked. -/
  model : String
  policy : IngestPolicy
  home : String
  /-- Where transcripts go; the tilde may stand for the home directory. -/
  transcripts : String

namespace Repl

variable {m : Type → Type} [Monad m] (h : Host m)

/-! ## Questions -/

/-- Sends a question and shows the answer. -/
def ask (r : Repl) (query : String) : m Repl := do
  h.print Screen.answering
  let start ← h.ticks
  match r.session.inquire (← h.now) r.model query with
  | .error .emptyQuery =>
    h.print (Screen.lines [""])
    return r
  | .error e =>
    h.complain (Screen.lines ["  [Error] " ++ e.message])
    return r
  | .ok (session, inquiry) =>
    let opening ← r.provider.answer h.send inquiry.request
    let elapsed := (← h.ticks) - start
    let step := session.settle inquiry opening .never elapsed
    match step.answer with
    | .finished outcome deltas _ =>
      h.print (String.join deltas)
      h.print (Screen.afterAnswer elapsed outcome)
      h.complain ((outcome.error.map Screen.fault).getD "")
    | .rejected _ | .abandoned .. => pure ()
    return { r with session := step.session }

/-! ## Commands -/

/-- Loads a path; gives what is told of it. -/
def load (r : Repl) (path : String) : m (Repl × String) := do
  let path := Load.target r.home path
  match Load.ofTree r.policy path (← h.look path) with
  | .error e => return (r, "[Error] " ++ e.message)
  | .ok found =>
    let step := r.session.ingestAll (found.map fun f => (f.path, f.outcome))
    return ({ r with session := step.session }, Screen.loaded step.answer)

/-- Loads a path and tells of it. -/
def showLoad (r : Repl) (path : String) : m Repl := do
  let (r, told) ← r.load h path
  h.print (Screen.lines ["  " ++ told])
  return r

/-- The model to switch to, if any, and what is told of it. A backend that names no models is taken
to have the one that is wanted. -/
def choose (wanted : String) (models : Except ProviderError (List String)) :
    Option String × String :=
  match models with
  | .ok (first :: rest) =>
    let models := first :: rest
    match matchModel models wanted with
    | some found => (some found, Screen.lines ["  Switched model: " ++ found])
    | none =>
      (none, Screen.lines ["  Model '" ++ wanted ++ "' not found.",
        "  Available: " ++ ", ".intercalate models])
  | .ok [] | .error _ =>
    (some wanted,
      Screen.lines ["  Switched model blindly (backend unreachable?): " ++ wanted])

/-- Switches to the model that is meant. -/
def switchModel (r : Repl) (wanted : String) : m Repl := do
  let (chosen, told) := choose wanted (← r.provider.listModels h.send)
  h.print told
  return { r with model := chosen.getD r.model }

/-- Switches to the mode of a name. -/
def switchMode (r : Repl) (name : String) : m Repl :=
  match Mode.ofName name with
  | .error e => do
    h.print (Screen.lines ["  " ++ e.message])
    return r
  | .ok mode => do
    h.print (Screen.lines ["  Context mode: " ++ mode.name])
    return { r with session := (r.session.setMode mode).session }

/-- Writes the history to a file; gives its path. -/
def writeTranscript (r : Repl) : m (Except FileError String) := do
  let directory := Path.expandTilde r.home r.transcripts
  let now ← h.now
  match ← h.makeDirs directory with
  | .error e => return .error e
  | .ok () =>
    let path := Path.join directory (Transcript.fileName now)
    return (← h.write path (Transcript.render r.session.history now)).map fun () => path

/-- Writes the history to a file and tells where. -/
def save (r : Repl) : m Unit := do
  match ← r.writeTranscript h with
  | .ok path => h.print (Screen.lines ["  Saved: " ++ path])
  | .error e => h.complain (Screen.lines ["  [Error] Could not save transcript: " ++ e.message])

/-- Carries out a command. Leaving is left to the caller. -/
def handle (r : Repl) : Command → m Repl
  | .load path => r.showLoad h path
  | .focus pattern => do
    let step := r.session.focus pattern
    h.print (Screen.pinned pattern step.answer)
    return { r with session := step.session }
  | .unfocus => do
    let step := r.session.clearPins
    h.print (Screen.lines ["  " ++ toString step.answer ++ " pins removed."])
    return { r with session := step.session }
  | .files => do
    h.print (Screen.files r.session.inventory)
    return r
  | .search needle => do
    h.print (Screen.hits needle (r.session.search needle))
    return r
  | .model none => do
    h.print (Screen.lines ["  Current model: " ++ r.model])
    return r
  | .model (some wanted) => r.switchModel h wanted
  | .mode name => r.switchMode h name
  | .save => do
    r.save h
    return r
  | .clear => do
    h.print (Screen.lines ["  Files, pins and history cleared."])
    return { r with session := r.session.reset.session }
  | .help => do
    h.print Screen.help
    return r
  | .exit => return r
  | .usage text => do
    h.print (Screen.lines ["  Usage: " ++ text])
    return r
  | .unknown name => do
    h.print (Screen.lines ["  Unknown command: " ++ name ++ " (try /help)"])
    return r

/-! ## Lines -/

/-- What a line is. -/
inductive Entry where
  | blank
  | question (query : String)
  | command (c : Command)
  deriving DecidableEq, Repr

/-- What a line is, without the white space around it. -/
def entry (line : String) : Entry :=
  let line := String.ofList (Text.trim line.toList)
  if line.isEmpty then .blank
  else
    match Command.ofLine? line with
    | some c => .command c
    | none => .question line

/-- Takes a line; nothing is left if the user leaves. -/
def step (r : Repl) (line : String) : m (Option Repl) :=
  match entry line with
  | .blank => return some r
  | .question query => return some (← r.ask h query)
  | .command .exit => return none
  | .command c => return some (← r.handle h c)

/-- How a conversation ends. -/
inductive Ending where
  /-- The user left, or the input ended. -/
  | farewell
  /-- A line was no text. -/
  | unreadable (line : Bytes) (flaw : Utf8.Flaw)
  deriving DecidableEq, Repr

/-- What becomes of a conversation with a line. -/
inductive Progress where
  | going (r : Repl)
  | ended (e : Ending)

/-- Takes a line of the input. -/
def stepBytes (r : Repl) (line : Bytes) : m Progress :=
  match Utf8.decode? line, Utf8.flaw? line with
  | some text, _ => do
    match ← r.step h (String.ofList text) with
    | some r => return .going r
    | none => return .ended .farewell
  | none, flaw => return .ended (.unreadable line (flaw.getD ⟨0, none⟩))

/-- Holds the conversation over the lines of an input. -/
def run (r : Repl) : List Bytes → m (Repl × Ending)
  | [] => do
    h.print Screen.prompt
    return (r, .farewell)
  | line :: rest => do
    h.print Screen.prompt
    match ← r.stepBytes h line with
    | .going r => run r rest
    | .ended e => return (r, e)

end Repl
end FileChat
