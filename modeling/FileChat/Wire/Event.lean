import FileChat.Wire.Basic

/-!
# Events on the wire

An event is an object with one member, whose name says what has happened.
-/

namespace FileChat

/-- An event and the time at which it happened. -/
structure EventRecord where
  event : Event
  timestamp : Timestamp
  deriving DecidableEq

namespace Wire

open Json

/-- The name of an event. -/
def eventName : Event → String
  | .artifactsIngested .. => "ArtifactsIngested"
  | .pinsChanged _ => "PinsChanged"
  | .modeChanged _ => "ModeChanged"
  | .generationStarted .. => "GenerationStarted"
  | .generationFinished .. => "GenerationFinished"
  | .sessionReset => "SessionReset"

/-- What an event carries besides its time. -/
def eventMembers : Event → List (String × Value)
  | .artifactsIngested loaded failed poolSize =>
    [("loaded", ofNat loaded), ("failed", ofNat failed), ("pool_size", ofNat poolSize)]
  | .pinsChanged pinned => [("pinned", ofNat pinned)]
  | .modeChanged mode => [("mode", .string mode)]
  | .generationStarted query context history =>
    [("query_preview", .string query), ("context_tokens", ofNat context),
      ("history_turns", ofNat history)]
  | .generationFinished status tokens duration =>
    [("status", .string status), ("tokens_out", ofNat tokens), ("duration_ms", ofNat duration)]
  | .sessionReset => []

/-- The event of a name and of what it carries. -/
def eventOf? (name : String) (v : Value) : Option EventRecord :=
  match name with
  | "ArtifactsIngested" => do
    match ← slots? ["loaded", "failed", "pool_size", "timestamp"] v with
    | [loaded, failed, poolSize, time] =>
      pure ⟨.artifactsIngested (← loaded.required size?) (← failed.required size?)
        (← poolSize.required size?), ← time.required ofJson?⟩
    | _ => none
  | "PinsChanged" => do
    match ← slots? ["pinned", "timestamp"] v with
    | [pinned, time] => pure ⟨.pinsChanged (← pinned.required size?), ← time.required ofJson?⟩
    | _ => none
  | "ModeChanged" => do
    match ← slots? ["mode", "timestamp"] v with
    | [mode, time] => pure ⟨.modeChanged (← mode.required string?), ← time.required ofJson?⟩
    | _ => none
  | "GenerationStarted" => do
    match ← slots? ["query_preview", "context_tokens", "history_turns", "timestamp"] v with
    | [query, context, history, time] =>
      pure ⟨.generationStarted (← query.required string?) (← context.required size?)
        (← history.required size?), ← time.required ofJson?⟩
    | _ => none
  | "GenerationFinished" => do
    match ← slots? ["status", "tokens_out", "duration_ms", "timestamp"] v with
    | [status, tokens, duration, time] =>
      pure ⟨.generationFinished (← status.required string?) (← tokens.required size?)
        (← duration.required size?), ← time.required ofJson?⟩
    | _ => none
  | "SessionReset" => do
    match ← slots? ["timestamp"] v with
    | [time] => pure ⟨.sessionReset, ← time.required ofJson?⟩
    | _ => none
  | _ => none

instance : Wire EventRecord where
  toJson r := .object
    [(eventName r.event, .object (eventMembers r.event ++ [("timestamp", toJson r.timestamp)]))]
  ofJson?
    | .object [(name, v)] => eventOf? name v
    | _ => none

end Wire
end FileChat
