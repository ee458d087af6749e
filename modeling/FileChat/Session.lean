import FileChat.Assembly
import FileChat.Composition
import FileChat.Config
import FileChat.Event
import FileChat.History
import FileChat.Reply
import FileChat.Search

/-!
# Sessions

One conversation: its pool, pins, mode and history, and whether a generation is under way. Every
operation gives the session after it, the events it publishes and its answer. What comes from
outside is an argument: the clock is read by the caller, and the backend is what it answers.
-/

namespace FileChat

/-- Where a session stands in a generation. -/
inductive Activity where
  | idle
  | assembling
  | streaming
  deriving DecidableEq, Repr, Inhabited

def Activity.name : Activity → String
  | .idle => "idle"
  | .assembling => "assembling"
  | .streaming => "streaming"

def Activity.all : List Activity := [.idle, .assembling, .streaming]

/-- What stays the same in a session. -/
structure Settings where
  contextBudget : Nat := 8000
  historyBudget : Nat := History.defaultBudget
  relevanceThreshold : UInt32 := 40
  weights : Weights := {}
  /-- The preamble, with a mark where the time goes. -/
  systemTemplate : String := Composition.defaultTemplate
  temperature : Binary := defaultTemperature
  maxTokens : Option UInt32 := none
  deriving DecidableEq, Repr, Inhabited

/-- The settings that a configuration asks for. -/
def Settings.ofConfig (c : Config) : Settings :=
  { contextBudget := c.context.maxContextTokens
    historyBudget := c.context.maxHistoryTokens
    relevanceThreshold := c.context.relevanceThreshold
    systemTemplate := c.context.systemPrompt.getD Composition.defaultTemplate
    temperature := c.defaultTemperature
    maxTokens := c.defaultMaxTokens }

structure Session where
  settings : Settings
  pool : Pool := .empty
  pins : Pins := .empty
  mode : Mode := .smart
  history : List Message := []
  activity : Activity := .idle

/-- What an operation leaves: the session, what it tells, and what it answers. -/
structure Step (α : Type) where
  session : Session
  events : List Event
  answer : α

/-- The counts of a batch. -/
structure IngestReport where
  loaded : Nat
  failed : Nat
  /-- The size of the pool after the batch. -/
  poolSize : Nat
  deriving DecidableEq, Repr

structure InventoryEntry where
  path : String
  name : String
  lines : Nat
  tokens : Nat
  pinned : Bool
  deriving DecidableEq, Repr

/-- The loaded artifacts of a pool in the order of their paths, and its totals. -/
structure Inventory where
  entries : List InventoryEntry
  failed : Nat
  totalTokens : Nat
  deriving DecidableEq, Repr

/-- The messages of a request and what went into them. -/
structure Composed where
  messages : List Message
  context : Context
  /-- The turns of the history that fit. -/
  historyTurns : Nat
  tokensIn : Nat
  deriving DecidableEq, Repr

/-- The end of a generation. -/
structure Generated where
  status : Status
  text : String
  error : Option ProviderError
  tokensIn : Nat
  tokensOut : Nat
  usage : Option Usage
  deriving DecidableEq, Repr

/-- What came of the wish to generate. -/
inductive Generation where
  /-- It was refused before any work. -/
  | rejected (e : SessionError)
  /-- It came to an end. -/
  | finished (outcome : Generated) (deltas : List String) (request : ChatRequest)
  /-- The backend kept it waiting until the caller gave it up. -/
  | abandoned (deltas : List String) (request : ChatRequest)

namespace Session

def new (settings : Settings) : Session := { settings }

/-- The session that a configuration asks for. A mode that it does not name well is the smart
one. -/
def ofConfig (c : Config) : Session :=
  let mode :=
    match Mode.ofName c.context.mode with
    | .ok mode => mode
    | .error _ => .smart
  { settings := .ofConfig c, mode }

/-! ## Ingestion -/

/-- Adds what was found at a path, in place of what was there before. -/
def ingest (s : Session) (path : String) (outcome : Outcome) : Session :=
  { s with pool := s.pool.insert (.ofOutcome path outcome) }

/-- Adds a batch in order. -/
def ingestAll (s : Session) (items : List (String × Outcome)) : Step IngestReport :=
  let s := items.foldl (fun s (path, outcome) => s.ingest path outcome) s
  let loaded := items.countP (·.2.isOk)
  let report : IngestReport := ⟨loaded, items.length - loaded, s.pool.size⟩
  ⟨s, [.artifactsIngested report.loaded report.failed report.poolSize], report⟩

/-! ## Pins and mode -/

/-- Pins a name or a path; answers whether it was not pinned before. -/
def pin (s : Session) (identifier : String) : Step Bool :=
  if s.pins.contains identifier then ⟨s, [], false⟩
  else
    let pins := s.pins.insert identifier
    ⟨{ s with pins }, [.pinsChanged pins.size], true⟩

/-- The loaded artifacts whose names have the pattern in them, whatever its case. -/
def named (s : Session) (pattern : String) : List LoadedArtifact :=
  let needle := Text.lower pattern.toList
  s.pool.loaded.filter fun a => Text.occurs needle (Text.lower a.name.toList)

/-- Pins the paths of the artifacts that a pattern names; answers their names. -/
def focus (s : Session) (pattern : String) : Step (List String) :=
  let found := s.named pattern
  let pins := found.foldl (fun pins a => pins.insert a.path) s.pins
  let events := if found.isEmpty then [] else [.pinsChanged pins.size]
  ⟨{ s with pins }, events, found.map (·.name)⟩

/-- Drops all pins; answers how many there were. -/
def clearPins (s : Session) : Step Nat :=
  let events := if s.pins.size = 0 then [] else [.pinsChanged 0]
  ⟨{ s with pins := .empty }, events, s.pins.size⟩

def setMode (s : Session) (mode : Mode) : Step Unit :=
  if s.mode = mode then ⟨s, [], ()⟩ else ⟨{ s with mode }, [.modeChanged mode.name], ()⟩

/-! ## Looking -/

def inventory (s : Session) : Inventory :=
  { entries := s.pool.loaded.map fun a => ⟨a.path, a.name, a.lines, a.tokens, s.pins.covers a⟩
    failed := s.pool.failedCount
    totalTokens := s.pool.totalTokens }

def search (s : Session) (needle : String) : List SearchHit := Search.pool s.pool needle

/-! ## Requests -/

/-- Refuses a question while a generation is under way, and then an empty one. -/
def refusal (s : Session) (query : String) : Option SessionError :=
  if s.activity ≠ .idle then some (.busy s.activity.name)
  else if (Text.trim query.toList).isEmpty then some .emptyQuery
  else none

/-- Scores, assembles, trims and composes. -/
def compose (s : Session) (now : LocalTime) (query : String) : Composed :=
  let scored := Relevance.rank query s.pool s.pins s.settings.weights
  let assembler : Assembler := ⟨s.settings.contextBudget, s.settings.relevanceThreshold⟩
  let context := assembler.assemble s.mode scored
  let history := History.trim s.history s.settings.historyBudget
  let preamble := Composition.preamble s.settings.systemTemplate now
  let messages := Composition.compose preamble history context.text query
  { messages, context, historyTurns := history.length, tokensIn := totalTokens messages }

/-- The request for a question, without sending it. -/
def assembleRequest (s : Session) (now : LocalTime) (query : String) :
    Except SessionError Composed :=
  match s.refusal query with
  | some e => .error e
  | none => .ok (s.compose now query)

/-- Appends a finished exchange to the history. -/
def record (s : Session) (query reply : String) : Session :=
  { s with history := s.history ++ [.user query, .assistant reply] }

/-- Clears pool, pins and history together. -/
def reset (s : Session) : Step Unit :=
  ⟨{ s with pool := .empty, pins := .empty, history := [] }, [.sessionReset], ()⟩

/-! ## Generation -/

/-- The question as events show it. -/
def previewLength : Nat := 80

def queryPreview (query : String) : String := String.ofList (query.toList.take previewLength)

/-- The request that a composed question is sent in. -/
def request (s : Session) (model : String) (c : Composed) : ChatRequest :=
  { model, messages := c.messages, temperature := s.settings.temperature
    maxTokens := s.settings.maxTokens }

/-- Ends a generation: a turn that counts goes into the history, and the session is idle again. -/
def finish (s : Session) (query : String) (outcome : Generated) (elapsedMs : Nat) :
    Session × Event :=
  let s := if outcome.status.isRecorded then s.record query outcome.text else s
  ({ s with activity := .idle },
    .generationFinished outcome.status.name outcome.tokensOut elapsedMs)

def outcomeOfReply (tokensIn : Nat) (r : Reply) : Generated :=
  { status := r.status, text := r.text, error := r.error, tokensIn, tokensOut := tokens r.text
    usage := r.usage }

def outcomeOfRefusal (tokensIn : Nat) (e : ProviderError) : Generated :=
  { status := .failed, text := Reply.errorNote e, error := some e, tokensIn, tokensOut := 0
    usage := none }

/-- A question on its way to the backend. -/
structure Inquiry where
  query : String
  tokensIn : Nat
  request : ChatRequest
  /-- What tells of its beginning. -/
  started : Event

def inquiry (s : Session) (now : LocalTime) (model query : String) : Inquiry :=
  let c := s.compose now query
  { query
    tokensIn := c.tokensIn
    request := s.request model c
    started := .generationStarted (queryPreview query) c.context.usedTokens c.historyTurns }

/-- Begins a generation, unless the question is refused: the session leaves the idle state, and the
request is composed. -/
def inquire (s : Session) (now : LocalTime) (model query : String) :
    Except SessionError (Session × Inquiry) :=
  match s.refusal query with
  | some e => .error e
  | none =>
    let s := { s with activity := .assembling }
    .ok (s, s.inquiry now model query)

/-- Ends a generation that has begun as the backend answers it. A call that is given up while it
waits leaves the session where it stands: assembling until the backend answers, and streaming from
then on. -/
def settle (s : Session) (i : Inquiry) (opening : Opening) (cancel : Cancellation)
    (elapsedMs : Nat) : Step Generation :=
  match opening with
  | .pending => ⟨s, [i.started], .abandoned [] i.request⟩
  | .refused e =>
    let outcome := outcomeOfRefusal i.tokensIn e
    let (s, finished) := s.finish i.query outcome elapsedMs
    ⟨s, [i.started, finished], .finished outcome [] i.request⟩
  | .opened stream =>
    let s := { s with activity := .streaming }
    match Reply.consume cancel stream with
    | .waiting p => ⟨s, [i.started], .abandoned p.deltas i.request⟩
    | .ended reply =>
      let outcome := outcomeOfReply i.tokensIn reply
      let (s, finished) := s.finish i.query outcome elapsedMs
      ⟨s, [i.started, finished], .finished outcome reply.deltas i.request⟩

/-- Runs a generation from the question to its end. The backend's answer may depend on the
request. -/
def generate {m : Type → Type} [Monad m] (s : Session) (now : LocalTime)
    (backend : ChatRequest → m Opening) (model query : String) (cancel : Cancellation)
    (elapsedMs : Nat) : m (Step Generation) :=
  match s.inquire now model query with
  | .error e => return ⟨s, [], .rejected e⟩
  | .ok (s, i) => return s.settle i (← backend i.request) cancel elapsedMs

end Session
end FileChat
