import FileChat.Backend.Registry
import FileChat.Config.File
import FileChat.Terminal.Arguments
import FileChat.Terminal.Help
import FileChat.Terminal.Repl

/-!
# The program

Its commands from their beginning to an exit code. A conversation is handed back once it has begun,
so that whoever reads the lines decides when.
-/

namespace FileChat

/-- The variables that matter to the program. -/
structure Environment extends Config.Environment where
  /-- What is said of a private network. -/
  vpn : Option String := none
  deriving DecidableEq, Repr, Inhabited

namespace Program

variable {m : Type → Type} [Monad m] (h : Host m)

/-- The code of a program that did what was asked. -/
def success : UInt32 := 0

/-- The code of a program that could not. -/
def failure : UInt32 := 1

/-- The code of a program that was not asked in words it has. -/
def misused : UInt32 := 2

/-- Tells of an error that ends the program. -/
def fail (error : String) : m UInt32 := do
  h.complain (Screen.lines ["Error: " ++ error])
  return failure

/-- The configuration, or what keeps it from being had. -/
def configuration (env : Environment) : m (Except String Config) := do
  let config := env.toEnvironment
  let file := Config.FileState.ofTree (← h.look (Config.path config))
  return match Config.load config file with
    | .ok c => .ok c
    | .error e => .error ("Failed to load config: " ++ e.message)

/-- The configuration and the provider that it asks. -/
def backend (env : Environment) : m (Except String (Config × Provider)) := do
  match ← configuration h env with
  | .error e => return .error e
  | .ok c =>
    match (Registry.ofConfig c).default? with
    | some provider => return .ok (c, provider)
    | none => return .error "No default provider configured"

/-! ## Conversations -/

/-- Whether a model is there. The tag of the latest version need not be named. -/
def isAvailable (models : List String) (wanted : String) : Bool :=
  models.any fun m => m == wanted || m == wanted ++ ":latest"

/-- The model to begin with, and a warning unless it is the one that is wanted. -/
def chooseModel (provider wanted : String) (models : Except ProviderError (List String)) :
    String × Option String :=
  match models with
  | .error e => (wanted, some ("Cannot reach " ++ provider ++ ": " ++ e.message))
  | .ok [] => (wanted, some "No models found. Install a model for your backend.")
  | .ok (first :: rest) =>
    if isAvailable (first :: rest) wanted then (wanted, none)
    else
      (first, some ("Model '" ++ wanted ++ "' not available, falling back to '" ++ first ++ "'."))

/-- The model to begin with; a warning is shown. -/
def startModel (provider : Provider) (wanted : String) : m String := do
  let (model, warning) := chooseModel provider.name wanted (← provider.listModels h.send)
  match warning with
  | some w => h.complain (Screen.lines ["  [Warning] " ++ w])
  | none => pure ()
  return model

/-- What is shown of the network. -/
def network (env : Environment) : String := if env.vpn = some "SECURE" then "SECURE" else "OPEN"

/-- A program that has come to its end, or a conversation that begins. -/
inductive Start where
  | stop (code : UInt32)
  | converse (r : Repl)

/-- The session to begin with. -/
def startSession (c : Config) (mode : Option String) : Except UnknownMode Session :=
  let s := Session.ofConfig c
  match mode with
  | none => .ok s
  | some name => (Mode.ofName name).map fun mode => (s.setMode mode).session

/-- The report of a name that no mode has. -/
def shownUnknownMode (e : UnknownMode) : String := "UnknownMode(" ++ Text.quoted e.name ++ ")"

/-- Begins a conversation, or asks the one question there is. -/
def chat (env : Environment) (o : ChatOptions) : m Start := do
  match ← backend h env with
  | .error e => return .stop (← fail h (Text.quoted e))
  | .ok (c, provider) =>
    match startSession c o.mode with
    | .error e => return .stop (← fail h (shownUnknownMode e))
    | .ok session =>
      let model ← startModel h provider (o.model.getD c.defaultModel)
      let r : Repl :=
        { session, provider, model, policy := .ofConfig c.ingest
          home := Config.home env.toEnvironment, transcripts := c.transcriptDirectory }
      let r ← o.load.foldlM (fun r path => r.showLoad h path) r
      match o.message with
      | some query =>
        let _ ← r.ask h query
        return .stop success
      | none =>
        h.print (Screen.banner (network env) provider.name model r.session)
        return .converse r

/-- The report of a line that is no text. -/
def shownUnreadable (line : Bytes) (flaw : Utf8.Flaw) : String :=
  let error :=
    Text.shownRecord "Utf8Error"
      [("valid_up_to", toString flaw.validUpTo),
        ("error_len", Text.shownOption id (flaw.length.map toString))]
  let bytes := Text.shownList id (line.map fun b => toString b.toNat)
  Text.shownRecord "Custom"
    [("kind", "InvalidData"),
      ("error", Text.shownRecord "FromUtf8Error" [("bytes", bytes), ("error", error)])]

/-- Ends a conversation. -/
def finish : Repl.Ending → m UInt32
  | .farewell => do
    h.print Screen.farewell
    return success
  | .unreadable line flaw => fail h (shownUnreadable line flaw)

/-! ## The other commands -/

/-- Lists the models of the default provider. -/
def models (env : Environment) : m UInt32 := do
  match ← backend h env with
  | .error e => fail h (Text.quoted e)
  | .ok (c, provider) =>
    match ← provider.listModels h.send with
    | .error e => fail h (Text.quoted ("Cannot reach " ++ provider.name ++ ": " ++ e.message))
    | .ok [] =>
      h.print (Screen.lines ["  " ++ provider.name ++ " reports no models."])
      return success
    | .ok models =>
      let mark (model : String) : String := if model = c.defaultModel then " (default)" else ""
      h.print (Screen.lines
        (("  Models on " ++ provider.name ++ ":") ::
          models.map fun model => "    " ++ model ++ mark model))
      return success

/-- Makes the directory of the configuration, unless something stands there. -/
def prepareDirectory (directory : String) : m (Except FileError Unit) := do
  if (← h.look directory).isSome then
    h.print (Screen.lines ["  Config directory exists: " ++ directory])
    return .ok ()
  else
    match ← h.makeDirs directory with
    | .error e => return .error e
    | .ok () =>
      h.print (Screen.lines ["✅ Created config directory: " ++ directory])
      return .ok ()

/-- Writes the default configuration, unless something stands there. -/
def prepareFile (path : String) : m (Except FileError Unit) := do
  if (← h.look path).isSome then
    h.print (Screen.lines
      ["", "⚠️  Config already exists at: " ++ path,
        "   Edit it manually or delete and re-run onboard.", ""])
    return .ok ()
  else
    match ← h.write path Config.defaultDocument with
    | .error e => return .error e
    | .ok () =>
      h.print (Screen.lines
        ["✅ Created config.toml at: " ++ path, "", "📝 Next steps:",
          "   1. Start Ollama (or set default_provider and api_key for a hosted backend)",
          "   2. Run: cockpit chat --load ./src", "   3. Ask about your code!", ""])
      return .ok ()

/-- Sets up the configuration file. -/
def onboard (env : Environment) : m UInt32 := do
  let config := env.toEnvironment
  h.print (Screen.lines ["Cockpit — First-Time Setup", "==========================", ""])
  match ← prepareDirectory h (Config.directory config) with
  | .error e => fail h e.shown
  | .ok () =>
    match ← prepareFile h (Config.path config) with
    | .error e => fail h e.shown
    | .ok () =>
      h.print (Screen.lines ["Setup complete. Run `cockpit chat` to start.", ""])
      return success

/-! ## All of it -/

/-- Does what the arguments ask for, up to the first line of a conversation. -/
def start (env : Environment) (arguments : List String) : m Start := do
  match Invocation.ofArguments arguments with
  | .chat options => chat h env options
  | .onboard => return .stop (← onboard h env)
  | .models => return .stop (← models h env)
  | .help topic =>
    h.print topic.page
    return .stop success
  | .version =>
    h.print (Screen.lines ["cockpit 0.1.0"])
    return .stop success
  | .misuse =>
    h.complain Topic.program.page
    return .stop misused

/-- Runs the program on the lines of its input. -/
def run (env : Environment) (arguments : List String) (input : List Bytes) : m UInt32 := do
  match ← start h env arguments with
  | .stop code => return code
  | .converse r =>
    let (_, ending) ← r.run h input
    finish h ending

end Program
end FileChat
