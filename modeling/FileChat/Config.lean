import FileChat.Fault
import FileChat.Number.Binary

/-!
# Configuration

What a user may set, and what holds where nothing is set.
-/

namespace FileChat

/-- What is set for one backend. -/
structure ProviderTable where
  apiKey : Option String := none
  apiUrl : Option String := none
  defaultModel : Option String := none
  deriving DecidableEq, Repr, Inhabited

structure ContextConfig where
  mode : String := "smart"
  maxContextTokens : Nat := 8000
  maxHistoryTokens : Nat := 4000
  relevanceThreshold : UInt32 := 40
  /-- In place of the built-in preamble. -/
  systemPrompt : Option String := none
  deriving DecidableEq, Repr, Inhabited

def defaultExtensions : List String :=
  [".py", ".js", ".ts", ".tsx", ".java", ".cpp", ".c", ".h", ".rs", ".go", ".rb", ".php", ".sh",
    ".bash", ".md", ".json", ".yaml", ".yml", ".toml", ".xml", ".html", ".css", ".sql",
    ".dockerfile", ".txt"]

def defaultExcludedDirs : List String :=
  [".git", "__pycache__", "node_modules", "venv", ".venv", "dist", "build", ".idea", ".vscode"]

def defaultExcludedFiles : List String := [".env", "id_rsa", "secrets.yaml", ".DS_Store"]

/-- Which files a load takes. -/
structure IngestConfig where
  /-- Extensions with their dots, in lower case. -/
  allowedExtensions : List String := defaultExtensions
  /-- Names of directories that are not entered. -/
  excludeDirs : List String := defaultExcludedDirs
  /-- Names of files that are never taken. -/
  excludeFiles : List String := defaultExcludedFiles
  /-- The bytes above which a file is a failure. -/
  maxFileSize : Nat := 5 * 1024 * 1024
  /-- The entries that one load gives at most. -/
  maxFiles : Nat := 300
  deriving DecidableEq, Repr, Inhabited

structure Config where
  apiKey : Option String := none
  defaultProvider : String := "ollama"
  defaultModel : String := "llama3"
  defaultTemperature : Binary := Binary.ofDecimal .binary32 false 7 (-1)
  defaultMaxTokens : Option UInt32 := none
  context : ContextConfig := {}
  ingest : IngestConfig := {}
  /-- Where transcripts are written. -/
  transcriptDirectory : String := "."
  /-- What is set for backends, by name; no name stands twice. -/
  providers : List (String × ProviderTable) := []
  deriving DecidableEq, Repr, Inhabited

namespace Config

def contextModes : List String := ["smart", "full", "summary"]

/-- Whether a temperature lies outside 0 to 2. -/
def badTemperature (t : Binary) : Bool := t.lt (.ofNat 0) || (Binary.ofNat 2).lt t

/-- The first setting out of its range, if any. -/
def flaw (c : Config) : Option String :=
  if badTemperature c.defaultTemperature then
    some "default_temperature must be between 0.0 and 2.0"
  else if c.context.mode ∉ contextModes then
    some ("context.mode must be one of " ++ ", ".intercalate contextModes ++ ", got '" ++
      c.context.mode ++ "'")
  else if c.context.maxContextTokens = 0 ∨ c.context.maxHistoryTokens = 0 then
    some "context token budgets must be > 0"
  else if c.ingest.maxFiles = 0 then some "ingest.max_files must be > 0"
  else none

/-- The configuration, if all its settings are in range. -/
def validate (c : Config) : Except ConfigError Config :=
  match c.flaw with
  | some reason => .error (.validation reason)
  | none => .ok c

/-- What is set for a backend, if it has a table. -/
def provider? (c : Config) (name : String) : Option ProviderTable := c.providers.lookup name

end Config
end FileChat
