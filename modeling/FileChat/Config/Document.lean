import FileChat.Config
import FileChat.Toml.Value

/-!
# Configurations as documents

A section may leave out any of its settings and may hold others, which are passed over. A list in
the place of a section holds its settings in their order.
-/

namespace FileChat.Config

open Toml (Value)

/-- The values that stand for the settings of a section. -/
def settingsOf (names : List String) : Value → Option (List (Option Value))
  | .table entries => some (names.map fun name => List.lookup name entries)
  | .array items => some ((List.range names.length).map (items[·]?))
  | .datetime _ => some (names.map fun _ => none)
  | _ => none

/-- A setting that may be missing. -/
def given {α : Type} (read : Value → Option α) : Option Value → Option (Option α)
  | none => some none
  | some v => (read v).map some

/-- A setting that has a default. -/
def givenOr {α : Type} (default : α) (read : Value → Option α) (v : Option Value) : Option α :=
  (given read v).map (·.getD default)

def text? : Value → Option String
  | .string s => some s
  | _ => none

def texts? : Value → Option (List String)
  | .array items => items.mapM text?
  | _ => none

/-- A whole number below a limit. -/
def natBelow? (limit : Nat) : Value → Option Nat
  | .integer n => if 0 ≤ n ∧ n < limit then some n.toNat else none
  | _ => none

def size? : Value → Option Nat := natBelow? UInt64.size

def word32? (v : Value) : Option UInt32 := (natBelow? UInt32.size v).map Nat.toUInt32

def real32? : Value → Option Binary
  | .float x => some (x.narrow .binary32)
  | .integer n => some (Binary.ofInt .binary32 n)
  | _ => none

def contextOf? (v : Value) : Option ContextConfig := do
  match ← settingsOf ["mode", "max_context_tokens", "max_history_tokens", "relevance_threshold",
      "system_prompt"] v with
  | [mode, maxContext, maxHistory, threshold, prompt] =>
    let d : ContextConfig := {}
    pure
      { mode := ← givenOr d.mode text? mode
        maxContextTokens := ← givenOr d.maxContextTokens size? maxContext
        maxHistoryTokens := ← givenOr d.maxHistoryTokens size? maxHistory
        relevanceThreshold := ← givenOr d.relevanceThreshold word32? threshold
        systemPrompt := ← given text? prompt }
  | _ => none

def ingestOf? (v : Value) : Option IngestConfig := do
  match ← settingsOf ["allowed_extensions", "exclude_dirs", "exclude_files", "max_file_size",
      "max_files"] v with
  | [extensions, dirs, files, maxSize, maxFiles] =>
    let d : IngestConfig := {}
    pure
      { allowedExtensions := ← givenOr d.allowedExtensions texts? extensions
        excludeDirs := ← givenOr d.excludeDirs texts? dirs
        excludeFiles := ← givenOr d.excludeFiles texts? files
        maxFileSize := ← givenOr d.maxFileSize size? maxSize
        maxFiles := ← givenOr d.maxFiles size? maxFiles }
  | _ => none

/-- The directory of transcripts. -/
def transcriptOf? (v : Value) : Option String := do
  match ← settingsOf ["directory"] v with
  | [directory] => givenOr "." text? directory
  | _ => none

def providerOf? (v : Value) : Option ProviderTable := do
  match ← settingsOf ["api_key", "api_url", "default_model"] v with
  | [key, url, model] =>
    pure
      { apiKey := ← given text? key
        apiUrl := ← given text? url
        defaultModel := ← given text? model }
  | _ => none

/-- The tables of backends; only a table holds them. -/
def providersOf? : Value → Option (List (String × ProviderTable))
  | .table entries => entries.mapM fun (name, v) => (providerOf? v).map (name, ·)
  | _ => none

/-- The configuration that a document stands for. -/
def ofDocument? (v : Value) : Option Config := do
  match ← settingsOf ["api_key", "default_provider", "default_model", "default_temperature",
      "default_max_tokens", "context", "ingest", "transcript", "providers"] v with
  | [key, provider, model, temperature, maxTokens, context, ingest, transcript, providers] =>
    let d : Config := {}
    pure
      { apiKey := ← given text? key
        defaultProvider := ← givenOr d.defaultProvider text? provider
        defaultModel := ← givenOr d.defaultModel text? model
        defaultTemperature := ← givenOr d.defaultTemperature real32? temperature
        defaultMaxTokens := ← given word32? maxTokens
        context := ← givenOr d.context contextOf? context
        ingest := ← givenOr d.ingest ingestOf? ingest
        transcriptDirectory := ← givenOr d.transcriptDirectory transcriptOf? transcript
        providers := ← givenOr d.providers providersOf? providers }
  | _ => none

/-! ## Writing -/

/-- A setting that is left out where nothing is set. -/
def setting (name : String) (v : Option Value) : List (String × Value) :=
  (v.map fun v => (name, v)).toList

def textList (items : List String) : Value := .array (items.map .string)

def providerDocument (p : ProviderTable) : Value :=
  .table (setting "api_key" (p.apiKey.map .string) ++ setting "api_url" (p.apiUrl.map .string) ++
    setting "default_model" (p.defaultModel.map .string))

/-- The document of a configuration: plain settings first, then the sections. -/
def toDocument (c : Config) : List (String × Value) :=
  setting "api_key" (c.apiKey.map .string) ++
  [("default_provider", .string c.defaultProvider),
    ("default_model", .string c.defaultModel),
    ("default_temperature", .float c.defaultTemperature)] ++
  setting "default_max_tokens" (c.defaultMaxTokens.map fun n => .integer n.toNat) ++
  [("context", .table
      ([("mode", .string c.context.mode),
        ("max_context_tokens", .integer c.context.maxContextTokens),
        ("max_history_tokens", .integer c.context.maxHistoryTokens),
        ("relevance_threshold", .integer c.context.relevanceThreshold.toNat)] ++
       setting "system_prompt" (c.context.systemPrompt.map .string))),
    ("ingest", .table
      [("allowed_extensions", textList c.ingest.allowedExtensions),
        ("exclude_dirs", textList c.ingest.excludeDirs),
        ("exclude_files", textList c.ingest.excludeFiles),
        ("max_file_size", .integer c.ingest.maxFileSize),
        ("max_files", .integer c.ingest.maxFiles)]),
    ("transcript", .table [("directory", .string c.transcriptDirectory)]),
    ("providers", .table (c.providers.map fun (name, p) => (name, providerDocument p)))]

end FileChat.Config
