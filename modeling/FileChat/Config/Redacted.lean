import FileChat.Config
import FileChat.Number.Decimal
import FileChat.Text.Shown

/-!
# Configurations without their secrets

The text of a configuration for logs and error reports. Of an API key it says only whether there is
one.
-/

namespace FileChat.Config

open Text (quoted shownList shownOption shownRecord)

/-- What is shown in the place of a key. -/
def redacted : Option String → String
  | some _ => "[REDACTED]"
  | none => "None"

def shownProvider (p : ProviderTable) : String :=
  shownRecord "ProviderConfig"
    [("api_key", quoted (redacted p.apiKey)),
      ("api_url", shownOption quoted p.apiUrl),
      ("default_model", shownOption quoted p.defaultModel)]

def shownContext (c : ContextConfig) : String :=
  shownRecord "ContextConfig"
    [("mode", quoted c.mode),
      ("max_context_tokens", toString c.maxContextTokens),
      ("max_history_tokens", toString c.maxHistoryTokens),
      ("relevance_threshold", toString c.relevanceThreshold.toNat),
      ("system_prompt", shownOption quoted c.systemPrompt)]

def shownIngest (c : IngestConfig) : String :=
  shownRecord "IngestConfig"
    [("allowed_extensions", shownList quoted c.allowedExtensions),
      ("exclude_dirs", shownList quoted c.excludeDirs),
      ("exclude_files", shownList quoted c.excludeFiles),
      ("max_file_size", toString c.maxFileSize),
      ("max_files", toString c.maxFiles)]

/-- The whole configuration, its tables in the order given. -/
def shown (c : Config) : String :=
  let providers := c.providers.map fun (name, p) => quoted name ++ ": " ++ shownProvider p
  shownRecord "AppConfig"
    [("api_key", quoted (redacted c.apiKey)),
      ("default_provider", quoted c.defaultProvider),
      ("default_model", quoted c.defaultModel),
      ("default_temperature", Decimal.text Decimal.shown .binary32 c.defaultTemperature),
      ("default_max_tokens", shownOption id (c.defaultMaxTokens.map fun n => toString n.toNat)),
      ("context", shownContext c.context),
      ("ingest", shownIngest c.ingest),
      ("transcript", shownRecord "TranscriptConfig" [("directory", quoted c.transcriptDirectory)]),
      ("providers", "\x7b" ++ ", ".intercalate providers ++ "\x7d")]

end FileChat.Config
