import FileChat.Backend.Provider
import FileChat.Config

/-!
# The providers of a configuration

Every table makes a provider, and the default provider is there with or without one. What a table
leaves open comes from the configuration's own key and from what is known of the name. No provider
takes anything from the table of another.
-/

namespace FileChat

/-- The providers in the order of their names, and the name of the one that is asked. -/
structure Registry where
  providers : List Provider
  defaultName : String
  deriving DecidableEq, Repr

namespace Registry

/-- Where a backend of that name usually is; any other is taken to be the local one. -/
def wellKnownUrl (name : String) : String :=
  match name with
  | "openrouter" => "https://openrouter.ai/api/v1"
  | "openai" => "https://api.openai.com/v1"
  | "groq" => "https://api.groq.com/openai/v1"
  | "vllm" => "http://localhost:8000/v1"
  | "llamacpp" | "llama.cpp" => "http://localhost:8080/v1"
  | "lmstudio" => "http://localhost:1234/v1"
  | _ => Provider.ollamaUrl

/-- The key of a backend for which none is set. -/
def usualKey (name : String) : String := if name = "ollama" then "ollama" else ""

/-- The provider of a table. -/
def ofTable (c : Config) (name : String) (table : ProviderTable) : Provider :=
  .new name (table.apiUrl.getD (wellKnownUrl name))
    ((table.apiKey <|> c.apiKey).getD (usualKey name))

/-- The tables, with an empty one for the default provider if it has none. -/
def tables (c : Config) : List (String × ProviderTable) :=
  match c.provider? c.defaultProvider with
  | some _ => c.providers
  | none => (c.defaultProvider, {}) :: c.providers

def ofConfig (c : Config) : Registry :=
  { providers := ((tables c).map fun (name, table) => ofTable c name table).mergeSort
      fun a b => !decide (b.name < a.name)
    defaultName := c.defaultProvider }

/-- The provider of a name. -/
def get? (r : Registry) (name : String) : Option Provider := r.providers.find? (·.name == name)

/-- The provider that is asked. -/
def default? (r : Registry) : Option Provider := r.get? r.defaultName

end Registry
end FileChat
