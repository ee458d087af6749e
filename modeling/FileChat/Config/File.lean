import FileChat.Config.Document
import FileChat.Files.System
import FileChat.Path
import FileChat.Text.Utf8
import FileChat.Toml.Document
import FileChat.Toml.Writer

/-!
# The configuration file

A configuration comes from a file, which need not be there, and from the environment, which gives
way to the file's key but not to its choice of backend and model.
-/

namespace FileChat.Config

/-- What stands at the path of the configuration file. -/
inductive FileState where
  | missing
  | bytes (content : List UInt8)
  /-- Something that cannot be read, and why. -/
  | unreadable (reason : String)

/-- What a file tree holds as a configuration file. -/
def FileState.ofTree : Option FileTree → FileState
  | none => .missing
  | some (.file content) => .bytes content
  | some (.dir _) => .unreadable FileError.isDirectory.message
  | some (.link _) | some .device => .bytes []

/-- The variables that matter. -/
structure Environment where
  home : Option String := none
  apiKey : Option String := none
  provider : Option String := none
  model : Option String := none
  deriving DecidableEq, Repr, Inhabited

def invalidText : String := "stream did not contain valid UTF-8"

/-- The configuration in a file. A missing file is the default one. -/
def ofFile (path : String) : FileState → Except ConfigError Config
  | .missing => .ok {}
  | .unreadable reason => .error (.read path reason)
  | .bytes content =>
    match Utf8.decode? content with
    | none => .error (.read path invalidText)
    | some cs =>
      match (Toml.read (String.ofList cs)).bind ofDocument? with
      | none => .error (.parse path "invalid document")
      | some c => c.validate

/-- The configuration with what the environment sets. -/
def withEnvironment (c : Config) (env : Environment) : Config :=
  { c with
    apiKey := c.apiKey <|> env.apiKey
    defaultProvider := env.provider.getD c.defaultProvider
    defaultModel := env.model.getD c.defaultModel }

/-- The home directory. -/
def home (env : Environment) : String := env.home.getD "/tmp"

/-- Where the program keeps its files. -/
def directory (env : Environment) : String := Path.join (home env) ".cockpit"

/-- Where the configuration file is. -/
def path (env : Environment) : String := Path.join (directory env) "config.toml"

/-- The configuration of a file and an environment. -/
def load (env : Environment) (file : FileState) : Except ConfigError Config :=
  (ofFile (path env) file).map (·.withEnvironment env)

/-- The document that a set-up begins with. -/
def defaultDocument : String := Toml.write (toDocument {})

end FileChat.Config
