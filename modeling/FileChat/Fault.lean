import FileChat.Json.Fault

/-!
# Faults

What can go wrong, by the part in which it does, and the one wording of each.
-/

namespace FileChat

/-- Faults of the backend or of the way to it. -/
inductive ProviderError where
  | api (status : Nat) (message : String)
  | rateLimited (retryAfterSeconds : Nat)
  | authenticationFailed (message : String)
  | modelNotFound (model : String)
  | streamInterrupted (reason : String)
  | notConfigured (what : String)
  | timeout (what : String)
  | network (reason : String)
  deriving DecidableEq, Repr

def ProviderError.message : ProviderError → String
  | api status message =>
    "API request failed: " ++ message ++ " (status: " ++ toString status ++ ")"
  | rateLimited seconds => "Rate limited by provider, retry after " ++ toString seconds ++ "s"
  | authenticationFailed message => "Authentication failed: " ++ message
  | modelNotFound model => "Model not found: " ++ model
  | streamInterrupted reason => "Stream interrupted: " ++ reason
  | notConfigured what => "Provider not configured: " ++ what
  | timeout what => "Request timed out: " ++ what
  | network reason => "Network error: " ++ reason

/-- Questions that a session refuses before it does any work. -/
inductive SessionError where
  | emptyQuery
  | busy (state : String)
  deriving DecidableEq, Repr

def SessionError.message : SessionError → String
  | emptyQuery => "Query is empty"
  | busy state => "A generation is already " ++ state

/-- Faults of loading a path as a whole. -/
inductive LoadError where
  | notFound (path : String)
  | walk (path reason : String)
  deriving DecidableEq, Repr

def LoadError.message : LoadError → String
  | notFound path => "Path not found: " ++ path
  | walk path reason => "Failed to walk " ++ path ++ ": " ++ reason

/-- Faults of the configuration. -/
inductive ConfigError where
  | read (path reason : String)
  | parse (path reason : String)
  | validation (reason : String)
  deriving DecidableEq, Repr

def ConfigError.message : ConfigError → String
  | read path reason => "Failed to read config file at " ++ path ++ ": " ++ reason
  | parse path reason => "Failed to parse config file at " ++ path ++ ": " ++ reason
  | validation reason => "Configuration validation failed: " ++ reason

/-- Any fault, with the part of the program it comes from. -/
inductive Fault where
  | provider (e : ProviderError)
  | session (e : SessionError)
  | config (message : String)
  | serialization (e : Json.Fault)
  | internal (message : String)
  deriving DecidableEq, Repr

def Fault.message : Fault → String
  | provider e => "Provider error: " ++ e.message
  | session e => "Session error: " ++ e.message
  | config message => "Configuration error: " ++ message
  | serialization e => "Serialization error: " ++ e.message
  | internal message => "Internal error: " ++ message

end FileChat
