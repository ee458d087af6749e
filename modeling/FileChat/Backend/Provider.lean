import FileChat.Backend.EventStream
import FileChat.Backend.Http
import FileChat.Json.Writer
import FileChat.Url

/-!
# Providers

A backend that answers chat completions: what is sent to it, and how its responses are read. The
transport is whatever takes a request and gives what comes back.
-/

namespace FileChat

structure Provider where
  name : String
  /-- Without slashes at its end. -/
  baseUrl : String
  apiKey : String
  deriving DecidableEq, Repr, Inhabited

namespace Provider

def ollamaUrl : String := "http://localhost:11434/v1"

def withoutSlashes (url : String) : String :=
  String.ofList (url.toList.reverse.dropWhile (· == '/')).reverse

def new (name baseUrl apiKey : String) : Provider := ⟨name, withoutSlashes baseUrl, apiKey⟩

def openRouter (apiKey : String) : Provider :=
  new "openrouter" "https://openrouter.ai/api/v1" apiKey

def openAi (apiKey : String) : Provider := new "openai" "https://api.openai.com/v1" apiKey

/-- A local backend, which asks for no key. -/
def ollama (baseUrl : Option String) : Provider := new "ollama" (baseUrl.getD ollamaUrl) "ollama"

/-! ## Requests -/

open Json (Value)

def messageJson (m : Message) : Value :=
  .object [("content", .string m.content), ("role", .string m.role.name)]

/-- The body of a request, its members in the order of their names. -/
def requestJson (r : ChatRequest) : Value :=
  .object
    (Json.member "max_tokens" (r.maxTokens.map fun n => Json.ofNat n.toNat) ++
      [("messages", .array (r.messages.map messageJson)),
        ("model", .string r.model),
        ("stream", .bool true),
        ("stream_options", .object [("include_usage", .bool true)]),
        ("temperature", .real .binary64 r.temperature)])

def builderError : ProviderError := .network "builder error"

/-- The fault of an address to which no request can go. -/
def foreignError (url : String) : ProviderError :=
  .network ("builder error for url (" ++ url ++ ")")

/-- The address under the base URL and the value of the key's header, if both can be sent. -/
def target (p : Provider) (path : String) : Except ProviderError (String × String) :=
  let authorization := "Bearer " ++ p.apiKey
  match WebUrl.ofText (p.baseUrl ++ path) with
  | .error .invalid => .error builderError
  | .error (.foreign url false) => .error (foreignError url)
  | .error (.foreign url true) =>
    .error (if isHeaderValue authorization then foreignError url else builderError)
  | .ok url =>
    if isHeaderValue authorization then .ok (url.text, authorization) else .error builderError

/-- The request for a streamed reply. -/
def streamRequest (p : Provider) (r : ChatRequest) : Except ProviderError HttpRequest :=
  (p.target "/chat/completions").map fun (url, authorization) =>
    { method := "POST", url, authorization
      contentType := some "application/json"
      accept := some "text/event-stream"
      body := some (requestJson r).toText }

/-- The request for the list of models. -/
def modelsRequest (p : Provider) : Except ProviderError HttpRequest :=
  (p.target "/models").map fun (url, authorization) => { method := "GET", url, authorization }

/-! ## Responses -/

/-- The response that came, or the fault of having none. -/
def received (request : HttpRequest) : HttpAnswer → Except ProviderError HttpResponse
  | .response r => .ok r
  | .unreachable => .error (.network ("error sending request for url (" ++ request.url ++ ")"))
  | .timedOut => .error (.timeout ("error sending request for url (" ++ request.url ++ ")"))

def invalidKey : String := "Invalid API key or insufficient permissions"

/-- The seconds after which a request may be repeated that came too soon. -/
def retryAfter : Nat := 5

/-- The text of a body; nothing if the connection broke. -/
def bodyText (r : HttpResponse) : String :=
  String.ofList (Utf8.decodeReplacing (r.body?.getD []))

/-- The items of a response to a request for a reply. -/
def itemsOf (model : String) (r : HttpResponse) : Except ProviderError (List Item) :=
  if r.status = 429 then .error (.rateLimited retryAfter)
  else if r.status = 401 ∨ r.status = 403 then .error (.authenticationFailed invalidKey)
  else if r.status = 404 then .error (.modelNotFound model)
  else if r.status ≠ 200 then .error (.api r.status (bodyText r))
  else .ok (EventStream.items r.pieces r.broken)

/-- The models of a response; none of one that is no success. -/
def modelsOf (r : HttpResponse) : Except ProviderError (List String) :=
  if !r.isSuccess then .ok []
  else
    match r.body?.bind Utf8.decode? with
    | none => .error (.network EventStream.brokenBody)
    | some text =>
      match (Value.ofText? (String.ofList text)).bind modelIds? with
      | some ids => .ok ids
      | none => .error (.network EventStream.brokenBody)
where
  /-- The identifiers in a list of models. -/
  modelIds? (v : Value) : Option (List String) := do
    match ← Json.slots? ["data"] v with
    | [data] => data.orElse [] (Json.list? fun m => do
        match ← Json.slots? ["id"] m with
        | [id] => id.required Json.string?
        | _ => none)
    | _ => none

/-! ## Calls -/

section Calls

variable {m : Type → Type} [Monad m] (send : HttpRequest → m HttpAnswer)

/-- Sends a request, if there is one to send, and reads the response. -/
def call {α : Type} (request : Except ProviderError HttpRequest)
    (read : HttpResponse → Except ProviderError α) : m (Except ProviderError α) :=
  match request with
  | .error e => pure (.error e)
  | .ok request => do return received request (← send request) >>= read

/-- Asks for a reply. -/
def stream (p : Provider) (r : ChatRequest) : m (Except ProviderError (List Item)) :=
  call send (p.streamRequest r) (itemsOf r.model)

/-- Asks which models there are. -/
def listModels (p : Provider) : m (Except ProviderError (List String)) :=
  call send p.modelsRequest modelsOf

/-- Asks whether the backend is well. -/
def isHealthy (p : Provider) : m (Except ProviderError Bool) :=
  call send p.modelsRequest fun r => .ok r.isSuccess

/-- Asks for a reply, as a session sees it. -/
def answer (p : Provider) (r : ChatRequest) : m Opening := do
  match ← p.stream send r with
  | .error e => return .refused e
  | .ok items => return .opened ⟨items, .closed⟩

end Calls

end Provider
end FileChat
