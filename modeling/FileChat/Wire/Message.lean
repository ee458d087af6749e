import FileChat.Wire.Basic

/-!
# Messages and requests on the wire
-/

namespace FileChat

/-- A message as it is kept: with an identity and the time at which it was made. -/
structure MessageRecord where
  id : String
  role : Role
  content : String
  timestamp : Timestamp
  deriving DecidableEq

/-- A request as it is kept. -/
structure RequestRecord where
  model : String
  messages : List MessageRecord
  temperature : Binary
  maxTokens : Option UInt32
  deriving DecidableEq

namespace Wire

open Json

instance : Wire MessageRecord where
  toJson m := .object
    [("id", .string m.id), ("role", toJson m.role), ("content", .string m.content),
      ("timestamp", toJson m.timestamp)]
  ofJson? v := do
    match ← slots? ["id", "role", "content", "timestamp"] v with
    | [id, role, content, timestamp] =>
      pure
        { id := ← id.required string?
          role := ← role.required ofJson?
          content := ← content.required string?
          timestamp := ← timestamp.required ofJson? }
    | _ => none

instance : Wire RequestRecord where
  toJson r := .object
    ([("model", .string r.model), ("messages", .array (r.messages.map toJson)),
      ("temperature", .real .binary32 r.temperature)] ++
      member "max_tokens" (r.maxTokens.map fun n => ofNat n.toNat))
  ofJson? v := do
    match ← slots? ["model", "messages", "temperature", "max_tokens"] v with
    | [model, messages, temperature, maxTokens] =>
      pure
        { model := ← model.required string?
          messages := ← messages.required (list? ofJson?)
          temperature := ← temperature.orElse defaultTemperature real32?
          maxTokens := ← maxTokens.orElse none (Slot.orNull word32?) }
    | _ => none

instance : Wire Usage where
  toJson u := .object
    [("prompt_tokens", ofNat u.promptTokens.toNat),
      ("completion_tokens", ofNat u.completionTokens.toNat),
      ("total_tokens", ofNat u.totalTokens.toNat)]
  ofJson? v := do
    match ← slots? ["prompt_tokens", "completion_tokens", "total_tokens"] v with
    | [prompt, completion, total] =>
      pure ⟨← prompt.required word32?, ← completion.required word32?, ← total.required word32?⟩
    | _ => none

instance : Wire Chunk where
  toJson c := .object
    ([("content", Json.ofOption .string c.content), ("done", .bool c.done)] ++
      member "usage" (c.usage.map toJson))
  ofJson? v := do
    match ← slots? ["content", "done", "usage"] v with
    | [content, done, usage] =>
      pure
        { content := ← content.orElse none (Slot.orNull string?)
          done := ← done.orElse false bool?
          usage := ← usage.orElse none (Slot.orNull ofJson?) }
    | _ => none

end Wire
end FileChat
