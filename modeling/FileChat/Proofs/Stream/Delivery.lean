import FileChat.Proofs.Stream.Completion
import Mathlib.Data.List.Forall2

/-!
# Texts that are delivered

Texts go over the wire as the contents of chunk objects, each the data of one event, and come out
of the reader as the deltas of the reply. Nothing is done to them on the way: what their JSON texts
spell is read back, no blank of theirs is cut off, none is taken for the end mark, and the cuts
between the pieces of the body are not seen.
-/
namespace FileChat.EventStream

open ByteLines (lineFeed terminated)
open Json (Value)

/-- The object of a chunk with a content and nothing else. -/
def deltaJson (text : String) : Value :=
  .object [("choices", .array [.object [("delta", .object [("content", .string text)])]])]

/-- An event with some data: `data: `, the data, the end of that line and an empty line. -/
def eventText (data : List Char) : List Char := dataField ++ ' ' :: (data ++ ['\n', '\n'])

/-- The bytes of events with some data, and of the one with the end mark. -/
def written (data : List (List Char)) : Bytes :=
  Utf8.encode (data.flatMap eventText ++ eventText endMark.toList)

def contentOf (text : String) : Payload := ⟨some text, none⟩

/-- The lines of events: the field, and the empty line. -/
def eventLines (data : List (List Char)) : List Bytes :=
  data.flatMap fun t => [Utf8.encode (dataField ++ ' ' :: t), []]

theorem encode_eventText (data : List Char) : Utf8.encode (eventText data) =
    terminated [Utf8.encode (dataField ++ ' ' :: data), []] := by
  have hfront : eventText data = (dataField ++ ' ' :: data) ++ ['\n', '\n'] := by
    rw [eventText, List.append_assoc, List.cons_append]
  have hfeeds : Utf8.encode ['\n', '\n'] = [lineFeed] ++ [lineFeed] := by decide
  rw [hfront, Utf8.encode_append, hfeeds, ← List.append_assoc]
  simp only [terminated, List.flatMap_cons, List.flatMap_nil, List.nil_append, List.append_nil]

theorem encode_events (data : List (List Char)) :
    Utf8.encode (data.flatMap eventText) = terminated (eventLines data) := by
  induction data with
  | nil => rfl
  | cons t data ih =>
    rw [List.flatMap_cons, Utf8.encode_append, encode_eventText, ih, ← ByteLines.terminated_append]
    rfl

theorem written_eq (data : List (List Char)) :
    written data = terminated (eventLines data ++ [endLine]) ++ [lineFeed] := by
  have hend : Utf8.encode (eventText endMark.toList) = terminated [endLine] ++ [lineFeed] := by
    decide
  rw [written, Utf8.encode_append, encode_events, hend, ByteLines.terminated_append,
    List.append_assoc]

/-- Events with the texts of chunk objects are chunk lines, with an empty line after each. -/
theorem chunkLines_eventLines {texts : List String} {data : List (List Char)}
    (h : List.Forall₂ (fun text t => Json.Writes (deltaJson text) t) texts data) :
    ChunkLines (eventLines data) (texts.map contentOf) := by
  induction h with
  | nil => exact .nil
  | @cons text t texts data hwrites _ ih =>
    have hcarries : Carries (Utf8.encode (dataField ++ ' ' :: t)) (contentOf text) :=
      carries_of_writes hwrites
    exact .chunk hcarries (.silent List.not_mem_nil (.inl rfl) ih)

theorem upToUsage_contents (texts : List String) :
    upToUsage (texts.map contentOf) = texts.map contentOf := by
  induction texts with
  | nil => rfl
  | cons text texts ih =>
    rw [List.map_cons, upToUsage, ih]
    rfl

theorem completedReply_contents {texts : List String} (h : ∀ text ∈ texts, text ≠ "") :
    completedReply (texts.map contentOf) =
      ⟨.completed, String.join texts, texts.length, texts, none, none⟩ := by
  have hcontents : contents (texts.map contentOf) = texts := by
    rw [contents, List.filterMap_map]
    exact List.filterMap_some
  have hdeltas : texts.filter (· ≠ "") = texts := List.filter_eq_self.mpr (by simpa using h)
  have husage : (texts.map contentOf).filterMap (·.usage) = [] := by
    rw [List.filterMap_map]
    exact List.filterMap_eq_nil_iff.mpr fun _ _ => rfl
  rw [completedReply, hcontents, hdeltas, husage]
  rfl

/-- The writer's texts are JSON texts of the objects. -/
theorem writes_deltaJson (texts : List String) :
    List.Forall₂ (fun text t => Json.Writes (deltaJson text) t) texts
      (texts.map fun text => (deltaJson text).text) := by
  rw [List.forall₂_map_right_iff, List.forall₂_same]
  intro text _
  exact Json.writes_text (exact_chunkJson (contentOf text))

end FileChat.EventStream

namespace FileChat.Provider

open EventStream (deltaJson written)

variable {m : Type → Type} [Monad m] [LawfulMonad m] {send : HttpRequest → m HttpAnswer}

/-- Texts that are not empty, written as events whose data are JSON texts of their chunk objects,
are the deltas of the reply, whose text they make together: whatever characters they have, however
the JSON texts spell them, and however the body is cut. The writer's JSON texts are such texts. -/
theorem answer_written (p : Provider) (r : ChatRequest) (request : HttpRequest)
    (response : HttpResponse) (texts : List String) (data : List (List Char))
    (hrequest : p.streamRequest r = .ok request)
    (hsend : send request = pure (.response response)) (hstatus : response.status = 200)
    (hne : ∀ text ∈ texts, text ≠ "")
    (hdata : List.Forall₂ (fun text t => Json.Writes (deltaJson text) t) texts data)
    (hbody : response.pieces.flatten = written data) :
    (∃ stream, p.answer send r = pure (.opened stream) ∧
      Reply.consume .never stream =
        .ended ⟨.completed, String.join texts, texts.length, texts, none, none⟩) ∧
    List.Forall₂ (fun text t => Json.Writes (deltaJson text) t) texts
      (texts.map fun text => (deltaJson text).text) := by
  have hlines := EventStream.chunkLines_eventLines hdata
  have hframed := hbody.trans (EventStream.written_eq data)
  have hconsume := EventStream.consume_chunkLines hlines hframed response.broken
  rw [EventStream.upToUsage_contents, EventStream.completedReply_contents hne] at hconsume
  have hopened := answer_eq_opened hrequest hsend hstatus
  exact ⟨⟨_, hopened, hconsume⟩, EventStream.writes_deltaJson texts⟩

/-- Quotes, a line end, a character of two surrogates, blanks at the ends and the end mark itself,
in a body that comes byte by byte. -/
theorem answer_written_bytes :
    let texts := ["\"\\\n\x00", " 😀 ", "[DONE]"]
    let body := written (texts.map fun text => (deltaJson text).text)
    let send : HttpRequest → Id HttpAnswer :=
      fun _ => .response ⟨200, body.map fun byte => [byte], false⟩
    ∃ stream, answer send ⟨"local", "http://h", "k"⟩ ⟨"m", [], defaultTemperature, none⟩ =
        .opened stream ∧
      Reply.consume .never stream =
        .ended ⟨.completed, "\"\\\n\x00 😀 [DONE]", 3, texts, none, none⟩ := by
  intro texts body send
  have hdata := EventStream.writes_deltaJson texts
  have hbody : (body.map fun byte => [byte]).flatten = body := by
    rw [← List.flatMap_def, List.flatMap_singleton']
  have hne : ∀ text ∈ texts, text ≠ "" := by decide
  obtain ⟨request, hrequest⟩ := exists_streamRequest_local
  have hsend : send request = pure (.response ⟨200, body.map fun byte => [byte], false⟩) := rfl
  exact (answer_written _ _ request _ texts _ hrequest hsend rfl hne hdata hbody).1

end FileChat.Provider
