import FileChat.Proofs.Stream.ChunkLines
import FileChat.Proofs.Stream.Consumption
import FileChat.Proofs.Stream.Discipline

/-!
# Replies that reach their end mark

A body of chunk lines up to the end mark makes a reply that is complete. A chunk that reports the
usage is taken for the last one, whether or not the end mark comes next: the reply has the contents
up to that chunk, its own included, and its usage, and what later lines carry is not received.
-/
namespace FileChat.EventStream

open ByteLines (terminated)
open StreamEvent (done?)

/-- The payloads up to the first that reports the usage, that one included. -/
def upToUsage : List Payload → List Payload
  | [] => []
  | p :: ps => if p.usage.isSome then [p] else p :: upToUsage ps

/-- The payloads after the first that reports the usage. -/
def afterUsage : List Payload → List Payload
  | [] => []
  | p :: ps => if p.usage.isSome then ps else afterUsage ps

def contents (payloads : List Payload) : List String := payloads.filterMap (·.content)

/-- The reply that all of some payloads would make. -/
def completedReply (payloads : List Payload) : Reply :=
  let deltas := (contents payloads).filter (· ≠ "")
  { status := .completed
    text := String.join (contents payloads)
    chunks := deltas.length
    deltas
    usage := (payloads.filterMap (·.usage)).getLast?
    error := none }

/-! ## The events up to the end -/

theorem Payload.findSome?_events (p : Payload) : p.events.findSome? done? = p.usage.map some := by
  rw [Payload.events, List.findSome?_append]
  cases p.content.filter (· ≠ "") with
  | none => cases p.usage <;> rfl
  | some text => cases p.usage <;> rfl

theorem Payload.deltasBeforeDone_events (p : Payload) :
    deltasBeforeDone p.events = (p.content.filter (· ≠ "")).toList := by
  rw [Payload.events]
  cases p.content.filter (· ≠ "") with
  | none => cases p.usage <;> rfl
  | some text => cases p.usage <;> rfl

theorem filter_contents_cons (p : Payload) (ps : List Payload) :
    (contents (p :: ps)).filter (· ≠ "") =
      (p.content.filter (· ≠ "")).toList ++ (contents ps).filter (· ≠ "") := by
  rw [contents, List.filterMap_cons]
  cases p.content with
  | none => rfl
  | some text =>
    by_cases htext : text = ""
    · simp [htext, contents, Option.filter]
    · simp [htext, contents, Option.filter]

/-- The stream ends at the first usage, and at the end mark if no usage is reported. -/
theorem findSome?_payloads (payloads : List Payload) (more : List StreamEvent) :
    (payloads.flatMap Payload.events ++ .done none :: more).findSome? done? =
      some (payloads.findSome? (·.usage)) := by
  induction payloads with
  | nil => rfl
  | cons p ps ih =>
    rw [List.flatMap_cons, List.append_assoc, List.findSome?_append, p.findSome?_events, ih,
      List.findSome?_cons]
    cases p.usage <;> rfl

theorem deltasBeforeDone_payloads (payloads : List Payload) (more : List StreamEvent) :
    deltasBeforeDone (payloads.flatMap Payload.events ++ .done none :: more) =
      (contents (upToUsage payloads)).filter (· ≠ "") := by
  induction payloads with
  | nil => rfl
  | cons p ps ih =>
    rw [List.flatMap_cons, List.append_assoc, deltasBeforeDone_append, p.findSome?_events, ih,
      p.deltasBeforeDone_events, upToUsage]
    cases p.usage with
    | none => exact (filter_contents_cons p (upToUsage ps)).symm
    | some usage => exact (filter_contents_cons p []).symm

/-! ## The reply -/

theorem join_filter_ne_empty (xs : List String) :
    String.join (xs.filter (· ≠ "")) = String.join xs := by
  induction xs with
  | nil => rfl
  | cons x xs ih =>
    by_cases hx : x = ""
    · simpa [hx] using ih
    · simpa [hx] using ih

theorem getLast?_usage_upToUsage (payloads : List Payload) :
    ((upToUsage payloads).filterMap (·.usage)).getLast? = payloads.findSome? (·.usage) := by
  induction payloads with
  | nil => rfl
  | cons p ps ih =>
    rw [upToUsage, List.findSome?_cons]
    cases hp : p.usage with
    | none => simp [hp, ih]
    | some usage => simp [hp]

/-- Without a cancellation, the chunks of a stream that has a last one are all consumed. -/
theorem consume_of_done {chunks : List Chunk} {last : Chunk} (hopen : ∀ c ∈ chunks, c.done = false)
    (hlast : last.done = true) :
    Reply.consume .never ⟨chunks.map .ok ++ [.ok last], .closed⟩ =
      .ended (Reply.replyOf (chunks ++ [last]) .completed "" none) := by
  obtain ⟨taken, rest, stop, h, hconsume⟩ :=
    Reply.exists_consumed .never ⟨chunks.map .ok ++ [.ok last], .closed⟩
  have hgo : ∀ before, before <+: chunks ++ [last] → before ≠ chunks ++ [last] →
      Reply.GoesOn .never before := by
    intro before hbefore hne
    rcases List.prefix_concat_iff.mp hbefore with heq | hfront
    · exact absurd heq hne
    · exact ⟨fun c hc => hopen c (hfront.mem hc), by simp [Reply.CancelledBy]⟩
  -- what is consumed is determined, so it is enough that these chunks can be
  have hall : Reply.Consumed .never ⟨chunks.map .ok ++ [.ok last], .closed⟩ (chunks ++ [last]) []
      .done :=
    ⟨⟨by simp, hgo⟩, .done List.getLast?_concat hlast⟩
  obtain ⟨rfl, rfl, rfl⟩ := h.unique hall
  exact hconsume

theorem consume_replyItems {events : List StreamEvent} {usage : Option Usage} (broken : Bool)
    (h : events.findSome? done? = some usage) :
    Reply.consume .never ⟨replyItems events broken, .closed⟩ =
      .ended (Reply.replyOf ((deltasBeforeDone events).map .delta ++ [.finished usage]) .completed
        "" none) := by
  have hitems : replyItems events broken =
      ((deltasBeforeDone events).map Chunk.delta).map .ok ++ [.ok (.finished usage)] := by
    rw [replyItems, closing, h, List.map_map]
    rfl
  rw [hitems]
  apply consume_of_done
  · intro c hc
    obtain ⟨text, -, rfl⟩ := List.mem_map.mp hc
    rfl
  · rfl

theorem texts_deltas (deltas : List String) (usage : Option Usage) :
    Reply.texts (deltas.map .delta ++ [.finished usage]) = deltas.filter (· ≠ "") := by
  have hcontents : (deltas.map Chunk.delta).filterMap (·.content) = deltas := by
    rw [List.filterMap_map]
    exact List.filterMap_some
  rw [Reply.texts, List.filterMap_append, hcontents]
  simp [Chunk.finished]

theorem lastUsage_deltas (deltas : List String) (usage : Option Usage) :
    Reply.lastUsage (deltas.map .delta ++ [.finished usage]) = usage := by
  have hnone : Reply.lastUsage (deltas.map .delta) = none := by
    rw [Reply.lastUsage, List.filterMap_map]
    simp [Chunk.delta, Function.comp_def]
  rw [Reply.lastUsage_concat, hnone]
  cases usage <;> rfl

/-- A body that carries some payloads and reaches its end mark makes the reply of those up to the
first usage. -/
theorem consume_chunkLines {bytes after : Bytes} {lines : List Bytes} {payloads : List Payload}
    (h : ChunkLines lines payloads) (hbytes : bytes = terminated (lines ++ [endLine]) ++ after)
    (broken : Bool) :
    Reply.consume .never ⟨replyItems (feed [] bytes).1 broken, .closed⟩ =
      .ended (completedReply (upToUsage payloads)) := by
  obtain ⟨more, hevents⟩ := feed_chunkLines h hbytes
  rw [hevents, consume_replyItems broken (findSome?_payloads payloads more),
    deltasBeforeDone_payloads, Reply.replyOf, texts_deltas, lastUsage_deltas, List.filter_filter,
    completedReply]
  simp only [Bool.and_self, join_filter_ne_empty, getLast?_usage_upToUsage, String.append_empty]

theorem upToUsage_append_afterUsage (payloads : List Payload) :
    upToUsage payloads ++ afterUsage payloads = payloads := by
  induction payloads with
  | nil => rfl
  | cons p ps ih =>
    rw [upToUsage, afterUsage]
    split
    · rfl
    · rw [List.cons_append, ih]

/-- Nothing is lost if what comes after the first usage says nothing. -/
theorem completedReply_upToUsage {payloads : List Payload}
    (h : ∀ p ∈ afterUsage payloads, p.content.getD "" = "" ∧ p.usage = none) :
    completedReply (upToUsage payloads) = completedReply payloads := by
  have hcontents : (contents (afterUsage payloads)).filter (· ≠ "") = [] := by
    rw [List.filter_eq_nil_iff]
    intro text htext
    obtain ⟨p, hp, hcontent⟩ := List.mem_filterMap.mp htext
    have hempty := (h p hp).1
    rw [hcontent] at hempty
    simpa using hempty
  have husage : (afterUsage payloads).filterMap (·.usage) = [] := by
    rw [List.filterMap_eq_nil_iff]
    exact fun p hp => (h p hp).2
  have hsplit := upToUsage_append_afterUsage payloads
  generalize upToUsage payloads = before at hsplit
  generalize afterUsage payloads = after at hsplit hcontents husage
  subst hsplit
  have hdeltas : (contents (before ++ after)).filter (· ≠ "") =
      (contents before).filter (· ≠ "") := by
    rw [contents, List.filterMap_append, List.filter_append]
    exact (congrArg _ hcontents).trans (List.append_nil _)
  have htext : String.join (contents (before ++ after)) = String.join (contents before) := by
    rw [← join_filter_ne_empty, hdeltas, join_filter_ne_empty]
  have hlast : (before ++ after).filterMap (·.usage) = before.filterMap (·.usage) := by
    rw [List.filterMap_append, husage, List.append_nil]
  rw [completedReply, completedReply, hdeltas, htext, hlast]

end FileChat.EventStream

namespace FileChat.Provider

open ByteLines (terminated)
open EventStream (ChunkLines Payload afterUsage carries_chunkLine chunkLine completedReply contents
  endLine upToUsage)

variable {m : Type → Type} [Monad m] [LawfulMonad m] {send : HttpRequest → m HttpAnswer}

theorem answer_eq_opened {p : Provider} {r : ChatRequest} {request : HttpRequest}
    {response : HttpResponse} (hrequest : p.streamRequest r = .ok request)
    (hsend : send request = pure (.response response)) (hstatus : response.status = 200) :
    p.answer send r = pure (.opened
      ⟨EventStream.replyItems (EventStream.feed [] response.pieces.flatten).1 response.broken,
        .closed⟩) := by
  rw [answer, stream_eq_itemsOf hrequest hsend, itemsOf_ok r.model hstatus, pure_bind]

theorem exists_streamRequest_local :
    ∃ request, streamRequest ⟨"local", "http://h", "k"⟩ ⟨"m", [], defaultTemperature, none⟩ =
      .ok request := by
  have htarget : target ⟨"local", "http://h", "k"⟩ "/chat/completions" =
      .ok ("http://h/chat/completions", "Bearer k") := by rfl
  rw [streamRequest, htarget]
  exact ⟨_, rfl⟩

/-- A response whose body carries chunks and reaches its end mark, however it is cut, makes a reply
that is complete. It has the contents of the chunks up to the first that reports the usage, and that
usage. Of chunks after it nothing is received, so the reply is that of all chunks if those have
neither a content nor a usage. -/
theorem answer_upToUsage (p : Provider) (r : ChatRequest) (request : HttpRequest)
    (response : HttpResponse) (lines : List Bytes) (payloads : List Payload) (after : Bytes)
    (hrequest : p.streamRequest r = .ok request)
    (hsend : send request = pure (.response response)) (hstatus : response.status = 200)
    (hlines : ChunkLines lines payloads)
    (hbody : response.pieces.flatten = terminated (lines ++ [endLine]) ++ after) :
    (∃ stream, p.answer send r = pure (.opened stream) ∧
      Reply.consume .never stream = .ended (completedReply (upToUsage payloads))) ∧
    (completedReply (upToUsage payloads)).usage = payloads.findSome? (·.usage) ∧
    upToUsage payloads ++ afterUsage payloads = payloads ∧
    ((∀ q ∈ afterUsage payloads, q.content.getD "" = "" ∧ q.usage = none) →
      completedReply (upToUsage payloads) = completedReply payloads) := by
  refine ⟨⟨_, answer_eq_opened hrequest hsend hstatus, ?_⟩, ?_, ?_, ?_⟩
  · exact EventStream.consume_chunkLines hlines hbody response.broken
  · exact EventStream.getLast?_usage_upToUsage payloads
  · exact EventStream.upToUsage_append_afterUsage payloads
  · exact EventStream.completedReply_upToUsage

/-- A usage on the last content, and a chunk that carries nothing after it. The body is cut in its
first line. -/
theorem answer_upToUsage_cut :
    let lines := [chunkLine ⟨some "a", none⟩, Utf8.encode ": ping".toList,
      chunkLine ⟨some "b", some ⟨1, 2, 3⟩⟩, chunkLine ⟨none, none⟩]
    let body := terminated (lines ++ [endLine])
    let send : HttpRequest → Id HttpAnswer :=
      fun _ => .response ⟨200, [body.take 40, body.drop 40], false⟩
    ∃ stream, answer send ⟨"local", "http://h", "k"⟩ ⟨"m", [], defaultTemperature, none⟩ =
        .opened stream ∧
      Reply.consume .never stream =
        .ended ⟨.completed, "ab", 2, ["a", "b"], some ⟨1, 2, 3⟩, none⟩ := by
  intro lines body send
  have hping : EventStream.Silent (Utf8.encode ": ping".toList) := .inr (.inl (by decide))
  have hlines : ChunkLines lines
      [⟨some "a", none⟩, ⟨some "b", some ⟨1, 2, 3⟩⟩, ⟨none, none⟩] :=
    .chunk (carries_chunkLine _) (.silent (by decide) hping
      (.chunk (carries_chunkLine _) (.chunk (carries_chunkLine _) .nil)))
  have hbody : [body.take 40, body.drop 40].flatten = terminated (lines ++ [endLine]) ++ [] := by
    simp [body]
  obtain ⟨request, hrequest⟩ := exists_streamRequest_local
  have hsend : send request = pure (.response ⟨200, [body.take 40, body.drop 40], false⟩) := rfl
  obtain ⟨stream, hopened, hconsume⟩ :=
    (answer_upToUsage _ _ request _ lines _ [] hrequest hsend rfl hlines hbody).1
  exact ⟨stream, hopened, hconsume⟩

/-- Two chunks with a content and a usage each. The second stands before the end mark and is not
received, so neither the text nor the usage is that of all chunks. -/
theorem content_after_usage :
    let payloads : List Payload := [⟨some "a", some ⟨1, 2, 3⟩⟩, ⟨some "b", some ⟨1, 3, 4⟩⟩]
    let lines := payloads.map chunkLine
    let body := terminated (lines ++ [endLine])
    let send : HttpRequest → Id HttpAnswer := fun _ => .response ⟨200, [body], false⟩
    ChunkLines lines payloads ∧
    ∃ stream reply,
      answer send ⟨"local", "http://h", "k"⟩ ⟨"m", [], defaultTemperature, none⟩ =
        .opened stream ∧
      Reply.consume .never stream = .ended reply ∧ reply.status = .completed ∧
      reply.text = "a" ∧ String.join (contents payloads) = "ab" ∧
      reply.usage = some ⟨1, 2, 3⟩ ∧
      (payloads.filterMap (·.usage)).getLast? = some ⟨1, 3, 4⟩ := by
  intro payloads lines body send
  have hlines : ChunkLines lines payloads :=
    .chunk (carries_chunkLine _) (.chunk (carries_chunkLine _) .nil)
  have hbody : [body].flatten = terminated (lines ++ [endLine]) ++ [] := by simp [body]
  obtain ⟨request, hrequest⟩ := exists_streamRequest_local
  have hsend : send request = pure (.response ⟨200, [body], false⟩) := rfl
  have hopened := answer_eq_opened hrequest hsend rfl
  have hconsume := EventStream.consume_chunkLines hlines hbody false
  exact ⟨hlines, _, _, hopened, hconsume, rfl, by decide, by decide, rfl, rfl⟩

end FileChat.Provider
