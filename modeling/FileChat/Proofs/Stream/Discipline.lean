import FileChat.Backend.Provider
import FileChat.Proofs.Stream.Framing

/-!
# How a streamed reply ends

A reply is given to its reader as the deltas before the first end of the stream, in order, and one
item more that closes it. The law is stated over the events of the whole body, so it holds however
the body was cut, also where one piece brings several events around the end. `Padded` puts in lines
that cannot be read, and no item tells of them. Only a response of status 200 gives items at all.
-/
namespace FileChat.StreamEvent

def delta? : StreamEvent → Option String
  | .delta text => some text
  | .done _ | .unparseable _ => none

def done? : StreamEvent → Option (Option Usage)
  | .done usage => some usage
  | .delta _ | .unparseable _ => none

def IsUnparseable (e : StreamEvent) : Prop := ∃ data, e = .unparseable data

end FileChat.StreamEvent

namespace FileChat.EventStream

open ByteLines (Framed lineFeed AtBoundary)
open StreamEvent (delta? done? IsUnparseable)

/-- The texts of the deltas before the first end of the stream. -/
def deltasBeforeDone (events : List StreamEvent) : List String :=
  (events.takeWhile fun e => e.done?.isNone).filterMap delta?

/-- The item that closes a reply: its end, or what the connection makes of a reply without one. -/
def closing (events : List StreamEvent) (broken : Bool) : Item :=
  match events.findSome? done? with
  | some usage => .ok (.finished usage)
  | none => if broken then .error (.streamInterrupted brokenBody) else .ok (.finished none)

/-- The items of a reply by the law. -/
def replyItems (events : List StreamEvent) (broken : Bool) : List Item :=
  (deltasBeforeDone events).map (fun text => .ok (.delta text)) ++ [closing events broken]

/-- A line put in where one may begin, of which nothing can be read. -/
inductive Padded : Bytes → Bytes → Prop
  | inserted {before line : Bytes} (after : Bytes) :
      AtBoundary before → lineFeed ∉ line → (∀ e ∈ eventsOfLine line, IsUnparseable e) →
      Padded (before ++ after) (before ++ (line ++ lineFeed :: after))

/-! ## Events -/

theorem deltasBeforeDone_cons (e : StreamEvent) (events : List StreamEvent) :
    deltasBeforeDone (e :: events) =
      match e with
      | .delta text => text :: deltasBeforeDone events
      | .done _ => []
      | .unparseable _ => deltasBeforeDone events := by
  cases e <;> rfl

/-- Events after the first end do not count, and without an end all of them do. -/
theorem deltasBeforeDone_append (events more : List StreamEvent) :
    deltasBeforeDone (events ++ more) = deltasBeforeDone events ++
      if (events.findSome? done?).isSome then [] else deltasBeforeDone more := by
  induction events with
  | nil => rfl
  | cons e events ih =>
    rw [List.cons_append, deltasBeforeDone_cons, deltasBeforeDone_cons]
    cases e with
    | delta text =>
      simp only [ih]
      rfl
    | done usage => rfl
    | unparseable data =>
      simp only [ih]
      rfl

theorem closing_append_of_done {events : List StreamEvent} {usage : Option Usage}
    (h : events.findSome? done? = some usage) (more : List StreamEvent) (broken : Bool) :
    closing (events ++ more) broken = .ok (.finished usage) := by
  rw [closing, List.findSome?_append, h]
  rfl

theorem closing_append_of_none {events : List StreamEvent} (h : events.findSome? done? = none)
    (more : List StreamEvent) (broken : Bool) :
    closing (events ++ more) broken = closing more broken := by
  rw [closing, closing, List.findSome?_append, h]
  rfl

/-- Events that cannot be read are as good as none. -/
theorem replyItems_insert {noise : List StreamEvent} (h : ∀ e ∈ noise, IsUnparseable e)
    (events more : List StreamEvent) (broken : Bool) :
    replyItems (events ++ (noise ++ more)) broken = replyItems (events ++ more) broken := by
  have hdone : noise.findSome? done? = none := by
    rw [List.findSome?_eq_none_iff]
    intro e he
    obtain ⟨data, rfl⟩ := h e he
    rfl
  have hdeltas : deltasBeforeDone noise = [] := by
    induction noise with
    | nil => rfl
    | cons e noise ih =>
      obtain ⟨data, rfl⟩ := h e List.mem_cons_self
      exact ih (fun e' he' => h e' (List.mem_cons_of_mem _ he')) hdone
  have hmore : deltasBeforeDone (noise ++ more) = deltasBeforeDone more := by
    rw [deltasBeforeDone_append, hdeltas, hdone]
    rfl
  have hclosing : closing (events ++ (noise ++ more)) broken = closing (events ++ more) broken := by
    cases hend : events.findSome? done? with
    | none =>
      rw [closing_append_of_none hend, closing_append_of_none hend, closing_append_of_none hdone]
    | some usage => rw [closing_append_of_done hend, closing_append_of_done hend]
  rw [replyItems, replyItems, hclosing, deltasBeforeDone_append events, hmore,
    ← deltasBeforeDone_append]

/-! ## Pieces -/

/-- What the events of one piece make the task send, and whether it is done with them. -/
theorem forward_eq (events : List StreamEvent) :
    forward events =
      ((deltasBeforeDone events).map .delta ++ (events.findSome? done?).toList.map .finished,
        (events.findSome? done?).isSome) := by
  induction events with
  | nil => rfl
  | cons e events ih =>
    cases e with
    | delta text =>
      have hforward : forward (.delta text :: events) =
          (.delta text :: (forward events).1, (forward events).2) := rfl
      rw [hforward, ih, deltasBeforeDone_cons]
      rfl
    | done usage => rfl
    | unparseable data =>
      have hforward : forward (.unparseable data :: events) = forward events := rfl
      rw [hforward, ih, deltasBeforeDone_cons]
      rfl

/-- The task sends what the law says of the events that are still to come. -/
theorem itemsFrom_eq (waiting : Bytes) (pieces : List Bytes) (broken : Bool) :
    itemsFrom waiting broken pieces = replyItems (feedAll waiting pieces).1 broken := by
  induction pieces generalizing waiting with
  | nil => rfl
  | cons piece pieces ih =>
    have hitems : itemsFrom waiting broken (piece :: pieces) =
        (forward (feed waiting piece).1).1.map .ok ++
          if (forward (feed waiting piece).1).2 then []
          else itemsFrom (feed waiting piece).2 broken pieces := rfl
    have hevents : (feedAll waiting (piece :: pieces)).1 =
        (feed waiting piece).1 ++ (feedAll (feed waiting piece).2 pieces).1 := rfl
    rw [hitems, hevents, ih, forward_eq]
    generalize (feed waiting piece).1 = events
    generalize (feedAll (feed waiting piece).2 pieces).1 = more
    simp only [replyItems, deltasBeforeDone_append]
    cases hend : events.findSome? done? with
    | none =>
      rw [closing_append_of_none hend]
      simp
    | some usage =>
      rw [closing_append_of_done hend]
      simp

/-- The items of a body depend on its bytes, not on its pieces. -/
theorem items_eq (pieces : List Bytes) (broken : Bool) :
    items pieces broken = replyItems (feed [] pieces.flatten).1 broken := by
  rw [items, itemsFrom_eq, feedAll_eq_feed]

theorem replyItems_of_padded {bytes bytes' : Bytes} (h : Padded bytes bytes') (broken : Bool) :
    replyItems (feed [] bytes').1 broken = replyItems (feed [] bytes).1 broken := by
  cases h with
  | inserted after hboundary hopen hnoise =>
    obtain ⟨events, more, rest, hplain, hpadded⟩ := feed_insert_line hboundary hopen after
    rw [hplain, hpadded]
    exact replyItems_insert hnoise events more broken

theorem replyItems_of_paddings {bytes bytes' : Bytes}
    (h : Relation.ReflTransGen Padded bytes bytes') (broken : Bool) :
    replyItems (feed [] bytes').1 broken = replyItems (feed [] bytes).1 broken := by
  induction h with
  | refl => rfl
  | tail _ hstep ih => exact (replyItems_of_padded hstep broken).trans ih

end FileChat.EventStream

namespace FileChat.Provider

open EventStream (feed replyItems Padded)

/-! ## Responses -/

theorem itemsOf_ok (model : String) {response : HttpResponse} (h : response.status = 200) :
    itemsOf model response =
      .ok (replyItems (feed [] response.pieces.flatten).1 response.broken) := by
  rw [itemsOf, if_neg (by omega), if_neg (by omega), if_neg (by omega), if_neg (by omega),
    EventStream.items_eq]

theorem itemsOf_error (model : String) {response : HttpResponse} (h : response.status ≠ 200) :
    ∃ e, itemsOf model response = .error e := by
  rw [itemsOf, if_pos h]
  split
  · exact ⟨_, rfl⟩
  split
  · exact ⟨_, rfl⟩
  split
  · exact ⟨_, rfl⟩
  · exact ⟨_, rfl⟩

section Stream

variable {m : Type → Type} [Monad m] [LawfulMonad m] {send : HttpRequest → m HttpAnswer}

/-- What is streamed is read off the response to the one request that is sent. -/
theorem stream_eq_itemsOf {p : Provider} {r : ChatRequest} {request : HttpRequest}
    {response : HttpResponse} (hrequest : p.streamRequest r = .ok request)
    (hsend : send request = pure (.response response)) :
    p.stream send r = pure (itemsOf r.model response) := by
  rw [stream, hrequest, call, hsend]
  simp only [pure_bind]
  rfl

/-- A response of status 200 is streamed as the deltas before the first end of the stream, in order,
and then one item that closes the reply: the end with its usage, whatever comes after it, or else
the break of the connection, or else an end of its own. Another way to cut the body, or lines in it
that cannot be read, change none of the items. A response of any other status is an error. -/
theorem stream_discipline (p : Provider) (r : ChatRequest) (request : HttpRequest)
    (response : HttpResponse) (hrequest : p.streamRequest r = .ok request)
    (hsend : send request = pure (.response response)) :
    (response.status = 200 →
      p.stream send r =
        pure (.ok (replyItems (feed [] response.pieces.flatten).1 response.broken)) ∧
      ∀ (pieces' : List Bytes) (send' : HttpRequest → m HttpAnswer),
        Relation.ReflTransGen Padded response.pieces.flatten pieces'.flatten →
        send' request = pure (.response { response with pieces := pieces' }) →
        p.stream send' r = p.stream send r) ∧
    (response.status ≠ 200 → ∃ e, p.stream send r = pure (.error e)) := by
  rw [stream_eq_itemsOf hrequest hsend]
  constructor
  · intro hstatus
    rw [itemsOf_ok r.model hstatus]
    refine ⟨rfl, fun pieces' send' hpadded hsend' => ?_⟩
    have hother : ({ response with pieces := pieces' } : HttpResponse).status = 200 := hstatus
    rw [stream_eq_itemsOf hrequest hsend', itemsOf_ok r.model hother]
    simp only [EventStream.replyItems_of_paddings hpadded]
  · intro hstatus
    obtain ⟨e, he⟩ := itemsOf_error r.model hstatus
    exact ⟨e, congrArg pure he⟩

end Stream

/-- A delta cut in two, a line that cannot be read, and an end before the connection breaks. -/
theorem stream_discipline_cut :
    stream (m := Id)
        (fun _ => .response
          ⟨200, [Utf8.encode "data: \x7b\"choices\":[\x7b\"delta\":\x7b\"content\":\"a\"".toList,
            Utf8.encode "\x7d\x7d]\x7d\ndata: ?\ndata: [DONE]\ndata: [DONE]\n".toList], true⟩)
        ⟨"local", "http://h", "k"⟩ ⟨"m", [], defaultTemperature, none⟩ =
      .ok [.ok (.delta "a"), .ok (.finished none)] := by
  have htarget : target ⟨"local", "http://h", "k"⟩ "/chat/completions" =
      .ok ("http://h/chat/completions", "Bearer k") := by rfl
  have hrequest : streamRequest ⟨"local", "http://h", "k"⟩ ⟨"m", [], defaultTemperature, none⟩ =
      .ok
        { method := "POST", url := "http://h/chat/completions", authorization := "Bearer k"
          contentType := some "application/json", accept := some "text/event-stream"
          body := some (requestJson ⟨"m", [], defaultTemperature, none⟩).toText } := by
    rw [streamRequest, htarget]
    rfl
  have hstream (pieces : List Bytes) :
      stream (m := Id) (fun _ => .response ⟨200, pieces, true⟩) ⟨"local", "http://h", "k"⟩
          ⟨"m", [], defaultTemperature, none⟩ =
        .ok (replyItems (feed [] pieces.flatten).1 true) :=
    ((stream_discipline _ _ _ ⟨200, pieces, true⟩ hrequest rfl).1 rfl).1
  rw [hstream]
  rfl

end FileChat.Provider
