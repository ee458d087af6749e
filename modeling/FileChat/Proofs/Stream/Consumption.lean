import FileChat.Reply

/-!
# What is consumed of a stream

A reply is made of the chunks that are received before reading stops. `Consumed` says which chunks
these are, and why reading stops after them, without the loop and what it accumulates: before each
of them nothing had stopped it yet, and after them something does. From these chunks alone
`Stop.result` tells the status, the text, the deltas shown and the usage. Cancellation comes before
whatever stands next in the stream, an error as well, but not before a chunk that is already taken
and is the last one.
-/
namespace FileChat.Reply

/-- The texts that are not empty, in order. -/
def texts (chunks : List Chunk) : List String :=
  (chunks.filterMap (·.content)).filter (· ≠ "")

/-- The last usage that a chunk reports. -/
def lastUsage (chunks : List Chunk) : Option Usage := (chunks.filterMap (·.usage)).getLast?

/-- The user has cancelled by the time these chunks have been taken. -/
def CancelledBy (cancel : Cancellation) (taken : List Chunk) : Prop :=
  cancel = .beforehand ∨ ∃ n, cancel = .duringDelta n ∧ 0 < n ∧ n ≤ (texts taken).length

/-- After these chunks the next item is received. -/
structure GoesOn (cancel : Cancellation) (taken : List Chunk) : Prop where
  not_done : ∀ c ∈ taken, c.done = false
  not_cancelled : ¬ CancelledBy cancel taken

/-- Why reading stops. -/
inductive Stop where
  | done
  | cancelled
  | failed (e : ProviderError)
  | closed
  /-- It has not stopped: nothing comes, and nobody cancels. -/
  | waiting

/-- What a reader who goes on meets in place of a chunk. -/
inductive Meets (cancel : Cancellation) (ending : StreamEnd) : List Item → Stop → Prop
  | failed {e : ProviderError} {rest : List Item} :
    Meets cancel ending (.error e :: rest) (.failed e)
  | closed : ending = .closed → Meets cancel ending [] .closed
  | awoken : ending = .pending → cancel = .whileWaiting → Meets cancel ending [] .cancelled
  | waiting : ending = .pending → cancel ≠ .whileWaiting → Meets cancel ending [] .waiting

/-- Reading stops after some chunks, with these items still to come. -/
inductive Stops (cancel : Cancellation) (ending : StreamEnd) (taken : List Chunk)
    (rest : List Item) : Stop → Prop
  | done {last : Chunk} :
      taken.getLast? = some last → last.done = true → Stops cancel ending taken rest .done
  | cancelled :
      (∀ c ∈ taken, c.done = false) → CancelledBy cancel taken →
      Stops cancel ending taken rest .cancelled
  | met {stop : Stop} :
      GoesOn cancel taken → Meets cancel ending rest stop → Stops cancel ending taken rest stop

/-- The reader gets as far as these chunks, with these items still to come. -/
structure Reached (cancel : Cancellation) (stream : ReplyStream) (taken : List Chunk)
    (rest : List Item) : Prop where
  items_eq : stream.items = taken.map .ok ++ rest
  goes_on : ∀ before, before <+: taken → before ≠ taken → GoesOn cancel before

/-- These chunks, and no others, are received before reading stops. -/
structure Consumed (cancel : Cancellation) (stream : ReplyStream) (taken : List Chunk)
    (rest : List Item) (stop : Stop) : Prop extends Reached cancel stream taken rest where
  stops : Stops cancel stream.ending taken rest stop

/-- The reply that some chunks make, with a note after their texts. -/
def replyOf (taken : List Chunk) (status : Status) (note : String) (error : Option ProviderError) :
    Reply :=
  { status
    text := String.join (texts taken) ++ note
    chunks := (texts taken).length
    deltas := texts taken
    usage := lastUsage taken
    error }

/-- What some chunks amount to while reading goes on. -/
def progress (taken : List Chunk) : Progress :=
  { text := String.join (texts taken)
    chunks := (texts taken).length
    deltas := texts taken
    usage := lastUsage taken }

/-- What is made of the chunks received when reading stops. -/
def Stop.result (taken : List Chunk) : Stop → Consumption
  | .done | .closed => .ended (replyOf taken .completed "" none)
  | .cancelled => .ended (replyOf taken .aborted "\n\n[ABORTED]" none)
  | .failed e => .ended (replyOf taken .failed ("\n\n[ERROR: " ++ e.message ++ "]") (some e))
  | .waiting => .waiting (progress taken)

/-- The text that there is when reading stops, notes included. -/
def Consumption.text : Consumption → String
  | .ended reply => reply.text
  | .waiting soFar => soFar.text

variable {cancel cancel' : Cancellation} {ending : StreamEnd} {stream stream' : ReplyStream}
  {taken taken' : List Chunk} {rest rest' : List Item} {stop stop' : Stop}

/-! ## One chunk more -/

theorem texts_append (xs ys : List Chunk) : texts (xs ++ ys) = texts xs ++ texts ys := by
  simp only [texts, List.filterMap_append, List.filter_append]

theorem texts_singleton (c : Chunk) : texts [c] = (Progress.shown? c).toList := by
  rw [texts, Progress.shown?]
  cases hc : c.content with
  | none => simp [hc]
  | some text => by_cases htext : text = "" <;> simp [hc, htext, Option.filter]

theorem lastUsage_concat (taken : List Chunk) (c : Chunk) :
    lastUsage (taken ++ [c]) = (c.usage <|> lastUsage taken) := by
  rw [lastUsage, List.filterMap_append]
  cases hc : c.usage with
  | none => simp [hc, lastUsage]
  | some usage => simp [hc]

theorem take_progress (taken : List Chunk) (c : Chunk) :
    (progress taken).take c = progress (taken ++ [c]) := by
  rw [progress, progress, Progress.take, texts_append, texts_singleton, lastUsage_concat]
  cases Progress.shown? c with
  | none => simp
  | some delta => simp [Progress.append, String.join_append]

theorem cancelled_eq_true_iff :
    cancelled cancel (progress taken).deltas.length = true ↔ CancelledBy cancel taken := by
  change cancelled cancel (texts taken).length = true ↔ _
  cases cancel <;> simp [cancelled, CancelledBy]

theorem Reached.next {c : Chunk} (h : Reached cancel stream taken (.ok c :: rest))
    (hgo : GoesOn cancel taken) : Reached cancel stream (taken ++ [c]) rest where
  items_eq := by rw [h.items_eq, List.map_append, List.append_assoc]; rfl
  goes_on := by
    intro before hbefore hne
    rcases List.prefix_concat_iff.mp hbefore with rfl | hprefix
    · exact absurd rfl hne
    · by_cases heq : before = taken
      · exact heq ▸ hgo
      · exact h.goes_on before hprefix heq

/-! ## The whole stream -/

theorem consumeFrom_of_cancelled (h : CancelledBy cancel taken) (items : List Item) :
    consumeFrom cancel ending (progress taken) items = Stop.cancelled.result taken := by
  have hcancelled := cancelled_eq_true_iff.mpr h
  rcases items with _ | ⟨_ | _, _⟩ <;> rw [consumeFrom, if_pos hcancelled] <;> rfl

theorem await_consumed (h : Reached cancel stream taken []) (hgo : GoesOn cancel taken) :
    ∃ taken' rest stop, Consumed cancel stream taken' rest stop ∧
      await cancel stream.ending (progress taken) = stop.result taken' := by
  cases hending : stream.ending with
  | closed =>
    refine ⟨taken, [], .closed, ⟨h, .met hgo (.closed hending)⟩, ?_⟩
    cases cancel <;> rfl
  | pending =>
    by_cases hwaiting : cancel = .whileWaiting
    · subst hwaiting
      exact ⟨taken, [], .cancelled, ⟨h, .met hgo (.awoken hending rfl)⟩, rfl⟩
    · refine ⟨taken, [], .waiting, ⟨h, .met hgo (.waiting hending hwaiting)⟩, ?_⟩
      cases cancel <;> first | rfl | contradiction

/-- As long as no chunk was the last one, the reader stops somewhere, and it has made of the chunks
received what the law says. The induction is on the items still to come; the chunks taken so far
are what the loop carries. -/
theorem consumeFrom_consumed (items : List Item) {taken : List Chunk}
    (h : Reached cancel stream taken items) (hopen : ∀ c ∈ taken, c.done = false) :
    ∃ taken' rest stop, Consumed cancel stream taken' rest stop ∧
      consumeFrom cancel stream.ending (progress taken) items = stop.result taken' := by
  induction items generalizing taken with
  | nil =>
    by_cases hcancel : CancelledBy cancel taken
    · exact ⟨taken, [], .cancelled, ⟨h, .cancelled hopen hcancel⟩,
        consumeFrom_of_cancelled hcancel []⟩
    · rw [consumeFrom, if_neg (mt cancelled_eq_true_iff.mp hcancel)]
      exact await_consumed h ⟨hopen, hcancel⟩
  | cons item items ih =>
    by_cases hcancel : CancelledBy cancel taken
    · exact ⟨taken, item :: items, .cancelled, ⟨h, .cancelled hopen hcancel⟩,
        consumeFrom_of_cancelled hcancel _⟩
    have hgo : GoesOn cancel taken := ⟨hopen, hcancel⟩
    cases item with
    | error e =>
      refine ⟨taken, .error e :: items, .failed e, ⟨h, .met hgo .failed⟩, ?_⟩
      rw [consumeFrom, if_neg (mt cancelled_eq_true_iff.mp hcancel)]
      rfl
    | ok chunk =>
      rw [consumeFrom, if_neg (mt cancelled_eq_true_iff.mp hcancel), take_progress]
      cases hdone : chunk.done with
      | true =>
        exact ⟨taken ++ [chunk], items, .done, ⟨h.next hgo, .done List.getLast?_concat hdone⟩, rfl⟩
      | false =>
        refine ih (h.next hgo) fun c hc => ?_
        rcases List.mem_append.mp hc with hold | hnew
        · exact hopen c hold
        · rw [List.mem_singleton.mp hnew]
          exact hdone

theorem Reached.start : Reached cancel stream [] stream.items :=
  ⟨rfl, fun _ hbefore hne => absurd (List.prefix_nil.mp hbefore) hne⟩

theorem exists_consumed (cancel : Cancellation) (stream : ReplyStream) :
    ∃ taken rest stop, Consumed cancel stream taken rest stop ∧
      consume cancel stream = stop.result taken :=
  consumeFrom_consumed stream.items .start fun _ hc => absurd hc List.not_mem_nil

/-! ## Where two readers stop -/

theorem not_done_of_getLast? {last : Chunk} (hlast : taken.getLast? = some last)
    (hdone : last.done = true) : ¬ ∀ c ∈ taken, c.done = false := by
  intro hopen
  rw [hopen last (List.mem_of_getLast? hlast)] at hdone
  cases hdone

/-- A reader who stops with a chunk to come had a reason to stop before it. -/
theorem Stops.not_goesOn {chunk : Chunk}
    (h : Stops cancel ending taken (.ok chunk :: rest) stop) : ¬ GoesOn cancel taken := by
  intro hgo
  cases h with
  | done hlast hdone => exact not_done_of_getLast? hlast hdone hgo.not_done
  | cancelled _ hcancel => exact hgo.not_cancelled hcancel
  | met _ hmeets => cases hmeets

theorem Meets.unique (h : Meets cancel ending rest stop) (h' : Meets cancel ending rest stop') :
    stop = stop' := by
  cases h <;> cases h' <;> simp_all

theorem Stops.unique (h : Stops cancel ending taken rest stop)
    (h' : Stops cancel ending taken rest stop') : stop = stop' := by
  cases h with
  | done hlast hdone =>
    have hnot := not_done_of_getLast? hlast hdone
    cases h' with
    | done => rfl
    | cancelled hopen => exact absurd hopen hnot
    | met hgo => exact absurd hgo.not_done hnot
  | cancelled hopen hcancel =>
    cases h' with
    | done hlast hdone => exact absurd hopen (not_done_of_getLast? hlast hdone)
    | cancelled => rfl
    | met hgo => exact absurd hcancel hgo.not_cancelled
  | met hgo hmeets =>
    cases h' with
    | done hlast hdone => exact absurd hgo.not_done (not_done_of_getLast? hlast hdone)
    | cancelled _ hcancel => exact absurd hcancel hgo.not_cancelled
    | met _ hmeets' => exact hmeets.unique hmeets'

theorem isPrefix_of_map_ok {xs ys : List Chunk}
    (h : xs.map Except.ok <+: (ys.map Except.ok : List Item)) : xs <+: ys := by
  obtain ⟨front, hfront, heq⟩ := List.prefix_map_iff.mp h
  have hsame : xs = front := (List.map_inj_right fun _ _ => Except.ok.inj).mp heq
  rwa [hsame]

/-- Of two readers, the one with no less to read, who goes on wherever the other does, takes what
the other takes, and perhaps more. -/
theorem Consumed.isPrefix (h : Consumed cancel stream taken rest stop)
    (h' : Consumed cancel' stream' taken' rest' stop') (hitems : stream.items <+: stream'.items)
    (hgo : ∀ before, GoesOn cancel before → GoesOn cancel' before) : taken <+: taken' := by
  obtain ⟨more, hmore⟩ := hitems
  rw [h.items_eq, List.append_assoc, h'.items_eq] at hmore
  have hone : taken.map Except.ok <+: (taken'.map Except.ok ++ rest' : List Item) := ⟨_, hmore⟩
  rcases List.prefix_or_prefix_of_prefix hone (List.prefix_append _ rest') with hle | hle
  · exact isPrefix_of_map_ok hle
  obtain ⟨after, rfl⟩ := isPrefix_of_map_ok hle
  cases after with
  | nil => simp
  | cons chunk after =>
    -- the second reader would have stopped before a chunk that the first one took
    have hbefore : GoesOn cancel taken' := h.goes_on taken' (List.prefix_append _ _) (by simp)
    rw [List.map_append, List.append_assoc, List.append_cancel_left_eq] at hmore
    have hstops := h'.stops
    rw [← hmore] at hstops
    exact absurd (hgo taken' hbefore) hstops.not_goesOn

/-- What is consumed of a stream is determined. -/
theorem Consumed.unique (h : Consumed cancel stream taken rest stop)
    (h' : Consumed cancel stream taken' rest' stop') :
    taken = taken' ∧ rest = rest' ∧ stop = stop' := by
  have hle := h.isPrefix h' List.prefix_rfl fun _ hgo => hgo
  have hge := h'.isPrefix h List.prefix_rfl fun _ hgo => hgo
  obtain rfl := hle.eq_of_length_le hge.length_le
  obtain rfl := List.append_cancel_left (h.items_eq.symm.trans h'.items_eq)
  exact ⟨rfl, rfl, h.stops.unique h'.stops⟩

/-! ## The law -/

/-- A reader who is never cancelled goes on where another does. -/
theorem GoesOn.never (h : GoesOn cancel taken) : GoesOn .never taken :=
  ⟨h.not_done, by simp [CancelledBy]⟩

theorem text_of_aborted {reply : Reply} (h : consume cancel stream = .ended reply)
    (haborted : reply.status = .aborted) :
    ∃ received, reply.text = received ++ "\n\n[ABORTED]" := by
  obtain ⟨taken, rest, stop, -, hconsume⟩ := exists_consumed cancel stream
  rw [h] at hconsume
  cases stop with
  | cancelled =>
    cases hconsume
    exact ⟨_, rfl⟩
  | done | closed | failed =>
    cases hconsume
    cases haborted
  | waiting => cases hconsume

theorem text_result (taken : List Chunk) (stop : Stop) :
    ∃ note, (stop.result taken).text = String.join (texts taken) ++ note := by
  cases stop with
  | done => exact ⟨"", rfl⟩
  | closed => exact ⟨"", rfl⟩
  | cancelled => exact ⟨"\n\n[ABORTED]", rfl⟩
  | failed e => exact ⟨"\n\n[ERROR: " ++ e.message ++ "]", rfl⟩
  | waiting => exact ⟨"", (String.append_empty).symm⟩

/-- Whoever is never cancelled consumes the same chunks first, also if more comes for them; so the
text received before a reader stops begins the text that they get. -/
theorem Consumed.isPrefix_never (h : Consumed cancel stream taken rest stop) (more : List Item)
    (ending : StreamEnd) :
    ∃ later rest' stop',
      Consumed .never ⟨stream.items ++ more, ending⟩ (taken ++ later) rest' stop' ∧
      ∃ tail, (consume .never ⟨stream.items ++ more, ending⟩).text =
        String.join (texts taken) ++ tail := by
  obtain ⟨whole, rest', stop', h', hconsume⟩ :=
    exists_consumed .never ⟨stream.items ++ more, ending⟩
  obtain ⟨later, rfl⟩ := h.isPrefix h' (List.prefix_append _ _) fun _ hgo => hgo.never
  obtain ⟨note, hnote⟩ := text_result (taken ++ later) stop'
  refine ⟨later, rest', stop', h', String.join (texts later) ++ note, ?_⟩
  rw [hconsume, hnote, texts_append, String.join_append, String.append_assoc]

/-- Reading a stream consumes certain chunks, and no other ones would do; the reply is what these
amount to. Without the cancellation the same chunks are consumed first. -/
theorem consume_eq_result (cancel : Cancellation) (stream : ReplyStream) :
    ∃ taken rest stop, Consumed cancel stream taken rest stop ∧
      (∀ taken' rest' stop', Consumed cancel stream taken' rest' stop' →
        taken' = taken ∧ rest' = rest ∧ stop' = stop) ∧
      consume cancel stream = stop.result taken ∧
      ∀ more ending, ∃ later rest' stop',
        Consumed .never ⟨stream.items ++ more, ending⟩ (taken ++ later) rest' stop' ∧
        ∃ tail, (consume .never ⟨stream.items ++ more, ending⟩).text =
          String.join (texts taken) ++ tail := by
  obtain ⟨taken, rest, stop, h, hconsume⟩ := exists_consumed cancel stream
  exact ⟨taken, rest, stop, h, fun _ _ _ h' => h'.unique h, hconsume, h.isPrefix_never⟩

/-- A reply that is cancelled while its last chunk is shown is complete all the same, and the error
behind that chunk is not met. Without the last chunk it is met, and told behind the text. -/
theorem consume_eq_result_last :
    let last : Chunk := { content := some "b", done := true, usage := some ⟨1, 2, 3⟩ }
    let stream : ReplyStream :=
      ⟨[.ok (.delta "a"), .ok (.delta ""), .ok last, .error (.network "reset")], .closed⟩
    Consumed (.duringDelta 2) stream [.delta "a", .delta "", last] [.error (.network "reset")]
        .done ∧
      consume (.duringDelta 2) stream =
        .ended ⟨.completed, "ab", 2, ["a", "b"], some ⟨1, 2, 3⟩, none⟩ ∧
      consume (.duringDelta 2) ⟨[.ok (.delta "a"), .error (.network "reset")], .closed⟩ =
        .ended ⟨.failed, "a\n\n[ERROR: Network error: reset]", 1, ["a"], none,
          some (.network "reset")⟩ := by
  intro last stream
  have hgo (taken : List Chunk) (hopen : ∀ c ∈ taken, c.done = false)
      (hfew : (texts taken).length < 2) : GoesOn (.duringDelta 2) taken :=
    ⟨hopen, by simp [CancelledBy, hfew]⟩
  have hstart : Reached (.duringDelta 2) stream [] stream.items := .start
  have hreached := ((hstart.next (hgo [] (by decide) (by decide))).next
    (hgo [.delta "a"] (by decide) (by decide))).next
    (hgo [.delta "a", .delta ""] (by decide) (by decide))
  have h : Consumed (.duringDelta 2) stream [.delta "a", .delta "", last]
      [.error (.network "reset")] .done := ⟨hreached, .done rfl rfl⟩
  obtain ⟨taken, rest, stop, _, hunique, hconsume, _⟩ :=
    consume_eq_result (.duringDelta 2) stream
  obtain ⟨rfl, rfl, rfl⟩ := hunique _ _ _ h
  let cut : ReplyStream := ⟨[.ok (.delta "a"), .error (.network "reset")], .closed⟩
  have hcut : Consumed (.duringDelta 2) cut [.delta "a"] [.error (.network "reset")]
      (.failed (.network "reset")) :=
    ⟨Reached.start.next (hgo [] (by decide) (by decide)),
      .met (hgo [.delta "a"] (by decide) (by decide)) .failed⟩
  obtain ⟨taken, rest, stop, _, hunique, hfailed, _⟩ := consume_eq_result (.duringDelta 2) cut
  obtain ⟨rfl, rfl, rfl⟩ := hunique _ _ _ hcut
  exact ⟨h, hconsume.trans rfl, hfailed.trans (by decide +kernel)⟩

end FileChat.Reply
