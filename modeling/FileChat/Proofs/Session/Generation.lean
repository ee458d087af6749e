import FileChat.Proofs.Session.Request

/-!
# What a generation leaves

A call to generate is refused before any work, comes to an end, or waits for ever and is given up.
Each of these has one outcome, and `Course` lists them: what the call leaves of the session, what
it tells, and what it answers. The request is that of `assembleRequest` on the session before the
call, and it goes to the backend exactly once; a turn goes into the history if it was completed or
aborted, and nothing else of the session changes.
-/
namespace FileChat

/-- What a call to generate is given. The backend is what it answers to a request. -/
structure Call where
  now : LocalTime
  backend : ChatRequest → Opening
  model : String
  query : String
  cancel : Cancellation
  elapsedMs : Nat

/-- The backend with a record of the requests it is called with. -/
def Call.observed (c : Call) (request : ChatRequest) : StateM (List ChatRequest) Opening :=
  modifyGet fun calls => (c.backend request, calls ++ [request])

/-- The end of a generation, and the deltas shown on the way to it. -/
inductive Concluded (cancel : Cancellation) (tokensIn : Nat) :
    Opening → Generated → List String → Prop
  | refused (e : ProviderError) :
      Concluded cancel tokensIn (.refused e)
        { status := .failed, text := "\n\n[ERROR: " ++ e.message ++ "]", error := some e, tokensIn
          tokensOut := 0, usage := none }
        []
  | ended {stream : ReplyStream} {reply : Reply} :
      Reply.consume cancel stream = .ended reply →
      Concluded cancel tokensIn (.opened stream)
        { status := reply.status, text := reply.text, error := reply.error, tokensIn
          tokensOut := tokens reply.text, usage := reply.usage }
        reply.deltas

/-- What a call waits for when it is given up. -/
inductive Wait where
  | opening
  | chunks
  deriving DecidableEq, Repr

/-- A call waits for ever, after the deltas it has shown. -/
inductive Waits (cancel : Cancellation) : Opening → Wait → List String → Prop
  | opening : Waits cancel .pending .opening []
  | chunks {stream : ReplyStream} {soFar : Reply.Progress} :
      Reply.consume cancel stream = .waiting soFar →
      Waits cancel (.opened stream) .chunks soFar.deltas

/-- Where a session stands while a call on it waits. -/
def Wait.activity : Wait → Activity
  | .opening => .assembling
  | .chunks => .streaming

/-- What a generation adds to the history. -/
def Generated.turn (query : String) (outcome : Generated) : List Message :=
  match outcome.status with
  | .completed | .aborted => [.user query, .assistant outcome.text]
  | .failed => []

theorem concluded_or_waits (cancel : Cancellation) (tokensIn : Nat) (opening : Opening) :
    (∃ outcome deltas, Concluded cancel tokensIn opening outcome deltas) ∨
      ∃ wait deltas, Waits cancel opening wait deltas := by
  cases opening with
  | pending => exact .inr ⟨.opening, [], .opening⟩
  | refused e => exact .inl ⟨_, _, .refused e⟩
  | opened stream =>
    cases hconsume : Reply.consume cancel stream with
    | ended reply => exact .inl ⟨_, _, .ended hconsume⟩
    | waiting soFar => exact .inr ⟨_, _, .chunks hconsume⟩

namespace Session

/-- Calls a session to generate, with the backend as it is. -/
def call (s : Session) (c : Call) : Step Generation :=
  s.generate (m := Id) c.now c.backend c.model c.query c.cancel c.elapsedMs

/-- The request that a call sends. -/
def requestOf (s : Session) (c : Call) : ChatRequest := s.request c.model (s.compose c.now c.query)

/-- What tells of the beginning of a call. -/
def startedOf (s : Session) (c : Call) : Event := (s.inquiry c.now c.model c.query).started

/-- What a call to generate can come to. -/
inductive Course (s : Session) (c : Call) : Step Generation → Prop
  | rejected {e : SessionError} :
      s.refusal c.query = some e → Course s c ⟨s, [], .rejected e⟩
  | waits {wait : Wait} {deltas : List String} :
      s.refusal c.query = none → Waits c.cancel (c.backend (s.requestOf c)) wait deltas →
      Course s c
        ⟨{ s with activity := wait.activity }, [s.startedOf c], .abandoned deltas (s.requestOf c)⟩
  | concluded {outcome : Generated} {deltas : List String} :
      s.refusal c.query = none →
      Concluded c.cancel (s.compose c.now c.query).tokensIn (c.backend (s.requestOf c)) outcome
        deltas →
      Course s c
        ⟨{ s with history := s.history ++ outcome.turn c.query, activity := .idle },
          [s.startedOf c,
            .generationFinished outcome.status.name outcome.tokensOut c.elapsedMs],
          .finished outcome deltas (s.requestOf c)⟩

variable {s : Session} {c : Call} {query : String}

/-! ## Settling -/

section Settle

variable {i : Inquiry} {opening : Opening} {cancel : Cancellation} {deltas : List String}

theorem finish_eq (s : Session) (query : String) (outcome : Generated) (elapsedMs : Nat) :
    s.finish query outcome elapsedMs =
      ({ s with history := s.history ++ outcome.turn query, activity := .idle },
        .generationFinished outcome.status.name outcome.tokensOut elapsedMs) := by
  rw [finish, Generated.turn]
  cases outcome.status with
  | completed | aborted => rfl
  | failed =>
    rw [List.append_nil]
    rfl

theorem settle_of_concluded {outcome : Generated}
    (h : Concluded cancel i.tokensIn opening outcome deltas) (s : Session) (elapsedMs : Nat) :
    s.settle i opening cancel elapsedMs =
      ⟨{ s with history := s.history ++ outcome.turn i.query, activity := .idle },
        [i.started, .generationFinished outcome.status.name outcome.tokensOut elapsedMs],
        .finished outcome deltas i.request⟩ := by
  cases h with
  | refused e =>
    simp only [settle, finish_eq]
    rfl
  | ended hconsume =>
    simp only [settle, hconsume, finish_eq]
    rfl

theorem settle_of_waits {wait : Wait} (h : Waits cancel opening wait deltas)
    (hs : s.activity = .assembling) (elapsedMs : Nat) :
    s.settle i opening cancel elapsedMs =
      ⟨{ s with activity := wait.activity }, [i.started], .abandoned deltas i.request⟩ := by
  cases h with
  | opening =>
    rw [Wait.activity, ← hs]
    rfl
  | chunks hconsume =>
    simp only [settle, hconsume]
    rfl

end Settle

/-! ## Calls -/

section Backend

variable {m : Type → Type} [Monad m] (backend : ChatRequest → m Opening) (now : LocalTime)
  (model : String) (cancel : Cancellation) (elapsedMs : Nat)

/-- A question that is refused has no effect whatever, so the backend is not called. -/
theorem generate_of_refusal {e : SessionError} (h : s.refusal query = some e) :
    s.generate now backend model query cancel elapsedMs = pure ⟨s, [], .rejected e⟩ := by
  rw [generate, inquire, h]

/-- A question that is not refused goes to the backend once, and the answer is settled. -/
theorem generate_of_ready (h : s.refusal query = none) :
    s.generate now backend model query cancel elapsedMs = do
      let opening ← backend (s.request model (s.compose now query))
      return settle { s with activity := .assembling } (s.inquiry now model query) opening cancel
        elapsedMs := by
  rw [generate, inquire, h]
  rfl

end Backend

theorem call_of_ready (h : s.refusal c.query = none) :
    s.call c = settle { s with activity := .assembling } (s.inquiry c.now c.model c.query)
      (c.backend (s.requestOf c)) c.cancel c.elapsedMs :=
  generate_of_ready _ _ _ _ _ h

theorem generate_observed (h : s.refusal c.query = none) (calls : List ChatRequest) :
    s.generate c.now c.observed c.model c.query c.cancel c.elapsedMs calls =
      (s.call c, calls ++ [s.requestOf c]) := by
  rw [generate_of_ready _ _ _ _ _ h, call_of_ready h]
  rfl

theorem call_of_concluded {outcome : Generated} {deltas : List String}
    (hready : s.refusal c.query = none)
    (h : Concluded c.cancel (s.compose c.now c.query).tokensIn (c.backend (s.requestOf c)) outcome
      deltas) :
    s.call c =
      ⟨{ s with history := s.history ++ outcome.turn c.query, activity := .idle },
        [s.startedOf c, .generationFinished outcome.status.name outcome.tokensOut c.elapsedMs],
        .finished outcome deltas (s.requestOf c)⟩ := by
  rw [call_of_ready hready]
  exact settle_of_concluded h _ _

theorem call_of_waits {wait : Wait} {deltas : List String} (hready : s.refusal c.query = none)
    (h : Waits c.cancel (c.backend (s.requestOf c)) wait deltas) :
    s.call c =
      ⟨{ s with activity := wait.activity }, [s.startedOf c],
        .abandoned deltas (s.requestOf c)⟩ := by
  rw [call_of_ready hready]
  exact settle_of_waits h rfl _

theorem call_course (s : Session) (c : Call) : Course s c (s.call c) := by
  cases hrefusal : s.refusal c.query with
  | some e =>
    have hcall : s.call c = ⟨s, [], .rejected e⟩ := generate_of_refusal _ _ _ _ _ hrefusal
    rw [hcall]
    exact .rejected hrefusal
  | none =>
    rcases concluded_or_waits c.cancel (s.compose c.now c.query).tokensIn
      (c.backend (s.requestOf c)) with ⟨outcome, deltas, h⟩ | ⟨wait, deltas, h⟩
    · rw [call_of_concluded hrefusal h]
      exact .concluded hrefusal h
    · rw [call_of_waits hrefusal h]
      exact .waits hrefusal h

/-- A call changes the history and where the session stands, and nothing else. -/
theorem session_call (s : Session) (c : Call) :
    ∃ history activity, (s.call c).session = { s with history, activity } := by
  have hcourse := s.call_course c
  generalize s.call c = step at hcourse ⊢
  cases hcourse <;> exact ⟨_, _, rfl⟩

/-- A call returns an outcome exactly if its backend lets it come to that end. -/
theorem answer_call_eq_finished_iff (hready : s.refusal c.query = none) (outcome : Generated)
    (deltas : List String) (sent : ChatRequest) :
    (s.call c).answer = .finished outcome deltas sent ↔
      Concluded c.cancel (s.compose c.now c.query).tokensIn (c.backend (s.requestOf c)) outcome
        deltas ∧ sent = s.requestOf c := by
  constructor
  · intro h
    have hcourse := s.call_course c
    generalize s.call c = step at h hcourse
    cases hcourse with
    | rejected | waits => cases h
    | concluded _ hconcluded =>
      cases h
      exact ⟨hconcluded, rfl⟩
  · rintro ⟨h, rfl⟩
    rw [call_of_concluded hready h]

theorem assembleRequest_eq_error_iff {e : SessionError} (now : LocalTime) :
    s.assembleRequest now query = .error e ↔ s.refusal query = some e := by
  rw [assembleRequest]
  cases s.refusal query <;> simp

/-- A question that is not refused goes to the backend once, in the request that would have been
assembled for it, whatever comes of it. If the call returns, it returns what the backend's answer
amounts to, a completed or aborted turn stands at the end of the history, a failed one nowhere, and
nothing else of the session has changed. It returns whenever the backend refuses, or the reading of
its stream ends. A question that is refused leaves the session as it was, tells nothing, and does
not reach the backend. -/
theorem generate_concludes (s : Session) (c : Call) (calls : List ChatRequest) :
    (s.activity = .idle → (∃ x ∈ c.query.toList, Text.isBlank x = false) →
      ∃ composed step, s.assembleRequest c.now c.query = .ok composed ∧
        let request : ChatRequest :=
          { model := c.model, messages := composed.messages
            temperature := s.settings.temperature, maxTokens := s.settings.maxTokens }
        s.generate c.now c.observed c.model c.query c.cancel c.elapsedMs calls =
          (step, calls ++ [request]) ∧
        ∀ outcome deltas sent,
          (step.answer = .finished outcome deltas sent ↔
            Concluded c.cancel (totalTokens composed.messages) (c.backend request) outcome deltas ∧
              sent = request) ∧
          (step.answer = .finished outcome deltas sent →
            step.session =
              { s with history := s.history ++ outcome.turn c.query, activity := .idle })) ∧
    ∀ e, s.assembleRequest c.now c.query = .error e →
      s.generate c.now c.observed c.model c.query c.cancel c.elapsedMs calls =
        (⟨s, [], .rejected e⟩, calls) := by
  constructor
  · intro hidle hquery
    have hready := refusal_eq_none hidle hquery
    refine ⟨s.compose c.now c.query, s.call c, assembleRequest_eq_ok hidle hquery c.now,
      generate_observed hready calls, fun outcome deltas sent => ⟨?_, fun hanswer => ?_⟩⟩
    · exact answer_call_eq_finished_iff hready outcome deltas sent
    · obtain ⟨hconcluded, -⟩ := (answer_call_eq_finished_iff hready _ _ _).mp hanswer
      rw [call_of_concluded hready hconcluded]
  · intro e he
    rw [generate_of_refusal _ _ _ _ _ ((assembleRequest_eq_error_iff c.now).mp he)]
    rfl

/-- A reply that is cancelled while its first delta is shown goes into the history after the turn
that is there, with the note behind the text received. If the backend refuses instead, the note
tells its error, and nothing goes there. -/
theorem generate_concludes_aborted :
    let s := ((new {}).ingest "a.rs" (.ok "fn a()")).record "hello" "hi"
    let c : Call :=
      { now := ⟨2026, 3, 14, 9, 26, 53⟩
        backend := fun _ => .opened ⟨[.ok (.delta "Hel"), .ok (.delta "lo")], .closed⟩
        model := "m", query := "explain a.rs", cancel := .duringDelta 1, elapsedMs := 0 }
    s.activity = .idle ∧
      ∃ step request, s.generate c.now c.observed c.model c.query c.cancel c.elapsedMs [] =
          (step, [request]) ∧
        step.session.pool = s.pool ∧ step.session.activity = .idle ∧
        step.session.history =
          [.user "hello", .assistant "hi", .user "explain a.rs",
            .assistant "Hel\n\n[ABORTED]"] ∧
      let refused : Call := { c with backend := fun _ => .refused (.network "no route") }
      ∃ step request outcome, s.generate c.now refused.observed c.model c.query c.cancel 0 [] =
          (step, [request]) ∧
        step.answer = .finished outcome [] request ∧
        outcome.text = "\n\n[ERROR: Network error: no route]" ∧
        step.session.history = [.user "hello", .assistant "hi"] := by
  intro s c
  obtain ⟨composed, step, -, hcalls, hanswer⟩ :=
    (generate_concludes s c []).1 rfl ⟨'e', by decide, by decide⟩
  have hconsume : Reply.consume (.duringDelta 1)
      ⟨[.ok (.delta "Hel"), .ok (.delta "lo")], .closed⟩ =
        .ended ⟨.aborted, "Hel\n\n[ABORTED]", 1, ["Hel"], none, none⟩ := rfl
  have hfinished := (hanswer _ _ _).1.mpr ⟨.ended hconsume, rfl⟩
  have hsession := (hanswer _ _ _).2 hfinished
  refine ⟨rfl, step, _, hcalls, ?_, ?_, ?_, ?_⟩
  · rw [hsession]
  · rw [hsession]
  · rw [hsession]
    rfl
  intro refused
  obtain ⟨composed, step, -, hcalls, hanswer⟩ :=
    (generate_concludes s refused []).1 rfl ⟨'e', by decide, by decide⟩
  have hfinished := (hanswer _ _ _).1.mpr ⟨.refused (.network "no route"), rfl⟩
  have htext : "\n\n[ERROR: " ++ (ProviderError.network "no route").message ++ "]" =
      "\n\n[ERROR: Network error: no route]" := by decide +kernel
  refine ⟨step, _, _, hcalls, hfinished, htext, ?_⟩
  rw [(hanswer _ _ _).2 hfinished]
  rfl

end Session
end FileChat
