import FileChat.Proofs.Session.Run
import Mathlib.Data.List.DropRight

/-!
# What an observer knows

An observer sees no more of a session than the events that it tells. Folding them gives a `View` of
the mode, the pins and, if artifacts come in batches only, the pool; and the view is right after
every operation. Each part of it is what the last event of its kind said, since the last reset where
a reset clears it. A call to generate is told as a beginning and an end, as a beginning alone if it
is given up, and not at all if it is refused.
-/
namespace FileChat

/-- Whether an operation brings in an artifact outside a batch, which is told to nobody. -/
def Operation.ingestsAlone : Operation → Bool
  | ingest .. => true
  | _ => false

namespace Event

def mode? : Event → Option String
  | modeChanged mode => some mode
  | _ => none

def pinned? : Event → Option Nat
  | pinsChanged pinned => some pinned
  | _ => none

def poolSize? : Event → Option Nat
  | artifactsIngested _ _ poolSize => some poolSize
  | _ => none

/-- Whether an event tells of a generation. -/
def ofGeneration : Event → Bool
  | generationStarted .. | generationFinished .. => true
  | _ => false

end Event

/-- The events after the last reset. -/
def sinceReset (events : List Event) : List Event := events.rtakeWhile fun e => e ≠ .sessionReset

/-- What the last event that says anything of a kind says, or a default. -/
def lastSaid {α : Type} (read : Event → Option α) (default : α) (events : List Event) : α :=
  (events.filterMap read).getLast?.getD default

/-- What an observer knows of a session: its mode, by name, and how many pins and artifacts it
has. -/
structure View where
  mode : String
  pinned : Nat
  poolSize : Nat
  deriving DecidableEq, Repr

namespace View

/-- What an observer knows of a session in which nothing has happened yet. -/
def ofMode (mode : Mode) : View := ⟨mode.name, 0, 0⟩

/-- Takes in an event. -/
def observe (v : View) : Event → View
  | .modeChanged mode => { v with mode }
  | .pinsChanged pinned => { v with pinned }
  | .artifactsIngested _ _ poolSize => { v with poolSize }
  | .sessionReset => { v with pinned := 0, poolSize := 0 }
  | .generationStarted .. | .generationFinished .. => v

def observeAll (v : View) (events : List Event) : View := events.foldl observe v

/-- The view is right about the mode and the pins, and under a condition about the pool. -/
structure Tracks (v : View) (s : Session) (batched : Prop) : Prop where
  mode : v.mode = s.mode.name
  pinned : v.pinned = s.pins.size
  poolSize : batched → v.poolSize = s.pool.size

end View

/-- The events of a run, in order. -/
def told (trace : List Entry) : List Event := trace.flatMap (·.step.events)

/-- The request that reaches the backend, and what it was composed of. -/
structure Sends (s : Session) (c : Call) (composed : Composed) (sent : ChatRequest) : Prop where
  assembled : s.assembleRequest c.now c.query = .ok composed
  messages_eq : sent.messages = composed.messages
  observed : (s.generate c.now c.observed c.model c.query c.cancel c.elapsedMs []).2 = [sent]

/-- What tells of the beginning of a call: the front of its question, and what was composed for
it. -/
def beginning (c : Call) (composed : Composed) : Event :=
  .generationStarted (String.ofList (c.query.toList.take 80)) composed.context.usedTokens
    composed.historyTurns

/-- What an operation tells of generations, by what came of it. -/
inductive Tells (s : Session) : Operation → Answer → List Event → Prop
  | other {o : Operation} {answer : Answer} {events : List Event} :
      (∀ c, o ≠ .generate c) → (∀ e ∈ events, e.ofGeneration = false) → Tells s o answer events
  | rejected {c : Call} (e : SessionError) :
      Tells s (.generate c) (.generation (.rejected e)) []
  | abandoned {c : Call} {composed : Composed} {sent : ChatRequest} (deltas : List String) :
      Sends s c composed sent →
      Tells s (.generate c) (.generation (.abandoned deltas sent)) [beginning c composed]
  | finished {c : Call} {composed : Composed} {sent : ChatRequest} (outcome : Generated)
      (deltas : List String) :
      Sends s c composed sent →
      Tells s (.generate c) (.generation (.finished outcome deltas sent))
        [beginning c composed,
          .generationFinished outcome.status.name outcome.tokensOut c.elapsedMs]

/-! ## What events say -/

section Said

variable {α : Type} (read : Event → Option α) (default : α)

theorem lastSaid_concat (events : List Event) (e : Event) :
    lastSaid read default (events ++ [e]) = (read e).getD (lastSaid read default events) := by
  rw [lastSaid, List.filterMap_append, lastSaid]
  cases h : read e <;> simp [h]

end Said

theorem sinceReset_concat (events : List Event) (e : Event) :
    sinceReset (events ++ [e]) = if e = .sessionReset then [] else sinceReset events ++ [e] := by
  rw [sinceReset, List.rtakeWhile_concat]
  by_cases h : e = .sessionReset <;> simp [h, sinceReset]

/-- The view is made of what the last events said. -/
theorem View.observeAll_ofMode (mode : Mode) (events : List Event) :
    (View.ofMode mode).observeAll events =
      ⟨lastSaid Event.mode? mode.name events, lastSaid Event.pinned? 0 (sinceReset events),
        lastSaid Event.poolSize? 0 (sinceReset events)⟩ := by
  induction events using List.reverseRecOn with
  | nil => rfl
  | append_singleton events e ih =>
    have hlast : (View.ofMode mode).observeAll (events ++ [e]) =
        ((View.ofMode mode).observeAll events).observe e := List.foldl_append
    rw [hlast, ih, lastSaid_concat, sinceReset_concat]
    cases e with
    | sessionReset => rfl
    | _ =>
      rw [if_neg (by simp), lastSaid_concat, lastSaid_concat]
      rfl

/-- A view takes no notice of generations. -/
theorem View.observeAll_of_ofGeneration {events : List Event}
    (h : ∀ e ∈ events, e.ofGeneration = true) (v : View) : v.observeAll events = v := by
  induction events with
  | nil => rfl
  | cons e events ih =>
    have hstep : v.observe e = v := by
      cases e with
      | generationStarted | generationFinished => rfl
      | _ => cases h _ List.mem_cons_self
    have hrest := ih fun e' he' => h e' (List.mem_cons_of_mem _ he')
    rw [observeAll, List.foldl_cons, hstep]
    exact hrest

theorem Mode.ofName_name (m : Mode) : Mode.ofName m.name = .ok m := by cases m <;> rfl

namespace Session

variable {s start : Session} {ops : List Operation} {v : View}

/-! ## One operation -/

theorem sends_of_ready {c : Call} (h : s.refusal c.query = none) :
    Sends s c (s.compose c.now c.query) (s.requestOf c) := by
  refine ⟨?_, rfl, ?_⟩
  · rw [assembleRequest, h]
  · exact congrArg Prod.snd (generate_observed h [])

theorem tells_call (s : Session) (c : Call) :
    Tells s (.generate c) (.generation (s.call c).answer) (s.call c).events := by
  have hcourse := s.call_course c
  generalize s.call c = step at hcourse ⊢
  cases hcourse with
  | rejected => exact .rejected _
  | waits hready => exact .abandoned _ (sends_of_ready hready)
  | concluded hready => exact .finished _ _ (sends_of_ready hready)

theorem ofGeneration_of_mem_call {c : Call} :
    ∀ e ∈ (s.call c).events, e.ofGeneration = true := by
  have hcourse := s.call_course c
  generalize s.call c = step at hcourse ⊢
  cases hcourse with
  | rejected => simp
  | waits => simp [startedOf, inquiry, Event.ofGeneration]
  | concluded => simp [startedOf, inquiry, Event.ofGeneration]

/-- An operation tells of generations what came of its call, if it is one. -/
theorem tells_perform (s : Session) (o : Operation) :
    Tells s o (s.perform o).answer (s.perform o).events := by
  cases o with
  | generate c => exact s.tells_call c
  | pin identifier =>
    refine .other (by simp) ?_
    simp only [perform, pin_eq, Step.map]
    split <;> simp [Event.ofGeneration]
  | focus pattern =>
    refine .other (by simp) ?_
    simp only [perform, focus, Step.map]
    split <;> simp [Event.ofGeneration]
  | clearPins =>
    refine .other (by simp) ?_
    simp only [perform, clearPins, Step.map]
    split <;> simp [Event.ofGeneration]
  | setMode mode =>
    refine .other (by simp) ?_
    simp only [perform, setMode_eq, Step.map]
    split <;> simp [Event.ofGeneration]
  | _ => exact .other (by simp) (by simp [perform, Step.map, ingestAll, reset, Event.ofGeneration])

/-- After an operation the view is right again: about the pool too, unless that is an artifact that
comes in by itself. -/
theorem tracks_perform {o : Operation} {before after : Prop} (h : v.Tracks s before)
    (hbatched : after → before ∧ o.ingestsAlone = false) :
    (v.observeAll (s.perform o).events).Tracks (s.perform o).session after := by
  have hkept : v.Tracks s after := ⟨h.mode, h.pinned, fun hafter => h.poolSize (hbatched hafter).1⟩
  cases o with
  | ingest path outcome =>
    refine ⟨h.mode, h.pinned, fun hafter => ?_⟩
    cases (hbatched hafter).2
  | ingestAll items =>
    simp only [perform, ingestAll, foldl_ingest]
    exact ⟨h.mode, h.pinned, fun _ => rfl⟩
  | pin identifier =>
    simp only [perform, pin]
    split
    · exact hkept
    · exact ⟨hkept.mode, rfl, hkept.poolSize⟩
  | focus pattern =>
    simp only [perform, focus]
    cases s.named pattern with
    | nil => exact hkept
    | cons => exact ⟨hkept.mode, rfl, hkept.poolSize⟩
  | clearPins =>
    simp only [perform, clearPins]
    split
    · next hnone => exact ⟨hkept.mode, hkept.pinned.trans hnone, hkept.poolSize⟩
    · exact ⟨hkept.mode, rfl, hkept.poolSize⟩
  | setMode mode =>
    simp only [perform, setMode]
    split
    · exact hkept
    · exact ⟨rfl, hkept.pinned, hkept.poolSize⟩
  | reset => exact ⟨h.mode, rfl, fun _ => rfl⟩
  | generate c =>
    obtain ⟨history, activity, hsession⟩ := s.session_call c
    change (v.observeAll (s.call c).events).Tracks (s.call c).session after
    rw [View.observeAll_of_ofGeneration ofGeneration_of_mem_call, hsession]
    exact ⟨hkept.mode, hkept.pinned, hkept.poolSize⟩
  | inventory | search | assembleRequest | record =>
    exact ⟨hkept.mode, hkept.pinned, hkept.poolSize⟩

/-! ## Whole runs -/

theorem told_trace_append (s : Session) (ops more : List Operation) :
    told (s.trace (ops ++ more)) = told (s.trace ops) ++ told ((s.after ops).trace more) := by
  rw [trace_append, told, List.flatMap_append]
  rfl

theorem tracks_after (h : Fresh start) (ops : List Operation) :
    ((View.ofMode start.mode).observeAll (told (start.trace ops))).Tracks (start.after ops)
      (∀ o ∈ ops, o.ingestsAlone = false) := by
  induction ops using List.reverseRecOn with
  | nil =>
    refine ⟨rfl, ?_, fun _ => ?_⟩
    · rw [after, List.foldl_nil, h.pins_eq]
      rfl
    · rw [after, List.foldl_nil, h.pool_eq]
      rfl
  | append_singleton ops o ih =>
    have htold : told (start.trace (ops ++ [o])) =
        told (start.trace ops) ++ ((start.after ops).perform o).events := by
      rw [told_trace_append]
      exact congrArg _ (List.append_nil _)
    rw [after_concat, htold, View.observeAll, List.foldl_append]
    refine tracks_perform ih fun hbatched => ⟨fun o' ho' => ?_, ?_⟩
    · exact hbatched o' (List.mem_append_left _ ho')
    · exact hbatched o (List.mem_append_right _ List.mem_cons_self)

/-- After any run of a new session the view that its events give is right: about the mode, about the
number of pins, and about the size of the pool if artifacts come in batches only. Each of these is
what the last event of its kind said, for pins and pool since the last reset. Of generations each
operation tells, between all that was told before it and after it, what came of its call: a
beginning and right behind it the end, a beginning alone if the call was given up, and nothing if it
was refused. The beginning shows the front of the question and what was composed in the request that
the backend got. -/
theorem view_tracks_session (start : Session) (hstart : Fresh start) (ops : List Operation) :
    let s := start.after ops
    let events := told (start.trace ops)
    let view := (View.ofMode start.mode).observeAll events
    view.mode = lastSaid Event.mode? start.mode.name events ∧
    Mode.ofName view.mode = .ok s.mode ∧
    view.pinned = lastSaid Event.pinned? 0 (sinceReset events) ∧
    view.pinned = s.pins.size ∧
    view.poolSize = lastSaid Event.poolSize? 0 (sinceReset events) ∧
    ((∀ o ∈ ops, o.ingestsAlone = false) → view.poolSize = s.pool.size) ∧
    ∀ before o later, ops = before ++ o :: later →
      let step := (start.after before).perform o
      events = told (start.trace before) ++ (step.events ++ told (step.session.trace later)) ∧
      Tells (start.after before) o step.answer step.events := by
  intro s events view
  have htracks := tracks_after hstart ops
  have hview := View.observeAll_ofMode start.mode events
  refine ⟨congrArg (·.mode) hview, ?_, congrArg (·.pinned) hview, htracks.pinned,
    congrArg (·.poolSize) hview, htracks.poolSize, ?_⟩
  · rw [htracks.mode]
    exact s.mode.ofName_name
  · rintro before o later rfl
    exact ⟨told_trace_append start before (o :: later), tells_perform _ o⟩

/-- A batch, a file in focus, another mode, a reply, a reset and one pin: the observer knows of one
pin, of no file and of the mode, and was told of the reply from its beginning to its end. -/
theorem view_tracks_session_reset :
    let c : Call :=
      ⟨⟨2026, 3, 14, 9, 26, 53⟩, fun _ => .opened ⟨[.ok (.delta "Hello")], .closed⟩, "m",
        "explain a.rs", .never, 7⟩
    let before : List Operation :=
      [.ingestAll [("src/a.rs", .ok "fn a()")], .focus "A", .setMode .full]
    let later : List Operation := [.reset, .pin "b.rs"]
    let view := (View.ofMode .smart).observeAll
      (told ((new {}).trace (before ++ .generate c :: later)))
    Mode.ofName view.mode = .ok .full ∧ view.pinned = 1 ∧ view.poolSize = 0 ∧
      ∃ composed, ((new {}).after before).assembleRequest c.now c.query = .ok composed ∧
        (((new {}).after before).perform (.generate c)).events =
          [.generationStarted "explain a.rs" composed.context.usedTokens composed.historyTurns,
            .generationFinished "completed" 1 7] := by
  intro c before later view
  obtain ⟨-, hmode, -, hpinned, -, hpool, htells⟩ :=
    view_tracks_session (new {}) (.new {}) (before ++ .generate c :: later)
  have hready : ((new {}).after before).refusal c.query = none :=
    refusal_eq_none rfl ⟨'e', by decide, by decide⟩
  have hcall := call_of_concluded hready (.ended rfl)
  have hkept : (((new {}).after before).perform (.generate c)).session.mode = .full :=
    congrArg (fun step : Step Generation => step.session.mode) hcall
  refine ⟨hmode.trans (congrArg _ hkept), hpinned,
    hpool (by simp [before, later, Operation.ingestsAlone]), ?_⟩
  have hanswer : (((new {}).after before).perform (.generate c)).answer = .generation _ :=
    congrArg (fun step : Step Generation => Answer.generation step.answer) hcall
  obtain ⟨-, htold⟩ := htells before (.generate c) later rfl
  rw [hanswer] at htold
  generalize (((new {}).after before).perform (.generate c)).events = events at htold ⊢
  cases htold with
  | other hno => exact absurd rfl (hno c)
  | finished _ _ hsends =>
    have hfront : String.ofList (c.query.toList.take 80) = "explain a.rs" := by
      change String.ofList ("explain a.rs".toList.take 80) = _
      rfl
    refine ⟨_, hsends.assembled, ?_⟩
    rw [beginning, hfront]
    rfl

end Session
end FileChat
