import FileChat.Proofs.Session.Run

/-!
# Calls that are given up

A session is idle after every operation until a call to generate is given up while it waits. From
then on it stands where the call left it, for good: nothing that can be done to it, a reset
included, makes it idle again. It refuses every question as busy, without a call of the backend and
without an event, and does all else as an idle session does.
-/
namespace FileChat

/-- The operation was a call that was given up while it waited. -/
def Entry.Abandoned (e : Entry) : Prop :=
  ∃ deltas sent, e.step.answer = .generation (.abandoned deltas sent)

theorem Wait.activity_ne_idle (wait : Wait) : wait.activity ≠ .idle := by
  cases wait <;> decide

namespace Session

/-- A session that stands in a generation and refuses every question on that account. Whatever
else is done to it, it does as if it were idle. -/
structure Frozen (a : Activity) (s : Session) : Prop where
  activity_eq : s.activity = a
  assembleRequest_eq : ∀ now query, s.assembleRequest now query = .error (.busy a.name)
  generate_eq : ∀ {m : Type → Type} [Monad m] (backend : ChatRequest → m Opening) now model query
    cancel elapsedMs, s.generate now backend model query cancel elapsedMs =
      pure ⟨s, [], .rejected (.busy a.name)⟩
  perform_eq : ∀ o : Operation, o.asks = false →
    s.perform o = ((s.withActivity .idle).perform o).withActivity a

variable {s start : Session} {ops : List Operation} {c : Call} {a : Activity}

/-! ## One operation -/

theorem refusal_of_busy (h : s.activity ≠ .idle) (query : String) :
    s.refusal query = some (.busy s.activity.name) := if_pos h

theorem frozen_of_activity_eq (h : s.activity = a) (hbusy : a ≠ .idle) : Frozen a s := by
  subst h
  have hrefusal := refusal_of_busy hbusy
  constructor
  · rfl
  · intro now query
    exact (assembleRequest_eq_error_iff now).mpr (hrefusal query)
  · intro m _ backend now model query cancel elapsedMs
    exact generate_of_refusal backend now model cancel elapsedMs (hrefusal query)
  · intro o ho
    exact perform_withActivity ho (s.withActivity .idle) s.activity

/-- A busy session stands where it stood, whatever is done. -/
theorem activity_perform_of_busy (h : s.activity ≠ .idle) (o : Operation) :
    (s.perform o).session.activity = s.activity := by
  cases hasks : o.asks with
  | false => exact activity_perform hasks s
  | true =>
    cases o with
    | assembleRequest => rfl
    | generate c =>
      have hcall : s.call c = ⟨s, [], .rejected (.busy s.activity.name)⟩ :=
        generate_of_refusal _ _ _ _ _ (refusal_of_busy h c.query)
      rw [perform, hcall]
      rfl
    | _ => cases hasks

theorem activity_call_of_abandoned {deltas : List String} {sent : ChatRequest}
    (h : (s.call c).answer = .abandoned deltas sent) :
    ∃ wait, Waits c.cancel (c.backend sent) wait deltas ∧
      (s.call c).session.activity = wait.activity := by
  have hcourse := s.call_course c
  generalize s.call c = step at h hcourse
  cases hcourse with
  | rejected => cases h
  | waits _ hwaits =>
    cases h
    exact ⟨_, hwaits, rfl⟩
  | concluded => cases h

/-- An idle session is idle again after an operation, unless that is a call that is given up. -/
theorem activity_perform_of_idle (h : s.activity = .idle) {o : Operation}
    (hkept : ¬ Entry.Abandoned ⟨o, s.perform o⟩) : (s.perform o).session.activity = .idle := by
  cases hasks : o.asks with
  | false => exact (activity_perform hasks s).trans h
  | true =>
    cases o with
    | assembleRequest => exact h
    | generate c =>
      change ¬ Entry.Abandoned ⟨.generate c, (s.call c).map .generation⟩ at hkept
      change (s.call c).session.activity = .idle
      have hcourse := s.call_course c
      generalize s.call c = step at hkept hcourse ⊢
      cases hcourse with
      | rejected => exact h
      | waits => exact absurd ⟨_, _, rfl⟩ hkept
      | concluded => rfl
    | _ => cases hasks

/-! ## Whole runs -/

theorem activity_after_of_busy (h : s.activity ≠ .idle) (ops : List Operation) :
    (s.after ops).activity = s.activity := by
  induction ops generalizing s with
  | nil => rfl
  | cons o ops ih =>
    have hstep := activity_perform_of_busy h o
    exact (ih (hstep ▸ h)).trans hstep

theorem activity_after_of_idle (h : start.activity = .idle)
    (hkept : ∀ e ∈ start.trace ops, ¬ e.Abandoned) : (start.after ops).activity = .idle := by
  induction ops generalizing start with
  | nil => exact h
  | cons o ops ih =>
    have hstep := activity_perform_of_idle h (hkept _ List.mem_cons_self)
    exact ih hstep fun e he => hkept e (List.mem_cons_of_mem _ he)

/-- After any run of a new session in which no call was given up, the session is idle. A call that
is given up then leaves it assembling, if the backend was opening, or streaming, if chunks were
awaited; and whatever is done from then on, the session stands there, refuses every question as
busy with that, and does all else as an idle session does. -/
theorem frozen_after_abandoned (start : Session) (hstart : Fresh start) (ops : List Operation) :
    ((∀ e ∈ start.trace ops, ¬ e.Abandoned) → (start.after ops).activity = .idle) ∧
    ∀ (c : Call) (deltas : List String) (sent : ChatRequest),
      ((start.after ops).call c).answer = .abandoned deltas sent →
      ∃ wait, Waits c.cancel (c.backend sent) wait deltas ∧
        (start.after (ops ++ [.generate c])).activity = wait.activity ∧
        ∀ later : List Operation,
          Frozen wait.activity (start.after (ops ++ .generate c :: later)) := by
  refine ⟨activity_after_of_idle hstart.activity_eq, fun c deltas sent habandoned => ?_⟩
  obtain ⟨wait, hwaits, hactivity⟩ := activity_call_of_abandoned habandoned
  have hleft : (start.after (ops ++ [.generate c])).activity = wait.activity := by
    rw [after_concat]
    exact hactivity
  refine ⟨wait, hwaits, hleft, fun later => ?_⟩
  have hbusy : (start.after (ops ++ [.generate c])).activity ≠ .idle := by
    rw [hleft]
    exact wait.activity_ne_idle
  have hlater := activity_after_of_busy hbusy later
  rw [← after_append, List.append_assoc] at hlater
  exact frozen_of_activity_eq (hlater.trans hleft) wait.activity_ne_idle

/-- A call that is given up between two chunks: after a reset the session still streams, refuses
even an empty question on that account, and still records. -/
theorem frozen_after_abandoned_streaming :
    let now : LocalTime := ⟨2026, 3, 14, 9, 26, 53⟩
    let c : Call :=
      ⟨now, fun _ => .opened ⟨[.ok (.delta "Hel")], .pending⟩, "m", "explain", .never, 0⟩
    let s := (new {}).after ([.pin "a.rs"] ++ .generate c :: [.reset, .record "hello" "hi"])
    s.activity = .streaming ∧ s.assembleRequest now "" = .error (.busy "streaming") ∧
      s.pins.size = 0 ∧ s.history = [.user "hello", .assistant "hi"] := by
  intro now c s
  have hready : ((new {}).after [.pin "a.rs"]).refusal c.query = none :=
    refusal_eq_none rfl ⟨'e', by decide, by decide⟩
  have hcall := call_of_waits hready (.chunks rfl)
  obtain ⟨wait, hwaits, -, hfrozen⟩ :=
    (frozen_after_abandoned (new {}) (.new {}) [.pin "a.rs"]).2 c _ _ (congrArg _ hcall)
  obtain rfl : wait = .chunks := by
    cases wait with
    | opening => cases hwaits
    | chunks => rfl
  have hlater := hfrozen [.reset, .record "hello" "hi"]
  exact ⟨hlater.activity_eq, hlater.assembleRequest_eq now "", rfl, rfl⟩

end Session
end FileChat
