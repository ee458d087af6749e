import FileChat.Proofs.Session.Run
import FileChat.Proofs.Stream.Consumption
import Mathlib.Data.List.DropRight

/-!
# The history as a log of turns

Each operation contributes at most one turn, a question with its reply: recording one does, and so
does a call to generate that was completed or aborted. The history of a session is the log of the
turns since the last reset, each as two messages; so questions and replies take turns in it, and it
only grows until it is cleared. A call that fails, is refused or is given up leaves no trace in it.
-/
namespace FileChat

/-- A question with its reply, and how the reply came to its end if it was generated. -/
structure Turn where
  query : String
  reply : String
  status : Option Status
  deriving DecidableEq, Repr

def Turn.messages (t : Turn) : List Message := [.user t.query, .assistant t.reply]

/-- The turn that a call to generate contributes. -/
def Generation.turn? (query : String) : Generation → Option Turn
  | .finished outcome _ _ =>
    match outcome.status with
    | .completed | .aborted => some ⟨query, outcome.text, some outcome.status⟩
    | .failed => none
  | .rejected _ | .abandoned .. => none

/-- The turn that an operation contributes. -/
def Entry.turn? (e : Entry) : Option Turn :=
  match e.operation, e.step.answer with
  | .record query reply, _ => some ⟨query, reply, none⟩
  | .generate c, .generation g => g.turn? c.query
  | _, _ => none

/-- The turns contributed since the last reset, in order. -/
def turnsSinceReset (trace : List Entry) : List Turn :=
  (trace.rtakeWhile fun e => !e.operation.isReset).filterMap Entry.turn?

/-- A call to generate that was refused, given up or has failed. -/
inductive Fruitless : Generation → Prop
  | rejected (e : SessionError) : Fruitless (.rejected e)
  | abandoned (deltas : List String) (sent : ChatRequest) : Fruitless (.abandoned deltas sent)
  | failed {outcome : Generated} (deltas : List String) (sent : ChatRequest) :
      outcome.status = .failed → Fruitless (.finished outcome deltas sent)

/-! ## Turns as messages -/

theorem length_flatMap_messages (turns : List Turn) :
    (turns.flatMap Turn.messages).length = 2 * turns.length := by
  induction turns with
  | nil => rfl
  | cons t turns ih =>
    rw [List.flatMap_cons, List.length_append, ih, List.length_cons]
    change 2 + 2 * turns.length = 2 * (turns.length + 1)
    omega

theorem role_flatMap_messages (turns : List Turn) (i : Nat)
    (h : i < (turns.flatMap Turn.messages).length) :
    (turns.flatMap Turn.messages)[i].role = if i % 2 = 0 then .user else .assistant := by
  induction turns generalizing i with
  | nil => cases h
  | cons t turns ih =>
    match i with
    | 0 => rfl
    | 1 => rfl
    | i + 2 =>
      have hparity : (i + 2) % 2 = i % 2 := Nat.add_mod_right i 2
      rw [hparity]
      exact ih i (Nat.lt_of_add_lt_add_right h)

theorem Generation.turn?_of_fruitless {g : Generation} (h : Fruitless g) (query : String) :
    g.turn? query = none := by
  cases h with
  | rejected | abandoned => rfl
  | failed _ _ hfailed => rw [turn?, hfailed]

theorem Generation.turn?_eq_some {g : Generation} {query : String} {t : Turn}
    (h : g.turn? query = some t) :
    ∃ outcome deltas sent, g = .finished outcome deltas sent ∧
      t = ⟨query, outcome.text, some outcome.status⟩ := by
  cases g with
  | rejected => cases h
  | abandoned => cases h
  | finished outcome deltas sent =>
    refine ⟨outcome, deltas, sent, rfl, ?_⟩
    rw [turn?] at h
    cases hstatus : outcome.status with
    | completed | aborted =>
      rw [hstatus] at h
      exact (Option.some.inj h).symm
    | failed =>
      rw [hstatus] at h
      cases h

theorem Generated.turn_eq (outcome : Generated) (query : String) (deltas : List String)
    (sent : ChatRequest) :
    outcome.turn query =
      ((Generation.finished outcome deltas sent).turn? query).toList.flatMap Turn.messages := by
  rw [turn, Generation.turn?]
  cases outcome.status <;> rfl

namespace Session

variable {s start : Session} {ops later : List Operation} {c : Call} {t : Turn}

/-! ## One operation -/

theorem history_call (s : Session) (c : Call) :
    (s.call c).session.history =
      s.history ++ ((s.call c).answer.turn? c.query).toList.flatMap Turn.messages := by
  have hcourse := s.call_course c
  generalize s.call c = step at hcourse ⊢
  cases hcourse with
  | rejected | waits => exact (List.append_nil _).symm
  | concluded => exact congrArg (s.history ++ ·) (Generated.turn_eq _ _ _ _)

/-- An operation clears the history or adds the turn that it contributes. -/
theorem history_perform (s : Session) (o : Operation) :
    (s.perform o).session.history =
      if o.isReset then []
      else s.history ++ (Entry.turn? ⟨o, s.perform o⟩).toList.flatMap Turn.messages := by
  cases o with
  | generate c => exact s.history_call c
  | ingestAll items =>
    simp only [perform, ingestAll, foldl_ingest]
    exact (List.append_nil _).symm
  | pin identifier =>
    simp only [perform, pin_eq]
    exact (List.append_nil _).symm
  | setMode mode =>
    simp only [perform, setMode_eq]
    exact (List.append_nil _).symm
  | record | reset => rfl
  | _ => exact (List.append_nil _).symm

theorem history_call_of_fruitless (h : Fruitless (s.call c).answer) :
    (s.call c).session.history = s.history := by
  rw [history_call, Generation.turn?_of_fruitless h]
  exact List.append_nil _

/-- An aborted reply in a turn is what was received, with the note behind it. -/
theorem reply_of_aborted (h : (s.call c).answer.turn? c.query = some t)
    (haborted : t.status = some .aborted) :
    ∃ received, t.reply = received ++ "\n\n[ABORTED]" := by
  obtain ⟨outcome, deltas, sent, hanswer, rfl⟩ := Generation.turn?_eq_some h
  have hcourse := s.call_course c
  generalize s.call c = step at hanswer hcourse
  cases hcourse with
  | rejected | waits => cases hanswer
  | concluded _ hconcluded =>
    cases hanswer
    generalize c.backend (s.requestOf c) = opening at hconcluded
    cases hconcluded with
    | refused e => cases haborted
    | ended hconsume => exact Reply.text_of_aborted hconsume (Option.some.inj haborted)

/-! ## Whole runs -/

/-- The history after a run is the log of its turns since the last reset. The induction takes the
run apart from its last operation, which clears the log or adds to it. -/
theorem history_after (h : start.history = []) (ops : List Operation) :
    (start.after ops).history = (turnsSinceReset (start.trace ops)).flatMap Turn.messages := by
  induction ops using List.reverseRecOn with
  | nil => exact h
  | append_singleton ops o ih =>
    have hlast (e : Entry) : [e].filterMap Entry.turn? = e.turn?.toList := by
      rw [List.filterMap_cons]
      cases e.turn? <;> rfl
    rw [after_concat, history_perform, trace_concat, turnsSinceReset, List.rtakeWhile_concat]
    by_cases hreset : o.isReset = true
    · rw [if_pos hreset, if_neg (by simp [hreset])]
      rfl
    · rw [if_neg hreset, if_pos (by simp [hreset]), List.filterMap_append, List.flatMap_append,
        hlast, ih, turnsSinceReset]

/-- Without a reset the history only grows. -/
theorem history_isPrefix_after (h : ∀ o ∈ later, o.isReset = false) (s : Session) :
    s.history <+: (s.after later).history := by
  induction later generalizing s with
  | nil => exact List.prefix_rfl
  | cons o later ih =>
    have hstep : s.history <+: (s.perform o).session.history := by
      rw [history_perform, h o List.mem_cons_self]
      exact List.prefix_append _ _
    exact hstep.trans (ih (fun o' ho' => h o' (List.mem_cons_of_mem o ho')) _)

theorem reply_of_aborted_turn (ht : t ∈ turnsSinceReset (start.trace ops))
    (haborted : t.status = some .aborted) :
    ∃ received, t.reply = received ++ "\n\n[ABORTED]" := by
  obtain ⟨e, he, hturn⟩ := List.mem_filterMap.mp ht
  have hmem := (List.rtakeWhile_suffix _ _).mem he
  obtain ⟨s, hstep⟩ := exists_perform_of_mem_trace hmem
  obtain ⟨o, step⟩ := e
  obtain rfl : step = s.perform o := hstep
  cases o with
  | generate c => exact reply_of_aborted hturn haborted
  | record query reply =>
    cases hturn
    cases haborted
  | _ => cases hturn

/-- After any run of a new session its history is the log of the turns since the last reset. So it
is of even length, user and assistant take turns in it, and it begins whatever history follows
before the next reset. The reply of a call that was aborted ends with the note that says so, and a
call that failed, was refused or was given up leaves the history as it was. -/
theorem history_eq_log (start : Session) (hstart : Fresh start) (ops : List Operation) :
    let turns := turnsSinceReset (start.trace ops)
    let history := (start.after ops).history
    history = turns.flatMap Turn.messages ∧
    history.length = 2 * turns.length ∧
    (∀ (i : Nat) (h : i < history.length),
      history[i].role = if i % 2 = 0 then .user else .assistant) ∧
    (∀ later : List Operation, (∀ o ∈ later, o.isReset = false) →
      history <+: (start.after (ops ++ later)).history) ∧
    (∀ t ∈ turns, t.status = some .aborted →
      ∃ received, t.reply = received ++ "\n\n[ABORTED]") ∧
    ∀ c : Call, Fruitless ((start.after ops).call c).answer →
      (start.after (ops ++ [.generate c])).history = history := by
  have hlog := history_after hstart.history_eq ops
  refine ⟨hlog, ?_, ?_, ?_, ?_, ?_⟩
  · rw [hlog, length_flatMap_messages]
  · simp only [hlog]
    exact role_flatMap_messages _
  · intro later hlater
    rw [after_append]
    exact history_isPrefix_after hlater _
  · exact fun t => reply_of_aborted_turn
  · intro c hfruitless
    rw [after_concat]
    exact history_call_of_fruitless hfruitless

/-- After a reset, a turn that was recorded and one that was aborted are in the log; a call that the
backend refuses then adds nothing to it. -/
theorem history_eq_log_refused :
    let ops : List Operation :=
      [.record "old" "gone", .reset, .record "hello" "hi",
        .generate ⟨⟨2026, 3, 14, 9, 26, 53⟩,
          fun _ => .opened ⟨[.ok (.delta "Hel"), .ok (.delta "lo")], .closed⟩, "m", "explain",
          .duringDelta 1, 0⟩]
    let refused : Call :=
      ⟨⟨2026, 3, 14, 9, 27, 0⟩, fun _ => .refused (.timeout "connect"), "m", "again", .never, 0⟩
    ((new {}).after (ops ++ [.generate refused])).history =
      [.user "hello", .assistant "hi", .user "explain", .assistant "Hel\n\n[ABORTED]"] := by
  intro ops refused
  obtain ⟨hlog, -, -, -, -, hfruitless⟩ := history_eq_log (new {}) (.new {}) ops
  have hready : ((new {}).after ops).refusal refused.query = none :=
    refusal_eq_none rfl ⟨'a', by decide, by decide⟩
  have hcall := call_of_concluded hready (.refused (.timeout "connect"))
  have hfailed : Fruitless (((new {}).after ops).call refused).answer := by
    rw [hcall]
    exact .failed _ _ rfl
  rw [hfruitless refused hfailed, hlog]
  rfl

end Session
end FileChat
