import FileChat.Proofs.Session.Generation

/-!
# Runs of a session

Everything that can be done to a session is an `Operation`, and a run is a list of them, done one
after another. What a run leaves is `after`; its `trace` keeps each operation with what it left,
told and answered. Only the operations that ask a question read or change where the session stands:
all others do the same in every activity and leave it alone.
-/
namespace FileChat

inductive Operation where
  | ingest (path : String) (outcome : Outcome)
  | ingestAll (items : List (String × Outcome))
  | pin (identifier : String)
  | focus (pattern : String)
  | clearPins
  | setMode (mode : Mode)
  | inventory
  | search (needle : String)
  | assembleRequest (now : LocalTime) (query : String)
  | record (query reply : String)
  | reset
  | generate (c : Call)

/-- What an operation answers. -/
inductive Answer where
  | done
  | artifact (a : Artifact)
  | report (r : IngestReport)
  | fresh (isNew : Bool)
  | names (names : List String)
  | count (n : Nat)
  | inventory (i : Inventory)
  | hits (hits : List SearchHit)
  | request (r : Except SessionError Composed)
  | generation (g : Generation)

namespace Operation

/-- Whether an operation asks a question, which a session answers only when it is idle. -/
def asks : Operation → Bool
  | assembleRequest .. | generate _ => true
  | _ => false

def isReset : Operation → Bool
  | reset => true
  | _ => false

end Operation

/-- An operation and what came of it. -/
structure Entry where
  operation : Operation
  step : Step Answer

def Step.map {α β : Type} (f : α → β) (t : Step α) : Step β := ⟨t.session, t.events, f t.answer⟩

namespace Session

/-- Carries out an operation. -/
def perform (s : Session) : Operation → Step Answer
  | .ingest path outcome =>
    ⟨s.ingest path outcome, [], .artifact (.ofOutcome path outcome)⟩
  | .ingestAll items => (s.ingestAll items).map .report
  | .pin identifier => (s.pin identifier).map .fresh
  | .focus pattern => (s.focus pattern).map .names
  | .clearPins => s.clearPins.map .count
  | .setMode mode => (s.setMode mode).map fun _ => .done
  | .inventory => ⟨s, [], .inventory s.inventory⟩
  | .search needle => ⟨s, [], .hits (s.search needle)⟩
  | .assembleRequest now query => ⟨s, [], .request (s.assembleRequest now query)⟩
  | .record query reply => ⟨s.record query reply, [], .done⟩
  | .reset => s.reset.map fun _ => .done
  | .generate c => (s.call c).map .generation

/-- What a run leaves. -/
def after (s : Session) (ops : List Operation) : Session :=
  ops.foldl (fun s o => (s.perform o).session) s

def trace (s : Session) : List Operation → List Entry
  | [] => []
  | o :: ops => ⟨o, s.perform o⟩ :: (s.perform o).session.trace ops

/-- A session that was just made. -/
inductive Fresh : Session → Prop
  | new (settings : Settings) : Fresh (new settings)
  | ofConfig (c : Config) : Fresh (ofConfig c)

/-- The session as it would be if it stood elsewhere. -/
def withActivity (s : Session) (activity : Activity) : Session := { s with activity }

end Session

def Step.withActivity {α : Type} (t : Step α) (activity : Activity) : Step α :=
  { t with session := t.session.withActivity activity }

namespace Session

variable {s start : Session} {ops : List Operation}

/-! ## Runs, from their last operation -/

theorem after_append (s : Session) (ops more : List Operation) :
    s.after (ops ++ more) = (s.after ops).after more := List.foldl_append

theorem after_concat (s : Session) (ops : List Operation) (o : Operation) :
    s.after (ops ++ [o]) = ((s.after ops).perform o).session := after_append s ops [o]

theorem trace_append (s : Session) (ops more : List Operation) :
    s.trace (ops ++ more) = s.trace ops ++ (s.after ops).trace more := by
  induction ops generalizing s with
  | nil => rfl
  | cons first ops ih => exact congrArg _ (ih (s.perform first).session)

theorem trace_concat (s : Session) (ops : List Operation) (o : Operation) :
    s.trace (ops ++ [o]) = s.trace ops ++ [⟨o, (s.after ops).perform o⟩] := trace_append s ops [o]

theorem exists_perform_of_mem_trace {e : Entry} (h : e ∈ s.trace ops) :
    ∃ s' : Session, e.step = s'.perform e.operation := by
  induction ops generalizing s with
  | nil => cases h
  | cons o ops ih =>
    rcases List.mem_cons.mp h with rfl | hmem
    · exact ⟨s, rfl⟩
    · exact ih hmem

theorem Fresh.pool_eq (h : Fresh start) : start.pool = .empty := by cases h <;> rfl

theorem Fresh.pins_eq (h : Fresh start) : start.pins = .empty := by cases h <;> rfl

theorem Fresh.history_eq (h : Fresh start) : start.history = [] := by cases h <;> rfl

theorem Fresh.activity_eq (h : Fresh start) : start.activity = .idle := by cases h <;> rfl

/-! ## What operations leave alone -/

/-- A batch changes the pool, one artifact after another, and nothing else. -/
theorem foldl_ingest (s : Session) (items : List (String × Outcome)) :
    items.foldl (fun s (path, outcome) => s.ingest path outcome) s =
      { s with
        pool := items.foldl (fun pool (path, outcome) => pool.insert (.ofOutcome path outcome))
          s.pool } := by
  induction items generalizing s with
  | nil => rfl
  | cons item items ih => exact ih (s.ingest item.1 item.2)

/-- A pin that is there already is put in without a change, so only what is told depends on it. -/
theorem pin_eq (s : Session) (identifier : String) :
    s.pin identifier =
      ⟨{ s with pins := s.pins.insert identifier },
        if s.pins.contains identifier then [] else [.pinsChanged (s.pins.insert identifier).size],
        !s.pins.contains identifier⟩ := by
  rw [pin]
  cases h : s.pins.contains identifier with
  | false => rfl
  | true =>
    have hinsert : s.pins.insert identifier = s.pins := dif_pos (Pins.contains_iff.mp h)
    rw [hinsert]
    rfl

theorem setMode_eq (s : Session) (mode : Mode) :
    s.setMode mode =
      ⟨{ s with mode }, if s.mode = mode then [] else [.modeChanged mode.name], ()⟩ := by
  by_cases h : s.mode = mode
  · rw [setMode, if_pos h, if_pos h, ← h]
  · rw [setMode, if_neg h, if_neg h]

/-- An operation that asks nothing does the same wherever the session stands. -/
theorem perform_withActivity {o : Operation} (h : o.asks = false) (s : Session) (a : Activity) :
    (s.withActivity a).perform o = (s.perform o).withActivity a := by
  cases o with
  | ingestAll items =>
    simp only [perform, ingestAll, foldl_ingest]
    rfl
  | pin identifier =>
    simp only [perform, pin_eq]
    rfl
  | setMode mode =>
    simp only [perform, setMode_eq]
    rfl
  | assembleRequest | generate => cases h
  | _ => rfl

theorem activity_perform {o : Operation} (h : o.asks = false) (s : Session) :
    (s.perform o).session.activity = s.activity :=
  congrArg (·.session.activity) (perform_withActivity h s s.activity)

/-- No operation changes the settings. -/
theorem settings_perform (s : Session) (o : Operation) :
    (s.perform o).session.settings = s.settings := by
  cases o with
  | ingestAll items =>
    simp only [perform, ingestAll, foldl_ingest]
    rfl
  | pin identifier =>
    simp only [perform, pin_eq]
    rfl
  | setMode mode =>
    simp only [perform, setMode_eq]
    rfl
  | generate c =>
    obtain ⟨history, activity, hsession⟩ := s.session_call c
    show (s.call c).session.settings = s.settings
    rw [hsession]
  | _ => rfl

theorem settings_after (s : Session) (ops : List Operation) :
    (s.after ops).settings = s.settings := by
  induction ops generalizing s with
  | nil => rfl
  | cons o ops ih => exact (ih (s.perform o).session).trans (settings_perform s o)

end Session
end FileChat
