import FileChat.Proofs.Bytes.Encoding
import FileChat.Proofs.Terminal.Turn

/-!
# Whole conversations

A conversation is a course of turns, one for each line before the first that the user leaves with,
whatever the turns come to. What holds of a turn is in `Takes`; along a course, what the lines do to
the session adds up to one run of it, and what goes to the backend is what the lines send, in order.
-/
namespace FileChat.Repl

/-- A line that has been taken: the conversation and its surroundings before and after. -/
structure Turn (σ : Type) where
  line : String
  before : Repl
  world : σ
  after : Repl
  left : σ

variable {σ : Type}

namespace Turn

def operation? (h : Host (StateM σ)) (t : Turn σ) : Option Operation :=
  Repl.operation? h t.before t.world (entry t.line)

/-- The call to generate that a turn makes. -/
def call? (h : Host (StateM σ)) (t : Turn σ) : Option Call :=
  match t.operation? h with
  | some (.generate c) => some c
  | _ => none

def requests (h : Host (StateM σ)) (t : Turn σ) : List HttpRequest :=
  Repl.requests h t.before t.world (entry t.line)

end Turn

/-- Turns that follow one another, the prompt shown before each of them. -/
inductive Course (h : Host (StateM σ)) : Repl → σ → List (Turn σ) → Repl → σ → Prop
  | done (r : Repl) (w : σ) : Course h r w [] r w
  | turn {r next last : Repl} {w left final : σ} {line : String} {ts : List (Turn σ)} :
      r.step h line (h.print Screen.prompt w).2 = (some next, left) →
      Course h next left ts last final →
      Course h r w (⟨line, r, (h.print Screen.prompt w).2, next, left⟩ :: ts) last final

variable {h : Host (StateM σ)} {r next last : Repl} {w left final : σ} {ts : List (Turn σ)}
  {t : Turn σ} {line : String}

theorem call?_eq (h : Host (StateM σ)) (t : Turn σ) :
    t.call? h = (question? t.line).map (callOf h t.before t.world) := by
  unfold Turn.call? Turn.operation?
  cases hquestion : question? t.line with
  | some query =>
    rw [(entry_eq_question_iff t.line query).mpr hquestion]
    rfl
  | none =>
    split
    · next call hop =>
      obtain ⟨query, hentry, -⟩ := operation?_eq_generate_iff.mp hop
      rw [(entry_eq_question_iff t.line query).mp hentry] at hquestion
      cases hquestion
    · rfl

theorem Course.takes (hcourse : Course h r w ts last final) :
    ∀ t ∈ ts, Takes h t.before t.world (entry t.line) t.after := by
  induction hcourse with
  | done =>
    intro t ht
    cases ht
  | turn hstep _ ih =>
    intro t ht
    obtain rfl | ht := List.mem_cons.mp ht
    · exact (of_step hstep).2.1
    · exact ih t ht

theorem Course.session_eq (hcourse : Course h r w ts last final) :
    last.session = r.session.after (ts.filterMap (·.operation? h)) := by
  induction hcourse with
  | done => rfl
  | @turn r next last w left final line ts hstep _ ih =>
    have hsession := congrArg session (of_step hstep).2.1.left
    rw [ih, hsession]
    simp only [List.filterMap_cons, Turn.operation?]
    cases operation? h r (h.print Screen.prompt w).2 (entry line) <;> rfl

theorem Course.sent_eq {sent : σ → List HttpRequest} (hrec : Records h sent)
    (hcourse : Course h r w ts last final) :
    sent final = sent w ++ ts.flatMap (·.requests h) := by
  induction hcourse with
  | done => exact (List.append_nil _).symm
  | turn hstep _ ih =>
    rw [ih, (of_step hstep).2.2 sent hrec, hrec.print, List.flatMap_cons, List.append_assoc]
    rfl

theorem run_cons (h : Host (StateM σ)) (r : Repl) (line : String) (lines : List Bytes) (w : σ) :
    r.run h (Utf8.encode line.toList :: lines) w =
      match r.step h line (h.print Screen.prompt w).2 with
      | (some next, left) => next.run h lines left
      | (none, left) => ((r, .farewell), left) := by
  rw [run, bind_apply, bind_apply]
  unfold stepBytes
  rw [Utf8.decode?_encode]
  dsimp only
  rw [bind_apply, String.ofList_toList]
  obtain ⟨next, left⟩ := r.step h line (h.print Screen.prompt w).2
  cases next <;> rfl

theorem exists_course (h : Host (StateM σ)) (r : Repl) (lines : List String) (w : σ) :
    ∃ ts last final, Course h r w ts last final ∧
      ts.map (·.line) = lines.takeWhile (!leaves ·) ∧
      r.run h (lines.map fun line => Utf8.encode line.toList) w =
        ((last, .farewell), (h.print Screen.prompt final).2) := by
  -- On the lines: each either ends the course here or is its first turn, whatever it came to.
  induction lines generalizing r w with
  | nil => exact ⟨[], r, w, .done r w, rfl, rfl⟩
  | cons line lines ih =>
    obtain ⟨hleaves, hstep⟩ | ⟨hstays, next, left, hstep, -⟩ :=
      step_cases h r line (h.print Screen.prompt w).2
    · refine ⟨[], r, w, .done r w, ?_, ?_⟩
      · rw [List.takeWhile_cons_of_neg (by simp [hleaves])]
        rfl
      · rw [List.map_cons, run_cons, hstep]
    · obtain ⟨ts, last, final, hcourse, hlines, hrun⟩ := ih next left
      refine ⟨_, last, final, .turn hstep hcourse, ?_, ?_⟩
      · rw [List.takeWhile_cons_of_pos (by simp [hstays]), ← hlines]
        rfl
      · rw [List.map_cons, run_cons, hstep]
        exact hrun

theorem queries_eq (h : Host (StateM σ)) (ts : List (Turn σ)) :
    (ts.filterMap (·.call? h)).map (·.query) = (ts.map (·.line)).filterMap question? := by
  rw [List.map_filterMap, List.filterMap_map]
  refine congrArg (List.filterMap · ts) (funext fun t => ?_)
  rw [call?_eq, Function.comp_apply]
  cases question? t.line <;> rfl

theorem Takes.session_eq {e : Entry} (htakes : Takes h r w e next) (hnot : ¬Changes h r w e) :
    next.session = r.session := by
  rw [htakes.left, operation?_eq_none hnot]
  rfl

/-- The loop takes the lines before the first that the user leaves with, and comes to its end. It
calls to generate once for each question among them, in order, with the question and the model of
the moment, whatever became of the calls before. A line changes the model only as a backend's list
allows, and the session only if it is one that may; the backend gets what the lines send it. -/
theorem run_course (h : Host (StateM σ)) (r : Repl) (lines : List String) (w : σ) :
    ∃ ts last final, Course h r w ts last final ∧
      r.run h (lines.map fun line => Utf8.encode line.toList) w =
        ((last, .farewell), (h.print Screen.prompt final).2) ∧
      ts.map (·.line) = lines.takeWhile (!leaves ·) ∧
      (ts.filterMap (·.call? h)).map (·.query) =
        (lines.takeWhile (!leaves ·)).filterMap question? ∧
      last.session = r.session.after (ts.filterMap (·.operation? h)) ∧
      (∀ t ∈ ts, Takes h t.before t.world (entry t.line) t.after ∧
        (∀ c ∈ t.call? h, c.model = t.before.model) ∧
        (¬Changes h t.before t.world (entry t.line) → t.after.session = t.before.session)) ∧
      ∀ sent, Records h sent →
        sent (h.print Screen.prompt final).2 = sent w ++ ts.flatMap (·.requests h) := by
  obtain ⟨ts, last, final, hcourse, hlines, hrun⟩ := exists_course h r lines w
  refine ⟨ts, last, final, hcourse, hrun, hlines, ?_, hcourse.session_eq, ?_, ?_⟩
  · rw [queries_eq, hlines]
  · intro t ht
    have htakes := hcourse.takes t ht
    refine ⟨htakes, fun c hc => ?_, htakes.session_eq⟩
    rw [call?_eq] at hc
    obtain ⟨query, -, rfl⟩ := Option.map_eq_some_iff.mp hc
    rfl
  · intro sent hrec
    rw [hrec.print, hcourse.sent_eq hrec]

theorem quiet_alter (change : FileSystem → Except FileError FileSystem) :
    Quiet (·.requests.reverse) (World.alter change) := by
  intro w
  unfold World.alter
  simp only [modifyGet, MonadStateOf.modifyGet, StateT.modifyGet]
  cases change w.files <;> rfl

theorem records_host : Records World.host (·.requests.reverse) where
  send _ _ := List.reverse_cons
  print _ _ := rfl
  complain _ _ := rfl
  look _ _ := rfl
  makeDirs _ := quiet_alter _
  write _ _ := quiet_alter _
  now _ := rfl
  ticks _ := rfl

/-- A backend that fails the first question, names its models, and answers the second question to
the model that was switched to in between; a word in capitals ends the conversation. -/
theorem run_course_failing :
    let w : World :=
      { files := ⟨.dir [], []⟩, clock := ⟨2026, 3, 14, 9, 26, 53⟩
        answer := fun requests =>
          let body (text : String) := .response ⟨200, [Utf8.encode text.toList], false⟩
          match requests.length with
          | 2 => body "\x7b\"data\":[\x7b\"id\":\"llama3\"\x7d,\x7b\"id\":\"qwen3:8b\"\x7d]\x7d"
          | 3 => body "data: \x7b\"choices\":[\x7b\"delta\":\x7b\"content\":\"Hi\"\x7d\x7d]\x7d\n"
          | _ => .unreachable }
    let r : Repl :=
      { session := .new {}, provider := .ollama none, model := "llama3"
        policy := ⟨[], [], [], 0, 0⟩, home := "/root", transcripts := "~/chats" }
    let lines := ["hello", "/nope", "/model qwen", "  ", "hello again", " QUIT", "too late"]
    ∃ ts last final, Course World.host r w ts last final ∧
      (r.run World.host (lines.map fun line => Utf8.encode line.toList) w).1 = (last, .farewell) ∧
      ts.map (·.line) = lines.take 5 ∧
      (ts.filterMap (·.call? World.host)).map (·.query) = ["hello", "hello again"] ∧
      last.model = "qwen3:8b" ∧
      last.session.history = [.user "hello again", .assistant "Hi"] ∧
      (ts.flatMap (·.requests World.host)).map (·.method) = ["POST", "GET", "POST"] := by
  intro w r lines
  obtain ⟨ts, last, final, hcourse, hrun, hlines, hqueries, -, -, hsent⟩ :=
    run_course World.host r lines w
  have hvalues : (r.run World.host (lines.map fun line => Utf8.encode line.toList) w).1.1.model =
        "qwen3:8b" ∧
      (r.run World.host (lines.map fun line => Utf8.encode line.toList) w).1.1.session.history =
        [.user "hello again", .assistant "Hi"] ∧
      (r.run World.host (lines.map fun line => Utf8.encode line.toList) w).2.requests.reverse.map
        (·.method) = ["POST", "GET", "POST"] := by decide +kernel
  rw [hrun] at hvalues
  have hrequests : _ = ts.flatMap (·.requests World.host) := hsent _ records_host
  refine ⟨ts, last, final, hcourse, by rw [hrun], ?_, ?_, hvalues.1, hvalues.2.1, ?_⟩
  · rw [hlines]
    decide +kernel
  · rw [hqueries]
    decide +kernel
  · rw [← hrequests]
    exact hvalues.2.2

end FileChat.Repl
