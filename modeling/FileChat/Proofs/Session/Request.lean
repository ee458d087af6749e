import FileChat.Proofs.Context.Budget
import FileChat.Proofs.Context.History
import FileChat.Proofs.Text.Replacement
import FileChat.Proofs.Text.Trimming
import FileChat.Session

/-!
# What a session sends

The messages of a request are the preamble, the end of the history that fits, and the question
behind its context. The preamble is the session's template with date and minute in the place of
each mark for the time. Nothing on the way looks at an artifact that failed: two sessions that
differ only in those send the same messages, whatever is pinned and whatever the question names.
-/
namespace FileChat

/-! ## Failed artifacts -/

/-- Another reason for a failed artifact, or no artifact at all. Loaded ones stay as they are. -/
def Artifact.reviseFailure (revise : FailedArtifact → Option String) : Artifact → Option Artifact
  | .loaded a => some (.loaded a)
  | .failed a => (revise a).map fun reason => .failed { a with reason }

namespace Artifact

theorem path_of_reviseFailure {revise : FailedArtifact → Option String} {a b : Artifact}
    (h : a.reviseFailure revise = some b) : b.path = a.path := by
  cases a with
  | loaded a =>
    obtain rfl := Option.some.inj h
    rfl
  | failed a =>
    obtain ⟨reason, _, rfl⟩ := Option.map_eq_some_iff.mp h
    rfl

theorem loaded?_reviseFailure (revise : FailedArtifact → Option String) (a : Artifact) :
    (a.reviseFailure revise).bind loaded? = a.loaded? := by
  cases a with
  | loaded a => rfl
  | failed a =>
    change ((revise a).map _).bind loaded? = none
    cases revise a <;> rfl

end Artifact

namespace Pool

/-- The pool with each failed artifact revised or dropped. -/
def reviseFailures (p : Pool) (revise : FailedArtifact → Option String) : Pool where
  artifacts := p.artifacts.filterMap (Artifact.reviseFailure revise)
  ascending := by
    refine p.ascending.filterMap _ fun a a' hlt b hb b' hb' => ?_
    rw [Artifact.path_of_reviseFailure hb, Artifact.path_of_reviseFailure hb']
    exact hlt

theorem loaded_reviseFailures (p : Pool) (revise : FailedArtifact → Option String) :
    (p.reviseFailures revise).loaded = p.loaded := by
  have heach : (fun a => (Artifact.reviseFailure revise a).bind Artifact.loaded?) =
      Artifact.loaded? := funext (Artifact.loaded?_reviseFailure revise)
  change (p.artifacts.filterMap (Artifact.reviseFailure revise)).filterMap Artifact.loaded? = _
  rw [List.filterMap_filterMap, heach]
  rfl

end Pool

/-! ## Ranking -/

theorem Relevance.rank_eq_of_loaded_eq {p q : Pool} (h : p.loaded = q.loaded) (query : String)
    (pins : Pins) (w : Weights) : rank query p pins w = rank query q pins w := by
  rw [rank, rank, h]

theorem Relevance.rank_eq_nil_iff (query : String) (p : Pool) (pins : Pins) (w : Weights) :
    rank query p pins w = [] ↔ p.loaded = [] := by
  rw [rank, ← List.length_eq_zero_iff, List.length_mergeSort, List.length_map,
    List.length_eq_zero_iff]

/-! ## Preambles -/

/-- Date and minute: a year of four digits, with a sign before 0 and after 9999, and each of the
other numbers with two digits. -/
def minuteText (t : LocalTime) : String :=
  (if t.year < 0 then "-" else if 9999 < t.year then "+" else "") ++
    .leftpad 4 '0' (toString t.year.natAbs) ++ "-" ++ .leftpad 2 '0' (toString t.month) ++ "-" ++
    .leftpad 2 '0' (toString t.day) ++ " " ++ .leftpad 2 '0' (toString t.hour) ++ ":" ++
    .leftpad 2 '0' (toString t.minute)

/-- A template is rendered at a time as a text if this has date and minute in the place of each
mark for the time, and is the same elsewhere. -/
def Renders (template : String) (now : LocalTime) (text : String) : Prop :=
  Text.Replaces "\x7btime\x7d" (minuteText now) template text

theorem padded_eq (width n : Nat) : Calendar.padded width n = .leftpad width '0' (toString n) := by
  show _ = String.ofList (List.replicate (width - (toString n).length) '0' ++ (toString n).toList)
  rw [Calendar.padded, String.ofList_append, String.ofList_toList]

theorem toMinute_eq (t : LocalTime) : t.toMinute = minuteText t := by
  unfold LocalTime.toMinute LocalTime.date Calendar.yearText minuteText
  simp only [padded_eq]
  split
  · rfl
  · split
    · rfl
    · rw [String.empty_append]

theorem renders_iff {template text : String} {now : LocalTime} :
    Renders template now text ↔ text = Composition.preamble template now := by
  have hmark : "\x7btime\x7d".toList = ['\x7b', 't', 'i', 'm', 'e', '\x7d'] := by decide
  rw [Renders, Text.replaces_iff hmark (by decide), ← toMinute_eq]
  rfl

/-! ## Requests -/

theorem Composition.question_eq (context query : String) :
    question context query =
      if context = "" then query else context ++ "\n\nUser Question: " ++ query := by
  rw [question]
  by_cases h : context = ""
  · rw [h]; rfl
  · rw [if_neg h, if_neg (by simpa using h)]

namespace Session

variable {s : Session} {query : String}

theorem refusal_eq_none (hidle : s.activity = .idle)
    (hquery : ∃ c ∈ query.toList, Text.isBlank c = false) : s.refusal query = none := by
  have hwords : ¬ (Text.trim query.toList).isEmpty = true := by
    rw [List.isEmpty_iff, Text.trim_eq_nil_iff]
    intro hblank
    obtain ⟨c, hmem, hc⟩ := hquery
    rw [hblank c hmem] at hc
    cases hc
  rw [refusal, if_neg (by simp [hidle]), if_neg hwords]

/-- An idle session answers every question that has a word in it. -/
theorem assembleRequest_eq_ok (hidle : s.activity = .idle)
    (hquery : ∃ c ∈ query.toList, Text.isBlank c = false) (now : LocalTime) :
    s.assembleRequest now query = .ok (s.compose now query) := by
  rw [assembleRequest, refusal_eq_none hidle hquery]

/-- The context that a session assembles for a question. -/
def contextFor (s : Session) (query : String) : Context :=
  Assembler.assemble ⟨s.settings.contextBudget, s.settings.relevanceThreshold⟩ s.mode
    (Relevance.rank query s.pool s.pins s.settings.weights)

theorem text_contextFor_eq_empty_iff (s : Session) (query : String) :
    (s.contextFor query).text = "" ↔ s.pool.loaded = [] := by
  rw [contextFor, Assembler.text_assemble_eq_empty_iff, Relevance.rank_eq_nil_iff]

/-- Composing reads the pool only through its loaded artifacts. -/
theorem compose_eq_of_loaded_eq {p : Pool} (h : p.loaded = s.pool.loaded) (now : LocalTime)
    (query : String) : compose { s with pool := p } now query = s.compose now query := by
  have hrank := Relevance.rank_eq_of_loaded_eq h query s.pins s.settings.weights
  simp only [compose, hrank]

/-- A question that is not refused is sent as the rendered preamble, the end of the history that
fits, and the question: raw if no artifact is loaded, and else behind the assembled context. The
template is rendered in one way only. The counts are those of the messages, both budgets hold, and
the request is blind to failed artifacts. -/
theorem assembleRequest_messages (s : Session) (now : LocalTime) (query : String)
    (hidle : s.activity = .idle) (hquery : ∃ c ∈ query.toList, Text.isBlank c = false) :
    ∃ r preamble kept, s.assembleRequest now query = .ok r ∧
      Renders s.settings.systemTemplate now preamble ∧
      (∀ other, Renders s.settings.systemTemplate now other → other = preamble) ∧
      kept <:+ s.history ∧
      r.messages =
        ⟨.system, preamble⟩ :: (kept ++
          [⟨.user, if s.pool.loaded = [] then query
            else (s.contextFor query).text ++ "\n\nUser Question: " ++ query⟩]) ∧
      r.context = s.contextFor query ∧
      r.historyTurns = kept.length ∧
      (kept.map fun m => tokens m.content).sum ≤ s.settings.historyBudget ∧
      (r.context.included.map (·.tokens)).sum ≤ s.settings.contextBudget ∧
      r.tokensIn = (r.messages.map fun m => tokens m.content).sum ∧
      ∀ revise,
        assembleRequest { s with pool := s.pool.reviseFailures revise } now query = .ok r := by
  refine ⟨s.compose now query, Composition.preamble s.settings.systemTemplate now,
    History.trim s.history s.settings.historyBudget, assembleRequest_eq_ok hidle hquery now,
    renders_iff.mpr rfl, fun other => renders_iff.mp, History.trim_isSuffix _ _, ?_, rfl, rfl, ?_,
    ?_, ?_, ?_⟩
  · show Composition.compose _ _ (s.contextFor query).text query = _
    rw [Composition.compose, Composition.question_eq]
    simp only [text_contextFor_eq_empty_iff]
    rfl
  · rw [← totalTokens_eq_sum]
    exact History.totalTokens_trim_le _ _
  · rw [← Assembler.includedTokens_eq_sum]
    exact Assembler.includedTokens_assemble_le _ _ _
  · rw [← totalTokens_eq_sum]
    rfl
  · intro revise
    have hrevised : activity { s with pool := s.pool.reviseFailures revise } = .idle := hidle
    rw [assembleRequest_eq_ok hrevised hquery,
      compose_eq_of_loaded_eq (s.pool.loaded_reviseFailures revise)]

/-- A failed artifact that is pinned and named in the question can as well be left out; the time
stands in both places that the template has for it. -/
theorem assembleRequest_messages_failed :
    let started := new { systemTemplate := "\x7btime\x7d: be brief (\x7btime\x7d)." }
    let found := started.ingest "a.rs" (.ok "fn a()") |>.ingest "b.rs" (.error "denied")
    let s := (found.pin "b.rs").session.record "hello" "hi"
    let now : LocalTime := ⟨2026, 3, 14, 9, 26, 53⟩
    let question :=
      "=== PROVIDED CODE CONTEXT ===\n\n--- FILE: a.rs (relevance: 0) ---\nfn a()\n\n" ++
        "\n=== END CONTEXT (1 files, ~1 tokens) ===\n\nUser Question: open b.rs"
    s.pool.failedCount = 1 ∧ s.activity = .idle ∧
      ∃ r, s.assembleRequest now "open b.rs" = .ok r ∧
        r.messages =
          [⟨.system, "2026-03-14 09:26: be brief (2026-03-14 09:26)."⟩,
            ⟨.user, "hello"⟩, ⟨.assistant, "hi"⟩, ⟨.user, question⟩] ∧
        r.historyTurns = 2 ∧ r.tokensIn = 54 ∧
        assembleRequest { s with pool := s.pool.reviseFailures fun _ => none } now "open b.rs" =
          .ok r := by
  intro started found s now question
  obtain ⟨r, preamble, kept, hr, -, hrendered, hkept, hmessages, -, hturns, -, -, htokens,
    hblind⟩ := assembleRequest_messages s now "open b.rs" rfl ⟨'o', by decide, by decide⟩
  have hpreamble : Renders s.settings.systemTemplate now
      "2026-03-14 09:26: be brief (2026-03-14 09:26)." :=
    ⟨["", ": be brief (", ")."], by decide +kernel, by decide +kernel, by decide +kernel⟩
  obtain rfl := hrendered _ hpreamble
  have hcomposed : r = s.compose now "open b.rs" := by
    rw [assembleRequest_eq_ok rfl ⟨'o', by decide, by decide⟩] at hr
    exact (Except.ok.inj hr).symm
  have htwo : r.historyTurns = 2 := by
    rw [hcomposed]
    rfl
  obtain rfl : kept = s.history := hkept.eq_of_length (hturns.symm.trans htwo)
  have hloaded : ¬ s.pool.loaded = [] := fun h => by cases h
  have hcontext : (s.contextFor "open b.rs").text ++ "\n\nUser Question: " ++ "open b.rs" =
      question := by decide +kernel
  rw [if_neg hloaded, hcontext] at hmessages
  rw [hmessages] at htokens
  refine ⟨rfl, rfl, r, hr, hmessages, htwo, htokens.trans ?_, hblind _⟩
  decide +kernel

end Session
end FileChat
