import FileChat.Proofs.Session.Pool
import FileChat.Proofs.Session.Run
import Mathlib.Algebra.Ring.Nat
import Mathlib.Data.List.DropRight

/-!
# What ingestion leaves

The pool of a session is a map: each path that was ingested since the last reset has the outcome of
its last ingestion. A content leaves a loaded artifact, everything in which is derived from path and
content, and a reason leaves a failed one. It does not matter in which order different paths came,
in which batches, or what else was done between them. So two sequences of ingestions that end with
the same outcomes leave the same session, and nothing that is done to it later can tell them apart.
-/
namespace FileChat

/-- What an operation ingests, path by path. -/
def Operation.ingested : Operation → List (String × Outcome)
  | .ingest path outcome => [(path, outcome)]
  | .ingestAll items => items
  | _ => []

/-- Whether an operation ingests, or clears what was ingested, and does nothing else. -/
def Operation.ingests : Operation → Bool
  | .ingest .. | .ingestAll _ | .reset => true
  | _ => false

/-- What has been ingested since the last reset, in order. -/
def ingestedSinceReset (ops : List Operation) : List (String × Outcome) :=
  (ops.rtakeWhile fun o => !o.isReset).flatMap Operation.ingested

/-- The outcome of the last ingestion of a path since the last reset. -/
def lastOutcome (ops : List Operation) (path : String) : Option Outcome :=
  (ingestedSinceReset ops).reverse.lookup path

/-- Everything else in a loaded artifact is derived from its path and its content. -/
structure LoadedArtifact.Derived (a : LoadedArtifact) : Prop where
  name : a.name = Path.displayName a.path
  summary : a.summary = summarize a.content
  lines : a.lines = (Text.lines a.content.toList).length
  tokens : a.tokens = FileChat.tokens a.content

/-- What an outcome leaves at a path: a content a loaded artifact, and a reason a failed one. -/
inductive Leaves (path : String) : Outcome → Artifact → Prop
  | loaded {content : String} {a : LoadedArtifact} :
      a.path = path → a.content = content → a.Derived → Leaves path (.ok content) (.loaded a)
  | failed {reason : String} {a : FailedArtifact} :
      a.path = path → a.name = Path.displayName path → a.reason = reason →
      Leaves path (.error reason) (.failed a)

/-- The pool is the map of some outcomes, in the order of their paths. -/
structure Pool.Represents (p : Pool) (outcomes : String → Option Outcome) : Prop where
  found : ∀ path outcome, outcomes path = some outcome →
    ∃ a, p.get? path = some a ∧ Leaves path outcome a
  absent : ∀ path, outcomes path = none → p.get? path = none
  mem_iff : ∀ a, a ∈ p.artifacts ↔
    ∃ outcome, outcomes a.path = some outcome ∧ Leaves a.path outcome a
  ascending : (p.artifacts.map Artifact.path).Pairwise (· < ·)

/-- The inventory shows the loaded artifacts of a pool in the order of their paths. -/
structure Inventory.Shows (i : Inventory) (p : Pool) : Prop where
  entries : i.entries.map (fun e => (e.path, e.name, e.lines, e.tokens)) =
    p.loaded.map fun a => (a.path, a.name, a.lines, a.tokens)
  ascending : (i.entries.map (·.path)).Pairwise (· < ·)
  total : i.totalTokens = (i.entries.map (·.tokens)).sum
  counted : i.failed + i.entries.length = p.size

/-- The report counts the items of a batch, and the artifacts of the pool after it. -/
structure IngestReport.Counts (r : IngestReport) (items : List (String × Outcome)) (p : Pool) :
    Prop where
  loaded : r.loaded = items.countP (·.2.isOk)
  failed : r.failed = items.countP (!·.2.isOk)
  items : r.loaded + r.failed = items.length
  pool : r.poolSize = p.size

/-! ## The pool -/

theorem leaves_iff {path : String} {outcome : Outcome} {a : Artifact} :
    Leaves path outcome a ↔ a = .ofOutcome path outcome := by
  constructor
  · intro h
    cases h with
    | @loaded content a hpath hcontent hderived =>
      obtain ⟨hname, hsummary, hlines, htokens⟩ := hderived
      show _ = Artifact.ofContent path content
      rw [← hpath, ← hcontent, Artifact.ofContent, ← hname, ← hsummary, ← htokens]
      exact congrArg (fun lines => Artifact.loaded { a with lines }) hlines
    | @failed reason a hpath hname hreason =>
      show _ = Artifact.ofFailure path reason
      rw [Artifact.ofFailure, ← hname, ← hpath, ← hreason]
  · intro h
    subst h
    cases outcome with
    | ok content => exact .loaded rfl rfl ⟨rfl, rfl, rfl, rfl⟩
    | error reason => exact .failed rfl rfl rfl

namespace Pool

variable {p : Pool}

/-- Puts in what was found at some paths, one after another. -/
def insertAll (p : Pool) (items : List (String × Outcome)) : Pool :=
  items.foldl (fun p (path, outcome) => p.insert (.ofOutcome path outcome)) p

theorem insertAll_append (p : Pool) (items more : List (String × Outcome)) :
    p.insertAll (items ++ more) = (p.insertAll items).insertAll more := List.foldl_append

/-- Of what is put in under a path the last stays. -/
theorem get?_insertAll (p : Pool) (items : List (String × Outcome)) (path : String) :
    (p.insertAll items).get? path =
      ((items.reverse.lookup path).map (Artifact.ofOutcome path)).or (p.get? path) := by
  induction items using List.reverseRecOn with
  | nil => simp [insertAll]
  | append_singleton items item ih =>
    have hlast : p.insertAll (items ++ [item]) =
        (p.insertAll items).insert (.ofOutcome item.1 item.2) := insertAll_append p items [item]
    rw [hlast, get?_insert, ih, List.reverse_append, List.reverse_singleton,
      List.singleton_append, List.lookup_cons, Artifact.path_ofOutcome]
    by_cases h : item.1 = path
    · simp [h]
    · have hne : (path == item.1) = false := by simpa using Ne.symm h
      rw [if_neg h, hne]

theorem represents_of_get?_eq {outcomes : String → Option Outcome}
    (h : ∀ path, p.get? path = (outcomes path).map (Artifact.ofOutcome path)) :
    p.Represents outcomes := by
  refine ⟨fun path outcome hpath => ?_, fun path hpath => ?_, fun a => ?_, ?_⟩
  · refine ⟨.ofOutcome path outcome, ?_, leaves_iff.mpr rfl⟩
    rw [h, hpath]
    rfl
  · rw [h, hpath]
    rfl
  · rw [mem_artifacts_iff, h, Option.map_eq_some_iff]
    simp only [leaves_iff, eq_comm]
  · exact List.Pairwise.map _ (fun _ _ hlt => hlt) p.ascending

theorem derived_of_mem_loaded {outcomes : String → Option Outcome} (h : p.Represents outcomes)
    {a : LoadedArtifact} (ha : a ∈ p.loaded) : a.Derived := by
  obtain ⟨outcome, -, hleaves⟩ := (h.mem_iff (.loaded a)).mp (mem_loaded_iff.mp ha)
  cases hleaves with
  | loaded _ _ hderived => exact hderived

theorem size_eq (p : Pool) : p.size = p.loaded.length + p.failedCount := by
  rw [size, loaded, failedCount, List.length_filterMap_eq_countP,
    List.length_eq_countP_add_countP fun a : Artifact => a.loaded?.isSome]
  congr 1
  refine List.countP_congr fun a _ => ?_
  cases a <;> simp [Artifact.loaded?, Artifact.isFailed]

theorem totalTokens_eq (p : Pool) : p.totalTokens = (p.loaded.map (·.tokens)).sum := by
  rw [totalTokens, List.sum_eq_foldr, List.foldr_map]

end Pool

namespace Session

variable {s start : Session} {ops : List Operation}

theorem inventory_shows (s : Session) : s.inventory.Shows s.pool := by
  have hpaths : s.inventory.entries.map (·.path) = s.pool.loaded.map (·.path) := List.map_map
  have htokens : s.inventory.entries.map (·.tokens) = s.pool.loaded.map (·.tokens) := List.map_map
  constructor
  · exact List.map_map
  · rw [hpaths]
    exact s.pool.ascending_loaded
  · rw [htokens]
    exact s.pool.totalTokens_eq
  · have hentries : s.inventory.entries.length = s.pool.loaded.length := List.length_map _
    rw [hentries, s.pool.size_eq]
    exact Nat.add_comm _ _

theorem ingestAll_counts (s : Session) (items : List (String × Outcome)) :
    (s.ingestAll items).answer.Counts items (s.ingestAll items).session.pool := by
  have hsplit : items.length = items.countP (·.2.isOk) + items.countP (!·.2.isOk) := by
    simpa using List.length_eq_countP_add_countP (l := items) (·.2.isOk)
  have hfailed : items.length - items.countP (·.2.isOk) = items.countP (!·.2.isOk) := by omega
  refine ⟨rfl, hfailed, ?_, rfl⟩
  change items.countP (·.2.isOk) + (items.length - items.countP (·.2.isOk)) = items.length
  omega

/-! ## One operation -/

/-- An operation clears the pool, or puts in what it ingests. -/
theorem pool_perform (s : Session) (o : Operation) :
    (s.perform o).session.pool =
      if o.isReset then .empty else s.pool.insertAll o.ingested := by
  cases o with
  | ingestAll items =>
    simp only [perform, ingestAll, foldl_ingest]
    rfl
  | pin identifier =>
    simp only [perform, pin_eq]
    rfl
  | setMode mode =>
    simp only [perform, setMode_eq]
    rfl
  | generate c =>
    obtain ⟨history, activity, hsession⟩ := s.session_call c
    exact congrArg (·.pool) hsession
  | _ => rfl

/-! ## Whole runs -/

theorem pool_after (h : start.pool = .empty) (ops : List Operation) :
    (start.after ops).pool = Pool.empty.insertAll (ingestedSinceReset ops) := by
  induction ops using List.reverseRecOn with
  | nil => exact h
  | append_singleton ops o ih =>
    rw [after_concat, pool_perform, ingestedSinceReset, List.rtakeWhile_concat]
    by_cases hreset : o.isReset = true
    · rw [if_pos hreset, if_neg (by simp [hreset])]
      rfl
    · rw [if_neg hreset, if_pos (by simp [hreset]), List.flatMap_append, Pool.insertAll_append, ih,
        ingestedSinceReset, List.flatMap_singleton]

theorem get?_after (h : start.pool = .empty) (ops : List Operation) (path : String) :
    (start.after ops).pool.get? path = (lastOutcome ops path).map (Artifact.ofOutcome path) := by
  rw [pool_after h, Pool.get?_insertAll]
  exact Option.or_none

theorem represents_after (h : start.pool = .empty) (ops : List Operation) :
    (start.after ops).pool.Represents (lastOutcome ops) :=
  Pool.represents_of_get?_eq (get?_after h ops)

/-- Ingesting and resetting change the pool alone, if there is nothing else that a reset clears. -/
theorem perform_of_ingests {o : Operation} (h : o.ingests = true) (hpins : s.pins = .empty)
    (hhistory : s.history = []) :
    (s.perform o).session = { s with pool := (s.perform o).session.pool } := by
  cases o with
  | ingest => rfl
  | ingestAll items => simp only [perform, Step.map, ingestAll, foldl_ingest]
  | reset => simp only [perform, Step.map, reset, hpins, hhistory]
  | _ => cases h

theorem after_of_ingests (h : ∀ o ∈ ops, o.ingests = true) (hpins : s.pins = .empty)
    (hhistory : s.history = []) : s.after ops = { s with pool := (s.after ops).pool } := by
  induction ops generalizing s with
  | nil => rfl
  | cons o ops ih =>
    have hstep := perform_of_ingests (h o List.mem_cons_self) hpins hhistory
    have hafter : s.after (o :: ops) = (s.perform o).session.after ops := rfl
    rw [hafter, hstep]
    exact ih (fun o' ho' => h o' (List.mem_cons_of_mem _ ho')) hpins hhistory

/-- After any run of a new session its pool is the map of the last outcome of each path since the
last reset, in the order of the paths: a loaded artifact with that content, from which everything in
it is derived, or a failed one with that reason. The inventory shows the loaded artifacts, the
report of a further batch counts its items, and the counts add up. Two runs with the same last
outcomes leave the same pool; if they do nothing but ingest and reset, then whatever follows goes
the same way after both. -/
theorem pool_represents_outcomes (start : Session) (hstart : Fresh start) (ops : List Operation) :
    let s := start.after ops
    s.pool.Represents (lastOutcome ops) ∧
    (∀ a ∈ s.pool.loaded, a.Derived) ∧
    s.pool.size = s.pool.loaded.length + s.pool.failedCount ∧
    s.inventory.Shows s.pool ∧
    (∀ items, (s.ingestAll items).answer.Counts items
      (start.after (ops ++ [.ingestAll items])).pool) ∧
    ∀ ops' : List Operation, (∀ path, lastOutcome ops' path = lastOutcome ops path) →
      (start.after ops').pool = s.pool ∧
      ((∀ o ∈ ops ++ ops', o.ingests = true) →
        start.after ops' = s ∧ ∀ later, (start.after ops').trace later = s.trace later) := by
  intro s
  have hrepresents := represents_after hstart.pool_eq ops
  refine ⟨hrepresents, fun a => Pool.derived_of_mem_loaded hrepresents, s.pool.size_eq,
    s.inventory_shows, fun items => ?_, fun ops' hsame => ?_⟩
  · rw [after_concat]
    exact s.ingestAll_counts items
  have hpool : (start.after ops').pool = s.pool := by
    refine Pool.ext_get? fun path => ?_
    rw [get?_after hstart.pool_eq ops', hsame, ← get?_after hstart.pool_eq ops]
  refine ⟨hpool, fun hingests => ?_⟩
  have hsession : start.after ops' = s := by
    have hleft := after_of_ingests (fun o ho => hingests o (List.mem_append_left _ ho))
      hstart.pins_eq hstart.history_eq
    have hright := after_of_ingests (fun o ho => hingests o (List.mem_append_right _ ho))
      hstart.pins_eq hstart.history_eq
    rw [hright, hpool]
    exact hleft.symm
  exact ⟨hsession, fun later => by rw [hsession]⟩

/-- A file that is loaded and then found gone in one batch, and one that comes back, are as if each
had come once in another order; what was there before the reset is not. -/
theorem pool_represents_outcomes_replaced :
    let ops : List Operation :=
      [.ingest "old.rs" (.ok "old"), .reset,
        .ingestAll [("b.rs", .ok "fn b()"), ("src/a.rs", .error "denied"), ("b.rs", .error "gone")],
        .ingest "src/a.rs" (.ok "fn a()\nfn c()")]
    let ops' : List Operation :=
      [.ingest "b.rs" (.error "gone"), .ingest "src/a.rs" (.ok "fn a()\nfn c()")]
    let s := (new {}).after ops
    s.pool.get? "src/a.rs" =
        some (.loaded
          { path := "src/a.rs", name := "a.rs", content := "fn a()\nfn c()"
            summary := "fn a()\nfn c()", lines := 2, tokens := 3 }) ∧
      s.pool.get? "b.rs" =
        some (.failed { path := "b.rs", name := "b.rs", reason := "gone" }) ∧
      s.pool.get? "old.rs" = none ∧
      s.inventory.failed + s.inventory.entries.length = 2 ∧
      ∀ later, ((new {}).after ops').trace later = s.trace later := by
  intro ops ops' s
  obtain ⟨hrepresents, -, -, hshows, -, htwo⟩ := pool_represents_outcomes (new {}) (.new {}) ops
  have hops : (ingestedSinceReset ops).reverse =
      [("src/a.rs", .ok "fn a()\nfn c()"), ("b.rs", .error "gone"), ("src/a.rs", .error "denied"),
        ("b.rs", .ok "fn b()")] := rfl
  have hops' : (ingestedSinceReset ops').reverse =
      [("src/a.rs", .ok "fn a()\nfn c()"), ("b.rs", .error "gone")] := rfl
  have hsame (path : String) : lastOutcome ops' path = lastOutcome ops path := by
    rw [lastOutcome, lastOutcome, hops, hops']
    simp only [List.lookup_cons]
    cases path == "src/a.rs" <;> cases path == "b.rs" <;> rfl
  obtain ⟨a, hfound, hloaded⟩ := hrepresents.found "src/a.rs" (.ok "fn a()\nfn c()") rfl
  obtain ⟨b, hfound', hfailed⟩ := hrepresents.found "b.rs" (.error "gone") rfl
  refine ⟨hfound.trans ?_, hfound'.trans ?_, hrepresents.absent _ rfl, hshows.counted, ?_⟩
  · rw [leaves_iff.mp hloaded]
    decide +kernel
  · rw [leaves_iff.mp hfailed]
    decide +kernel
  · exact ((htwo ops' hsame).2 (by simp [ops, ops', Operation.ingests])).2

end Session
end FileChat
