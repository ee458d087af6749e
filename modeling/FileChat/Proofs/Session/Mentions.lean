import FileChat.Proofs.Context.Ranking
import FileChat.Proofs.Session.Search
import FileChat.Session

/-!
# Texts that are found where they are written

A search looks for lines, a focus for names, and a score for the name of an artifact in the
question. All three compare lower-case forms, which may differ for one and the same text where a
capital sigma stands at its end. So a text is found wherever it is written exactly if it is settled,
by each of the three.
-/
namespace FileChat

open Text

/-! ## Lines -/

namespace Search

/-- Whether a search counts a line of an artifact: the line is among the hits, or what comes before
it uses up the three places of the artifact or the ten of the search. -/
def Counts (p : Pool) (needle : String) (a : LoadedArtifact) (number : Nat) (line : List Char) :
    Prop :=
  (∃ hit ∈ pool p needle, hit.path = a.path ∧ (⟨number, excerpt line⟩ ∈ hit.found ∨
    hit.found.length = 3 ∧ ∀ m ∈ hit.found, m.number < number)) ∨
  (pool p needle).length = 10 ∧ ∀ hit ∈ pool p needle, hit.path < a.path

/-- Whether a search counts all lines that have the needle in them as it is written. -/
def FindsVerbatim (needle : String) : Prop :=
  ∀ (p : Pool) (a : LoadedArtifact), a ∈ p.loaded → ∀ (k : Nat) (line : List Char),
    (lines a.content.toList)[k]? = some line → needle.toList <:+: line →
      Counts p needle a (k + 1) line

/-- A line is counted if its lower-case form has that of a needle with characters. -/
theorem counts_of_infix {p : Pool} {needle : String} {a : LoadedArtifact} {k : Nat}
    {line : List Char} (hne : needle ≠ "") (ha : a ∈ p.loaded)
    (hline : (lines a.content.toList)[k]? = some line)
    (hin : lower needle.toList <:+: lower line) : Counts p needle a (k + 1) line := by
  have hneedle : lower needle.toList ≠ [] := by
    rw [Ne, lower_eq_nil_iff, String.toList_eq_nil_iff]
    exact hne
  have hreports : Reports needle a.content ⟨k + 1, excerpt line⟩ :=
    ⟨line, Nat.le_add_left 1 k, hline, hin, rfl⟩
  have hfound := (firsts_matchingLines needle a.content).complete _ hreports
  have hshows := shows_hit needle a
  obtain hhit | hfull :=
    (firsts_pool hneedle p).complete _ ⟨a, ha, hasLine_of_reports hreports, hshows⟩
  · exact .inl ⟨_, hhit, rfl, hfound⟩
  · exact .inr hfull

/-- An artifact without the needle in the lower-case form of any line is not found. -/
theorem pool_eq_nil {p : Pool} {needle : String}
    (h : ∀ a ∈ p.loaded, ∀ line ∈ lines a.content.toList,
      ¬ lower needle.toList <:+: lower line) : pool p needle = [] := by
  by_cases hneedle : lower needle.toList = []
  · exact pool_of_eq_nil hneedle
  · apply List.eq_nil_iff_forall_not_mem.mpr
    intro shown hshown
    obtain ⟨a, ha, ⟨line, hline, hin⟩, -⟩ := (firsts_pool hneedle p).sound shown hshown
    exact h a ha line hline hin

theorem not_counts_of_pool_eq_nil {p : Pool} {needle : String} {a : LoadedArtifact} {number : Nat}
    {line : List Char} (h : pool p needle = []) : ¬ Counts p needle a number line := by
  rw [Counts, h]
  rintro (⟨found, hfound, -⟩ | ⟨hfull, -⟩)
  · cases hfound
  · cases hfull

/-- The pool with one artifact in it. -/
def poolOf (content : String) : Pool := Pool.empty.insert (.ofContent "a.txt" content)

theorem mem_loaded_poolOf {content : String} {a : LoadedArtifact} :
    a ∈ (poolOf content).loaded ↔ Artifact.ofContent "a.txt" content = .loaded a := by
  rw [Pool.mem_loaded_iff]
  exact List.mem_singleton.trans eq_comm

theorem findsVerbatim_iff (needle : String) :
    FindsVerbatim needle ↔
      needle ≠ "" ∧ ('\n' ∈ needle.toList ∨ Settled needle.toList) := by
  constructor
  · intro h
    have hcounts (line : List Char) (hline : '\n' ∉ line) (hin : needle.toList <:+: line) :
        ¬ pool (poolOf (String.ofList line)) needle = [] := by
      intro hnil
      refine not_counts_of_pool_eq_nil hnil (h _ _ (mem_loaded_poolOf.mpr rfl) 0 line ?_ hin)
      show (lines (String.ofList line).toList)[0]? = some line
      rw [String.toList_ofList, lines, List.splitOn_eq_singleton hline]
      rfl
    refine ⟨?_, ?_⟩
    · rintro rfl
      exact hcounts [] List.not_mem_nil List.infix_rfl (pool_of_eq_nil rfl)
    · by_contra hnot
      obtain ⟨hfeed, hsettled⟩ := not_or.mp hnot
      obtain ⟨text, hin, hchars, hmissed⟩ := exists_missed hsettled
      have hline : '\n' ∉ text := fun hmem => (hchars _ hmem).elim hfeed (by decide)
      refine hcounts text hline hin (pool_eq_nil ?_)
      intro a ha line hmem
      obtain rfl := Artifact.loaded.inj (mem_loaded_poolOf.mp ha)
      rw [String.toList_ofList, lines, List.splitOn_eq_singleton hline, List.mem_singleton] at hmem
      rw [hmem]
      exact hmissed
  · rintro ⟨hne, hsettled⟩ p a ha k line hline hin
    refine counts_of_infix hne ha hline (lower_infix_of_settled (hsettled.resolve_left ?_) hin)
    -- A line has no line feed, so no needle with one stands in it.
    intro hfeed
    exact lineFeed_not_mem_of_mem_lines (List.mem_of_getElem? hline) (hin.mem hfeed)

end Search

/-! ## Names of artifacts -/

namespace Session

/-- Whether a focus pins all loaded artifacts that have the pattern in their names as it is
written. -/
def FocusesVerbatim (pattern : String) : Prop :=
  ∀ (s : Session) (a : LoadedArtifact), a ∈ s.pool.loaded → pattern.toList <:+: a.name.toList →
    a.name ∈ (s.focus pattern).answer ∧ (s.focus pattern).session.pins.covers a

theorem mem_named {s : Session} {pattern : String} {a : LoadedArtifact} :
    a ∈ s.named pattern ↔
      a ∈ s.pool.loaded ∧ lower pattern.toList <:+: lower a.name.toList := by
  rw [named, List.mem_filter, occurs_iff]

/-- Pinning the paths of some artifacts adds these and keeps what was pinned. -/
theorem mem_foldl_insert {artifacts : List LoadedArtifact} {pins : Pins} {identifier : String} :
    identifier ∈ (artifacts.foldl (fun pins a => pins.insert a.path) pins).identifiers ↔
      identifier ∈ artifacts.map (·.path) ∨ identifier ∈ pins.identifiers := by
  induction artifacts generalizing pins with
  | nil => simp
  | cons a artifacts ih =>
    rw [List.foldl_cons, ih, Pins.mem_insert, List.map_cons, List.mem_cons]
    tauto

/-- The session with one artifact in its pool. -/
def sessionOf (a : LoadedArtifact) : Session :=
  { settings := {}, pool := Pool.empty.insert (.loaded a) }

theorem mem_loaded_sessionOf {a b : LoadedArtifact} : b ∈ (sessionOf a).pool.loaded ↔ b = a :=
  List.mem_singleton

theorem focusesVerbatim_iff (pattern : String) :
    FocusesVerbatim pattern ↔ Settled pattern.toList := by
  constructor
  · intro h
    by_contra hsettled
    obtain ⟨text, hin, -, hmissed⟩ := exists_missed hsettled
    let a : LoadedArtifact := { (default : LoadedArtifact) with name := .ofList text }
    have hname : a.name.toList = text := String.toList_ofList
    rw [← hname] at hin hmissed
    obtain ⟨b, hb, -⟩ := List.mem_map.mp
      (h (sessionOf a) a (mem_loaded_sessionOf.mpr rfl) hin).1
    obtain ⟨hloaded, hfound⟩ := mem_named.mp hb
    rw [mem_loaded_sessionOf.mp hloaded] at hfound
    exact hmissed hfound
  · intro hsettled s a ha hin
    have hnamed : a ∈ s.named pattern := mem_named.mpr ⟨ha, lower_infix_of_settled hsettled hin⟩
    refine ⟨List.mem_map_of_mem hnamed, Pins.covers_iff.mpr (.inr ?_)⟩
    exact mem_foldl_insert.mpr (.inl (List.mem_map_of_mem hnamed))

end Session

/-! ## Names in a question -/

namespace Relevance

/-- Whether an artifact of this name gets the weight of a named one for all questions that have the
name in them as it is written. -/
def GrantsVerbatim (name : String) : Prop :=
  ∀ (query : String) (a : LoadedArtifact) (pins : Pins) (w : Weights), a.name = name →
    name.toList <:+: query.toList →
      score query a pins w = score query a pins { w with nameInQuery := 0 } + w.nameInQuery

theorem foldl_add_right (hit bonus : UInt32) (found : List (List Char)) (start : UInt32) :
    found.foldl (fun score _ => score + hit) (start + bonus) =
      found.foldl (fun score _ => score + hit) start + bonus := by
  induction found generalizing start with
  | nil => rfl
  | cons word found ih =>
    rw [List.foldl_cons, List.foldl_cons, UInt32.add_assoc, UInt32.add_comm bonus,
      ← UInt32.add_assoc, ih]

/-- The weight of a named artifact is added to what it scores otherwise, or nothing is. -/
theorem score_eq_add (query : String) (a : LoadedArtifact) (pins : Pins) (w : Weights) :
    score query a pins w = score query a pins { w with nameInQuery := 0 } +
      if occurs (lower a.name.toList) (lower query.toList) then w.nameInQuery else 0 := by
  simp only [score, scoreLowered, ite_self, UInt32.add_zero]
  exact foldl_add_right _ _ _ _

theorem grantsVerbatim_iff (name : String) : GrantsVerbatim name ↔ Settled name.toList := by
  constructor
  · intro h
    by_contra hsettled
    obtain ⟨text, hin, -, hmissed⟩ := exists_missed hsettled
    have hquery : (String.ofList text).toList = text := String.toList_ofList
    rw [← hquery] at hin hmissed
    have hscore := h (.ofList text) { (default : LoadedArtifact) with name } .empty {} rfl hin
    rw [score_eq_add, if_neg (mt occurs_iff.mp hmissed)] at hscore
    exact absurd ((UInt32.add_right_inj _).mp hscore) (by decide)
  · rintro hsettled query a pins w rfl hin
    rw [score_eq_add, if_pos (occurs_iff.mpr (lower_infix_of_settled hsettled hin))]

end Relevance

/-- A needle is found by a search wherever it is written, exactly if it is not empty and settled;
with a line feed it is written in no line. A pattern and a name are found exactly if they are
settled, and only a text with a capital sigma is not. -/
theorem verbatim_found_iff_settled (needle : String) :
    (Search.FindsVerbatim needle ↔
      needle ≠ "" ∧ ('\n' ∈ needle.toList ∨ Settled needle.toList)) ∧
    (Session.FocusesVerbatim needle ↔ Settled needle.toList) ∧
    (Relevance.GrantsVerbatim needle ↔ Settled needle.toList) ∧
    (Settled needle.toList ∨ capitalSigma ∈ needle.toList) := by
  refine ⟨Search.findsVerbatim_iff needle, Session.focusesVerbatim_iff needle,
    Relevance.grantsVerbatim_iff needle, ?_⟩
  by_cases hsigma : capitalSigma ∈ needle.toList
  · exact .inr hsigma
  · exact .inl (settled_of_not_mem hsigma)

/-- A sigma at the end of a word is not found by that letter: as a word of its own it is no final
one. -/
theorem final_sigma_missed :
    "Σ".toList <:+: "ΑΣ".toList ∧
    Search.pool (Search.poolOf "ΑΣ") "Σ" = [] ∧
    (((Session.new {}).ingest "ΑΣ" (.ok "")).focus "Σ").answer = [] ∧
    Relevance.score "ΑΣ" { (default : LoadedArtifact) with name := "Σ" } .empty {} = 0 := by
  refine ⟨?_, ?_, ?_, ?_⟩
  · exact ⟨['Α'], [], rfl⟩
  · decide +kernel
  · decide +kernel
  · decide +kernel

end FileChat
