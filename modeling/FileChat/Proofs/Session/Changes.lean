import FileChat.Proofs.Session.Focus
import FileChat.Proofs.Session.Observer

/-!
# Which changes are told

An operation tells of the mode exactly if it changes it, and so the modes that are told in a run are
always new ones. Of the pins the same holds for all operations but two. A reset tells of itself
alone. A focus tells of the pins whenever its pattern names a file that is loaded, also if all that
it names is pinned already: then an observer hears of a change that did not take place.
-/
namespace FileChat

/-- Whether two sets of pins hold the same. -/
def Pins.Same (p q : Pins) : Prop := ∀ i, i ∈ p.identifiers ↔ i ∈ q.identifiers

/-- Something is told under a condition, and then once and as it is now. -/
structure ToldOnce {α : Type} (told : List α) (now : α) (condition : Prop) : Prop where
  once : condition → told = [now]
  silent : ¬ condition → told = []

namespace ToldOnce

variable {α : Type} {told : List α} {now : α} {condition : Prop}

theorem of_holds (h : condition) (htold : told = [now]) : ToldOnce told now condition :=
  ⟨fun _ => htold, fun hnot => absurd h hnot⟩

theorem of_fails (h : ¬ condition) (htold : told = []) : ToldOnce told now condition :=
  ⟨fun hholds => absurd hholds h, fun _ => htold⟩

end ToldOnce

theorem Pins.same_of_eq {p q : Pins} (h : p = q) : p.Same q := fun i => by rw [h]

theorem Pins.eq_empty_of_size {p : Pins} (h : p.size = 0) : p = .empty := by
  obtain ⟨identifiers, nodup⟩ := p
  obtain rfl : identifiers = [] := List.eq_nil_of_length_eq_zero h
  rfl

theorem Pins.not_same_of_mem {p q : Pins} {i : String} (hp : i ∈ p.identifiers)
    (hq : i ∉ q.identifiers) : ¬ p.Same q ∧ ¬ q.Same p :=
  ⟨fun h => hq ((h i).mp hp), fun h => hq ((h i).mpr hp)⟩

theorem Event.of_generation {e : Event} (h : e.ofGeneration = true) :
    e.mode? = none ∧ e.pinned? = none := by
  cases e with
  | pinsChanged | modeChanged => cases h
  | artifactsIngested | generationStarted | generationFinished | sessionReset => exact ⟨rfl, rfl⟩

namespace Session

variable {s : Session} {o : Operation} {pattern : String} {t : Step Answer}

/-- Whether an operation is a focus that finds something, but nothing that is not pinned already. -/
def Refocuses (s : Session) (o : Operation) : Prop :=
  ∃ pattern, o = .focus pattern ∧ (∃ a ∈ s.pool.loaded, Names pattern a.name) ∧
    ∀ a ∈ s.pool.loaded, Names pattern a.name → a.path ∈ s.pins.identifiers

/-- What an operation tells of the mode and of the pins, beside what it does to them. -/
structure Announces (s : Session) (o : Operation) (t : Step Answer) : Prop where
  mode : ToldOnce (t.events.filterMap Event.mode?) t.session.mode.name (t.session.mode ≠ s.mode)
  pins : o ≠ .reset → ToldOnce (t.events.filterMap Event.pinned?) t.session.pins.size
    (¬ t.session.pins.Same s.pins ∨ s.Refocuses o)
  refocused : s.Refocuses o → t.session.pins.Same s.pins
  reset : o = .reset → t.events = [.sessionReset]

/-! ## One operation -/

theorem not_refocuses (hfocus : ∀ pattern, o ≠ .focus pattern) : ¬ s.Refocuses o := by
  intro hagain
  obtain ⟨pattern, ho, -, -⟩ := hagain
  exact hfocus pattern ho

/-- An operation that leaves the pins alone and does not tell of them. -/
theorem announces_of_same (hfocus : ∀ pattern, o ≠ .focus pattern) (hreset : o ≠ .reset)
    (hmode : ToldOnce (t.events.filterMap Event.mode?) t.session.mode.name
      (t.session.mode ≠ s.mode))
    (hpins : t.session.pins = s.pins) (hcounts : t.events.filterMap Event.pinned? = []) :
    s.Announces o t where
  mode := hmode
  pins _ := .of_fails (not_or.mpr ⟨not_not.mpr (Pins.same_of_eq hpins), not_refocuses hfocus⟩)
    hcounts
  refocused hagain := absurd hagain (not_refocuses hfocus)
  reset ho := absurd ho hreset

/-- An operation that leaves mode and pins alone and tells of neither. -/
theorem announces_of_kept (hfocus : ∀ pattern, o ≠ .focus pattern) (hreset : o ≠ .reset)
    (hmode : t.session.mode = s.mode) (hpins : t.session.pins = s.pins)
    (hmodes : t.events.filterMap Event.mode? = [])
    (hcounts : t.events.filterMap Event.pinned? = []) : s.Announces o t :=
  announces_of_same hfocus hreset (.of_fails (not_not.mpr hmode) hmodes) hpins hcounts

/-- An operation that changes the pins alone, and tells how many there are now. -/
theorem announces_of_pins (hfocus : ∀ pattern, o ≠ .focus pattern) (hreset : o ≠ .reset)
    (hmode : t.session.mode = s.mode) (hpins : ¬ t.session.pins.Same s.pins)
    (hevents : t.events = [.pinsChanged t.session.pins.size]) : s.Announces o t where
  mode := .of_fails (not_not.mpr hmode) (by rw [hevents]; rfl)
  pins _ := .of_holds (.inl hpins) (by rw [hevents]; rfl)
  refocused hagain := absurd hagain (not_refocuses hfocus)
  reset ho := absurd ho hreset

theorem pin_announces (s : Session) (identifier : String) :
    s.Announces (.pin identifier) (s.perform (.pin identifier)) := by
  show s.Announces _ ((s.pin identifier).map .fresh)
  rw [pin_eq]
  by_cases hpinned : s.pins.contains identifier = true
  · have hsame : s.pins.insert identifier = s.pins := dif_pos (Pins.contains_iff.mp hpinned)
    rw [if_pos hpinned, hsame]
    exact announces_of_kept nofun nofun rfl rfl rfl rfl
  · rw [if_neg hpinned]
    have hnew : identifier ∈ (s.pins.insert identifier).identifiers :=
      Pins.mem_insert.mpr (.inl rfl)
    have hold : identifier ∉ s.pins.identifiers := fun h => hpinned (Pins.contains_iff.mpr h)
    exact announces_of_pins nofun nofun rfl (Pins.not_same_of_mem hnew hold).1 rfl

theorem clearPins_announces (s : Session) :
    s.Announces .clearPins (s.perform .clearPins) := by
  show s.Announces _ (s.clearPins.map .count)
  unfold clearPins
  by_cases hnone : s.pins.size = 0
  · rw [if_pos hnone]
    exact announces_of_kept nofun nofun rfl (Pins.eq_empty_of_size hnone).symm rfl rfl
  · rw [if_neg hnone]
    obtain ⟨i, hi⟩ := List.exists_mem_of_length_pos (Nat.pos_of_ne_zero hnone)
    exact announces_of_pins nofun nofun rfl (Pins.not_same_of_mem hi List.not_mem_nil).2 rfl

theorem setMode_announces (s : Session) (mode : Mode) :
    s.Announces (.setMode mode) (s.perform (.setMode mode)) := by
  show s.Announces _ ((s.setMode mode).map fun _ => .done)
  rw [setMode_eq]
  by_cases hsame : s.mode = mode
  · rw [if_pos hsame]
    exact announces_of_kept nofun nofun hsame.symm rfl rfl rfl
  · rw [if_neg hsame]
    exact announces_of_same nofun nofun (.of_holds (Ne.symm hsame) rfl) rfl rfl

theorem named_eq_nil_iff :
    s.named pattern = [] ↔ ¬ ∃ a ∈ s.pool.loaded, Names pattern a.name := by
  rw [List.eq_nil_iff_forall_not_mem]
  simp only [mem_named, not_exists, not_and]
  rfl

/-- A focus changes the pins exactly if something that it names is not pinned by its path. -/
theorem same_focus_iff : (s.focus pattern).session.pins.Same s.pins ↔
    ∀ a ∈ s.pool.loaded, Names pattern a.name → a.path ∈ s.pins.identifiers := by
  constructor
  · intro hsame a ha hnames
    exact (hsame a.path).mp (mem_pins_focus.mpr (.inr ⟨a, ha, hnames, rfl⟩))
  · intro hpinned i
    rw [mem_pins_focus]
    constructor
    · intro hi
      obtain hold | ⟨a, ha, hnames, rfl⟩ := hi
      · exact hold
      · exact hpinned a ha hnames
    · exact .inl

theorem events_focus (s : Session) (pattern : String) :
    (s.focus pattern).events =
      if s.named pattern = [] then [] else [.pinsChanged (s.focus pattern).session.pins.size] := by
  simp only [← List.isEmpty_iff]
  rfl

theorem focus_announces (s : Session) (pattern : String) :
    s.Announces (.focus pattern) (s.perform (.focus pattern)) := by
  show s.Announces _ ((s.focus pattern).map .names)
  constructor
  · refine .of_fails (not_not.mpr rfl) ?_
    show (s.focus pattern).events.filterMap _ = _
    rw [events_focus]
    split <;> rfl
  · intro _
    show ToldOnce ((s.focus pattern).events.filterMap _) _
      (¬ (s.focus pattern).session.pins.Same _ ∨ _)
    rw [events_focus, same_focus_iff]
    by_cases hfinds : ∃ a ∈ s.pool.loaded, Names pattern a.name
    · rw [if_neg (named_eq_nil_iff.not.mpr (not_not.mpr hfinds))]
      refine .of_holds ?_ rfl
      exact (Decidable.em _).symm.imp_right fun hpinned => ⟨pattern, rfl, hfinds, hpinned⟩
    · rw [if_pos (named_eq_nil_iff.mpr hfinds)]
      refine .of_fails ?_ rfl
      intro htold
      obtain hchanged | ⟨pattern', ho, hfinds', -⟩ := htold
      · exact hchanged fun a ha hnames => absurd ⟨a, ha, hnames⟩ hfinds
      · exact hfinds (Operation.focus.inj ho ▸ hfinds')
  · intro hagain
    obtain ⟨pattern', ho, -, hpinned⟩ := hagain
    exact same_focus_iff.mpr (Operation.focus.inj ho ▸ hpinned)
  · exact nofun

theorem generate_announces (s : Session) (c : Call) :
    s.Announces (.generate c) (s.perform (.generate c)) := by
  obtain ⟨history, activity, hsession⟩ := s.session_call c
  have hkept : (s.perform (.generate c)).session = { s with history, activity } := hsession
  have hevents : ∀ e ∈ (s.perform (.generate c)).events, e.ofGeneration = true :=
    ofGeneration_of_mem_call
  refine announces_of_kept nofun nofun (congrArg (·.mode) hkept) (congrArg (·.pins) hkept) ?_ ?_
  · exact List.filterMap_eq_nil_iff.mpr fun e he => (Event.of_generation (hevents e he)).1
  · exact List.filterMap_eq_nil_iff.mpr fun e he => (Event.of_generation (hevents e he)).2

theorem ingestAll_announces (s : Session) (items : List (String × Outcome)) :
    s.Announces (.ingestAll items) (s.perform (.ingestAll items)) := by
  show s.Announces _ ((s.ingestAll items).map .report)
  unfold ingestAll
  rw [foldl_ingest]
  exact announces_of_kept nofun nofun rfl rfl rfl rfl

theorem reset_announces (s : Session) : s.Announces .reset (s.perform .reset) where
  mode := .of_fails (not_not.mpr rfl) rfl
  pins hreset := absurd rfl hreset
  refocused hagain := absurd hagain (not_refocuses nofun)
  reset _ := rfl

theorem perform_announces (s : Session) (o : Operation) : s.Announces o (s.perform o) := by
  cases o with
  | pin identifier => exact s.pin_announces identifier
  | focus pattern => exact s.focus_announces pattern
  | clearPins => exact s.clearPins_announces
  | setMode mode => exact s.setMode_announces mode
  | generate c => exact s.generate_announces c
  | ingestAll items => exact s.ingestAll_announces items
  | reset => exact s.reset_announces
  | ingest | inventory | search | assembleRequest | record =>
    exact announces_of_kept nofun nofun rfl rfl rfl rfl

/-! ## Whole runs -/

/-- The modes told in a run are always new ones. -/
theorem isChain_modes_told (s : Session) (ops : List Operation) :
    (s.mode.name :: (told (s.trace ops)).filterMap Event.mode?).IsChain (· ≠ ·) := by
  induction ops generalizing s with
  | nil => exact .singleton _
  | cons o ops ih =>
    have hrest := ih (s.perform o).session
    have htold : told (s.trace (o :: ops)) =
        (s.perform o).events ++ told ((s.perform o).session.trace ops) := rfl
    rw [htold, List.filterMap_append]
    have hmode := (s.perform_announces o).mode
    by_cases hkept : (s.perform o).session.mode = s.mode
    · rw [hmode.silent (not_not.mpr hkept), List.nil_append, ← hkept]
      exact hrest
    · rw [hmode.once hkept]
      refine .cons_cons ?_ hrest
      intro hname
      have hsame := congrArg Mode.ofName hname
      rw [Mode.ofName_name, Mode.ofName_name] at hsame
      exact hkept (Except.ok.inj hsame).symm

/-- After any run of any session, an operation tells of the mode exactly if it changes it; so the
modes told in a run are always new ones. Of the pins an operation other than a reset tells exactly
if it changes them, or if it is a focus that finds something and nothing that is not pinned already;
such a focus does not change them. What is told is told once, and as it is then. -/
theorem changes_told (start : Session) (ops : List Operation) :
    (∀ o, (start.after ops).Announces o ((start.after ops).perform o)) ∧
    (start.mode.name :: (told (start.trace ops)).filterMap Event.mode?).IsChain (· ≠ ·) :=
  ⟨perform_announces (start.after ops), isChain_modes_told start ops⟩

/-- The same focus again finds the file that it has pinned, and tells of the pins as if they had
changed. -/
theorem refocus_told :
    let s := (new {}).after [.ingest "a.txt" (.ok ""), .focus "a"]
    let t := s.perform (.focus "a")
    Event.pinsChanged 1 ∈ t.events ∧ t.session.pins.Same s.pins := by
  intro s t
  have hsame : t.session.pins.identifiers = s.pins.identifiers := by decide +kernel
  refine ⟨?_, fun i => by rw [hsame]⟩
  decide +kernel

end Session
end FileChat
