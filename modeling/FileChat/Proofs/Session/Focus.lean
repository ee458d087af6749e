import FileChat.Proofs.Session.Ingestion
import FileChat.Proofs.Session.Mentions
import FileChat.Proofs.Session.Request

/-!
# What a focus pins

A focus stores the paths of the artifacts that its pattern names, and an artifact is pinned by its
path or by its name. So a stored path may be the name of another artifact. But the name by which a
file is shown is shown by itself: that artifact then has the name of the one whose path was stored,
and the pattern names it too. The theorems speak of pools whose artifacts have the names of their
paths, as they have after every run of a new session.
-/
namespace FileChat

/-! ## Names on paths -/

namespace Path

variable {path name : List Char}

/-- What may stand as a name on a path. -/
structure IsName (name : List Char) : Prop where
  unbroken : '/' ∉ name
  ne_nil : name ≠ []
  ne_here : name ≠ ['.']

theorem isName_of_mem_names (h : name ∈ names path) : IsName name := by
  obtain ⟨hpiece, hname⟩ := List.mem_filter.mp h
  obtain ⟨hnil, hhere⟩ := of_decide_eq_true hname
  exact ⟨Text.not_mem_of_mem_splitOn hpiece, hnil, hhere⟩

/-- A name alone is a path with that name on it. -/
theorem names_of_isName (h : IsName name) : names name = [name] := by
  rw [names, List.splitOn_eq_singleton h.unbroken]
  apply List.filter_cons_of_pos
  exact decide_eq_true ⟨h.ne_nil, h.ne_here⟩

theorem lastName?_eq_some_iff :
    lastName? path = some name ↔ (names path).getLast? = some name ∧ name ≠ ['.', '.'] := by
  unfold lastName?
  cases (names path).getLast? with
  | none => simp
  | some last =>
    show (if last = ['.', '.'] then none else some last) = some name ↔ _
    by_cases hparent : last = ['.', '.']
    · rw [if_pos hparent]
      refine ⟨nofun, ?_⟩
      rintro ⟨hlast, hname⟩
      exact absurd ((Option.some.inj hlast).symm.trans hparent) hname
    · rw [if_neg hparent]
      refine ⟨?_, And.left⟩
      intro hlast
      exact ⟨hlast, Option.some.inj hlast ▸ hparent⟩

theorem lastName?_of_lastName? (h : lastName? path = some name) :
    lastName? name = some name := by
  obtain ⟨hlast, hparent⟩ := lastName?_eq_some_iff.mp h
  have hname := isName_of_mem_names (List.mem_of_getLast? hlast)
  apply lastName?_eq_some_iff.mpr
  rw [names_of_isName hname]
  exact ⟨rfl, hparent⟩

/-- The name by which a file is shown is shown by itself. -/
theorem displayName_displayName (path : String) :
    displayName (displayName path) = displayName path := by
  cases h : lastName? path.toList with
  | none =>
    have hshown : displayName path = path := by rw [displayName, h]
    rw [hshown, hshown]
  | some name =>
    have hshown : displayName path = String.ofList name := by rw [displayName, h]
    rw [hshown, displayName, String.toList_ofList, lastName?_of_lastName? h]

end Path

namespace Session

variable {s start : Session} {pattern : String} {a b : LoadedArtifact}

/-- Whether a name has a pattern in it, whatever the case of the two. -/
def Names (pattern name : String) : Prop := Text.lower pattern.toList <:+: Text.lower name.toList

instance (pattern name : String) : Decidable (Names pattern name) :=
  inferInstanceAs (Decidable (_ <:+: _))

/-- A session pins and answers what a pattern names, and nothing else. -/
structure Focuses (s : Session) (pattern : String) (t : Step (List String)) : Prop where
  pins : ∀ i, i ∈ t.session.pins.identifiers ↔
    i ∈ s.pins.identifiers ∨ ∃ a ∈ s.pool.loaded, Names pattern a.name ∧ i = a.path
  entries : t.session.inventory.entries = s.inventory.entries.map fun e =>
    { e with pinned := decide (e.pinned ∨ Names pattern e.name) }
  answer : t.answer = (s.inventory.entries.filter fun e => Names pattern e.name).map (·.name)
  ascending : (s.inventory.entries.map (·.path)).Pairwise (· < ·)
  /-- Failed artifacts do not matter, nor does it whether there are any. -/
  blind : ∀ revise, (focus { s with pool := s.pool.reviseFailures revise } pattern).answer =
      t.answer ∧
    (focus { s with pool := s.pool.reviseFailures revise } pattern).session.pins = t.session.pins
  cleared : ∀ e ∈ t.session.clearPins.session.inventory.entries, e.pinned = false

/-! ## Pins -/

theorem mem_pins_focus {i : String} :
    i ∈ (s.focus pattern).session.pins.identifiers ↔
      i ∈ s.pins.identifiers ∨ ∃ a ∈ s.pool.loaded, Names pattern a.name ∧ i = a.path := by
  show i ∈ ((s.named pattern).foldl (fun pins a => pins.insert a.path) s.pins).identifiers ↔ _
  rw [mem_foldl_insert, List.mem_map, or_comm]
  apply or_congr_right
  constructor
  · rintro ⟨a, ha, rfl⟩
    obtain ⟨hloaded, hnames⟩ := mem_named.mp ha
    exact ⟨a, hloaded, hnames, rfl⟩
  · rintro ⟨a, hloaded, hnames, rfl⟩
    exact ⟨a, mem_named.mpr ⟨hloaded, hnames⟩, rfl⟩

/-- A path covers only artifacts of the name that is shown for it. -/
theorem name_eq_of_covered (ha : a.name = Path.displayName a.path)
    (hb : b.name = Path.displayName b.path) (h : a.name = b.path ∨ a.path = b.path) :
    a.name = b.name := by
  obtain hname | hpath := h
  · calc a.name = Path.displayName a.path := ha
      _ = Path.displayName (Path.displayName a.path) := (Path.displayName_displayName _).symm
      _ = Path.displayName b.path := by rw [← ha, hname]
      _ = b.name := hb.symm
  · rw [ha, hb, hpath]

theorem covers_focus (hshown : ∀ a ∈ s.pool.loaded, a.name = Path.displayName a.path)
    (ha : a ∈ s.pool.loaded) :
    (s.focus pattern).session.pins.covers a ↔ s.pins.covers a ∨ Names pattern a.name := by
  rw [Pins.covers_iff, Pins.covers_iff, mem_pins_focus, mem_pins_focus]
  constructor
  · have hcovered (h : ∃ b ∈ s.pool.loaded, Names pattern b.name ∧
        (a.name = b.path ∨ a.path = b.path)) : Names pattern a.name := by
      obtain ⟨b, hb, hnames, hpath⟩ := h
      rw [name_eq_of_covered (hshown a ha) (hshown b hb) hpath]
      exact hnames
    rintro ((hpinned | ⟨b, hb, hnames, hpath⟩) | (hpinned | ⟨b, hb, hnames, hpath⟩))
    · exact .inl (.inl hpinned)
    · exact .inr (hcovered ⟨b, hb, hnames, .inl hpath⟩)
    · exact .inl (.inr hpinned)
    · exact .inr (hcovered ⟨b, hb, hnames, .inr hpath⟩)
  · rintro ((hpinned | hpinned) | hnames)
    · exact .inl (.inl hpinned)
    · exact .inr (.inl hpinned)
    · exact .inr (.inr ⟨a, ha, hnames, rfl⟩)

/-! ## The inventory -/

theorem named_of_loaded_eq {p : Pool} (h : p.loaded = s.pool.loaded) (pattern : String) :
    named { s with pool := p } pattern = s.named pattern := by
  rw [named, named, h]

theorem entries_focus (hshown : ∀ a ∈ s.pool.loaded, a.name = Path.displayName a.path) :
    (s.focus pattern).session.inventory.entries = s.inventory.entries.map fun e =>
      { e with pinned := decide (e.pinned ∨ Names pattern e.name) } := by
  show s.pool.loaded.map _ = (s.pool.loaded.map _).map _
  rw [List.map_map]
  apply List.map_congr_left
  intro a ha
  have hpinned : (s.focus pattern).session.pins.covers a =
      decide (s.pins.covers a ∨ Names pattern a.name) := by
    rw [Bool.eq_iff_iff, covers_focus hshown ha, decide_eq_true_iff]
  show InventoryEntry.mk _ _ _ _ ((s.focus pattern).session.pins.covers a) = _
  rw [hpinned]
  rfl

theorem answer_focus (s : Session) (pattern : String) :
    (s.focus pattern).answer =
      (s.inventory.entries.filter fun e => Names pattern e.name).map (·.name) := by
  have hfound : s.named pattern = s.pool.loaded.filter fun a => Names pattern a.name := by
    apply List.filter_congr
    intro a _
    rw [Bool.eq_iff_iff, Text.occurs_iff, decide_eq_true_iff]
    rfl
  show (s.named pattern).map _ = ((s.pool.loaded.map _).filter _).map _
  rw [hfound, List.filter_map, List.map_map]
  rfl

theorem pinned_clearPins (s : Session) :
    ∀ e ∈ s.clearPins.session.inventory.entries, e.pinned = false := by
  intro e he
  obtain ⟨a, -, rfl⟩ := List.mem_map.mp he
  rfl

/-- After a run of a new session every artifact has the name that is shown for its path. -/
theorem name_of_mem_loaded (hstart : Fresh start) (ops : List Operation)
    (ha : a ∈ (start.after ops).pool.loaded) : a.name = Path.displayName a.path :=
  (Pool.derived_of_mem_loaded (represents_after hstart.pool_eq ops) ha).name

/-- After any run of a new session, a focus pins exactly what its pattern names: of the inventory
those entries are pinned that were pinned or have the pattern in their names, whatever its case, and
all else in them stays. It answers the names of these, in the order of their paths. Failed artifacts
have no part in it, and dropping the pins right after leaves no entry pinned. -/
theorem focus_pins_named (start : Session) (hstart : Fresh start) (ops : List Operation)
    (pattern : String) :
    (start.after ops).Focuses pattern ((start.after ops).focus pattern) := by
  have hshown : ∀ a ∈ (start.after ops).pool.loaded, a.name = Path.displayName a.path :=
    fun a ha => name_of_mem_loaded hstart ops ha
  constructor
  · exact fun i => mem_pins_focus
  · exact entries_focus hshown
  · exact answer_focus _ pattern
  · exact (inventory_shows _).ascending
  · intro revise
    have hsame := named_of_loaded_eq ((start.after ops).pool.loaded_reviseFailures revise) pattern
    unfold focus
    rw [hsame]
    exact ⟨rfl, rfl⟩
  · exact pinned_clearPins _

/-- The bare path `main.rs` is the name of two other artifacts, and all three are pinned; the pin
`lib.rs` is kept, a parent directory has its whole path for a name, and a failed file is not
answered. -/
theorem focus_pins_named_bare :
    let ops : List Operation :=
      [.ingestAll [("src/main.rs", .ok "b"), ("main.rs", .ok "a"), ("src/main.rs/", .ok "c"),
        ("main/..", .ok "d"), ("lib.rs", .ok "e"), ("/", .ok "f"), ("main.c", .error "gone")],
        .pin "lib.rs"]
    let t := ((new {}).after ops).focus "MAIN.r"
    t.answer = ["main.rs", "main.rs", "main.rs"] ∧
    t.session.inventory.entries.map (fun e => (e.path, e.pinned)) =
      [("/", false), ("lib.rs", true), ("main.rs", true), ("main/..", false),
        ("src/main.rs", true), ("src/main.rs/", true)] ∧
    ∀ e ∈ t.session.clearPins.session.inventory.entries, e.pinned = false := by
  intro ops t
  obtain ⟨-, hentries, hanswer, -, -, hcleared⟩ :=
    focus_pins_named (new {}) (.new {}) ops "MAIN.r"
  refine ⟨?_, ?_, hcleared⟩
  · rw [hanswer]
    decide +kernel
  · rw [hentries]
    decide +kernel

end Session
end FileChat
