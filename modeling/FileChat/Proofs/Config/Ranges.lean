import FileChat.Proofs.Backend.Temperature
import FileChat.Proofs.Config.Source
import FileChat.Proofs.Session.Run

/-!
# Settings in their ranges

A configuration is accepted exactly if all that is checked is in range. The temperature is checked
for being less than zero or greater than two, and a value that is no number is neither, so it is
accepted as well. The environment sets nothing that is checked, and a session never changes its
settings; so a body has a temperature from zero to two, or null in its place.
-/
namespace FileChat.Config

open Toml (Value)

/-- Whether the settings of a configuration are in their ranges, those apart that are no numbers. -/
structure Sound (c : Config) : Prop where
  temperature : c.defaultTemperature = .nan ∨ c.defaultTemperature.Between 0 2
  mode : c.context.mode = "smart" ∨ c.context.mode = "full" ∨ c.context.mode = "summary"
  contextBudget : 0 < c.context.maxContextTokens
  historyBudget : 0 < c.context.maxHistoryTokens
  maxFiles : 0 < c.ingest.maxFiles

theorem badTemperature_eq_false_iff {t : Binary} :
    badTemperature t = false ↔ t = .nan ∨ t.Between 0 2 := by
  rw [badTemperature, Bool.or_eq_false_iff]
  cases t with
  | nan => exact ⟨fun _ => .inl rfl, fun _ => ⟨rfl, rfl⟩⟩
  | infinite negative =>
    constructor
    · cases negative <;> rintro ⟨hlow, hhigh⟩
      · cases hhigh
      · cases hlow
    · rintro (hnan | ⟨q, hq, -⟩)
      · cases hnan
      · cases hq
  | finite negative m e =>
    obtain ⟨q, hq⟩ : ∃ q, (Binary.finite negative m e).value? = some q := ⟨_, rfl⟩
    rw [← Bool.not_eq_true, ← Bool.not_eq_true, Binary.lt_iff hq (Binary.value?_ofNat 0),
      Binary.lt_iff (Binary.value?_ofNat 2) hq, not_lt, not_lt]
    constructor
    · rintro ⟨hlow, hhigh⟩
      exact .inr ⟨q, hq, by exact_mod_cast hlow, by exact_mod_cast hhigh⟩
    · rintro (hnan | ⟨q', hq', hlow, hhigh⟩)
      · cases hnan
      · rw [hq] at hq'
        obtain rfl := Option.some.inj hq'
        exact ⟨by exact_mod_cast hlow, by exact_mod_cast hhigh⟩

theorem mem_contextModes_iff {mode : String} :
    mode ∈ contextModes ↔ mode = "smart" ∨ mode = "full" ∨ mode = "summary" := by
  simp [contextModes]

/-- No flaw is found exactly if the settings are in their ranges. -/
theorem flaw_eq_none_iff {c : Config} : c.flaw = none ↔ c.Sound := by
  unfold flaw
  constructor
  · intro h
    split at h
    · cases h
    next htemperature =>
    split at h
    · cases h
    next hmode =>
    split at h
    · cases h
    next hbudgets =>
    split at h
    · cases h
    next hfiles =>
    rw [not_or] at hbudgets
    exact
      { temperature := badTemperature_eq_false_iff.mp (Bool.not_eq_true _ ▸ htemperature)
        mode := mem_contextModes_iff.mp (not_not.mp hmode)
        contextBudget := Nat.pos_of_ne_zero hbudgets.1
        historyBudget := Nat.pos_of_ne_zero hbudgets.2
        maxFiles := Nat.pos_of_ne_zero hfiles }
  · intro h
    have htemperature := badTemperature_eq_false_iff.mpr h.temperature
    have hmode := mem_contextModes_iff.mpr h.mode
    rw [htemperature, if_neg Bool.false_ne_true, if_neg (not_not.mpr hmode),
      if_neg (not_or.mpr ⟨h.contextBudget.ne', h.historyBudget.ne'⟩), if_neg h.maxFiles.ne']

theorem validate_of_sound {c : Config} (h : c.Sound) : c.validate = .ok c := by
  rw [validate, flaw_eq_none_iff.mpr h]

theorem validate_of_not_sound {c : Config} (h : ¬ c.Sound) :
    ∃ reason, c.validate = .error (.validation reason) := by
  obtain ⟨reason, hreason⟩ := Option.ne_none_iff_exists'.mp (mt flaw_eq_none_iff.mp h)
  exact ⟨reason, by rw [validate, hreason]⟩

theorem sound_default : Sound {} := flaw_eq_none_iff.mp (by decide +kernel)

theorem sound_withEnvironment {c : Config} (h : c.Sound) (env : Environment) :
    (c.withEnvironment env).Sound :=
  ⟨h.temperature, h.mode, h.contextBudget, h.historyBudget, h.maxFiles⟩

/-! ## Temperatures of 32 bits -/

theorem narrow_of_real32? {v : Value} {t : Binary} (h : real32? v = some t) :
    t.narrow .binary32 = t := by
  cases v with
  | float x =>
    cases h
    exact Binary.narrow_narrow .binary32 x
  | integer n =>
    cases h
    exact Binary.narrow_round Nat.one_pos
  | _ => cases h

theorem narrow_default : ({} : Config).defaultTemperature.narrow .binary32 =
    ({} : Config).defaultTemperature := by decide +kernel

/-- A document sets a temperature of 32 bits, or leaves the default one. -/
theorem narrow_of_read {text : String} {doc : Value} {c : Config}
    (hread : Toml.read text = some doc) (h : ofDocument? doc = some c) :
    c.defaultTemperature.narrow .binary32 = c.defaultTemperature := by
  obtain ⟨entries, rfl, -⟩ := Toml.exists_table_of_read hread
  rw [givenOr_eq_some (readFrom_of_ofDocument? h).defaultTemperature]
  cases hset : (entries.lookup "default_temperature").bind real32? with
  | none => exact narrow_default
  | some t =>
    obtain ⟨v, -, hv⟩ := Option.bind_eq_some_iff.mp hset
    exact narrow_of_real32? hv

/-! ## What is accepted -/

/-- What is known of the settings of an accepted configuration. -/
theorem sound_of_ofFile {path : String} {file : FileState} {c : Config}
    (h : ofFile path file = .ok c) :
    c.Sound ∧ c.defaultTemperature.narrow .binary32 = c.defaultTemperature := by
  obtain ⟨-, rfl⟩ | ⟨doc, hdoc, hof, hflaw⟩ := accepted_of_ofFile h
  · exact ⟨sound_default, narrow_default⟩
  · obtain ⟨content, text, -, -, hread⟩ := exists_text_of_document hdoc
    exact ⟨flaw_eq_none_iff.mp hflaw, narrow_of_read hread hof⟩

theorem sound_of_load {env : Environment} {file : FileState} {c : Config}
    (h : load env file = .ok c) :
    c.Sound ∧ c.defaultTemperature.narrow .binary32 = c.defaultTemperature := by
  rw [load] at h
  cases hfile : ofFile (path env) file with
  | error e =>
    rw [hfile] at h
    cases h
  | ok f =>
    rw [hfile] at h
    cases h
    obtain ⟨hsound, hnarrow⟩ := sound_of_ofFile hfile
    exact ⟨sound_withEnvironment hsound env, hnarrow⟩

/-- Whatever a session of a configuration has been through, its requests have the temperature of
the configuration. -/
theorem temperature_requestOf (c : Config) (ops : List Operation) (call : Call) :
    (((Session.ofConfig c).after ops).requestOf call).temperature = c.defaultTemperature := by
  show ((Session.ofConfig c).after ops).settings.temperature = _
  rw [Session.settings_after]
  rfl

/-- An accepted configuration has its settings in their ranges, and the bodies of its sessions say
so of the temperature. A document with all settings in range is accepted, with what the environment
adds to it, and any other one is found invalid. -/
theorem accepted_in_range (path : String) (env : Environment) (file : FileState) :
    (∀ c, ofFile path file = .ok c ∨ load env file = .ok c → c.Sound ∧
      ∀ ops call (p : Provider) request,
        p.streamRequest (((Session.ofConfig c).after ops).requestOf call) = .ok request →
          ∃ body v, request.body = some body ∧ Json.Value.ofText? body = some v ∧
            Provider.TellsTemperature c.defaultTemperature (v.get? "temperature")) ∧
    ∀ doc c, document? file = some doc → ofDocument? doc = some c →
      (c.Sound → ofFile path file = .ok c ∧ load env file = .ok (c.withEnvironment env)) ∧
      (¬ c.Sound → ∃ reason, ofFile path file = .error (.validation reason) ∧
        load env file = .error (.validation reason)) := by
  constructor
  · intro c haccepted
    obtain ⟨hsound, hnarrow⟩ := haccepted.elim sound_of_ofFile sound_of_load
    refine ⟨hsound, fun ops call p request hsent => ?_⟩
    have htemperature := temperature_requestOf c ops call
    rw [← htemperature] at hnarrow ⊢
    obtain ⟨v, hv, htells⟩ :=
      Provider.ofText?_temperature hnarrow (htemperature ▸ hsound.temperature)
    exact ⟨_, v, Provider.body_of_streamRequest hsent, hv, htells⟩
  · intro doc c hdoc hof
    have hload : load env file = c.validate.map (·.withEnvironment env) := by
      rw [load, ofFile_of_document hdoc hof]
    rw [hload, ofFile_of_document hdoc hof]
    constructor
    · intro hsound
      rw [validate_of_sound hsound]
      exact ⟨rfl, rfl⟩
    · intro hnot
      obtain ⟨reason, hreason⟩ := validate_of_not_sound hnot
      rw [hreason]
      exact ⟨reason, rfl, rfl⟩

/-- The greatest temperature, and a limit that is none. -/
theorem accepted_in_range_greatest :
    let file : FileState := .bytes (FileSystem.bytes "default_temperature = 2.0")
    let other : FileState := .bytes (FileSystem.bytes "[ingest]\nmax_files = 0")
    let call : Call :=
      { now := ⟨2026, 3, 14, 9, 26, 53⟩, backend := fun _ => .pending, model := "m", query := "hi"
        cancel := .never, elapsedMs := 0 }
    ∃ c, load {} file = .ok c ∧ c.Sound ∧
      (∃ request, Provider.streamRequest ⟨"local", "http://h", "k"⟩
          ((Session.ofConfig c).requestOf call) = .ok request ∧
        ∃ body v, request.body = some body ∧ Json.Value.ofText? body = some v ∧
          Provider.TellsTemperature (.finite false 1 1) (v.get? "temperature")) ∧
      ∃ reason, load {} other = .error (.validation reason) := by
  intro file other call
  have hload : load {} file = .ok { defaultTemperature := .finite false 1 1 } := by
    decide +kernel
  obtain ⟨hsound, htells⟩ := (accepted_in_range "" {} file).1 _ (.inr hload)
  have htarget : Provider.target ⟨"local", "http://h", "k"⟩ "/chat/completions" =
      .ok ("http://h/chat/completions", "Bearer k") := by rfl
  obtain ⟨request, hrequest⟩ : ∃ request, Provider.streamRequest ⟨"local", "http://h", "k"⟩
      ((Session.ofConfig { defaultTemperature := .finite false 1 1 }).requestOf call) =
        .ok request := by
    rw [Provider.streamRequest, htarget]
    exact ⟨_, rfl⟩
  have hother : (document? other).bind ofDocument? = some { ingest := { maxFiles := 0 } } := by
    decide +kernel
  obtain ⟨doc, hdoc, hof⟩ := Option.bind_eq_some_iff.mp hother
  obtain ⟨reason, -, hrejected⟩ := ((accepted_in_range "" {} other).2 doc _ hdoc hof).2
    fun h => absurd h.maxFiles (by decide)
  exact ⟨_, hload, hsound, ⟨request, hrequest, htells [] call _ request hrequest⟩, reason,
    hrejected⟩

/-- A temperature that is no number is accepted, though it does not lie between zero and two. -/
theorem nan_accepted :
    let c : Config := { defaultTemperature := .nan }
    ofFile "config.toml" (.bytes (FileSystem.bytes "default_temperature = nan")) = .ok c ∧
      ¬ c.defaultTemperature.Between 0 2 := by
  intro c
  refine ⟨by decide +kernel, ?_⟩
  rintro ⟨q, hq, -⟩
  cases hq

end FileChat.Config
