import FileChat.Config.File
import FileChat.Proofs.Toml.Keys

/-!
# Where settings come from

What an accepted configuration says of its backends, told by the document in its file: the name of
the default one, the key for all of them, and the table of each. A setting that the document leaves
out is not set, and the default backend is then the local one. No backend has two tables.
-/
namespace FileChat.Config

open Toml (Value)

/-- The document that a configuration file holds. -/
def document? : FileState → Option Value
  | .bytes content => (Utf8.decode? content).bind fun cs => Toml.read (String.ofList cs)
  | .missing | .unreadable _ => none

/-- A text that a document sets. -/
def textSet? (doc : Option Value) (key : String) : Option String :=
  (doc.bind (·.get? key)).bind text?

/-- The table that a document has for a backend. -/
def tableSet? (doc : Option Value) (name : String) : Option ProviderTable :=
  ((doc.bind (·.get? "providers")).bind (·.get? name)).bind providerOf?

/-- What a configuration says of its backends is what a document sets. -/
structure SetBy (c : Config) (doc : Option Value) : Prop where
  defaultProvider : c.defaultProvider = (textSet? doc "default_provider").getD "ollama"
  apiKey : c.apiKey = textSet? doc "api_key"
  table : ∀ name, c.provider? name = tableSet? doc name
  distinct : (c.providers.map (·.1)).Nodup

theorem setBy_none : SetBy {} none := ⟨rfl, rfl, fun _ => rfl, List.nodup_nil⟩

theorem given_eq_some {α : Type} {read : Value → Option α} {v : Option Value} {a : Option α}
    (h : given read v = some a) : a = v.bind read := by
  cases v with
  | none =>
    cases h
    rfl
  | some v =>
    obtain ⟨b, hb, rfl⟩ := Option.map_eq_some_iff.mp h
    exact hb.symm

theorem givenOr_eq_some {α : Type} {default a : α} {read : Value → Option α} {v : Option Value}
    (h : givenOr default read v = some a) : a = (v.bind read).getD default := by
  obtain ⟨b, hb, rfl⟩ := Option.map_eq_some_iff.mp h
  rw [given_eq_some hb]

/-- The backends of a document have their names and their tables in its order. -/
theorem providersOf?_eq_some {entries : List (String × Value)}
    {providers : List (String × ProviderTable)}
    (h : providersOf? (.table entries) = some providers) :
    providers.map (·.1) = entries.map (·.1) ∧
      ∀ name, providers.lookup name = (entries.lookup name).bind providerOf? := by
  induction entries generalizing providers with
  | nil =>
    cases h
    exact ⟨rfl, fun _ => rfl⟩
  | cons e rest ih =>
    obtain ⟨key, v⟩ := e
    rw [providersOf?, List.mapM_cons] at h
    obtain ⟨table, htable, h⟩ := Option.bind_eq_some_iff.mp h
    obtain ⟨more, hmore, h⟩ := Option.bind_eq_some_iff.mp h
    obtain ⟨t, ht, rfl⟩ := Option.map_eq_some_iff.mp htable
    cases h
    obtain ⟨hnames, htables⟩ := ih hmore
    refine ⟨by rw [List.map_cons, hnames, List.map_cons], fun name => ?_⟩
    rw [List.lookup_cons, List.lookup_cons, htables]
    split
    · exact ht.symm
    · rfl

theorem tables_of_given {entries : List (String × Value)}
    {providers : List (String × ProviderTable)} (hdistinct : ∀ e ∈ entries, e.2.Distinct)
    (h : givenOr [] providersOf? (entries.lookup "providers") = some providers) :
    (∀ name, providers.lookup name = tableSet? (some (.table entries)) name) ∧
      (providers.map (·.1)).Nodup := by
  have hset (name : String) : tableSet? (some (.table entries)) name =
      ((entries.lookup "providers").bind (·.get? name)).bind providerOf? := rfl
  simp only [hset]
  cases hfound : entries.lookup "providers" with
  | none =>
    rw [hfound] at h
    cases h
    exact ⟨fun _ => rfl, List.nodup_nil⟩
  | some v =>
    obtain ⟨before, after, rfl, -⟩ := List.lookup_eq_some_iff.mp hfound
    have hv : v.Distinct := hdistinct _ (List.mem_append_right _ List.mem_cons_self)
    rw [hfound, givenOr, given] at h
    obtain ⟨o, ho, rfl⟩ := Option.map_eq_some_iff.mp h
    obtain ⟨providers, hproviders, rfl⟩ := Option.map_eq_some_iff.mp ho
    cases v with
    | table tables =>
      obtain ⟨hnames, htables⟩ := providersOf?_eq_some hproviders
      exact ⟨htables, hnames ▸ hv⟩
    | _ => cases hproviders

/-- Each setting of a configuration, read from the entries of a table. -/
structure ReadFrom (c : Config) (entries : List (String × Value)) : Prop where
  apiKey : given text? (entries.lookup "api_key") = some c.apiKey
  defaultProvider :
    givenOr "ollama" text? (entries.lookup "default_provider") = some c.defaultProvider
  defaultModel : givenOr "llama3" text? (entries.lookup "default_model") = some c.defaultModel
  defaultTemperature :
    givenOr ({} : Config).defaultTemperature real32? (entries.lookup "default_temperature") =
      some c.defaultTemperature
  defaultMaxTokens : given word32? (entries.lookup "default_max_tokens") = some c.defaultMaxTokens
  context : givenOr {} contextOf? (entries.lookup "context") = some c.context
  ingest : givenOr {} ingestOf? (entries.lookup "ingest") = some c.ingest
  transcriptDirectory :
    givenOr "." transcriptOf? (entries.lookup "transcript") = some c.transcriptDirectory
  providers : givenOr [] providersOf? (entries.lookup "providers") = some c.providers

theorem readFrom_of_ofDocument? {entries : List (String × Value)} {c : Config}
    (h : ofDocument? (.table entries) = some c) : c.ReadFrom entries := by
  obtain ⟨key, hkey, h⟩ := Option.bind_eq_some_iff.mp h
  obtain ⟨provider, hprovider, h⟩ := Option.bind_eq_some_iff.mp h
  obtain ⟨model, hmodel, h⟩ := Option.bind_eq_some_iff.mp h
  obtain ⟨temperature, htemperature, h⟩ := Option.bind_eq_some_iff.mp h
  obtain ⟨maxTokens, hmaxTokens, h⟩ := Option.bind_eq_some_iff.mp h
  obtain ⟨context, hcontext, h⟩ := Option.bind_eq_some_iff.mp h
  obtain ⟨ingest, hingest, h⟩ := Option.bind_eq_some_iff.mp h
  obtain ⟨transcript, htranscript, h⟩ := Option.bind_eq_some_iff.mp h
  obtain ⟨providers, hproviders, h⟩ := Option.bind_eq_some_iff.mp h
  cases h
  exact ⟨hkey, hprovider, hmodel, htemperature, hmaxTokens, hcontext, hingest, htranscript,
    hproviders⟩

/-- What an accepted document says of the backends. -/
theorem setBy_of_read {text : String} {doc : Value} {c : Config} (hread : Toml.read text = some doc)
    (h : ofDocument? doc = some c) : c.SetBy (some doc) := by
  obtain ⟨entries, rfl, hdistinct⟩ := Toml.exists_table_of_read hread
  have hfrom := readFrom_of_ofDocument? h
  have htables := tables_of_given hdistinct hfrom.providers
  exact ⟨givenOr_eq_some hfrom.defaultProvider, given_eq_some hfrom.apiKey, htables.1, htables.2⟩

theorem exists_text_of_document {file : FileState} {doc : Value} (h : document? file = some doc) :
    ∃ content text, file = .bytes content ∧ Utf8.decode? content = some text ∧
      Toml.read (String.ofList text) = some doc := by
  cases file with
  | missing | unreadable => cases h
  | bytes content =>
    obtain ⟨text, htext, hread⟩ := Option.bind_eq_some_iff.mp h
    exact ⟨content, text, rfl, htext, hread⟩

/-- A file whose document is a configuration comes down to the validation of that. -/
theorem ofFile_of_document {path : String} {file : FileState} {doc : Value} {c : Config}
    (hdoc : document? file = some doc) (h : ofDocument? doc = some c) :
    ofFile path file = c.validate := by
  obtain ⟨content, text, rfl, htext, hread⟩ := exists_text_of_document hdoc
  have hbind : (Toml.read (String.ofList text)).bind ofDocument? = some c := by
    rw [hread]
    exact h
  rw [ofFile, htext]
  simp only [hbind]

theorem validate_eq_ok {c c' : Config} (h : c.validate = .ok c') : c.flaw = none ∧ c' = c := by
  rw [validate] at h
  split at h
  · cases h
  · next hflaw => exact ⟨hflaw, (Except.ok.inj h).symm⟩

/-- An accepted configuration is the default one, or that of a document and without a flaw. -/
theorem accepted_of_ofFile {path : String} {file : FileState} {c : Config}
    (h : ofFile path file = .ok c) :
    file = .missing ∧ c = {} ∨
      ∃ doc, document? file = some doc ∧ ofDocument? doc = some c ∧ c.flaw = none := by
  cases file with
  | missing =>
    cases h
    exact .inl ⟨rfl, rfl⟩
  | unreadable reason => cases h
  | bytes content =>
    right
    rw [ofFile] at h
    split at h
    · cases h
    · next text htext =>
      split at h
      · cases h
      · next accepted haccepted =>
        obtain ⟨doc, hdoc, hof⟩ := Option.bind_eq_some_iff.mp haccepted
        obtain ⟨hflaw, rfl⟩ := validate_eq_ok h
        refine ⟨doc, ?_, hof, hflaw⟩
        rw [document?, htext, Option.bind_some, hdoc]

/-- An accepted configuration file sets what its document sets. -/
theorem setBy_of_ofFile {path : String} {file : FileState} {c : Config}
    (h : ofFile path file = .ok c) : c.SetBy (document? file) := by
  obtain ⟨rfl, rfl⟩ | ⟨doc, hdoc, hof, -⟩ := accepted_of_ofFile h
  · exact setBy_none
  · obtain ⟨content, text, -, -, hread⟩ := exists_text_of_document hdoc
    rw [hdoc]
    exact setBy_of_read hread hof

end FileChat.Config
