import FileChat.Backend.Registry
import FileChat.Proofs.Config.Source
import FileChat.Proofs.Text.Trimming
import Mathlib.Data.List.TakeWhile

/-!
# Which key goes to which backend

Every provider of a registry has the first key that is present: that of its own table, that of the
file, that of the environment, and at last the one that is usual for its name. Its address is that
of its own table or the usual one. A text that is set counts as present when it is empty. The
default provider is always there, with or without a table of its own.

`Resolves` tells all this by the document and the environment alone. That one table cannot bear
upon the provider of another, nor their order upon anything, is stated of two registries.
-/
namespace FileChat.Registry

open Config (Environment document? textSet? tableSet?)

/-- The name of the provider that is asked. -/
def chosenName (doc : Option Toml.Value) (env : Environment) : String :=
  env.provider.getD ((textSet? doc "default_provider").getD "ollama")

/-- The first key that is present, or the usual one. -/
def token (doc : Option Toml.Value) (env : Environment) (name : String) : String :=
  ([(tableSet? doc name).bind (·.apiKey), textSet? doc "api_key", env.apiKey].findSome? id).getD
    (if name = "ollama" then "ollama" else "")

/-- Where the backends of some names are. -/
def knownUrls : List (String × String) :=
  [("openrouter", "https://openrouter.ai/api/v1"),
    ("openai", "https://api.openai.com/v1"),
    ("groq", "https://api.groq.com/openai/v1"),
    ("vllm", "http://localhost:8000/v1"),
    ("llamacpp", "http://localhost:8080/v1"),
    ("llama.cpp", "http://localhost:8080/v1"),
    ("lmstudio", "http://localhost:1234/v1")]

/-- The address that is set for a name, or the known one, or that of the local backend. -/
def address (doc : Option Toml.Value) (name : String) : String :=
  ((tableSet? doc name).bind (·.apiUrl)).getD
    ((knownUrls.lookup name).getD "http://localhost:11434/v1")

/-- A provider has the key and the address of its name, slashes at the end apart, and shows the key
with each request. -/
structure Serves (doc : Option Toml.Value) (env : Environment) (p : Provider) : Prop where
  apiKey : p.apiKey = token doc env p.name
  slashes : ∃ n, (address doc p.name).toList = p.baseUrl.toList ++ List.replicate n '/'
  trimmed : p.baseUrl.toList.getLast? ≠ some '/'
  streamBearer : ∀ request sent, p.streamRequest request = .ok sent →
    sent.authorization = "Bearer " ++ token doc env p.name
  modelsBearer : ∀ sent, p.modelsRequest = .ok sent →
    sent.authorization = "Bearer " ++ token doc env p.name

/-- The providers of a document and an environment, each under its name. -/
structure Resolves (r : Registry) (doc : Option Toml.Value) (env : Environment) : Prop where
  defaultName : r.defaultName = chosenName doc env
  found : ∃ p, r.default? = some p ∧ p.name = chosenName doc env
  names : ∀ name, name ∈ r.providers.map (·.name) ↔
    name = chosenName doc env ∨ (tableSet? doc name).isSome
  ascending : (r.providers.map (·.name)).Pairwise (· < ·)
  get? : ∀ p ∈ r.providers, r.get? p.name = some p
  serves : ∀ p ∈ r.providers, Serves doc env p

/-! ## Addresses -/

theorem wellKnownUrl_eq (name : String) :
    wellKnownUrl name = (knownUrls.lookup name).getD "http://localhost:11434/v1" := by
  unfold wellKnownUrl
  split
  -- each of the names that are known, and then any other
  iterate 7 rfl
  · have hnone : knownUrls.lookup name = none := by
      rw [List.lookup_eq_none_iff]
      simp_all [knownUrls]
    rw [hnone]
    rfl

/-- What stands before the slashes at the end of a text is determined. -/
theorem slashes_unique {xs ys : List Char} {m n : Nat}
    (h : xs ++ List.replicate m '/' = ys ++ List.replicate n '/') (hxs : xs.getLast? ≠ some '/')
    (hys : ys.getLast? ≠ some '/') : xs = ys := by
  have hcut (zs : List Char) (k : Nat) (hzs : zs.getLast? ≠ some '/') :
      (zs ++ List.replicate k '/').reverse.dropWhile (· == '/') = zs.reverse := by
    rw [List.reverse_append, List.reverse_replicate]
    refine (Text.span_append (fun c hc => ?_) fun c hc => ?_).2
    · rw [List.eq_of_mem_replicate hc]
      rfl
    · rw [List.head?_reverse] at hc
      rw [beq_eq_false_iff_ne]
      intro hslash
      rw [hslash] at hc
      exact hzs hc
  have hreversed := hcut xs m hxs
  rw [h, hcut ys n hys] at hreversed
  exact (List.reverse_inj.mp hreversed).symm

theorem Serves.baseUrl_eq {doc : Option Toml.Value} {env : Environment} {p : Provider}
    (h : Serves doc env p) {url : String} {n : Nat}
    (haddress : (address doc p.name).toList = url.toList ++ List.replicate n '/')
    (hurl : url.toList.getLast? ≠ some '/') : p.baseUrl = url := by
  obtain ⟨m, hslashes⟩ := h.slashes
  exact String.toList_inj.mp (slashes_unique (hslashes.symm.trans haddress) h.trimmed hurl)

/-- A name that is there has the provider with its key and its address without slashes. -/
theorem Resolves.get?_eq {r : Registry} {doc : Option Toml.Value} {env : Environment}
    (h : r.Resolves doc env) (name url : String) (n : Nat)
    (hname : name = chosenName doc env ∨ (tableSet? doc name).isSome)
    (haddress : (address doc name).toList = url.toList ++ List.replicate n '/')
    (hurl : url.toList.getLast? ≠ some '/') :
    r.get? name = some ⟨name, url, token doc env name⟩ := by
  obtain ⟨p, hp, rfl⟩ := List.mem_map.mp ((h.names name).mpr hname)
  have hserves := h.serves p hp
  rw [h.get? p hp, ← hserves.apiKey, ← hserves.baseUrl_eq haddress hurl]

/-! ## Tables -/

variable {c : Config}

theorem lookup_tables (c : Config) (name : String) :
    (tables c).lookup name =
      if name = c.defaultProvider then some ((c.provider? name).getD {}) else c.provider? name := by
  rw [tables]
  cases hdefault : c.provider? c.defaultProvider with
  | some table =>
    by_cases h : name = c.defaultProvider
    · rw [if_pos h, h, hdefault]
      exact hdefault
    · rw [if_neg h]
      rfl
  | none =>
    by_cases h : name = c.defaultProvider
    · simp [h, hdefault]
    · have hne : (name == c.defaultProvider) = false := by simpa using h
      rw [if_neg h, List.lookup_cons, hne]
      rfl

theorem nodup_tables (h : (c.providers.map (·.1)).Nodup) : ((tables c).map (·.1)).Nodup := by
  rw [tables]
  split
  · exact h
  · next hnone =>
    refine List.nodup_cons.mpr ⟨fun hmem => ?_, h⟩
    obtain ⟨⟨name, table⟩, hmem, hname⟩ := List.mem_map.mp hmem
    obtain rfl : name = c.defaultProvider := hname
    have hfound : c.provider? c.defaultProvider = some table :=
      (Entries.lookup_eq_some_iff h).mpr hmem
    rw [hfound] at hnone
    cases hnone

theorem names_ofConfig_tables (c : Config) :
    ((tables c).map fun (name, table) => ofTable c name table).map (·.name) =
      (tables c).map (·.1) := List.map_map

/-! ## The registry -/

theorem mem_providers_iff (h : (c.providers.map (·.1)).Nodup) {p : Provider} :
    p ∈ (ofConfig c).providers ↔
      ∃ table, (tables c).lookup p.name = some table ∧ p = ofTable c p.name table := by
  rw [ofConfig, List.mem_mergeSort, List.mem_map]
  simp only [Entries.lookup_eq_some_iff (nodup_tables h)]
  constructor
  · rintro ⟨⟨name, table⟩, hmem, rfl⟩
    exact ⟨table, hmem, rfl⟩
  · rintro ⟨table, hmem, hp⟩
    exact ⟨(p.name, table), hmem, hp.symm⟩

theorem mem_names_iff (h : (c.providers.map (·.1)).Nodup) {name : String} :
    name ∈ (ofConfig c).providers.map (·.name) ↔ ((tables c).lookup name).isSome := by
  rw [List.mem_map, Option.isSome_iff_exists]
  simp only [mem_providers_iff h]
  constructor
  · rintro ⟨p, ⟨table, htable, -⟩, rfl⟩
    exact ⟨table, htable⟩
  · rintro ⟨table, htable⟩
    exact ⟨ofTable c name table, ⟨table, htable, rfl⟩, rfl⟩

theorem ascending_ofConfig (h : (c.providers.map (·.1)).Nodup) :
    ((ofConfig c).providers.map (·.name)).Pairwise (· < ·) := by
  refine List.Pairwise.map _ (fun _ _ hlt => hlt) (Entries.pairwise_mergeSort Provider.name _ ?_)
  rw [names_ofConfig_tables]
  exact nodup_tables h

theorem get?_eq_some_iff (h : (c.providers.map (·.1)).Nodup) {name : String} {p : Provider} :
    (ofConfig c).get? name = some p ↔
      ∃ table, (tables c).lookup name = some table ∧ p = ofTable c name table := by
  have hdistinct : ((ofConfig c).providers.map (·.name)).Nodup :=
    (ascending_ofConfig h).imp fun hlt => Std.ne_of_lt hlt
  rw [get?, Entries.find?_eq_some_iff hdistinct, mem_providers_iff h]
  constructor
  · rintro ⟨hp, rfl⟩
    exact hp
  · rintro ⟨table, htable, rfl⟩
    exact ⟨⟨table, htable, rfl⟩, rfl⟩

theorem get?_ofConfig (h : (c.providers.map (·.1)).Nodup) (name : String) :
    (ofConfig c).get? name = ((tables c).lookup name).map (ofTable c name) := by
  ext p
  rw [get?_eq_some_iff h, Option.map_eq_some_iff]
  simp only [eq_comm]

/-! ## What a document settles -/

theorem tables_of_setBy {f : Config} {doc : Option Toml.Value} {env : Environment}
    (h : f.SetBy doc) (name : String) :
    (tables (f.withEnvironment env)).lookup name =
      if name = chosenName doc env then some ((tableSet? doc name).getD {})
      else tableSet? doc name := by
  have hname : (f.withEnvironment env).defaultProvider = chosenName doc env := by
    rw [chosenName, ← h.defaultProvider]
    rfl
  rw [lookup_tables, hname, ← h.table]
  rfl

theorem apiKey_ofTable {f : Config} {doc : Option Toml.Value} {env : Environment}
    (h : f.SetBy doc) (name : String) :
    (ofTable (f.withEnvironment env) name ((tableSet? doc name).getD {})).apiKey =
      token doc env name := by
  have hkey : (f.withEnvironment env).apiKey = (textSet? doc "api_key" <|> env.apiKey) := by
    rw [← h.apiKey]
    rfl
  have hown : ((tableSet? doc name).getD {}).apiKey = (tableSet? doc name).bind (·.apiKey) := by
    cases tableSet? doc name <;> rfl
  change ((((tableSet? doc name).getD {}).apiKey <|> (f.withEnvironment env).apiKey).getD
    (usualKey name)) = _
  rw [hkey, hown, token, usualKey]
  cases (tableSet? doc name).bind (·.apiKey) <;> cases textSet? doc "api_key" <;>
    cases env.apiKey <;> rfl

theorem baseUrl_ofTable {f : Config} {doc : Option Toml.Value} {env : Environment} (name : String) :
    (ofTable (f.withEnvironment env) name ((tableSet? doc name).getD {})).baseUrl =
      Provider.withoutSlashes (address doc name) := by
  have hown : ((tableSet? doc name).getD {}).apiUrl = (tableSet? doc name).bind (·.apiUrl) := by
    cases tableSet? doc name <;> rfl
  show Provider.withoutSlashes (((tableSet? doc name).getD {}).apiUrl.getD (wellKnownUrl name)) = _
  rw [hown, wellKnownUrl_eq, address]

theorem slashes_withoutSlashes (url : String) :
    ∃ n, url.toList = (Provider.withoutSlashes url).toList ++ List.replicate n '/' := by
  refine ⟨(url.toList.reverse.takeWhile (· == '/')).length, ?_⟩
  have hslashes : url.toList.reverse.takeWhile (· == '/') =
      List.replicate (url.toList.reverse.takeWhile (· == '/')).length '/' := by
    refine List.eq_replicate_of_mem fun c hc => ?_
    simpa using List.mem_takeWhile_imp hc
  have hsplit := congrArg List.reverse
    (List.takeWhile_append_dropWhile (p := (· == '/')) (l := url.toList.reverse))
  rw [List.reverse_append, List.reverse_reverse] at hsplit
  rw [Provider.withoutSlashes, String.toList_ofList, ← List.reverse_replicate, ← hslashes, hsplit]

theorem trimmed_withoutSlashes (url : String) :
    (Provider.withoutSlashes url).toList.getLast? ≠ some '/' := by
  rw [Provider.withoutSlashes, String.toList_ofList, List.getLast?_reverse]
  intro hhead
  have hnot := List.head?_dropWhile_not (· == '/') url.toList.reverse
  rw [hhead] at hnot
  simp at hnot

theorem authorization_of_target {p : Provider} {path url authorization : String}
    (h : p.target path = .ok (url, authorization)) : authorization = "Bearer " ++ p.apiKey := by
  rw [Provider.target] at h
  split at h
  · cases h
  · cases h
  · cases h
  · split at h
    · cases h
      rfl
    · cases h

/-- A request that is put together from what a provider's address gives shows the provider's key. -/
theorem bearer_of_target {p : Provider} {path : String} {f : String × String → HttpRequest}
    {sent : HttpRequest} (hf : ∀ target, (f target).authorization = target.2)
    (h : (p.target path).map f = .ok sent) : sent.authorization = "Bearer " ++ p.apiKey := by
  cases htarget : p.target path with
  | error e =>
    rw [htarget] at h
    cases h
  | ok target =>
    rw [htarget] at h
    cases h
    rw [hf]
    exact authorization_of_target htarget

theorem serves_of_apiKey {doc : Option Toml.Value} {env : Environment} {p : Provider}
    (hkey : p.apiKey = token doc env p.name)
    (hurl : p.baseUrl = Provider.withoutSlashes (address doc p.name)) : Serves doc env p := by
  refine ⟨hkey, ?_, ?_, fun request sent h => ?_, fun sent h => ?_⟩
  · rw [hurl]
    exact slashes_withoutSlashes _
  · rw [hurl]
    exact trimmed_withoutSlashes _
  · rw [← hkey]
    exact bearer_of_target (fun _ => rfl) h
  · rw [← hkey]
    exact bearer_of_target (fun _ => rfl) h

theorem resolves_of_setBy {f : Config} {doc : Option Toml.Value} (h : f.SetBy doc)
    (env : Environment) : (ofConfig (f.withEnvironment env)).Resolves doc env := by
  have hdistinct : ((f.withEnvironment env).providers.map (·.1)).Nodup := h.distinct
  have hdefault : (ofConfig (f.withEnvironment env)).defaultName = chosenName doc env := by
    rw [chosenName, ← h.defaultProvider]
    rfl
  -- a provider is the one that its name's table makes, whichever table that is
  have hmade {p : Provider} (hp : p ∈ (ofConfig (f.withEnvironment env)).providers) :
      p = ofTable (f.withEnvironment env) p.name ((tableSet? doc p.name).getD {}) := by
    obtain ⟨table, htable, hp⟩ := (mem_providers_iff hdistinct).mp hp
    rw [tables_of_setBy h] at htable
    split at htable
    · cases htable
      exact hp
    · rw [htable]
      exact hp
  constructor
  · exact hdefault
  · refine ⟨ofTable (f.withEnvironment env) (chosenName doc env)
      ((tableSet? doc (chosenName doc env)).getD {}), ?_, rfl⟩
    rw [default?, hdefault, get?_ofConfig hdistinct, tables_of_setBy h, if_pos rfl]
    rfl
  · intro name
    rw [mem_names_iff hdistinct, tables_of_setBy h]
    split
    · next hname => simp [hname]
    · next hname => simp [hname]
  · exact ascending_ofConfig hdistinct
  · intro p hp
    rw [get?_eq_some_iff hdistinct]
    exact (mem_providers_iff hdistinct).mp hp
  · intro p hp
    refine serves_of_apiKey ?_ ?_
    · rw [hmade hp]
      exact apiKey_ofTable h p.name
    · rw [hmade hp]
      exact baseUrl_ofTable p.name

/-! ## Other tables -/

theorem tables_perm {c c' : Config} (h : c'.providers.Perm c.providers)
    (hdistinct : (c.providers.map (·.1)).Nodup) (hname : c'.defaultProvider = c.defaultProvider) :
    (tables c').Perm (tables c) := by
  have hdistinct' : (c'.providers.map (·.1)).Nodup := (h.map (·.1)).nodup_iff.mpr hdistinct
  have hsame : c'.provider? c.defaultProvider = c.provider? c.defaultProvider := by
    ext table
    rw [Config.provider?, Config.provider?, Entries.lookup_eq_some_iff hdistinct',
      Entries.lookup_eq_some_iff hdistinct]
    exact h.mem_iff
  rw [tables, tables, hname, hsame]
  split
  · exact h
  · exact h.cons _

/-- The order in which tables stand has no bearing upon the registry. -/
theorem ofConfig_perm {providers : List (String × ProviderTable)} (h : providers.Perm c.providers)
    (hdistinct : (c.providers.map (·.1)).Nodup) : ofConfig { c with providers } = ofConfig c := by
  have hperm : (tables { c with providers }).Perm (tables c) := tables_perm h hdistinct rfl
  have hnames : ((tables { c with providers }).map (·.1)).Nodup :=
    nodup_tables (c := { c with providers }) ((h.map (·.1)).nodup_iff.mpr hdistinct)
  rw [← names_ofConfig_tables] at hnames
  have hsorted := Entries.mergeSort_eq_of_perm Provider.name
    (hperm.map fun (name, table) => ofTable c name table) hnames
  exact congrArg (Registry.mk · c.defaultProvider) hsorted

/-- The tables of other names have no bearing upon the provider of a name. -/
theorem get?_ofConfig_congr {providers : List (String × ProviderTable)} {name : String}
    (hdistinct : (c.providers.map (·.1)).Nodup) (hdistinct' : (providers.map (·.1)).Nodup)
    (h : providers.lookup name = c.provider? name) :
    (ofConfig { c with providers }).get? name = (ofConfig c).get? name := by
  have hsame : (tables { c with providers }).lookup name = (tables c).lookup name := by
    rw [lookup_tables, lookup_tables]
    change (if name = c.defaultProvider then some ((providers.lookup name).getD {}) else
      providers.lookup name) = _
    rw [h]
  rw [get?_ofConfig hdistinct', get?_ofConfig hdistinct, hsame]
  rfl

/-- Once a configuration is accepted, each of its providers has the key and the address that come
first for its name, whatever else is set and in whatever order. -/
theorem load_resolves {env : Environment} {file : Config.FileState} {c : Config}
    (h : Config.load env file = .ok c) :
    (ofConfig c).Resolves (document? file) env ∧
      (∀ providers : List (String × ProviderTable), providers.Perm c.providers →
        ofConfig { c with providers } = ofConfig c) ∧
      ∀ (providers : List (String × ProviderTable)) (name : String), (providers.map (·.1)).Nodup →
        providers.lookup name = c.provider? name →
        (ofConfig { c with providers }).get? name = (ofConfig c).get? name := by
  rw [Config.load] at h
  cases hfile : Config.ofFile (Config.path env) file with
  | error e =>
    rw [hfile] at h
    cases h
  | ok f =>
    rw [hfile] at h
    cases h
    have hset : f.SetBy (document? file) := Config.setBy_of_ofFile hfile
    exact ⟨resolves_of_setBy hset env, fun providers hperm => ofConfig_perm hperm hset.distinct,
      fun providers name hdistinct => get?_ofConfig_congr hset.distinct hdistinct⟩

/-- The provider that is asked has no table, one has a table without an address, and one has its
own key, which is empty. -/
theorem load_resolves_table :
    let env : Environment := { provider := some "groq", apiKey := some "from outside" }
    let file : Config.FileState := .bytes (FileSystem.bytes
      "[providers.openai]\napi_url = \"http://h/v1//\"\n[providers.other]\napi_key = \"\"\n")
    ∃ c, Config.load env file = .ok c ∧ (ofConfig c).Resolves (document? file) env ∧
      (ofConfig c).get? "groq" =
        some ⟨"groq", "https://api.groq.com/openai/v1", "from outside"⟩ ∧
      (ofConfig c).get? "openai" = some ⟨"openai", "http://h/v1", "from outside"⟩ ∧
      (ofConfig c).get? "other" = some ⟨"other", "http://localhost:11434/v1", ""⟩ := by
  intro env file
  have hload : Config.load env file = .ok
      { apiKey := some "from outside"
        defaultProvider := "groq"
        providers :=
          [("openai", { apiUrl := some "http://h/v1//" }), ("other", { apiKey := some "" })] } := by
    decide +kernel
  have hset : textSet? (document? file) "api_key" = none ∧
      tableSet? (document? file) "groq" = none ∧
      tableSet? (document? file) "openai" = some { apiUrl := some "http://h/v1//" } ∧
      tableSet? (document? file) "other" = some { apiKey := some "" } := by decide +kernel
  obtain ⟨hkey, hgroq, hopenai, hother⟩ := hset
  have hresolves := (load_resolves hload).1
  have hasked := hresolves.get?_eq "groq" "https://api.groq.com/openai/v1" 0 (.inl rfl)
    (by rw [address, hgroq]; decide) (by decide)
  have hplaced := hresolves.get?_eq "openai" "http://h/v1" 2 (.inr (by rw [hopenai]; rfl))
    (by rw [address, hopenai]; decide) (by decide)
  have hkeyed := hresolves.get?_eq "other" "http://localhost:11434/v1" 0
    (.inr (by rw [hother]; rfl)) (by rw [address, hother]; decide) (by decide)
  rw [token, hkey, hgroq] at hasked
  rw [token, hkey, hopenai] at hplaced
  rw [token, hkey, hother] at hkeyed
  exact ⟨_, hload, hresolves, hasked, hplaced, hkeyed⟩

end FileChat.Registry
