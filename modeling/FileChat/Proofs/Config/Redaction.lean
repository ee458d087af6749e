import FileChat.Config.Redacted

/-!
# What a shown configuration tells of its keys

Two configurations that agree on everything but their keys have the same text exactly if the same
keys are set in both: the configuration's own and that of each table, in whatever order the tables
are listed. So a text tells which keys are set, and nothing else about them.

The text is taken apart from its front. What stands before a key is the same in both texts, and
what is shown of a key tells whether it is set and where it ends, so that the texts behind it are
compared next.
-/
namespace FileChat

/-- The table with no key set. -/
def ProviderTable.keyless (t : ProviderTable) : ProviderTable := { t with apiKey := none }

namespace Config

open Text (quoted shownOption shownRecord)

/-- The configuration with no key set, neither its own nor that of a table. -/
def keyless (c : Config) : Config :=
  { c with
    apiKey := none
    providers := c.providers.map fun (name, t) => (name, t.keyless) }

/-- Which keys are set: the configuration's own, and those of the tables in their order. -/
def keysSet (c : Config) : Bool × List Bool :=
  (c.apiKey.isSome, c.providers.map fun (_, t) => t.apiKey.isSome)

/-! ## Keys -/

/-- How a key is shown. -/
def shownKey (key : Option String) : String := quoted (redacted key)

theorem shownKey_some (k : String) : shownKey (some k) = "\"[REDACTED]\"" := by
  show quoted "[REDACTED]" = _
  decide +kernel

theorem shownKey_none : shownKey none = "\"None\"" := by
  show quoted "None" = _
  decide +kernel

theorem shownKey_append_ne (k a b : String) : shownKey (some k) ++ a ≠ shownKey none ++ b := by
  intro h
  rw [shownKey_none, shownKey_some] at h
  have hchars := congrArg String.toList h
  simp at hchars

/-- What is shown of a key tells whether it is set, and where it ends. -/
theorem shownKey_append_eq_iff (key key' : Option String) (a b : String) :
    shownKey key ++ a = shownKey key' ++ b ↔ key.isSome = key'.isSome ∧ a = b := by
  cases key with
  | none =>
    cases key' with
    | none => simp only [String.append_right_inj, true_and]
    | some k => simpa using (shownKey_append_ne k b a).symm
  | some k =>
    cases key' with
    | none => simpa using shownKey_append_ne k a b
    | some k' => simp only [shownKey_some, String.append_right_inj, Option.isSome_some, true_and]

/-! ## Records -/

/-- What follows the first of some texts when they are joined. -/
def continued (sep : String) (rest : List String) : String := String.join (rest.map (sep ++ ·))

theorem continued_cons (sep first : String) (rest : List String) :
    continued sep (first :: rest) = sep ++ first ++ continued sep rest := String.join_cons

theorem intercalate_cons (sep first : String) (rest : List String) :
    sep.intercalate (first :: rest) = first ++ continued sep rest := by
  induction rest generalizing first with
  | nil =>
    rw [String.intercalate_singleton]
    exact String.append_empty.symm
  | cons second rest ih =>
    rw [String.intercalate_cons_cons, ih, continued_cons]
    simp only [String.append_assoc]

/-- What is shown of the fields behind the first. -/
def shownFields (fields : List (String × String)) : String :=
  continued ", " (fields.map fun (k, v) => k ++ ": " ++ v)

theorem shownFields_cons (k v : String) (fields : List (String × String)) :
    shownFields ((k, v) :: fields) = ", " ++ (k ++ ": " ++ v) ++ shownFields fields :=
  continued_cons ..

theorem shownFields_concat (fields : List (String × String)) (k v : String) :
    shownFields (fields ++ [(k, v)]) = shownFields fields ++ (", " ++ (k ++ ": " ++ v)) := by
  induction fields with
  | nil =>
    rw [List.nil_append, shownFields_cons]
    exact String.append_empty
  | cons f fields ih =>
    rw [List.cons_append, shownFields_cons, shownFields_cons, ih]
    simp only [String.append_assoc]

theorem shownRecord_cons (name k v : String) (fields : List (String × String)) :
    shownRecord name ((k, v) :: fields) =
      (name ++ " \x7b " ++ (k ++ ": ")) ++ (v ++ (shownFields fields ++ " \x7d")) := by
  rw [shownRecord, List.map_cons, intercalate_cons]
  simp only [shownFields, String.append_assoc]

/-- Records that begin with a key. -/
theorem shownRecord_key_append_eq_iff (name k : String) (key key' : Option String)
    (fields fields' : List (String × String)) (a b : String) :
    shownRecord name ((k, shownKey key) :: fields) ++ a =
        shownRecord name ((k, shownKey key') :: fields') ++ b ↔
      key.isSome = key'.isSome ∧ shownFields fields ++ (" \x7d" ++ a) =
        shownFields fields' ++ (" \x7d" ++ b) := by
  rw [shownRecord_cons, shownRecord_cons]
  simp only [String.append_assoc, String.append_right_inj, shownKey_append_eq_iff]

/-! ## Tables -/

/-- The fields of a table that hold no key, as they are shown. -/
def openTableFields (t : ProviderTable) : List (String × String) :=
  [("api_url", shownOption quoted t.apiUrl), ("default_model", shownOption quoted t.defaultModel)]

theorem openTableFields_keyless (t : ProviderTable) :
    openTableFields t.keyless = openTableFields t := rfl

theorem shownProvider_eq (t : ProviderTable) : shownProvider t =
    shownRecord "ProviderConfig" (("api_key", shownKey t.apiKey) :: openTableFields t) := rfl

/-- What is shown of a table tells whether its key is set, and where it ends. -/
theorem shownProvider_append_eq_iff {t t' : ProviderTable} (hrest : t.keyless = t'.keyless)
    (a b : String) : shownProvider t ++ a = shownProvider t' ++ b ↔
      t.apiKey.isSome = t'.apiKey.isSome ∧ a = b := by
  have hfields : openTableFields t = openTableFields t' := by
    rw [← openTableFields_keyless t, hrest, openTableFields_keyless]
  rw [shownProvider_eq, shownProvider_eq, shownRecord_key_append_eq_iff, hfields,
    String.append_right_inj, String.append_right_inj]

-- The word that stands for no key is a key like any other.
example : shownProvider { apiKey := some "None" } = shownProvider { apiKey := some "k" } ∧
    shownProvider { apiKey := some "None" } ≠ shownProvider {} := by decide +kernel

/-- How a table is shown, with its name. -/
def shownTable (e : String × ProviderTable) : String := quoted e.1 ++ ": " ++ shownProvider e.2

theorem shownTable_append_eq_iff {e d : String × ProviderTable}
    (hrest : (e.1, e.2.keyless) = (d.1, d.2.keyless)) (a b : String) :
    shownTable e ++ a = shownTable d ++ b ↔ e.2.apiKey.isSome = d.2.apiKey.isSome ∧ a = b := by
  obtain ⟨hname, htable⟩ := Prod.mk.inj hrest
  simp only [shownTable, hname, String.append_assoc, String.append_right_inj,
    shownProvider_append_eq_iff htable]

variable {es ds : List (String × ProviderTable)}

theorem continued_tables_append_eq_iff (a b : String)
    (hrest : (es.map fun (name, t) => (name, t.keyless)) =
      ds.map fun (name, t) => (name, t.keyless)) :
    continued ", " (es.map shownTable) ++ a = continued ", " (ds.map shownTable) ++ b ↔
      (es.map fun (_, t) => t.apiKey.isSome) = (ds.map fun (_, t) => t.apiKey.isSome) ∧ a = b := by
  induction es generalizing ds with
  | nil =>
    obtain rfl : ds = [] := List.map_eq_nil_iff.mp hrest.symm
    simp only [String.append_right_inj, true_and]
  | cons e es ih =>
    cases ds with
    | nil => cases hrest
    | cons d ds =>
      obtain ⟨hfirst, hothers⟩ := List.cons.inj hrest
      simp only [List.map_cons, continued_cons, String.append_assoc, String.append_right_inj,
        shownTable_append_eq_iff hfirst, ih hothers, List.cons.injEq, and_assoc]

/-- How the tables are shown, in the order in which they are listed. -/
def shownTables (es : List (String × ProviderTable)) : String :=
  ", ".intercalate (es.map shownTable)

theorem shownTables_append_eq_iff (a : String)
    (hrest : (es.map fun (name, t) => (name, t.keyless)) =
      ds.map fun (name, t) => (name, t.keyless)) :
    shownTables es ++ a = shownTables ds ++ a ↔
      (es.map fun (_, t) => t.apiKey.isSome) = ds.map fun (_, t) => t.apiKey.isSome := by
  cases es with
  | nil =>
    obtain rfl : ds = [] := List.map_eq_nil_iff.mp hrest.symm
    simp only
  | cons e es =>
    cases ds with
    | nil => cases hrest
    | cons d ds =>
      obtain ⟨hfirst, hothers⟩ := List.cons.inj hrest
      simp only [shownTables, List.map_cons, intercalate_cons, String.append_assoc,
        shownTable_append_eq_iff hfirst, continued_tables_append_eq_iff a a hothers,
        List.cons.injEq, and_true]

/-! ## Configurations -/

/-- The fields of a configuration that hold no key, as they are shown. -/
def openFields (c : Config) : List (String × String) :=
  [("default_provider", quoted c.defaultProvider),
    ("default_model", quoted c.defaultModel),
    ("default_temperature", Decimal.text Decimal.shown .binary32 c.defaultTemperature),
    ("default_max_tokens", shownOption id (c.defaultMaxTokens.map fun n => toString n.toNat)),
    ("context", shownContext c.context),
    ("ingest", shownIngest c.ingest),
    ("transcript", shownRecord "TranscriptConfig" [("directory", quoted c.transcriptDirectory)])]

theorem openFields_keyless (c : Config) : openFields c.keyless = openFields c := rfl

theorem shown_eq (c : Config) : c.shown =
    shownRecord "AppConfig" (("api_key", shownKey c.apiKey) ::
      (openFields c ++ [("providers", "\x7b" ++ shownTables c.providers ++ "\x7d")])) := rfl

/-- The text of a configuration tells which keys are set, and nothing else about keys. -/
theorem shown_eq_iff_keysSet_eq {c d : Config} (hrest : c.keyless = d.keyless) :
    c.shown = d.shown ↔ c.keysSet = d.keysSet := by
  have hfields : openFields c = openFields d := by
    rw [← openFields_keyless c, hrest, openFields_keyless]
  have htables : (c.providers.map fun (name, t) => (name, t.keyless)) =
      d.providers.map fun (name, t) => (name, t.keyless) := congrArg Config.providers hrest
  calc c.shown = d.shown
      ↔ c.shown ++ "" = d.shown ++ "" := by rw [String.append_empty, String.append_empty]
    _ ↔ c.apiKey.isSome = d.apiKey.isSome ∧
          (c.providers.map fun (_, t) => t.apiKey.isSome) =
            d.providers.map fun (_, t) => t.apiKey.isSome := by
        rw [shown_eq, shown_eq, shownRecord_key_append_eq_iff, shownFields_concat,
          shownFields_concat, hfields]
        simp only [String.append_assoc, String.append_right_inj,
          shownTables_append_eq_iff _ htables]
    _ ↔ c.keysSet = d.keysSet := by rw [keysSet, keysSet, Prod.mk.injEq]

/-- Other contents of two keys leave no trace; a table's key that is not set does. -/
theorem shown_eq_iff_keysSet_eq_tables :
    let c (key inner : Option String) : Config :=
      { apiKey := key, providers := [("openai", { apiKey := inner }), ("ollama", {})] }
    (c (some "sk-1") (some "sk-2")).shown = (c (some "") (some "None")).shown ∧
      (c (some "sk-1") (some "sk-2")).shown ≠ (c (some "sk-1") none).shown := by
  intro c
  have hrest (key key' inner inner' : Option String) :
      (c key inner).keyless = (c key' inner').keyless := rfl
  refine ⟨(shown_eq_iff_keysSet_eq (hrest ..)).mpr rfl, ?_⟩
  rw [Ne, shown_eq_iff_keysSet_eq (hrest ..)]
  decide

end Config
end FileChat
