import FileChat.Proofs.Calendar.Timestamp
import FileChat.Proofs.Json.Compact
import FileChat.Proofs.Json.Records
import FileChat.Wire.Artifact
import FileChat.Wire.Event
import FileChat.Wire.Message

/-!
# Values are read as they are written

`Kept` says that a value survives its JSON form: the form is told in full by its text, and the
value is read out of it. A record is kept if its fields are. Whatever text a value has been read
from, it is kept, so what is written of it is the one text of that value.
-/
namespace FileChat.Wire

open Json

variable {α : Type} [Wire α]

/-- A value whose JSON form loses nothing. -/
structure Kept (a : α) : Prop where
  exact : (toJson a).Exact
  read : ofJson? (toJson a) = some a

theorem Kept.read_write {a : α} (h : Kept a) : read? (write a) = some a := by
  rw [read?, write, Value.toText, ofText?_of_writes (writes_text h.exact), Option.bind_some, h.read]

/-- The values of a type go through their texts unchanged. `Fits` says that the sizes in a value
are those of its type. -/
structure RoundTrips (α : Type) [Wire α] (Fits : α → Prop) : Prop where
  /-- What is written of a value is read as the value. -/
  read_write : ∀ a : α, Fits a → read? (write a) = some a
  /-- Whatever its form, a text is read as a value that fits. -/
  fits_of_read : ∀ (text : String) (a : α), read? text = some a → Fits a
  /-- What is read from any text is written and read to the same value and the same text. -/
  rewrite : ∀ (text : String) (a : α), read? text = some a →
    read? (write a) = some a ∧ (read? (write a) : Option α).map write = some (write a)

theorem RoundTrips.of_kept {Fits : α → Prop} (hkept : ∀ a : α, Fits a → Kept a)
    (hfits : ∀ (v : Value) (a : α), ofJson? v = some a → Fits a) : RoundTrips α Fits := by
  have hread (text : String) (a : α) (h : read? text = some a) : Fits a := by
    obtain ⟨v, -, hv⟩ := Option.bind_eq_some_iff.mp h
    exact hfits v a hv
  refine ⟨fun a ha => (hkept a ha).read_write, hread, fun text a h => ?_⟩
  have hwritten := (hkept a (hread text a h)).read_write
  exact ⟨hwritten, by rw [hwritten, Option.map_some]⟩

/-! ## Numbers and names -/

theorem exact_ofNat {n : Nat} (h : n < UInt64.size) : (Json.ofNat n).Exact := by
  have hsize : UInt64.size = 0x10000000000000000 := rfl
  exact ⟨by omega, by omega⟩

theorem exact_word (n : UInt32) : (Json.ofNat n.toNat).Exact :=
  exact_ofNat (Nat.lt_trans n.toNat_lt_size (by decide))

theorem kept_role (r : Role) : Kept r := ⟨trivial, by cases r <;> rfl⟩

theorem kept_mode (m : Mode) : Kept m := ⟨trivial, by cases m <;> rfl⟩

theorem kept_form (f : Form) : Kept f := ⟨trivial, by cases f <;> rfl⟩

theorem kept_activity (a : Activity) : Kept a := ⟨trivial, by cases a <;> rfl⟩

theorem kept_status (s : Status) : Kept s := ⟨trivial, by cases s <;> rfl⟩

theorem kept_timestamp (t : Timestamp) : Kept t where
  exact := trivial
  read := by
    have hstring : string? (toJson t) = some t.text := rfl
    change (string? (toJson t)).bind Timestamp.ofText? = some t
    rw [hstring, Option.bind_some, Timestamp.ofText?_text]

/-! ## Messages and chunks -/

theorem kept_messageRecord (m : MessageRecord) : Kept m where
  exact := ⟨trivial, trivial, trivial, trivial, trivial⟩
  read := by
    refine (fields_bind [.string m.id, toJson m.role, .string m.content,
      toJson m.timestamp] (by decide) rfl).trans ?_
    refine (required_bind (string?_string _)).trans ?_
    refine (required_bind (kept_role m.role).read).trans ?_
    refine (required_bind (string?_string _)).trans ?_
    exact required_bind (kept_timestamp m.timestamp).read

theorem kept_usage (u : Usage) : Kept u where
  exact := ⟨exact_word _, exact_word _, exact_word _, trivial⟩
  read := by
    refine (fields_bind [Json.ofNat u.promptTokens.toNat,
      Json.ofNat u.completionTokens.toNat, Json.ofNat u.totalTokens.toNat] (by decide) rfl).trans ?_
    refine (required_bind (word32?_ofNat u.promptTokens)).trans ?_
    refine (required_bind (word32?_ofNat u.completionTokens)).trans ?_
    exact required_bind (word32?_ofNat u.totalTokens)

theorem orNull_usage (u : Usage) : Slot.orNull ofJson? (toJson u) = some (some u) := by
  change (ofJson? (toJson u) : Option Usage).map some = _
  rw [(kept_usage u).read, Option.map_some]

theorem kept_chunk (c : Chunk) : Kept c := by
  obtain ⟨content, done, usage⟩ := c
  have hcontent : (Json.ofOption .string content).Exact := by cases content <;> trivial
  have hread : Slot.orNull string? (Json.ofOption .string content) = some content := by
    cases content <;> rfl
  cases usage with
  | none =>
    refine ⟨⟨hcontent, trivial, trivial⟩, ?_⟩
    have hslots : slots? ["content", "done", "usage"] (toJson (⟨content, done, none⟩ : Chunk)) =
        some [.given (Json.ofOption .string content), .given (.bool done), .absent] :=
      (slots?_object [("content", Json.ofOption .string content), ("done", .bool done)]
        (show ["content", "done"].Nodup by decide)).trans rfl
    change (slots? ["content", "done", "usage"] (toJson (⟨content, done, none⟩ : Chunk))).bind _ = _
    rw [hslots, Option.bind_some]
    refine (orElse_bind hread).trans ?_
    exact orElse_bind (bool?_bool done)
  | some u =>
    refine ⟨⟨hcontent, trivial, (kept_usage u).exact, trivial⟩, ?_⟩
    refine (fields_bind [Json.ofOption .string content, .bool done, toJson u]
      (by decide) rfl).trans ?_
    refine (orElse_bind hread).trans ?_
    refine (orElse_bind (bool?_bool done)).trans ?_
    exact orElse_bind (orNull_usage u)

/-! ## Events -/

/-- The counts of an event are sizes. -/
def EventFits (r : EventRecord) : Prop :=
  match r.event with
  | .artifactsIngested loaded failed poolSize =>
    loaded < UInt64.size ∧ failed < UInt64.size ∧ poolSize < UInt64.size
  | .pinsChanged pinned => pinned < UInt64.size
  | .modeChanged _ | .sessionReset => True
  | .generationStarted _ contextTokens historyTurns =>
    contextTokens < UInt64.size ∧ historyTurns < UInt64.size
  | .generationFinished _ tokensOut durationMs =>
    tokensOut < UInt64.size ∧ durationMs < UInt64.size

theorem ofJson?_event (event : Event) (t : Timestamp) :
    (ofJson? (toJson (⟨event, t⟩ : EventRecord)) : Option EventRecord) =
      eventOf? (eventName event) (.object (eventMembers event ++ [("timestamp", toJson t)])) := rfl

theorem kept_eventRecord (r : EventRecord) (h : EventFits r) : Kept r := by
  obtain ⟨event, t⟩ := r
  have htime := (kept_timestamp t).read
  cases event with
  | artifactsIngested loaded failed poolSize =>
    obtain ⟨hloaded, hfailed, hpool⟩ := h
    refine ⟨⟨⟨exact_ofNat hloaded, exact_ofNat hfailed, exact_ofNat hpool, trivial, trivial⟩,
      trivial⟩, ?_⟩
    rw [ofJson?_event, eventName, eventOf?]
    refine (fields_bind [Json.ofNat loaded, Json.ofNat failed, Json.ofNat poolSize,
      toJson t] (by decide) rfl).trans ?_
    refine (required_bind (size?_ofNat hloaded)).trans ?_
    refine (required_bind (size?_ofNat hfailed)).trans ?_
    refine (required_bind (size?_ofNat hpool)).trans ?_
    exact required_bind htime
  | pinsChanged pinned =>
    refine ⟨⟨⟨exact_ofNat h, trivial, trivial⟩, trivial⟩, ?_⟩
    rw [ofJson?_event, eventName, eventOf?]
    refine (fields_bind [Json.ofNat pinned, toJson t] (by decide) rfl).trans ?_
    refine (required_bind (size?_ofNat h)).trans ?_
    exact required_bind htime
  | modeChanged mode =>
    refine ⟨⟨⟨trivial, trivial, trivial⟩, trivial⟩, ?_⟩
    rw [ofJson?_event, eventName, eventOf?]
    refine (fields_bind [.string mode, toJson t] (by decide) rfl).trans ?_
    refine (required_bind (string?_string _)).trans ?_
    exact required_bind htime
  | generationStarted query context history =>
    refine ⟨⟨⟨trivial, exact_ofNat h.1, exact_ofNat h.2, trivial, trivial⟩, trivial⟩, ?_⟩
    rw [ofJson?_event, eventName, eventOf?]
    refine (fields_bind [.string query, Json.ofNat context, Json.ofNat history,
      toJson t] (by decide) rfl).trans ?_
    refine (required_bind (string?_string _)).trans ?_
    refine (required_bind (size?_ofNat h.1)).trans ?_
    refine (required_bind (size?_ofNat h.2)).trans ?_
    exact required_bind htime
  | generationFinished status tokens duration =>
    refine ⟨⟨⟨trivial, exact_ofNat h.1, exact_ofNat h.2, trivial, trivial⟩, trivial⟩, ?_⟩
    rw [ofJson?_event, eventName, eventOf?]
    refine (fields_bind [.string status, Json.ofNat tokens, Json.ofNat duration,
      toJson t] (by decide) rfl).trans ?_
    refine (required_bind (string?_string _)).trans ?_
    refine (required_bind (size?_ofNat h.1)).trans ?_
    refine (required_bind (size?_ofNat h.2)).trans ?_
    exact required_bind htime
  | sessionReset =>
    refine ⟨⟨⟨trivial, trivial⟩, trivial⟩, ?_⟩
    rw [ofJson?_event, eventName, eventOf?]
    refine (fields_bind [toJson t] (by decide) rfl).trans ?_
    exact required_bind htime

/-- Whatever an event is read from, its counts are sizes. -/
theorem eventFits_of_eventOf? {name : String} {v : Value} {r : EventRecord}
    (h : eventOf? name v = some r) : EventFits r := by
  rw [eventOf?.eq_def] at h
  split at h
  case h_7 => cases h
  -- the record of each name has its fields and no others
  all_goals
    obtain ⟨slots, -, h⟩ := Option.bind_eq_some_iff.mp h
    split at h
    case h_2 => cases h
  · obtain ⟨loaded, hloaded, h⟩ := Option.bind_eq_some_iff.mp h
    obtain ⟨failed, hfailed, h⟩ := Option.bind_eq_some_iff.mp h
    obtain ⟨poolSize, hpool, h⟩ := Option.bind_eq_some_iff.mp h
    obtain ⟨t, -, h⟩ := Option.bind_eq_some_iff.mp h
    cases h
    exact ⟨lt_of_required_size? hloaded, lt_of_required_size? hfailed, lt_of_required_size? hpool⟩
  · obtain ⟨pinned, hpinned, h⟩ := Option.bind_eq_some_iff.mp h
    obtain ⟨t, -, h⟩ := Option.bind_eq_some_iff.mp h
    cases h
    exact lt_of_required_size? hpinned
  · obtain ⟨mode, -, h⟩ := Option.bind_eq_some_iff.mp h
    obtain ⟨t, -, h⟩ := Option.bind_eq_some_iff.mp h
    cases h
    trivial
  · obtain ⟨query, -, h⟩ := Option.bind_eq_some_iff.mp h
    obtain ⟨context, hcontext, h⟩ := Option.bind_eq_some_iff.mp h
    obtain ⟨history, hhistory, h⟩ := Option.bind_eq_some_iff.mp h
    obtain ⟨t, -, h⟩ := Option.bind_eq_some_iff.mp h
    cases h
    exact ⟨lt_of_required_size? hcontext, lt_of_required_size? hhistory⟩
  · obtain ⟨status, -, h⟩ := Option.bind_eq_some_iff.mp h
    obtain ⟨tokens, htokens, h⟩ := Option.bind_eq_some_iff.mp h
    obtain ⟨duration, hduration, h⟩ := Option.bind_eq_some_iff.mp h
    obtain ⟨t, -, h⟩ := Option.bind_eq_some_iff.mp h
    cases h
    exact ⟨lt_of_required_size? htokens, lt_of_required_size? hduration⟩
  · obtain ⟨t, -, h⟩ := Option.bind_eq_some_iff.mp h
    cases h
    trivial

theorem eventFits_of_ofJson? {v : Value} {r : EventRecord} (h : ofJson? v = some r) :
    EventFits r := by
  simp only [ofJson?] at h
  split at h
  · exact eventFits_of_eventOf? h
  · cases h

/-! ## Artifacts -/

/-- The measures of an artifact are sizes. -/
def ArtifactFits : Artifact → Prop
  | .loaded a => a.lines < UInt64.size ∧ a.tokens < UInt64.size
  | .failed _ => True

/-- The rest of an object under its tag, if no other member has the name of the tag. -/
theorem untag?_cons {tag name : String} {members : List (String × Value)}
    (h : ∀ m ∈ members, m.1 ≠ tag) :
    untag? tag (.object ((tag, .string name) :: members)) = some (name, .object members) := by
  have htag : ((tag, .string name) :: members).filter (·.1 == tag) =
      [(tag, Value.string name)] := by
    rw [List.filter_cons_of_pos (by simp), List.filter_eq_nil_iff.mpr (by simpa using h)]
  have hrest : ((tag, Value.string name) :: members).filter (·.1 != tag) = members := by
    rw [List.filter_cons_of_neg (by simp), List.filter_eq_self.mpr (by simpa using h)]
  simp only [untag?, htag, hrest]

theorem ofJson?_artifact {v : Value} (hreadable : v.readable = true) (hdepth : v.depth ≤ maxDepth) :
    (ofJson? v : Option Artifact) = (untag? "status" v).bind fun (tag, rest) =>
      match tag with
      | "loaded" => (loadedOf? rest).map .loaded
      | "failed" => (failedOf? rest).map .failed
      | _ => none :=
  if_pos ⟨hreadable, hdepth⟩

theorem loadedOf?_loadedMembers {a : LoadedArtifact} (hlines : a.lines < UInt64.size)
    (htokens : a.tokens < UInt64.size) : loadedOf? (.object (loadedMembers a)) = some a := by
  refine (fields_bind [.string a.path, .string a.name, .string a.content,
    .string a.summary, Json.ofNat a.lines, Json.ofNat a.tokens] (by decide) rfl).trans ?_
  refine (required_bind (string?_string _)).trans ?_
  refine (required_bind (string?_string _)).trans ?_
  refine (required_bind (string?_string _)).trans ?_
  refine (required_bind (string?_string _)).trans ?_
  refine (required_bind (size?_ofNat hlines)).trans ?_
  exact required_bind (size?_ofNat htokens)

theorem failedOf?_failedMembers (a : FailedArtifact) :
    failedOf? (.object (failedMembers a)) = some a := by
  refine (fields_bind [.string a.path, .string a.name, .string a.reason]
    (by decide) rfl).trans ?_
  refine (required_bind (string?_string _)).trans ?_
  refine (required_bind (string?_string _)).trans ?_
  exact required_bind (string?_string _)

theorem kept_artifact (a : Artifact) (h : ArtifactFits a) : Kept a := by
  cases a with
  | loaded a =>
    refine ⟨⟨trivial, trivial, trivial, trivial, trivial, exact_ofNat h.1, exact_ofNat h.2,
      trivial⟩, ?_⟩
    have htag : untag? "status" (toJson (Artifact.loaded a)) =
        some ("loaded", .object (loadedMembers a)) := untag?_cons (by simp [loadedMembers])
    have hdepth : (toJson (Artifact.loaded a)).depth ≤ maxDepth := show 1 ≤ maxDepth by decide
    rw [ofJson?_artifact rfl hdepth, htag, Option.bind_some]
    exact congrArg (Option.map Artifact.loaded) (loadedOf?_loadedMembers h.1 h.2)
  | failed a =>
    refine ⟨⟨trivial, trivial, trivial, trivial, trivial⟩, ?_⟩
    have htag : untag? "status" (toJson (Artifact.failed a)) =
        some ("failed", .object (failedMembers a)) := untag?_cons (by simp [failedMembers])
    have hdepth : (toJson (Artifact.failed a)).depth ≤ maxDepth := show 1 ≤ maxDepth by decide
    rw [ofJson?_artifact rfl hdepth, htag, Option.bind_some]
    exact congrArg (Option.map Artifact.failed) (failedOf?_failedMembers a)

theorem lt_of_loadedOf? {v : Value} {a : LoadedArtifact} (h : loadedOf? v = some a) :
    a.lines < UInt64.size ∧ a.tokens < UInt64.size := by
  obtain ⟨slots, -, h⟩ := Option.bind_eq_some_iff.mp h
  split at h
  case h_2 => cases h
  obtain ⟨path, -, h⟩ := Option.bind_eq_some_iff.mp h
  obtain ⟨name, -, h⟩ := Option.bind_eq_some_iff.mp h
  obtain ⟨content, -, h⟩ := Option.bind_eq_some_iff.mp h
  obtain ⟨summary, -, h⟩ := Option.bind_eq_some_iff.mp h
  obtain ⟨lines, hlines, h⟩ := Option.bind_eq_some_iff.mp h
  obtain ⟨tokens, htokens, h⟩ := Option.bind_eq_some_iff.mp h
  cases h
  exact ⟨lt_of_required_size? hlines, lt_of_required_size? htokens⟩

theorem artifactFits_of_ofJson? {v : Value} {a : Artifact} (h : ofJson? v = some a) :
    ArtifactFits a := by
  change (if v.readable ∧ v.depth ≤ maxDepth then _ else none) = some a at h
  split at h
  case isFalse => cases h
  obtain ⟨⟨tag, rest⟩, -, h⟩ := Option.bind_eq_some_iff.mp h
  dsimp only at h
  split at h
  · obtain ⟨a, ha, rfl⟩ := Option.map_eq_some_iff.mp h
    exact lt_of_loadedOf? ha
  · obtain ⟨a, -, rfl⟩ := Option.map_eq_some_iff.mp h
    trivial
  · cases h

/-- The estimated tokens of what is included are a size. -/
def IncludedFits (i : Included) : Prop := i.tokens < UInt64.size

theorem kept_included (i : Included) (h : IncludedFits i) : Kept i where
  exact := ⟨trivial, trivial, exact_word _, trivial, exact_ofNat h, trivial⟩
  read := by
    refine (fields_bind [.string i.path, .string i.name, Json.ofNat i.score.toNat,
      toJson i.form, Json.ofNat i.tokens] (by decide) rfl).trans ?_
    refine (required_bind (string?_string _)).trans ?_
    refine (required_bind (string?_string _)).trans ?_
    refine (required_bind (word32?_ofNat i.score)).trans ?_
    refine (required_bind (kept_form i.form).read).trans ?_
    exact required_bind (size?_ofNat h)

theorem includedFits_of_ofJson? {v : Value} {i : Included} (h : ofJson? v = some i) :
    IncludedFits i := by
  obtain ⟨slots, -, h⟩ := Option.bind_eq_some_iff.mp h
  split at h
  case h_2 => cases h
  obtain ⟨path, -, h⟩ := Option.bind_eq_some_iff.mp h
  obtain ⟨name, -, h⟩ := Option.bind_eq_some_iff.mp h
  obtain ⟨score, -, h⟩ := Option.bind_eq_some_iff.mp h
  obtain ⟨form, -, h⟩ := Option.bind_eq_some_iff.mp h
  obtain ⟨tokens, htokens, h⟩ := Option.bind_eq_some_iff.mp h
  cases h
  exact lt_of_required_size? htokens

/-! ## All shapes -/

theorem RoundTrips.of_all_kept (hkept : ∀ a : α, Kept a) : RoundTrips α fun _ => True :=
  .of_kept (fun a _ => hkept a) fun _ _ _ => trivial

/-- Every shape that leaves the program goes through its text unchanged, and what any text is read
as is written to one text from then on. -/
theorem shapes_roundTrip :
    RoundTrips Role (fun _ => True) ∧ RoundTrips Mode (fun _ => True) ∧
      RoundTrips Form (fun _ => True) ∧ RoundTrips Activity (fun _ => True) ∧
      RoundTrips Status (fun _ => True) ∧ RoundTrips Usage (fun _ => True) ∧
      RoundTrips Chunk (fun _ => True) ∧ RoundTrips MessageRecord (fun _ => True) ∧
      RoundTrips EventRecord EventFits ∧ RoundTrips Artifact ArtifactFits ∧
      RoundTrips Included IncludedFits :=
  ⟨.of_all_kept kept_role, .of_all_kept kept_mode, .of_all_kept kept_form,
    .of_all_kept kept_activity, .of_all_kept kept_status, .of_all_kept kept_usage,
    .of_all_kept kept_chunk, .of_all_kept kept_messageRecord,
    .of_kept kept_eventRecord fun _ _ => eventFits_of_ofJson?,
    .of_kept kept_artifact fun _ _ => artifactFits_of_ofJson?,
    .of_kept kept_included fun _ _ => includedFits_of_ofJson?⟩

-- an array of the fields, with a time that is two hours ahead
example : (read? "[\"m\",\"user\",\"hi\",\"2024-05-06T09:08:00+02:00\"]" :
    Option MessageRecord).map (·.timestamp.text) = some "2024-05-06T07:08:00Z" := by
  decide +kernel

end FileChat.Wire
