import FileChat.Backend.Provider
import FileChat.Proofs.Json.Reals
import FileChat.Proofs.Json.Records

/-!
# Request bodies

The body of a request is the text of an object, which the reader takes apart into the members that
were written. All of them but the temperature are read as themselves, whatever characters the texts
are made of; the temperature is read as a value that is the same in 32 bits. So a body tells the
request that it was made from.
-/
namespace FileChat

open Json (Value)
open Json.Reader (Reads)

namespace Json.Reader

/-- Members under the same names, each written as what is read as the other. -/
abbrev ReadMembers : List (String × Value) → List (String × Value) → Prop :=
  List.Forall₂ fun m m' => m.1 = m'.1 ∧ Reads m.2.text m'.2

theorem reads_of_exact {v : Value} (h : v.Exact) : Reads v.text v :=
  fun frames slot _ hrest => run_writes (writes_text h) frames slot hrest

theorem apart_membersText (ms : List (String × Value)) (rest : List Char) :
    Apart (Value.membersText ms ++ rest) := by
  cases ms with
  | nil => simp [Value.membersText, Apart]
  | cons m ms => simp [Value.membersText, Apart]

theorem run_membersText {ms ms' : List (String × Value)} (h : ReadMembers ms ms')
    (frames : List Frame) (key : String) (members : List (String × Value)) (rest : List Char) :
    run false ⟨.object members key true :: frames, .separator⟩ (Value.membersText ms ++ rest) =
      run false (deliver frames (.object (members.reverse ++ ms'))) rest := by
  induction h generalizing key members with
  | nil =>
    rw [List.append_nil]
    rfl
  | @cons m m' ms ms' hm hms ih =>
    obtain ⟨k, v⟩ := m
    obtain ⟨k', v'⟩ := m'
    obtain ⟨rfl, hreads⟩ : k = k' ∧ Reads v.text v' := hm
    have hcomma : run false ⟨.object members key true :: frames, .separator⟩
        (Value.membersText ((k, v) :: ms) ++ rest) =
        run false ⟨.object members key true :: frames, .key false⟩
          ('"' :: (k.toList.flatMap escape ++
            '"' :: ':' :: (v.text ++ (Value.membersText ms ++ rest)))) := by
      rw [Value.membersText, stringText_append]
      simp only [List.cons_append, List.append_assoc]
      rfl
    have hrest := ih k ((k, v') :: members)
    rw [List.reverse_cons, List.append_assoc] at hrest
    rw [hcomma, run_key (spells_escape k.toList), hreads _ _ _ (apart_membersText ms rest)]
    exact hrest

/-- An object is read member by member. -/
theorem reads_object {ms ms' : List (String × Value)} (h : ReadMembers ms ms') :
    Reads (Value.object ms).text (.object ms') := by
  intro frames slot rest hrest
  cases h with
  | nil => cases slot <;> rfl
  | @cons m m' ms ms' hm hms =>
    obtain ⟨k, v⟩ := m
    obtain ⟨k', v'⟩ := m'
    obtain ⟨rfl, hreads⟩ : k = k' ∧ Reads v.text v' := hm
    rw [Value.text, stringText_append, List.cons_append,
      run_value (r := ⟨.object [] "" true :: frames, .key true⟩) (by decide) (by decide) rfl]
    simp only [List.cons_append, List.append_assoc]
    rw [run_key (spells_escape k.toList), hreads _ _ _ (apart_membersText ms rest)]
    exact run_membersText hms frames k [(k, v')] rest

theorem ofText?_of_reads {v v' : Value} (h : Reads v.text v') :
    Value.ofText? v.toText = some v' := by
  have hrun : Reader.start.run false v.text = .ok v' := by
    have hvalue := h [] .only [] (by simp [Apart])
    rw [List.append_nil] at hvalue
    exact hvalue
  rw [Value.ofText?, Value.toText, String.toList_ofList, hrun]

end Json.Reader

namespace Provider

open Json.Reader (ReadMembers)

/-! ## What a body says -/

/-- What an object says of the request that it is made from. -/
structure Tells (v : Value) (r : ChatRequest) : Prop where
  /-- The members, and no others. -/
  names : ∃ members, v = .object members ∧ members.map (·.1) =
    (if r.maxTokens.isSome then ["max_tokens"] else []) ++
      ["messages", "model", "stream", "stream_options", "temperature"]
  model : v.get? "model" = some (.string r.model)
  /-- One entry a message, in order. -/
  messages : v.get? "messages" = some (.array (r.messages.map fun m =>
    .object [("content", .string m.content), ("role", .string m.role.name)]))
  /-- Read as a 32-bit number, which it is. -/
  temperature : (v.get? "temperature").bind Json.real32? = some r.temperature
  stream : v.get? "stream" = some (.bool true)
  usage : (v.get? "stream_options").bind (·.get? "include_usage") = some (.bool true)
  maxTokens : v.get? "max_tokens" = r.maxTokens.map fun n => .integer n.toNat

/-- The object tells the request. -/
theorem tells_requestJson {r : ChatRequest} {y : Binary} (hy : y.narrow .binary32 = r.temperature) :
    Tells (requestJson { r with temperature := y }) r := by
  obtain ⟨model, messages, temperature, maxTokens⟩ := r
  cases hy
  cases maxTokens with
  | none => exact ⟨⟨_, rfl, rfl⟩, rfl, rfl, rfl, rfl, rfl, rfl⟩
  | some n => exact ⟨⟨_, rfl, rfl⟩, rfl, rfl, rfl, rfl, rfl, rfl⟩

theorem messageJson_injective : Function.Injective messageJson := by
  intro m m' heq
  obtain ⟨role, content⟩ := m
  obtain ⟨role', content'⟩ := m'
  simp only [messageJson, Value.object.injEq, List.cons.injEq, Prod.mk.injEq, Value.string.injEq,
    true_and, and_true] at heq
  obtain ⟨rfl, hrole⟩ := heq
  have hname : role = role' := by
    revert hrole
    cases role <;> cases role' <;> decide
  rw [hname]

/-- An object tells one request at most. -/
theorem eq_of_tells {v : Value} {r r' : ChatRequest} (h : Tells v r) (h' : Tells v r') :
    r = r' := by
  have hmodel : r.model = r'.model := by
    have heq := h.model.symm.trans h'.model
    simpa using heq
  have hmessages : r.messages = r'.messages := by
    have heq := Option.some.inj (h.messages.symm.trans h'.messages)
    exact List.map_injective_iff.mpr messageJson_injective (Value.array.inj heq)
  have htemperature : r.temperature = r'.temperature :=
    Option.some.inj (h.temperature.symm.trans h'.temperature)
  have hmax : r.maxTokens = r'.maxTokens := by
    have heq := h.maxTokens.symm.trans h'.maxTokens
    refine Option.map_injective (fun n n' hn => ?_) heq
    have hnat : (n.toNat : Int) = n'.toNat := Value.integer.inj hn
    exact UInt32.toNat_inj.mp (by omega)
  obtain ⟨model, messages, temperature, maxTokens⟩ := r
  cases hmodel
  cases hmessages
  cases htemperature
  cases hmax
  rfl

/-! ## Reading a body -/

theorem exact_messages (messages : List Message) :
    Value.ExactItems (messages.map messageJson) := by
  induction messages with
  | nil => trivial
  | cons m messages ih => exact ⟨⟨trivial, trivial, trivial⟩, ih⟩

/-- The members of a body before the temperature. -/
def frontMembers (r : ChatRequest) : List (String × Value) :=
  Json.member "max_tokens" (r.maxTokens.map fun n => Json.ofNat n.toNat) ++
    [("messages", .array (r.messages.map messageJson)), ("model", .string r.model),
      ("stream", .bool true), ("stream_options", .object [("include_usage", .bool true)])]

theorem requestJson_eq (r : ChatRequest) : requestJson r =
    .object (frontMembers r ++ [("temperature", .real .binary64 r.temperature)]) := by
  simp only [requestJson, frontMembers, List.append_assoc, List.cons_append, List.nil_append]

/-- The members before the temperature are told in full by their texts. -/
theorem exact_front (r : ChatRequest) : ∀ m ∈ frontMembers r, m.2.Exact := by
  rw [frontMembers, List.forall_mem_append]
  constructor
  · cases hmax : r.maxTokens with
    | none => exact fun m hm => absurd hm List.not_mem_nil
    | some n =>
      intro m hm
      obtain rfl := List.mem_singleton.mp hm
      have hlt := n.toNat_lt
      exact ⟨by omega, by omega⟩
  · simp only [List.forall_mem_cons]
    exact ⟨exact_messages r.messages, trivial, trivial, ⟨trivial, trivial⟩,
      fun m hm => absurd hm List.not_mem_nil⟩

/-- A body is read with whatever is read for its temperature. -/
theorem reads_body {r : ChatRequest} {v : Value}
    (hv : Reads (Json.realText .binary64 r.temperature) v) :
    Reads (requestJson r).text (.object (frontMembers r ++ [("temperature", v)])) := by
  rw [requestJson_eq]
  apply Json.Reader.reads_object
  have hfront := (@List.forall₂_same _ (fun m m' => m.1 = m'.1 ∧ Reads m.2.text m'.2) _).mpr
    fun m hm => ⟨rfl, Json.Reader.reads_of_exact (exact_front r m hm)⟩
  have hlast : ReadMembers [("temperature", .real .binary64 r.temperature)]
      [("temperature", v)] := .cons ⟨rfl, hv⟩ .nil
  exact List.rel_append hfront hlast

theorem reads_requestJson {r : ChatRequest} {y : Binary}
    (hy : Reads (Json.realText .binary64 r.temperature) (.real .binary64 y)) :
    Reads (requestJson r).text (requestJson { r with temperature := y }) := by
  have hbody := reads_body hy
  rw [requestJson_eq { r with temperature := y }]
  exact hbody

/-- A temperature that a request can have: a finite number of 32 bits. -/
structure Single (t : Binary) : Prop where
  finite : t.isFinite = true
  narrow : t.narrow .binary32 = t

/-- The text of a body is read as an object that tells the request. -/
theorem ofText?_requestJson {r : ChatRequest} (h : Single r.temperature) :
    ∃ v, Value.ofText? (requestJson r).toText = some v ∧ Tells v r := by
  obtain ⟨y, hreads, hy⟩ := Json.Reader.reads_realText h.finite h.narrow
  exact ⟨_, Json.Reader.ofText?_of_reads (reads_requestJson hreads), tells_requestJson hy⟩

theorem requestJson_injective {r r' : ChatRequest} (h : Single r.temperature)
    (h' : Single r'.temperature) (heq : (requestJson r).toText = (requestJson r').toText) :
    r = r' := by
  obtain ⟨v, hv, htells⟩ := ofText?_requestJson h
  obtain ⟨v', hv', htells'⟩ := ofText?_requestJson h'
  rw [heq, hv'] at hv
  obtain rfl := Option.some.inj hv
  exact eq_of_tells htells htells'

theorem body_of_streamRequest {p : Provider} {r : ChatRequest} {request : HttpRequest}
    (h : p.streamRequest r = .ok request) : request.body = some (requestJson r).toText := by
  rw [streamRequest] at h
  cases htarget : p.target "/chat/completions" with
  | error e =>
    rw [htarget] at h
    cases h
  | ok t =>
    rw [htarget] at h
    cases h
    rfl

/-- The body that is sent says what the request says: it is read as an object with the model, the
messages in order with their roles and contents, the temperature, the limit exactly if there is one,
and the marks that ask for a stream and for its usage. Two requests of one temperature that differ
in anything else never have one body. -/
theorem streamRequest_body {p : Provider} {r : ChatRequest} {request : HttpRequest}
    (h : Single r.temperature) (hsent : p.streamRequest r = .ok request) :
    (∃ body v, request.body = some body ∧ Value.ofText? body = some v ∧ Tells v r) ∧
      ∀ (p' : Provider) (r' : ChatRequest) (request' : HttpRequest),
        p'.streamRequest r' = .ok request' → r'.temperature = r.temperature →
          (r'.model ≠ r.model ∨ r'.messages ≠ r.messages ∨ r'.maxTokens ≠ r.maxTokens) →
            request'.body ≠ request.body := by
  have hbody := body_of_streamRequest hsent
  constructor
  · obtain ⟨v, hv, htells⟩ := ofText?_requestJson h
    exact ⟨_, v, hbody, hv, htells⟩
  · intro p' r' request' hsent' htemperature hdiffer heq
    rw [body_of_streamRequest hsent', hbody] at heq
    have hsame := requestJson_injective (htemperature ▸ h) h (Option.some.inj heq)
    rw [hsame] at hdiffer
    simp at hdiffer

/-- A request with a limit and a message that has to be escaped, and one with another message. -/
theorem streamRequest_body_escaped :
    ∃ request request', streamRequest ⟨"local", "http://h", "k"⟩
        ⟨"m", [⟨.user, "\"\\\n😀"⟩], defaultTemperature, some 5⟩ = .ok request ∧
      streamRequest ⟨"local", "http://h", "k"⟩
        ⟨"m", [⟨.system, "\"\\\n😀"⟩], defaultTemperature, some 5⟩ = .ok request' ∧
      (∃ body v, request.body = some body ∧ Value.ofText? body = some v ∧
        Tells v ⟨"m", [⟨.user, "\"\\\n😀"⟩], defaultTemperature, some 5⟩) ∧
      request'.body ≠ request.body := by
  have htarget : target ⟨"local", "http://h", "k"⟩ "/chat/completions" =
      .ok ("http://h/chat/completions", "Bearer k") := by rfl
  have hsent (r : ChatRequest) : ∃ request, streamRequest ⟨"local", "http://h", "k"⟩ r =
      .ok request := by
    rw [streamRequest, htarget]
    exact ⟨_, rfl⟩
  have hsingle : Single defaultTemperature := ⟨by decide +kernel, by decide +kernel⟩
  obtain ⟨request, hrequest⟩ := hsent ⟨"m", [⟨.user, "\"\\\n😀"⟩], defaultTemperature, some 5⟩
  obtain ⟨request', hrequest'⟩ := hsent ⟨"m", [⟨.system, "\"\\\n😀"⟩], defaultTemperature, some 5⟩
  obtain ⟨htells, hdiffer⟩ := streamRequest_body hsingle hrequest
  exact ⟨request, request', hrequest, hrequest', htells,
    hdiffer _ _ _ hrequest' rfl (.inr (.inl (by decide)))⟩

end Provider
end FileChat
