import FileChat.Proofs.Session.Run
import FileChat.Proofs.Text.Trimming
import FileChat.Terminal.Repl

/-!
# One line of a conversation

The surroundings are any that have a state: files that change, clocks that run and a backend that
answers as it likes. A line asks at most one thing of the session, and what it asks is determined by
the line and by what is found at a path; a question is one call to generate.
-/
namespace FileChat.Repl

open Text

/-! ## What a line is -/

/-- Whether the user leaves with a line. -/
def leaves (line : String) : Bool :=
  Command.isWord "exit" (trim line.toList) || Command.isWord "quit" (trim line.toList)

/-- The question on a line: what is left without the white space around it, unless that is nothing
or a command. -/
def question? (line : String) : Option String :=
  let query := String.ofList (trim line.toList)
  if query ≠ "" ∧ Command.ofLine? query = none then some query else none

theorem ofName_ne_exit (name : String) (argument : Option String) :
    Command.ofName name argument ≠ .exit := by
  unfold Command.ofName
  split <;> cases argument <;> intro h <;> cases h

theorem ofLine?_eq_exit_iff (line : String) :
    Command.ofLine? line = some .exit ↔ leaves line = true := by
  unfold Command.ofLine? leaves
  by_cases hword : (Command.isWord "exit" (trim line.toList) ||
      Command.isWord "quit" (trim line.toList)) = true
  · simp only [hword, if_true]
  · refine iff_of_false ?_ hword
    simp only [hword]
    split
    · next h => cases h
    · split
      · intro h
        cases h
      · intro h
        exact ofName_ne_exit _ _ (Option.some.inj h)

theorem leaves_trim (line : String) :
    leaves (String.ofList (trim line.toList)) = leaves line := by
  unfold leaves
  rw [String.toList_ofList, trim_trim]

theorem entry_eq_exit_iff (line : String) : entry line = .command .exit ↔ leaves line = true := by
  rw [← leaves_trim, ← ofLine?_eq_exit_iff]
  unfold entry
  by_cases hblank : String.ofList (trim line.toList) = ""
  · simp only [hblank]
    decide
  · simp only [String.isEmpty_iff, hblank, if_false]
    cases Command.ofLine? (String.ofList (trim line.toList)) with
    | none => simp
    | some c => simp

theorem entry_eq_question_iff (line query : String) :
    entry line = .question query ↔ question? line = some query := by
  unfold entry question?
  by_cases hblank : String.ofList (trim line.toList) = ""
  · simp [hblank]
  · simp only [String.isEmpty_iff, hblank, if_false]
    cases Command.ofLine? (String.ofList (trim line.toList)) with
    | none => simp [hblank]
    | some c => simp

/-! ## What a line does -/

variable {σ : Type} {h : Host (StateM σ)} {r next : Repl} {w after : σ} {line query : String}
  {c : Command}

/-- The call that a question makes: the clock, the model and the backend are those of the moment. -/
def callOf (h : Host (StateM σ)) (r : Repl) (w : σ) (query : String) : Call :=
  let started := h.ticks (h.print Screen.answering w).2
  let clock := h.now started.2
  let backend := fun request => r.provider.answer h.send request clock.2
  let answered := backend (r.session.request r.model (r.session.compose clock.1 query))
  { now := clock.1, model := r.model, query, cancel := .never
    backend := fun request => (backend request).1
    elapsedMs := (h.ticks answered.2).1 - started.1 }

/-- What a line does to the session, if anything. -/
def operation? (h : Host (StateM σ)) (r : Repl) (w : σ) : Entry → Option Operation
  | .question query => some (.generate (callOf h r w query))
  | .command (.load path) =>
    let path := Load.target r.home path
    match Load.ofTree r.policy path (h.look path w).1 with
    | .ok found => some (.ingestAll (found.map fun f => (f.path, f.outcome)))
    | .error _ => none
  | .command (.focus pattern) => some (.focus pattern)
  | .command .unfocus => some .clearPins
  | .command (.mode name) =>
    match Mode.ofName name with
    | .ok mode => some (.setMode mode)
    | .error _ => none
  | .command .clear => some .reset
  | _ => none

/-- The model that is asked from now on, when another one is wanted and the backend has been asked
which ones there are. -/
inductive Switched (wanted current : String) : Except ProviderError (List String) → String → Prop
  | unreachable (e : ProviderError) : Switched wanted current (.error e) wanted
  | unlisted : Switched wanted current (.ok []) wanted
  | exact {models : List String} : wanted ∈ models → Switched wanted current (.ok models) wanted
  | containing {earlier later : List String} {found : String} :
      wanted ∉ earlier ++ found :: later →
      (∀ name ∈ earlier, ¬wanted.toList <:+: name.toList) → wanted.toList <:+: found.toList →
      Switched wanted current (.ok (earlier ++ found :: later)) found
  | unknown {models : List String} :
      models ≠ [] → (∀ name ∈ models, ¬wanted.toList <:+: name.toList) →
      Switched wanted current (.ok models) current

/-- What a line leaves of a conversation. -/
structure Takes (h : Host (StateM σ)) (r : Repl) (w : σ) (e : Entry) (next : Repl) : Prop where
  left : next =
    { r with session := r.session.after (operation? h r w e).toList, model := next.model }
  switched : ∀ wanted, e = .command (.model (some wanted)) →
    Switched wanted r.model (r.provider.listModels h.send w).1 next.model
  same_model : (∀ wanted, e ≠ .command (.model (some wanted))) → next.model = r.model

theorem bind_apply {α β : Type} (x : StateM σ α) (f : α → StateM σ β) (w : σ) :
    (x >>= f) w = f (x w).1 (x w).2 := rfl

theorem some_apply {α : Type} (x : StateM σ α) (w : σ) :
    (do return some (← x) : StateM σ (Option α)) w = (some (x w).1, (x w).2) := rfl

/-! ### Models -/

theorem switched_of_listed {models : List String} (hlisted : models ≠ [])
    (wanted current : String) :
    Switched wanted current (.ok models) ((matchModel models wanted).getD current) := by
  unfold matchModel
  cases hexact : models.find? (· == wanted) with
  | some found =>
    have hfound : found = wanted := by simpa using List.find?_some hexact
    subst hfound
    exact .exact (List.mem_of_find?_eq_some hexact)
  | none =>
    have hnot : wanted ∉ models := fun hmem => by simpa using List.find?_eq_none.mp hexact _ hmem
    cases hpart : models.find? fun name => occurs wanted.toList name.toList with
    | some found =>
      obtain ⟨hoccurs, earlier, later, rfl, hearlier⟩ := List.find?_eq_some_iff_append.mp hpart
      refine .containing hnot (fun name hname hin => ?_) (occurs_iff.mp hoccurs)
      simpa [occurs_iff.mpr hin] using hearlier name hname
    | none =>
      refine .unknown hlisted fun name hname hin => ?_
      exact List.find?_eq_none.mp hpart name hname (occurs_iff.mpr hin)

theorem switched_choose (wanted current : String) (models : Except ProviderError (List String)) :
    Switched wanted current models ((choose wanted models).1.getD current) := by
  cases models with
  | error e => exact .unreachable e
  | ok models =>
    cases models with
    | nil => exact .unlisted
    | cons first rest =>
      have hchosen : (choose wanted (.ok (first :: rest))).1 =
          matchModel (first :: rest) wanted := by
        unfold choose
        cases hmatch : matchModel (first :: rest) wanted <;> simp only [hmatch]
      rw [hchosen]
      exact switched_of_listed (List.cons_ne_nil first rest) wanted current

/-! ### Sessions -/

theorem ask_eq (h : Host (StateM σ)) (r : Repl) (query : String) (w : σ) :
    (r.ask h query w).1 =
      { r with session := (r.session.call (callOf h r w query)).session } := by
  unfold ask
  simp only [bind_apply]
  unfold Session.inquire
  cases hrefusal : r.session.refusal query with
  | some e =>
    have hcall : r.session.call (callOf h r w query) = ⟨r.session, [], .rejected e⟩ :=
      Session.generate_of_refusal _ _ _ _ _ hrefusal
    rw [hcall]
    cases e <;> rfl
  | none =>
    simp only [bind_apply]
    -- What is shown depends on the answer, what is left does not.
    generalize hstep : Session.settle _ _ _ _ _ = step
    have hcall : r.session.call (callOf h r w query) = step :=
      (Session.call_of_ready (c := callOf h r w query) hrefusal).trans hstep
    rw [hcall]
    cases step.answer <;> rfl

theorem takes_of_not_model {e : Entry} {s : Session}
    (hnot : ∀ wanted, e ≠ .command (.model (some wanted)))
    (hsession : s = r.session.after (operation? h r w e).toList) :
    Takes h r w e { r with session := s } := by
  subst hsession
  exact ⟨rfl, fun wanted he => absurd he (hnot wanted), fun _ => rfl⟩

theorem showLoad_takes (h : Host (StateM σ)) (r : Repl) (w : σ) (path : String) :
    Takes h r w (.command (.load path)) (r.showLoad h path w).1 := by
  unfold showLoad load
  simp only [bind_apply]
  cases hload : Load.ofTree r.policy (Load.target r.home path)
      (h.look (Load.target r.home path) w).1 with
  | error e =>
    apply takes_of_not_model (fun _ he => by cases he)
    simp only [operation?, hload]
    rfl
  | ok found =>
    apply takes_of_not_model (fun _ he => by cases he)
    simp only [operation?, hload]
    rfl

theorem switchModel_takes (h : Host (StateM σ)) (r : Repl) (w : σ) (wanted : String) :
    Takes h r w (.command (.model (some wanted))) (r.switchModel h wanted w).1 := by
  unfold switchModel
  rw [bind_apply]
  generalize hlisted : r.provider.listModels h.send w = listed
  refine ⟨rfl, fun _ he => ?_, fun hnot => absurd rfl (hnot wanted)⟩
  cases he
  rw [hlisted]
  exact switched_choose _ _ _

theorem switchMode_takes (h : Host (StateM σ)) (r : Repl) (w : σ) (name : String) :
    Takes h r w (.command (.mode name)) (r.switchMode h name w).1 := by
  unfold switchMode
  cases hmode : Mode.ofName name with
  | error e =>
    apply takes_of_not_model (fun _ he => by cases he)
    simp only [operation?, hmode]
    rfl
  | ok mode =>
    apply takes_of_not_model (fun _ he => by cases he)
    simp only [operation?, hmode]
    rfl

theorem handle_takes (h : Host (StateM σ)) (r : Repl) (w : σ) (c : Command) :
    Takes h r w (.command c) (r.handle h c w).1 := by
  cases c with
  | load path => exact showLoad_takes h r w path
  | model wanted =>
    cases wanted with
    | none => exact takes_of_not_model (fun _ he => by cases he) rfl
    | some wanted => exact switchModel_takes h r w wanted
  | mode name => exact switchMode_takes h r w name
  | focus | unfocus | files | search | save | clear | help | exit | usage | unknown =>
    exact takes_of_not_model (fun _ he => by cases he) rfl

theorem ask_takes (h : Host (StateM σ)) (r : Repl) (w : σ) (query : String) :
    Takes h r w (.question query) (r.ask h query w).1 := by
  rw [ask_eq]
  exact takes_of_not_model (fun _ he => by cases he) rfl

/-- The lines that may change what the session holds. -/
inductive Changes (h : Host (StateM σ)) (r : Repl) (w : σ) : Entry → Prop
  | question (query : String) : Changes h r w (.question query)
  | load {path : String} {found : List LoadedFile} :
      Load.ofTree r.policy (Load.target r.home path) (h.look (Load.target r.home path) w).1 =
        .ok found →
      Changes h r w (.command (.load path))
  | focus (pattern : String) : Changes h r w (.command (.focus pattern))
  | unfocus : Changes h r w (.command .unfocus)
  | mode {name : String} {mode : Mode} :
      Mode.ofName name = .ok mode → Changes h r w (.command (.mode name))
  | clear : Changes h r w (.command .clear)

theorem operation?_eq_none {e : Entry} (hnot : ¬Changes h r w e) : operation? h r w e = none := by
  cases e with
  | blank => rfl
  | question query => exact absurd (.question query) hnot
  | command c =>
    cases c with
    | load path =>
      cases hload : Load.ofTree r.policy (Load.target r.home path)
          (h.look (Load.target r.home path) w).1 with
      | error e => simp only [operation?, hload]
      | ok found => exact absurd (.load hload) hnot
    | mode name =>
      cases hmode : Mode.ofName name with
      | error e => simp only [operation?, hmode]
      | ok mode => exact absurd (.mode hmode) hnot
    | focus pattern => exact absurd (.focus pattern) hnot
    | unfocus => exact absurd .unfocus hnot
    | clear => exact absurd .clear hnot
    | files | search | model | save | help | exit | usage | unknown => rfl

theorem operation?_command_ne_generate (h : Host (StateM σ)) (r : Repl) (w : σ) (c : Command)
    (call : Call) : operation? h r w (.command c) ≠ some (.generate call) := by
  intro hop
  cases c with
  | load path =>
    cases hload : Load.ofTree r.policy (Load.target r.home path)
        (h.look (Load.target r.home path) w).1 with
    | error e => simp only [operation?, hload, reduceCtorEq] at hop
    | ok found => simp only [operation?, hload, Option.some.injEq, reduceCtorEq] at hop
  | mode name =>
    cases hmode : Mode.ofName name with
    | error e => simp only [operation?, hmode, reduceCtorEq] at hop
    | ok mode => simp only [operation?, hmode, Option.some.injEq, reduceCtorEq] at hop
  | focus | unfocus | files | search | model | save | clear | help | exit | usage | unknown =>
    cases hop

theorem operation?_eq_generate_iff {e : Entry} {call : Call} :
    operation? h r w e = some (.generate call) ↔
      ∃ query, e = .question query ∧ call = callOf h r w query := by
  constructor
  · intro hop
    cases e with
    | blank => cases hop
    | question query =>
      cases hop
      exact ⟨query, rfl, rfl⟩
    | command c => exact absurd hop (operation?_command_ne_generate h r w c call)
  · rintro ⟨query, rfl, rfl⟩
    rfl

/-! ### Requests -/

/-- Whether an action leaves what was sent as it was. -/
def Quiet {α : Type} (sent : σ → List HttpRequest) (x : StateM σ α) : Prop :=
  ∀ w, sent (x w).2 = sent w

/-- Surroundings that keep what is sent to the backend, in its order, and nothing else with it. -/
structure Records (h : Host (StateM σ)) (sent : σ → List HttpRequest) : Prop where
  send : ∀ request w, sent (h.send request w).2 = sent w ++ [request]
  print : ∀ text, Quiet sent (h.print text)
  complain : ∀ text, Quiet sent (h.complain text)
  look : ∀ path, Quiet sent (h.look path)
  makeDirs : ∀ path, Quiet sent (h.makeDirs path)
  write : ∀ path content, Quiet sent (h.write path content)
  now : Quiet sent h.now
  ticks : Quiet sent h.ticks

/-- What goes to the backend for a line, as far as the backend's address lets it be sent. -/
def requests (h : Host (StateM σ)) (r : Repl) (w : σ) : Entry → List HttpRequest
  | .question query =>
    match r.session.refusal query with
    | some _ => []
    | none => (r.provider.streamRequest (r.session.requestOf (callOf h r w query))).toOption.toList
  | .command (.model (some _)) => r.provider.modelsRequest.toOption.toList
  | _ => []

section Sent

variable {sent : σ → List HttpRequest} {α β : Type}

theorem quiet_pure (a : α) : Quiet sent (pure a : StateM σ α) := fun _ => rfl

theorem Quiet.bind {x : StateM σ α} {f : α → StateM σ β} (hx : Quiet sent x)
    (hf : ∀ a, Quiet sent (f a)) : Quiet sent (x >>= f) := by
  intro w
  rw [bind_apply, hf, hx]

theorem Quiet.sent_eq {x : StateM σ α} (hx : Quiet sent x) (w : σ) :
    sent (x w).2 = sent w ++ [] := by
  rw [hx, List.append_nil]

theorem sent_call (hrec : Records h sent) (request : Except ProviderError HttpRequest)
    (read : HttpResponse → Except ProviderError α) (w : σ) :
    sent (Provider.call h.send request read w).2 = sent w ++ request.toOption.toList := by
  cases request with
  | error e => exact (List.append_nil _).symm
  | ok request => exact hrec.send request w

theorem sent_answer (hrec : Records h sent) (p : Provider) (request : ChatRequest) (w : σ) :
    sent (p.answer h.send request w).2 = sent w ++ (p.streamRequest request).toOption.toList := by
  unfold Provider.answer Provider.stream
  rw [bind_apply, ← sent_call hrec (p.streamRequest request) (Provider.itemsOf request.model)]
  generalize Provider.call h.send (p.streamRequest request) _ w = received
  cases received.1 <;> rfl

theorem sent_ask (hrec : Records h sent) (r : Repl) (query : String) (w : σ) :
    sent (r.ask h query w).2 = sent w ++ requests h r w (.question query) := by
  have hbefore : sent (h.now (h.ticks (h.print Screen.answering w).2).2).2 = sent w := by
    rw [hrec.now, hrec.ticks, hrec.print]
  unfold ask requests
  simp only [bind_apply]
  unfold Session.inquire
  -- The request is sent from where the clock has been read, so the count starts there.
  rw [← hbefore]
  cases hrefusal : r.session.refusal query with
  | some e =>
    cases e with
    | busy activity => exact ((hrec.complain _).bind fun _ => quiet_pure _).sent_eq _
    | emptyQuery => exact ((hrec.print _).bind fun _ => quiet_pure _).sent_eq _
  | none =>
    simp only [bind_apply]
    generalize Session.settle _ _ _ _ _ = step
    refine Eq.trans ?_ (sent_answer hrec r.provider _ _)
    refine Eq.trans ?_ (hrec.ticks _)
    cases step.answer with
    | finished outcome deltas request =>
      exact ((hrec.print _).bind fun _ => (hrec.print _).bind fun _ =>
        (hrec.complain _).bind fun _ => quiet_pure _) _
    | rejected | abandoned => rfl

theorem quiet_writeTranscript (hrec : Records h sent) (r : Repl) :
    Quiet sent (r.writeTranscript h) := by
  unfold writeTranscript
  apply hrec.now.bind
  intro now
  apply (hrec.makeDirs _).bind
  intro made
  cases made with
  | error e => exact quiet_pure _
  | ok =>
    apply (hrec.write _ _).bind
    intro
    exact quiet_pure _

theorem quiet_save (hrec : Records h sent) (r : Repl) : Quiet sent (r.save h) := by
  unfold save
  apply (quiet_writeTranscript hrec r).bind
  intro written
  cases written with
  | error e => exact hrec.complain _
  | ok path => exact hrec.print _

theorem quiet_showLoad (hrec : Records h sent) (r : Repl) (path : String) :
    Quiet sent (r.showLoad h path) := by
  unfold showLoad load
  refine Quiet.bind (Quiet.bind (hrec.look _) fun tree => ?_) fun told =>
    (hrec.print _).bind fun _ => quiet_pure _
  cases Load.ofTree r.policy (Load.target r.home path) tree with
  | error e => exact quiet_pure _
  | ok found => exact quiet_pure _

theorem quiet_switchMode (hrec : Records h sent) (r : Repl) (name : String) :
    Quiet sent (r.switchMode h name) := by
  unfold switchMode
  cases Mode.ofName name with
  | error e => exact (hrec.print _).bind fun _ => quiet_pure _
  | ok mode => exact (hrec.print _).bind fun _ => quiet_pure _

theorem sent_switchModel (hrec : Records h sent) (r : Repl) (wanted : String) (w : σ) :
    sent (r.switchModel h wanted w).2 = sent w ++ r.provider.modelsRequest.toOption.toList := by
  unfold switchModel
  rw [bind_apply]
  exact ((hrec.print _).bind (fun _ => quiet_pure _) _).trans (sent_call hrec _ _ w)

theorem sent_handle (hrec : Records h sent) (r : Repl) (c : Command) (w : σ) :
    sent (r.handle h c w).2 = sent w ++ requests h r w (.command c) := by
  cases c with
  | model wanted =>
    cases wanted with
    | none => exact ((hrec.print _).bind fun _ => quiet_pure _).sent_eq w
    | some wanted => exact sent_switchModel hrec r wanted w
  | load path => exact (quiet_showLoad hrec r path).sent_eq w
  | mode name => exact (quiet_switchMode hrec r name).sent_eq w
  | save => exact ((quiet_save hrec r).bind fun _ => quiet_pure _).sent_eq w
  | exit => exact (quiet_pure r).sent_eq w
  | focus | unfocus | files | search | clear | help | usage | unknown =>
    exact ((hrec.print _).bind fun _ => quiet_pure _).sent_eq w

end Sent

/-! ### Steps -/

theorem step_question (hentry : entry line = .question query) :
    r.step h line w = (some (r.ask h query w).1, (r.ask h query w).2) := by
  unfold step
  rw [hentry]
  exact some_apply _ w

theorem step_exit (hentry : entry line = .command .exit) : r.step h line w = (none, w) := by
  unfold step
  rw [hentry]
  rfl

theorem step_command (hentry : entry line = .command c) (hc : c ≠ .exit) :
    r.step h line w = (some (r.handle h c w).1, (r.handle h c w).2) := by
  unfold step
  rw [hentry]
  cases c with
  | exit => exact absurd rfl hc
  | _ => exact some_apply _ w

theorem step_blank (hentry : entry line = .blank) : r.step h line w = (some r, w) := by
  unfold step
  rw [hentry]
  rfl

/-- Everything that one line can come to. -/
theorem step_cases (h : Host (StateM σ)) (r : Repl) (line : String) (w : σ) :
    (leaves line = true ∧ r.step h line w = (none, w)) ∨
      leaves line = false ∧ ∃ next after, r.step h line w = (some next, after) ∧
        Takes h r w (entry line) next ∧
        ∀ sent, Records h sent → sent after = sent w ++ requests h r w (entry line) := by
  cases hentry : entry line with
  | blank =>
    refine .inr ⟨?_, r, w, step_blank hentry, ?_, fun sent _ => (List.append_nil _).symm⟩
    · rw [← Bool.not_eq_true, ← entry_eq_exit_iff, hentry]
      nofun
    · exact takes_of_not_model (fun _ he => by cases he) rfl
  | question query =>
    refine .inr ⟨?_, _, _, step_question hentry, ask_takes h r w query,
      fun sent hrec => sent_ask hrec r query w⟩
    rw [← Bool.not_eq_true, ← entry_eq_exit_iff, hentry]
    nofun
  | command c =>
    by_cases hc : c = .exit
    · subst hc
      exact .inl ⟨(entry_eq_exit_iff line).mp hentry, step_exit hentry⟩
    · refine .inr ⟨?_, _, _, step_command hentry hc, handle_takes h r w c,
        fun sent hrec => sent_handle hrec r c w⟩
      rw [← Bool.not_eq_true, ← entry_eq_exit_iff, hentry]
      exact fun he => hc (by cases he; rfl)

theorem of_step (hstep : r.step h line w = (some next, after)) :
    leaves line = false ∧ Takes h r w (entry line) next ∧
      ∀ sent, Records h sent → sent after = sent w ++ requests h r w (entry line) := by
  obtain ⟨-, hnone⟩ | ⟨hstays, next', after', hsome, htakes, hsent⟩ := step_cases h r line w
  · rw [hstep] at hnone
    cases hnone
  · rw [hstep] at hsome
    cases hsome
    exact ⟨hstays, htakes, hsent⟩

end FileChat.Repl
