import PlachemMonitor.OpenClaw.LastWord

/-!
# A crash while the result is collected

`wait` stores what it gives the validator before it stores the outcome and the status (`result_input`,
`outcome`, the binding). A call that dies in between is followed by another one, which reads the
history again: the messages are the same, the rest of the page may have changed.

* `Agree`, `collect_congr`: the outcome depends on the messages of the page only.
* `Kept`: what calls that died leave.
* `recollect_iff`: a later call returns the same result just if it stores what is stored, or no
  snapshot is stored.
-/

namespace Plachem

namespace OpenClawAdapter

/-! ## Payloads with the same messages -/

/-- The messages of `payload["history"]`. -/
def told_messages (payload : Dict) : Option Value :=
  ((payload.value? "history").bind Value.dict?).bind fun h => h.value? "messages"

/-- The payloads differ in the history at most, and not in its messages. -/
structure Agree (p p' : Dict) : Prop where
  fields : ∀ key, key ≠ "history" → p.value? key = p'.value? key
  messages : told_messages p = told_messages p'

/-- The check reads no more of the history than its messages. -/
def ReadsMessages (check : ValidationCheck) : Prop :=
  ∀ result p p', Agree p p' → check result p = check result p'

namespace Agree

variable {a : Collector} {p p' : Dict}

theorem set {key : String} (h : Agree p p') (hkey : key ≠ "history") (v : Value) :
    Agree (p.set key v) (p'.set key v) where
  fields key' hkey' := by
    by_cases hsame : key' = key
    · rw [hsame, Dict.value?_set_self, Dict.value?_set_self]
    · rw [Dict.value?_set_ne _ _ hsame, Dict.value?_set_ne _ _ hsame, h.fields key' hkey']
  messages := by
    unfold told_messages
    rw [Dict.value?_set_ne _ _ hkey.symm, Dict.value?_set_ne _ _ hkey.symm]
    exact h.messages

theorem contents (h : Agree p p') :
    OpenClawAdapter.contents p = OpenClawAdapter.contents p' := by
  have hreversed : messages_reversed p = messages_reversed p' := by
    have hlist : ((told_messages p).bind Value.list?) = ((told_messages p').bind Value.list?) := by
      rw [h.messages]
    unfold told_messages at hlist
    unfold messages_reversed
    simp only [Option.bind_assoc] at hlist ⊢
    rw [hlist]
  unfold OpenClawAdapter.contents
  rw [hreversed]

theorem get? (h : Agree p p') {key : String} (hkey : key ≠ "history") : p.get? key = p'.get? key := by
  rw [← Dict.value?_json, ← Dict.value?_json, h.fields key hkey]

theorem terminal_text (h : Agree p p') : terminal_assistant_text p = terminal_assistant_text p' := by
  rw [terminal_eq, terminal_eq, h.contents]

/-- What the recovery makes of them agrees. -/
theorem recover (h : Agree p p') (run : Dict) :
    (∃ error, a.recover_production_result_format p run = .error error ∧
      a.recover_production_result_format p' run = .error error) ∨
    (a.recover_production_result_format p run = .ok none ∧
      a.recover_production_result_format p' run = .ok none) ∨
    ∃ q q', a.recover_production_result_format p run = .ok (some q) ∧
      a.recover_production_result_format p' run = .ok (some q') ∧ Agree q q' := by
  have htext : a.assistant_text p = a.assistant_text p' := by
    unfold Collector.assistant_text
    rw [h.contents, h.get? (by decide)]
  have hcandidate : a.recovery_candidate p = a.recovery_candidate p' := by
    unfold Collector.recovery_candidate
    rw [h.fields "result" (by decide), htext]
  unfold Collector.recover_production_result_format
  rw [hcandidate, htext]
  cases a.recovery_candidate p' with
  | none => exact .inr (.inl ⟨rfl, rfl⟩)
  | some d =>
    dsimp only
    cases a.normalize_status (a.assistant_text p') d with
    | error error => exact .inl ⟨error, rfl, rfl⟩
    | ok d => exact .inr (.inr ⟨_, _, rfl, rfl, (h.set (by decide) _).set (by decide) _⟩)

section Checks

variable (hevidence : ReadsMessages a.evidence) (hscope : ReadsMessages a.scope)
include hevidence hscope

theorem validate (h : Agree p p') : a.validate p = a.validate p' := by
  have hextract : a.extract_result p = a.extract_result p' := by
    unfold Collector.extract_result
    rw [h.fields "result" (by decide), h.contents]
  have hchecks : ∀ result, a.checks.findSome? (fun c => rejection c.1 (c.2 result p)) =
      a.checks.findSome? fun c => rejection c.1 (c.2 result p') := by
    intro result
    unfold Collector.checks
    simp only [List.findSome?_cons, hevidence result p p' h, hscope result p p' h]
    rfl
  unfold Collector.validate
  rw [hextract]
  cases a.extract_result p' with
  | none => rfl
  | some result =>
    dsimp only
    rw [hchecks result]

/-- The outcome is the same. -/
theorem collect (h : Agree p p') (agent_id : String) (run : Dict) :
    a.collect agent_id p run = a.collect agent_id p' run := by
  have hrecovered : ∀ decision, a.recovered p run decision = a.recovered p' run decision := by
    intro decision
    unfold Collector.recovered
    rcases h.recover (a := a) run with ⟨error, hp, hp'⟩ | ⟨hp, hp'⟩ | ⟨q, q', hp, hp', hq⟩
    · rw [hp, hp']
    · rw [hp, hp']
    · rw [hp, hp']
      dsimp only
      rw [hq.validate hevidence hscope]
  unfold Collector.collect
  rw [h.validate hevidence hscope, h.terminal_text]
  dsimp only
  rw [hrecovered]

end Checks

end Agree

/-! ## Pages with the same messages -/

def SamePage (history history' : Dict) : Prop := history.value? "messages" = history'.value? "messages"

/-- What the validator is given of a page. -/
def payload_of (s : Polls) (id : String) (response history : Dict) : Option Dict :=
  match s.store.get_preparation id with
  | none => none
  | some preparation =>
    match history_after_watermark history preparation with
    | .ok history => some (validation_payload response ((s.validation.context id).getD .empty) history)
    | .error _ => none

theorem messages_of_error {history : Dict} {e : AdapterError} (h : messages_of history = .error e) :
    ∃ message, e = .gateway_contract message := by
  unfold messages_of at h
  split at h
  · cases h
  · cases h
    exact ⟨_, rfl⟩

theorem candidates_error {messages : List Value} {preparation : RunPreparation} {e : AdapterError}
    (h : candidates messages preparation = .error e) : ∃ message, e = .gateway_contract message := by
  unfold candidates at h
  split at h
  · cases h
  · split at h
    · cases h
      exact ⟨_, rfl⟩
    · split at h
      · cases h
      · cases h
        exact ⟨_, rfl⟩

theorem history_after_watermark_error {history : Dict} {preparation : RunPreparation}
    {e : AdapterError} (h : history_after_watermark history preparation = .error e) :
    ∃ message, e = .gateway_contract message := by
  unfold history_after_watermark at h
  cases hmessages : messages_of history with
  | error e' =>
    rw [hmessages] at h
    obtain rfl : e' = e := Except.error.inj h
    exact messages_of_error hmessages
  | ok messages =>
    rw [hmessages] at h
    cases hkept : candidates messages preparation with
    | error e' =>
      have h : (candidates messages preparation >>= _) = Except.error e := h
      rw [hkept] at h
      obtain rfl : e' = e := Except.error.inj h
      exact candidates_error hkept
    | ok kept =>
      have h : (candidates messages preparation >>= _) = Except.error e := h
      rw [hkept] at h
      have h : (if kept.any is_assistant then _ else _) = Except.error e := h
      split at h
      · cases h
      · exact ⟨_, (Except.error.inj h).symm⟩

/-- `read`, by the payload. -/
theorem read_eq (a : Collector) (c : PollCall) (s : Polls) (b : RunBinding) (response history : Dict) :
    (∃ payload, payload_of s c.core_run_id response history = some payload ∧
      c.read a s b response history =
        if (terminal_assistant_text payload).isSome then .snapshot b payload
        else .saving b (a.collect b.agent_id payload (observed_run b c.core_run_id))) ∨
    (payload_of s c.core_run_id response history = none ∧
      ∃ message, c.read a s b response history = settle b .FAIL message) := by
  unfold payload_of PollCall.read
  cases s.store.get_preparation c.core_run_id with
  | none => exact .inr ⟨rfl, _, rfl⟩
  | some preparation =>
    dsimp only
    cases hhistory : history_after_watermark history preparation with
    | ok kept => exact .inl ⟨_, rfl, rfl⟩
    | error e =>
      obtain ⟨message, rfl⟩ := history_after_watermark_error hhistory
      exact .inr ⟨rfl, message, rfl⟩

theorem history_after_watermark_same {history history' : Dict} (h : SamePage history history')
    (preparation : RunPreparation) :
    (∃ kept, history_after_watermark history preparation = .ok (history.set "messages" (.list kept)) ∧
      history_after_watermark history' preparation = .ok (history'.set "messages" (.list kept))) ∨
    ∃ e, history_after_watermark history preparation = .error e ∧
      history_after_watermark history' preparation = .error e := by
  have hmessages : messages_of history' = messages_of history := by
    unfold messages_of
    rw [h]
  unfold history_after_watermark
  rw [hmessages]
  cases messages_of history with
  | error e => exact .inr ⟨e, rfl, rfl⟩
  | ok messages =>
    show (∃ kept, (candidates messages preparation >>= _) = _ ∧ (candidates messages preparation >>= _) = _) ∨
      ∃ e, (candidates messages preparation >>= _) = _ ∧ (candidates messages preparation >>= _) = _
    cases candidates messages preparation with
    | error e => exact .inr ⟨e, rfl, rfl⟩
    | ok kept =>
      show (∃ kept', (if kept.any is_assistant then _ else _) = _ ∧ (if kept.any is_assistant then _ else _) = _) ∨
        ∃ e, (if kept.any is_assistant then _ else _) = _ ∧ (if kept.any is_assistant then _ else _) = _
      split
      · exact .inl ⟨kept, rfl, rfl⟩
      · exact .inr ⟨_, rfl, rfl⟩

/-- The payloads of two such pages. -/
theorem payload_of_same (s : Polls) (id : String) (response : Dict) {history history' : Dict}
    (h : SamePage history history') :
    (∃ p p', payload_of s id response history = some p ∧ payload_of s id response history' = some p' ∧
      Agree p p') ∨
    (payload_of s id response history = none ∧ payload_of s id response history' = none) := by
  unfold payload_of
  cases s.store.get_preparation id with
  | none => exact .inr ⟨rfl, rfl⟩
  | some preparation =>
    dsimp only
    rcases history_after_watermark_same h preparation with ⟨kept, hkept, hkept'⟩ | ⟨e, he, he'⟩
    · rw [hkept, hkept']
      refine .inl ⟨_, _, rfl, rfl, fun key hkey => ?_, ?_⟩
      · unfold validation_payload
        rw [Dict.value?_set_ne _ _ hkey, Dict.value?_set_ne _ _ hkey]
      · unfold told_messages validation_payload
        rw [Dict.value?_set_self, Dict.value?_set_self]
        show (history.set "messages" (.list kept)).value? "messages" =
          (history'.set "messages" (.list kept)).value? "messages"
        rw [Dict.value?_set_self, Dict.value?_set_self]
    · rw [he, he']
      exact .inr ⟨rfl, rfl⟩

theorem validate_terminal (a : Collector) (payload : Dict) :
    (a.validate payload).status ∈ CoreRunStatus.terminal := by
  have hpass : CoreRunStatus.PASS ∈ CoreRunStatus.terminal := by decide
  have hfail : CoreRunStatus.FAIL ∈ CoreRunStatus.terminal := by decide
  have hblocked : CoreRunStatus.BLOCKED ∈ CoreRunStatus.terminal := by decide
  unfold Collector.validate
  split
  · exact hfail
  · split
    · exact hfail
    · dsimp only
      split
      · exact hpass
      · split
        · exact hblocked
        · exact hfail

theorem collect_terminal (a : Collector) (agent_id : String) (payload run : Dict) :
    (a.collect agent_id payload run).status ∈ CoreRunStatus.terminal := by
  have hrecovered : ∀ decision : ValidationDecision, decision.status ∈ CoreRunStatus.terminal →
      (a.recovered payload run decision).1.status ∈ CoreRunStatus.terminal := by
    intro decision hdecision
    unfold Collector.recovered
    split
    · exact hdecision
    · exact hdecision
    · dsimp only
      split
      · exact validate_terminal a _
      · exact hdecision
  unfold Collector.collect
  dsimp only
  split
  · exact hrecovered _ (validate_terminal a payload)
  · exact validate_terminal a payload

/-! ## Calls that die -/

namespace PollCall

/-- A call of `wait` that stands there. -/
def at_stage (id : String) (stage : PollStage) : PollCall := ⟨id, false, stage⟩

/-- The first `n` steps of a call, as far as it comes. -/
def run (a : Collector) (reply : PollReply) : Nat → PollCall → Polls → Polls × PollStage
  | 0, c, s => (s, c.stage)
  | n + 1, c, s =>
    match c.step a reply s with
    | none => (s, c.stage)
    | some (s', stage) => run a reply n { c with stage := stage } s'

theorem run_step {a : Collector} {reply : PollReply} {n : Nat} {id : String} {stage stage' : PollStage}
    {s s' : Polls} (h : (at_stage id stage).step a reply s = some (s', stage')) :
    run a reply (n + 1) (at_stage id stage) s = run a reply n (at_stage id stage') s' := by
  rw [run, h]
  rfl

theorem run_ended {a : Collector} {reply : PollReply} {n : Nat} {id : String} {s : Polls}
    {out : Except AdapterError PollResult} :
    run a reply n (at_stage id (.ended out)) s = (s, .ended out) := by
  cases n with
  | zero => rfl
  | succ n => rfl

end PollCall

/-- The Gateway answers `agent.wait` and `chat.history`. -/
def page (response history : Dict) : PollReply := ⟨some response, some history, .failed⟩

section Calls

variable (a : Collector) (id : String) (response : Dict)

/-- How a call of `wait` ends. -/
def waited (history : Dict) (s : Polls) : PollStage :=
  (PollCall.run a (page response history) 6 (.at_stage id .wait) s).2

/-- What calls of `wait` leave that died after so many steps, with the pages that they read. -/
def died : List (Nat × Dict) → Polls → Polls
  | [], s => s
  | call :: calls, s =>
    died calls (PollCall.run a (page response call.2) call.1 (.at_stage id .wait) s).1

end Calls

/-- The status and the result are the same. -/
def SameResult (o o' : AdapterOutcome) : Prop :=
  o'.status = o.status ∧ o'.result.map Dict.sorted = o.result.map Dict.sorted

/-- The run is over, and its result has not been collected. -/
structure Completed (a : Collector) (id : String) (response : Dict) (b : RunBinding) (s : Polls) :
    Prop where
  binding : require_binding s.store id = .ok b
  live : b.status ∉ CoreRunStatus.terminal
  answered : polled a b response = .reading b response
  collected : s.validation.outcome id = none

/-- What a page comes to: the outcome, which can be written. -/
structure Comes (a : Collector) (id : String) (response : Dict) (b : RunBinding) (s : Polls)
    (history : Dict) (o : AdapterOutcome) : Prop where
  terminal : o.status ∈ CoreRunStatus.terminal
  put : ∃ store, s.store.put { b with status := o.status } = .ok store
  verified : ∀ p ∈ payload_of s id response history,
    o = a.collect b.agent_id p (observed_run b id)
  unverified : payload_of s id response history = none → o.status = .FAIL ∧ o.result = none

section Stores

variable {a : Collector} {id : String} {response history history₀ : Dict} {b : RunBinding}
  {s s₀ s' : Polls} {o : AdapterOutcome} {stage stage' : PollStage}

/-- What the calls that died leave of the stores. -/
structure Kept (id : String) (b : RunBinding) (s₀ : Polls) (o : AdapterOutcome) (s : Polls) : Prop where
  preparation : s.store.get_preparation id = s₀.store.get_preparation id
  context : s.validation.context = s₀.validation.context
  outcome : ∀ saved ∈ s.validation.outcome id, saved = o.sorted
  store : s.store = s₀.store ∨ (s.store.get id = some { b with status := o.status } ∧
    (s.validation.outcome id = none → o.result = none))

theorem Kept.payload_of (h : Kept id b s₀ o s) :
    OpenClawAdapter.payload_of s id response history =
      OpenClawAdapter.payload_of s₀ id response history := by
  unfold OpenClawAdapter.payload_of
  rw [h.preparation, h.context]

/-- Where a call of `wait` stands that reads the page. -/
def Standing (id : String) (response : Dict) (b : RunBinding) (s₀ : Polls)
    (history : Dict) (o : AdapterOutcome) (s : Polls) : PollStage → Prop
  | .wait | .saved _ | .ended _ => True
  | .polling b' => b' = b ∧ s.store = s₀.store
  | .reading b' response' => b' = b ∧ response' = response ∧ s.store = s₀.store
  | .snapshot b' p => b' = b ∧ s.store = s₀.store ∧ payload_of s₀ id response history = some p
  | .saving b' o' => b' = b ∧ s.store = s₀.store ∧ o' = o
  | .write b' status _ => b' = b ∧ s.store = s₀.store ∧ status = o.status ∧
      (s.validation.outcome id = none → o.result = none)
  | .looking _ | .cancel | .aborting _ => False

theorem Completed.core_run_id (h : Completed a id response b s) : b.core_run_id = id :=
  (Table.find_some (Polls.require_binding_ok h.binding).1).2

/-- A call finds the binding as it was, or with the status that is written. -/
theorem Kept.require (hcompleted : Completed a id response b s₀) (h : Kept id b s₀ o s) :
    (s.store = s₀.store ∧ require_binding s.store id = .ok b) ∨
    (require_binding s.store id = .ok { b with status := o.status } ∧
      (s.validation.outcome id = none → o.result = none)) := by
  rcases h.store with hstore | ⟨hget, hresult⟩
  · exact .inl ⟨hstore, by rw [hstore]; exact hcompleted.binding⟩
  · have hchecked : check_binding { b with status := o.status } = .ok () :=
      (Polls.require_binding_ok hcompleted.binding).2
    refine .inr ⟨?_, hresult⟩
    unfold require_binding
    rw [hget]
    dsimp only
    rw [hchecked]
    rfl

/-- What the status that a page comes to is written over. -/
theorem Kept.write (hcompleted : Completed a id response b s₀) (h : Kept id b s₀ o s)
    (hresult : s.validation.outcome id = none → o.result = none) {store : RunBindingStore}
    (hput : s.store.put { b with status := o.status } = .ok store) :
    Kept id b s₀ o { s with store := store } := by
  refine ⟨?_, h.context, h.outcome, .inr ⟨?_, hresult⟩⟩
  · unfold RunBindingStore.get_preparation
    dsimp only
    rw [RunBindingStore.put_preparations hput]
    exact h.preparation
  · rw [RunBindingStore.get_put hput, if_pos hcompleted.core_run_id]

/-- A step of a call of `wait`. -/
theorem Kept.step (hcompleted : Completed a id response b s₀)
    (hcomes : Comes a id response b s₀ history o) (h : Kept id b s₀ o s)
    (hstage : Standing id response b s₀ history o s stage)
    (hstep : (PollCall.at_stage id stage).step a (page response history) s = some (s', stage')) :
    Kept id b s₀ o s' ∧ Standing id response b s₀ history o s' stage' := by
  cases stage with
  | looking b' => exact hstage.elim
  | cancel => exact hstage.elim
  | aborting b' => exact hstage.elim
  | ended out => cases hstep
  | wait =>
    unfold PollCall.step PollCall.at_stage at hstep
    dsimp only at hstep
    rcases h.require hcompleted with ⟨hstore, hrequire⟩ | ⟨hrequire, -⟩
    · rw [hrequire] at hstep
      dsimp only at hstep
      rw [if_neg hcompleted.live] at hstep
      cases hstep
      exact ⟨h, rfl, hstore⟩
    · rw [hrequire] at hstep
      dsimp only at hstep
      rw [if_pos hcomes.terminal] at hstep
      cases hstep
      exact ⟨h, trivial⟩
  | saved b' =>
    unfold PollCall.step PollCall.at_stage at hstep
    dsimp only at hstep
    split at hstep
    · cases hstep
      exact ⟨h, trivial⟩
    · cases hstep
      exact ⟨h, trivial⟩
  | polling b' =>
    obtain ⟨rfl, hstore⟩ := hstage
    have hstep : some (s, polled a b' response) = some (s', stage') := hstep
    rw [hcompleted.answered] at hstep
    cases hstep
    exact ⟨h, rfl, rfl, hstore⟩
  | reading b' response' =>
    obtain ⟨rfl, rfl, hstore⟩ := hstage
    have hstep : some (s, (PollCall.at_stage id (.reading b' response')).read a s b' response' history) =
      some (s', stage') := hstep
    obtain ⟨rfl, rfl⟩ := Prod.mk.inj (Option.some.inj hstep)
    refine ⟨h, ?_⟩
    rcases read_eq a (.at_stage id (.reading b' response')) s b' response' history with
      ⟨payload, hpayload, hread⟩ | ⟨hnone, message, hread⟩
    · have hpayload : OpenClawAdapter.payload_of s id response' history = some payload := hpayload
      rw [h.payload_of] at hpayload
      rw [hread]
      split
      · exact ⟨rfl, hstore, hpayload⟩
      · exact ⟨rfl, hstore, (hcomes.verified payload hpayload).symm⟩
    · have hnone : OpenClawAdapter.payload_of s id response' history = none := hnone
      rw [h.payload_of] at hnone
      rw [hread]
      obtain ⟨hfail, hresult⟩ := hcomes.unverified hnone
      exact ⟨rfl, hstore, hfail.symm, fun _ => hresult⟩
  | snapshot b' payload =>
    obtain ⟨rfl, hstore, hpayload⟩ := hstage
    unfold PollCall.step PollCall.at_stage at hstep
    dsimp only at hstep
    split at hstep
    · cases hstep
      exact ⟨h, trivial⟩
    · cases hstep
      exact ⟨⟨h.preparation, h.context, h.outcome, h.store⟩, rfl, hstore,
        (hcomes.verified payload hpayload).symm⟩
  | saving b' o' =>
    obtain ⟨rfl, hstore, rfl⟩ := hstage
    unfold PollCall.step PollCall.at_stage at hstep
    dsimp only at hstep
    split at hstep
    · cases hstep
      exact ⟨h, trivial⟩
    · rename_i outcomes hput
      cases hstep
      have hself : outcomes id = some o'.sorted := ValidationState.put_self hput
      refine ⟨⟨h.preparation, h.context, ?_, .inl hstore⟩, rfl, hstore, rfl, ?_⟩
      · intro saved hsaved
        exact Option.some.inj (hsaved.symm.trans hself)
      · intro hnone
        have hnone : outcomes id = none := hnone
        rw [hself] at hnone
        cases hnone
  | write b' status result =>
    obtain ⟨rfl, hstore, rfl, hresult⟩ := hstage
    unfold PollCall.step PollCall.at_stage at hstep
    dsimp only at hstep
    split at hstep
    · cases hstep
      exact ⟨h, trivial⟩
    · rename_i store hput
      cases hstep
      exact ⟨h.write hcompleted hresult hput, trivial⟩

/-- A call of `wait` that dies after any number of steps. -/
theorem Kept.run (hcompleted : Completed a id response b s₀)
    (hcomes : Comes a id response b s₀ history o) (n : Nat) (h : Kept id b s₀ o s)
    (hstage : Standing id response b s₀ history o s stage) :
    Kept id b s₀ o (PollCall.run a (page response history) n (.at_stage id stage) s).1 := by
  induction n generalizing s stage with
  | zero => exact h
  | succ n ih =>
    cases hstep : (PollCall.at_stage id stage).step a (page response history) s with
    | none =>
      rw [PollCall.run, hstep]
      exact h
    | some next =>
      obtain ⟨s', stage'⟩ := next
      rw [PollCall.run_step hstep]
      obtain ⟨h', hstage'⟩ := h.step hcompleted hcomes hstage hstep
      exact ih h' hstage'

/-- What a page comes to, another one with the same messages comes to. -/
theorem Comes.same (h : Comes a id response b s₀ history₀ o) (hevidence : ReadsMessages a.evidence)
    (hscope : ReadsMessages a.scope) (hpage : SamePage history₀ history) :
    Comes a id response b s₀ history o := by
  rcases payload_of_same s₀ id response hpage with
    ⟨p, p', hp, hp', hagree⟩ | ⟨hnone, hnone'⟩
  · refine ⟨h.terminal, h.put, fun q hq => ?_, fun hq => ?_⟩
    · obtain rfl := Option.some.inj (hp'.symm.trans hq)
      rw [h.verified p hp, hagree.collect hevidence hscope]
    · rw [hp'] at hq
      cases hq
  · refine ⟨h.terminal, h.put, fun q hq => ?_, fun _ => h.unverified hnone⟩
    rw [hnone'] at hq
    cases hq

/-- Calls that die. -/
theorem kept_died (hcompleted : Completed a id response b s₀)
    (hcomes : Comes a id response b s₀ history₀ o) (hevidence : ReadsMessages a.evidence)
    (hscope : ReadsMessages a.scope) {calls : List (Nat × Dict)}
    (hpages : ∀ call ∈ calls, SamePage history₀ call.2) (h : Kept id b s₀ o s) :
    Kept id b s₀ o (died a id response calls s) := by
  induction calls generalizing s with
  | nil => exact h
  | cons call calls ih =>
    obtain ⟨hpage, hpages⟩ := List.forall_mem_cons.mp hpages
    exact ih hpages (h.run hcompleted (hcomes.same hevidence hscope hpage) call.1 trivial)

/-! ## The call that comes after them -/

/-- The status is written; or no snapshot is stored, the page has no text for one, or the one that is
stored is that of the page. -/
def Recollects (id : String) (response : Dict) (b : RunBinding) (s : Polls) (history : Dict) : Prop :=
  (∃ b' ∈ s.store.get id, b'.status ∈ CoreRunStatus.terminal) ∨
    ∀ p ∈ payload_of s id response history, (terminal_assistant_text p).isSome →
      ∀ snapshot ∈ s.validation.result_input id, snapshot = result_input b p

/-- A call of `wait` returns the status and the result of the outcome. -/
def Survives (a : Collector) (id : String) (response : Dict) (o : AdapterOutcome) (history : Dict)
    (s : Polls) : Prop :=
  ∃ o', waited a id response history s = .ended (.ok (.outcome o')) ∧ SameResult o o'

theorem SameResult.refl (o : AdapterOutcome) : SameResult o o := ⟨rfl, rfl⟩

theorem sorted_sorted (d : Dict) : d.sorted.sorted = d.sorted := by
  have hjson : d.sorted.sorted.json = d.sorted.json := by
    rw [Dict.json_sorted d.sorted, Dict.json_sorted, Json.sortKeys_sortKeys]
  have hext : ∀ {e e' : Dict}, e.json = e'.json → e = e' := by
    intro e e' h
    cases e
    cases e'
    cases h
    rfl
  exact hext hjson

theorem sameResult_sorted (o : AdapterOutcome) : SameResult o o.sorted := by
  refine ⟨rfl, ?_⟩
  show (o.result.map Dict.sorted).map Dict.sorted = o.result.map Dict.sorted
  cases o.result with
  | none => rfl
  | some d => exact congrArg some (sorted_sorted d)

/-- A call that finds the status written returns what is saved. -/
theorem survives_written (hterminal : o.status ∈ CoreRunStatus.terminal) (h : Kept id b s₀ o s)
    (hrequire : require_binding s.store id = .ok { b with status := o.status })
    (hresult : s.validation.outcome id = none → o.result = none) :
    Survives a id response o history s := by
  have hwait : (PollCall.at_stage id .wait).step a (page response history) s =
      some (s, .saved { b with status := o.status }) := by
    unfold PollCall.step PollCall.at_stage
    dsimp only
    rw [hrequire]
    dsimp only
    rw [if_pos hterminal]
  unfold Survives waited
  rw [PollCall.run_step hwait]
  cases hsaved : s.validation.outcome id with
  | none =>
    have hsaved' : (PollCall.at_stage id (.saved { b with status := o.status })).step a
        (page response history) s =
          some (s, .ended (.ok (.outcome (.plain o.status o.status.value)))) := by
      unfold PollCall.step PollCall.at_stage
      dsimp only
      rw [hsaved]
    rw [PollCall.run_step hsaved', PollCall.run_ended]
    exact ⟨_, rfl, rfl, by rw [hresult hsaved]; rfl⟩
  | some saved =>
    obtain rfl := h.outcome saved hsaved
    have hsaved' : (PollCall.at_stage id (.saved { b with status := o.status })).step a
        (page response history) s = some (s, .ended (.ok (.outcome o.sorted))) := by
      unfold PollCall.step PollCall.at_stage
      dsimp only
      rw [hsaved]
      dsimp only
      rw [if_pos (show o.sorted.status = o.status from rfl)]
    rw [PollCall.run_step hsaved', PollCall.run_ended]
    exact ⟨_, rfl, sameResult_sorted o⟩

/-- The steps of a call that finds the run as it was. -/
theorem reads_page (history : Dict) (hcompleted : Completed a id response b s₀)
    (hstore : s.store = s₀.store) :
    waited a id response history s =
      (PollCall.run a (page response history) 3 (.at_stage id
        ((PollCall.at_stage id (.reading b response)).read a s b response history)) s).2 := by
  have hwait : (PollCall.at_stage id .wait).step a (page response history) s =
      some (s, .polling b) := by
    unfold PollCall.step PollCall.at_stage
    dsimp only
    rw [hstore, hcompleted.binding]
    dsimp only
    rw [if_neg hcompleted.live]
  have hpolling : (PollCall.at_stage id (.polling b)).step a (page response history) s =
      some (s, .reading b response) := congrArg (fun stage => some (s, stage)) hcompleted.answered
  unfold waited
  rw [PollCall.run_step hwait, PollCall.run_step hpolling]
  exact congrArg Prod.snd (PollCall.run_step rfl)

/-- The status is written at last. -/
theorem writes_status (hput : ∃ store, s.store.put { b with status := o.status } = .ok store) {n : Nat}
    {result : PollResult} :
    (PollCall.run a (page response history) (n + 1) (.at_stage id (.write b o.status result)) s).2 =
      .ended (.ok result) := by
  obtain ⟨store, hput⟩ := hput
  have hwrite : (PollCall.at_stage id (.write b o.status result)).step a (page response history) s =
      some ({ s with store := store }, .ended (.ok result)) := by
    unfold PollCall.step PollCall.at_stage
    dsimp only
    rw [hput]
  rw [PollCall.run_step hwrite, PollCall.run_ended]

/-- The outcome is saved before it. -/
theorem saves_outcome (hstore : s.store = s₀.store)
    (hput : ∃ store, s₀.store.put { b with status := o.status } = .ok store)
    (houtcome : ∀ saved ∈ s.validation.outcome id, saved = o.sorted) {n : Nat} :
    (PollCall.run a (page response history) (n + 2) (.at_stage id (.saving b o)) s).2 =
      .ended (.ok (.outcome o)) := by
  have hsaving : ∃ s', (PollCall.at_stage id (.saving b o)).step a (page response history) s =
      some (s', .write b o.status (.outcome o)) ∧ s'.store = s₀.store := by
    unfold PollCall.step PollCall.at_stage ValidationState.put
    dsimp only
    cases hsaved : s.validation.outcome id with
    | none => exact ⟨_, rfl, hstore⟩
    | some saved =>
      dsimp only
      rw [if_pos (houtcome saved hsaved)]
      exact ⟨_, rfl, hstore⟩
  obtain ⟨s', hsaving, hstore'⟩ := hsaving
  rw [PollCall.run_step hsaving]
  exact writes_status (by rw [hstore']; exact hput)

/-- A call that returns has written its status. -/
theorem write_returns (hstore : s.store = s₀.store) {n : Nat} {status : CoreRunStatus}
    {result result' : PollResult}
    (h : (PollCall.run a (page response history) (n + 1) (.at_stage id (.write b status result)) s).2 =
      .ended (.ok result')) :
    result' = result ∧ ∃ store, s₀.store.put { b with status := status } = .ok store := by
  rw [← hstore]
  cases hput : s.store.put { b with status := status } with
  | ok store =>
    have hwrite : (PollCall.at_stage id (.write b status result)).step a (page response history) s =
        some ({ s with store := store }, .ended (.ok result)) := by
      unfold PollCall.step PollCall.at_stage
      dsimp only
      rw [hput]
    rw [PollCall.run_step hwrite, PollCall.run_ended] at h
    cases h
    exact ⟨rfl, store, rfl⟩
  | error e =>
    have hwrite : (PollCall.at_stage id (.write b status result)).step a (page response history) s =
        some (s, .ended (.error e)) := by
      unfold PollCall.step PollCall.at_stage
      dsimp only
      rw [hput]
    rw [PollCall.run_step hwrite, PollCall.run_ended] at h
    cases h

theorem saving_returns (hstore : s.store = s₀.store) {n : Nat} {o' : AdapterOutcome}
    {result : PollResult}
    (h : (PollCall.run a (page response history) (n + 2) (.at_stage id (.saving b o')) s).2 =
      .ended (.ok result)) :
    result = .outcome o' ∧ ∃ store, s₀.store.put { b with status := o'.status } = .ok store := by
  cases hput : ValidationState.put s.validation.outcome id o'.sorted with
  | ok outcomes =>
    have hsaving : (PollCall.at_stage id (.saving b o')).step a (page response history) s =
        some ({ s with validation := { s.validation with outcome := outcomes } },
          .write b o'.status (.outcome o')) := by
      unfold PollCall.step PollCall.at_stage
      dsimp only
      rw [hput]
    rw [PollCall.run_step hsaving] at h
    exact write_returns (by exact hstore) h
  | error e =>
    have hsaving : (PollCall.at_stage id (.saving b o')).step a (page response history) s =
        some (s, .ended (.error e)) := by
      unfold PollCall.step PollCall.at_stage
      dsimp only
      rw [hput]
    rw [PollCall.run_step hsaving, PollCall.run_ended] at h
    cases h

theorem snapshot_step (a : Collector) (b : RunBinding) (id : String) (response : Dict) (s : Polls)
    (history payload : Dict) :
    (∃ inputs, ValidationState.put s.validation.result_input id (result_input b payload) = .ok inputs ∧
      (PollCall.at_stage id (.snapshot b payload)).step a (page response history) s =
        some ({ s with validation := { s.validation with result_input := inputs } },
          .saving b (a.collect b.agent_id payload (observed_run b id)))) ∨
    ∃ e, ValidationState.put s.validation.result_input id (result_input b payload) = .error e ∧
      (PollCall.at_stage id (.snapshot b payload)).step a (page response history) s =
        some (s, .ended (.error e)) := by
  unfold PollCall.step PollCall.at_stage
  dsimp only
  cases ValidationState.put s.validation.result_input id (result_input b payload) with
  | ok inputs => exact .inl ⟨inputs, rfl, rfl⟩
  | error e => exact .inr ⟨e, rfl, rfl⟩

/-- What the call that does not die comes to. -/
theorem comes_of_returns (hcompleted : Completed a id response b s₀)
    (hreturns : waited a id response history₀ s₀ = .ended (.ok (.outcome o))) :
    Comes a id response b s₀ history₀ o := by
  have hcollected : ∀ payload, payload_of s₀ id response history₀ = some payload →
      PollResult.outcome o = .outcome (a.collect b.agent_id payload (observed_run b id)) ∧
        (∃ store, s₀.store.put { b with
          status := (a.collect b.agent_id payload (observed_run b id)).status } = .ok store) →
      Comes a id response b s₀ history₀ o := by
    rintro payload hpayload ⟨ho, hput⟩
    obtain rfl : o = _ := PollResult.outcome.inj ho
    refine ⟨collect_terminal .., hput, fun p hp => ?_, fun hnone => ?_⟩
    · obtain rfl := Option.some.inj (hpayload.symm.trans hp)
      rfl
    · rw [hpayload] at hnone
      cases hnone
  rw [reads_page _ hcompleted rfl] at hreturns
  rcases read_eq a (.at_stage id (.reading b response)) s₀ b response history₀ with
    ⟨payload, hpayload, hread⟩ | ⟨hnone, message, hread⟩
  · rw [hread] at hreturns
    refine hcollected payload hpayload ?_
    split at hreturns
    · rcases snapshot_step a b id response s₀ history₀ payload with ⟨inputs, -, hstep⟩ | ⟨e, -, hstep⟩
      · rw [PollCall.run_step hstep] at hreturns
        exact saving_returns (by rfl) hreturns
      · rw [PollCall.run_step hstep, PollCall.run_ended] at hreturns
        cases hreturns
    · exact saving_returns rfl hreturns
  · rw [hread] at hreturns
    obtain ⟨ho, hput⟩ := write_returns rfl hreturns
    obtain rfl := PollResult.outcome.inj ho
    have hterminal : CoreRunStatus.FAIL ∈ CoreRunStatus.terminal := by decide
    refine ⟨hterminal, hput, fun p hp => ?_, fun _ => ⟨rfl, rfl⟩⟩
    have hnone : payload_of s₀ id response history₀ = none := hnone
    rw [hnone] at hp
    cases hp

/-- After calls that died, a call of `wait` that reads a page with the same messages returns the status
and the result just if the status is written, or the snapshot can be stored again. -/
theorem recollect_iff (hcompleted : Completed a id response b s₀)
    (hreturns : waited a id response history₀ s₀ = .ended (.ok (.outcome o)))
    (hevidence : ReadsMessages a.evidence) (hscope : ReadsMessages a.scope)
    (calls : List (Nat × Dict)) (hpages : ∀ call ∈ calls, SamePage history₀ call.2)
    (hpage : SamePage history₀ history) :
    Survives a id response o history (died a id response calls s₀) ↔
      Recollects id response b (died a id response calls s₀) history := by
  have hcomes := comes_of_returns hcompleted hreturns
  have hstart : Kept id b s₀ o s₀ := by
    refine ⟨rfl, rfl, fun saved hsaved => ?_, .inl rfl⟩
    rw [hcompleted.collected] at hsaved
    cases hsaved
  have hkept := kept_died hcompleted hcomes hevidence hscope hpages hstart
  replace hcomes := hcomes.same hevidence hscope hpage
  generalize died a id response calls s₀ = s at hkept
  rcases hkept.require hcompleted with ⟨hstore, hrequire⟩ | ⟨hrequire, hresult⟩
  swap
  · refine iff_of_true (survives_written hcomes.terminal hkept hrequire hresult) (.inl ?_)
    exact ⟨_, (Polls.require_binding_ok hrequire).1, hcomes.terminal⟩
  have hreads := reads_page (a := a) history hcompleted hstore
  unfold Survives
  rw [hreads]
  rcases read_eq a (.at_stage id (.reading b response)) s b response history with
    ⟨payload, hpayload, hread⟩ | ⟨hnone, message, hread⟩
  · have hpayload : payload_of s id response history = some payload := hpayload
    have hcollect : a.collect b.agent_id payload (observed_run b id) = o := by
      rw [hkept.payload_of] at hpayload
      exact (hcomes.verified payload hpayload).symm
    rw [hread]
    split
    · rename_i htext
      rcases snapshot_step a b id response s history payload with ⟨inputs, hinputs, hstep⟩ | ⟨e, herror, hstep⟩
      · rw [PollCall.run_step hstep, hcollect]
        refine iff_of_true ⟨o, ?_, .refl o⟩ (.inr ?_)
        · exact saves_outcome (by exact hstore) hcomes.put (by exact hkept.outcome)
        intro p hp _ snapshot hsnapshot
        obtain rfl := Option.some.inj (hpayload.symm.trans hp)
        exact (Option.some.inj ((ValidationState.put_keeps hinputs hsnapshot).symm.trans
          (ValidationState.put_self hinputs)))
      · rw [PollCall.run_step hstep, PollCall.run_ended]
        refine iff_of_false ?_ ?_
        · rintro ⟨o', h, -⟩
          cases h
        · rintro (⟨b', hb', hterminal⟩ | hsnapshots)
          · obtain rfl := Option.some.inj ((Polls.require_binding_ok hrequire).1.symm.trans hb')
            exact hcompleted.live hterminal
          · unfold ValidationState.put at herror
            split at herror
            · cases herror
            · rename_i snapshot hsnapshot
              rw [if_pos (hsnapshots payload hpayload htext snapshot hsnapshot)] at herror
              cases herror
    · rename_i htext
      have hsaving : PollCall.at_stage id (.saving b (a.collect b.agent_id payload
          (observed_run b (PollCall.at_stage id (.reading b response)).core_run_id))) =
          .at_stage id (.saving b o) := congrArg (fun o => PollCall.at_stage id (.saving b o)) hcollect
      rw [hsaving]
      refine iff_of_true ⟨o, saves_outcome hstore hcomes.put hkept.outcome, .refl o⟩ (.inr ?_)
      intro p hp hsome
      obtain rfl := Option.some.inj (hpayload.symm.trans hp)
      exact absurd hsome htext
  · have hnone : payload_of s id response history = none := hnone
    have hnone₀ := hnone
    rw [hkept.payload_of] at hnone₀
    obtain ⟨hfail, hresult⟩ := hcomes.unverified hnone₀
    rw [hread]
    refine iff_of_true ⟨.plain .FAIL message, ?_, hfail.symm, by rw [hresult]; rfl⟩ (.inr ?_)
    · have hput := hcomes.put
      rw [hfail, ← hstore] at hput
      exact writes_status (o := .plain .FAIL message) hput
    · intro p hp
      rw [hnone] at hp
      cases hp

end Stores

/-! ## A process that stops -/

namespace Sample

/-- A run that is submitted. -/
def submitted : Polls := from_start [.prepare (noted none true), .bind running]

def ok : Dict := Dict.empty.set "status" (.str "ok")

/-- The worker has answered. -/
def ended_page : Dict := history [say completed]

/-- The same messages, with other metadata of the session. -/
def later_page : Dict := ended_page.set "sessionInfo" (.ofDict (Dict.empty.set "totalTokens" (.int 7)))

/-- The answer is no result of the contract. -/
def failed_outcome : AdapterOutcome :=
  { AdapterOutcome.plain .FAIL "RESULT_SCHEMA_VALIDATION_FAILED:MISSING_REQUIRED_FIELD" with
    raw_response := some completed
    rejected_result := some (Dict.empty.set "status" (.str "completed")) }

/-- How a call has ended. -/
def end_of : PollStage → Option (Except AdapterError PollResult)
  | .ended out => some out
  | _ => none

theorem ended_of {stage : PollStage} {out : Except AdapterError PollResult} (h : end_of stage = some out) :
    stage = .ended out := by
  unfold end_of at h
  split at h
  · rw [Option.some.inj h]
  · cases h

theorem same_page : SamePage ended_page later_page :=
  (Dict.value?_set_ne _ _ (by decide)).symm

theorem completed_run : Completed gateway "core-1" ok running submitted where
  binding := by decide +kernel
  live := by decide
  answered := rfl
  collected := rfl

theorem returns : waited gateway "core-1" ok ended_page submitted = .ended (.ok (.outcome failed_outcome)) :=
  ended_of (by decide +kernel)

theorem reads_messages : ReadsMessages gateway.evidence ∧ ReadsMessages gateway.scope :=
  ⟨fun _ _ _ _ => rfl, fun _ _ _ _ => rfl⟩

end Sample

open Sample in
/-- The process stops when the snapshot is stored: the next call raises a conflict. -/
theorem crash_conflicts : ∃ calls : List (Nat × Dict), ∃ later : Dict,
    Completed gateway "core-1" ok running submitted ∧
      waited gateway "core-1" ok ended_page submitted = .ended (.ok (.outcome failed_outcome)) ∧
      (∀ call ∈ calls, SamePage ended_page call.2) ∧ SamePage ended_page later ∧
      waited gateway "core-1" ok later (died gateway "core-1" ok calls submitted) =
        .ended (.error (.value "VALIDATION_STATE_CONFLICT")) ∧
      ¬ Survives gateway "core-1" ok failed_outcome later (died gateway "core-1" ok calls submitted) := by
  have hconflict : waited gateway "core-1" ok later_page
      (died gateway "core-1" ok [(4, ended_page)] submitted) =
        .ended (.error (.value "VALIDATION_STATE_CONFLICT")) := ended_of (by decide +kernel)
  refine ⟨[(4, ended_page)], later_page, completed_run, returns, ?_, same_page, hconflict, ?_⟩
  · exact List.forall_mem_singleton.mpr rfl
  · rintro ⟨o, hreturns, -⟩
    rw [hconflict] at hreturns
    cases hreturns

open Sample in
/-- It does not matter if the process stops before the snapshot is stored. -/
theorem recollect_sample : Survives gateway "core-1" ok failed_outcome later_page
    (died gateway "core-1" ok [(3, ended_page)] submitted) := by
  have hpages : ∀ call ∈ [(3, ended_page)], SamePage ended_page call.2 :=
    List.forall_mem_singleton.mpr rfl
  refine (recollect_iff completed_run returns reads_messages.1 reads_messages.2 [(3, ended_page)] hpages
    same_page).mpr (.inr fun p _ _ snapshot hsnapshot => ?_)
  have hnone : (died gateway "core-1" ok [(3, ended_page)] submitted).validation.result_input "core-1" =
      none := by decide +kernel
  rw [hnone] at hsnapshot
  cases hsnapshot

end OpenClawAdapter

end Plachem
