import PlachemMonitor.OpenClaw.Submit

/-!
# The status of a binding

`OpenClawAdapter.wait` and `OpenClawAdapter.cancel`, in the steps between which other calls may run.
Both write back a binding that they have read before they asked the Gateway.

* `PollCall.step`: one step of a call.
* `polls`: the machine of all calls, and of what `submit` stores before them.
* `Current`: a write finds the binding that it is based on.
-/

namespace Plachem

/-- `AdapterOutcome(status, reason)` -/
def AdapterOutcome.plain (status : CoreRunStatus) (reason : String) : AdapterOutcome where
  status := status
  reason := reason
  result := none
  format_error := ""
  format_recovery_attempts := 0
  format_recovery_rejection := ""
  raw_response := none
  rejected_result := none

namespace OpenClawAdapter

/-! ## What the Gateway says -/

/-- `d`, with the members of `e` that are not skipped. -/
def merge (d e : Dict) (skip : List String) : Dict :=
  ((e.members.map Prod.fst).filter (· ∉ skip)).foldl (fun d k => (e.value? k).elim d (d.set k)) d

/-- The agent and the session of a binding are checked. -/
def check_binding (b : RunBinding) : Except AdapterError Unit := do
  let _ ← validate_agent_id (some (.str b.agent_id))
  let _ ← validate_session_binding (some (.str b.session_key)) b.agent_id
  pure ()

/-- `_require_binding` -/
def require_binding (store : RunBindingStore) (core_run_id : String) :
    Except AdapterError RunBinding :=
  match store.get core_run_id with
  | none => .error (.session_binding "UNKNOWN_CORE_RUN")
  | some b => (check_binding b).map fun _ => b

/-- What `_session_run_is_active` reads off the history. -/
def session_run_is_active (b : RunBinding) (history : Dict) : Option Bool :=
  match (history.value? "sessionInfo").bind Value.dict? with
  | none => none
  | some info =>
    if info.get? "hasActiveRun" = some (.bool true) then some true
    else
      match info.get? "activeRunIds" with
      | some (.arr ids) => some (decide (.str b.openclaw_run_id ∈ ids))
      | _ => if info.get? "hasActiveRun" = some (.bool false) then some false else none

/-- `confirmed`, of the response to an abort. -/
def abort_confirmed (b : RunBinding) (response : Dict) : Bool :=
  response.get? "aborted" == some (.bool true) ||
    response.get? "abortedRunId" == some (.str b.openclaw_run_id) ||
    response.get? "status" == some (.str "aborted") ||
    response.get? "status" == some (.str "no-active-run") ||
    (response.get? "ok" == some (.bool true) && response.get? "runIds" == some (.arr []))

/-- How `_abort_run` ends. -/
inductive AbortReply where
  | response (data : Dict)
  /-- A `GatewayContractError`, with its code. -/
  | rejected (code : Option String)
  | failed

/-- The codes of a run that is over. -/
def ALREADY_OVER : List String :=
  ["RUN_NOT_FOUND", "ALREADY_FINISHED", "RUN_ALREADY_FINISHED", "NO_ACTIVE_RUN"]

/-! ## A call -/

inductive PollResult where
  | outcome (o : AdapterOutcome)
  /-- `cancel` returns the binding. -/
  | binding (b : RunBinding)
  deriving DecidableEq

/-- Where a call stands, with the binding that it has read. -/
inductive PollStage where
  | wait
  | saved (b : RunBinding)
  | polling (b : RunBinding)
  | looking (b : RunBinding)
  | reading (b : RunBinding) (response : Dict)
  | snapshot (b : RunBinding) (payload : Dict)
  | saving (b : RunBinding) (o : AdapterOutcome)
  | cancel
  | aborting (b : RunBinding)
  | write (b : RunBinding) (status : CoreRunStatus) (result : PollResult)
  | ended (out : Except AdapterError PollResult)

structure PollCall where
  core_run_id : String
  /-- The call is one of `cancel`. -/
  cancels : Bool
  stage : PollStage

/-- What a step may be answered with; `none` is an RPC that raises. -/
structure PollReply where
  response : Option Dict
  history : Option Dict
  abort : AbortReply

/-- The stores, and the calls of `wait` and `cancel`. -/
structure Polls where
  store : RunBindingStore
  validation : ValidationState
  calls : List PollCall

/-- `_set_status(binding, status)` and `return AdapterOutcome(status, reason)` -/
def settle (b : RunBinding) (status : CoreRunStatus) (reason : String) : PollStage :=
  .write b status (.outcome (.plain status reason))

/-- The status in the response to `agent.wait`. -/
def observed (response : Dict) : String :=
  match response.get? "status" with
  | some (.str s) => s
  | _ => ""

/-- The response is of another run. -/
def of_another_run (b : RunBinding) (response : Dict) : Bool :=
  match response.get? "runId" with
  | none | some .null => false
  | some id => decide (id ≠ .str b.openclaw_run_id)

/-- What `wait` does with the response to `agent.wait`. -/
def polled (a : Collector) (b : RunBinding) (response : Dict) : PollStage :=
  if of_another_run b response then settle b .FAIL "OPENCLAW_RUN_MISMATCH"
  else if observed response ∈ ["pending", "accepted", "in_flight"] then
    settle b .RUNNING "RUN_STILL_ACTIVE"
  else if observed response = "timeout" then .looking b
  else if observed response = "error" then
    if a.lower (a.str_or (response.get? "error") "") = "aborted" then
      settle b .CANCELLED "OPENCLAW_ABORTED"
    else settle b .FAIL "OPENCLAW_ERROR"
  else if observed response ≠ "ok" then settle b .FAIL "UNKNOWN_OPENCLAW_STATUS"
  else .reading b response

/-- What the validator is given. -/
def validation_payload (response context history : Dict) : Dict :=
  (merge (merge .empty response ["result", "evidence", "artifacts", "messages", "history"]) context
    []).set "history" (.ofDict history)

/-- The entry `result_input`. -/
def result_input (b : RunBinding) (payload : Dict) : Dict :=
  ((Dict.empty.set "binding" (.ofDict (((Dict.empty.set "core_run_id" (.str b.core_run_id)).set
    "openclaw_run_id" (.str b.openclaw_run_id)).set "session_key" (.str b.session_key)))).set
      "envelope" (.ofDict payload)).sorted

def observed_run (b : RunBinding) (core_run_id : String) : Dict :=
  ((((Dict.empty.set "core_run_id" (.str core_run_id)).set "openclaw_run_id"
    (.str b.openclaw_run_id)).set "agent_id" (.str b.agent_id)).set "session_key"
      (.str b.session_key)).set "terminal_status" (.str "ok")

namespace PollCall

/-- What `wait` does with the history of a run that is over. -/
def read (a : Collector) (c : PollCall) (s : Polls) (b : RunBinding) (response history : Dict) :
    PollStage :=
  match s.store.get_preparation c.core_run_id with
  | none => settle b .FAIL "HISTORY_WATERMARK_UNVERIFIABLE"
  | some preparation =>
    match history_after_watermark history preparation with
    | .error (.gateway_contract message) => settle b .FAIL message
    | .error e => .ended (.error e)
    | .ok history =>
      let payload := validation_payload response ((s.validation.context c.core_run_id).getD .empty)
        history
      if (terminal_assistant_text payload).isSome then .snapshot b payload
      else .saving b (a.collect b.agent_id payload (observed_run b c.core_run_id))

/-- One step of a call: what it leaves of the stores, and where it stands then. -/
def step (a : Collector) (c : PollCall) (reply : PollReply) (s : Polls) : Option (Polls × PollStage) :=
  match c.stage with
  | .wait =>
    match require_binding s.store c.core_run_id with
    | .error e => some (s, .ended (.error e))
    | .ok b => some (s, if b.status ∈ CoreRunStatus.terminal then .saved b else .polling b)
  | .saved b =>
    match s.validation.outcome c.core_run_id with
    | some o => some (s, .ended (.ok (.outcome
        (if o.status = b.status then o else .plain b.status b.status.value))))
    | none => some (s, .ended (.ok (.outcome (.plain b.status b.status.value))))
  | .polling b =>
    match reply.response with
    | none => some (s, .ended (.error .rpc))
    | some response => some (s, polled a b response)
  | .looking b =>
    match reply.history.bind (session_run_is_active b) with
    | some false => some (s, settle b .TIMEOUT "OPENCLAW_TERMINAL_TIMEOUT")
    | _ => some (s, .ended (.ok (.outcome (.plain .TIMEOUT "OPENCLAW_TIMEOUT"))))
  | .reading b response =>
    match reply.history with
    | none => some (s, .ended (.error .rpc))
    | some history => some (s, c.read a s b response history)
  | .snapshot b payload =>
    match ValidationState.put s.validation.result_input c.core_run_id (result_input b payload) with
    | .error e => some (s, .ended (.error e))
    | .ok inputs =>
      some ({ s with validation := { s.validation with result_input := inputs } },
        .saving b (a.collect b.agent_id payload (observed_run b c.core_run_id)))
  | .saving b o =>
    match ValidationState.put s.validation.outcome c.core_run_id o.sorted with
    | .error e => some (s, .ended (.error e))
    | .ok outcomes =>
      some ({ s with validation := { s.validation with outcome := outcomes } },
        .write b o.status (.outcome o))
  | .cancel =>
    match require_binding s.store c.core_run_id with
    | .error e => some (s, .ended (.error e))
    | .ok b => some (s, .aborting b)
  | .aborting b =>
    let cancelled := PollStage.write b .CANCELLED (.binding { b with status := .CANCELLED })
    match reply.abort with
    | .response response =>
      if abort_confirmed b response then some (s, cancelled)
      else some (s, .ended (contract "OpenClaw did not confirm abort"))
    | .rejected code =>
      if code.any (· ∈ ALREADY_OVER) then some (s, cancelled) else some (s, .ended (.error .rpc))
    | .failed => some (s, .ended (.error .rpc))
  | .write b status result =>
    match s.store.put { b with status := status } with
    | .error e => some (s, .ended (.error e))
    | .ok store => some ({ s with store := store }, .ended (.ok result))
  | .ended _ => none

end PollCall

/-! ## The system -/

inductive PollLabel where
  | wait (core_run_id : String)
  | cancel (core_run_id : String)
  | advance (i : Nat) (reply : PollReply)
  /-- `submit` stores a context, a preparation, a binding. -/
  | context (core_run_id : String) (context : Dict)
  | prepare (preparation : RunPreparation)
  | bind (binding : RunBinding)

namespace Polls

def at_stage (s : Polls) (i : Nat) (c : PollCall) (stage : PollStage) : Polls :=
  { s with calls := s.calls.set i { c with stage := stage } }

def step (a : Collector) (s : Polls) : PollLabel → Option Polls
  | .wait id => some { s with calls := s.calls ++ [⟨id, false, .wait⟩] }
  | .cancel id => some { s with calls := s.calls ++ [⟨id, true, .cancel⟩] }
  | .advance i reply => do
    let c ← s.calls[i]?
    let (s, stage) ← c.step a reply s
    pure (s.at_stage i c stage)
  | .context id context => do
    let contexts ← (ValidationState.put s.validation.context id context).toOption
    pure { s with validation := { s.validation with context := contexts } }
  | .prepare preparation => do
    let store ← (s.store.put_preparation preparation).toOption
    pure { s with store := store }
  | .bind binding =>
    -- `submit` has checked the binding, and does not bind a run that is bound
    if check_binding binding = .ok () ∧ s.store.get binding.core_run_id = none then do
      let store ← (s.store.put binding).toOption
      pure { s with store := store }
    else none

end Polls

def polls (a : Collector) : Machine Polls PollLabel where
  init s := s.store = .empty ∧ s.validation = .empty ∧ s.calls = []
  step := Polls.step a

/-! ## What a call has read -/

/-- The binding passes the checks of `_require_binding`. -/
def Checked (b : RunBinding) : Prop := check_binding b = .ok ()

/-- What holds of the binding that a call has read: `wait` goes on only if its run is not over. -/
def PollStage.Sound : PollStage → Prop
  | .polling b | .looking b | .reading b _ | .snapshot b _ | .saving b _ | .write b _ (.outcome _) =>
    Checked b ∧ b.status ∉ CoreRunStatus.terminal
  | .saved b | .aborting b | .write b _ (.binding _) => Checked b
  | _ => True

namespace Polls

/-- The invariant. -/
structure Sound (s : Polls) : Prop where
  bindings : ∀ id b, s.store.get id = some b → Checked b
  calls : ∀ c ∈ s.calls, c.stage.Sound

variable {a : Collector} {s s' w w' : Polls} {c : PollCall} {reply : PollReply} {stage : PollStage}
  {b : RunBinding} {l : PollLabel}

theorem require_binding_ok {store : RunBindingStore} {id : String}
    (h : require_binding store id = .ok b) : store.get id = some b ∧ Checked b := by
  unfold require_binding at h
  split at h
  · cases h
  · rename_i b' hb
    obtain ⟨u, hcheck, rfl⟩ := map_eq_ok.mp h
    exact ⟨hb, hcheck⟩

theorem sound_polled (hb : Checked b ∧ b.status ∉ CoreRunStatus.terminal) (response : Dict) :
    (polled a b response).Sound := by
  unfold polled
  split
  · exact hb
  split
  · exact hb
  split
  · exact hb
  split
  · split <;> exact hb
  split <;> exact hb

theorem sound_read (hb : Checked b ∧ b.status ∉ CoreRunStatus.terminal) (response history : Dict) :
    (c.read a s b response history).Sound := by
  unfold PollCall.read
  split
  · exact hb
  · split
    · exact hb
    · trivial
    · dsimp only
      split <;> exact hb

/-- One step of a call stores what the call has read, under another status, or no binding. -/
theorem call_sound (hc : c.stage.Sound) (h : c.step a reply s = some (s', stage)) :
    s'.calls = s.calls ∧ stage.Sound ∧
      (s'.store = s.store ∨ ∃ b status result, c.stage = .write b status result ∧
        s.store.put { b with status := status } = .ok s'.store) ∧
      ∀ id o, s.validation.outcome id = some o → s'.validation.outcome id = some o := by
  unfold PollCall.step at h
  split at h
  case h_1 =>
    split at h
    · cases h
      exact ⟨rfl, trivial, .inl rfl, fun _ _ ho => ho⟩
    · rename_i b hb
      cases h
      refine ⟨rfl, ?_, .inl rfl, fun _ _ ho => ho⟩
      have hchecked := (require_binding_ok hb).2
      split
      · exact hchecked
      · rename_i hopen
        exact ⟨hchecked, hopen⟩
  case h_2 =>
    split at h
    all_goals
      cases h
      exact ⟨rfl, trivial, .inl rfl, fun _ _ ho => ho⟩
  case h_3 b hstage =>
    rw [hstage] at hc
    split at h
    · cases h
      exact ⟨rfl, trivial, .inl rfl, fun _ _ ho => ho⟩
    · rename_i response _
      cases h
      exact ⟨rfl, sound_polled hc response, .inl rfl, fun _ _ ho => ho⟩
  case h_4 b hstage =>
    rw [hstage] at hc
    split at h
    · cases h
      exact ⟨rfl, hc, .inl rfl, fun _ _ ho => ho⟩
    · cases h
      exact ⟨rfl, trivial, .inl rfl, fun _ _ ho => ho⟩
  case h_5 b response hstage =>
    rw [hstage] at hc
    split at h
    · cases h
      exact ⟨rfl, trivial, .inl rfl, fun _ _ ho => ho⟩
    · rename_i history _
      cases h
      exact ⟨rfl, sound_read hc response history, .inl rfl, fun _ _ ho => ho⟩
  case h_6 b payload hstage =>
    rw [hstage] at hc
    split at h
    · cases h
      exact ⟨rfl, trivial, .inl rfl, fun _ _ ho => ho⟩
    · cases h
      exact ⟨rfl, hc, .inl rfl, fun _ _ ho => ho⟩
  case h_7 b o hstage =>
    rw [hstage] at hc
    split at h
    · cases h
      exact ⟨rfl, trivial, .inl rfl, fun _ _ ho => ho⟩
    · rename_i outcomes hput
      cases h
      exact ⟨rfl, hc, .inl rfl, fun _ _ ho => ValidationState.put_keeps hput ho⟩
  case h_8 =>
    split at h
    · cases h
      exact ⟨rfl, trivial, .inl rfl, fun _ _ ho => ho⟩
    · rename_i b hb
      cases h
      exact ⟨rfl, (require_binding_ok hb).2, .inl rfl, fun _ _ ho => ho⟩
  case h_9 b hstage =>
    rw [hstage] at hc
    split at h
    · split at h
      · cases h
        exact ⟨rfl, hc, .inl rfl, fun _ _ ho => ho⟩
      · cases h
        exact ⟨rfl, trivial, .inl rfl, fun _ _ ho => ho⟩
    · split at h
      · cases h
        exact ⟨rfl, hc, .inl rfl, fun _ _ ho => ho⟩
      · cases h
        exact ⟨rfl, trivial, .inl rfl, fun _ _ ho => ho⟩
    · cases h
      exact ⟨rfl, trivial, .inl rfl, fun _ _ ho => ho⟩
  case h_10 b status result hstage =>
    split at h
    · cases h
      exact ⟨rfl, trivial, .inl rfl, fun _ _ ho => ho⟩
    · rename_i store hput
      cases h
      exact ⟨rfl, trivial, .inr ⟨b, status, result, hstage, hput⟩, fun _ _ ho => ho⟩
  case h_11 => cases h

theorem put_checked {store : RunBindingStore} (hs : s.Sound) (hb : Checked b)
    (h : s.store.put b = .ok store) : ∀ id q, store.get id = some q → Checked q := by
  intro id q hq
  rw [RunBindingStore.get_put h] at hq
  split at hq
  · cases hq
    exact hb
  · exact hs.bindings id q hq

theorem toOption_eq_some {α : Type} {x : Except AdapterError α} {y : α} (h : x.toOption = some y) :
    x = .ok y := by
  cases x with
  | error e => cases h
  | ok z => rw [Option.some.inj h]

theorem sound_step (hs : s.Sound) (h : step a s l = some s') : s'.Sound := by
  cases l with
  | wait id =>
    cases h
    refine ⟨hs.bindings, fun c hc => ?_⟩
    rcases List.mem_append.mp hc with hc | hc
    · exact hs.calls c hc
    · rw [List.mem_singleton.mp hc]
      trivial
  | cancel id =>
    cases h
    refine ⟨hs.bindings, fun c hc => ?_⟩
    rcases List.mem_append.mp hc with hc | hc
    · exact hs.calls c hc
    · rw [List.mem_singleton.mp hc]
      trivial
  | advance i reply =>
    obtain ⟨c, hc, h⟩ := Option.bind_eq_some_iff.mp h
    obtain ⟨⟨t, stage⟩, hstep, h⟩ := Option.bind_eq_some_iff.mp h
    cases h
    have hcall := hs.calls c (List.mem_of_getElem? hc)
    obtain ⟨hcalls, hstage, hstore, -⟩ := call_sound hcall hstep
    refine ⟨?_, fun d hd => ?_⟩
    · rcases hstore with hstore | ⟨b, status, result, hwrite, hput⟩
      · exact fun id b hb => hs.bindings id b (hstore ▸ hb)
      · rw [hwrite] at hcall
        have hb : Checked b := by
          cases result with
          | outcome o => exact hcall.1
          | binding q => exact hcall
        exact put_checked (b := { b with status := status }) hs hb hput
    · rcases List.mem_or_eq_of_mem_set hd with hd | rfl
      · exact hs.calls d (hcalls ▸ hd)
      · exact hstage
  | context id context =>
    obtain ⟨contexts, -, h⟩ := Option.bind_eq_some_iff.mp h
    cases h
    exact ⟨hs.bindings, hs.calls⟩
  | prepare p =>
    obtain ⟨store, hput, h⟩ := Option.bind_eq_some_iff.mp h
    cases h
    refine ⟨fun id b hb => hs.bindings id b ?_, hs.calls⟩
    change store.get id = some b at hb
    rwa [RunBindingStore.get, (RunBindingStore.get_put_preparation (toOption_eq_some hput) id).2] at hb
  | bind b =>
    simp only [step] at h
    split at h
    · rename_i hbind
      obtain ⟨store, hput, h⟩ := Option.bind_eq_some_iff.mp h
      cases h
      exact ⟨put_checked hs hbind.1 (toOption_eq_some hput), hs.calls⟩
    · cases h

theorem inductive_sound (G : Polls → PollLabel → Prop) : (polls a).InductiveIf G Sound where
  init s hs := by
    obtain ⟨hstore, -, hcalls⟩ := hs
    refine ⟨fun id b hb => ?_, ?_⟩
    · rw [hstore] at hb
      cases hb
    · simp [hcalls]
  step s l s' hs _ h := sound_step hs h

/-! ## Runs in which no write comes too late -/

/-- A write finds the binding that the call has read, and `cancel` has not read one of a run that is
over. -/
def Current (s : Polls) (l : PollLabel) : Prop :=
  ∀ i reply c b status result, l = .advance i reply → s.calls[i]? = some c →
    c.stage = .write b status result → s.store.get c.core_run_id = some b ∧
      ∀ q, result = .binding q → b.status ∉ CoreRunStatus.terminal

/-- The bindings of runs that are over stay, and so do the saved outcomes. -/
structure Settled (s s' : Polls) : Prop where
  bindings : ∀ id b, s.store.get id = some b → b.status ∈ CoreRunStatus.terminal →
    s'.store.get id = some b
  outcomes : ∀ id o, s.validation.outcome id = some o → s'.validation.outcome id = some o

theorem Settled.refl (s : Polls) : Settled s s := ⟨fun _ _ h _ => h, fun _ _ h => h⟩

theorem Settled.trans {s₁ s₂ s₃ : Polls} (h : Settled s₁ s₂) (h' : Settled s₂ s₃) : Settled s₁ s₃ where
  bindings id b hb hover := h'.bindings id b (h.bindings id b hb hover) hover
  outcomes id o ho := h'.outcomes id o (h.outcomes id o ho)

/-- A write of a call that is current is not one over a run that is over. -/
theorem write_settles {store : RunBindingStore} {status : CoreRunStatus}
    (hopen : b.status ∉ CoreRunStatus.terminal) {id : String} (hget : s.store.get id = some b)
    (hput : s.store.put { b with status := status } = .ok store) {q : RunBinding} {id' : String}
    (hq : s.store.get id' = some q) (hover : q.status ∈ CoreRunStatus.terminal) :
    store.get id' = some q := by
  rw [RunBindingStore.get_put hput, if_neg, hq]
  rintro rfl
  obtain ⟨-, hid⟩ := Table.find_some hget
  rw [← hid] at hget
  obtain rfl : b = q := Option.some.inj (hget.symm.trans hq)
  exact hopen hover

theorem settled_step (hs : s.Sound) (hg : Current s l) (h : step a s l = some s') : Settled s s' := by
  cases l with
  | wait id =>
    cases h
    exact ⟨fun _ _ h _ => h, fun _ _ h => h⟩
  | cancel id =>
    cases h
    exact ⟨fun _ _ h _ => h, fun _ _ h => h⟩
  | advance i reply =>
    obtain ⟨c, hc, h⟩ := Option.bind_eq_some_iff.mp h
    obtain ⟨⟨t, stage⟩, hstep, h⟩ := Option.bind_eq_some_iff.mp h
    cases h
    have hcall := hs.calls c (List.mem_of_getElem? hc)
    obtain ⟨-, -, hstore, houtcomes⟩ := call_sound hcall hstep
    refine ⟨fun id q hq hover => ?_, houtcomes⟩
    show t.store.get id = some q
    rcases hstore with hstore | ⟨b, status, result, hwrite, hput⟩
    · rwa [hstore]
    · obtain ⟨hget, hcancel⟩ := hg i reply c b status result rfl hc hwrite
      have hopen : b.status ∉ CoreRunStatus.terminal := by
        cases result with
        | outcome o =>
          rw [hwrite] at hcall
          exact hcall.2
        | binding r => exact hcancel r rfl
      exact write_settles hopen hget hput hq hover
  | context id context =>
    obtain ⟨contexts, -, h⟩ := Option.bind_eq_some_iff.mp h
    cases h
    exact ⟨fun _ _ h _ => h, fun _ _ h => h⟩
  | prepare p =>
    obtain ⟨store, hput, h⟩ := Option.bind_eq_some_iff.mp h
    cases h
    refine ⟨fun id b hb _ => ?_, fun _ _ h => h⟩
    show store.get id = some b
    rwa [RunBindingStore.get, (RunBindingStore.get_put_preparation (toOption_eq_some hput) id).2]
  | bind b =>
    simp only [step] at h
    split at h
    · rename_i hbind
      obtain ⟨store, hput, h⟩ := Option.bind_eq_some_iff.mp h
      cases h
      refine ⟨fun id q hq _ => ?_, fun _ _ h => h⟩
      show store.get id = some q
      rw [RunBindingStore.get_put (toOption_eq_some hput), if_neg, hq]
      rintro rfl
      rw [hbind.2] at hq
      cases hq
    · cases h

/-! ## What later waits return -/

/-- The run is over with this outcome, and the calls of `wait` from the `n`th on return it. -/
structure Replays (n : Nat) (id : String) (b : RunBinding) (o : AdapterOutcome) (s : Polls) : Prop where
  binding : s.store.get id = some b
  outcome : s.validation.outcome id = some o
  length : n ≤ s.calls.length
  calls : ∀ i c, n ≤ i → s.calls[i]? = some c → c.core_run_id = id → c.cancels = false →
    c.stage = .wait ∨ c.stage = .saved b ∨ c.stage = .ended (.ok (.outcome o))

variable {n : Nat} {id : String} {o : AdapterOutcome}

/-- A call of `wait` that has read nothing but the end of its run goes on to return its outcome. -/
theorem replays_call (hs : s.Sound) (hr : Replays n id b o s) (hover : b.status ∈ CoreRunStatus.terminal)
    (hsame : o.status = b.status) (hid : c.core_run_id = id)
    (hc : c.stage = .wait ∨ c.stage = .saved b ∨ c.stage = .ended (.ok (.outcome o)))
    (h : c.step a reply s = some (s', stage)) :
    stage = .saved b ∨ stage = .ended (.ok (.outcome o)) := by
  rcases hc with hc | hc | hc
  · have hread : require_binding s.store c.core_run_id = .ok b := by
      have hchecked : check_binding b = .ok () := hs.bindings id b hr.binding
      rw [require_binding, hid, hr.binding]
      simp only [hchecked]
      rfl
    simp only [PollCall.step, hc, hread, if_pos hover] at h
    cases h
    exact .inl rfl
  · simp only [PollCall.step, hc, hid, hr.outcome, if_pos hsame] at h
    cases h
    exact .inr rfl
  · simp only [PollCall.step, hc] at h
    cases h

theorem getElem?_snoc {α : Type} {l : List α} {x y : α} {i : Nat} (h : (l ++ [x])[i]? = some y) :
    l[i]? = some y ∨ y = x := by
  rw [List.getElem?_append] at h
  split at h
  · exact .inl h
  · exact .inr (List.mem_singleton.mp (List.mem_of_getElem? h))

theorem getElem?_set_cases {α : Type} {l : List α} {x y : α} {i j : Nat}
    (h : (l.set i x)[j]? = some y) : l[j]? = some y ∨ i = j ∧ y = x := by
  rw [List.getElem?_set] at h
  split at h
  · rename_i hij
    split at h
    · exact .inr ⟨hij, (Option.some.inj h).symm⟩
    · cases h
  · exact .inl h

/-- A call that begins is one of `cancel`, or is about to read the binding. -/
theorem Replays.begin (hr : Replays n id b o s) {c : PollCall} (hc : c.cancels = true ∨ c.stage = .wait) :
    Replays n id b o { s with calls := s.calls ++ [c] } := by
  refine ⟨hr.binding, hr.outcome, ?_, fun i d hi hd hid hwait => ?_⟩
  · simpa using Nat.le_succ_of_le hr.length
  · rcases getElem?_snoc hd with hd | rfl
    · exact hr.calls i d hi hd hid hwait
    · rcases hc with hc | hc
      · rw [hc] at hwait
        cases hwait
      · exact .inl hc

theorem replays_step (hs : s.Sound) (hg : Current s l) (hover : b.status ∈ CoreRunStatus.terminal)
    (hsame : o.status = b.status) (hr : Replays n id b o s) (h : step a s l = some s') :
    Replays n id b o s' := by
  have hsettled := settled_step hs hg h
  have hbinding := hsettled.bindings id b hr.binding hover
  have houtcome := hsettled.outcomes id o hr.outcome
  have hsame_calls : s'.calls = s.calls → Replays n id b o s' := fun hcalls =>
    ⟨hbinding, houtcome, hcalls ▸ hr.length, hcalls ▸ hr.calls⟩
  cases l with
  | wait id' =>
    cases h
    exact hr.begin (.inr rfl)
  | cancel id' =>
    cases h
    exact hr.begin (.inl rfl)
  | advance i reply =>
    obtain ⟨c, hc, h⟩ := Option.bind_eq_some_iff.mp h
    obtain ⟨⟨t, stage⟩, hstep, h⟩ := Option.bind_eq_some_iff.mp h
    cases h
    obtain ⟨hcalls, -, -, -⟩ := call_sound (hs.calls c (List.mem_of_getElem? hc)) hstep
    refine ⟨hbinding, houtcome, ?_, fun j d hj hd hid hwait => ?_⟩
    · rw [at_stage, List.length_set, hcalls]
      exact hr.length
    · rw [at_stage, hcalls] at hd
      rcases getElem?_set_cases hd with hd | ⟨rfl, rfl⟩
      · exact hr.calls j d hj hd hid hwait
      · exact .inr (replays_call (c := c) hs hr hover hsame hid (hr.calls i c hj hc hid hwait) hstep)
  | context id' context =>
    obtain ⟨contexts, -, h⟩ := Option.bind_eq_some_iff.mp h
    cases h
    exact hsame_calls rfl
  | prepare p =>
    obtain ⟨store, hput, h⟩ := Option.bind_eq_some_iff.mp h
    cases h
    exact hsame_calls rfl
  | bind q =>
    simp only [step] at h
    split at h
    · obtain ⟨store, hput, h⟩ := Option.bind_eq_some_iff.mp h
      cases h
      exact hsame_calls rfl
    · cases h

/-- What runs with current writes keep, and what the waits that begin after `w` return. -/
theorem settled_run {as : List PollLabel} (hs : w.Sound) (run : (polls a).Steps Current w as w') :
    Settled w w' ∧ ∀ n id b o, b.status ∈ CoreRunStatus.terminal → o.status = b.status →
      Replays n id b o w → Replays n id b o w' := by
  induction run with
  | refl s => exact ⟨.refl s, fun _ _ _ _ _ _ hr => hr⟩
  | cons hg h _ ih =>
    obtain ⟨hsettled, hreplays⟩ := ih (sound_step hs h)
    refine ⟨(settled_step hs hg h).trans hsettled, fun n id b o hover hsame hr => ?_⟩
    exact hreplays n id b o hover hsame (replays_step hs hg hover hsame hr h)

end Polls

open Polls

variable {a : Collector} {w w' : Polls}

/-- The status of a binding is monotone in runs in which each write finds the binding that it is based
on, and no cancellation is based on a binding of a run that is over: the binding of a run that is over
stays, its saved outcome stays, and if they agree each later `wait` returns the saved outcome. -/
theorem status_monotone (h : (polls a).Reachable w) {as : List PollLabel}
    (run : (polls a).Steps Current w as w') {id : String} {b : RunBinding}
    (hb : w.store.get id = some b) (hover : b.status ∈ CoreRunStatus.terminal) :
    w'.store.get id = some b ∧
    ∀ o, w.validation.outcome id = some o → o.status = b.status →
      w'.validation.outcome id = some o ∧
      ∀ i c out, w.calls.length ≤ i → w'.calls[i]? = some c → c.core_run_id = id →
        c.cancels = false → c.stage = .ended out → out = .ok (.outcome o) := by
  have hs := (inductive_sound _).reachable h
  obtain ⟨hsettled, hreplays⟩ := settled_run hs run
  refine ⟨hsettled.bindings id b hb hover, fun o ho hsame => ⟨hsettled.outcomes id o ho, ?_⟩⟩
  intro i c out hi hc hid hwait hout
  have hr : Replays w.calls.length id b o w := by
    refine ⟨hb, ho, le_rfl, fun j d hj hd => ?_⟩
    have := (List.getElem?_eq_some_iff.mp hd).1
    omega
  rcases (hreplays _ _ _ _ hover hsame hr).calls i c hi hc hid hwait with hstage | hstage | hstage
  · rw [hstage] at hout
    cases hout
  · rw [hstage] at hout
    cases hout
  · rw [hstage] at hout
    cases hout
    rfl

namespace Sample

def gateway : Collector where
  repr := fun _ => ""
  lower := id
  status_words := fun _ => "completed"
  path_exists := fun _ => .ok true
  evidence := fun _ _ => .ok none
  scope := fun _ _ => .ok none
  result_recovery_agent_ids := []

def running : RunBinding := ⟨"core-1", "run-1", "agent", "agent:agent:1", none, "key", .RUNNING⟩

/-- The response to `agent.wait`. -/
def answers (status : String) : PollReply :=
  ⟨some (Dict.empty.set "status" (.str status)), none, .failed⟩

/-- The run is aborted, or is over already. -/
def no_run : PollReply := ⟨none, none, .rejected (some "NO_ACTIVE_RUN")⟩

/-- The session has an answer without a result. -/
def told : PollReply := ⟨none, some (history [answered]), .failed⟩

def from_start (as : List PollLabel) : Polls := (polls gateway).after ⟨.empty, .empty, []⟩ as

/-- `agent.wait` is out while the run is cancelled. -/
def cancelled : List PollLabel :=
  [.bind running, .wait "core-1", .advance 0 (answers ""), .cancel "core-1", .advance 1 no_run,
    .advance 1 no_run, .advance 1 no_run]

/-- The response comes: the run was still active. -/
def revived : List PollLabel := [.advance 0 (answers "pending"), .advance 0 (answers "pending")]

/-- The abort is out while the run ends. -/
def failed : List PollLabel :=
  [.prepare (noted none true), .bind running, .cancel "core-1", .advance 0 no_run, .wait "core-1",
    .advance 1 (answers ""), .advance 1 (answers "ok"), .advance 1 told, .advance 1 told, .advance 1 told]

/-- The response comes: there is no such run. -/
def overwritten : List PollLabel := [.advance 0 no_run, .advance 0 no_run]

def status_of (w : Polls) : Option CoreRunStatus := (w.store.get "core-1").map RunBinding.status

def about_to_write (w : Polls) (i : Nat) : Bool :=
  match w.calls[i]?.map PollCall.stage with
  | some (.write _ _ _) => true
  | _ => false

theorem current_of_not_writing {w : Polls} {i : Nat} {reply : PollReply}
    (h : about_to_write w i = false) : Current w (.advance i reply) := by
  rintro _ _ c b status result ⟨⟩ hc hstage
  simp [about_to_write, hc, hstage] at h

/-- The run has ended, and is waited for once more. -/
def asked_again : List PollLabel := [.wait "core-1", .advance 2 no_run, .advance 2 no_run]

end Sample

open Sample in
/-- A slow `wait` writes RUNNING over CANCELLED, and a late cancellation writes CANCELLED over a FAIL
whose outcome is saved. -/
theorem status_lost :
    ((polls gateway).Reachable (from_start cancelled) ∧
      (polls gateway).Steps (fun _ _ => True) (from_start cancelled) revived
        (from_start (cancelled ++ revived)) ∧
      status_of (from_start cancelled) = some .CANCELLED ∧
      status_of (from_start (cancelled ++ revived)) = some .RUNNING) ∧
    (polls gateway).Reachable (from_start failed) ∧
      (polls gateway).Steps (fun _ _ => True) (from_start failed) overwritten
        (from_start (failed ++ overwritten)) ∧
      status_of (from_start failed) = some .FAIL ∧
      ((from_start failed).validation.outcome "core-1").map AdapterOutcome.status = some .FAIL ∧
      status_of (from_start (failed ++ overwritten)) = some .CANCELLED := by
  have hinit : (polls gateway).init ⟨.empty, .empty, []⟩ := ⟨rfl, rfl, rfl⟩
  refine ⟨⟨Machine.reachable_after hinit _, Machine.steps_after ?_, ?_, ?_⟩,
    Machine.reachable_after hinit _, Machine.steps_after ?_, ?_, ?_, ?_⟩
  all_goals decide +kernel

open Sample in
/-- A `wait` for the failed run returns what was saved. -/
theorem status_monotone_sample : ∃ b o, (from_start failed).store.get "core-1" = some b ∧
    (from_start failed).validation.outcome "core-1" = some o ∧
    (from_start (failed ++ asked_again)).store.get "core-1" = some b ∧
    ((from_start (failed ++ asked_again)).validation.outcome "core-1" = some o ∧
      ∀ i c out, 2 ≤ i → (from_start (failed ++ asked_again)).calls[i]? = some c →
        c.core_run_id = "core-1" → c.cancels = false → c.stage = .ended out →
        out = .ok (.outcome o)) := by
  have hinit : (polls gateway).init ⟨.empty, .empty, []⟩ := ⟨rfl, rfl, rfl⟩
  have hrun : (polls gateway).Steps Current (from_start failed) asked_again
      (from_start (failed ++ asked_again)) := by
    have begun : (polls gateway).step (from_start failed) (.wait "core-1") =
        some (from_start (failed ++ asked_again.take 1)) := Machine.step_after (by decide +kernel)
    have read : (polls gateway).step (from_start (failed ++ asked_again.take 1)) (.advance 2 no_run) =
        some (from_start (failed ++ asked_again.take 2)) := Machine.step_after (by decide +kernel)
    have returned : (polls gateway).step (from_start (failed ++ asked_again.take 2))
        (.advance 2 no_run) = some (from_start (failed ++ asked_again)) :=
      Machine.step_after (by decide +kernel)
    refine .cons ?_ begun (.cons ?_ read (.single ?_ returned))
    · rintro _ _ _ _ _ _ ⟨⟩
    · exact current_of_not_writing (by decide +kernel)
    · exact current_of_not_writing (by decide +kernel)
  have hbinding : ((from_start failed).store.get "core-1") = some { running with status := .FAIL } := by
    decide +kernel
  have hcalls : (from_start failed).calls.length = 2 := by decide +kernel
  have houtcome : ((from_start failed).validation.outcome "core-1").map AdapterOutcome.status =
      some .FAIL := by decide +kernel
  obtain ⟨o, ho, hstatus⟩ := Option.map_eq_some_iff.mp houtcome
  obtain ⟨hkept, hall⟩ := status_monotone (Machine.reachable_after hinit _) hrun hbinding (by decide)
  exact ⟨_, o, hbinding, ho, hkept, hcalls ▸ hall o ho hstatus⟩

end OpenClawAdapter

end Plachem
