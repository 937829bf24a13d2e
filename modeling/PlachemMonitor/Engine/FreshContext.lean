import PlachemMonitor.Engine.Progress
import PlachemMonitor.Engine.Submits

/-!
# Fresh contexts

`CoreEngine.fresh_context`: the worker of a run that drifts is stopped, the run is ended, and a child of
the run is dispatched for the same goal. The checks of the dispatch come after the end of the run: the
call leaves a run that it gives no child as it was, and a child inherits all of its run, exactly where
`Sound` says (`fresh_context_iff`).

The timer of the child is left out, as in `dispatch`.
-/

namespace Plachem

namespace CoreEngine

open Effect
open AuthBroker
open RegistryFile (safeText)
open RunRegistry (last SafeRecord SafeDict SafeGoal)

/-- `max_context_resets` of all profiles; their `context_policy` is `FRESH_ON_LOOP`. -/
def max_context_resets : Int := 1

/-- What a call is told. -/
structure ContextEnv where
  observe : ObserveEnv
  /-- The worker stops by a call of `adapter.cancel` that raises. -/
  stopped : Bool
  /-- `uuid.uuid4().hex[:8]` -/
  child : String
  /-- `uuid.uuid4().hex` -/
  session : String
  /-- The timeout of the run is a positive number; `none` if `float` raises. -/
  timeout_positive : Option Bool
  dispatch : DispatchEnv
  safe_child : safeText child = true
  safe_rejection : ∀ reason, dispatch.submitted = .rejected reason → safeText reason = true

/-- The state of an engine, with the part that the observation of runs changes. -/
structure ContextState (ρ : Type) where
  core : Core
  auth : AuthWorld
  resolver : ρ
  sent : List Submission

inductive ContextError where
  | observe (error : ObserveError)
  | dispatch (error : DispatchError)

abbrev ContextAct (ρ α : Type) := Effect ContextError (ContextState ρ) α

variable {ρ : Type}

/-- A statement that dispatches nothing. -/
def on_core {α : Type} (x : Act α) : ContextAct ρ α := fun s =>
  match x s.core with
  | .ok a core => .ok a { s with core := core }
  | .error e core => .error (.observe e) { s with core := core }

/-- The state as a dispatch sees it. -/
def ContextState.engine (s : ContextState ρ) : EngineState ρ :=
  ⟨s.core.log, s.auth, s.resolver, s.sent⟩

/-- The state after a dispatch. -/
def ContextState.after (s : ContextState ρ) (t : EngineState ρ) : ContextState ρ :=
  ⟨{ s.core with log := t.log }, t.auth, t.resolver, t.sent⟩

/-- What a dispatch is told; the clock is that of the call. -/
def ContextEnv.dispatch_env (env : ContextEnv) (log : Log) : DispatchEnv :=
  { env.dispatch with
    created_now := env.observe.now log.length
    decided_now := env.observe.now (log.length + 1) }

/-- `self._dispatch` -/
def dispatched (engine : Engine ρ) (env : ContextEnv) (args : DispatchArgs) :
    ContextAct ρ RunRecord := fun s =>
  match dispatch engine (env.dispatch_env s.core.log) args s.engine with
  | (t, .ok child) => .ok child (s.after t)
  | (t, .error e) => .error (.dispatch e) (s.after t)

/-! ## The message of the child -/

/-- `sorted(set(conditions) - set(completed))` -/
def remaining_conditions (conditions completed : List String) : List String :=
  (conditions.filter (· ∉ completed)).dedup.insertionSort (· ≤ ·)

def execution_package (source : RunRecord) (completed : List String) : Dict :=
  let contract := source.goal_contract
  Dict.ofList [
    ("goal_contract", .ofDict contract.as_dict),
    ("verified_progress", .ofDict source.verified_progress),
    ("needed_artifacts", .ofDict (Dict.ofList [
      ("expected_result", .str contract.expected_result),
      ("instruction", .str "Supply only artifacts actually produced for the original goal.")]
      (by simp))),
    ("needed_evidence", .ofDict (Dict.ofList [
      ("completion_conditions",
        .strs (remaining_conditions contract.completion_conditions completed)),
      ("instruction",
        .str "Supply only evidence actually established while executing the original goal.")]
      (by simp)))] (by simp)

def result_field_contract : Dict :=
  Dict.ofList [
    ("status", .str ("required string: use completed only when the actual goal work completed; " ++
      "otherwise use failed or blocked")),
    ("summary", .str "required non-empty string: concise actual outcome"),
    ("evidence", .str ("required non-empty array: one or more actual verifiable evidence objects, " ++
      "each with string fields type and detail. For text-only work with no actions, use exactly an " ++
      "observed runtime fact such as \x7b\"type\":\"runtime_observation\",\"detail\":\"Structured " ++
      "assistant result returned successfully\"\x7d. Never claim a tool call, file read or write, " ++
      "memory operation, artifact, database action, Git action, or deployment unless that action " ++
      "actually occurred in this run")),
    ("artifacts", .str ("required array of outputs newly produced by this run: use [] when none " ++
      "exist; every item must be an object with a string path. An existing path inspected by a " ++
      "read-only task is evidence, not an artifact")),
    ("scope", .ofDict (Dict.ofList [
      ("compliant", .str "required boolean: true"),
      ("violations", .str "required array: []")] (by simp))),
    ("progress_checkpoint", .ofDict (Dict.ofList [
      ("goal_id", .str "string: must equal goal_contract.goal_id"),
      ("current_step", .str "string: actual current execution step code"),
      ("completed_conditions", .str "array: only conditions actually verified"),
      ("remaining_conditions", .str "array: conditions not yet verified"),
      ("blocking_reason", .str "string: actual blocker code, or NONE when absent"),
      ("artifact_delta", .str "array: newly verified artifact codes"),
      ("scope_delta", .str "array: scopes actually used"),
      ("evidence_delta", .str "array: newly verified evidence codes")] (by simp)))] (by simp [-String.reduceAppend])

/-- The message that the child executes. -/
def child_message (source : RunRecord) (completed : List String) : String :=
  "Execute the immutable original goal from this verified execution package: " ++
    String.ofList ((execution_package source completed).dumps true) ++
    " Do not replace the objective or extend its allowed scope. Perform the goal work before " ++
    "reporting its outcome. The final assistant response must be exactly one raw JSON object. " ++
    "Do not use Markdown code fences and do not add prose before or after the JSON object. " ++
    "The top-level fields status, summary, evidence, artifacts, and scope are mandatory. " ++
    "Use this output field contract; populate every value from the actual result and never claim a " ++
    "condition, artifact, or evidence that was not verified: " ++
    String.ofList (result_field_contract.dumps true)

/-! ## The call -/

variable (engine : Engine ρ) (env : ContextEnv) (id : String)

def child_id (context_reset_count : Int) : String :=
  id ++ "-ctx-" ++ String.ofList (Json.intText (context_reset_count + 1)) ++ "-" ++ env.child

def child_key (source : RunRecord) : String :=
  source.idempotency_key ++ ":ctx:" ++
    String.ofList (Json.intText (source.context_reset_count + 1))

def child_session_key (source : RunRecord) : String :=
  "agent:" ++ source.agent_id ++ ":fast-gateway-" ++ env.session

/-- `source.get("task_class")`; what is no text is as unknown as the empty one. -/
def task_class_of (source : RunRecord) : String :=
  match source.policy.task_class.json with
  | .str task_class => task_class
  | _ => ""

/-- The task class that the policy of the child is looked up for. -/
def child_policy (source : RunRecord) : String :=
  let actual_id := child_id env id source.context_reset_count
  if war_run actual_id && owned engine actual_id then "WAR_ROOM" else task_class_of source

/-- The arguments that `_dispatch` gets. -/
def child_args (source : RunRecord) (completed : List String) (timeout_positive : Bool) :
    DispatchArgs where
  agent_id := source.agent_id
  message := child_message source completed
  timeout_positive := timeout_positive
  core_run_id := some (child_id env id source.context_reset_count)
  idempotency_key := some (child_key source)
  goal_contract := some (goal_input source.goal_contract)
  session_key := some (child_session_key env source)
  parent_core_run_id := some id
  context_reset_count := source.context_reset_count + 1
  watchdog_managed := false
  auth_token := none
  action := "dispatch"
  workspace_id := "command-center"
  project_id := "fast-gateway"
  task_runtime_class := task_class_of source
  approved_paths := none

/-- The update of a run that has no context left. -/
def reset_failed (source : RunRecord) : GoalUpdate :=
  { GoalUpdate.none with
    event_code := some "ESCALATION_REQUIRED"
    goal_status := some "DRIFT"
    escalation_reason := some "CONTEXT_RESET_FAILED"
    escalation_package := some (escalation_package source "CONTEXT_RESET_FAILED") }

/-- The branch for a run that has no context left. -/
def block_source (source : RunRecord) : Act RunRecord := do
  discard <| update_goal_state env.observe id (reset_failed source)
  let binding ← cancel_worker env.observe id
  clear_runtime_deadline id
  transition env.observe id .BLOCKED binding none "ESCALATION_REQUIRED"

/-- `source_goal_state.get("openclaw_completed") is True` -/
def openclaw_completed (goal_state : Dict) : Bool :=
  decide (goal_state.get? "openclaw_completed" = some (.bool true))

/-- The stop of the worker; here nothing that `adapter.cancel` raises is caught. -/
def stop_worker (completed : Bool) : Act (Option RunBinding) :=
  if completed = true then pure none
  else do
    match ← cancel_worker env.observe id with
    | none => throw .adapter
    | some binding => pure (some binding)

/-- The end of a run that is replaced. -/
def end_source (completed : Bool) : Act RunRecord := do
  let binding ← stop_worker env id completed
  clear_runtime_deadline id
  transition env.observe id .CANCELLED binding none "FRESH_CONTEXT_RESET"

/-- The dispatch of the child, and the update of its goal state. -/
def start_child (source : RunRecord) (completed : List String) (goal_state : Dict) :
    ContextAct ρ RunRecord := do
  match env.timeout_positive with
  | none => throw (.observe .type)
  | some timeout_positive =>
    let child ← dispatched engine env (child_args env id source completed timeout_positive)
    match int_of (goal_state.get? "drift_count") with
    | .error e => throw (.observe e)
    | .ok drift_count =>
      on_core <| update_goal_state env.observe child.core_run_id { GoalUpdate.none with
        goal_state := some (Dict.empty.set "drift_count" (.int drift_count)) }

/-- The branch for a run that has a context left. -/
def replace_source (source : RunRecord) : ContextAct ρ RunRecord := do
  match texts_of (source.verified_progress.get? "completed_conditions") with
  | .error e => throw (.observe e)
  | .ok completed =>
    match goal_state_of source with
    | .error e => throw (.observe e)
    | .ok goal_state =>
      discard <| on_core (end_source env id (openclaw_completed goal_state))
      start_child engine env id source completed goal_state

/-- `fresh_context` -/
def fresh_context : ContextAct ρ RunRecord := do
  let source ← on_core (require id)
  if source.status ∈ CoreRunStatus.terminal then
    throw (.observe (.value "SOURCE_RUN_TERMINAL"))
  else if engine.auth_required = true ∨ engine.auth_broker.isSome then
    throw (.observe (.value "AUTH_REAUTHORIZATION_REQUIRED"))
  else if source.goal_reinjection_ready = false then
    throw (.observe (.value "FRESH_CONTEXT_NOT_READY"))
  else if max_context_resets ≤ source.context_reset_count then
    on_core (block_source env id source)
  else replace_source engine env id source

/-! ## All or nothing -/

/-- The worker of the run is stopped by the call. -/
def Stopped (s s' : ContextState ρ) : Prop :=
  s'.core.aborts ≠ s.core.aborts ∧
    (env.stopped = true ∨ ∃ binding, env.observe.abort = .confirmed binding)

/-- What a child has of its run. -/
structure Inherits (source child : RunRecord) : Prop where
  goal_contract : child.goal_contract = source.goal_contract
  agent_id : child.agent_id = source.agent_id
  approved_paths : child.approved_paths = source.approved_paths
  watchdog_managed : child.watchdog_managed = source.watchdog_managed
  context_reset_count : child.context_reset_count = source.context_reset_count + 1
  bounded : child.context_reset_count ≤ max_context_resets

/-- The run has ended for a fresh context. -/
def Replaced (id : String) (log : Log) : Prop :=
  ∃ r, last id log = some r ∧ r.status = .CANCELLED ∧ r.reason = "FRESH_CONTEXT_RESET"

/-- A call that raises leaves the run and its worker; one that returns a child has replaced the run. -/
def AllOrNothing (s : ContextState ρ) : ContextState ρ × Except ContextError RunRecord → Prop
  | (s', .error _) => last id s'.core.log = last id s.core.log ∧ ¬ Stopped env s s'
  | (s', .ok child) => child.core_run_id ≠ id → Replaced id s'.core.log ∧
      ∃ source, last id s.core.log = some source ∧ Inherits source child

/-- The child of a run can be dispatched and updated, with this contract. -/
structure Startable (source : RunRecord) (goal_state : Dict) (contract : GoalContract) (log : Log) :
    Prop where
  agent : engine.require source.agent_id = .ok ()
  timeout : env.timeout_positive = some true
  contract : engine.normalize_goal_contract (some (goal_input source.goal_contract)) = .ok contract
  policy : ∃ policy, engine.task_runtime_policy (child_policy engine env id source) = .ok policy
  key : ∀ q ∈ log, q.idempotency_key ≠ child_key source
  submitted : env.dispatch.submitted ≠ .raised
  bound : ∀ binding, env.dispatch.submitted = .accepted binding →
    binding.session_key = child_session_key env source → SafeDict binding.recorded.toDict
  drift_count : ∃ count, int_of (goal_state.get? "drift_count") = .ok count

/-- The child can be dispatched, and inherits all of its run. -/
structure Inheritable (source : RunRecord) (goal_state : Dict) (log : Log) : Prop where
  startable : Startable engine env id source goal_state source.goal_contract log
  approved_paths : source.approved_paths = []
  watchdog_managed : source.watchdog_managed = false

/-- What the call needs of a run that has a context left. -/
def Replaceable (source : RunRecord) (goal_state : Dict) (log : Log) : Prop :=
  if openclaw_completed goal_state = true then Inheritable engine env id source goal_state log
  else
    match env.observe.abort with
    | .confirmed binding => SafeDict binding.recorded.toDict ∧
        Inheritable engine env id source goal_state log
    | .failed | .raised => env.stopped = false

/-- Of a run that a child can be asked for, all that the call asks later succeeds. -/
def Sound (s : ContextState ρ) : Prop :=
  ∀ source, RunRegistry.require s.core.log id = .ok source →
    source.status ∉ CoreRunStatus.terminal → engine.auth_required = false →
    engine.auth_broker = none → source.goal_reinjection_ready = true →
    (max_context_resets ≤ source.context_reset_count → env.observe.abort ≠ .raised) ∧
    (source.context_reset_count < max_context_resets →
      ∀ completed goal_state,
        texts_of (source.verified_progress.get? "completed_conditions") = .ok completed →
        goal_state_of source = .ok goal_state →
        Replaceable engine env id source goal_state s.core.log)

/-! ## The statements of the call -/

section Statements

variable {engine env id} {s : ContextState ρ}

theorem eval_on_core {α : Type} (x : Act α) (s : ContextState ρ) :
    eval (on_core x) s =
      ({ s with core := (eval x s.core).1 }, (eval x s.core).2.mapError ContextError.observe) := by
  unfold eval on_core
  cases x s.core with
  | ok a core => rfl
  | error e core => rfl

theorem on_core_ok {α : Type} {x : Act α} {core : Core} {a : α} (h : eval x s.core = (core, .ok a)) :
    eval (on_core x) s = ({ s with core := core }, .ok a) := by
  rw [eval_on_core, h]
  rfl

theorem on_core_error {α : Type} {x : Act α} {core : Core} {e : ObserveError}
    (h : eval x s.core = (core, .error e)) :
    eval (on_core x) s = ({ s with core := core }, .error (.observe e)) := by
  rw [eval_on_core, h]
  rfl

/-- A statement on the registry that returned. -/
theorem of_on_core_ok {α : Type} {x : Act α} {t : ContextState ρ} {a : α}
    (h : eval (on_core x) s = (t, .ok a)) :
    eval x s.core = (t.core, .ok a) := by
  rw [eval_on_core] at h
  obtain ⟨ht, ha⟩ := Prod.mk.inj h
  cases hx : eval x s.core with
  | mk core out =>
    rw [hx] at ht ha
    cases out with
    | error e => cases ha
    | ok b =>
      obtain rfl := Except.ok.inj ha
      rw [← ht]

theorem eval_dispatched (args : DispatchArgs) (s : ContextState ρ) :
    eval (dispatched engine env args) s =
      (s.after (dispatch engine (env.dispatch_env s.core.log) args s.engine).1,
        (dispatch engine (env.dispatch_env s.core.log) args s.engine).2.mapError
          ContextError.dispatch) := by
  unfold eval dispatched
  cases h : dispatch engine (env.dispatch_env s.core.log) args s.engine with
  | mk t out =>
    cases out with
    | ok child => rfl
    | error e => rfl

theorem dispatched_ok {args : DispatchArgs} {t : EngineState ρ} {child : RunRecord}
    (h : dispatch engine (env.dispatch_env s.core.log) args s.engine = (t, .ok child)) :
    eval (dispatched engine env args) s = (s.after t, .ok child) := by
  rw [eval_dispatched, h]
  rfl

/-- A dispatch that returned. -/
theorem of_dispatched_ok {args : DispatchArgs} {t : ContextState ρ} {child : RunRecord}
    (h : eval (dispatched engine env args) s = (t, .ok child)) :
    ∃ u, dispatch engine (env.dispatch_env s.core.log) args s.engine = (u, .ok child) ∧
      t = s.after u := by
  rw [eval_dispatched] at h
  obtain ⟨ht, hchild⟩ := Prod.mk.inj h
  cases hd : dispatch engine (env.dispatch_env s.core.log) args s.engine with
  | mk u out =>
    rw [hd] at ht hchild
    cases out with
    | error e => cases hchild
    | ok child' =>
      obtain rfl := Except.ok.inj hchild
      exact ⟨u, rfl, ht.symm⟩

/-! ### The end of the run -/

theorem replaced_run {log : Log} (m : Mutation) (h : Replaced id log) : Replaced id (m.run log) := by
  obtain ⟨r, hlast, hstatus, hreason⟩ := h
  obtain ⟨r', hlast', hcases⟩ := RunRegistry.last_run m hlast
  refine ⟨r', hlast', ?_⟩
  rcases hcases with ⟨-, hending⟩ | htransition | ⟨hreconciles, -⟩
  · exact ⟨(congrArg RunRecord.Ending.status hending).trans hstatus,
      (congrArg RunRecord.Ending.reason hending).trans hreason⟩
  · rw [hstatus] at htransition
    cases htransition
  · exact absurd (hstatus.symm.trans hreconciles.1) (by decide)

/-- A run that was going on is another one when it is replaced. -/
theorem Replaced.ne {log log' : Log} {r : RunRecord} (h : Replaced id log')
    (hlast : last id log = some r) (hlive : r.status ∉ CoreRunStatus.terminal) :
    last id log' ≠ last id log := by
  obtain ⟨r', hlast', hstatus, -⟩ := h
  rw [hlast, hlast']
  rintro ⟨⟩
  rw [hstatus] at hlive
  exact hlive (by decide)

variable (id) in
/-- The worker is asked in vain. -/
theorem end_source_raises (core : Core) (habort : ∀ binding, env.observe.abort ≠ .confirmed binding) :
    eval (end_source env id false) core =
      ({ core with aborts := core.aborts ++ [id] }, .error .adapter) := by
  have hasks := eval_cancel_worker env.observe id core
  have hstop : eval (stop_worker env id false) core =
      ({ core with aborts := core.aborts ++ [id] }, .error .adapter) := by
    unfold stop_worker
    rw [if_neg (by decide)]
    cases habort' : env.observe.abort with
    | confirmed binding => exact absurd habort' (habort binding)
    | failed =>
      rw [habort'] at hasks
      exact eval_bind_ok hasks
    | raised =>
      rw [habort'] at hasks
      exact eval_bind_error hasks
  exact eval_bind_error hstop

/-- The binding that the run ends with, if its worker has stopped or is stopped. -/
inductive Stops (env : ContextEnv) : Bool → Option RunBinding → Prop
  | completed : Stops env true none
  | confirmed {binding : RunBinding} (h : env.observe.abort = .confirmed binding) :
      Stops env false (some binding)

theorem live_ends {status : CoreRunStatus} (h : status ∉ CoreRunStatus.terminal) :
    .CANCELLED ∈ status.transitions ∧ .BLOCKED ∈ status.transitions := by
  cases status <;> first | exact absurd (by decide) h | decide

/-- The run ends. -/
theorem end_source_ends {core : Core} {r : RunRecord} (h : Stands id r core)
    (hlive : r.status ∉ CoreRunStatus.terminal) {completed : Bool} {binding : Option RunBinding}
    (hstops : Stops env completed binding) :
    ∃ core', eval (end_source env id completed) core =
        (core', .ok (r.transitioned .CANCELLED binding none "FRESH_CONTEXT_RESET"
          (env.observe.now core.log.length))) ∧
      core'.log = core.log ++ [r.transitioned .CANCELLED binding none "FRESH_CONTEXT_RESET"
        (env.observe.now core.log.length)] := by
  have hne : .CANCELLED ≠ r.status := by
    intro hcancelled
    rw [← hcancelled] at hlive
    exact hlive (by decide)
  have hends : ∀ core₁ : Core, core₁.log = core.log →
      eval (stop_worker env id completed) core = (core₁, .ok binding) →
      ∃ core', eval (end_source env id completed) core =
          (core', .ok (r.transitioned .CANCELLED binding none "FRESH_CONTEXT_RESET"
            (env.observe.now core.log.length))) ∧
        core'.log = core.log ++ [r.transitioned .CANCELLED binding none "FRESH_CONTEXT_RESET"
          (env.observe.now core.log.length)] := by
    intro core₁ hlog hstop
    have hcleared : Stands id r { core₁ with timers := core₁.timers.filter (· ≠ id) } :=
      h.congr hlog
    obtain ⟨r', heval, -, -, rfl⟩ := hcleared.transition (E := env.observe)
      (live_ends hlive).1 hne binding none "FRESH_CONTEXT_RESET"
    rw [← hlog]
    refine ⟨{ core₁ with
      timers := core₁.timers.filter (· ≠ id)
      log := core₁.log ++ [r.transitioned .CANCELLED binding none "FRESH_CONTEXT_RESET"
        (env.observe.now core₁.log.length)] }, ?_, rfl⟩
    exact (eval_bind_ok hstop).trans ((eval_bind_ok (eval_modify _ core₁)).trans heval)
  cases hstops with
  | completed => exact hends core rfl rfl
  | confirmed habort =>
    have hasks := eval_cancel_worker env.observe id core
    rw [habort] at hasks
    exact hends { core with aborts := core.aborts ++ [id] } rfl (eval_bind_ok hasks)

/-! ### The dispatch -/

/-- A statement of the child leaves the run replaced. -/
theorem keeps_replaced_update (id' : String) (args : GoalUpdate) :
    Keeps (fun s : ContextState ρ => Replaced id s.core.log)
      (on_core (update_goal_state env.observe id' args)) := by
  intro s hs
  have hkeeps : Keeps (fun core : Core => Replaced id core.log)
      (update_goal_state env.observe id' args) :=
    keeps_mutate (m := fun n => .update_goal_state id' args (env.observe.event_at n)
      (env.observe.now n)) (fun _ => rfl) fun core n hcore => replaced_run _ hcore
  rw [eval_on_core]
  exact hkeeps s.core hs

variable {denv : DispatchEnv} {args : DispatchArgs} {log : Log}

/-- Without a broker the registry is only changed by its mutators. -/
theorem dispatch_log_open (hauth : engine.auth_required = false)
    (hbroker : engine.auth_broker = none) {P : Log → Prop}
    (hrun : ∀ (log : Log) (m : Mutation), P log → P (m.run log)) (t : EngineState ρ)
    (hP : P t.log) : P (dispatch engine denv args t).1.log := by
  cases hd : dispatch engine denv args t with
  | mk t' out =>
    rcases dispatch_cases hd with ⟨rfl, -⟩ |
      ⟨approved, contract, policy, record, created, log, -, hcreate, ⟨rfl, -⟩ | ⟨-, hgate⟩⟩
    · exact hP
    · exact hP
    have hcreated : P log := by
      rw [← create_run hcreate]
      exact hrun _ _ hP
    unfold gate submit at hgate
    rw [hbroker, hauth] at hgate
    dsimp only at hgate
    rw [if_neg (by decide)] at hgate
    have hfinish : ∀ (u : EngineState ρ) id status binding reason now, u.log = log →
        finish u id status binding reason now = (t', out) → P t'.log := by
      intro u id status binding reason now hlog hfinish
      have hlog' := finish_log u id status binding reason now
      rw [hfinish, hlog] at hlog'
      rw [hlog']
      exact hrun _ _ hcreated
    split at hgate
    · cases hgate
      exact hcreated
    · exact hfinish _ _ _ _ _ _ rfl hgate
    · split at hgate
      · exact hfinish _ _ _ _ _ _ rfl hgate
      · exact hfinish _ _ _ _ _ _ rfl hgate

variable (env) in
/-- The run stays replaced, whatever becomes of the child. -/
theorem keeps_replaced (hauth : engine.auth_required = false) (hbroker : engine.auth_broker = none)
    (source : RunRecord) (completed : List String) (goal_state : Dict) :
    Keeps (fun s : ContextState ρ => Replaced id s.core.log)
      (start_child engine env id source completed goal_state) := by
  unfold start_child
  cases env.timeout_positive with
  | none => exact .throw _
  | some timeout_positive =>
    refine Keeps.bind (fun s hs => ?_) fun child => ?_
    · rw [eval_dispatched]
      exact dispatch_log_open hauth hbroker (fun log m => replaced_run m) s.engine hs
    · cases int_of (goal_state.get? "drift_count") with
      | error e => exact .throw _
      | ok count => exact keeps_replaced_update _ _

theorem filter_nonempty {t : String} (h : t ≠ "") : (some t).filter (· ≠ "") = some t := by
  rw [Option.filter_some, decide_eq_true h]
  rfl

theorem actual_id_child (source : RunRecord) (completed : List String) (positive : Bool)
    (uuid : String) :
    (child_args env id source completed positive).actual_id uuid =
      child_id env id source.context_reset_count := by
  have hne : child_id env id source.context_reset_count ≠ "" := by
    unfold child_id
    simp
  unfold DispatchArgs.actual_id child_args
  dsimp only
  rw [filter_nonempty hne]

variable (env id) in
theorem key_child (source : RunRecord) (completed : List String) (positive : Bool) (uuid : String) :
    (child_args env id source completed positive).key uuid = child_key source := by
  have hne : child_key source ≠ "" := by
    unfold child_key
    simp
  unfold DispatchArgs.key child_args
  dsimp only
  rw [filter_nonempty hne]

/-- The record that a child is created with. -/
def child_record (engine : Engine ρ) (env : ContextEnv) (id : String) (source : RunRecord)
    (completed : List String) (positive : Bool) (contract : GoalContract) (policy : Dict)
    (now : String) : RunRecord :=
  (createArgs engine (child_args env id source completed positive) env.dispatch.uuid [] contract
    policy).record (child_id env id source.context_reset_count) now

/-- The last statement of a dispatch returned. -/
theorem of_finish_ok {u t : EngineState ρ} {log : Log} {record child : RunRecord}
    {status : CoreRunStatus} {binding : Option RunBinding} {reason now : String}
    (hlog : u.log = log ++ [record]) (hqueued : record.status = .QUEUED)
    (h : finish u record.core_run_id status binding reason now = (t, .ok child))
    (hstatus : status ≠ .QUEUED) :
    child = record.transitioned status binding none reason now ∧
      t.log = log ++ [record, child] := by
  unfold finish at h
  split at h
  · rename_i r log' htransition
    obtain ⟨rfl, hchild⟩ := Prod.mk.inj h
    obtain rfl := Except.ok.inj hchild
    obtain ⟨old, hold, htransition⟩ := bind_eq_ok.mp htransition
    have hlast := RunRegistry.require_ok hold
    rw [hlog, RunRegistry.last_append_self] at hlast
    obtain rfl := Option.some.inj hlast
    split at htransition
    · rename_i hsame
      exact absurd (hsame.trans hqueued) hstatus
    split at htransition
    · cases htransition
    · obtain ⟨rfl, rfl⟩ := Prod.mk.inj (pure_eq_ok.mp htransition)
      rw [hlog]
      exact ⟨rfl, by simp⟩
  · cases h

/-- What a dispatch of a child has found, if it returned. -/
structure Dispatched (engine : Engine ρ) (env : ContextEnv) (id : String) (source : RunRecord)
    (completed : List String) (positive : Bool) (log log' : Log) (child : RunRecord) : Prop where
  readable : ∀ q ∈ log, RunRegistry.readable q = true
  agent : engine.require source.agent_id = .ok ()
  timeout : positive = true
  policy : ∃ policy, engine.task_runtime_policy (child_policy engine env id source) = .ok policy
  key : ∀ q ∈ log, q.idempotency_key ≠ child_key source
  submitted : env.dispatch.submitted ≠ .raised
  record : ∃ contract policy now, engine.normalize_goal_contract
      (some (goal_input source.goal_contract)) = .ok contract ∧
    child.identity = (child_record engine env id source completed positive contract policy
      now).identity
  log : ∃ record, log' = log ++ [record, child]
  bound : ∀ binding, env.dispatch.submitted = .accepted binding →
    binding.session_key = child_session_key env source →
    child.openclaw_binding = some binding.recorded

theorem checked_child {source : RunRecord} {completed : List String} {positive : Bool}
    {approved : List String} {contract : GoalContract} {policy : Dict}
    (h : checked engine denv (child_args env id source completed positive) =
      .ok (approved, contract, policy)) :
    engine.require source.agent_id = .ok () ∧ approved = [] ∧ positive = true ∧
      engine.normalize_goal_contract (some (goal_input source.goal_contract)) = .ok contract ∧
      engine.task_runtime_policy (child_policy engine env id source) = .ok policy := by
  obtain ⟨_, hagent, h⟩ := bind_eq_ok.mp h
  obtain ⟨_, happroved, h⟩ := bind_eq_ok.mp h
  split at h
  · cases h
  split at h
  · cases h
  rename_i hpositive
  obtain ⟨contract', hcontract, h⟩ := bind_eq_ok.mp h
  obtain ⟨policy', hpolicy, h⟩ := bind_eq_ok.mp h
  cases h
  refine ⟨hagent, (Except.ok.inj happroved).symm, ?_, hcontract, ?_⟩
  · exact (Bool.eq_false_or_eq_true positive).resolve_right hpositive
  · rw [actual_id_child] at hpolicy
    exact hpolicy

theorem createArgs_child (source : RunRecord) (completed : List String) (positive : Bool)
    (contract : GoalContract) (policy : Dict) (now : String) :
    ((createArgs engine (child_args env id source completed positive) denv.uuid [] contract
        policy).record ((createArgs engine (child_args env id source completed positive) denv.uuid []
        contract policy).actual_id "") now).core_run_id =
      child_id env id source.context_reset_count := by
  rw [actual_id_createArgs, actual_id_child]
  rfl

/-- A dispatch of a child that returns. -/
theorem dispatched_child (hauth : engine.auth_required = false) (hbroker : engine.auth_broker = none)
    {source : RunRecord} {completed : List String} {positive : Bool} {u t : EngineState ρ}
    {child : RunRecord} (hfresh : ∀ q ∈ u.log, q.core_run_id ≠ child_id env id source.context_reset_count)
    (h : dispatch engine (env.dispatch_env log) (child_args env id source completed positive) u =
      (t, .ok child)) :
    Dispatched engine env id source completed positive u.log t.log child := by
  rcases dispatch_cases h with ⟨-, e, he⟩ |
    ⟨approved, contract, policy, record, created, log', hchecked, hcreate, hends⟩
  · cases he
  obtain ⟨hagent, rfl, hpositive, hcontract, hpolicy⟩ := checked_child hchecked
  obtain ⟨hreadable, -⟩ := RunRegistry.create_last hcreate
  rcases RunRegistry.create_ok hcreate with ⟨-, -, hmem, hid, -⟩ | ⟨-, hlog, hrecord, -, hkey⟩
  · rw [actual_id_createArgs, actual_id_child] at hid
    exact absurd hid (hfresh record hmem)
  rcases hends with ⟨-, hsame⟩ | ⟨hqueued, hgate⟩
  · rw [hlog] at hsame
    exact absurd (congrArg List.length hsame) (by simp)
  have hid : record.core_run_id = child_id env id source.context_reset_count := by
    rw [hrecord]
    exact createArgs_child ..
  rw [actual_id_createArgs, actual_id_child] at hrecord
  -- a transition of the record that was created
  have hfinished : ∀ {v : EngineState ρ} {status : CoreRunStatus} {binding : Option RunBinding}
      {reason : String}, v.log = log' → status ≠ .QUEUED →
      finish v record.core_run_id status binding reason (env.dispatch_env log).decided_now =
        (t, .ok child) → env.dispatch.submitted ≠ .raised →
      (∀ b, env.dispatch.submitted = .accepted b → b.session_key = child_session_key env source →
        status = .RUNNING ∧ binding = some b ∧ reason = "") →
      Dispatched engine env id source completed positive u.log t.log child := by
    intro v status binding reason hv hstatus hfinish hraised hbound
    obtain ⟨rfl, hlog'⟩ := of_finish_ok (hv.trans hlog) hqueued hfinish hstatus
    refine ⟨hreadable, hagent, hpositive, ⟨_, hpolicy⟩, ?_, hraised, ?_, ⟨_, hlog'⟩, ?_⟩
    · intro q hq
      rw [← key_child env id source completed positive (env.dispatch_env log).uuid]
      exact hkey q hq
    · refine ⟨contract, policy, (env.dispatch_env log).created_now, hcontract, ?_⟩
      rw [RunRecord.transitioned_identity, hrecord]
      rfl
    · intro b hb hsession
      obtain ⟨rfl, rfl, rfl⟩ := hbound b hb hsession
      rfl
  unfold gate submit at hgate
  rw [hbroker, hauth] at hgate
  dsimp only at hgate
  rw [if_neg (by decide), actual_id_child, ← hid] at hgate
  have hsubmitted : (env.dispatch_env log).submitted = env.dispatch.submitted := rfl
  split at hgate
  · cases hgate
  · rename_i reason hrejected
    rw [hsubmitted] at hrejected
    refine hfinished rfl (by decide) hgate (by rw [hrejected]; exact fun h => by cases h) ?_
    intro b hb
    rw [hrejected] at hb
    cases hb
  · rename_i binding haccepted
    rw [hsubmitted] at haccepted
    have hraised : env.dispatch.submitted ≠ .raised := by
      rw [haccepted]
      exact fun h => by cases h
    split at hgate
    · rename_i hother
      refine hfinished rfl (by decide) hgate hraised fun b hb hsession => ?_
      rw [haccepted] at hb
      obtain rfl := Submitted.accepted.inj hb
      exact absurd (congrArg some hsession.symm) hother.2
    · refine hfinished rfl (by decide) hgate hraised fun b hb hsession => ?_
      rw [haccepted] at hb
      obtain rfl := Submitted.accepted.inj hb
      exact ⟨rfl, rfl, rfl⟩

/-! ### The child -/

theorem safeText_append (a b : String) : safeText (a ++ b) = (safeText a && safeText b) := by
  unfold safeText
  rw [String.toList_append, List.all_append]

theorem safe_intText (n : Int) : safeText (String.ofList (Json.intText n)) = true := by
  have hdigit : ∀ c : Char, c.isDigit = true →
      (c != '\u0085' && c != '\u2028' && c != '\u2029') = true := by
    intro c hc
    have h1 : c ≠ '\u0085' := by rintro rfl; revert hc; decide
    have h2 : c ≠ '\u2028' := by rintro rfl; revert hc; decide
    have h3 : c ≠ '\u2029' := by rintro rfl; revert hc; decide
    simp [h1, h2, h3]
  have hdigits : ∀ m : Nat, ((Nat.toDigits 10 m).all fun c =>
      c != '\u0085' && c != '\u2028' && c != '\u2029') = true := fun m =>
    List.all_eq_true.mpr fun c hc =>
      hdigit c (Nat.isDigit_of_mem_toDigits (by decide) (by decide) hc)
  unfold safeText Json.intText
  rw [String.toList_ofList]
  split
  · rw [List.all_cons, hdigits]
    decide
  · exact hdigits _

theorem safe_child_id (hid : safeText id = true) (count : Int) :
    safeText (child_id env id count) = true := by
  have hctx : safeText "-ctx-" = true := by decide +kernel
  have hdash : safeText "-" = true := by decide +kernel
  simp only [child_id, safeText_append, hid, hctx, hdash, safe_intText, env.safe_child, Bool.and_self]

theorem safe_child_key {source : RunRecord} (h : SafeRecord source) :
    safeText (child_key source) = true := by
  have hctx : safeText ":ctx:" = true := by decide +kernel
  simp only [child_key, safeText_append, h.idempotency_key, hctx, safe_intText, Bool.and_self]

/-- The message has more than whitespace. -/
theorem strip_child_message (source : RunRecord) (completed : List String) :
    Text.strip (child_message source completed) ≠ "" := by
  obtain ⟨cs, hcs⟩ : ∃ cs, (child_message source completed).toList = 'E' :: cs := by
    unfold child_message
    simp only [String.toList_append]
    exact ⟨_, rfl⟩
  have hE : Text.isWhitespace 'E' = false := by decide
  intro h
  have hempty := congrArg String.toList h
  unfold Text.strip at hempty
  rw [String.toList_ofList, hcs, List.dropWhile_cons_of_neg (by simp [hE])] at hempty
  have hall := List.rdropWhile_eq_nil_iff.mp hempty
  rw [hall 'E' List.mem_cons_self] at hE
  cases hE

/-- A run that is not there is created. -/
theorem create_new {args : CreateArgs} (now : String)
    (hsafe : ∀ q ∈ log, RunRegistry.readable q = true) (hid : ∀ q ∈ log, q.core_run_id ≠ args.actual_id "")
    (hkey : ∀ q ∈ log, q.idempotency_key ≠ args.idempotency_key) :
    RunRegistry.create log args "" now =
      .ok ((args.record (args.actual_id "") now, true), log ++ [args.record (args.actual_id "") now]) := by
  have hnone : RunRegistry.get_by_idempotency log args.idempotency_key = .ok none := by
    unfold RunRegistry.get_by_idempotency
    rw [RunRegistry.records_of_readable hsafe]
    dsimp only
    rw [RegistryFile.latest_eq, List.getLast?_eq_none_iff.mpr]
    refine List.filter_eq_nil_iff.mpr fun q hq => ?_
    simpa [RunRegistry.hasKey] using hkey q hq
  unfold RunRegistry.create
  dsimp only
  rw [bind_of_ok (RunRegistry.get_of_readable hsafe _), RunRegistry.last_eq_none.mpr hid]
  dsimp only
  rw [bind_of_ok hnone]
  rfl

variable (env) in
/-- The child is created with texts without line breaks. -/
theorem safe_child_record (hhex : HexDigest engine.H)
    (hpolicies : ∀ task_class policy, engine.task_runtime_policy task_class = .ok policy →
      SafeDict policy)
    {source : RunRecord} (h : SafeRecord source) (hid : source.core_run_id = id)
    (completed : List String) {policy : Dict} {task_class : String}
    (hpolicy : engine.task_runtime_policy task_class = .ok policy) (n : Nat) :
    SafeRecord (child_record engine env id source completed true source.goal_contract policy
      (env.observe.now n)) := by
  have hid' : safeText id = true := hid ▸ h.core_run_id
  refine RunRegistry.safe_record ?_ (safe_child_id hid' _) (env.observe.safe_now n)
  constructor
  case agent_id => exact h.agent_id
  case idempotency_key =>
    show safeText ((child_args env id source completed true).key env.dispatch.uuid) = true
    rw [key_child]
    exact safe_child_key h
  case request_hash => exact hhex _
  case policy => exact hpolicies _ _ hpolicy
  case goal_contract => exact h.goal_contract
  case parent_core_run_id =>
    rintro t ⟨⟩
    exact hid'
  case approved_paths =>
    rintro paths ⟨⟩ t ht
    cases ht

/-- The transition of a run that was just created. -/
theorem finish_created {v : EngineState ρ} {record : RunRecord} {log : Log}
    (hlog : v.log = log ++ [record]) (hsafe : ∀ q ∈ v.log, RunRegistry.readable q = true)
    (hqueued : record.status = .QUEUED) {status : CoreRunStatus}
    (hstatus : status ∈ CoreRunStatus.QUEUED.transitions) (binding : Option RunBinding)
    (reason now : String) :
    finish v record.core_run_id status binding reason now =
      ({ v with log := v.log ++ [record.transitioned status binding none reason now] },
        .ok (record.transitioned status binding none reason now)) := by
  have hlast : last record.core_run_id v.log = some record := by
    rw [hlog, RunRegistry.last_append_self]
  have hne : status ≠ record.status := by
    rw [hqueued]
    rintro rfl
    revert hstatus
    decide
  unfold finish
  rw [RunRegistry.transition_of_last hsafe hlast (hqueued ▸ hstatus) hne]

variable (denv) in
/-- The checks of a child that can be dispatched. -/
theorem checked_startable {source : RunRecord} {goal_state : Dict}
    (h : Startable engine env id source goal_state source.goal_contract log) (completed : List String) :
    ∃ policy, engine.task_runtime_policy (child_policy engine env id source) = .ok policy ∧
      checked engine denv (child_args env id source completed true) =
        .ok ([], source.goal_contract, policy) := by
  obtain ⟨policy, hpolicy⟩ := h.policy
  refine ⟨policy, hpolicy, ?_⟩
  have happroved : normalize_approved_paths (child_args env id source completed true).approved_paths =
      .ok [] := rfl
  have hmessage : Text.strip (child_args env id source completed true).message ≠ "" :=
    strip_child_message source completed
  have htimeout : (child_args env id source completed true).timeout_positive ≠ false :=
    fun h => by cases h
  unfold checked
  refine (bind_of_ok h.agent).trans ((bind_of_ok happroved).trans ?_)
  rw [if_neg hmessage, if_neg htimeout]
  refine (bind_of_ok h.contract).trans ?_
  dsimp only
  rw [actual_id_child]
  exact bind_of_ok hpolicy

/-- The dispatch of a child that can be dispatched. -/
theorem dispatch_startable (hauth : engine.auth_required = false)
    (hbroker : engine.auth_broker = none) (hhex : HexDigest engine.H)
    (hpolicies : ∀ task_class policy, engine.task_runtime_policy task_class = .ok policy →
      SafeDict policy)
    {source : RunRecord} {goal_state : Dict} {u : EngineState ρ}
    (hsource : SafeRecord source) (hid : source.core_run_id = id)
    (hsafe : ∀ q ∈ u.log, RunRegistry.readable q = true)
    (hfresh : ∀ q ∈ u.log, q.core_run_id ≠ child_id env id source.context_reset_count)
    (h : Startable engine env id source goal_state source.goal_contract u.log)
    (completed : List String) :
    ∃ t child, dispatch engine (env.dispatch_env u.log) (child_args env id source completed true) u =
        (t, .ok child) ∧
      (∀ q ∈ t.log, SafeRecord q) ∧ last child.core_run_id t.log = some child := by
  obtain ⟨policy, hpolicy, hchecked⟩ :=
    checked_startable (env.dispatch_env u.log) h completed
  have hargs : (createArgs engine (child_args env id source completed true)
      (env.dispatch_env u.log).uuid [] source.goal_contract policy).actual_id "" =
        child_id env id source.context_reset_count := by
    rw [actual_id_createArgs, actual_id_child]
  have hcreate : RunRegistry.create u.log (createArgs engine (child_args env id source completed true)
      (env.dispatch_env u.log).uuid [] source.goal_contract policy) ""
        (env.dispatch_env u.log).created_now =
      .ok ((child_record engine env id source completed true source.goal_contract policy
        (env.observe.now u.log.length), true), u.log ++ [child_record engine env id source completed
          true source.goal_contract policy (env.observe.now u.log.length)]) := by
    refine (create_new _ hsafe (by rwa [hargs]) fun q hq => ?_).trans ?_
    · show q.idempotency_key ≠ (child_args env id source completed true).key _
      rw [key_child]
      exact h.key q hq
    · rw [hargs]
      rfl
  have hrecord := safe_child_record env hhex hpolicies hsource hid completed hpolicy u.log.length
  generalize hr : child_record engine env id source completed true source.goal_contract policy
    (env.observe.now u.log.length) = record at hcreate hrecord
  have hqueued : record.status = .QUEUED := by
    rw [← hr]
    rfl
  have hrid : record.core_run_id = child_id env id source.context_reset_count := by
    rw [← hr]
    rfl
  have hrecords : ∀ q ∈ u.log ++ [record], SafeRecord q := by
    intro q hq
    rcases List.mem_append.mp hq with hq | hq
    · exact RunRegistry.safe_of_readable (hsafe q hq)
    · rwa [List.mem_singleton.mp hq]
  -- the transition that ends the dispatch
  have hfinished : ∀ (v : EngineState ρ) {status : CoreRunStatus} (binding : Option RunBinding)
      {reason : String}, v.log = u.log ++ [record] → status ∈ CoreRunStatus.QUEUED.transitions →
      (∀ b ∈ binding, SafeDict b.recorded.toDict) → safeText reason = true →
      ∃ t child, finish v record.core_run_id status binding reason
          (env.dispatch_env u.log).decided_now = (t, .ok child) ∧
        (∀ q ∈ t.log, SafeRecord q) ∧ last child.core_run_id t.log = some child := by
    intro v status binding reason hv hstatus hbinding hreason
    have hsafe' : ∀ q ∈ v.log, RunRegistry.readable q = true := by
      intro q hq
      rw [hv] at hq
      exact RunRegistry.readable_of_safe (hrecords q hq)
    refine ⟨_, _, finish_created hv hsafe' hqueued hstatus binding reason _, fun q hq => ?_, ?_⟩
    · rcases List.mem_append.mp hq with hq | hq
      · rw [hv] at hq
        exact hrecords q hq
      · rw [List.mem_singleton.mp hq]
        exact RunRegistry.safe_transitioned hrecord status hbinding (fun o ho => by cases ho) hreason
          (env.observe.safe_now _)
    · exact RunRegistry.last_append_self _ _
  have hdispatch : dispatch engine (env.dispatch_env u.log)
      (child_args env id source completed true) u =
        submit (env.dispatch_env u.log) (child_args env id source completed true)
          ⟨record.core_run_id, source.agent_id, child_message source completed, child_key source,
            some (child_session_key env source), record.approved_paths, "dispatch",
            source.goal_contract⟩ { u with log := u.log ++ [record] } := by
    unfold dispatch
    rw [hchecked]
    dsimp only
    rw [hcreate]
    dsimp only
    rw [if_neg (by simp)]
    unfold gate
    rw [hbroker, hauth]
    dsimp only
    rw [if_neg (by decide), actual_id_child, key_child, hrid]
    rfl
  rw [hdispatch]
  unfold submit
  have hempty : ∀ b ∈ (none : Option RunBinding), SafeDict b.recorded.toDict :=
    fun b hb => by cases hb
  cases hsubmitted : env.dispatch.submitted with
  | raised => exact absurd hsubmitted h.submitted
  | rejected reason =>
    have hreason := env.safe_rejection reason hsubmitted
    have hsubmitted' : (env.dispatch_env u.log).submitted = .rejected reason := hsubmitted
    dsimp only
    rw [hsubmitted']
    exact hfinished _ none rfl (by decide) hempty hreason
  | accepted binding =>
    have hsubmitted' : (env.dispatch_env u.log).submitted = .accepted binding := hsubmitted
    dsimp only
    rw [hsubmitted']
    dsimp only
    split
    · exact hfinished _ none rfl (by decide) hempty (by decide +kernel)
    · rename_i hsame
      have hsession : binding.session_key = child_session_key env source := by
        by_contra hne
        exact hsame ⟨rfl, fun heq => hne (Option.some.inj heq).symm⟩
      refine hfinished _ (some binding) rfl (by decide) ?_ (by decide +kernel)
      rintro b ⟨⟩
      exact h.bound binding hsubmitted hsession

theorem readable_of_require {r : RunRecord} (h : RunRegistry.require log id = .ok r) :
    ∀ q ∈ log, RunRegistry.readable q = true := by
  obtain ⟨o, ho, -⟩ := bind_eq_ok.mp h
  exact RunRegistry.get_readable ho

theorem readable_of_update {id' : String} {args : GoalUpdate} {core core' : Core} {r : RunRecord}
    (h : eval (update_goal_state env.observe id' args) core = (core', .ok r)) :
    ∀ q ∈ core.log, RunRegistry.readable q = true := by
  cases hupdate : RunRegistry.update_goal_state core.log id' args
      (env.observe.event_at core.log.length) (env.observe.now core.log.length) with
  | error e =>
    have heval := (eval_mutate_error (s := core) hupdate).symm.trans h
    cases heval
  | ok p =>
    obtain ⟨old, hrequire, -⟩ := bind_eq_ok.mp hupdate
    exact readable_of_require hrequire

variable (env) in
/-- The update of the goal state of a run. -/
theorem update_child {s : Core} {child : RunRecord} (hsafe : ∀ q ∈ s.log, SafeRecord q)
    (hlast : last child.core_run_id s.log = some child) (goal_state : Dict) :
    ∃ core child', eval (update_goal_state env.observe child.core_run_id { GoalUpdate.none with
        goal_state := some goal_state }) s = (core, .ok child') ∧
      child'.identity = child.identity := by
  have hstands : Stands child.core_run_id child s := ⟨hsafe, hlast⟩
  obtain ⟨child', heval, hchanged, -⟩ := hstands.update_goal_state (E := env.observe)
    { GoalUpdate.none with goal_state := some goal_state } (fun g hg => by cases hg)
  exact ⟨_, child', heval, hchanged.identity⟩

/-- A run whose child can be dispatched gets one. -/
theorem start_startable (hauth : engine.auth_required = false)
    (hbroker : engine.auth_broker = none) (hhex : HexDigest engine.H)
    (hpolicies : ∀ task_class policy, engine.task_runtime_policy task_class = .ok policy →
      SafeDict policy)
    {source : RunRecord} {goal_state : Dict} (hsource : SafeRecord source)
    (hid : source.core_run_id = id) (hsafe : ∀ q ∈ s.core.log, RunRegistry.readable q = true)
    (hfresh : ∀ q ∈ s.core.log, q.core_run_id ≠ child_id env id source.context_reset_count)
    (h : Startable engine env id source goal_state source.goal_contract s.core.log)
    (completed : List String) :
    ∃ t child, eval (start_child engine env id source completed goal_state) s = (t, .ok child) := by
  obtain ⟨u, child, hdispatch, hrecords, hlast⟩ :=
    dispatch_startable (u := s.engine) hauth hbroker hhex hpolicies hsource hid hsafe hfresh h completed
  obtain ⟨count, hcount⟩ := h.drift_count
  have hdispatched := dispatched_ok hdispatch
  obtain ⟨core, child', heval, -⟩ := update_child env (s := (s.after u).core) hrecords hlast
    (Dict.empty.set "drift_count" (.int count))
  refine ⟨{ s.after u with core := core }, child', ?_⟩
  unfold start_child
  rw [h.timeout]
  dsimp only
  rw [eval_bind_ok hdispatched, hcount]
  dsimp only
  exact on_core_ok heval

/-- A run that got a child. -/
theorem of_start_child (hauth : engine.auth_required = false) (hbroker : engine.auth_broker = none)
    {source : RunRecord} {completed : List String} {goal_state : Dict}
    (hfresh : ∀ q ∈ s.core.log, q.core_run_id ≠ child_id env id source.context_reset_count)
    {t : ContextState ρ} {child : RunRecord}
    (h : eval (start_child engine env id source completed goal_state) s = (t, .ok child)) :
    (∀ q ∈ s.core.log, RunRegistry.readable q = true) ∧
      ∃ contract policy now, Startable engine env id source goal_state contract s.core.log ∧
        child.identity = (child_record engine env id source completed true contract policy
          now).identity := by
  unfold start_child at h
  cases htimeout : env.timeout_positive with
  | none =>
    rw [htimeout] at h
    cases h
  | some positive =>
    rw [htimeout] at h
    dsimp only at h
    obtain ⟨s', child₀, hdispatched, hrest⟩ := eval_bind_eq_ok h
    obtain ⟨u, hdispatch, rfl⟩ := of_dispatched_ok hdispatched
    obtain ⟨hreadable, hagent, rfl, hpolicy, hkey, hsubmitted,
      ⟨contract, policy, now, hcontract, hident⟩, ⟨record, hlog⟩, hbound⟩ :=
      dispatched_child hauth hbroker hfresh hdispatch
    cases hcount : int_of (goal_state.get? "drift_count") with
    | error e =>
      rw [hcount] at hrest
      cases hrest
    | ok count =>
      rw [hcount] at hrest
      have hupdate := of_on_core_ok hrest
      -- the update reads the registry, so the child can be read
      have hsafe : ∀ q ∈ u.log, RunRegistry.readable q = true := readable_of_update hupdate
      have hchild : child₀ ∈ u.log := by
        rw [hlog]
        simp
      have hlast : last child₀.core_run_id u.log = some child₀ := by
        rw [hlog, show s.engine.log ++ [record, child₀] = (s.engine.log ++ [record]) ++ [child₀] by simp]
        exact RunRegistry.last_append_self _ _
      obtain ⟨core, child', heval, hident'⟩ := update_child env (s := (s.after u).core)
        (fun q hq => RunRegistry.safe_of_readable (hsafe q hq)) hlast
        (Dict.empty.set "drift_count" (.int count))
      have hsame : (core, Except.ok child') = (t.core, .ok child) := heval.symm.trans hupdate
      obtain rfl := Except.ok.inj (Prod.mk.inj hsame).2
      refine ⟨hreadable, contract, policy, now, ⟨hagent, htimeout, hcontract, hpolicy, hkey,
        hsubmitted, fun binding hb hsession => ?_, count, hcount⟩, hident'.trans hident⟩
      exact (RunRegistry.safe_of_readable (hsafe child₀ hchild)).openclaw_binding _
        (hbound binding hb hsession)

/-! ### A run that has no context left -/

theorem goalUpdated_events {r r' : RunRecord} {args : GoalUpdate} {event_at now : String}
    (h : r.goalUpdated args event_at now = .ok r') :
    r'.policy_events = r.policy_events ++
      RunRecord.newEvents (args.event_code.filter (· ≠ "")) event_at args.event_details := by
  unfold RunRecord.goalUpdated at h
  dsimp only at h
  split at h
  · cases h
  rw [if_neg (by simp)] at h
  rw [← pure_eq_ok.mp h]

theorem safe_reset_failed {r : RunRecord} (h : SafeRecord r) : SafeGoal (reset_failed r) := by
  have hreason : safeText "CONTEXT_RESET_FAILED" = true := by decide +kernel
  constructor
  case event_code =>
    rintro t ⟨⟩
    decide +kernel
  case escalation_reason =>
    rintro t ⟨⟩
    exact hreason
  case escalation_package =>
    rintro d ⟨⟩
    exact safe_escalation_package h hreason
  all_goals exact fun _ h => by cases h

theorem update_events {core core' : Core} {r r' : RunRecord} (h : Stands id r core)
    {args : GoalUpdate} (heval : eval (update_goal_state env.observe id args) core = (core', .ok r')) :
    ∃ event_at, r'.policy_events = r.policy_events ++
      RunRecord.newEvents (args.event_code.filter (· ≠ "")) event_at args.event_details := by
  cases hupdate : RunRegistry.update_goal_state core.log id args
      (env.observe.event_at core.log.length) (env.observe.now core.log.length) with
  | error e =>
    have herror := (eval_mutate_error (s := core) hupdate).symm.trans heval
    cases herror
  | ok p =>
    obtain ⟨r'', log⟩ := p
    have hok := (eval_mutate_ok (s := core) hupdate).symm.trans heval
    obtain rfl := Except.ok.inj (Prod.mk.inj hok).2
    rw [RunRegistry.update_goal_state, bind_of_ok h.registry_require] at hupdate
    obtain ⟨r₁, hupdated, hupdate⟩ := bind_eq_ok.mp hupdate
    obtain ⟨rfl, -⟩ := Prod.mk.inj (pure_eq_ok.mp hupdate)
    exact ⟨_, goalUpdated_events hupdated⟩

variable (env) in
/-- A run that has no context left is blocked, but for an abort that raises. -/
theorem block_source_cases {core : Core} {r : RunRecord} (h : Stands id r core)
    (hlive : r.status ∉ CoreRunStatus.terminal) :
    (env.observe.abort ≠ .raised → ∃ core' blocked, eval (block_source env id r) core =
      (core', .ok blocked) ∧ blocked.core_run_id = id) ∧
    (env.observe.abort = .raised → ∃ core', eval (block_source env id r) core =
      (core', .error .adapter) ∧ last id core'.log ≠ some r) := by
  obtain ⟨r', heval, hchanged, hlast, hsafe⟩ := h.update_goal_state (E := env.observe) (reset_failed r)
    (by rintro g ⟨⟩; decide)
  have hstands := hsafe (safe_reset_failed h.record)
  obtain ⟨event_at, hevents⟩ := update_events h heval
  have hasks := eval_cancel_worker env.observe id { core with log := core.log ++ [r'] }
  have hblocks : ∀ binding, env.observe.abort.answer = .ok binding →
      ∃ core' blocked, eval (block_source env id r) core = (core', .ok blocked) ∧
        blocked.core_run_id = id := by
    intro binding hanswer
    rw [hanswer] at hasks
    have hcleared : Stands id r' ⟨core.log ++ [r'], core.timers.filter (· ≠ id), core.aborts ++ [id]⟩ :=
      hstands.congr rfl
    have hlive' : r'.status ∉ CoreRunStatus.terminal := by rwa [hchanged.status]
    have hne : .BLOCKED ≠ r'.status := by
      intro hblocked
      rw [← hblocked] at hlive'
      exact hlive' (by decide)
    obtain ⟨r'', htransition, hident, -⟩ := hcleared.transition (E := env.observe)
      (live_ends hlive').2 hne binding none "ESCALATION_REQUIRED"
    refine ⟨⟨core.log ++ [r'] ++ [r''], core.timers.filter (· ≠ id), core.aborts ++ [id]⟩, r'', ?_, ?_⟩
    · exact (eval_bind_ok (eval_bind_ok heval)).trans ((eval_bind_ok hasks).trans
        ((eval_bind_ok (eval_modify _ _)).trans htransition))
    · exact (congrArg RunRecord.Identity.core_run_id hident).trans (RunRegistry.last_some hlast).2
  constructor
  · intro hraised
    cases habort : env.observe.abort with
    | confirmed binding => exact hblocks (some binding) (by rw [habort]; rfl)
    | failed => exact hblocks none (by rw [habort]; rfl)
    | raised => exact absurd habort hraised
  · intro hraised
    rw [hraised] at hasks
    refine ⟨⟨core.log ++ [r'], core.timers, core.aborts ++ [id]⟩,
      (eval_bind_ok (eval_bind_ok heval)).trans (eval_bind_error hasks), ?_⟩
    show last id (core.log ++ [r']) ≠ some r
    rw [hlast]
    rintro ⟨⟩
    have hcode : (reset_failed r).event_code.filter (· ≠ "") = some "ESCALATION_REQUIRED" :=
      filter_nonempty (by decide)
    rw [hcode] at hevents
    exact absurd (congrArg List.length hevents) (by simp [RunRecord.newEvents])

end Statements

/-! ## The theorem -/

section Iff

variable {engine env id} {s : ContextState ρ}

/-- The refusals of the call. -/
theorem refused_sound {e : ContextError} (hsound : Sound engine env id s)
    (h : eval (fresh_context engine env id) s = (s, .error e)) :
    AllOrNothing env id s (eval (fresh_context engine env id) s) ↔ Sound engine env id s := by
  rw [h]
  exact iff_of_true ⟨rfl, fun hstopped => hstopped.1 rfl⟩ hsound

theorem child_id_ne (count : Int) : child_id env id count ≠ id := by
  intro h
  have hlength := congrArg (fun t : String => t.toList.length) h
  simp [child_id] at hlength

theorem child_key_ne (source : RunRecord) : source.idempotency_key ≠ child_key source := by
  intro h
  have hlength := congrArg (fun t : String => t.toList.length) h
  simp [child_key] at hlength

theorem transitioned_reset (r : RunRecord) (binding : Option RunBinding) (now : String) :
    (r.transitioned .CANCELLED binding none "FRESH_CONTEXT_RESET" now).reason =
      "FRESH_CONTEXT_RESET" ∧
    ∀ b ∈ binding, (r.transitioned .CANCELLED binding none "FRESH_CONTEXT_RESET"
      now).openclaw_binding = some b.recorded := by
  cases binding with
  | none => exact ⟨rfl, fun b hb => by cases hb⟩
  | some binding =>
    refine ⟨rfl, ?_⟩
    rintro b ⟨⟩
    rfl

/-- The run is ended for a child: the call is right just if the child can be started with all that the
run has. -/
theorem ended_iff (hauth : engine.auth_required = false) (hbroker : engine.auth_broker = none)
    (hhex : HexDigest engine.H)
    (hpolicies : ∀ task_class policy, engine.task_runtime_policy task_class = .ok policy →
      SafeDict policy)
    {source : RunRecord} (h : Stands id source s.core) (hlive : source.status ∉ CoreRunStatus.terminal)
    (hleft : source.context_reset_count < max_context_resets)
    (hfresh : ∀ q ∈ s.core.log, q.core_run_id ≠ child_id env id source.context_reset_count)
    {has_completed : Bool} {binding : Option RunBinding} (hstops : Stops env has_completed binding)
    (completed : List String) (goal_state : Dict) :
    AllOrNothing env id s (eval (do
        discard <| on_core (end_source env id has_completed)
        start_child engine env id source completed goal_state) s) ↔
      (∀ b ∈ binding, SafeDict b.recorded.toDict) ∧
        Inheritable engine env id source goal_state s.core.log := by
  obtain ⟨core, hends, hlog⟩ := end_source_ends h hlive hstops
  generalize hended : source.transitioned .CANCELLED binding none "FRESH_CONTEXT_RESET"
    (env.observe.now s.core.log.length) = ended at hends hlog
  have hident : ended.identity = source.identity := by
    rw [← hended]
    exact RunRecord.transitioned_identity ..
  have hid : source.core_run_id = id := (RunRegistry.last_some h.last).2
  have hreset := transitioned_reset source binding (env.observe.now s.core.log.length)
  have hreplaced : Replaced id core.log := by
    rw [hlog]
    refine ⟨ended, RunRegistry.last_append_identity h.last hident, ?_, ?_⟩
    · rw [← hended]
      exact RunRecord.transitioned_status ..
    · rw [← hended]
      exact hreset.1
  have hdiscard : eval (discard (on_core (ρ := ρ) (end_source env id has_completed))) s =
      ({ s with core := core }, .ok ()) := eval_bind_ok (on_core_ok hends)
  rw [eval_bind_ok hdiscard]
  have hkept := keeps_replaced env hauth hbroker source completed goal_state
    { s with core := core } hreplaced
  have hfresh' : ∀ q ∈ core.log, q.core_run_id ≠ child_id env id source.context_reset_count := by
    intro q hq
    rw [hlog] at hq
    rcases List.mem_append.mp hq with hq | hq
    · exact hfresh q hq
    · rw [List.mem_singleton.mp hq]
      have hended_id : ended.core_run_id = id :=
        (congrArg RunRecord.Identity.core_run_id hident).trans hid
      rw [hended_id]
      exact (child_id_ne _).symm
  cases hstart : eval (start_child engine env id source completed goal_state) { s with core := core } with
  | mk t out =>
    rw [hstart] at hkept
    have hreturned := fun child (hout : out = .ok child) =>
      of_start_child hauth hbroker hfresh' (hout ▸ hstart)
    constructor
    · intro hall
      cases out with
      | error e => exact absurd hall.1 (hkept.ne h.last hlive)
      | ok child =>
        obtain ⟨hreadable, contract, policy, now, hstartable, hchild⟩ := hreturned child rfl
        have hother : child.core_run_id ≠ id := by
          rw [show child.core_run_id = child_id env id source.context_reset_count from
            congrArg RunRecord.Identity.core_run_id hchild]
          exact child_id_ne _
        obtain ⟨-, source', hsource', hinherits⟩ := hall hother
        obtain rfl := Option.some.inj (h.last.symm.trans hsource')
        have hcontract : contract = source.goal_contract :=
          (congrArg RunRecord.Identity.goal_contract hchild).symm.trans hinherits.goal_contract
        refine ⟨fun b hb => ?_, ⟨?_, ?_, ?_⟩⟩
        · have hread : ended ∈ core.log := by
            rw [hlog]
            simp
          refine (RunRegistry.safe_of_readable (hreadable ended hread)).openclaw_binding _ ?_
          rw [← hended]
          exact hreset.2 b hb
        · rw [hcontract] at hstartable
          refine { hstartable with key := fun q hq => hstartable.key q ?_ }
          rw [hlog]
          exact List.mem_append_left _ hq
        · exact hinherits.approved_paths.symm.trans
            (congrArg RunRecord.Identity.approved_paths hchild)
        · exact hinherits.watchdog_managed.symm.trans
            (congrArg RunRecord.Identity.watchdog_managed hchild)
    · rintro ⟨hbinding, hstartable, happroved, hmanaged⟩
      have hsafe : SafeRecord ended := by
        rw [← hended]
        exact RunRegistry.safe_transitioned h.record _ hbinding (fun o ho => by cases ho)
          (by decide +kernel) (env.observe.safe_now _)
      have hreadable : ∀ q ∈ core.log, RunRegistry.readable q = true := by
        intro q hq
        rw [hlog] at hq
        rcases List.mem_append.mp hq with hq | hq
        · exact h.readable q hq
        · rw [List.mem_singleton.mp hq]
          exact RunRegistry.readable_of_safe hsafe
      have hkey : ∀ q ∈ core.log, q.idempotency_key ≠ child_key source := by
        intro q hq
        rw [hlog] at hq
        rcases List.mem_append.mp hq with hq | hq
        · exact hstartable.key q hq
        · rw [List.mem_singleton.mp hq,
            show ended.idempotency_key = source.idempotency_key from
              congrArg RunRecord.Identity.idempotency_key hident]
          exact child_key_ne source
      obtain ⟨t', child, hok⟩ := start_startable (s := { s with core := core }) hauth hbroker hhex hpolicies
        h.record hid hreadable hfresh' { hstartable with key := hkey } completed
      obtain ⟨rfl, rfl⟩ := Prod.mk.inj (hstart.symm.trans hok)
      obtain ⟨-, contract, policy, now, hstartable', hchild⟩ := hreturned child rfl
      have hcontract : contract = source.goal_contract :=
        Except.ok.inj (hstartable'.contract.symm.trans hstartable.contract)
      refine fun _ => ⟨hkept, source, h.last, ?_, ?_, ?_, ?_, ?_, ?_⟩
      · exact (congrArg RunRecord.Identity.goal_contract hchild).trans hcontract
      · exact congrArg RunRecord.Identity.agent_id hchild
      · exact (congrArg RunRecord.Identity.approved_paths hchild).trans happroved.symm
      · exact (congrArg RunRecord.Identity.watchdog_managed hchild).trans hmanaged.symm
      · exact congrArg RunRecord.Identity.context_reset_count hchild
      · rw [show child.context_reset_count = source.context_reset_count + 1 from
          congrArg RunRecord.Identity.context_reset_count hchild]
        exact Int.add_one_le_of_lt hleft

/-- A run that has a context left is replaced by a child that inherits all of it, or stays as it was,
exactly where `Replaceable` says. -/
theorem replace_iff (hauth : engine.auth_required = false) (hbroker : engine.auth_broker = none)
    (hhex : HexDigest engine.H)
    (hpolicies : ∀ task_class policy, engine.task_runtime_policy task_class = .ok policy →
      SafeDict policy)
    {source : RunRecord} (h : Stands id source s.core) (hlive : source.status ∉ CoreRunStatus.terminal)
    (hleft : source.context_reset_count < max_context_resets)
    (hfresh : ∀ q ∈ s.core.log, q.core_run_id ≠ child_id env id source.context_reset_count)
    {completed : List String} {goal_state : Dict}
    (hcompleted : texts_of (source.verified_progress.get? "completed_conditions") = .ok completed)
    (hgoal : goal_state_of source = .ok goal_state) :
    AllOrNothing env id s (eval (replace_source engine env id source) s) ↔
      Replaceable engine env id source goal_state s.core.log := by
  unfold replace_source Replaceable
  rw [hcompleted, hgoal]
  dsimp only
  cases hdone : openclaw_completed goal_state with
  | true =>
    rw [if_pos rfl, ended_iff hauth hbroker hhex hpolicies h hlive hleft hfresh .completed]
    exact ⟨And.right, fun hinherits => ⟨(fun b hb => by cases hb), hinherits⟩⟩
  | false =>
    rw [if_neg (by decide)]
    -- the abort raises, and the run is as it was
    have hvain : (∀ binding, env.observe.abort ≠ .confirmed binding) →
        (AllOrNothing env id s (eval (do
          discard <| on_core (end_source env id false)
          start_child engine env id source completed goal_state) s) ↔ env.stopped = false) := by
      intro habort
      have hraises := on_core_error (s := s) (end_source_raises id s.core habort)
      have hdiscard : eval (discard (on_core (end_source env id false))) s = _ :=
        eval_bind_error hraises
      rw [eval_bind_error hdiscard]
      show (_ = _ ∧ ¬ (_ ∧ (_ ∨ _))) ↔ _
      simp [habort]
    cases habort : env.observe.abort with
    | confirmed binding =>
      rw [ended_iff hauth hbroker hhex hpolicies h hlive hleft hfresh (.confirmed habort)]
      simp
    | failed => exact hvain (by rw [habort]; exact fun b hb => by cases hb)
    | raised => exact hvain (by rw [habort]; exact fun b hb => by cases hb)

/-- A run that has a context left is replaced. -/
theorem fresh_context_replaces {source : RunRecord} (h : Stands id source s.core)
    (hlive : source.status ∉ CoreRunStatus.terminal) (hauth : engine.auth_required = false)
    (hbroker : engine.auth_broker = none) (hready : source.goal_reinjection_ready = true)
    (hleft : source.context_reset_count < max_context_resets) :
    eval (fresh_context engine env id) s = eval (replace_source engine env id source) s := by
  refine (eval_bind_ok (on_core_ok (s := s) h.require)).trans ?_
  rw [if_neg hlive, hauth, hbroker, if_neg (by decide), hready, if_neg (by decide),
    if_neg (not_le.mpr hleft)]

/-- A call of `fresh_context` is all or nothing exactly where the run and what the call is told are
`Sound`. -/
theorem fresh_context_iff (hhex : HexDigest engine.H)
    (hpolicies : ∀ task_class policy, engine.task_runtime_policy task_class = .ok policy →
      SafeDict policy)
    (hfresh : ∀ q ∈ s.core.log, ∀ count, q.core_run_id ≠ child_id env id count) :
    AllOrNothing env id s (eval (fresh_context engine env id) s) ↔ Sound engine env id s := by
  cases hrequire : RunRegistry.require s.core.log id with
  | error e =>
    refine refused_sound (e := .observe (.registry e)) (fun source hsource => ?_) ?_
    · rw [hrequire] at hsource
      cases hsource
    · exact eval_bind_error (on_core_error (eval_require_error hrequire))
  | ok source =>
    have hstands : Stands id source s.core :=
      .of_readable (readable_of_require hrequire) (RunRegistry.require_ok hrequire)
    have hsame : ∀ {source'}, RunRegistry.require s.core.log id = .ok source' → source' = source :=
      fun h => Except.ok.inj (h.symm.trans hrequire)
    have hstart : eval (fresh_context engine env id) s = _ :=
      eval_bind_ok (on_core_ok (s := s) hstands.require)
    by_cases hlive : source.status ∈ CoreRunStatus.terminal
    · rw [if_pos hlive] at hstart
      refine refused_sound (fun source' h hlive' => ?_) hstart
      rw [hsame h] at hlive'
      exact absurd hlive hlive'
    rw [if_neg hlive] at hstart
    by_cases hauth : engine.auth_required = true ∨ engine.auth_broker.isSome = true
    · rw [if_pos hauth] at hstart
      refine refused_sound (fun source' _ _ hrequired hbroker => ?_) hstart
      rw [hrequired, hbroker] at hauth
      exact absurd hauth (by decide)
    rw [if_neg hauth] at hstart
    rw [not_or, Bool.not_eq_true, Option.not_isSome_iff_eq_none] at hauth
    by_cases hready : source.goal_reinjection_ready = false
    · rw [if_pos hready] at hstart
      refine refused_sound (fun source' h _ _ _ hready' => ?_) hstart
      rw [hsame h, hready] at hready'
      cases hready'
    rw [if_neg hready] at hstart
    rw [Bool.not_eq_false] at hready
    -- the call goes on with the run
    have hsound : Sound engine env id s ↔
        (max_context_resets ≤ source.context_reset_count → env.observe.abort ≠ .raised) ∧
        (source.context_reset_count < max_context_resets → ∀ completed goal_state,
          texts_of (source.verified_progress.get? "completed_conditions") = .ok completed →
          goal_state_of source = .ok goal_state →
          Replaceable engine env id source goal_state s.core.log) := by
      refine ⟨fun h => h source hrequire hlive hauth.1 hauth.2 hready, fun h source' hsource' _ _ _ _ => ?_⟩
      rw [hsame hsource']
      exact h
    rw [hsound]
    by_cases hleft : max_context_resets ≤ source.context_reset_count
    · rw [if_pos hleft] at hstart
      rw [hstart, and_iff_left fun h => absurd hleft (not_le.mpr h), forall_prop_of_true hleft]
      obtain ⟨hblocks, hraises⟩ := block_source_cases env hstands hlive
      by_cases habort : env.observe.abort = .raised
      · obtain ⟨core, heval, hlast⟩ := hraises habort
        rw [on_core_error heval]
        refine iff_of_false (fun hall => hlast ?_) (not_not.mpr habort)
        exact hall.1.trans hstands.last
      · obtain ⟨core, blocked, heval, hid⟩ := hblocks habort
        rw [on_core_ok heval]
        exact iff_of_true (fun hne => absurd hid hne) habort
    · rw [fresh_context_replaces hstands hlive hauth.1 hauth.2 hready (not_le.mp hleft),
        and_iff_right fun h => absurd h hleft, forall_prop_of_true (not_le.mp hleft)]
      cases hcompleted : texts_of (source.verified_progress.get? "completed_conditions") with
      | error e =>
        have hraises : eval (replace_source engine env id source) s = (s, .error (.observe e)) := by
          unfold replace_source
          rw [hcompleted]
          rfl
        rw [hraises]
        refine iff_of_true ⟨rfl, fun hstopped => hstopped.1 rfl⟩ fun completed goal_state h => ?_
        cases h
      | ok completed =>
        cases hgoal : goal_state_of source with
        | error e =>
          have hraises : eval (replace_source engine env id source) s = (s, .error (.observe e)) := by
            unfold replace_source
            rw [hcompleted, hgoal]
            rfl
          rw [hraises]
          refine iff_of_true ⟨rfl, fun hstopped => hstopped.1 rfl⟩ fun completed goal_state _ h => ?_
          cases h
        | ok goal_state =>
          rw [replace_iff hauth.1 hauth.2 hhex hpolicies hstands hlive (not_le.mp hleft)
            (fun q hq => hfresh q hq _) hcompleted hgoal]
          refine ⟨fun h completed' goal_state' _ hgoal' => ?_, fun h => h completed goal_state rfl rfl⟩
          obtain rfl := Except.ok.inj hgoal'
          exact h

end Iff

namespace Sample

/-- A run that has drifted once. -/
def drifted : RunRecord :=
  { queued with status := .RUNNING, goal_status := "GUARDED", goal_reinjection_ready := true }

/-- Another run, with the key that the child of `drifted` gets. -/
def taking : RunRecord :=
  { RunRegistry.sampleArgs with
    core_run_id := some "core-2"
    idempotency_key := "key-1:ctx:1" }.record "core-2" "t0"

def cancelled_binding : RunBinding :=
  ⟨"core-1", "run-1", "executor", "session-1", none, "key-1", .CANCELLED⟩

def child_binding : RunBinding :=
  ⟨"core-1-ctx-1-cafe", "run-2", "executor", "agent:executor:fast-gateway-f00d", none, "key-1:ctx:1",
    .RUNNING⟩

/-- The worker stops, and the child is accepted. -/
def context_env : ContextEnv where
  observe := observe_env (.confirmed cancelled_binding)
  stopped := false
  child := "cafe"
  session := "f00d"
  timeout_positive := some true
  dispatch := { Sample.env with submitted := .accepted child_binding }
  safe_child := by decide +kernel
  safe_rejection _ h := by cases h

def context_state (log : Log) : ContextState Unit := ⟨⟨log, [], []⟩, ⟨AuthStore.empty, [], []⟩, (), []⟩

theorem stands_drifted {log : Log} (hlog : log = [drifted] ∨ log = [drifted, taking]) :
    Stands "core-1" drifted (context_state log).core := by
  rcases hlog with rfl | rfl
  · refine .of_readable (fun q hq => (RunRegistry.readable_iff q).mpr ?_) rfl
    revert q
    decide +kernel
  · refine .of_readable (fun q hq => (RunRegistry.readable_iff q).mpr ?_) rfl
    revert q
    decide +kernel

theorem drifted_goal_state : goal_state_of drifted = .ok Dict.empty := by decide +kernel

theorem drifted_completed :
    texts_of (drifted.verified_progress.get? "completed_conditions") = .ok [] := by decide +kernel

theorem child_key_drifted : child_key drifted = "key-1:ctx:1" := by decide +kernel

theorem digest_hex : HexDigest contracted.H :=
  fun _ => show safeText "ab" = true by decide +kernel

theorem digest_policies : ∀ task_class policy,
    contracted.task_runtime_policy task_class = .ok policy → SafeDict policy := by
  rintro _ policy ⟨⟩
  rfl

end Sample

/-- The run is ended and its worker stopped, and then the key of the child turns out to be taken. -/
theorem fresh_context_strands : ¬ AllOrNothing Sample.context_env "core-1"
    (Sample.context_state [Sample.drifted, Sample.taking])
    (eval (fresh_context Sample.contracted Sample.context_env "core-1")
      (Sample.context_state [Sample.drifted, Sample.taking])) := by
  have hstands := Sample.stands_drifted (.inr rfl)
  have hlive : Sample.drifted.status ∉ CoreRunStatus.terminal := by decide
  rw [fresh_context_replaces hstands hlive rfl rfl rfl (by decide),
    replace_iff rfl rfl Sample.digest_hex Sample.digest_policies hstands hlive (by decide) ?_
      Sample.drifted_completed Sample.drifted_goal_state]
  · rintro ⟨-, hinherits⟩
    refine hinherits.startable.key Sample.taking ?_ Sample.child_key_drifted.symm
    exact List.mem_cons_of_mem _ (List.mem_singleton_self _)
  · intro q hq
    rcases List.mem_cons.mp hq with rfl | hq
    · exact (child_id_ne _).symm
    · rw [List.mem_singleton.mp hq]
      decide +kernel

/-- Without that run, the child replaces its run. -/
theorem fresh_context_iff_sample : AllOrNothing Sample.context_env "core-1"
    (Sample.context_state [Sample.drifted])
    (eval (fresh_context Sample.contracted Sample.context_env "core-1")
      (Sample.context_state [Sample.drifted])) := by
  have hstands := Sample.stands_drifted (.inl rfl)
  refine (fresh_context_iff Sample.digest_hex Sample.digest_policies fun q hq count => ?_).mpr ?_
  · rw [List.mem_singleton.mp hq]
    exact (child_id_ne count).symm
  · intro source hsource _ _ _ _
    obtain rfl := Except.ok.inj (hsource.symm.trans hstands.registry_require)
    refine ⟨fun h => absurd h (by decide), fun _ completed goal_state _ hgoal => ?_⟩
    obtain rfl := Except.ok.inj (hgoal.symm.trans Sample.drifted_goal_state)
    refine ⟨by decide +kernel, ⟨⟨rfl, rfl, Sample.contract_normalized, ⟨_, rfl⟩, ?_, ?_, ?_, ⟨0, rfl⟩⟩,
      rfl, rfl⟩⟩
    · intro q hq
      rw [List.mem_singleton.mp hq]
      exact child_key_ne _
    · exact fun h => by cases h
    · rintro b ⟨⟩ -
      decide +kernel

end CoreEngine

end Plachem
