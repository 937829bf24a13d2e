import Mathlib.Data.Rat.Init
import Mathlib.Algebra.Order.Ring.Rat
import PlachemMonitor.Engine.Goal
import PlachemMonitor.Registry.Readable
import PlachemMonitor.Spec.Effect

/-!
# Observation

What `CoreEngine` does with a run after its dispatch: the calls that ask the adapter for its outcome
(`wait`, the deadline timer, `reconcile_external_completion`), those that end it, and the application
of an outcome.

A call is a program over the registry, the armed deadline timers, and the calls of `adapter.cancel`
(`Core`). Its arguments and what it is told on the way are in `ObserveEnv`: the clock as a function of
the number of records, and the answer of `adapter.cancel`, which no call asks twice. The answers of
`adapter.wait` and the seconds since the start of the run are arguments where they are read. Seconds
are rational numbers.
-/

namespace Plachem

/-- An update of the policy that changes nothing. -/
def PolicyUpdate.none : PolicyUpdate :=
  ⟨.none, .none, .none, .none, .none, .none, .none, .none, .none⟩

namespace CoreEngine

open RegistryFile (safeText)

/-! ## Profiles -/

inductive RuntimeClass where
  | LOCAL
  | CLOUD
  | UNKNOWN
  deriving DecidableEq

/-- The fields of a `RuntimeModelProfile` that the engine reads after the dispatch. -/
structure RuntimeModelProfile where
  runtime_class : RuntimeClass
  max_runtime : ℚ
  execution_budget : ℚ
  finalization_recovery_budget : ℚ

/-- The profile of a task class with this runtime. -/
def profile_of (maximum : ℚ) : RuntimeModelProfile :=
  let reserve := min 60 (maximum / 5)
  ⟨.LOCAL, maximum, maximum - reserve, reserve⟩

/-- `task_runtime_profile` -/
def task_runtime_profile : String → Option RuntimeModelProfile
  | "QUICK" => some (profile_of 120)
  | "STANDARD" => some (profile_of 300)
  | "LONG_CODING" => some (profile_of 600)
  | "HEAVY_VALIDATION" => some (profile_of 900)
  | "WAR_ROOM" => some (profile_of 3600)
  | _ => none

/-- `neutral_runtime_profile` -/
def neutral_runtime_profile : RuntimeModelProfile := profile_of 300

/-- `_profile_for_record` -/
def profile_for_record (record : RunRecord) : RuntimeModelProfile :=
  match record.policy.task_class.json with
  | .str task_class => (task_runtime_profile task_class).getD neutral_runtime_profile
  | _ => neutral_runtime_profile

/-- `RuntimePolicyEngine._reason` -/
def policy_reason : String → String
  | "RUNTIME_LIMIT" => "EXECUTION_RUNTIME_LIMIT"
  | "TOOL_BUDGET" => "TOOL_CALL_LIMIT"
  | "LOOP_GUARD" => "REPETITIVE_TOOL_CALL"
  | "LOOP_DETECTED" => "LOOP_DETECTED"
  | "RETRY_LIMIT" => "RETRY_LIMIT"
  | "GOAL_DRIFT" => "LOOP_DETECTED"
  | suffix => "EXECUTION_" ++ suffix

/-! ## The state and its primitives -/

/-- The part of an engine that the observation of runs changes. -/
structure Core where
  log : Log
  /-- The runs with a deadline timer that has not fired. -/
  timers : List String
  /-- The calls of `adapter.cancel`. -/
  aborts : List String

/-- How `adapter.cancel` ends. -/
inductive Aborted where
  | confirmed (binding : RunBinding)
  /-- `AdapterError` or `TimeoutError` -/
  | failed
  | raised

/-- How `adapter.wait` ends. -/
inductive Waited where
  | outcome (o : AdapterOutcome)
  /-- `TimeoutError` -/
  | timeout
  /-- `TransportError` -/
  | transport
  /-- Another `AdapterError`. -/
  | rejected
  | raised

/-- What a call is told. -/
structure ObserveEnv where
  /-- The clock at a record, by the number of records before it. -/
  now : Nat → String
  event_at : Nat → String
  /-- `round(seconds, 3)` as it is written. -/
  round : ℚ → FloatText
  abort : Aborted
  safe_now : ∀ n, safeText (now n) = true
  safe_event_at : ∀ n, safeText (event_at n) = true

abbrev Act (α : Type) := Effect ObserveError Core α

/-- A read of the registry. -/
def require (id : String) : Act RunRecord := do
  let s ← get
  match RunRegistry.require s.log id with
  | .ok record => pure record
  | .error e => throw (.registry e)

/-- A mutation of the registry. -/
def mutate (m : Log → Except RegistryError (RunRecord × Log)) : Act RunRecord := do
  let s ← get
  match m s.log with
  | .ok (record, log) =>
    set { s with log := log }
    pure record
  | .error e => throw (.registry e)

variable (env : ObserveEnv)

def transition (id : String) (status : CoreRunStatus) (binding : Option RunBinding)
    (outcome : Option AdapterOutcome) (reason : String) : Act RunRecord :=
  mutate fun log => RunRegistry.transition log id status binding outcome reason (env.now log.length)

def update_goal_state (id : String) (args : GoalUpdate) : Act RunRecord :=
  mutate fun log => RunRegistry.update_goal_state log id args (env.event_at log.length)
    (env.now log.length)

def update_policy (id : String) (args : PolicyUpdate) : Act RunRecord :=
  mutate fun log => RunRegistry.update_policy log id args (env.event_at log.length)
    (env.now log.length)

/-- `_clear_runtime_deadline` -/
def clear_runtime_deadline (id : String) : Act Unit :=
  modify fun s => { s with timers := s.timers.filter (· ≠ id) }

/-- `self.adapter.cancel`; `none` is the `AdapterError` or `TimeoutError` that the callers catch. -/
def cancel_worker (id : String) : Act (Option RunBinding) := do
  modify fun s => { s with aborts := s.aborts ++ [id] }
  match env.abort with
  | .confirmed binding => pure (some binding)
  | .failed => pure none
  | .raised => throw .adapter

/-- `_runtime_seconds`, for a clock that reads these seconds after the start of the run. -/
def runtime_seconds (record : RunRecord) (reading : ℚ) : ℚ :=
  match record.started_at with
  | none => 0
  | some _ => max 0 reading

/-- `self.registry.update_policy(core_run_id, runtime_seconds=seconds)` -/
def record_runtime (id : String) (seconds : ℚ) : Act Unit :=
  discard <| update_policy env id { PolicyUpdate.none with
    runtime_seconds := some (env.round (max 0 seconds)) }

/-! ## The end of a run by the policy -/

/-- `list(value or default)` -/
def list_or (value : Option Value) (default : List Value) : List Value :=
  match value.bind Value.list? with
  | some (x :: xs) => x :: xs
  | _ => default

/-- `_escalation_package` -/
def escalation_package (record : RunRecord) (reason : String) : Dict :=
  let contract := record.goal_contract
  let remaining := list_or
    ((record.progress_checkpoint.getD Dict.empty).value? "remaining_conditions")
    (contract.completion_conditions.map .str)
  Dict.ofList [
    ("goal_contract", .ofDict contract.as_dict),
    ("verified_progress", .ofDict record.verified_progress),
    ("original_goal", .str contract.primary_objective),
    ("verified_completed_work",
      .list (list_or (record.verified_progress.value? "completed_conditions") [])),
    ("remaining_work", .list remaining),
    ("known_blocker", .str reason),
    ("allowed_scope", .strs contract.allowed_scope),
    ("forbidden_scope", .strs contract.forbidden_scope),
    ("relevant_evidence", .list (list_or (record.verified_progress.value? "evidence") [])),
    ("source_agent", .str record.agent_id),
    ("source_runtime_class", record.policy.runtime_class),
    ("failure_reason", .str reason)] (by simp)

/-- The abort of the worker and the end of the run in `_cancel_for_policy`. -/
def abort_and_end (id cancel_reason : String) : Act RunRecord := do
  match ← cancel_worker env id with
  | none =>
    clear_runtime_deadline id
    transition env id .FAIL none none "POLICY_ABORT_FAILED"
  | some binding =>
    clear_runtime_deadline id
    transition env id .CANCELLED (some binding) none cancel_reason

/-- The escalation of a run that has no context left, in `_cancel_for_policy`. -/
def escalate (id cancel_reason : String) (record : RunRecord) : Act Unit :=
  if cancel_reason = "LOCAL_LLM_GOAL_DRIFT" then
    match int_of (some record.policy.max_context_resets.json) with
    | .error e => throw e
    | .ok max_context_resets =>
      if max_context_resets ≤ record.context_reset_count then
        discard <| update_goal_state env id { GoalUpdate.none with
          event_code := some "ESCALATION_REQUIRED"
          goal_status := some "DRIFT"
          escalation_reason := some cancel_reason
          escalation_package := some (escalation_package record cancel_reason) }
      else pure ()
  else pure ()

/-- `_cancel_for_policy`, from the event on. -/
def end_for_policy (id cancel_reason : String) : Act RunRecord := do
  let record ← require id
  escalate env id cancel_reason record
  abort_and_end env id cancel_reason

/-- `_cancel_for_policy`; the reason is given where the event is already recorded. -/
def cancel_for_policy (id event_code : String) (recorded : Option String) : Act RunRecord :=
  match recorded with
  | some reason => end_for_policy env id reason
  | none => do
    let cancel_reason := policy_reason event_code
    discard <| update_policy env id { PolicyUpdate.none with
      event_code := some event_code
      cancel_reason := some cancel_reason
      policy_status := some "GUARDED" }
    end_for_policy env id cancel_reason

/-! ## Checkpoints and outcomes -/

variable {ρ : Type} (engine : Engine ρ)

/-- The update of a run that its checkpoint leaves to go on, or guards. -/
def checkpoint_update (judgement : Judgement) (drift_count : Int) (goal_status : String)
    (reinjection_ready : Bool) (event_code : Option String) : GoalUpdate :=
  { GoalUpdate.none with
    checkpoint := some judgement.normalized.toDict
    verified_progress := some judgement.verified
    goal_state := some (judgement.goal_state.set "drift_count" (.int drift_count))
    goal_status := some goal_status
    reinjection_ready := some reinjection_ready
    event_code := event_code
    event_details := event_code.map fun _ =>
      Dict.ofList [("occurrence", .int drift_count)] (by simp) }

/-- `observe_progress_checkpoint` -/
def observe_progress_checkpoint (id : String) (checkpoint : Dict) : Act RunRecord := do
  let record ← require id
  if record.status ∈ CoreRunStatus.terminal then pure record
  else
    match judge engine record checkpoint with
    | .error e => throw e
    | .ok judgement =>
      match judgement.event_code with
      | none => update_goal_state env id (checkpoint_update judgement 0 "NORMAL" false none)
      | some event_code =>
        match int_of (judgement.goal_state.get? "drift_count") with
        | .error e => throw e
        | .ok count =>
          let drift_count := count + 1
          discard <| update_goal_state env id (checkpoint_update judgement drift_count
            (if drift_count = 1 then "GUARDED" else "DRIFT") true (some event_code))
          if 2 ≤ drift_count then
            discard <| require id
            cancel_for_policy env id event_code (some "LOCAL_LLM_GOAL_DRIFT")
          else require id

/-- `outcome.result["progress_checkpoint"]`, if it is a mapping. -/
def progress_checkpoint_of (outcome : AdapterOutcome) : Option Dict :=
  (outcome.result.bind fun result => result.value? "progress_checkpoint").bind Value.dict?

/-- The last two statements of `_apply_adapter_outcome`. -/
def finish_outcome (id : String) (outcome : AdapterOutcome) : Act RunRecord := do
  clear_runtime_deadline id
  transition env id outcome.status none (some outcome) ""

/-- The branch of `_apply_adapter_outcome` for a checkpoint. -/
def apply_checkpoint (id : String) (outcome : AdapterOutcome) (checkpoint : Dict) :
    Act RunRecord := do
  let observed ← tryCatch (some <$> observe_progress_checkpoint env engine id checkpoint)
    fun e => if e.is_value then pure none else throw e
  match observed with
  | none =>
    discard <| update_goal_state env id { GoalUpdate.none with
      event_code := some "GOAL_CHECKPOINT_INVALID"
      goal_status := some "DRIFT" }
    clear_runtime_deadline id
    transition env id .BLOCKED none none "GOAL_CHECKPOINT_INVALID"
  | some observed =>
    if observed.status ∈ CoreRunStatus.terminal then
      clear_runtime_deadline id
      pure observed
    else if observed.goal_status ∈ ["GUARDED", "DRIFT"] then
      match goal_state_of observed with
      | .error e => throw e
      | .ok goal_state =>
        discard <| update_goal_state env id { GoalUpdate.none with
          goal_state := some (goal_state.set "openclaw_completed" (.bool true)) }
        clear_runtime_deadline id
        require id
    else finish_outcome env id outcome

/-- `_apply_adapter_outcome` -/
def apply_adapter_outcome (id : String) (outcome : AdapterOutcome) : Act RunRecord := do
  if outcome.status = .RUNNING then require id
  else if outcome.status = .TIMEOUT then
    if outcome.reason ≠ "OPENCLAW_TERMINAL_TIMEOUT" then
      if (← cancel_worker env id).isNone then
        discard <| update_policy env id { PolicyUpdate.none with
          event_code := some "TIMEOUT_ABORT_FAILED"
          cancel_reason := some "TIMEOUT_ABORT_FAILED"
          policy_status := some "GUARDED" }
    clear_runtime_deadline id
    transition env id .TIMEOUT none (some outcome) ""
  else
    match progress_checkpoint_of outcome with
    | some checkpoint => apply_checkpoint env engine id outcome checkpoint
    | none => finish_outcome env id outcome

/-! ## The calls that ask the adapter -/

/-- An outcome that the engine makes up. -/
def made_up (status : CoreRunStatus) (reason : String) : AdapterOutcome :=
  ⟨status, reason, none, "", 0, "", none, none⟩

/-- What `_finalize_local_execution` is told: the clock before and after, and the answer. -/
structure Collection where
  reading₀ : ℚ
  answer : Waited
  reading : ℚ

/-- The event of a run whose execution budget is over, if it has none. -/
def note_exhausted (id : String) (profile : RuntimeModelProfile) (record : RunRecord) : Act Unit :=
  if record.policy_events.all fun event => event.code ≠ "EXECUTION_BUDGET_EXHAUSTED" then
    discard <| update_policy env id { PolicyUpdate.none with
      event_code := some "EXECUTION_BUDGET_EXHAUSTED"
      event_details := some (Dict.ofList [
        ("execution_budget", .float (env.round profile.execution_budget)),
        ("finalization_recovery_budget", .float (env.round profile.finalization_recovery_budget))]
        (by simp))
      policy_status := some "GUARDED" }
  else pure ()

/-- The outcome that is collected in the reserved budget. -/
def collected : Waited → Act AdapterOutcome
  | .outcome o => pure o
  | .timeout | .transport | .rejected => pure (made_up .RUNNING "FINALIZATION_COLLECTION_FAILED")
  | .raised => throw .adapter

/-- `_finalize_local_execution` -/
def finalize_local_execution (id : String) (profile : RuntimeModelProfile)
    (collection : Collection) : Act RunRecord := do
  let record ← require id
  if record.status ∈ CoreRunStatus.terminal then pure record
  else
    note_exhausted env id profile record
    let elapsed := runtime_seconds (← require id) collection.reading₀
    if profile.max_runtime - elapsed ≤ 0 then cancel_for_policy env id "RUNTIME_LIMIT" none
    else
      let outcome ← collected collection.answer
      let elapsed := runtime_seconds (← require id) collection.reading
      record_runtime env id elapsed
      if profile.max_runtime ≤ elapsed then cancel_for_policy env id "RUNTIME_LIMIT" none
      else if outcome.status ∈ CoreRunStatus.terminal ∧
          ¬(outcome.status = .TIMEOUT ∧ outcome.reason = "OPENCLAW_TIMEOUT") then
        apply_adapter_outcome env engine id outcome
      else cancel_for_policy env id "RUNTIME_LIMIT" none

/-- A turn of the loop in `wait`: the clock before and after, the answer, and whether a cancellation
is asked for by then. -/
structure Poll where
  reading₀ : ℚ
  answer : Waited
  reading : ℚ
  guarded : Bool

/-- The outcome of a poll, which records an exception that is caught. -/
def polled (id : String) : Waited → Act AdapterOutcome
  | .outcome o => pure o
  | .timeout => do
    discard <| update_policy env id { PolicyUpdate.none with event_code := some "OBSERVATION_TIMEOUT" }
    pure (made_up .RUNNING "OBSERVATION_TIMEOUT")
  | .transport => do
    discard <| update_policy env id { PolicyUpdate.none with
      event_code := some "OBSERVATION_TRANSPORT_FAILURE" }
    pure (made_up .RUNNING "OBSERVATION_TRANSPORT_FAILURE")
  | .rejected => pure (made_up .FAIL "WAIT_REJECTED")
  | .raised => throw .adapter

/-- The bound of the next poll: what is asked for and what is left of the budgets. -/
def bounded_wait (managed : Bool) (profile : RuntimeModelProfile) (requested_wait elapsed : ℚ) : ℚ :=
  if managed then requested_wait
  else
    let remaining := profile.max_runtime - elapsed
    min (min requested_wait remaining)
      (if profile.runtime_class = .LOCAL then profile.execution_budget - elapsed else remaining)

/-- How a turn of the loop in `wait` ends. -/
inductive Turn where
  | returned (record : RunRecord)
  /-- `break` -/
  | observed (outcome : AdapterOutcome)
  | again

/-- A turn of the loop in `wait`. -/
def wait_turn (id : String) (profile : RuntimeModelProfile) (requested_wait : ℚ)
    (collection : Collection) (poll : Poll) : Act Turn := do
  let record ← require id
  let elapsed_before := runtime_seconds record poll.reading₀
  record_runtime env id elapsed_before
  let managed := record.watchdog_managed
  if managed = false ∧ profile.max_runtime - elapsed_before ≤ 0 then
    .returned <$> cancel_for_policy env id "RUNTIME_LIMIT" none
  else if profile.runtime_class = .LOCAL ∧ managed = false ∧
      profile.execution_budget - elapsed_before ≤ 0 then
    .returned <$> finalize_local_execution env engine id profile collection
  else
    let bounded := bounded_wait managed profile requested_wait elapsed_before
    let outcome ← polled env id poll.answer
    let elapsed := runtime_seconds (← require id) poll.reading
    record_runtime env id elapsed
    if poll.guarded then .returned <$> require id
    else if managed = false ∧ profile.runtime_class = .LOCAL ∧ profile.execution_budget ≤ elapsed ∧
        (outcome.status = .RUNNING ∨ outcome.status = .TIMEOUT) then
      .returned <$> finalize_local_execution env engine id profile collection
    else if managed = false ∧ profile.max_runtime ≤ elapsed ∧
        (outcome.status = .RUNNING ∨ outcome.status = .TIMEOUT) then
      .returned <$> cancel_for_policy env id "RUNTIME_LIMIT" none
    else if outcome.status ≠ .TIMEOUT then pure (.observed outcome)
    else if managed ∧ outcome.reason = "OPENCLAW_TIMEOUT" then .returned <$> require id
    else if profile.runtime_class ≠ .LOCAL then .returned <$> require id
    else if outcome.reason ≠ "OPENCLAW_TIMEOUT" then pure (.observed outcome)
    else if elapsed - elapsed_before < min 1 (bounded / 2) then .returned <$> require id
    else pure .again

/-- The last section of `wait`, which holds the lock of the engine. -/
def wait_apply (id : String) (guarded : Bool) (outcome : AdapterOutcome) : Act RunRecord := do
  let current ← require id
  if current.status ∈ CoreRunStatus.terminal then pure current
  else if guarded then pure current
  else apply_adapter_outcome env engine id outcome

/-- The loop of `wait`, and what it does with the outcome that it is left with. -/
def wait_loop (id : String) (profile : RuntimeModelProfile) (requested_wait : ℚ)
    (collection : Collection) (guarded : Bool) : List Poll → Act RunRecord
  | [] => throw .pending
  | poll :: polls => do
    match ← wait_turn env engine id profile requested_wait collection poll with
    | .returned record => pure record
    | .observed outcome => wait_apply env engine id guarded outcome
    | .again => wait_loop id profile requested_wait collection guarded polls

/-- `wait` -/
def wait (id : String) (timeout_seconds : ℚ) (collection : Collection) (guarded : Bool)
    (polls : List Poll) : Act RunRecord := do
  let record ← require id
  if record.status ∈ CoreRunStatus.terminal then pure record
  else if timeout_seconds ≤ 0 then throw (.value "INVALID_TIMEOUT")
  else
    wait_loop env engine id (profile_for_record record) timeout_seconds collection guarded polls

/-- `_enforce_runtime_deadline`: the timer has fired. -/
def enforce_runtime_deadline (id : String) (collection : Collection) : Act Unit := do
  let s ← get
  match RunRegistry.get s.log id with
  | .error e => throw (.registry e)
  | .ok none => clear_runtime_deadline id
  | .ok (some record) =>
    if record.status ∈ CoreRunStatus.terminal then clear_runtime_deadline id
    else
      let profile := profile_for_record record
      if record.watchdog_managed then pure ()
      else if profile.runtime_class = .LOCAL then
        record_runtime env id profile.execution_budget
        discard <| finalize_local_execution env engine id profile collection
      else
        record_runtime env id profile.max_runtime
        discard <| cancel_for_policy env id "RUNTIME_LIMIT" none

/-- The last section of `reconcile_external_completion`. -/
def reconcile_apply (id : String) (outcome : AdapterOutcome) : Act RunRecord := do
  let record ← require id
  if record.status ∈ CoreRunStatus.terminal then pure record
  else if outcome.status ∉ CoreRunStatus.terminal then pure record
  else
    clear_runtime_deadline id
    transition env id outcome.status none (some outcome) outcome.reason

/-- `reconcile_external_completion` -/
def reconcile_external_completion (id : String) (answer : Waited) : Act RunRecord := do
  let record ← require id
  if record.status ∈ CoreRunStatus.terminal then pure record
  else
    match answer with
    | .outcome outcome => reconcile_apply env id outcome
    | .timeout | .transport | .rejected => require id
    | .raised => throw .adapter

/-! ## The calls that end a run -/

/-- `cancel` -/
def cancel (id : String) : Act RunRecord := do
  let record ← require id
  if record.status = .CANCELLED then pure record
  else if record.status ∈ CoreRunStatus.terminal then
    if (record.status = .TIMEOUT ∨ record.status = .FAIL) ∧ record.openclaw_binding.isSome then
      discard <| cancel_worker env id
      require id
    else throw (.value ("RUN_ALREADY_TERMINAL:" ++ record.status.value))
  else if record.status = .QUEUED then transition env id .CANCELLED none none "CORE_CANCELLED"
  else
    match ← cancel_worker env id with
    | none => throw .adapter
    | some binding =>
      clear_runtime_deadline id
      transition env id .CANCELLED (some binding) none "OPENCLAW_ABORTED"

/-- `mark_user_cancelled` -/
def mark_user_cancelled (id : String) : Act RunRecord := do
  let record ← require id
  if record.status ∈ CoreRunStatus.terminal then pure record
  else
    clear_runtime_deadline id
    transition env id .CANCELLED none none "USER_CANCEL"

/-- `mark_user_cancelled_after_abort` -/
def mark_user_cancelled_after_abort (id : String) : Act RunRecord := do
  let record ← require id
  if record.status = .FAIL ∧ record.reason = "OPENCLAW_ERROR" then
    clear_runtime_deadline id
    mutate fun log => RunRegistry.reconcile_abort_observation log id (env.now log.length)
  else if record.status ∉ CoreRunStatus.terminal then
    clear_runtime_deadline id
    transition env id .CANCELLED none none "USER_CANCEL"
  else pure record

end CoreEngine

end Plachem
