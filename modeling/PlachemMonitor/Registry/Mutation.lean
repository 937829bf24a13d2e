import PlachemMonitor.Registry.Log
import PlachemMonitor.Spec.Machine
import PlachemMonitor.Spec.Result

/-!
# The mutators of the registry

`create`, `transition`, `reconcile_abort_observation`, `update_goal_state` and `update_policy`,
each under the file lock: a function of the log that raises, or returns a record and the log with
at most one record more. Clock readings and generated ids are arguments.

`registry` is the machine of all mutators, from any number of processes. What one mutation can do
is said once: it appends nothing, or a record that `Mutation.Appends` allows
(`Mutation.run_cases`). The invariants of the log follow from that.
-/

namespace Plachem

/-! ## The records that are written -/

namespace RunRecord

/-- What `transition` makes of a record. -/
def transitioned (record : RunRecord) (status : CoreRunStatus) (binding : Option RunBinding)
    (outcome : Option AdapterOutcome) (reason now : String) : RunRecord :=
  let record := { record with status := status, updated_at := now }
  let record :=
    if status = .RUNNING then { record with started_at := some now } else record
  let record :=
    match binding with
    | none => record
    | some b => { record with openclaw_binding := some b.recorded }
  if status ∈ CoreRunStatus.terminal then
    let record :=
      { record with
        completed_at := some now
        reason :=
          if reason = "" then
            match outcome with
            | some o => o.reason
            | none => ""
          else reason
        result := outcome.bind AdapterOutcome.result }
    let record :=
      match outcome with
      | none => record
      | some o =>
        { record with
          format_error := o.format_error
          format_recovery_attempts := o.format_recovery_attempts
          format_recovery_rejection := o.format_recovery_rejection
          raw_response := o.raw_response
          rejected_result := o.rejected_result }
    if status = .CANCELLED then
      { record with cancel_reason := record.reason, policy_status := "CANCELLED" }
    else record
  else record

/-- What `reconcile_abort_observation` makes of a record. -/
def reconciled (record : RunRecord) (now : String) : RunRecord :=
  { record with
    status := .CANCELLED
    updated_at := now
    completed_at := some now
    reason := "USER_CANCEL"
    cancel_reason := "USER_CANCEL"
    policy_status := "CANCELLED" }

theorem transitioned_identity (r : RunRecord) (status : CoreRunStatus)
    (binding : Option RunBinding) (outcome : Option AdapterOutcome) (reason now : String) :
    (r.transitioned status binding outcome reason now).identity = r.identity := by
  unfold transitioned
  cases status <;> cases binding <;> cases outcome <;> rfl

theorem transitioned_status (r : RunRecord) (status : CoreRunStatus)
    (binding : Option RunBinding) (outcome : Option AdapterOutcome) (reason now : String) :
    (r.transitioned status binding outcome reason now).status = status := by
  unfold transitioned
  cases status <;> cases binding <;> cases outcome <;> rfl

theorem transitioned_policy_state (r : RunRecord) (status : CoreRunStatus)
    (binding : Option RunBinding) (outcome : Option AdapterOutcome) (reason now : String) :
    (r.transitioned status binding outcome reason now).policy_state = r.policy_state := by
  unfold transitioned
  cases status <;> cases binding <;> cases outcome <;> rfl

end RunRecord

/-- The arguments of `RunRegistry.create`. -/
structure CreateArgs where
  core_run_id : Option String
  agent_id : String
  idempotency_key : String
  request_hash : String
  policy : Dict
  goal_contract : GoalContract
  parent_core_run_id : Option String
  context_reset_count : Int
  approved_paths : Option (List String)
  watchdog_managed : Bool

/-- `policy.get(key, default)` -/
def Dict.getD (d : Dict) (key : String) (default : Value) : Value :=
  match h : d.get? key with
  | none => default
  | some v => ⟨v, wf_get? h⟩

namespace CreateArgs

/-- `core_run_id or self._run_id_factory()` -/
def actual_id (args : CreateArgs) (fresh : String) : String :=
  match args.core_run_id with
  | none => fresh
  | some id => if id = "" then fresh else id

/-- The first record of a run. -/
def record (args : CreateArgs) (actual_id now : String) : RunRecord where
  core_run_id := actual_id
  agent_id := args.agent_id
  idempotency_key := args.idempotency_key
  request_hash := args.request_hash
  status := .QUEUED
  created_at := now
  updated_at := now
  started_at := none
  completed_at := none
  reason := ""
  result := none
  raw_response := none
  rejected_result := none
  format_error := ""
  format_recovery_attempts := 0
  format_recovery_rejection := ""
  openclaw_binding := none
  policy :=
    { runtime_class := args.policy.getD "runtime_class" (.str "UNKNOWN")
      task_class := args.policy.getD "task_class" (.str "STANDARD")
      model_profile := args.policy.getD "model_profile" .null
      policy_profile := args.policy.getD "policy_profile" (.str "UNKNOWN")
      max_runtime := args.policy.getD "max_runtime" .null
      execution_budget := args.policy.getD "execution_budget" .null
      finalization_recovery_budget := args.policy.getD "finalization_recovery_budget" .null
      max_retries := args.policy.getD "max_retries" .null
      max_tool_calls := args.policy.getD "max_tool_calls" .null
      context_policy := args.policy.getD "context_policy" (.str "MANUAL")
      fallback_policy := args.policy.getD "fallback_policy" (.str "NONE")
      max_context_resets := args.policy.getD "max_context_resets" (.int 0) }
  runtime_seconds := .zero
  retry_count := 0
  tool_call_count := none
  tool_call_metric := "UNSUPPORTED"
  policy_status := "NORMAL"
  policy_events := []
  cancel_reason := ""
  policy_state := Dict.empty.set "retry_count" (.int 0) |>.set "tool_call_count" .null
  goal_contract := args.goal_contract
  goal_status := "NORMAL"
  goal_reinjection_ready := false
  progress_checkpoint := none
  verified_progress :=
    Dict.empty.set "completed_conditions" (.strs []) |>.set "artifacts" (.strs [])
      |>.set "evidence" (.strs []) |>.set "scope" (.strs [])
  context_reset_count := args.context_reset_count
  parent_core_run_id := args.parent_core_run_id
  approved_paths := args.approved_paths.getD []
  watchdog_managed := args.watchdog_managed
  escalation_required := false
  escalation_reason := ""
  escalation_package := none

end CreateArgs

/-- The arguments of `RunRegistry.update_goal_state` after the run id. -/
structure GoalUpdate where
  checkpoint : Option Dict
  verified_progress : Option Dict
  goal_state : Option Dict
  goal_status : Option String
  reinjection_ready : Option Bool
  event_code : Option String
  event_details : Option Dict
  escalation_reason : Option String
  escalation_package : Option Dict

/-- An update that changes nothing. -/
def GoalUpdate.none : GoalUpdate :=
  ⟨.none, .none, .none, .none, .none, .none, .none, .none, .none⟩

/-- The arguments of `RunRegistry.update_policy` after the run id. `runtime_seconds` is
`round(max(0.0, float(runtime_seconds)), 3)`: floats are not computed here. -/
structure PolicyUpdate where
  runtime_seconds : Option FloatText
  retry_count : Option Int
  tool_call_count : Option Int
  tool_call_metric : Option String
  policy_state : Option Dict
  event_code : Option String
  event_details : Option Dict
  cancel_reason : Option String
  policy_status : Option String

namespace RunRecord

/-- The entries that an event code adds to `policy_events`. -/
def newEvents (code : Option String) (event_at : String) (details : Option Dict) :
    List PolicyEvent :=
  match code with
  | none => []
  | some code => [⟨code, event_at, details.getD Dict.empty⟩]

/-- What `update_goal_state` makes of a record. -/
def goalUpdated (record : RunRecord) (args : GoalUpdate) (event_at now : String) :
    Except RegistryError RunRecord := do
  let immutable_contract := record.goal_contract
  if ∃ s ∈ args.goal_status, s ∉ ["NORMAL", "GUARDED", "DRIFT"] then
    throw (.value "INVALID_GOAL_STATUS")
  -- `if event_code:`
  let event_code := args.event_code.filter (· ≠ "")
  let record :=
    { record with
      progress_checkpoint := args.checkpoint <|> record.progress_checkpoint
      verified_progress := args.verified_progress.getD record.verified_progress
      policy_state :=
        match args.goal_state with
        | none => record.policy_state
        | some goal => record.policy_state.set "goal" (.ofDict goal)
      goal_status := args.goal_status.getD record.goal_status
      goal_reinjection_ready := args.reinjection_ready.getD record.goal_reinjection_ready
      policy_events := record.policy_events ++ newEvents event_code event_at args.event_details
      policy_status := if event_code.isSome then "GUARDED" else record.policy_status
      escalation_required := args.escalation_reason.isSome || record.escalation_required
      escalation_reason := args.escalation_reason.getD record.escalation_reason
      escalation_package := args.escalation_package <|> record.escalation_package }
  if record.goal_contract ≠ immutable_contract then throw (.value "GOAL_CONTRACT_IMMUTABLE")
  pure { record with updated_at := now }

/-- What `update_policy` makes of a record. -/
def policyUpdated (record : RunRecord) (args : PolicyUpdate) (event_at now : String) :
    Except RegistryError RunRecord := do
  if ∃ m ∈ args.tool_call_metric, m ∉ ["SUPPORTED", "UNSUPPORTED"] then
    throw (.value "INVALID_TOOL_CALL_METRIC")
  let tool_call_metric := args.tool_call_metric.getD record.tool_call_metric
  if args.tool_call_count.isSome ∧ args.tool_call_metric ≠ some "SUPPORTED" ∧
      tool_call_metric ≠ "SUPPORTED" then
    throw (.value "UNOBSERVABLE_TOOL_COUNT")
  pure
    { record with
      runtime_seconds := args.runtime_seconds.getD record.runtime_seconds
      retry_count := (args.retry_count.map (max 0)).getD record.retry_count
      tool_call_metric := tool_call_metric
      tool_call_count := args.tool_call_count.map (max 0) <|> record.tool_call_count
      policy_state := args.policy_state.getD record.policy_state
      policy_events :=
        record.policy_events ++ newEvents args.event_code event_at args.event_details
      policy_status :=
        match args.event_code with
        -- `policy_status or "GUARDED"`
        | some _ => (args.policy_status.filter (· ≠ "")).getD "GUARDED"
        | none => args.policy_status.getD record.policy_status
      cancel_reason := args.cancel_reason.getD record.cancel_reason
      updated_at := now }

/-- Some field other than `updated_at` differs. -/
def changed (before record : RunRecord) : Bool :=
  !decide (Dict.Eqv before.toDict { record with updated_at := before.updated_at }.toDict)

end RunRecord

/-! ## The mutators -/

namespace RunRegistry

/-- The last record of the run; without one the mutators raise. -/
def require (log : Log) (core_run_id : String) : Except RegistryError RunRecord := do
  match ← get log core_run_id with
  | none => throw (.value ("UNKNOWN_CORE_RUN:" ++ core_run_id))
  | some record => pure record

/-- `RunRegistry.create` -/
def create (log : Log) (args : CreateArgs) (fresh now : String) :
    Except RegistryError ((RunRecord × Bool) × Log) := do
  let actual_id := args.actual_id fresh
  match ← get log actual_id with
  | some existing =>
    if existing.idempotency_key ≠ args.idempotency_key ∨
        existing.request_hash ≠ args.request_hash then
      throw (.value "IDEMPOTENCY_CONFLICT")
    else pure ((existing, false), log)
  | none =>
    match ← get_by_idempotency log args.idempotency_key with
    | some duplicate =>
      if duplicate.core_run_id = actual_id ∧ duplicate.request_hash = args.request_hash then
        pure ((duplicate, false), log)
      else throw (.value "DUPLICATE_DISPATCH")
    | none =>
      let record := args.record actual_id now
      pure ((record, true), log ++ [record])

/-- `RunRegistry.transition` -/
def transition (log : Log) (core_run_id : String) (status : CoreRunStatus)
    (binding : Option RunBinding) (outcome : Option AdapterOutcome) (reason now : String) :
    Except RegistryError (RunRecord × Log) := do
  let record ← require log core_run_id
  if status = record.status then pure (record, log)
  else if status ∉ record.status.transitions then
    throw (.value ("INVALID_RUN_TRANSITION:" ++ record.status.value ++ "->" ++ status.value))
  else
    let record := record.transitioned status binding outcome reason now
    pure (record, log ++ [record])

/-- `RunRegistry.reconcile_abort_observation` -/
def reconcile_abort_observation (log : Log) (core_run_id now : String) :
    Except RegistryError (RunRecord × Log) := do
  let record ← require log core_run_id
  if record.status ≠ .FAIL ∨ record.reason ≠ "OPENCLAW_ERROR" then pure (record, log)
  else
    let record := record.reconciled now
    pure (record, log ++ [record])

/-- `RunRegistry.update_goal_state` -/
def update_goal_state (log : Log) (core_run_id : String) (args : GoalUpdate)
    (event_at now : String) : Except RegistryError (RunRecord × Log) := do
  let record ← require log core_run_id
  let record ← record.goalUpdated args event_at now
  pure (record, log ++ [record])

/-- `RunRegistry.update_policy` -/
def update_policy (log : Log) (core_run_id : String) (args : PolicyUpdate)
    (event_at now : String) : Except RegistryError (RunRecord × Log) := do
  let before ← require log core_run_id
  let record ← before.policyUpdated args event_at now
  if before.changed record then pure (record, log ++ [record]) else pure (record, log)

end RunRegistry

/-- A call of a mutator, with the clock readings and the generated id. -/
inductive Mutation where
  | create (args : CreateArgs) (fresh now : String)
  | transition (core_run_id : String) (status : CoreRunStatus) (binding : Option RunBinding)
    (outcome : Option AdapterOutcome) (reason now : String)
  | reconcile_abort_observation (core_run_id now : String)
  | update_goal_state (core_run_id : String) (args : GoalUpdate) (event_at now : String)
  | update_policy (core_run_id : String) (args : PolicyUpdate) (event_at now : String)

namespace Mutation

/-- The call under the lock. -/
def apply (log : Log) : Mutation → Except RegistryError (RunRecord × Log)
  | create args fresh now =>
    (RunRegistry.create log args fresh now).map fun ((record, _), log) => (record, log)
  | transition id status binding outcome reason now =>
    RunRegistry.transition log id status binding outcome reason now
  | reconcile_abort_observation id now => RunRegistry.reconcile_abort_observation log id now
  | update_goal_state id args event_at now =>
    RunRegistry.update_goal_state log id args event_at now
  | update_policy id args event_at now => RunRegistry.update_policy log id args event_at now

/-- The log after the call: a call that raises appends nothing. -/
def run (log : Log) (m : Mutation) : Log :=
  match m.apply log with
  | .ok (_, log') => log'
  | .error _ => log

theorem run_of_apply {log log' : Log} {m : Mutation} {r : RunRecord}
    (h : m.apply log = .ok (r, log')) : m.run log = log' := by
  rw [run, h]

end Mutation

/-! ## What one mutation can do -/

namespace RunRegistry

theorem require_ok {log : Log} {id : String} {r : RunRecord} (h : require log id = .ok r) :
    last id log = some r := by
  obtain ⟨o, ho, h⟩ := bind_eq_ok.mp h
  rw [← get_ok ho]
  cases o with
  | none => exact absurd h throw_ne_ok
  | some r' => rw [pure_eq_ok.mp h]

theorem require_of_last {log : Log} (hsafe : ∀ r ∈ log, readable r = true) {id : String}
    {r : RunRecord} (h : last id log = some r) : require log id = .ok r := by
  rw [require, bind_of_ok (get_of_readable hsafe id), h]
  rfl

/-- A run that is there under the same key and hash is returned. -/
theorem create_existing {log : Log} (hsafe : ∀ r ∈ log, readable r = true) {args : CreateArgs}
    {fresh : String} {r : RunRecord} (h : last (args.actual_id fresh) log = some r)
    (hkey : r.idempotency_key = args.idempotency_key) (hhash : r.request_hash = args.request_hash)
    (now : String) : create log args fresh now = .ok ((r, false), log) := by
  simp only [create]
  rw [bind_of_ok (get_of_readable hsafe _), h]
  simp only [hkey, hhash, ne_eq, not_true_eq_false, or_self, ↓reduceIte]
  rfl

/-- A run that is there is asked for again under its key and its hash, or `create` raises. -/
theorem create_of_last {log : Log} {args : CreateArgs} {fresh now : String} {r : RunRecord}
    (h : last (args.actual_id fresh) log = some r) {out : (RunRecord × Bool) × Log}
    (hcreate : create log args fresh now = .ok out) :
    (∀ r ∈ log, readable r = true) ∧ r.idempotency_key = args.idempotency_key ∧
      r.request_hash = args.request_hash := by
  obtain ⟨o, ho, hcreate⟩ := bind_eq_ok.mp hcreate
  have hsafe := get_readable ho
  rw [get_of_readable hsafe, h] at ho
  cases ho
  dsimp only at hcreate
  split at hcreate
  · exact absurd hcreate throw_ne_ok
  · rename_i hsame
    simp only [ne_eq, not_or, not_not] at hsame
    exact ⟨hsafe, hsame⟩

/-- A status that follows the last one is appended. -/
theorem transition_of_last {log : Log} (hsafe : ∀ r ∈ log, readable r = true) {id : String}
    {r : RunRecord} (h : last id log = some r) {status : CoreRunStatus}
    (hstatus : status ∈ r.status.transitions) (hne : status ≠ r.status)
    (binding : Option RunBinding) (outcome : Option AdapterOutcome) (reason now : String) :
    transition log id status binding outcome reason now =
      .ok (r.transitioned status binding outcome reason now,
        log ++ [r.transitioned status binding outcome reason now]) := by
  rw [transition, bind_of_ok (require_of_last hsafe h), if_neg hne, if_neg (not_not.mpr hstatus)]
  rfl

/-- `create` returns a run it finds, or a new run under a new id and a new key. -/
theorem create_ok {log log' : Log} {args : CreateArgs} {fresh now : String} {r : RunRecord}
    {created : Bool} (h : create log args fresh now = .ok ((r, created), log')) :
    (created = false ∧ log' = log ∧ r ∈ log ∧ r.core_run_id = args.actual_id fresh ∧
      r.idempotency_key = args.idempotency_key ∧ r.request_hash = args.request_hash) ∨
    (created = true ∧ log' = log ++ [r] ∧ r = args.record (args.actual_id fresh) now ∧
      (∀ q ∈ log, q.core_run_id ≠ args.actual_id fresh) ∧
      ∀ q ∈ log, q.idempotency_key ≠ args.idempotency_key) := by
  obtain ⟨o, ho, h⟩ := bind_eq_ok.mp h
  have hlast := get_ok ho
  cases o with
  | some existing =>
    dsimp only at h
    split at h
    · cases h
    · rename_i hne
      simp only [ne_eq, not_or, not_not] at hne
      cases h
      obtain ⟨hmem, hid⟩ := last_some hlast.symm
      exact .inl ⟨rfl, rfl, hmem, hid, hne.1, hne.2⟩
  | none =>
    obtain ⟨o, hkey, h⟩ := bind_eq_ok.mp h
    cases o with
    | some duplicate =>
      dsimp only at h
      split at h
      · rename_i heq
        cases h
        obtain ⟨hmem, hk⟩ := get_by_idempotency_some hkey
        exact .inl ⟨rfl, rfl, hmem, heq.1, hk, heq.2⟩
      · cases h
    | none =>
      cases h
      exact .inr ⟨rfl, rfl, rfl, last_eq_none.mp hlast.symm, get_by_idempotency_none hkey⟩

end RunRegistry

namespace RunRecord

/-- `update_goal_state` touches neither what names the run nor how it ended, and of the policy
state only the goal. -/
theorem goalUpdated_ok {r r' : RunRecord} {args : GoalUpdate} {event_at now : String}
    (h : r.goalUpdated args event_at now = .ok r') :
    r'.identity = r.identity ∧ r'.ending = r.ending ∧
      r'.policy_state = match args.goal_state with
        | none => r.policy_state
        | some goal => r.policy_state.set "goal" (.ofDict goal) := by
  simp only [goalUpdated] at h
  split at h
  · cases h
  · simp only [ne_eq, not_true_eq_false, ↓reduceIte] at h
    cases h
    exact ⟨rfl, rfl, rfl⟩

/-- `update_policy` touches neither what names the run nor how it ended. -/
theorem policyUpdated_ok {r r' : RunRecord} {args : PolicyUpdate} {event_at now : String}
    (h : r.policyUpdated args event_at now = .ok r') :
    r'.identity = r.identity ∧ r'.ending = r.ending ∧
      r'.policy_state = args.policy_state.getD r.policy_state := by
  simp only [policyUpdated] at h
  split at h
  · cases h
  · split at h
    · cases h
    · cases h
      exact ⟨rfl, rfl, rfl⟩

end RunRecord

namespace Mutation

open RunRegistry (last)

/-- The records that a mutation can append to a log. -/
inductive Appends (log : Log) : Mutation → RunRecord → Prop
  | create {args : CreateArgs} {fresh now : String}
      (hid : ∀ q ∈ log, q.core_run_id ≠ args.actual_id fresh)
      (hkey : ∀ q ∈ log, q.idempotency_key ≠ args.idempotency_key) :
      Appends log (.create args fresh now) (args.record (args.actual_id fresh) now)
  | transition {id : String} {status : CoreRunStatus} {binding : Option RunBinding}
      {outcome : Option AdapterOutcome} {reason now : String} {r : RunRecord}
      (hlast : last id log = some r) (hstatus : status ∈ r.status.transitions) :
      Appends log (.transition id status binding outcome reason now)
        (r.transitioned status binding outcome reason now)
  | reconcile_abort_observation {id now : String} {r : RunRecord}
      (hlast : last id log = some r) (hstatus : r.status = .FAIL)
      (hreason : r.reason = "OPENCLAW_ERROR") :
      Appends log (.reconcile_abort_observation id now) (r.reconciled now)
  | update_goal_state {id : String} {args : GoalUpdate} {event_at now : String} {r r' : RunRecord}
      (hlast : last id log = some r) (h : r.goalUpdated args event_at now = .ok r') :
      Appends log (.update_goal_state id args event_at now) r'
  | update_policy {id : String} {args : PolicyUpdate} {event_at now : String} {r r' : RunRecord}
      (hlast : last id log = some r) (h : r.policyUpdated args event_at now = .ok r') :
      Appends log (.update_policy id args event_at now) r'

theorem apply_cases {log log' : Log} {m : Mutation} {r : RunRecord}
    (h : m.apply log = .ok (r, log')) : log' = log ∨ log' = log ++ [r] ∧ m.Appends log r := by
  cases m with
  | create args fresh now =>
    obtain ⟨⟨⟨r', created⟩, log''⟩, hc, heq⟩ := map_eq_ok.mp h
    obtain ⟨rfl, rfl⟩ := Prod.mk.inj heq
    rcases RunRegistry.create_ok hc with ⟨-, rfl, -⟩ | ⟨-, hlog, rfl, hid, hkey⟩
    · exact .inl rfl
    · exact .inr ⟨hlog, .create hid hkey⟩
  | transition id status binding outcome reason now =>
    obtain ⟨old, hold, h⟩ := bind_eq_ok.mp h
    split at h
    · cases h
      exact .inl rfl
    · split at h
      · cases h
      · rename_i hstatus
        cases h
        exact .inr ⟨rfl, .transition (RunRegistry.require_ok hold) (not_not.mp hstatus)⟩
  | reconcile_abort_observation id now =>
    obtain ⟨old, hold, h⟩ := bind_eq_ok.mp h
    split at h
    · cases h
      exact .inl rfl
    · rename_i hne
      simp only [ne_eq, not_or, not_not] at hne
      cases h
      exact .inr ⟨rfl, .reconcile_abort_observation (RunRegistry.require_ok hold) hne.1 hne.2⟩
  | update_goal_state id args event_at now =>
    obtain ⟨old, hold, h⟩ := bind_eq_ok.mp h
    obtain ⟨r', hr', h⟩ := bind_eq_ok.mp h
    cases h
    exact .inr ⟨rfl, .update_goal_state (RunRegistry.require_ok hold) hr'⟩
  | update_policy id args event_at now =>
    obtain ⟨old, hold, h⟩ := bind_eq_ok.mp h
    obtain ⟨r', hr', h⟩ := bind_eq_ok.mp h
    split at h
    · cases h
      exact .inr ⟨rfl, .update_policy (RunRegistry.require_ok hold) hr'⟩
    · cases h
      exact .inl rfl

/-- A mutation leaves the log as it is, or appends one record. -/
theorem run_cases (log : Log) (m : Mutation) :
    m.run log = log ∨ ∃ r, m.run log = log ++ [r] ∧ m.Appends log r := by
  unfold run
  cases h : m.apply log with
  | error e => exact .inl rfl
  | ok p =>
    obtain ⟨r, log'⟩ := p
    rcases apply_cases h with rfl | ⟨rfl, happ⟩
    · exact .inl rfl
    · exact .inr ⟨r, rfl, happ⟩

/-- The mutation is the reconciliation of this record after a confirmed abort. -/
def Reconciles (m : Mutation) (r : RunRecord) : Prop :=
  r.status = .FAIL ∧ r.reason = "OPENCLAW_ERROR" ∧
    ∃ now, m = .reconcile_abort_observation r.core_run_id now

theorem last_of_identity {log : Log} {id : String} {old r : RunRecord}
    (hlast : last id log = some old) (hident : r.identity = old.identity) :
    last r.core_run_id log = some old := by
  have hid : r.core_run_id = old.core_run_id := congrArg RunRecord.Identity.core_run_id hident
  rwa [hid, (RunRegistry.last_some hlast).2]

/-- What an appended record says of its run: the run is new, or the record names it as the last
one does, and leaves its ending, moves it along `_TRANSITIONS`, or reconciles it. -/
theorem Appends.record_cases {log : Log} {m : Mutation} {r : RunRecord} (h : m.Appends log r) :
    (last r.core_run_id log = none ∧ r.status = .QUEUED ∧
      ∀ q ∈ log, q.idempotency_key ≠ r.idempotency_key) ∨
    ∃ old, last r.core_run_id log = some old ∧ r.identity = old.identity ∧
      (r.ending = old.ending ∨ r.status ∈ old.status.transitions ∨
        m.Reconciles old ∧ r.status = .CANCELLED) := by
  cases h with
  | create hid hkey => exact .inl ⟨RunRegistry.last_eq_none.mpr hid, rfl, hkey⟩
  | @transition id status binding outcome reason now old hlast hstatus =>
    have hident := old.transitioned_identity status binding outcome reason now
    refine .inr ⟨_, last_of_identity hlast hident, hident, .inr (.inl ?_)⟩
    rwa [RunRecord.transitioned_status]
  | @reconcile_abort_observation id now old hlast hstatus hreason =>
    refine .inr ⟨old, last_of_identity hlast rfl, rfl, .inr (.inr ⟨⟨hstatus, hreason, now, ?_⟩, rfl⟩)⟩
    rw [(RunRegistry.last_some hlast).2]
  | update_goal_state hlast h =>
    obtain ⟨hident, hend, -⟩ := RunRecord.goalUpdated_ok h
    exact .inr ⟨_, last_of_identity hlast hident, hident, .inl hend⟩
  | update_policy hlast h =>
    obtain ⟨hident, hend, -⟩ := RunRecord.policyUpdated_ok h
    exact .inr ⟨_, last_of_identity hlast hident, hident, .inl hend⟩

end Mutation

/-- The registry under all its mutators, from an empty log. -/
def registry : Machine Log Mutation where
  init log := log = []
  step log m := some (m.run log)

namespace RunRegistry

/-- A goal contract and the arguments of a run. -/
def sampleArgs : CreateArgs where
  core_run_id := some "core-1"
  agent_id := "executor"
  idempotency_key := "key-1"
  request_hash := "hash-1"
  policy := Dict.empty
  goal_contract := ⟨"GOAL", "objective", ["A"], ["B"], "result", ["C"]⟩
  parent_core_run_id := none
  context_reset_count := 0
  approved_paths := none
  watchdog_managed := false

/-- A run that was created and then failed with `OPENCLAW_ERROR`. -/
def sampleLog : Log :=
  let created := sampleArgs.record "core-1" "t0"
  [created, created.transitioned .FAIL none none "OPENCLAW_ERROR" "t1"]

theorem readable_sampleLog : ∀ r ∈ sampleLog, readable r = true := by
  refine fun r hr => (readable_iff r).mpr ?_
  revert r
  decide +kernel

theorem reachable_sampleLog : registry.Reachable sampleLog := by
  have hsafe : ∀ r ∈ sampleLog.take 1, readable r = true :=
    fun r hr => readable_sampleLog r (List.mem_of_mem_take hr)
  have hlast : last "core-1" (sampleLog.take 1) = some (sampleArgs.record "core-1" "t0") := rfl
  have hfail := transition_of_last hsafe hlast (show .FAIL ∈ _ by decide) (by decide) none none
    "OPENCLAW_ERROR" "t1"
  have hcreated : registry.Reachable (sampleLog.take 1) :=
    (Machine.reachable_init (M := registry) rfl).next (a := .create sampleArgs "" "t0") trivial rfl
  refine hcreated.next (a := .transition "core-1" .FAIL none none "OPENCLAW_ERROR" "t1") trivial ?_
  exact congrArg some (Mutation.run_of_apply hfail)

end RunRegistry

end Plachem
