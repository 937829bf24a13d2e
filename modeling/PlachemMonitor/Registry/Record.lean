import PlachemMonitor.Registry.File

/-!
# Run records

`RunRecord` is the record that `RunRegistry.create` writes and the mutators rewrite, with a type
for each field; `RunRecord.toDict` is the dictionary in the file. The fields that come out of a
policy mapping without a check keep whatever JSON value stood there.

`RunRecord.identity` collects the fields that name the run, `RunRecord.ending` those that say how
it ended.
-/

namespace Plachem

inductive CoreRunStatus where
  | QUEUED
  | RUNNING
  | PASS
  | FAIL
  | BLOCKED
  | TIMEOUT
  | CANCELLED
  deriving DecidableEq

namespace CoreRunStatus

def value : CoreRunStatus → String
  | QUEUED => "QUEUED"
  | RUNNING => "RUNNING"
  | PASS => "PASS"
  | FAIL => "FAIL"
  | BLOCKED => "BLOCKED"
  | TIMEOUT => "TIMEOUT"
  | CANCELLED => "CANCELLED"

/-- `_TERMINAL` -/
def terminal : List CoreRunStatus := [PASS, FAIL, BLOCKED, TIMEOUT, CANCELLED]

/-- `_TRANSITIONS` -/
def transitions : CoreRunStatus → List CoreRunStatus
  | QUEUED => [RUNNING, FAIL, BLOCKED, CANCELLED]
  | RUNNING => terminal
  | PASS => []
  | FAIL => []
  | BLOCKED => []
  | TIMEOUT => []
  | CANCELLED => []

/-- A terminal status has no successor. -/
theorem transitions_of_terminal {s : CoreRunStatus} (h : s ∈ terminal) : transitions s = [] := by
  cases s with
  | QUEUED => exact absurd h (by decide)
  | RUNNING => exact absurd h (by decide)
  | _ => rfl

end CoreRunStatus

structure GoalContract where
  goal_id : String
  primary_objective : String
  allowed_scope : List String
  forbidden_scope : List String
  expected_result : String
  completion_conditions : List String
  deriving DecidableEq

/-- `GoalContract.as_dict` -/
def GoalContract.as_dict (g : GoalContract) : Dict :=
  Dict.ofList [
    ("goal_id", .str g.goal_id),
    ("primary_objective", .str g.primary_objective),
    ("allowed_scope", .strs g.allowed_scope),
    ("forbidden_scope", .strs g.forbidden_scope),
    ("expected_result", .str g.expected_result),
    ("completion_conditions", .strs g.completion_conditions)] (by simp)

structure RunBinding where
  core_run_id : String
  openclaw_run_id : String
  agent_id : String
  session_key : String
  session_id : Option String
  idempotency_key : String
  status : CoreRunStatus
  deriving DecidableEq

/-- The part of a `RunBinding` that a record keeps. -/
structure OpenclawBinding where
  core_run_id : String
  openclaw_run_id : String
  agent_id : String
  session_key : String
  session_id : Option String
  deriving DecidableEq

def RunBinding.recorded (b : RunBinding) : OpenclawBinding where
  core_run_id := b.core_run_id
  openclaw_run_id := b.openclaw_run_id
  agent_id := b.agent_id
  session_key := b.session_key
  session_id := b.session_id

structure AdapterOutcome where
  status : CoreRunStatus
  reason : String
  result : Option Dict
  format_error : String
  format_recovery_attempts : Int
  format_recovery_rejection : String
  raw_response : Option String
  rejected_result : Option Dict
  deriving DecidableEq

/-- `0.0` -/
def FloatText.zero : FloatText := ⟨"0.0".toList, .inl (by decide)⟩

def OpenclawBinding.toDict (b : OpenclawBinding) : Dict :=
  Dict.ofList [
    ("core_run_id", .str b.core_run_id),
    ("openclaw_run_id", .str b.openclaw_run_id),
    ("agent_id", .str b.agent_id),
    ("session_key", .str b.session_key),
    ("session_id", .ofOption .str b.session_id)] (by simp)

/-- An entry of `policy_events`. -/
structure PolicyEvent where
  code : String
  at_ : String
  details : Dict
  deriving DecidableEq

def PolicyEvent.toDict (e : PolicyEvent) : Dict :=
  Dict.ofList [
    ("code", .str e.code),
    ("at", .str e.at_),
    ("details", .ofDict e.details)] (by simp)

/-- The fields of a record that `create` copies out of the policy. -/
structure RunPolicy where
  runtime_class : Value
  task_class : Value
  model_profile : Value
  policy_profile : Value
  max_runtime : Value
  execution_budget : Value
  finalization_recovery_budget : Value
  max_retries : Value
  max_tool_calls : Value
  context_policy : Value
  fallback_policy : Value
  max_context_resets : Value
  deriving DecidableEq

structure RunRecord where
  core_run_id : String
  agent_id : String
  idempotency_key : String
  request_hash : String
  status : CoreRunStatus
  created_at : String
  updated_at : String
  started_at : Option String
  completed_at : Option String
  reason : String
  result : Option Dict
  raw_response : Option String
  rejected_result : Option Dict
  format_error : String
  format_recovery_attempts : Int
  format_recovery_rejection : String
  openclaw_binding : Option OpenclawBinding
  policy : RunPolicy
  runtime_seconds : FloatText
  retry_count : Int
  tool_call_count : Option Int
  tool_call_metric : String
  policy_status : String
  policy_events : List PolicyEvent
  cancel_reason : String
  policy_state : Dict
  goal_contract : GoalContract
  goal_status : String
  goal_reinjection_ready : Bool
  progress_checkpoint : Option Dict
  verified_progress : Dict
  context_reset_count : Int
  parent_core_run_id : Option String
  approved_paths : List String
  watchdog_managed : Bool
  escalation_required : Bool
  escalation_reason : String
  escalation_package : Option Dict
  deriving DecidableEq

namespace RunRecord

/-- The items of the record as it stands in the file. -/
def items (r : RunRecord) : List (String × Value) := [
  ("core_run_id", .str r.core_run_id),
  ("agent_id", .str r.agent_id),
  ("idempotency_key", .str r.idempotency_key),
  ("request_hash", .str r.request_hash),
  ("status", .str r.status.value),
  ("created_at", .str r.created_at),
  ("updated_at", .str r.updated_at),
  ("started_at", .ofOption .str r.started_at),
  ("completed_at", .ofOption .str r.completed_at),
  ("reason", .str r.reason),
  ("result", .ofOption .ofDict r.result),
  ("raw_response", .ofOption .str r.raw_response),
  ("rejected_result", .ofOption .ofDict r.rejected_result),
  ("format_error", .str r.format_error),
  ("format_recovery_attempts", .int r.format_recovery_attempts),
  ("format_recovery_rejection", .str r.format_recovery_rejection),
  ("openclaw_binding", .ofOption (fun b => .ofDict b.toDict) r.openclaw_binding),
  ("runtime_class", r.policy.runtime_class),
  ("task_class", r.policy.task_class),
  ("model_profile", r.policy.model_profile),
  ("policy_profile", r.policy.policy_profile),
  ("max_runtime", r.policy.max_runtime),
  ("execution_budget", r.policy.execution_budget),
  ("finalization_recovery_budget", r.policy.finalization_recovery_budget),
  ("max_retries", r.policy.max_retries),
  ("max_tool_calls", r.policy.max_tool_calls),
  ("context_policy", r.policy.context_policy),
  ("fallback_policy", r.policy.fallback_policy),
  ("runtime_seconds", .float r.runtime_seconds),
  ("retry_count", .int r.retry_count),
  ("tool_call_count", .ofOption .int r.tool_call_count),
  ("tool_call_metric", .str r.tool_call_metric),
  ("policy_status", .str r.policy_status),
  ("policy_events", .list (r.policy_events.map fun e => .ofDict e.toDict)),
  ("cancel_reason", .str r.cancel_reason),
  ("policy_state", .ofDict r.policy_state),
  ("goal_contract", .ofDict r.goal_contract.as_dict),
  ("goal_status", .str r.goal_status),
  ("goal_reinjection_ready", .bool r.goal_reinjection_ready),
  ("progress_checkpoint", .ofOption .ofDict r.progress_checkpoint),
  ("verified_progress", .ofDict r.verified_progress),
  ("context_reset_count", .int r.context_reset_count),
  ("max_context_resets", r.policy.max_context_resets),
  ("parent_core_run_id", .ofOption .str r.parent_core_run_id),
  ("approved_paths", .strs r.approved_paths),
  ("watchdog_managed", .bool r.watchdog_managed),
  ("escalation_required", .bool r.escalation_required),
  ("escalation_reason", .str r.escalation_reason),
  ("escalation_package", .ofOption .ofDict r.escalation_package)]

/-- The record as it stands in the file. -/
def toDict (r : RunRecord) : Dict := Dict.ofList r.items (by simp [items])

/-- What names a run: the fields that no mutator may change. -/
structure Identity where
  core_run_id : String
  agent_id : String
  idempotency_key : String
  request_hash : String
  goal_contract : GoalContract
  parent_core_run_id : Option String
  approved_paths : List String
  watchdog_managed : Bool
  context_reset_count : Int
  created_at : String
  deriving DecidableEq

def identity (r : RunRecord) : Identity where
  core_run_id := r.core_run_id
  agent_id := r.agent_id
  idempotency_key := r.idempotency_key
  request_hash := r.request_hash
  goal_contract := r.goal_contract
  parent_core_run_id := r.parent_core_run_id
  approved_paths := r.approved_paths
  watchdog_managed := r.watchdog_managed
  context_reset_count := r.context_reset_count
  created_at := r.created_at

/-- How a run ended. -/
structure Ending where
  status : CoreRunStatus
  reason : String
  result : Option Dict
  completed_at : Option String
  openclaw_binding : Option OpenclawBinding
  deriving DecidableEq

def ending (r : RunRecord) : Ending where
  status := r.status
  reason := r.reason
  result := r.result
  completed_at := r.completed_at
  openclaw_binding := r.openclaw_binding

theorem get?_core_run_id (r : RunRecord) :
    r.toDict.get? "core_run_id" = some (.str r.core_run_id) := by
  rw [toDict, Dict.get?_ofList]
  rfl

theorem get?_idempotency_key (r : RunRecord) :
    r.toDict.get? "idempotency_key" = some (.str r.idempotency_key) := by
  rw [toDict, Dict.get?_ofList]
  rfl

attribute [irreducible] toDict

end RunRecord

end Plachem
