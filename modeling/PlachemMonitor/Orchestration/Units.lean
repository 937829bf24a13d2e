import Mathlib.Data.Rat.Defs
import PlachemMonitor.Registry.Record
import PlachemMonitor.Spec.Table

/-!
# Execution units

The rows of `war_execution_units` and of the run registry that an orchestrator reads, the readiness
of a unit, and the summary of a workflow.

Readiness and summary are computed from many reads. `Reads` and `SummaryReads` give the state of the
store that each of them has seen: the present one for all of them in `DB.reads` and
`DB.summary_reads`.
-/

namespace Plachem

namespace Orchestration

/-! ## Rows -/

/-- `war_execution_units`; the compiler gives no blank id. -/
structure ExecutionUnit where
  execution_id : String
  war_project_id : String
  war_task_id : String
  correlation_id : String
  agent_id : String
  workflow_role : String
  depends_on_execution_ids : List String
  core_run_id : Option String
  dispatch_message : Option String
  dispatch_timeout_seconds : Option ℚ
  dispatch_goal_contract : Option Dict
  dispatch_claimed_at : Option Int
  created_at : Int
  execution_id_ne : execution_id ≠ ""
  agent_id_ne : agent_id ≠ ""
  depends_on_ne : "" ∉ depends_on_execution_ids
  deriving DecidableEq

/-- What a `RunRecord` tells an orchestrator. -/
structure CoreRun where
  core_run_id : String
  request_hash : String
  status : CoreRunStatus
  reason : String
  deriving DecidableEq

/-- The status of a parent. -/
inductive WorkflowStatus where
  | RUNNING | COMPLETED | FAILED | BLOCKED
  deriving DecidableEq

/-- `war_tasks`, as far as it is the parent of a workflow. -/
structure Parent where
  id : String
  project_id : String
  workflow_status : Option WorkflowStatus
  workflow_finalized_at : Option Int
  workflow_finalize_count : Nat
  deriving DecidableEq

/-- The store of the units, the run registry, and the parents. -/
structure DB where
  parents : Table Parent Parent.id
  units : Table ExecutionUnit ExecutionUnit.execution_id
  runs : Table CoreRun CoreRun.core_run_id

/-- `unit.get("core_run_id")`, unless it is blank. -/
def ExecutionUnit.run_id (u : ExecutionUnit) : Option String := u.core_run_id.filter (· ≠ "")

/-- `engine.status(..)`; `none` is a `ValueError`. -/
def DB.status (db : DB) (core_run_id : String) : Option CoreRunStatus :=
  (db.runs.find core_run_id).map CoreRun.status

/-- `_ACTIVE_STATUSES` -/
def active : List CoreRunStatus := [.QUEUED, .RUNNING]

/-- `_FAILURE_STATUSES` -/
def failure : List CoreRunStatus := [.FAIL, .BLOCKED, .TIMEOUT, .CANCELLED]

/-! ## Readiness -/

inductive Outcome where
  | SUCCESS | FAILURE | ACTIVE | NOT_STARTED | UNKNOWN | NOT_FOUND
  deriving DecidableEq

/-- The outcome of a run; `none` is a run that is not found. -/
def outcome : Option CoreRunStatus → Outcome
  | some .PASS => .SUCCESS
  | some .FAIL | some .BLOCKED | some .TIMEOUT | some .CANCELLED => .FAILURE
  | some .QUEUED | some .RUNNING => .ACTIVE
  | none => .UNKNOWN

/-- The states that the reads of an evaluation see, by the dependency that they are for. -/
structure Reads where
  /-- `store.get_unit` -/
  unit : String → DB
  /-- `engine.status` -/
  status : String → DB

/-- `_dependency_detail`, the outcome. -/
def dependency_detail (reads : Reads) (dep_id : String) : Outcome :=
  match (reads.unit dep_id).units.find dep_id with
  | none => .NOT_FOUND
  | some u =>
    match u.run_id with
    | none => .NOT_STARTED
    | some core_run_id => outcome ((reads.status dep_id).status core_run_id)

inductive Readiness where
  | WAITING | READY | BLOCKED
  deriving DecidableEq

structure Evaluation where
  readiness : Readiness
  reason : String
  deriving DecidableEq

/-- The reason of a unit that has a run. -/
def run_reason : Outcome → String
  | .SUCCESS | .FAILURE => "execution_already_terminal"
  | .ACTIVE => "execution_already_active"
  | _ => "execution_outcome_unknown"

/-- `ExecutionReadinessEvaluator.evaluate`; `own` is the state in which the run of the unit itself is
looked up. -/
def evaluate (own : DB) (reads : Reads) (u : ExecutionUnit) : Evaluation :=
  match u.run_id with
  | some core_run_id => ⟨.BLOCKED, run_reason (outcome (own.status core_run_id))⟩
  | none =>
    match u.depends_on_execution_ids.find? fun d =>
        decide (dependency_detail reads d ∈ [.FAILURE, .NOT_FOUND, .UNKNOWN]) with
    | some d => ⟨.BLOCKED, if dependency_detail reads d = .FAILURE then
        "dependency " ++ d ++ " ended in failure" else "dependency " ++ d ++ " is unavailable"⟩
    | none =>
      match u.depends_on_execution_ids.find? fun d =>
          decide (dependency_detail reads d ∈ [.NOT_STARTED, .ACTIVE]) with
      | some d => ⟨.WAITING, "dependency " ++ d ++ " is still pending"⟩
      | none => ⟨.READY, if u.depends_on_execution_ids = [] then "no dependencies"
          else "all dependencies succeeded"⟩

/-! ## The summary of a workflow -/

/-- `get_units_by_workflow` -/
def DB.workflow (db : DB) (war_project_id war_task_id correlation_id : String) : List ExecutionUnit :=
  db.units.rows.filter fun u => u.war_project_id == war_project_id &&
    u.war_task_id == war_task_id && u.correlation_id == correlation_id

/-- The run status of a child. -/
inductive ChildStatus where
  | NOT_STARTED
  | UNKNOWN
  | run (s : CoreRunStatus)
  deriving DecidableEq

structure Child where
  execution_id : String
  core_run_id : Option String
  run_status : ChildStatus
  readiness : Readiness
  workflow_role : String
  required : Bool
  deriving DecidableEq

/-- The states that the reads of a summary see, by the unit that they are for. -/
structure SummaryReads where
  own : String → DB
  evaluate : String → Reads

/-- The status of a unit in a summary. -/
def child_status (own : DB) (u : ExecutionUnit) : ChildStatus :=
  match u.run_id with
  | none => .NOT_STARTED
  | some core_run_id =>
    match own.status core_run_id with
    | some s => .run s
    | none => .UNKNOWN

def child (reads : SummaryReads) (u : ExecutionUnit) : Child where
  execution_id := u.execution_id
  core_run_id := u.core_run_id
  run_status := child_status (reads.own u.execution_id) u
  readiness := (evaluate (reads.own u.execution_id) (reads.evaluate u.execution_id) u).readiness
  workflow_role := u.workflow_role
  required := u.workflow_role != "observer"

/-- `has_runnable or has_unresolved` -/
def Child.pending (c : Child) : Bool :=
  (match c.run_status with
    | .run s => decide (s ∈ active)
    | .UNKNOWN => true
    | .NOT_STARTED => false) || c.readiness != .BLOCKED

/-- The status of the parent. -/
def parent_status (children : List Child) : WorkflowStatus :=
  let statuses := (children.filter Child.required).map Child.run_status
  if children.any Child.pending then .RUNNING
  else if statuses ≠ [] ∧ ∀ s ∈ statuses, s = .run .PASS then .COMPLETED
  else if ∃ s ∈ statuses, s ∈ [ChildStatus.run .FAIL, .run .TIMEOUT, .run .CANCELLED] then .FAILED
  else .BLOCKED

/-- `workflow_summary`, the status; there is no summary of no units. -/
def workflow_summary (reads : SummaryReads) (units : List ExecutionUnit) : Option WorkflowStatus :=
  if units = [] then none else some (parent_status (units.map (child reads)))

/-- `_PARENT_TERMINAL_STATUSES` -/
def WorkflowStatus.terminal (s : WorkflowStatus) : Bool := s != .RUNNING

/-- All reads see one state. -/
def DB.reads (db : DB) : Reads := ⟨fun _ => db, fun _ => db⟩

def DB.summary_reads (db : DB) : SummaryReads := ⟨fun _ => db, fun _ => db.reads⟩

/-- The readiness of a unit as things stand. -/
def DB.readiness (db : DB) (u : ExecutionUnit) : Readiness := (evaluate db db.reads u).readiness

/-- The live summary of a workflow. -/
def DB.summary (db : DB) (war_project_id war_task_id correlation_id : String) :
    Option WorkflowStatus :=
  workflow_summary db.summary_reads (db.workflow war_project_id war_task_id correlation_id)

/-! ## What readiness says -/

theorem DB.status_eq_some {db : DB} {core_run_id : String} {s : CoreRunStatus} :
    db.status core_run_id = some s ↔ ∃ r ∈ db.runs, r.core_run_id = core_run_id ∧ r.status = s := by
  rw [DB.status, Option.map_eq_some_iff]
  refine ⟨fun ⟨r, hr, hs⟩ => ?_, fun ⟨r, hr, hid, hs⟩ => ⟨r, ?_, hs⟩⟩
  · obtain ⟨hmem, hid⟩ := Table.find_some hr
    exact ⟨r, hmem, hid, hs⟩
  · exact hid ▸ Table.mem_iff_find.mp hr

theorem outcome_success {s : Option CoreRunStatus} : outcome s = .SUCCESS ↔ s = some .PASS := by
  rcases s with _ | (_ | _) <;> simp [outcome]

theorem outcome_failure {s : Option CoreRunStatus} :
    outcome s = .FAILURE ↔ ∃ f ∈ failure, s = some f := by
  rcases s with _ | (_ | _) <;> simp [outcome, failure]

theorem outcome_unknown {s : Option CoreRunStatus} : outcome s = .UNKNOWN ↔ s = none := by
  rcases s with _ | (_ | _) <;> simp [outcome]

variable {own : DB} {reads : Reads} {u : ExecutionUnit} {d : String}

theorem dependency_success : dependency_detail reads d = .SUCCESS ↔
    ∃ q ∈ (reads.unit d).units, q.execution_id = d ∧ ∃ r, q.run_id = some r ∧
      (reads.status d).status r = some .PASS := by
  unfold dependency_detail
  cases hq : (reads.unit d).units.find d with
  | none =>
    refine ⟨nofun, fun ⟨q, hmem, hid, _⟩ => ?_⟩
    have hfind := Table.mem_iff_find.mp hmem
    rw [hid, hq] at hfind
    cases hfind
  | some q =>
    obtain ⟨hmem, hid⟩ := Table.find_some hq
    have hrow : ∀ q' ∈ (reads.unit d).units, q'.execution_id = d → q' = q :=
      fun q' hq' hid' => Table.eq_of_key hq' hmem (hid'.trans hid.symm)
    cases hr : q.run_id with
    | none =>
      refine ⟨fun h => by simp [hr] at h, fun ⟨q', hq', hid', r, hr', _⟩ => ?_⟩
      rw [hrow q' hq' hid', hr] at hr'
      cases hr'
    | some r =>
      simp only [hr, outcome_success]
      refine ⟨fun h => ⟨q, hmem, hid, r, hr, h⟩, fun ⟨q', hq', hid', r', hr', h⟩ => ?_⟩
      rw [hrow q' hq' hid', hr] at hr'
      cases hr'
      exact h

/-- A unit is ready if it has no run and all its dependencies have passed. -/
theorem evaluate_ready : (evaluate own reads u).readiness = .READY ↔
    u.run_id = none ∧ ∀ d ∈ u.depends_on_execution_ids, dependency_detail reads d = .SUCCESS := by
  unfold evaluate
  cases hr : u.run_id with
  | some r => simp
  | none =>
    simp only [true_and]
    split
    · rename_i d hd
      have hfailed := List.find?_some hd
      refine ⟨nofun, fun h => ?_⟩
      rw [h d (List.mem_of_find?_eq_some hd)] at hfailed
      simp at hfailed
    · rename_i hfailed
      split
      · rename_i d hd
        have hpending := List.find?_some hd
        refine ⟨nofun, fun h => ?_⟩
        rw [h d (List.mem_of_find?_eq_some hd)] at hpending
        simp at hpending
      · rename_i hpending
        refine ⟨fun _ d hd => ?_, fun _ => rfl⟩
        have h₁ := List.find?_eq_none.mp hfailed d hd
        have h₂ := List.find?_eq_none.mp hpending d hd
        cases h : dependency_detail reads d <;> simp_all

/-- A unit without a run is blocked exactly if one of its dependencies is lost. -/
theorem evaluate_blocked (hr : u.run_id = none) : (evaluate own reads u).readiness = .BLOCKED ↔
    ∃ d ∈ u.depends_on_execution_ids,
      dependency_detail reads d ∈ [.FAILURE, .NOT_FOUND, .UNKNOWN] := by
  unfold evaluate
  simp only [hr]
  split
  · rename_i d hd
    have hlost := List.find?_some hd
    exact ⟨fun _ => ⟨d, List.mem_of_find?_eq_some hd, of_decide_eq_true hlost⟩, fun _ => rfl⟩
  · rename_i hnone
    have hlost : ¬∃ d ∈ u.depends_on_execution_ids,
        dependency_detail reads d ∈ [.FAILURE, .NOT_FOUND, .UNKNOWN] :=
      fun ⟨d, hd, h⟩ => List.find?_eq_none.mp hnone d hd (decide_eq_true h)
    refine ⟨fun h => ?_, fun h => absurd h hlost⟩
    split at h <;> cases h

theorem evaluate_run {r : String} (hr : u.run_id = some r) :
    (evaluate own reads u).readiness = .BLOCKED := by
  simp [evaluate, hr]

end Orchestration

end Plachem
