import Mathlib.Data.List.Infix
import PlachemMonitor.Text.Lines
import PlachemMonitor.WarRoom.Tasks

/-!
# What follows from an outcome

The follow-ups of `war_room_worker.py` and `war_room_stage_recovery.py` to a response or a failure
of a delivery: stage issues, the outcome of a collaboration, the delivery and the verdict of the
automatic QA. They run within the transaction of the step that calls them.

An exception of `_after_responded_delivery` is caught, and what it has written until then stays:
`after_responded_delivery` returns these tables and whether it has raised.
-/

namespace Plachem

namespace WarRoom

open Text (strip)

/-- `part in text` -/
def isPart (part text : String) : Bool := decide (part.toList <:+: text.toList)

/-- `.upper()` of a code. -/
def upper (s : String) : String := s.map Char.toUpper

/-! ## Stage issues -/

/-- `mark` -/
def mark (db : DB) (task : Task) (delivery_id stage code : String) : DB :=
  { db with
    issues := db.issues.upsert ⟨task.id, task.revision, delivery_id, stage, code, true⟩
      fun i => { i with stage := stage, code := code, isOpen := true } }

/-- `UPDATE war_processing_issues SET state='RESOLVED',.. WHERE ..` -/
def resolve_where (db : DB) (cond : Issue → Bool) : DB :=
  { db with issues := db.issues.update cond fun i => { i with isOpen := false } }

/-- `resolve` -/
def resolve (db : DB) (task_id : String) (revision : Nat) (delivery_id : String) : DB :=
  resolve_where db fun i =>
    i.task_id == task_id && i.task_revision == revision && i.delivery_id == delivery_id

/-- `issues` -/
def issues (db : DB) (task_id : String) (revision : Nat) : List Issue :=
  db.issues.rows.filter fun i => i.task_id == task_id && i.task_revision == revision && i.isOpen

/-- `recoverable_stage` -/
def recoverable_stage (code : String) (qa : Bool) : Option String :=
  let has := fun (parts : List String) => parts.any fun p => isPart p (upper code)
  if has ["SCOPE_VIOLATION", "NON_COMPLIANT", "AUTH_", "IDENTITY_MISMATCH", "TAMPERED", "READ_ONLY_",
      "AUTHORITY_EXCEEDED"] then none
  else if qa then some "QA"
  else if has ["_VALIDATION_FAILED:", "MISSING_RESULT", "RESULT_FORMAT", "RESULT_VALIDATION_REQUIRED",
      "STRUCTURED_RESPONSE_", "EVIDENCE_", "CONTEXT_MISMATCH"] then some "RESULT"
  else if has ["TRANSPORT", "OBSERVATION", "HISTORY_", "WAIT_REJECTED"] then some "RECONCILE"
  else none

/-! ## Rows that the worker reads -/

/-- A delivery as the worker reads it, joined with its message and its task. -/
structure DeliveryRow where
  delivery : Delivery
  project_id : String
  task_id : Option String
  execution_mode : Mode
  deriving DecidableEq

/-- `FROM war_deliveries d JOIN war_messages m .. LEFT JOIN war_tasks t ..` -/
def delivery_row (db : DB) (delivery_id : String) : Option DeliveryRow := do
  let d ← db.deliveries.find delivery_id
  let project_id ← db.project_of d.message_id
  let task := db.task_of_message d.message_id
  pure ⟨d, project_id, task.map Task.id, (task.map Task.execution_mode).getD .LEGACY⟩

/-- `_qa_delivery_for_task` -/
def qa_delivery_for_task (db : DB) (task_id agent_id : String) : Bool :=
  (db.tasks.find task_id).any fun t => t.status == .qa && t.reviewer_agent_id.getD "" != "" &&
    t.reviewer_agent_id == some agent_id

/-- The delivery is the review of its task. -/
def DeliveryRow.is_qa_delivery (row : DeliveryRow) (db : DB) : Bool :=
  row.task_id.any fun id => qa_delivery_for_task db id row.delivery.agent_id

/-- The agent of the delivery reviews the task. -/
def is_reviewer (task : Task) (d : Delivery) : Bool :=
  task.reviewer_agent_id.getD "" == d.agent_id && task.status == .qa

/-! ## Results -/

/-- `_structured_result`: without a packet there is no contract to check. -/
def structured_result (cfg : Config) (db : DB) (message_id body : String) :
    Except String (Option StructuredResult) :=
  match (db.task_of_message message_id).bind fun t => db.packets.find t.id with
  | none => .ok none
  | some packet => (cfg.structured_result packet body).map some

/-- The verdicts of the agents that have responded. -/
def verdicts (cfg : Config) (db : DB) (message_id : String) (revision : Nat) :
    List (String × Verdict) :=
  (db.deliveries.rows.filter fun d => d.message_id == message_id && d.task_revision == revision &&
    d.status == .responded).filterMap fun d =>
      let body := ((d.response_message_id.bind db.messages.find).map Message.body).getD ""
      match structured_result cfg db message_id body with
      | .ok (some result) => some (d.agent_id, result.verdict)
      | _ => none

/-- `qa_failure or conflicting` -/
def collaboration_conflict (cfg : Config) (db : DB) (message_id : String) (revision : Nat) : Bool :=
  let verdicts := verdicts cfg db message_id revision
  verdicts.any (fun v => v.1 == "ERPqa" && v.2 != .PASS) ||
    verdicts.any fun v => verdicts.any fun w => v.2 != w.2

/-- `_apply_collaboration_outcome` -/
def apply_collaboration_outcome (cfg : Config) (db : DB) (env : Env) (task_id message_id : String)
    (revision : Nat) : DB :=
  if collaboration_conflict cfg db message_id revision then
    -- whatever the task is by now
    next_revision db env task_id .rework_required
  else
    { db with tasks := db.tasks.update (fun t => t.id == task_id && t.status == .running) fun t =>
        { t with status := .qa, qa_cycle := t.qa_cycle + 1, updated_at := env.now } }

/-! ## Automatic QA -/

/-- `_normalize_required_evidence(packet.get("required_evidence", ["test", "artifact"]))`, the ids. -/
def required_ids (db : DB) (task_id : String) : Except HttpError (List String) :=
  match db.packets.find task_id with
  | none => .ok ["test", "artifact"]
  | some packet => found packet.required 422 "required_evidence IDs must be unique and non-empty"

/-- `"required:" + ",".join(..)` -/
def evidence_profile (ids : List String) : String := "required:" ++ ",".intercalate ids

/-- The evidence row that is bound to the task as it stands. -/
def bind_evidence (cfg : Config) (task : Task) (e : Evidence) : Evidence :=
  { e with
    task_id := task.id
    task_revision := task.revision
    scope_hash := cfg.sha256 task.scope
    document_version := task.document_version
    qa_cycle := task.qa_cycle }

/-- `INSERT INTO war_evidence ..`: one row for a contract id in a cycle. -/
def insert_contract_evidence (t : Table Evidence Evidence.id) (e : Evidence) :
    Option (Table Evidence Evidence.id) :=
  if e.contract_evidence_id.isSome && t.rows.any fun q => q.task_id == e.task_id &&
      q.task_revision == e.task_revision && q.qa_cycle == e.qa_cycle &&
      q.contract_evidence_id == e.contract_evidence_id then none
  else t.insert e

def insert_evidence (db : DB) (es : List Evidence) : Except HttpError DB := do
  let evidence ← inserted (es.foldlM insert_contract_evidence db.evidence)
  pure { db with evidence := evidence }

/-- `_capture_required_evidence` -/
def capture_required_evidence (cfg : Config) (db : DB) (env : Env) (task_id : String) :
    Except HttpError DB :=
  match db.tasks.find task_id with
  | none => .ok db
  | some task =>
    if task.status = .qa ∧ (db.packets.find task_id).isSome then
      insert_evidence db (env.captured.map (bind_evidence cfg task))
    else .ok db

/-- `QA_SECONDS` -/
def QA_SECONDS : Int := 3600

/-- A delivery that waits. -/
def queued_delivery (id message_id agent_id : String) (revision : Nat) (deadline : Option Int)
    (session : Option (String × String)) (now : Int) : Delivery where
  id := id
  message_id := message_id
  agent_id := agent_id
  task_revision := revision
  status := .queued
  attempt_count := 0
  max_attempts := 3
  sent_at := none
  received_at := none
  responded_at := none
  error_code := none
  run_id := none
  response_message_id := none
  session_key := session.map Prod.fst
  session_id := session.map Prod.snd
  next_attempt_at := none
  deadline_at := deadline
  retry_count := 0
  error_class := none
  last_error_at := none
  claim_token := none
  claim_expires_at := none
  stop_cycle_at := none
  created_at := now

/-- `_queue_auto_qa_delivery`: the delivery of the review waits, or was there before. -/
def queue_auto_qa_delivery (cfg : Config) (db : DB) (env : Env) (task_id : String)
    (message_id : Option String) (id : String) : Except HttpError (DB × Bool) :=
  match cfg.auto_qa_enabled, db.tasks.find task_id with
  | true, some task =>
    let reviewer := task.reviewer_agent_id.getD ""
    if task.status ≠ .qa ∨ reviewer = "" then .ok (db, false)
    else if reviewer ∈ db.agents task_id then
      .ok (next_revision db env task_id .rework_required, false)
    else if db.deliveries.rows.any fun d => some d.message_id == message_id &&
        d.agent_id == reviewer && d.task_revision == task.revision then .ok (db, true)
    else
      match env.qa_session with
      | .error reason => .ok (mark db task "qa-provision" "QA" reason, false)
      | .ok session => do
        let deadline := if (db.packets.find task_id).any Packet.profiled then
            let d := task.deadline_at.getD 0
            some (min (if d = 0 then env.now + QA_SECONDS else d) (env.now + QA_SECONDS))
          else task.deadline_at
        let message_id ← inserted message_id
        let db ← inserted (insert_delivery db
          (queued_delivery id message_id reviewer task.revision deadline (some session) env.now))
        pure (db, true)
  | _, _ => .ok (db, false)

/-- A verdict on the task as it stands, under the signature of its payload. -/
def new_verdict (cfg : Config) (env : Env) (id principal signature : String) (task : Task)
    (verdict : Verdict) (profile : String) : QaVerdict where
  id := id
  qa_principal := principal
  signature := signature
  signed_payload :=
    { task_id := task.id
      verdict := verdict
      evidence_profile := profile
      qa_principal := principal
      task_revision := task.revision
      scope_hash := cfg.sha256 task.scope
      document_version := task.document_version
      qa_cycle := task.qa_cycle }
  created_at := env.now

/-- `_record_auto_qa_verdict` -/
def record_auto_qa_verdict (cfg : Config) (db : DB) (env : Env) (task_id reviewer : String)
    (verdict : Verdict) : Except HttpError DB :=
  match db.tasks.find task_id with
  | none => .ok db
  | some task =>
    if task.status ≠ .qa ∨ task.reviewer_agent_id.getD "" ≠ reviewer then .ok db
    else if reviewer ∈ db.agents task_id ∨ ¬qa_participant db task.project_id reviewer then .ok db
    else do
      let required ← required_ids db task_id
      match verdict, env.evidence_error with
      | .PASS, some error => pure (mark db task "qa-evidence" "QA" error)
      | _, _ =>
        let sign ← found cfg.qa_signature 503 "QA signing is unavailable"
        let v := new_verdict cfg env (env.uuid 1) reviewer "" task verdict (evidence_profile required)
        let verdicts ← inserted (db.verdicts.insert { v with signature := sign v.signed_payload })
        let db := { db with verdicts := verdicts }
        pure (if verdict = .PASS then db else next_revision db env task_id .rework_required)

/-! ## Follow-ups -/

/-- The executors of the task that have not responded. -/
def worker_pending (db : DB) (task_id message_id : String) (revision : Nat) : Bool :=
  db.deliveries.rows.any fun d => d.message_id == message_id && d.task_revision == revision &&
    d.agent_id ∈ db.agents task_id && d.status != .responded

/-- What an exception leaves: the tables before it. -/
def orElse (db : DB) (r : Except HttpError DB) : DB × Bool :=
  match r with
  | .ok db' => (db', false)
  | .error _ => (db, true)

/-- The end of `_after_responded_delivery`, for a task that the collaboration has moved to QA. -/
def enter_auto_qa (cfg : Config) (db : DB) (env : Env) (task_id message_id : String) : DB × Bool :=
  if (db.tasks.find task_id).any (fun t => t.status == .qa) && cfg.auto_qa_enabled then
    let (db, raised) := orElse db (capture_required_evidence cfg db env task_id)
    if raised || env.raised == some true then (db, true)
    else orElse db ((queue_auto_qa_delivery cfg db env task_id (some message_id) (env.uuid 2)).map
      Prod.fst)
  else (db, false)

/-- `_after_responded_delivery`: the tables, and whether it has raised. -/
def after_responded_delivery (cfg : Config) (db : DB) (env : Env) (row : DeliveryRow)
    (result : Option StructuredResult) : DB × Bool :=
  match row.task_id.bind db.tasks.find with
  | none => (db, false)
  | some task =>
    let d := row.delivery
    let db := resolve db task.id d.task_revision d.id
    if task.revision ≠ d.task_revision then (db, false)
    else if is_reviewer task d then
      match result with
      | none => (db, false)
      | some result => orElse db (record_auto_qa_verdict cfg db env task.id d.agent_id result.verdict)
    else if env.raised = some false then (db, true)
    else if worker_pending db task.id d.message_id d.task_revision then (db, false)
    else
      enter_auto_qa cfg (apply_collaboration_outcome cfg db env task.id d.message_id d.task_revision)
        env task.id d.message_id

/-- `_safe_after_responded_delivery` -/
def safe_after_responded_delivery (cfg : Config) (db : DB) (env : Env) (row : DeliveryRow)
    (result : Option StructuredResult) : DB :=
  let (db, raised) := after_responded_delivery cfg db env row result
  match raised, row.task_id.bind db.tasks.find with
  | true, some task => mark db task "qa-postprocess" "QA" "POSTPROCESS_ERROR"
  | _, _ => db

/-- `_terminal_validation_failure` -/
def terminal_validation_failure (db : DB) (env : Env) (message_id delivery_id : String)
    (revision : Nat) (error_code : String) : DB :=
  match db.task_of_message message_id with
  | none => db
  | some task =>
    if task.status ∈ [.completed, .stopped, .stop_unconfirmed] ∨ task.revision ≠ revision then db
    else
      let agent := (db.deliveries.find delivery_id).map Delivery.agent_id
      let qa := agent.isSome && agent == task.reviewer_agent_id && task.status == .qa
      match recoverable_stage error_code qa with
      | some stage =>
        if (db.packets.find task.id).any Packet.profiled ∧ task.status ∈ [.running, .qa] then
          mark db task delivery_id stage error_code
        else rework db task
      | none => rework db task
where
  /-- The task goes back, and what waits for it is cancelled. -/
  rework (db : DB) (task : Task) : DB :=
    { db with
      tasks := db.tasks.update (fun t => t.id == task.id && t.status != .rework_required) fun t =>
        { t with status := .rework_required, revision := t.revision + 1, updated_at := env.now }
      deliveries := db.deliveries.update (fun d => d.message_id == message_id &&
          d.task_revision == revision && d.id != delivery_id && d.status == .queued) fun d =>
        { d with status := .failed, error_code := some "cancelled_after_terminal_validation" } }

/-- `_persist_execution` -/
def persist_execution (db : DB) (snapshot : Option ExecutionRun) (project_id : String)
    (task_id : Option String) (agent_id : String) (now : Int) : DB :=
  match snapshot, task_id with
  | some run, some task_id =>
    let run := { run with
      war_project_id := project_id
      war_task_id := task_id
      agent_id := agent_id
      updated_at := now }
    { db with
      runs := db.runs.upsert run fun r =>
        { r with
          openclaw_run_id := run.openclaw_run_id
          session_key := run.session_key
          run_status := run.run_status
          cancel_reason := run.cancel_reason
          updated_at := now } }
  | _, _ => db

end WarRoom

end Plachem
