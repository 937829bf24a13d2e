import PlachemMonitor.Json.Value
import PlachemMonitor.Spec.Table

/-!
# The tables of the War Room

The rows of `war_room.sqlite3` that the endpoints and the worker decide on. A `CHECK` on a status is
a type here, a `PRIMARY KEY` is the key of the table, a foreign key is not followed.
-/

namespace Plachem

namespace WarRoom

/-! ## Statuses -/

inductive TaskStatus where
  | draft | awaiting_approval | approved | running | qa | completed | stopped | stop_unconfirmed
  | rework_required
  deriving DecidableEq, Repr

inductive DeliveryStatus where
  | queued | sent | received | responded | failed | timed_out | stopped
  deriving DecidableEq, Repr

inductive StopState where
  | running | stop_requested | stopped | stop_unconfirmed | stop_failed
  deriving DecidableEq, Repr

inductive Mode where
  | LEGACY | FAST_GATEWAY
  deriving DecidableEq, Repr

inductive Verdict where
  | PASS | FAIL | REWORK
  deriving DecidableEq, Repr

inductive Decision where
  | approved | rejected
  deriving DecidableEq, Repr

inductive Role where
  | project_manager | developer | qa | observer
  deriving DecidableEq, Repr

inductive Permission where
  | read | comment | approve | execute | manage
  deriving DecidableEq, Repr

/-- The value of a status in the database and in a response. -/
def TaskStatus.value : TaskStatus → String
  | draft => "draft"
  | awaiting_approval => "awaiting_approval"
  | approved => "approved"
  | running => "running"
  | qa => "qa"
  | completed => "completed"
  | stopped => "stopped"
  | stop_unconfirmed => "stop_unconfirmed"
  | rework_required => "rework_required"

def DeliveryStatus.value : DeliveryStatus → String
  | queued => "queued"
  | sent => "sent"
  | received => "received"
  | responded => "responded"
  | failed => "failed"
  | timed_out => "timed_out"
  | stopped => "stopped"

def StopState.value : StopState → String
  | running => "running"
  | stop_requested => "stop_requested"
  | stopped => "stopped"
  | stop_unconfirmed => "stop_unconfirmed"
  | stop_failed => "stop_failed"

def Mode.value : Mode → String
  | LEGACY => "LEGACY"
  | FAST_GATEWAY => "FAST_GATEWAY"

def Verdict.value : Verdict → String
  | PASS => "PASS"
  | FAIL => "FAIL"
  | REWORK => "REWORK"

def Decision.value : Decision → String
  | approved => "approved"
  | rejected => "rejected"

/-- `TRANSITIONS` -/
def TRANSITIONS : TaskStatus → List TaskStatus
  | .draft => [.awaiting_approval]
  | .awaiting_approval => [.approved, .draft]
  | .approved => [.running, .stopped]
  | .running => [.qa, .stopped, .stop_unconfirmed]
  | .stopped => [.awaiting_approval]
  | .stop_unconfirmed => [.awaiting_approval]
  | .qa => [.completed, .rework_required]
  | .rework_required => [.awaiting_approval]
  | .completed => []

/-- `ROLE_PERMISSIONS` -/
def ROLE_PERMISSIONS : Role → List Permission
  | .project_manager => [.read, .comment, .approve, .execute, .manage]
  | .developer => [.read, .comment]
  | .qa => [.read, .comment]
  | .observer => [.read]

/-! ## Rows -/

/-- `war_projects` -/
structure Project where
  id : String
  name : String
  status : String
  manyfast_project_id : String
  manyfast_version : String
  updated_at : Int
  deriving DecidableEq

/-- `war_project_control` -/
structure Control where
  project_id : String
  archived_at : Option Int
  stop_requested_at : Option Int
  stop_deadline : Option Int
  stop_state : StopState
  updated_at : Int
  deriving DecidableEq

/-- `war_participants`, unique by project and principal. -/
structure Participant where
  project_id : String
  principal_id : String
  role : Role
  can_read : Bool
  can_comment : Bool
  can_approve : Bool
  can_execute : Bool
  active : Bool
  deriving DecidableEq

def Participant.key (p : Participant) : String × String := (p.project_id, p.principal_id)

/-- `war_messages` -/
structure Message where
  id : String
  project_id : String
  message_type : String
  author_id : String
  body : String
  deriving DecidableEq

/-- `war_tasks` -/
structure Task where
  id : String
  project_id : String
  source_message_id : Option String
  assignee_agent_id : Option String
  reviewer_agent_id : Option String
  scope : String
  status : TaskStatus
  manyfast_version : String
  document_version : Option String
  call_limit : Option Int
  turn_limit : Option Int
  execution_mode : Mode
  deadline_at : Option Int
  revision : Nat
  qa_cycle : Nat
  created_at : Int
  updated_at : Int
  workflow_status : Option String
  workflow_finalized_at : Option Int
  deriving DecidableEq

/-- What the grounding packet of a task asks for: `required` are the normalized ids of
`required_evidence`, `none` if it is malformed. -/
structure Packet where
  task_id : String
  packet_json : String
  required : Option (List String)
  session_integrity_required : Bool
  profiled : Bool
  deriving DecidableEq

/-- `war_approvals` -/
structure Approval where
  id : String
  task_id : String
  approver_id : String
  decision : Decision
  scope_hash : String
  document_version : String
  assignee_agent_id : Option String
  target_set_hash : String
  expires_at : Option Int
  revoked_at : Option Int
  created_at : Int
  deriving DecidableEq

/-- `war_deliveries`, unique by message, agent and revision. -/
structure Delivery where
  id : String
  message_id : String
  agent_id : String
  task_revision : Nat
  status : DeliveryStatus
  attempt_count : Nat
  max_attempts : Nat
  sent_at : Option Int
  received_at : Option Int
  responded_at : Option Int
  error_code : Option String
  run_id : Option String
  response_message_id : Option String
  session_key : Option String
  session_id : Option String
  next_attempt_at : Option Int
  deadline_at : Option Int
  retry_count : Nat
  error_class : Option String
  last_error_at : Option Int
  claim_token : Option String
  claim_expires_at : Option Int
  stop_cycle_at : Option Int
  created_at : Int
  deriving DecidableEq

/-- `war_task_calls` -/
structure TaskCalls where
  task_id : String
  task_revision : Nat
  call_count : Int
  turn_count : Int
  deriving DecidableEq

def TaskCalls.key (c : TaskCalls) : String × Nat := (c.task_id, c.task_revision)

/-- `war_evidence` -/
structure Evidence where
  id : String
  task_id : String
  evidence_type : String
  uri : String
  sha256 : Option String
  task_revision : Nat
  scope_hash : String
  document_version : Option String
  qa_cycle : Nat
  run_id : Option String
  immutable : Bool
  contract_evidence_id : Option String
  deriving DecidableEq

/-- The text that a QA verdict signs, by its members. -/
structure SignedPayload where
  task_id : String
  verdict : Verdict
  evidence_profile : String
  qa_principal : String
  task_revision : Nat
  scope_hash : String
  document_version : Option String
  qa_cycle : Nat
  deriving DecidableEq

/-- `war_qa_verdicts` -/
structure QaVerdict where
  id : String
  qa_principal : String
  signature : String
  /-- With `task_id`, `verdict`, `evidence_profile`, `task_revision`, `scope_hash`,
  `document_version` and `qa_cycle` in columns of their own. -/
  signed_payload : SignedPayload
  created_at : Int
  deriving DecidableEq

/-- `war_representative_approvals` -/
structure RepresentativeApproval where
  id : String
  task_id : String
  representative_id : String
  decision : Decision
  task_revision : Nat
  scope_hash : String
  document_version : Option String
  qa_cycle : Nat
  deriving DecidableEq

/-- `war_processing_issues` -/
structure Issue where
  task_id : String
  task_revision : Nat
  delivery_id : String
  stage : String
  code : String
  /-- `state='OPEN'` -/
  isOpen : Bool
  deriving DecidableEq

def Issue.key (i : Issue) : String × Nat × String := (i.task_id, i.task_revision, i.delivery_id)

/-- `war_execution_runs` -/
structure ExecutionRun where
  core_run_id : String
  war_project_id : String
  war_task_id : String
  agent_id : String
  openclaw_run_id : Option String
  session_key : Option String
  run_status : String
  cancel_reason : Option String
  updated_at : Int
  deriving DecidableEq

/-- `war_execution_units` -/
structure ExecutionUnit where
  execution_id : String
  war_project_id : String
  war_task_id : String
  agent_id : String
  dispatch_claimed_at : Option Int
  dispatch_message : Option String
  deriving DecidableEq

/-- `war_stage_attempts`: what `archive` keeps of a stage. -/
structure StageAttempt where
  id : String
  task_id : String
  task_revision : Nat
  stage : String
  delivery_id : String
  /-- The row that is archived with the attempt. -/
  record : Option Delivery
  deriving DecidableEq

/-- `war_result_revalidation_history` -/
structure Revalidation where
  id : String
  task_id : String
  task_revision : Nat
  core_run_id : String
  /-- `outcome='PASS'` -/
  passed : Bool
  deriving DecidableEq

/-- `war_idempotency_keys`, with the value that `response_json` is the text of. -/
structure IdempotencyKey where
  actor_id : String
  scope : String
  idempotency_key : String
  request_hash : String
  response : Json
  deriving DecidableEq

def IdempotencyKey.key (k : IdempotencyKey) : String × String × String :=
  (k.actor_id, k.scope, k.idempotency_key)

/-- The database. -/
structure DB where
  projects : Table Project Project.id
  controls : Table Control Control.project_id
  participants : Table Participant Participant.key
  messages : Table Message Message.id
  tasks : Table Task Task.id
  task_agents : Table (String × String) id
  packets : Table Packet Packet.task_id
  approvals : Table Approval Approval.id
  deliveries : Table Delivery Delivery.id
  task_calls : Table TaskCalls TaskCalls.key
  evidence : Table Evidence Evidence.id
  verdicts : Table QaVerdict QaVerdict.id
  representative_approvals : Table RepresentativeApproval RepresentativeApproval.id
  issues : Table Issue Issue.key
  runs : Table ExecutionRun ExecutionRun.core_run_id
  units : Table ExecutionUnit ExecutionUnit.execution_id
  attempts : Table StageAttempt StageAttempt.id
  revalidations : Table Revalidation Revalidation.id
  keys : Table IdempotencyKey IdempotencyKey.key

/-! ## Queries -/

/-- The delivery waits or is under way. -/
def Delivery.active (d : Delivery) : Bool :=
  d.status == .queued || d.status == .sent || d.status == .received

namespace DB

/-- `SELECT agent_id FROM war_task_agents WHERE task_id=?`, sorted. -/
def agents (db : DB) (task_id : String) : List String :=
  ((db.task_agents.rows.filter fun a => a.1 == task_id).map Prod.snd).mergeSort (· ≤ ·)

/-- `JOIN war_tasks t ON t.source_message_id=m.id` -/
def task_of_message (db : DB) (message_id : String) : Option Task :=
  db.tasks.rows.find? fun t => t.source_message_id == some message_id

/-- The project of a message. -/
def project_of (db : DB) (message_id : String) : Option String :=
  (db.messages.find message_id).map Message.project_id

/-- The message is in the project. -/
def in_project (db : DB) (project_id message_id : String) : Bool :=
  db.project_of message_id == some project_id

/-- The approvals of the task that are in force, or may have expired. -/
def unrevoked (db : DB) (task_id : String) : List Approval :=
  db.approvals.rows.filter fun a =>
    a.task_id == task_id && a.decision == .approved && a.revoked_at.isNone

/-- `ORDER BY created_at DESC LIMIT 1` -/
def newest (as : List Approval) : Option Approval :=
  as.foldl (fun best a =>
    match best with
    | none => some a
    | some b => if b.created_at < a.created_at then some a else some b) none

/-- `SELECT .. WHERE decision='approved' AND revoked_at IS NULL ORDER BY created_at DESC LIMIT 1` -/
def approval (db : DB) (task_id : String) : Option Approval := newest (db.unrevoked task_id)

end DB

/-- `INSERT INTO war_deliveries ..`, with its two constraints. -/
def insert_delivery (db : DB) (d : Delivery) : Option DB :=
  if db.deliveries.rows.any fun q => q.message_id == d.message_id && q.agent_id == d.agent_id &&
      q.task_revision == d.task_revision then none
  else (db.deliveries.insert d).map fun deliveries => { db with deliveries := deliveries }

/-- `INSERT INTO war_tasks ..`, with its two constraints. -/
def insert_task (db : DB) (t : Task) : Option DB :=
  if t.source_message_id.isSome && db.tasks.rows.any fun q => q.source_message_id == t.source_message_id
  then none
  else (db.tasks.insert t).map fun tasks => { db with tasks := tasks }

theorem insert_delivery_eq_some {db db' : DB} {d : Delivery} (h : insert_delivery db d = some db') :
    ∃ T, db.deliveries.insert d = some T ∧ db' = { db with deliveries := T } ∧
      ∀ q ∈ db.deliveries, q.message_id = d.message_id → q.agent_id = d.agent_id →
        q.task_revision ≠ d.task_revision := by
  unfold insert_delivery at h
  split at h
  · cases h
  · rename_i hnew
    obtain ⟨T, hT, rfl⟩ := Option.map_eq_some_iff.mp h
    refine ⟨T, hT, rfl, fun q hq hm ha hr => hnew ?_⟩
    exact List.any_eq_true.mpr ⟨q, hq, by simp [hm, ha, hr]⟩

theorem insert_task_eq_some {db db' : DB} {t : Task} (h : insert_task db t = some db') :
    ∃ T, db.tasks.insert t = some T ∧ db' = { db with tasks := T } ∧
      ∀ m ∈ t.source_message_id, ∀ q ∈ db.tasks, q.source_message_id ≠ some m := by
  unfold insert_task at h
  split at h
  · cases h
  · rename_i hnew
    obtain ⟨T, hT, rfl⟩ := Option.map_eq_some_iff.mp h
    refine ⟨T, hT, rfl, fun m hm q hq heq => hnew ?_⟩
    rw [Option.mem_def] at hm
    rw [hm, Bool.and_eq_true]
    exact ⟨rfl, List.any_eq_true.mpr ⟨q, hq, by simp [heq]⟩⟩

end WarRoom

end Plachem
