import PlachemMonitor.Text.Lines
import PlachemMonitor.WarRoom.Request

/-!
# The endpoints of a task

Preparation, approval, reviewer assignment and transitions of `war_room_actions.py`. Where an
endpoint opens no transaction of its own, the row of the task that it decides on is one that it read
before its first write.
-/

namespace Plachem

namespace WarRoom

open Text (strip)

/-! ## New tasks -/

def asText : Option Json → Option String
  | some (.str s) => some s
  | _ => none

def asInt : Option Json → Option Int
  | some (.int n) => some n
  | _ => none

/-- A `str` of at most so many characters that is not blank. -/
def bounded_text (maximum : Nat) (v : Option Json) : Option String :=
  (asText v).filter fun s => decide (strip s ≠ "" ∧ s.toList.length ≤ maximum)

/-- `_execution_mode` -/
def execution_mode (value : Option Json) : Except HttpError Mode :=
  match value with
  | none | some .null | some (.str "") | some (.bool false) | some (.int 0) => .ok .FAST_GATEWAY
  | some (.str s) =>
    let mode := (strip s).map Char.toUpper
    if mode = "LEGACY" then .ok .LEGACY
    else if mode = "FAST_GATEWAY" then .ok .FAST_GATEWAY
    else raise 422 "execution_mode must be LEGACY or FAST_GATEWAY"
  | _ => raise 422 "execution_mode must be LEGACY or FAST_GATEWAY"

structure TaskPayload where
  scope : String
  assignee : String
  call_limit : Int
  turn_limit : Int
  deadline_at : Int
  document_version : String

/-- The bounds of `call_limit` and `turn_limit`. -/
def limit (label : String) (maximum : Int) (v : Option Json) : Except HttpError Int :=
  found ((asInt v).filter fun n => decide (0 < n ∧ n ≤ maximum)) 422
    (label ++ " must be a bounded positive integer")

/-- `_validated_task_payload`; `field` is `body.get`. -/
def validated_task_payload (env : Env) (field : String → Option Json) (assignee : Option String)
    (project : Project) : Except HttpError TaskPayload := do
  let scope ← found (bounded_text 4096 (field "scope")) 422 "scope must be 1..4096 characters"
  let assignee ← found assignee 422 "assignee not allowed"
  let call_limit ← limit "call_limit" 100 (field "call_limit")
  let turn_limit ← limit "turn_limit" 1000 (field "turn_limit")
  let deadline_at ← found ((asInt (field "deadline_at")).filter fun n =>
    decide (env.now < n ∧ n ≤ env.now + 604800)) 422 "deadline_at must be within the next 7 days"
  let version ← found (bounded_text 128 (field "document_version")) 422 "document_version required"
  ensure (strip version = project.manyfast_version) 409
    "document_version does not match current project baseline"
  pure ⟨scope, assignee, call_limit, turn_limit, deadline_at, strip version⟩

/-- The first active QA participant that is not the assignee. -/
def default_reviewer (db : DB) (project_id assignee : String) : Option String :=
  (((db.participants.rows.filter fun p => p.project_id == project_id && p.active && p.role == .qa &&
    p.principal_id != assignee).map Participant.principal_id).mergeSort (· ≤ ·)).head?

/-- The reviewer that the body names, else the default. -/
def chosen_reviewer (db : DB) (env : Env) (req : Request) (project_id assignee : String) :
    Option String :=
  let named := if req.absent "reviewer_agent_id" then none
    else (req.get? "reviewer_agent_id").bind env.canonical_agent_id
  named.or (default_reviewer db project_id assignee)

def new_task (env : Env) (id project_id : String) (source_message_id : Option String)
    (reviewer : Option String) (status : TaskStatus) (project : Project) (mode : Mode)
    (p : TaskPayload) : Task where
  id := id
  project_id := project_id
  source_message_id := source_message_id
  assignee_agent_id := some p.assignee
  reviewer_agent_id := reviewer
  scope := p.scope
  status := status
  manyfast_version := project.manyfast_version
  document_version := some p.document_version
  call_limit := some p.call_limit
  turn_limit := some p.turn_limit
  execution_mode := mode
  deadline_at := some p.deadline_at
  revision := 1
  qa_cycle := 0
  created_at := env.now
  updated_at := env.now
  workflow_status := none
  workflow_finalized_at := none

/-- `executemany("INSERT INTO war_task_agents ..")` -/
def insert_task_agents (db : DB) (task_id : String) (agents : List String) : Option DB :=
  (agents.foldlM (fun t a => Table.insert t (task_id, a)) db.task_agents).map fun t =>
    { db with task_agents := t }

/-- `POST /projects/{project_id}/prepare` -/
def prepare_task (project_id : String) : Handler where
  Context := String × List String × Option String × Mode × Project
  immediate := true
  before _ view db env req := do
    let instruction ← found (bounded_text 4096 (req.get? "instruction")) 422
      "instruction must be 1..4096 characters"
    let agents ← canonical_agents env (req.get? "agent_ids")
    let mode ← execution_mode (req.get? "execution_mode")
    let assignee := env.canonical_agent_id
      ((req.get? "assignee_agent_id").getD (.str (agents.headD "")))
    ensure (∃ a ∈ agents, assignee = some a) 422 "assignee_agent_id must be included in agent_ids"
    let project ← project_or_404 (view .project) project_id
    let actor ← actor (view .participants) req .manage project_id
    require_mutable_project (view .project) project_id
    require_not_stopped db project_id
    pure (⟨actor, "POST:/projects/" ++ project_id ++ "/prepare", req.body⟩,
      instruction, agents, assignee, mode, project)
  after cfg _ db env req l ctx := do
    let (instruction, agents, assignee, mode, project) := ctx
    let field k := (req.get? k).or (match k with
      | "scope" => some (.str instruction)
      | "call_limit" => some (.int agents.length)
      | "turn_limit" => some (.int (max 2 agents.length))
      | _ => none)
    let p ← validated_task_payload env field assignee project
    let reviewer := chosen_reviewer db env req project_id p.assignee
    require_independent_reviewer reviewer agents true
    ensure (∀ r ∈ reviewer, qa_participant db project_id r) 409
      "reviewer must be an active project QA participant"
    require_execution_agents db env project_id agents
    let packet ← env.packet
    let task_id := env.uuid 0
    let message_id := env.uuid 1
    let messages ← inserted (db.messages.insert
      ⟨message_id, project_id, "instruction", l.actor, cfg.stored instruction⟩)
    let db ← inserted (insert_task { db with messages := messages } (new_task env task_id project_id
      (some message_id) reviewer .awaiting_approval project mode p))
    let db ← inserted (insert_task_agents db task_id agents)
    let packets ← inserted (db.packets.insert { packet with task_id := task_id })
    pure ({ db with packets := packets }, controlled [("task_id", .str task_id),
      ("message_id", .str message_id), ("status", .str "awaiting_approval"),
      ("execution_mode", .str mode.value), ("correlation_id", .str (env.uuid 2))])

/-- `POST /projects/{project_id}/tasks` -/
def create_task (project_id : String) : Handler where
  Context := Project
  immediate := false
  before _ view _ _ req := do
    let project ← project_or_404 (view .project) project_id
    let actor ← actor (view .participants) req .manage project_id
    require_mutable_project (view .project) project_id
    require_not_stopped (view .control) project_id
    pure (⟨actor, "POST:/projects/" ++ project_id ++ "/tasks", req.body⟩, project)
  after _ view db env req _ project := do
    let assignee := (req.get? "assignee_agent_id").bind env.canonical_agent_id
    let p ← validated_task_payload env req.get? assignee project
    let mode ← execution_mode (req.get? "execution_mode")
    let reviewer := chosen_reviewer (view .participants) env req project_id p.assignee
    let agents ← canonical_agents env
      ((req.get? "agent_ids").or (some (.arr [.str p.assignee])))
    ensure (p.assignee ∈ agents) 422
      "agent_ids must be unique, allowlisted, and include assignee_agent_id"
    require_independent_reviewer reviewer agents false
    ensure (∀ r ∈ reviewer, qa_participant (view .participants) project_id r) 409
      "reviewer must be an active project QA participant"
    let source := if req.absent "source_message_id" then none else req.text? "source_message_id"
    ensure (req.absent "source_message_id" ∨ ∃ id ∈ source,
        ((view .message).messages.find id).any fun m =>
          m.project_id == project_id && m.message_type == "instruction") 422
      "source_message_id must reference a project instruction"
    ensure (∀ id ∈ source, ((view .task).task_of_message id).isNone) 409
      "instruction is already linked to a task"
    let task_id := env.uuid 0
    let db ← inserted (insert_task db (new_task env task_id project_id source reviewer .draft project
      mode p))
    let db ← inserted (insert_task_agents db task_id agents)
    pure (db, controlled [("task_id", .str task_id), ("status", .str "draft"),
      ("execution_mode", .str mode.value), ("correlation_id", .str (env.uuid 1))])

/-- `POST /projects/{project_id}/instructions` -/
def create_instruction_with_task (project_id : String) : Handler where
  Context := String × String
  immediate := true
  before _ view db _ req := do
    let text ← found (bounded_text 4096 (req.get? "body")) 422 "body must be 1..4096 characters"
    let task_id ← found ((req.text? "task_id").filter (· ≠ "")) 422 "task_id required"
    let _ ← project_or_404 (view .project) project_id
    let actor ← actor (view .participants) req .manage project_id
    require_mutable_project (view .project) project_id
    require_not_stopped db project_id
    pure (⟨actor, "POST:/projects/" ++ project_id ++ "/instructions", req.body⟩, text, task_id)
  after cfg _ db env _ l ctx := do
    let (text, task_id) := ctx
    let task ← found (db.tasks.find task_id) 422 "instruction task not found"
    ensure (task.project_id = project_id) 403 "instruction task belongs to another project"
    ensure (task.source_message_id = none) 409 "task already has an immutable instruction"
    let message_id := env.uuid 0
    let messages ← inserted (db.messages.insert
      ⟨message_id, project_id, "instruction", l.actor, cfg.stored text⟩)
    integrity (¬∃ t ∈ db.tasks.rows, t.source_message_id = some message_id)
    pure ({ db with
        messages := messages
        tasks := db.tasks.update (fun t => t.id == task_id) fun t =>
          { t with source_message_id := some message_id, updated_at := env.now } },
      controlled [("message_id", .str message_id), ("task_id", .str task_id),
        ("status", .str task.status.value), ("correlation_id", .str (env.uuid 1))])

/-! ## Approvals -/

/-- `hashlib.sha256(json.dumps(agents).encode()).hexdigest()` -/
def target_set_hash (cfg : Config) (agents : List String) : String :=
  cfg.sha256 ("[" ++ ", ".intercalate
    (agents.map fun a => String.ofList ((Json.str a).encode true)) ++ "]")

/-- The window of `expires_at`. -/
def valid_expiry (env : Env) (expires_at : Int) : Bool :=
  decide (env.now < expires_at ∧ expires_at ≤ env.now + 604800)

/-- The approval of the task as it stands, for these agents. -/
def new_approval (cfg : Config) (env : Env) (id approver : String) (task : Task)
    (agents : List String) (decision : Decision) (expires_at : Option Int) : Approval where
  id := id
  task_id := task.id
  approver_id := approver
  decision := decision
  scope_hash := cfg.sha256 task.scope
  document_version := task.document_version.getD ""
  assignee_agent_id := task.assignee_agent_id
  target_set_hash := target_set_hash cfg agents
  expires_at := expires_at
  revoked_at := none
  created_at := env.now

/-- `UPDATE war_tasks SET status=?,updated_at=? WHERE id=?` -/
def set_status (db : DB) (env : Env) (task_id : String) (status : TaskStatus) : DB :=
  { db with tasks := db.tasks.update (fun t => t.id == task_id) fun t =>
      { t with status := status, updated_at := env.now } }

/-- `UPDATE war_tasks SET status=?,revision=revision+1,updated_at=? WHERE id=?` -/
def next_revision (db : DB) (env : Env) (task_id : String) (status : TaskStatus) : DB :=
  { db with tasks := db.tasks.update (fun t => t.id == task_id) fun t =>
      { t with status := status, revision := t.revision + 1, updated_at := env.now } }

theorem find_next_revision (db : DB) (env : Env) {task_id : String} (status : TaskStatus) {task : Task}
    (hfound : db.tasks.find task_id = some task) :
    (next_revision db env task_id status).tasks.find task_id =
      some { task with status := status, revision := task.revision + 1, updated_at := env.now } := by
  unfold next_revision
  dsimp only
  rw [Table.find_update, hfound, Option.map_some, (Table.find_some hfound).2, beq_self_eq_true, if_pos rfl]

/-- `UPDATE war_approvals SET revoked_at=? WHERE ..` -/
def revoke (db : DB) (env : Env) (cond : Approval → Bool) : DB :=
  { db with approvals := db.approvals.update cond fun a => { a with revoked_at := some env.now } }

/-- `POST /tasks/{task_id}/approvals` -/
def approve_task (task_id : String) : Handler where
  Context := Task × Decision
  immediate := false
  before cfg view _ _ req := do
    let decision ← found (match req.text? "decision" with
      | some "approved" => some Decision.approved
      | some "rejected" => some .rejected
      | _ => none) 422 "decision must be approved or rejected"
    let task ← found ((view .task).tasks.find task_id) 404 "Task not found"
    validate_mutation_contract req task
    let actor ← actor (view .participants) req .approve task.project_id
    require_representative cfg actor
    require_mutable_project (view .project) task.project_id
    pure (⟨actor, "POST:/tasks/" ++ task_id ++ "/approvals", req.body⟩, task, decision)
  after cfg view db env req l ctx := do
    let (task, decision) := ctx
    ensure (task.status = .awaiting_approval) 409 "Task is not awaiting approval"
    ensure (task.assignee_agent_id.any (· ≠ "") ∧ task.call_limit.isSome ∧ task.turn_limit.isSome ∧
      task.deadline_at.isSome ∧ task.document_version.any (· ≠ "")) 409
      "task execution policy is incomplete"
    let agents := (view .agents).agents task_id
    require_independent_reviewer task.reviewer_agent_id agents false
    ensure (decision = .rejected ∨ ¬req.absent "expires_at") 422 "approval expires_at required"
    ensure (req.absent "expires_at" ∨ (req.int? "expires_at").any (valid_expiry env)) 422
      "approval expiry must be within 7 days"
    let approvals ← inserted (db.approvals.insert (new_approval cfg env (env.uuid 0) l.actor task
      agents decision (req.int? "expires_at")))
    let status := match decision with
      | .approved => .approved
      | .rejected => .draft
    pure (set_status { db with approvals := approvals } env task_id status,
      controlled [("task_id", .str task_id), ("status", .str status.value),
        ("approval_id", .str (env.uuid 0)), ("correlation_id", .str (env.uuid 1))])

/-- `POST /tasks/{task_id}/approvals/{approval_id}/revoke` -/
def revoke_approval (task_id approval_id : String) : Handler where
  Context := Approval
  immediate := false
  before _ view _ _ req := do
    let task ← found ((view .task).tasks.find task_id) 404 "Approval not found"
    let approval ← found (((view .approval).approvals.find approval_id).filter fun a =>
      a.task_id == task_id) 404 "Approval not found"
    let actor ← actor (view .participants) req .approve task.project_id
    pure (⟨actor, "POST:/tasks/" ++ task_id ++ "/approvals/" ++ approval_id ++ "/revoke", req.body⟩,
      approval)
  after _ _ db env _ _ approval := do
    ensure (approval.revoked_at = none) 409 "Approval already revoked"
    pure (revoke db env fun a => a.id == approval_id,
      controlled [("approval_id", .str approval_id), ("status", .str "revoked"),
        ("correlation_id", .str (env.uuid 0))])

/-! ## Reviewers -/

/-- `lower(run_status) NOT IN (..)`: the run has not ended. -/
def run_is_active (r : ExecutionRun) : Bool :=
  r.run_status.map Char.toLower ∉ ["pass", "fail", "completed", "failed", "blocked", "cancelled",
    "canceled", "timed_out", "stopped"]

/-- `POST /tasks/{task_id}/reviewer` -/
def assign_existing_task_reviewer (task_id : String) : Handler where
  Context := Task × String × Int
  immediate := true
  before cfg view db env req := do
    let reviewer ← found ((req.get? "reviewer_agent_id").bind env.canonical_agent_id) 422
      "registered reviewer_agent_id required"
    let _ ← found (bounded_text 1024 (req.get? "reason")) 422 "reason must be 1..1024 characters"
    let expected_revision ← found ((req.int? "task_revision").filter (decide <| 1 ≤ ·)) 422
      "task_revision must be a positive integer"
    let task ← found ((view .task).tasks.find task_id) 404 "Task not found"
    let actor ← actor (view .participants) req .manage task.project_id
    require_representative cfg actor
    require_mutable_project (view .project) task.project_id
    let task ← found (db.tasks.find task_id) 404 "Task not found"
    pure (⟨actor, "POST:/tasks/" ++ task_id ++ "/reviewer", req.body⟩, task, reviewer,
      expected_revision)
  after _ _ db env _ _ ctx := do
    let (task, reviewer, expected_revision) := ctx
    ensure (task.status ≠ .completed) 409 "completed task reviewer is immutable"
    ensure (task.reviewer_agent_id = none) 409 "task reviewer is already assigned"
    ensure ((task.revision : Int) = expected_revision) 409 "task revision changed"
    ensure ((env.catalog reviewer).any (fun e => e.registered && e.enabled) ∧
        (db.participants.find (task.project_id, reviewer)).any fun p =>
          p.active && p.role == .qa && p.can_read && p.can_comment) 409
      "reviewer must be a registered, enabled, active project QA participant"
    require_independent_reviewer (some reviewer) (db.agents task_id) true
    ensure (¬(db.deliveries.rows.any fun d =>
        some d.message_id == task.source_message_id && d.active) ∧
      ¬(db.runs.rows.any fun r => r.war_task_id == task_id && run_is_active r)) 409
      "queued or active task execution must finish before reviewer assignment"
    let db := revoke db env fun a => a.task_id == task_id && a.decision == .approved &&
      a.revoked_at.isNone && a.expires_at.any (decide <| env.now < ·)
    pure ({ db with tasks := db.tasks.update (fun t => t.id == task_id) fun t =>
          { t with
            reviewer_agent_id := some reviewer
            status := .awaiting_approval
            revision := t.revision + 1
            updated_at := env.now } },
      controlled [("task_id", .str task_id), ("reviewer_agent_id", .str reviewer),
        ("status", .str "awaiting_approval"), ("revision", .int (expected_revision + 1)),
        ("correlation_id", .str (env.uuid 0))])

/-! ## Transitions -/

def transition_target : Option String → Option TaskStatus
  | some "awaiting_approval" => some .awaiting_approval
  | some "running" => some .running
  | some "qa" => some .qa
  | some "completed" => some .completed
  | some "stopped" => some .stopped
  | some "stop_unconfirmed" => some .stop_unconfirmed
  | some "rework_required" => some .rework_required
  | _ => none

/-- The approval is for the task as it stands, and has not expired. -/
def approval_matches (cfg : Config) (env : Env) (task : Task) (agents : List String)
    (a : Approval) : Bool :=
  a.expires_at.any (decide <| env.now < ·) && a.scope_hash == cfg.sha256 task.scope &&
    some a.document_version == task.document_version &&
    a.assignee_agent_id == task.assignee_agent_id &&
    a.target_set_hash == target_set_hash cfg agents

/-- The checks of `target == "running"`: the deadline that the task runs with. -/
def running_deadline (cfg : Config) (view : View) (env : Env) (task : Task) (actor : String) :
    Except HttpError Int := do
  require_representative cfg actor
  let assigned := (view .agents).agents task.id
  require_independent_reviewer task.reviewer_agent_id assigned false
  require_execution_agents (view .participants) env task.project_id assigned
  let approval := (view .approval).approval task.id
  let current := approval.any (approval_matches cfg env task assigned)
  let deadline := task.deadline_at.getD 0
  -- a rework approval from before deadlines were renewed: its expiry bounds the run
  let effective := if deadline ≤ env.now ∧ 1 < task.revision ∧ current then
    (approval.bind Approval.expires_at).getD 0 else deadline
  ensure (task.assignee_agent_id.any (· ≠ "") ∧ task.call_limit.isSome ∧ task.turn_limit.isSome ∧
    env.now < effective ∧ task.document_version.any (· ≠ "") ∧ current) 409
    "valid current approval required"
  pure effective

/-- The checks of `target == "qa"` for a task with an instruction. -/
def qa_entry (view : View) (task : Task) : Except HttpError Unit :=
  match task.source_message_id with
  | none => .ok ()
  | some message_id => do
    let deliveries := (view .deliveries).deliveries.rows.filter fun d =>
      d.message_id == message_id && d.task_revision == task.revision
    ensure (deliveries ≠ [] ∧ ∀ d ∈ deliveries, d.status = .responded ∧
      d.response_message_id.any (· ≠ "") ∧ d.error_code.all (· = "")) 409
      "only fully responded successful deliveries may enter QA"
    let runs := (view .runs).runs.rows.filter fun r => r.war_task_id == task.id
    ensure (task.execution_mode = .LEGACY ∨ runs ≠ [] ∧ ∀ r ∈ runs,
      r.run_status.map Char.toLower ∈ ["pass", "completed"]) 409
      "validated PASS execution required before QA"

/-- The deadline of `target == "awaiting_approval"` after work, a stop or a review. -/
def renewed_deadline (env : Env) (req : Request) : Except HttpError Int :=
  match req.get? "deadline_at" with
  | none => .ok (env.now + 1800)
  | some v => found ((asInt (some v)).filter fun n =>
      decide (env.now < n ∧ n ≤ env.now + 604800)) 422 "deadline_at must be within the next 7 days"

/-- What `transition_task` makes of the row that it read as `task`. -/
def Task.transitioned (t task : Task) (target : TaskStatus) (deadline : Option Int) (now : Int) :
    Task :=
  match target with
  | .qa => { t with status := .qa, qa_cycle := t.qa_cycle + 1, updated_at := now }
  | .awaiting_approval | .rework_required =>
    if task.status = .stopped ∨ task.status = .stop_unconfirmed ∨ task.status = .qa then
      { t with
        status := target
        revision := t.revision + 1
        deadline_at := deadline.or t.deadline_at
        updated_at := now }
    else if target = .awaiting_approval ∧ task.status = .rework_required then
      { t with status := target, deadline_at := deadline, updated_at := now }
    else { t with status := target, updated_at := now }
  | .running =>
    { t with status := target, deadline_at := deadline.or t.deadline_at, updated_at := now }
  | _ => { t with status := target, updated_at := now }

@[simp] theorem Task.transitioned_id (t task : Task) (target : TaskStatus) (deadline : Option Int)
    (now : Int) : (t.transitioned task target deadline now).id = t.id := by
  unfold Task.transitioned
  split <;> try rfl
  all_goals
    split
    · rfl
    · split <;> rfl

@[simp] theorem Task.transitioned_status (t task : Task) (target : TaskStatus)
    (deadline : Option Int) (now : Int) :
    (t.transitioned task target deadline now).status = target := by
  unfold Task.transitioned
  split <;> try rfl
  all_goals
    split
    · rfl
    · split <;> rfl

/-- The `UPDATE war_tasks ..` of `transition_task`. -/
def write_transition (db : DB) (env : Env) (task : Task) (target : TaskStatus)
    (deadline : Option Int) : DB :=
  { db with
    tasks := db.tasks.update (fun t => t.id == task.id)
      (fun t => t.transitioned task target deadline env.now)
      (fun t => t.transitioned_id task target deadline env.now) }

/-- `POST /tasks/{task_id}/transition` -/
def transition_task (task_id : String) : Handler where
  Context := Task × TaskStatus
  immediate := false
  before _ view _ _ req := do
    let target ← found (transition_target (req.text? "status")) 422 "unsupported transition"
    ensure (target ≠ .completed) 403 "completion requires representative approval endpoint"
    let task ← found ((view .task).tasks.find task_id) 404 "Task not found"
    validate_mutation_contract req task
    let permission := if target ∈ [.running, .stopped, .stop_unconfirmed, .qa] then Permission.execute
      else .manage
    let actor ← actor (view .participants) req permission task.project_id
    require_mutable_project (view .project) task.project_id
    pure (⟨actor, "POST:/tasks/" ++ task_id ++ "/transition", req.body⟩, task, target)
  after cfg view db env req l ctx := do
    let (task, target) := ctx
    only_if (target ∈ [.running, .qa]) (require_not_stopped (view .control) task.project_id)
    ensure (target ∈ TRANSITIONS task.status) 409
      ("invalid transition " ++ task.status.value ++ " -> " ++ target.value)
    only_if (target ∈ [.stopped, .stop_unconfirmed]) (require_representative cfg l.actor)
    let effective ← some_if (target = .running) (running_deadline cfg view env task l.actor)
    only_if (target = .qa) (qa_entry view task)
    let renews := target = .awaiting_approval ∧
      task.status ∈ [.rework_required, .stopped, .stop_unconfirmed, .qa]
    let renewed ← some_if renews (renewed_deadline env req)
    -- the approvals that the endpoint has read are revoked by their ids
    let ids := if renews then ((view .approval).unrevoked task_id).map Approval.id else []
    let db := revoke db env fun a => a.id ∈ ids
    let deadline := if target = .running then effective.filter (some · ≠ task.deadline_at) else renewed
    pure (write_transition db env task target deadline,
      controlled ([("task_id", .str task_id), ("status", .str target.value),
        ("correlation_id", .str (env.uuid 0))] ++ match renewed with
          | none => []
          | some n => [("deadline_at", .int n), ("revoked_approval_ids", .arr (ids.map .str)),
              ("new_approval_required", .bool true)]))

end WarRoom

end Plachem
