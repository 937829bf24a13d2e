import PlachemMonitor.WarRoom.Authorizer

/-!
# The endpoints of a delivery

`approve_and_execute_task` reads the task before its transaction begins. `deliver_message` and
`retry_delivery` check everything, also whether an agent is free, on rows that they read before
their first write, and look the key up after these checks.
-/

namespace Plachem

namespace WarRoom

/-! ## Approval and execution in one request -/

/-- A delivery of an agent that its deadline has passed. -/
def is_stale (env : Env) (agents : List String) (d : Delivery) : Bool :=
  decide (d.agent_id ∈ agents) && d.active && d.deadline_at.any (decide <| · ≤ env.now)

/-- `stale_active_call_reclaimed`: the deliveries of the agents, of whatever task. -/
def reclaim_stale (db : DB) (env : Env) (agents : List String) : DB :=
  { db with deliveries := db.deliveries.update (is_stale env agents) fun d =>
      { d with status := .timed_out, error_code := some "stale_active_call_reclaimed" } }

/-- A delivery for each agent, under the ids from the given one on. -/
def insert_deliveries (db : DB) (env : Env) (message_id : String) (revision : Nat)
    (deadline : Option Int) (agents : List String) (n : Nat) : Option DB :=
  (agents.zipIdx n).foldlM (fun db a =>
    insert_delivery db (queued_delivery (env.uuid a.2) message_id a.1 revision deadline none env.now))
    db

/-- The members of a response that tell the deliveries. -/
def queued_items (env : Env) (agents : List String) (n : Nat) : Json :=
  .arr ((agents.zipIdx n).map fun a => .obj [("delivery_id", .str (env.uuid a.2)),
    ("agent_id", .str a.1), ("status", .str "queued")])

/-- The deliveries of a task that runs already. -/
def existing_items (db : DB) (message_id : String) (revision : Nat) : Json :=
  .arr ((db.deliveries.rows.filter fun d => d.message_id == message_id &&
      d.task_revision == revision).map fun d =>
    .obj [("delivery_id", .str d.id), ("agent_id", .str d.agent_id), ("status", .str d.status.value)])

/-- `POST /tasks/{task_id}/approve-execute` -/
def approve_and_execute_task (task_id : String) : Handler where
  Context := Task
  immediate := true
  before cfg view db _ req := do
    let task ← found ((view .task).tasks.find task_id) 404 "Task not found"
    validate_mutation_contract req task
    let actor₁ ← actor (view .participants) req .approve task.project_id
    let _ ← actor (view .participants) req .execute task.project_id
    require_representative cfg actor₁
    require_mutable_project (view .project) task.project_id
    require_not_stopped db task.project_id
    pure (⟨actor₁, "POST:/tasks/" ++ task_id ++ "/approve-execute", req.body⟩, task)
  after cfg view db env req l task := do
    require_fresh_context cfg env req l.actor task.project_id "task_approve_execute" task_id
      (task_fingerprint (view .context) task.project_id task_id)
      (task_fingerprint db task.project_id task_id)
    let agents := db.agents task_id
    require_independent_reviewer task.reviewer_agent_id agents true
    match task.status, task.source_message_id with
    | .running, some message_id =>
      pure (db, controlled [("task_id", .str task_id), ("status", .str "running"),
        ("execution_state", .str "already_running"),
        ("deliveries", existing_items db message_id task.revision)])
    | .awaiting_approval, some message_id => do
      let expires_at ← found ((req.int? "expires_at").filter (valid_expiry env)) 422
        "approval expiry must be within 7 days"
      ensure (task.deadline_at.any (decide <| env.now < ·)) 409 "task execution policy is stale"
      require_execution_agents db env task.project_id agents
      ensure ((agents.length : Int) ≤ task.call_limit.getD 0) 409 "task call limit exceeded"
      let db := reclaim_stale db env agents
      let approvals ← inserted (db.approvals.insert (new_approval cfg env (env.uuid 0) l.actor task
        agents .approved (some expires_at)))
      let db := set_status { db with approvals := approvals } env task_id .running
      let db ← inserted (insert_deliveries db env message_id task.revision task.deadline_at agents 2)
      pure (db, controlled [("task_id", .str task_id), ("status", .str "running"),
        ("execution_state", .str "queued"), ("approval_id", .str (env.uuid 0)),
        ("deliveries", queued_items env agents 2), ("correlation_id", .str (env.uuid 1))])
    | _, _ => raise 409 "prepared task awaiting approval required"

/-! ## Deliveries of a running task -/

theorem wf_texts (ss : List String) : (Json.arr (ss.map .str)).wf = true := by
  rw [Json.wf]
  induction ss with
  | nil => rfl
  | cons s ss ih => simpa [Json.wfElems, Json.wf] using ih

/-- `POST /messages/{message_id}/deliveries` -/
def deliver_message (message_id : String) : Handler where
  Context := Task × List String
  immediate := false
  before cfg view _ env req := do
    let agents ← canonical_agents env (if req.absent "agent_ids" then
        some (.arr [(req.get? "agent_id").getD .null]) else req.get? "agent_ids")
    let message ← found ((view .message).messages.find message_id) 404 "Message not found"
    let actor ← actor (view .participants) req .execute message.project_id
    require_mutable_project (view .project) message.project_id
    require_not_stopped (view .control) message.project_id
    let task_id ← found ((req.text? "task_id").filter (· ≠ "")) 422 "task_id required"
    let task ← found (((view .task).tasks.find task_id).filter fun t =>
      t.source_message_id == some message_id) 409 "delivery requires the linked instruction task_id"
    let allowed := (view .agents).agents task.id
    ensure (∀ a ∈ agents, a ∈ allowed) 409 "delivery target is outside the task assignment policy"
    require_execution_agents (view .participants) env task.project_id agents
    ensure (task.status = .running) 409 "task must be running before delivery"
    ensure (task.deadline_at.any (decide <| env.now < ·)) 409 "task deadline exceeded"
    ensure (task.document_version.getD "" ≠ "") 409 "task document version is missing"
    ensure (((view .approval).approval task.id).any (approval_matches cfg env task allowed)) 409
      "fresh matching approval required"
    let calls := calls_of (view .calls) task.id task.revision
    ensure (calls.call_count + agents.length ≤ task.call_limit.getD 0) 409 "task call limit exceeded"
    ensure (calls.turn_count < task.turn_limit.getD 0) 409 "task turn limit exceeded"
    ensure (¬∃ d ∈ (view .active).deliveries.rows, d.agent_id ∈ agents ∧ d.active ∧
      (view .active).in_project task.project_id d.message_id) 409 "active agent call already exists"
    let body := req.body.set "agent_ids" ⟨.arr (agents.map .str), wf_texts agents⟩
    pure (⟨actor, "POST:/messages/" ++ message_id ++ "/deliveries", body⟩, task, agents)
  after _ _ db env _ _ ctx := do
    let (task, agents) := ctx
    let db ← inserted (insert_deliveries db env message_id task.revision task.deadline_at agents 1)
    pure (db, controlled [("deliveries", queued_items env agents 1),
      ("delivery_id", .str (env.uuid 1)), ("status", .str "queued"),
      ("correlation_id", .str (env.uuid 0))])

/-- What `retry_delivery` makes of the row. -/
def Delivery.retried (d : Delivery) (agent_id : String) (now : Int) : Delivery :=
  { d with
    agent_id := agent_id
    status := .queued
    retry_count := 0
    next_attempt_at := some now
    error_code := none
    error_class := none
    last_error_at := none }

/-- `POST /deliveries/{delivery_id}/retry` -/
def retry_delivery (delivery_id : String) : Handler where
  Context := String
  immediate := false
  before _ view _ env req := do
    let row ← found (delivery_row (view .delivery) delivery_id) 404 "Delivery not found"
    let actor ← actor (view .participants) req .execute row.project_id
    require_mutable_project (view .project) row.project_id
    require_not_stopped (view .control) row.project_id
    ensure (row.delivery.status = .failed ∨ row.delivery.status = .timed_out) 409
      "only final failed delivery can be manually retried"
    let agent_id ← found (if req.absent "agent_id" then some row.delivery.agent_id
      else (req.get? "agent_id").bind env.canonical_agent_id) 422 "agent_id is not allowed"
    ensure (∃ task_id ∈ row.task_id, agent_id ∈ (view .agents).agents task_id) 409
      "replacement agent is outside task assignment"
    pure (⟨actor, "POST:/deliveries/" ++ delivery_id ++ "/retry", req.body⟩, agent_id)
  after _ _ db env _ _ agent_id := do
    -- an agent with a delivery of the same message and revision
    integrity (¬∃ d ∈ db.deliveries.rows, d.id = delivery_id ∧
      ∃ q ∈ db.deliveries.rows, q.id ≠ delivery_id ∧ q.message_id = d.message_id ∧
        q.agent_id = agent_id ∧ q.task_revision = d.task_revision)
    let deliveries := db.deliveries.update (fun d => d.id == delivery_id)
      (fun d => d.retried agent_id env.now)
    pure ({ db with deliveries := deliveries },
      controlled [("delivery_id", .str delivery_id), ("status", .str "queued"),
        ("agent_id", .str agent_id), ("correlation_id", .str (env.uuid 0))])

end WarRoom

end Plachem
