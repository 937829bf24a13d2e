import Mathlib.Logic.Relation
import PlachemMonitor.WarRoom.System

/-!
# What a step can write

One statement of a transaction after the other: `Write cfg w l db db'` is a statement of the step
`l` from `w` that takes the tables from `db` to `db'`, with what the source has checked until then.
Where an endpoint has read a row before its transaction, the check is on that row, and the row that
the statement changes may be another by now.

* `TaskMove`, `DeliveryMove`: what a statement can do to a row that is there.
* `NewDelivery`: the deliveries that a statement can insert.
* `Writes`: the statements of a step.
-/

namespace Plachem

namespace WarRoom

/-- The call that a label ends or begins. -/
def World.call (w : World) : Label → Option Call
  | .hand_over token _ _ _ => w.calls.find? fun c => c.token == token && c.delivering.isNone
  | .record token _ _ => w.calls.find? fun c => c.token == token && c.delivering.isSome
  | _ => none

/-- The row that a worker has at hand. -/
def World.row (w : World) : Label → Option DeliveryRow
  | .process id _ seen => delivery_row (w.view seen .deliveries) id
  | .recover id _ seen _ => delivery_row (w.view seen .deliveries) id
  | l => (w.call l).map Call.row

/-- The row of a task that an endpoint has read. -/
def World.read (w : World) (seen : Read → Nat) (task_id : String) : Option Task :=
  (w.view seen .task).tasks.find task_id

/-- The tables with the response that the step records, before what follows from it. -/
def World.written (cfg : Config) (w : World) : Label → Option DB
  | .hand_over token env seen r => do
    let c ← w.call (.hand_over token env seen r)
    let is_qa := c.row.is_qa_delivery (w.view seen .task)
    match lane cfg env c.row is_qa with
    | .direct session =>
      (write_receipt cfg (write_session w.db c.row.delivery.id session) env c is_qa r).toOption
    | _ => none
  | .record token env r => do
    let c ← w.call (.record token env r)
    (write_receipt cfg w.db env c (c.delivering.getD false) r).toOption
  | .recover id env seen (.run r) => do
    let row ← delivery_row (w.view seen .deliveries) id
    let db := resolve_row w.db row
    (write_poll cfg db env row
      (poll_outcome cfg db row (row.is_qa_delivery (w.view seen .task)) .responded r) r).toOption
  | _ => none

/-- The recovery of the row finds no binding that it may use. -/
def lacks_binding (cfg : Config) (view : View) (env : Env) (row : DeliveryRow) : Bool :=
  !row.fast (row.is_qa_delivery (view .task)) && cfg.binds &&
    (!has_test_session row.delivery || env.bind_error)

section

variable (cfg : Config) (w : World)

/-- What a statement can do to the row of a task. -/
inductive TaskMove : Label → DB → Task → Task → Prop
  | linked {project_id req env seen db t} (message_id : String) (now : Int) :
    req.text? "task_id" = some t.id → t.source_message_id = none →
    (∀ q ∈ db.tasks, q.source_message_id ≠ some message_id) →
    TaskMove (.request (.create_instruction_with_task project_id) req env seen) db t
      { t with source_message_id := some message_id, updated_at := now }
  | decided {req env seen db t task decision} (now : Int) : t ∈ w.db.tasks →
    w.read seen t.id = some task → task.status = .awaiting_approval →
    TaskMove (.request (.approve_task t.id) req env seen) db t
      { t with
        status := match decision with
          | Decision.approved => .approved
          | .rejected => .draft
        updated_at := now }
  | reviewed {req env seen db t} (reviewer : String) (now : Int) : t ∈ w.db.tasks →
    t.status ≠ .completed → t.reviewer_agent_id = none → (t.id, reviewer) ∉ db.task_agents →
    (∀ d ∈ db.deliveries, some d.message_id = t.source_message_id → d.active = false) →
    (∀ a ∈ db.approvals, a.task_id = t.id → a.decision = .approved → a.revoked_at = none →
      ∀ n ∈ a.expires_at, n ≤ env.now) →
    TaskMove (.request (.assign_existing_task_reviewer t.id) req env seen) db t
      { t with
        reviewer_agent_id := some reviewer
        status := .awaiting_approval
        revision := t.revision + 1
        updated_at := now }
  | transitioned {req env seen db t task target} (deadline : Option Int) (now : Int) : t ∈ w.db.tasks →
    w.read seen t.id = some task → transition_target (req.text? "status") = some target →
    target ∈ TRANSITIONS task.status → target ≠ .completed →
    (target = .awaiting_approval → task.status ≠ .draft → ∀ a ∈ db.approvals, a.task_id = t.id →
      a.decision = .approved → a.revoked_at = none → a ∉ (w.view seen .approval).approvals) →
    TaskMove (.request (.transition_task t.id) req env seen) db t
      (t.transitioned task target deadline now)
  | executed {req env seen db t task} (now : Int) : t ∈ w.db.tasks →
    w.read seen t.id = some task → task.status = .awaiting_approval →
    task.source_message_id.isSome →
    (cfg.fresh_context_bypassed = false → w.db.tasks.find t.id =
      (w.view seen .context).tasks.find t.id) →
    TaskMove (.request (.approve_and_execute_task t.id) req env seen) db t
      { t with status := .running, updated_at := now }
  | judged {req env seen db t task} (now : Int) : t ∈ w.db.tasks →
    w.read seen t.id = some task → task.status = .qa →
    verdict_of (req.text? "verdict") ≠ some .PASS →
    TaskMove (.request (.qa_verdict t.id) req env seen) db t
      { t with status := .rework_required, revision := t.revision + 1, updated_at := now }
  | rejected {req env seen db t task} (now : Int) : t ∈ w.db.tasks →
    w.read seen t.id = some task → task.status = .qa →
    (cfg.fresh_context_bypassed = false → w.db.tasks.find t.id =
      (w.view seen .context).tasks.find t.id) →
    TaskMove (.request (.representative_completion t.id) req env seen) db t
      { t with status := .rework_required, revision := t.revision + 1, updated_at := now }
  | completed {req env seen db t task} (now : Int) : t ∈ w.db.tasks →
    w.read seen t.id = some task → task.status = .qa →
    decision_of (req.text? "decision") = some .approved →
    (cfg.fresh_context_bypassed = false → w.db.tasks.find t.id =
      (w.view seen .context).tasks.find t.id) →
    representative_completion_checks cfg w.db env task = [] →
    (∃ a ∈ db.representative_approvals, a.task_id = task.id ∧ a.decision = .approved ∧
      a.task_revision = task.revision ∧ a.scope_hash = cfg.sha256 task.scope ∧
      a.document_version = task.document_version ∧ a.qa_cycle = task.qa_cycle) →
    TaskMove (.request (.representative_completion t.id) req env seen) db t
      { t with status := .completed, updated_at := now }
  | resumed {req env seen db t} (deadline : Option Int) (now : Int) :
    t.status = .qa →
    TaskMove (.request (.resume_task_qa t.id) req env seen) db t
      { t with qa_cycle := t.qa_cycle + 1, deadline_at := deadline, updated_at := now }
  | recovered {req env seen db t} (now : Int) :
    t.status = .rework_required →
    TaskMove (.request (.recover_qa_rework t.id) req env seen) db t
      { t with status := .qa, qa_cycle := t.qa_cycle + 1, updated_at := now }
  | revalidated {req env seen db t} (cycle : Nat) (now : Int) :
    t.status ∈ [.running, .qa, .rework_required] → t.qa_cycle ≤ cycle →
    TaskMove (.request (.revalidate_task_result t.id) req env seen) db t
      { t with status := .qa, qa_cycle := cycle, updated_at := now }
  | project_stopped {project_id req env seen db t} (status : TaskStatus) (now : Int) :
    t.project_id = project_id → t.status ∈ [.approved, .running, .qa, .rework_required] →
    status ∈ [.stopped, .stop_unconfirmed] →
    (∀ a ∈ db.approvals, a.task_id = t.id → a.revoked_at ≠ none) →
    TaskMove (.request (.stop_project project_id) req env seen) db t
      { t with status := status, revision := t.revision + 1, updated_at := now }
  | task_stopped {req env seen db t task} (status : TaskStatus) (now : Int) : t ∈ w.db.tasks →
    w.read seen t.id = some task → task.status ≠ .completed → task.status ≠ status →
    status ∈ [.stopped, .stop_unconfirmed] →
    (∀ a ∈ db.approvals, a.task_id = t.id → a.decision = .approved → a.revoked_at ≠ none) →
    TaskMove (.request (.stop_task t.id) req env seen) db t
      { t with status := status, revision := t.revision + 1, updated_at := now }
  | conflicted {l db t row written} (now : Int) :
    w.row l = some row → w.written cfg l = some written → t ∈ w.db.tasks →
    row.task_id = some t.id → t.revision = row.delivery.task_revision →
    is_reviewer t row.delivery = false →
    worker_pending written t.id row.delivery.message_id row.delivery.task_revision = false →
    collaboration_conflict cfg written row.delivery.message_id row.delivery.task_revision = true →
    TaskMove l db t
      { t with status := .rework_required, revision := t.revision + 1, updated_at := now }
  | entered_qa {l db t row written} (now : Int) :
    w.row l = some row → w.written cfg l = some written → t ∈ w.db.tasks →
    row.task_id = some t.id → t.revision = row.delivery.task_revision → t.status = .running →
    worker_pending written t.id row.delivery.message_id row.delivery.task_revision = false →
    TaskMove l db t { t with status := .qa, qa_cycle := t.qa_cycle + 1, updated_at := now }
  | unreviewable {l db t} (now : Int) :
    t.status = .qa → (∃ r ∈ t.reviewer_agent_id, (t.id, r) ∈ db.task_agents) →
    TaskMove l db t
      { t with status := .rework_required, revision := t.revision + 1, updated_at := now }
  | auto_judged {l db t row} (now : Int) :
    w.row l = some row → row.task_id = some t.id → t.status = .qa →
    TaskMove l db t
      { t with status := .rework_required, revision := t.revision + 1, updated_at := now }
  | failed {l db t row} (now : Int) :
    w.row l = some row → t.source_message_id = some row.delivery.message_id →
    t.revision = row.delivery.task_revision →
    t.status ∉ [.completed, .stopped, .stop_unconfirmed, .rework_required] →
    TaskMove l db t
      { t with status := .rework_required, revision := t.revision + 1, updated_at := now }
  | finalized {db t} (status : String) (now : Int) :
    t.workflow_finalized_at = none →
    TaskMove (.finalize t.id status now) db t
      { t with workflow_status := some status, workflow_finalized_at := some now }

/-- The stop of a project or of a task tells the row. -/
def Delivery.barred (d : Delivery) (error_code : String) (now : Int) : Delivery :=
  { d with status := .stopped, error_code := some error_code, stop_cycle_at := some now }

/-- What a statement can do to the row of a delivery. -/
inductive DeliveryMove : Label → DB → Delivery → Delivery → Prop
  | project_barred {project_id req env seen db d} (now : Int) :
    d.status = .queued → db.in_project project_id d.message_id = true →
    DeliveryMove (.request (.stop_project project_id) req env seen) db d
      (d.barred "project_stop_barrier" now)
  | project_answered {project_id req env seen db d} (r : DeliveryReceipt) (now : Int) :
    d.sent = true → w.db.in_project project_id d.message_id = true → d ∈ w.db.deliveries →
    r = stop_bound_delivery cfg w.db env d →
    DeliveryMove (.request (.stop_project project_id) req env seen) db d
      { d.answered r with stop_cycle_at := some now }
  /-- By its id: it was waiting when it was read. -/
  | task_barred {task_id req env seen db d task q} (now : Int) :
    w.read seen task_id = some task → q ∈ waiting_deliveries (w.view seen .deliveries) task →
    q.id = d.id → d ∈ w.db.deliveries →
    DeliveryMove (.request (.stop_task task_id) req env seen) db d
      (d.barred "task_stop_before_dispatch" now)
  | task_answered {task_id req env seen db d} (r : DeliveryReceipt) (now : Int) :
    d.sent = true →
    DeliveryMove (.request (.stop_task task_id) req env seen) db d
      { d.answered r with stop_cycle_at := some now }
  /-- By its id: the worker has read it before. -/
  | worker_answered {project_id deadline ids env seen db d q} (r : DeliveryReceipt) :
    q ∈ stop_targets (w.view seen .deliveries) project_id ids → q.id = d.id →
    DeliveryMove (.request_project_stop project_id deadline ids env seen) db d (d.answered r)
  | reclaimed {task_id req env seen db d} :
    d.agent_id ∈ w.db.agents task_id → d.active = true → (∃ n ∈ d.deadline_at, n ≤ env.now) →
    DeliveryMove (.request (.approve_and_execute_task task_id) req env seen) db d
      { d with status := .timed_out, error_code := some "stale_active_call_reclaimed" }
  /-- By its id: it had failed when it was read. -/
  | retried {req env seen db d row} (agent_id : String) (now : Int) :
    delivery_row (w.view seen .delivery) d.id = some row → is_failure row.delivery.status = true →
    (∃ task_id ∈ row.task_id, agent_id ∈ (w.view seen .agents).agents task_id) →
    (∀ q ∈ db.deliveries, q.id ≠ d.id → q.message_id = d.message_id → q.agent_id = agent_id →
      q.task_revision ≠ d.task_revision) →
    DeliveryMove (.request (.retry_delivery d.id) req env seen) db d (d.retried agent_id now)
  /-- By its id: it had failed when it was read. -/
  | requeued {env seen db d q} (now : Int) :
    (w.view seen .delivery).deliveries.find d.id = some q → is_failure q.status = true →
    DeliveryMove (.request_delivery_retry d.id env seen) db d
      { d with
        status := .queued
        next_attempt_at := some now
        error_code := none
        error_class := none
        last_error_at := none }
  | bypassed {task_id req env seen db d} (now : Int) :
    d.status = .queued →
    DeliveryMove (.request (.revalidate_task_result task_id) req env seen) db d
      { d with
        status := .failed
        error_code := some "result_revalidation_worker_bypassed"
        error_class := some "system_error"
        last_error_at := some now }
  | dismissed {id env seen db d} (now : Int) :
    d.id = id → d.status = .queued →
    DeliveryMove (.process id env seen) db d
      { d with
        status := .failed
        error_code := some "agent_admission_revoked"
        error_class := some "system_error"
        last_error_at := some now }
  /-- By its id: its deadline had passed when it was read, and it could be claimed. -/
  | overdue {id env seen db d row} (now : Int) :
    d.id = id → delivery_row (w.view seen .deliveries) id = some row →
    row.delivery.claimable env.now = true → (∃ n ∈ row.delivery.deadline_at, n ≤ env.now) →
    DeliveryMove (.process id env seen) db d
      { d with
        status := .timed_out
        error_code := some "delivery_deadline_exceeded"
        error_class := some "system_error"
        last_error_at := some now }
  | postponed {id env seen db d} :
    d.id = id → d.status = .queued →
    DeliveryMove (.process id env seen) db d { d with error_code := some "agent_busy_queued" }
  | claimed {id env seen db d row} :
    d.id = id → delivery_row (w.view seen .deliveries) id = some row → d.claimable env.now = true →
    busy (w.view seen .active) row.delivery = false →
    DeliveryMove (.process id env seen) db d (d.claimed (env.uuid 0) env.now)
  | bound {token env seen r db d c} (session : String × String) :
    w.call (.hand_over token env seen r) = some c → d.id = c.row.delivery.id →
    DeliveryMove (.hand_over token env seen r) db d
      { d with session_key := some session.1, session_id := some session.2 }
  | recorded {l db d c} (o : Outcome) (r : DeliveryReceipt) (now : Int) :
    w.call l = some c → owns_claim c d = true →
    (r.run_id.isSome → o.status = .received) →
    DeliveryMove l db d (d.recorded c.row.delivery o r now)
  /-- The text of an outcome that this step has recorded. -/
  | answered {l db d row} (message_id : String) :
    w.row l = some row → d.id = row.delivery.id → row.delivery.response_message_id.getD "" = "" →
    (∃ q ∈ w.db.deliveries, q.id = d.id ∧ q.sent = true) →
    DeliveryMove l db d { d with response_message_id := some message_id }
  | cancelled {l db d row} :
    w.row l = some row → d.message_id = row.delivery.message_id →
    d.task_revision = row.delivery.task_revision → d.id ≠ row.delivery.id → d.status = .queued →
    DeliveryMove l db d
      { d with status := .failed, error_code := some "cancelled_after_terminal_validation" }
  /-- By its id: it was received when it was read. -/
  | unbound {id env seen poll db d row} (error_code : String) (now : Int) :
    d.id = id → delivery_row (w.view seen .deliveries) id = some row →
    lacks_binding cfg (w.view seen) env row = true →
    DeliveryMove (.recover id env seen poll) db d
      { d with
        status := .failed
        error_code := some error_code
        error_class := some "system_error"
        last_error_at := some now }
  | expired {id env seen poll db d} :
    d.id = id → d.status = .received →
    DeliveryMove (.recover id env seen poll) db d
      { d with status := .timed_out, error_code := some "delivery_deadline_exceeded" }
  | polled {id env seen r db d} (o : Outcome) (message_id session_id : Option String) (now : Int) :
    d.id = id → d.status = .received → o.status ∉ [.queued, .sent, .received] →
    DeliveryMove (.recover id env seen (.run r)) db d (d.polled o message_id session_id now)

/-- A delivery that a statement can insert. -/
inductive NewDelivery : Label → DB → Delivery → Prop
  | executed {task_id req env seen db task message_id agent_id} (id : String) (now : Int) :
    w.read seen task_id = some task → task.status = .awaiting_approval →
    task.source_message_id = some message_id → agent_id ∈ w.db.agents task_id →
    (∀ t ∈ db.tasks, t.id = task_id → t.status = .running) →
    (∃ a ∈ db.approvals, a = new_approval cfg env (env.uuid 0) a.approver_id task
      (w.db.agents task_id) .approved a.expires_at ∧ ∀ q ∈ w.db.approvals, q.id ≠ a.id) →
    NewDelivery (.request (.approve_and_execute_task task_id) req env seen) db
      (queued_delivery id message_id agent_id task.revision task.deadline_at none now)
  | delivered {message_id req env seen db task agent_id} (id : String) (now : Int) :
    w.read seen task.id = some task → task.status = .running →
    task.source_message_id = some message_id →
    agent_id ∈ (w.view seen .agents).agents task.id →
    ((w.view seen .approval).approval task.id).any
      (approval_matches cfg env task ((w.view seen .agents).agents task.id)) = true →
    (∃ message, (w.view seen .message).messages.find message_id = some message ∧
      require_not_stopped (w.view seen .control) message.project_id = .ok ()) →
    NewDelivery (.request (.deliver_message message_id) req env seen) db
      (queued_delivery id message_id agent_id task.revision task.deadline_at none now)
  | reviewed {l db t agent_id message_id} (id : String) (deadline : Option Int)
    (session : String × String) (now : Int) :
    t ∈ db.tasks → t.status = .qa →
    (t.source_message_id = some message_id ∨
      ∃ row, w.row l = some row ∧ row.task_id = some t.id ∧ row.delivery.message_id = message_id) →
    t.reviewer_agent_id = some agent_id → agent_id ≠ "" → (t.id, agent_id) ∉ db.task_agents →
    NewDelivery l db
      (queued_delivery id message_id agent_id t.revision deadline (some session) now)

/-- An approval that a statement can insert. -/
inductive NewApproval : Label → DB → Approval → Prop
  | decided {req env seen db task} (id approver : String) (decision : Decision)
    (expires_at : Option Int) :
    w.read seen task.id = some task → task.status = .awaiting_approval →
    NewApproval (.request (.approve_task task.id) req env seen) db
      (new_approval cfg env id approver task ((w.view seen .agents).agents task.id) decision
        expires_at)
  | executed {req env seen db task} (id approver : String) (expires_at : Int) :
    w.read seen task.id = some task → task.status = .awaiting_approval →
    NewApproval (.request (.approve_and_execute_task task.id) req env seen) db
      (new_approval cfg env id approver task (w.db.agents task.id) .approved (some expires_at))

/-- A verdict that a statement can insert. -/
inductive NewVerdict : Label → DB → QaVerdict → Prop
  | judged {req env seen db task verdict} (id signature profile principal : String) :
    w.read seen task.id = some task → task.status = .qa → principal ≠ "" →
    task.reviewer_agent_id = some principal →
    NewVerdict (.request (.qa_verdict task.id) req env seen) db
      (new_verdict cfg env id principal signature task verdict profile)
  | auto_judged {l db t row verdict} (env : Env) (id signature profile : String) :
    w.row l = some row → row.task_id = some t.id → t ∈ db.tasks → t.status = .qa →
    t.reviewer_agent_id.getD "" = row.delivery.agent_id →
    NewVerdict l db (new_verdict cfg env id row.delivery.agent_id signature t verdict profile)

/-- What a statement can do to a control row. -/
inductive ControlMove : Label → DB → Control → Control → Prop
  | stop_requested {l db c} (at_ deadline now : Int) :
    (∃ req env seen, l = .request (.stop_project c.project_id) req env seen) ∨
      (∃ deadline ids env seen, l = .request_project_stop c.project_id deadline ids env seen) →
    ControlMove l db c
      { c with
        stop_requested_at := some at_
        stop_deadline := some deadline
        stop_state := .stop_requested
        updated_at := now }
  | stop_answered {req env seen db c} (now : Int) :
    ControlMove (.request (.stop_project c.project_id) req env seen) db c
      { c with
        stop_state := final_state (stop_deliveries cfg w.db env c.project_id).2
        updated_at := now }
  | acknowledged {req env seen db c} (cycle_at now : Int) :
    (control (w.view seen .control) c.project_id).stop_requested_at = some cycle_at →
    (control (w.view seen .control) c.project_id).stop_state ≠ .running →
    ControlMove (.request (.stop_ack c.project_id) req env seen) db c
      { c with
        stop_state := stop_cycle_state (w.view seen .deliveries) c.project_id cycle_at
        updated_at := now }
  | resumed {req env seen db c} (now : Int) :
    (control (w.view seen .control) c.project_id).stop_state = .stopped →
    ControlMove (.request (.resume_project c.project_id) req env seen) db c
      { c with
        stop_state := .running
        stop_requested_at := none
        stop_deadline := none
        updated_at := now }
  | timed_out {env seen db c q} (now : Int) :
    (w.view seen .control).controls.find c.project_id = some q → q.stop_state = .stop_requested →
    ControlMove (.process_stop_timer c.project_id env seen) db c
      { c with
        stop_state := if pending_deliveries (w.view seen .deliveries) c.project_id then
            .stop_unconfirmed else .stopped
        updated_at := now }
  | archived {l db c} (now : Int) :
    ControlMove l db c { c with archived_at := some now, updated_at := now }

/-- One statement of a step. -/
inductive Write : Label → DB → DB → Prop
  | insert_task {l db T} (t : Task) : db.tasks.insert t = some T → t.revision = 1 → t.qa_cycle = 0 →
    (t.status = .draft ∨ t.status = .awaiting_approval) →
    (∀ m ∈ t.source_message_id, ∀ q ∈ db.tasks, q.source_message_id ≠ some m) →
    (∀ a ∈ db.task_agents, a ∈ w.db.task_agents) →
    Write l db { db with tasks := T }
  | tasks {l db T} : db.tasks.Evolves (TaskMove cfg w l db) T → Write l db { db with tasks := T }
  | insert_agent {l db T} (task_id agent_id : String) :
    db.task_agents.insert (task_id, agent_id) = some T → agent_id ≠ "" →
    (∀ t ∈ w.db.tasks, t.id ≠ task_id) →
    (∃ t ∈ db.tasks, t.id = task_id ∧ t.reviewer_agent_id ≠ some agent_id) →
    Write l db { db with task_agents := T }
  | deliveries {l db T} : db.deliveries.Evolves (DeliveryMove cfg w l db) T →
    Write l db { db with deliveries := T }
  | insert_delivery {l db T} (d : Delivery) : db.deliveries.insert d = some T →
    NewDelivery cfg w l db d →
    (∀ q ∈ db.deliveries, q.message_id = d.message_id → q.agent_id = d.agent_id →
      q.task_revision ≠ d.task_revision) →
    Write l db { db with deliveries := T }
  | delete_delivery {req env seen db t} (d : Delivery) : t ∈ db.tasks → d ∈ db.deliveries →
    d.active = false → t.status = .qa → t.source_message_id = some d.message_id →
    t.reviewer_agent_id = some d.agent_id → d.task_revision = t.revision →
    (∃ a ∈ db.attempts, a.stage = "QA_RETRY" ∧ a.delivery_id = d.id ∧ a.record = some d) →
    Write (.request (.resume_task_qa t.id) req env seen) db
      { db with deliveries := db.deliveries.delete fun q => q.id == d.id }
  | insert_approval {l db T} (a : Approval) : db.approvals.insert a = some T →
    NewApproval cfg w l db a → Write l db { db with approvals := T }
  | revoke {l db T} :
    db.approvals.Evolves (fun a a' => ∃ now, a' = { a with revoked_at := some now }) T →
    Write l db { db with approvals := T }
  | insert_control {l db T} (c : Control) : db.controls.insert c = some T → c.stop_state = .running →
    Write l db { db with controls := T }
  | controls {l db T} : db.controls.Evolves (ControlMove cfg w l db) T →
    Write l db { db with controls := T }
  | count_calls {l db} (task_id : String) (revision : Nat) (calls turns : Int) :
    Write l db (count_calls db task_id revision calls turns)
  | insert_evidence {l db T} (es : List Evidence) : T.rows = db.evidence.rows ++ es →
    Write l db { db with evidence := T }
  | insert_verdict {l db T} (v : QaVerdict) : db.verdicts.insert v = some T →
    NewVerdict cfg w l db v → Write l db { db with verdicts := T }
  | insert_representative {l db T} (a : RepresentativeApproval) :
    db.representative_approvals.insert a = some T →
    Write l db { db with representative_approvals := T }
  | mark {l db} (task : Task) (delivery_id stage code : String) :
    Write l db (mark db task delivery_id stage code)
  | resolve {l db} (cond : Issue → Bool) : Write l db (resolve_where db cond)
  | insert_message {l db T} (m : Message) : db.messages.insert m = some T →
    Write l db { db with messages := T }
  | insert_packet {l db T} (p : Packet) : db.packets.insert p = some T →
    Write l db { db with packets := T }
  | insert_key {req env seen endpoint db T} (k : IdempotencyKey) : db.keys.insert k = some T →
    Write (.request endpoint req env seen) db { db with keys := T }
  /-- Tables that no statement above decides on. -/
  | others {l db} (projects : Table Project Project.id)
    (participants : Table Participant Participant.key)
    (runs : Table ExecutionRun ExecutionRun.core_run_id)
    (units : Table ExecutionUnit ExecutionUnit.execution_id)
    (attempts : Table StageAttempt StageAttempt.id)
    (revalidations : Table Revalidation Revalidation.id) :
    (∀ a ∈ db.attempts, a ∈ attempts) →
    Write l db { db with
      projects := projects
      participants := participants
      runs := runs
      units := units
      attempts := attempts
      revalidations := revalidations }

/-- The statements of a step, one after the other. -/
abbrev Writes (l : Label) : DB → DB → Prop := Relation.ReflTransGen (Write cfg w l)

variable {cfg w}

/-- What every statement keeps holds after the step. -/
theorem Writes.keeps {l : Label} {db db' : DB} {P : DB → Prop} (h : Writes cfg w l db db')
    (hwrite : ∀ a b, Write cfg w l a b → P a → P b) (hP : P db) : P db' := by
  induction h with
  | refl => exact hP
  | tail _ hlast ih => exact hwrite _ _ hlast ih

/-- A preorder that every statement extends relates the tables before and after the step. -/
theorem Writes.extends {l : Label} {db db' : DB} {R : DB → DB → Prop} (h : Writes cfg w l db db')
    (hrefl : ∀ a, R a a) (htrans : ∀ a b c, R a b → R b c → R a c)
    (hwrite : ∀ a b, Write cfg w l a b → R a b) : R db db' := by
  induction h with
  | refl => exact hrefl _
  | tail _ hlast ih => exact htrans _ _ _ ih (hwrite _ _ hlast)

/-- No statement deletes a task. -/
theorem Write.task_forth {l : Label} {db db' : DB} {t : Task} (h : Write cfg w l db db')
    (ht : t ∈ db.tasks) :
    ∃ t' ∈ db'.tasks, t'.id = t.id ∧ (t' = t ∨ TaskMove cfg w l db t t') := by
  cases h with
  | insert_task q hq => exact ⟨t, (Table.mem_insert hq).mpr (.inl ht), rfl, .inl rfl⟩
  | tasks hT => exact hT.forth ht
  | _ => exact ⟨t, ht, rfl, .inl rfl⟩

/-- Where a task comes from. -/
theorem Write.task_back {l : Label} {db db' : DB} {t' : Task} (h : Write cfg w l db db')
    (ht : t' ∈ db'.tasks) :
    (∃ t ∈ db.tasks, t'.id = t.id ∧ (t' = t ∨ TaskMove cfg w l db t t')) ∨
      (t'.revision = 1 ∧ (t'.status = .draft ∨ t'.status = .awaiting_approval) ∧
        (∀ q ∈ db.tasks, q.id ≠ t'.id) ∧
        (∀ m ∈ t'.source_message_id, ∀ q ∈ db.tasks, q.source_message_id ≠ some m) ∧
        ∀ a ∈ db.task_agents, a ∈ w.db.task_agents) := by
  have hsame : ∀ {t'}, t' ∈ db.tasks →
      ∃ t ∈ db.tasks, t'.id = t.id ∧ (t' = t ∨ TaskMove cfg w l db t t') :=
    fun ht => ⟨_, ht, rfl, .inl rfl⟩
  cases h with
  | insert_task t hT hrevision hcycle hstatus hsource hagents =>
    rcases (Table.mem_insert hT).mp ht with ht | rfl
    · exact .inl (hsame ht)
    · refine .inr ⟨hrevision, hstatus, fun q hq hid => ?_, hsource, hagents⟩
      exact (Table.insert_eq_some hT).2 (List.mem_map.mpr ⟨q, hq, hid⟩)
  | tasks hT => exact .inl (hT.back ht)
  | _ => exact .inl (hsame ht)

/-- Where a delivery comes from. -/
theorem Write.delivery_back {l : Label} {db db' : DB} {d' : Delivery} (h : Write cfg w l db db')
    (hd : d' ∈ db'.deliveries) :
    (∃ d ∈ db.deliveries, d'.id = d.id ∧ (d' = d ∨ DeliveryMove cfg w l db d d')) ∨
      (NewDelivery cfg w l db d' ∧ (∀ q ∈ db.deliveries, q.id ≠ d'.id) ∧
        ∀ q ∈ db.deliveries, q.message_id = d'.message_id → q.agent_id = d'.agent_id →
          q.task_revision ≠ d'.task_revision) := by
  have hsame : ∀ {d'}, d' ∈ db.deliveries →
      ∃ d ∈ db.deliveries, d'.id = d.id ∧ (d' = d ∨ DeliveryMove cfg w l db d d') :=
    fun hd => ⟨_, hd, rfl, .inl rfl⟩
  cases h with
  | deliveries hT => exact .inl (hT.back hd)
  | insert_delivery d hT hnew hunique =>
    rcases (Table.mem_insert hT).mp hd with hd | rfl
    · exact .inl (hsame hd)
    · refine .inr ⟨hnew, fun q hq hid => ?_, hunique⟩
      exact (Table.insert_eq_some hT).2 (List.mem_map.mpr ⟨q, hq, hid⟩)
  | delete_delivery d => exact .inl (hsame (Table.mem_delete.mp hd).1)
  | _ => exact .inl (hsame hd)

/-- What becomes of a delivery; the resumption of a review deletes the one before. -/
theorem Write.delivery_forth {l : Label} {db db' : DB} {d : Delivery} (h : Write cfg w l db db')
    (hd : d ∈ db.deliveries) :
    (∃ d' ∈ db'.deliveries, d'.id = d.id ∧ (d' = d ∨ DeliveryMove cfg w l db d d')) ∨
      ∃ t ∈ db.tasks, (∃ req env seen, l = .request (.resume_task_qa t.id) req env seen) ∧
        d.active = false ∧ t.status = .qa ∧ t.source_message_id = some d.message_id ∧
        t.reviewer_agent_id = some d.agent_id ∧ d.task_revision = t.revision ∧
        ∃ a ∈ db'.attempts, a.stage = "QA_RETRY" ∧ a.delivery_id = d.id ∧ a.record = some d := by
  cases h with
  | deliveries hT => exact .inl (hT.forth hd)
  | insert_delivery q hT => exact .inl ⟨d, (Table.mem_insert hT).mpr (.inl hd), rfl, .inl rfl⟩
  | @delete_delivery req env seen _ t q ht hq hactive hqa hsource hreviewer hrevision harchived =>
    by_cases hid : d.id = q.id
    · obtain rfl := Table.eq_of_key hd hq hid
      exact .inr ⟨t, ht, ⟨req, env, seen, rfl⟩, hactive, hqa, hsource, hreviewer, hrevision,
        harchived⟩
    · exact .inl ⟨d, Table.mem_delete.mpr ⟨hd, by simpa using hid⟩, rfl, .inl rfl⟩
  | _ => exact .inl ⟨d, hd, rfl, .inl rfl⟩

/-- A delivery stays with its instruction and its revision. -/
theorem DeliveryMove.same {l : Label} {db : DB} {d d' : Delivery}
    (h : DeliveryMove cfg w l db d d') :
    d'.message_id = d.message_id ∧ d'.task_revision = d.task_revision := by
  cases h <;> exact ⟨rfl, rfl⟩

/-- Only a retry gives a delivery to another agent of the task. -/
theorem DeliveryMove.agent {l : Label} {db : DB} {d d' : Delivery}
    (h : DeliveryMove cfg w l db d d') :
    d'.agent_id = d.agent_id ∨
      ∃ seen task_id, d'.agent_id ∈ (w.view seen .agents).agents task_id := by
  cases h with
  | @retried req env seen db d row agent_id now hrow hfailed hagent =>
    obtain ⟨task_id, -, hagent⟩ := hagent
    exact .inr ⟨seen, task_id, hagent⟩
  | _ => exact .inl rfl

end

end WarRoom

end Plachem
