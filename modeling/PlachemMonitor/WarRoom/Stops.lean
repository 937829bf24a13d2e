import PlachemMonitor.WarRoom.Outcome

/-!
# Stops

`stop_project` reads what it stops within its transaction. `stop_task` reads the task, and the
deliveries that wait, before it. `stop_ack` and `resume_project` decide on what they have read and
write the control row by its key. The worker has a stop of its own, and a timer.
-/

namespace Plachem

namespace WarRoom

/-! ## Receipts -/

/-- The binding that `stop_bound_delivery` asks for. -/
def has_test_session (d : Delivery) : Bool :=
  d.session_key.any (isPart ":war-room-test:") && d.session_id.getD "" != ""

/-- The lane that a stop goes through: a review is always direct. -/
def stop_mode (db : DB) (d : Delivery) : Mode :=
  match db.task_of_message d.message_id with
  | none => .LEGACY
  | some t => if t.reviewer_agent_id = some d.agent_id then .LEGACY else t.execution_mode

/-- `stop_bound_delivery`: the receipt. -/
def stop_bound_delivery (cfg : Config) (db : DB) (env : Env) (d : Delivery) : DeliveryReceipt :=
  if cfg.binds ∧ stop_mode db d = .LEGACY ∧ ¬has_test_session d then
    ⟨"failed", none, some "explicit_session_binding_missing", none, none⟩
  else env.stop_receipt d.id

/-- `receipt.status if receipt.status in {"stopped", "failed", "timed_out"} else "failed"` -/
def stop_status (r : DeliveryReceipt) : DeliveryStatus :=
  if r.status = "stopped" then .stopped
  else if r.status = "timed_out" then .timed_out
  else .failed

/-- What a receipt makes of the row. -/
def Delivery.answered (d : Delivery) (r : DeliveryReceipt) : Delivery :=
  { d with status := stop_status r, error_code := r.error_code }

/-- The execution runs that the adapters of the deliveries tell. -/
def persist_snapshots (db : DB) (env : Env) (project_id : String) (ds : List Delivery) : DB :=
  ds.foldl (fun db d => persist_execution db (env.snapshot d.id) project_id
    ((db.task_of_message d.message_id).map Task.id) d.agent_id env.now) db

def receipts_json (receipts : List (Delivery × DeliveryReceipt)) : Json :=
  .arr (receipts.map fun r => .obj [("delivery_id", .str r.1.id),
    ("status", .str (stop_status r.2).value)])

/-- `UPDATE war_project_control SET .. WHERE project_id=?` -/
def set_control (db : DB) (project_id : String) (f : Control → Control)
    (hf : ∀ c, (f c).project_id = c.project_id := by intro c; rfl) : DB :=
  { db with controls := db.controls.update (fun c => c.project_id == project_id) f hf }

def set_stop_state (db : DB) (env : Env) (project_id : String) (state : StopState) : DB :=
  set_control db project_id fun c => { c with stop_state := state, updated_at := env.now }

/-! ## The stop of a project -/

/-- The delivery was sent, and has no outcome. -/
def Delivery.sent (d : Delivery) : Bool := d.status == .sent || d.status == .received

/-- `final_state` -/
def final_state (receipts : List (Delivery × DeliveryReceipt)) : StopState :=
  if receipts.any fun r => stop_status r.2 == .failed || stop_status r.2 == .timed_out then
    .stop_failed
  -- no receipt at all as well
  else if receipts.all fun r => stop_status r.2 == .stopped then .stopped
  else .stop_requested

/-- The tables after the receipts are written. -/
def stop_deliveries (cfg : Config) (db : DB) (env : Env) (project_id : String) :
    DB × List (Delivery × DeliveryReceipt) :=
  let db := set_control db project_id fun c =>
    { c with
      stop_requested_at := some env.now
      stop_deadline := some (env.now + 300)
      stop_state := .stop_requested
      updated_at := env.now }
  let db := { db with
    deliveries := db.deliveries.update (fun d =>
        d.status == .queued && db.in_project project_id d.message_id) fun d =>
      { d with
        status := .stopped
        error_code := some "project_stop_barrier"
        stop_cycle_at := some env.now } }
  let active := db.deliveries.rows.filter fun d => d.sent && db.in_project project_id d.message_id
  let receipts := active.map fun d => (d, stop_bound_delivery cfg db env d)
  let db := persist_snapshots db env project_id (active.filter fun d =>
    (db.task_of_message d.message_id).any fun t => t.execution_mode == .FAST_GATEWAY)
  ({ db with
      deliveries := db.deliveries.update (fun d =>
          d.sent && db.in_project project_id d.message_id) fun d =>
        { d.answered (stop_bound_delivery cfg db env d) with stop_cycle_at := some env.now } },
    receipts)

/-- `POST /projects/{project_id}/stop` -/
def stop_project (project_id : String) : Handler where
  Context := Unit
  immediate := false
  before cfg view _ _ req := do
    let _ ← project_or_404 (view .project) project_id
    let actor ← actor (view .participants) req .execute project_id
    require_representative cfg actor
    require_mutable_project (view .project) project_id
    pure (⟨actor, "POST:/projects/" ++ project_id ++ "/stop", req.body⟩, ())
  after cfg view db env req l _ := do
    require_fresh_context cfg env req l.actor project_id "project_stop" project_id
      (project_fingerprint (view .context) project_id)
      (project_fingerprint (view .project) project_id)
    let (db, receipts) := stop_deliveries cfg db env project_id
    let state := final_state receipts
    let db := set_stop_state db env project_id state
    let db := revoke db env fun a => a.revoked_at.isNone &&
      (db.tasks.find a.task_id).any fun t => t.project_id == project_id
    let status := if state = .stopped then .stopped else TaskStatus.stop_unconfirmed
    let db := { db with tasks := db.tasks.update (fun t => t.project_id == project_id &&
        decide (t.status ∈ [.approved, .running, .qa, .rework_required])) fun t =>
      { t with status := status, revision := t.revision + 1, updated_at := env.now } }
    pure (db, controlled [("project_id", .str project_id), ("status", .str state.value),
      ("deadline", .int (env.now + 300)), ("deliveries", receipts_json receipts),
      ("correlation_id", .str (env.uuid 0))])

/-! ## The stop of a task -/

/-- The deliveries of a task that wait, as they were read. -/
def waiting_deliveries (db : DB) (task : Task) : List Delivery :=
  db.deliveries.rows.filter fun d => some d.message_id == task.source_message_id &&
    d.status == .queued

/-- The deliveries of a task that were sent. -/
def sent_deliveries (db : DB) (task_id : String) : List Delivery :=
  db.deliveries.rows.filter fun d => d.sent &&
    (db.task_of_message d.message_id).any fun t => t.id == task_id

/-- The tables after the receipts of a task are written. -/
def stop_task_deliveries (cfg : Config) (view : View) (db : DB) (env : Env) (task : Task) :
    DB × List (Delivery × DeliveryReceipt) :=
  let queued := waiting_deliveries (view .deliveries) task
  -- by their ids, whatever they are by now
  let db := { db with
    deliveries := db.deliveries.update (fun d => decide (d.id ∈ queued.map Delivery.id)) fun d =>
      { d with
        status := .stopped
        error_code := some "task_stop_before_dispatch"
        stop_cycle_at := some env.now } }
  let seen := if queued = [] then view .active else db
  let active := sent_deliveries seen task.id
  let receipts := active.map fun d => (d, stop_bound_delivery cfg seen env d)
  let db := { db with
    deliveries := db.deliveries.update (fun d => d.sent && decide (d.id ∈ active.map Delivery.id))
      fun d => { d.answered (((receipts.find? fun r => r.1.id == d.id).map Prod.snd).getD
          (env.stop_receipt d.id)) with stop_cycle_at := some env.now } }
  (persist_snapshots db env task.project_id active, receipts)

/-- `POST /tasks/{task_id}/stop` -/
def stop_task (task_id : String) : Handler where
  Context := Task
  immediate := false
  before cfg view _ _ req := do
    let task ← found ((view .task).tasks.find task_id) 404 "Task not found"
    let actor ← actor (view .participants) req .execute task.project_id
    require_representative cfg actor
    require_mutable_project (view .project) task.project_id
    pure (⟨actor, "POST:/tasks/" ++ task_id ++ "/stop", req.body⟩, task)
  after cfg view db env req l task := do
    require_fresh_context cfg env req l.actor task.project_id "task_stop" task_id
      (task_fingerprint (view .context) task.project_id task_id)
      (task_fingerprint (view .project) task.project_id task_id)
    ensure (task.status ≠ .completed) 409 "completed task cannot be stopped"
    let queued := waiting_deliveries (view .deliveries) task
    let (db, receipts) := stop_task_deliveries cfg view db env task
    let status := if receipts.any fun r => stop_status r.2 == .failed || stop_status r.2 == .timed_out
      then .stop_unconfirmed else TaskStatus.stopped
    let db := revoke db env fun a =>
      a.task_id == task_id && a.decision == .approved && a.revoked_at.isNone
    let db := if task.status = status then db else next_revision db env task_id status
    pure (db, controlled [("task_id", .str task_id), ("status", .str status.value),
      ("stop_requested", .bool (receipts ≠ [] ∨ queued ≠ [])),
      ("confirmed", .bool (status = .stopped)),
      ("deliveries", receipts_json receipts), ("correlation_id", .str (env.uuid 0))])

/-! ## Acknowledgement and resumption -/

/-- The statuses of the deliveries that the stop of the cycle has touched. -/
def cycle_statuses (db : DB) (project_id : String) (cycle_at : Int) : List DeliveryStatus :=
  (db.deliveries.rows.filter fun d => db.in_project project_id d.message_id &&
    d.stop_cycle_at == some cycle_at).map Delivery.status

/-- `_stop_cycle_state` -/
def stop_cycle_state (db : DB) (project_id : String) (cycle_at : Int) : StopState :=
  let statuses := cycle_statuses db project_id cycle_at
  if statuses = [] ∨ ∃ s ∈ statuses, s ∈ [DeliveryStatus.queued, .sent, .received] then
    .stop_unconfirmed
  else if ∃ s ∈ statuses, s ∈ [DeliveryStatus.failed, .timed_out] then .stop_failed
  else if ∀ s ∈ statuses, s = .stopped then .stopped
  else .stop_unconfirmed

/-- `POST /projects/{project_id}/stop-ack` -/
def stop_ack (project_id : String) : Handler where
  Context := Unit
  immediate := false
  before cfg view _ _ req := do
    let _ ← project_or_404 (view .project) project_id
    let actor ← actor (view .participants) req .execute project_id
    require_representative cfg actor
    require_mutable_project (view .project) project_id
    pure (⟨actor, "POST:/projects/" ++ project_id ++ "/stop-ack", req.body⟩, ())
  after _ view db env req _ _ := do
    let control := control (view .control) project_id
    let cycle_at ← found (control.stop_requested_at.filter fun _ =>
      decide (control.stop_state ≠ .running)) 409 "stop was not requested"
    let delivery_id ← found ((req.text? "delivery_id").filter (· ≠ "")) 422 "delivery_id required"
    ensure (∃ d ∈ (view .delivery).deliveries.find delivery_id,
      (view .delivery).in_project project_id d.message_id ∧ d.status = .stopped ∧
        d.stop_cycle_at = some cycle_at) 409 "ACK must match a stopped project delivery"
    let state := stop_cycle_state (view .deliveries) project_id cycle_at
    pure (set_stop_state db env project_id state,
      controlled [("project_id", .str project_id), ("delivery_id", .str delivery_id),
        ("status", .str state.value), ("correlation_id", .str (env.uuid 0))])

/-- A task whose deliveries the stop has touched has no approval from after it. -/
def lacks_approval (view : View) (env : Env) (project_id : String) (cycle_at : Int) (t : Task) :
    Bool :=
  t.project_id == project_id &&
    (view .deliveries).deliveries.rows.any (fun d => some d.message_id == t.source_message_id &&
      (view .deliveries).in_project project_id d.message_id && d.stop_cycle_at == some cycle_at) &&
    !(view .approval).approvals.rows.any fun a => a.task_id == t.id && a.decision == .approved &&
      a.revoked_at.isNone && decide (cycle_at < a.created_at) &&
      a.expires_at.any (decide <| env.now < ·)

/-- `POST /projects/{project_id}/resume` -/
def resume_project (project_id : String) : Handler where
  Context := Unit
  immediate := false
  before cfg view _ _ req := do
    let _ ← project_or_404 (view .project) project_id
    let actor ← actor (view .participants) req .approve project_id
    require_representative cfg actor
    require_mutable_project (view .project) project_id
    pure (⟨actor, "POST:/projects/" ++ project_id ++ "/resume", req.body⟩, ())
  after cfg view db env req l _ := do
    require_fresh_context cfg env req l.actor project_id "project_resume" project_id
      (project_fingerprint (view .context) project_id)
      (project_fingerprint (view .project) project_id)
    let control := control (view .control) project_id
    ensure (control.stop_state = .stopped) 409 "project stop cycle is not fully confirmed"
    let cycle_at := control.stop_requested_at.getD 0
    ensure (¬(view .task).tasks.rows.any (lacks_approval view env project_id cycle_at)) 409
      "fresh approval required for every stopped task"
    pure (set_control db project_id fun c =>
        { c with
          stop_state := .running
          stop_requested_at := none
          stop_deadline := none
          updated_at := env.now },
      controlled [("project_id", .str project_id), ("status", .str "running"),
        ("correlation_id", .str (env.uuid 0))])

/-! ## The stops of the worker -/

/-- The deliveries that `request_project_stop` selects: those of the project, or those that its
caller names. -/
def stop_targets (db : DB) (project_id : String) (delivery_ids : Option (List String)) :
    List Delivery :=
  match delivery_ids with
  | none => db.deliveries.rows.filter fun d => db.in_project project_id d.message_id &&
      (d.sent || d.status == .responded)
  | some ids => db.deliveries.rows.filter fun d => decide (d.id ∈ ids)

/-- `request_project_stop`, for the deliveries that it has read before. -/
def request_project_stop (cfg : Config) (db : DB) (env : Env) (project_id : String)
    (deadline : Option Int) (targets : List Delivery) : DB :=
  let db := set_control db project_id fun c =>
    { c with
      stop_requested_at := some env.now
      stop_deadline := some (deadline.getD (env.now + 300))
      stop_state := .stop_requested
      updated_at := env.now }
  { db with
    -- by their ids, whatever they are by now
    deliveries := db.deliveries.update (fun d => decide (d.id ∈ targets.map Delivery.id)) fun d =>
      d.answered (((targets.find? fun q => q.id == d.id).map (stop_bound_delivery cfg db env)).getD
        (env.stop_receipt d.id)) }

/-- Some delivery of the project is not over. -/
def pending_deliveries (db : DB) (project_id : String) : Bool :=
  db.deliveries.rows.any fun d => db.in_project project_id d.message_id &&
    (d.active || d.status == .responded)

/-- `process_stop_timers`, for one control row that it has read. -/
def process_stop_timer (view : View) (db : DB) (env : Env) (project_id : String) : Option DB := do
  let c ← (view .control).controls.find project_id
  guard (c.stop_state = .stop_requested ∧ c.stop_deadline.any (decide <| · ≤ env.now))
  pure (set_stop_state db env project_id
    (if pending_deliveries (view .deliveries) project_id then .stop_unconfirmed else .stopped))

end WarRoom

end Plachem
