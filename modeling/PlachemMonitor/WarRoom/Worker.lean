import Mathlib.Algebra.Ring.Int.Defs
import PlachemMonitor.WarRoom.Deliveries
import PlachemMonitor.WarRoom.Stops

/-!
# The delivery worker

`process_due_deliveries` and `recover_received_deliveries` read their rows once, and handle one
after the other while everybody else goes on. What they do with one row:

* `process_row`: the checks and the claim, which is committed.
* `lane`: how the claimed delivery is handed over. The direct lane first writes the session of the
  delivery, and holds the transaction of this write until the outcome is recorded; the Fast Gateway
  is called outside of a transaction.
* `record_receipt`: the outcome, if the claim is still the one of this worker.
* `recover_row`: the answer of a poll, and what follows from it.
-/

namespace Plachem

namespace WarRoom

open Text (strip)

/-! ## Claims -/

/-- `status='sent' AND run_id IS NULL AND claim_expires_at<=?` -/
def Delivery.claim_expired (d : Delivery) (now : Int) : Bool :=
  d.status == .sent && d.run_id.isNone && d.claim_expires_at.any (decide <| · ≤ now)

/-- The delivery can be claimed. -/
def Delivery.claimable (d : Delivery) (now : Int) : Bool :=
  d.status == .queued || d.claim_expired now

/-- The `SELECT` of `process_due_deliveries`. -/
def Delivery.due (d : Delivery) (now : Int) : Bool :=
  d.claimable now && decide (d.next_attempt_at.getD d.created_at ≤ now)

/-- What a claim makes of the row. -/
def Delivery.claimed (d : Delivery) (token : String) (now : Int) : Delivery :=
  { d with status := .sent, claim_token := some token, claim_expires_at := some (now + 30) }

/-- A claimed row that is to be handed over, or is. -/
structure Call where
  row : DeliveryRow
  token : String
  /-- `adapter.deliver` has been called, in the lane of a review or not. -/
  delivering : Option Bool
  deriving DecidableEq

/-- The agent of the row is still admitted. -/
def admitted (view : View) (env : Env) (row : DeliveryRow) : Bool :=
  (((env.canonical_agent_id (.str row.delivery.agent_id)).bind env.catalog).any
    WarRoomAgent.execution_eligible) &&
  ((view .participants).participants.find (row.project_id, row.delivery.agent_id)).any fun p =>
    p.active && p.can_comment

/-- The follow-up of a failure, if the row has a task. -/
def fail_task (db : DB) (env : Env) (row : DeliveryRow) (error_code : String) : DB :=
  if row.task_id.isSome then
    terminal_validation_failure db env row.delivery.message_id row.delivery.id
      row.delivery.task_revision error_code
  else db

/-- The agent of the row has another delivery under way. -/
def busy (db : DB) (d : Delivery) : Bool :=
  db.deliveries.rows.any fun q => q.agent_id == d.agent_id && q.id != d.id && q.sent

/-- One row of `process_due_deliveries`, up to its claim: the tables, and the claim. -/
def process_row (view : View) (db : DB) (env : Env) (row : DeliveryRow) : DB × Option Call :=
  let d := row.delivery
  if ¬admitted view env row then
    (fail_task { db with
      deliveries := db.deliveries.update (fun q => q.id == d.id && q.status == .queued) fun q =>
        { q with
          status := .failed
          error_code := some "agent_admission_revoked"
          error_class := some "system_error"
          last_error_at := some env.now } } env row "agent_admission_revoked", none)
  else if d.deadline_at.any (decide <| · ≤ env.now) then
    -- by its id, whatever it is by now
    (fail_task { db with
      deliveries := db.deliveries.update (fun q => q.id == d.id) fun q =>
        { q with
          status := .timed_out
          error_code := some "delivery_deadline_exceeded"
          error_class := some "system_error"
          last_error_at := some env.now } } env row "delivery_deadline_exceeded", none)
  else if busy (view .active) d then
    ({ db with
      deliveries := db.deliveries.update (fun q => q.id == d.id && q.status == .queued) fun q =>
        { q with error_code := some "agent_busy_queued" } }, none)
  else
    ({ db with
      deliveries := db.deliveries.update (fun q => q.id == d.id && q.claimable env.now) fun q =>
        q.claimed (env.uuid 0) env.now },
      if (db.deliveries.find d.id).any fun q => q.claimable env.now then
        some ⟨row, env.uuid 0, none⟩
      else none)

/-! ## Lanes -/

inductive Lane where
  /-- The adapter is not called. -/
  | refused (session : Option (String × String)) (error_code : String)
  /-- Within a transaction. -/
  | direct (session : String × String)
  /-- Outside of a transaction. -/
  | detached
  deriving DecidableEq

/-- The delivery goes to the Fast Gateway. -/
def DeliveryRow.fast (row : DeliveryRow) (is_qa : Bool) : Bool :=
  !is_qa && row.execution_mode == .FAST_GATEWAY

/-- `_binding_for_delivery` -/
def binding_for_delivery (env : Env) (d : Delivery) : Option (String × String) :=
  if has_test_session d then some (d.session_key.getD "", d.session_id.getD "")
  else env.project_session

def lane (cfg : Config) (env : Env) (row : DeliveryRow) (is_qa : Bool) : Lane :=
  if row.fast is_qa then .detached
  else
    match binding_for_delivery env row.delivery with
    | some session =>
      if cfg.binds ∧ env.bind_error then
        .refused (some session) "session_binding_not_disposable_test"
      else .direct session
    | none => if cfg.binds then .refused none "explicit_session_binding_missing" else .detached

/-- `UPDATE war_deliveries SET session_key=?,session_id=? WHERE id=?` -/
def write_session (db : DB) (delivery_id : String) (session : String × String) : DB :=
  { db with
    deliveries := db.deliveries.update (fun d => d.id == delivery_id) fun d =>
      { d with session_key := some session.1, session_id := some session.2 } }

/-! ## Outcomes -/

/-- A status that a receipt may have. -/
def receipt_status : String → Option DeliveryStatus
  | "received" => some .received
  | "responded" => some .responded
  | "failed" => some .failed
  | "timed_out" => some .timed_out
  | "stopped" => some .stopped
  | _ => none

/-- The text of a response that is not blank. -/
def response_text (r : DeliveryReceipt) : Option String := r.response_body.filter (strip · ≠ "")

/-- What a receipt says, after the checks of the response. -/
structure Outcome where
  status : DeliveryStatus
  error_code : Option String
  /-- The response breaks its contract. -/
  invalid : Bool
  result : Option StructuredResult
  deriving DecidableEq

/-- A response that has a text, against the contract of the task. -/
def read_response (cfg : Config) (db : DB) (row : DeliveryRow) (is_qa : Bool) (body : String)
    (error_code : Option String) : Outcome :=
  -- the Fast Gateway has validated the result
  if row.fast is_qa then ⟨.responded, error_code, false, none⟩
  else
    match structured_result cfg db row.delivery.message_id body with
    | .ok result => ⟨.responded, error_code, false, result⟩
    | .error e => ⟨.failed, some e, true, none⟩

/-- The outcome that `status` and the response of the receipt make. -/
def outcome (cfg : Config) (db : DB) (row : DeliveryRow) (is_qa : Bool) (status : DeliveryStatus)
    (r : DeliveryReceipt) (missing : String) : Outcome :=
  match status, response_text r with
  | .responded, some body => read_response cfg db row is_qa body r.error_code
  | .responded, none =>
    if row.delivery.response_message_id.getD "" = "" then ⟨.failed, some missing, false, none⟩
    else ⟨.responded, r.error_code, false, none⟩
  | status, _ => ⟨status, r.error_code, false, none⟩

/-- `_store_response_message`, unless the delivery has a response. -/
def store_response (cfg : Config) (db : DB) (env : Env) (row : DeliveryRow) (status : DeliveryStatus)
    (r : DeliveryReceipt) : Except HttpError DB :=
  match response_text r with
  | none => .ok db
  | some body =>
    if row.delivery.response_message_id.getD "" ≠ "" then .ok db
    else do
      let messages ← inserted (db.messages.insert
        ⟨env.uuid 0, row.project_id, "result", row.delivery.agent_id, cfg.stored body⟩)
      pure { db with
        messages := messages
        deliveries := db.deliveries.update (fun d =>
            d.id == row.delivery.id && d.status == status) fun d =>
          { d with response_message_id := some (env.uuid 0) } }

/-- A failure that a new attempt does not help. -/
def terminal_contract_failure (o : Outcome) : Bool :=
  o.invalid || ["_VALIDATION_FAILED:", "RESULT_VALIDATION_REQUIRED", "SCOPE_VIOLATION"].any fun m =>
    isPart m (o.error_code.getD "")

def is_failure (s : DeliveryStatus) : Bool := s == .failed || s == .timed_out

/-- The delivery is tried again. -/
def retryable (now : Int) (d : Delivery) (o : Outcome) : Bool :=
  is_failure o.status && !terminal_contract_failure o &&
    decide (d.retry_count + 1 < if d.max_attempts = 0 then 3 else d.max_attempts) &&
    d.deadline_at.all (decide <| now < ·)

/-- What the outcome makes of the row; the counters are those of the row that was claimed. -/
def Delivery.recorded (d claimed : Delivery) (o : Outcome) (r : DeliveryReceipt) (now : Int) :
    Delivery :=
  let again := retryable now claimed o
  { d with
    status := if again then .queued else o.status
    attempt_count := claimed.attempt_count + 1
    retry_count := claimed.retry_count + 1
    error_class := if is_failure o.status then some "system_error" else none
    last_error_at := if is_failure o.status then some now else d.last_error_at
    sent_at := d.sent_at.or (some now)
    received_at := if o.status = .received ∨ o.status = .responded then some now else d.received_at
    responded_at := if o.status = .responded then some now else d.responded_at
    error_code := o.error_code
    run_id := r.run_id.or d.run_id
    response_message_id := claimed.response_message_id
    session_id := r.session_id.or d.session_id
    next_attempt_at := if again then some (now + min 60 (2 ^ (claimed.retry_count + 1))) else none
    claim_token := none
    claim_expires_at := none }

/-- The outcome is that of the claim. -/
def owns_claim (c : Call) (d : Delivery) : Bool :=
  d.id == c.row.delivery.id && d.status == .sent && d.claim_token == some c.token

/-- The worker budget that an outcome uses: a review uses none, and the Fast Gateway reserves the
calls itself. -/
def count_outcome (cfg : Config) (db : DB) (row : DeliveryRow) (is_qa : Bool) (o : Outcome)
    (task : Task) : DB :=
  let review := is_reviewer task row.delivery
  let reserves := row.fast is_qa && cfg.auth_required
  count_calls db task.id row.delivery.task_revision (if review || reserves then 0 else 1)
    (if review then 0 else if o.status = .responded then 1 else 0)

/-- What follows from an outcome that is recorded. -/
def follow_outcome (cfg : Config) (db : DB) (env : Env) (row : DeliveryRow) (is_qa : Bool)
    (o : Outcome) : DB :=
  let d := row.delivery
  let db := if is_failure o.status && !retryable env.now d o then
      terminal_validation_failure db env d.message_id d.id d.task_revision
        ((o.error_code.filter (· ≠ "")).getD o.status.value)
    else db
  let db := if row.fast is_qa then
      persist_execution db (env.snapshot d.id) row.project_id row.task_id d.agent_id env.now
    else db
  match db.task_of_message d.message_id with
  | none => db
  | some task =>
    let db := count_outcome cfg db row is_qa o task
    if o.status = .responded then safe_after_responded_delivery cfg db env row o.result else db

/-- What the receipt of a call says. -/
def call_outcome (cfg : Config) (db : DB) (c : Call) (is_qa : Bool) (r : DeliveryReceipt) : Outcome :=
  outcome cfg db c.row is_qa ((receipt_status r.status).getD .failed) r "response_body_missing"

/-- The row and the response of a call, before what follows. -/
def write_receipt (cfg : Config) (db : DB) (env : Env) (c : Call) (is_qa : Bool)
    (r : DeliveryReceipt) : Except HttpError DB :=
  let o := call_outcome cfg db c is_qa r
  store_response cfg { db with
      deliveries := db.deliveries.update (owns_claim c) fun d =>
        d.recorded c.row.delivery o r env.now } env c.row
    (if retryable env.now c.row.delivery o then .queued else o.status) r

/-- The end of a call: `none` if the claim is not that of the call any longer. -/
def record_receipt (cfg : Config) (db : DB) (env : Env) (c : Call) (is_qa : Bool)
    (r : DeliveryReceipt) : Except HttpError (Option DB) :=
  if db.deliveries.rows.any (owns_claim c) then
    (write_receipt cfg db env c is_qa r).map fun written =>
      some (follow_outcome cfg written env c.row is_qa (call_outcome cfg db c is_qa r))
  else .ok none

/-! ## Recovery -/

/-- What the gateway answers to a poll. -/
inductive Poll where
  | raised
  | run (r : DeliveryReceipt)
  deriving DecidableEq

/-- `UPDATE war_deliveries SET status='failed',.. WHERE id=?` -/
def fail_binding (db : DB) (env : Env) (delivery_id error_code : String) : DB :=
  { db with
    deliveries := db.deliveries.update (fun d => d.id == delivery_id) fun d =>
      { d with
        status := .failed
        error_code := some error_code
        error_class := some "system_error"
        last_error_at := some env.now } }

/-- The row is still the one that the poll was for. -/
def is_received (delivery_id : String) (d : Delivery) : Bool :=
  d.id == delivery_id && d.status == .received

/-- The deadline of a run that has no outcome: its stop has to be confirmed. -/
def recover_expired (cfg : Config) (db : DB) (env : Env) (row : DeliveryRow) : DB :=
  let d := row.delivery
  if (stop_bound_delivery cfg db env d).status = "stopped" then
    terminal_validation_failure { db with
      deliveries := db.deliveries.update (is_received d.id) fun q =>
        { q with status := .timed_out, error_code := some "delivery_deadline_exceeded" } }
      env d.message_id d.id d.task_revision "delivery_deadline_exceeded"
  else
    match row.task_id.bind db.tasks.find with
    | some task => mark db task d.id "RECONCILE" "DEADLINE_STOP_UNCONFIRMED"
    | none => db

/-- What a poll with an outcome makes of the row. -/
def Delivery.polled (d : Delivery) (o : Outcome) (response_message_id : Option String)
    (session_id : Option String) (now : Int) : Delivery :=
  { d with
    status := o.status
    responded_at := if o.status = .responded then some now else d.responded_at
    error_code := o.error_code
    response_message_id := response_message_id
    session_id := session_id.or d.session_id }

/-- The turn of an executor that has responded, and what follows. -/
def follow_response (cfg : Config) (db : DB) (env : Env) (row : DeliveryRow) (o : Outcome) : DB :=
  match db.task_of_message row.delivery.message_id with
  | none => db
  | some task =>
    let db := if is_reviewer task row.delivery then db
      else count_calls db task.id row.delivery.task_revision 0 1
    safe_after_responded_delivery cfg db env row o.result

/-- What a poll with an outcome says. -/
def poll_outcome (cfg : Config) (db : DB) (row : DeliveryRow) (is_qa : Bool) (status : DeliveryStatus)
    (r : DeliveryReceipt) : Outcome :=
  outcome cfg db row is_qa status r (r.error_code.getD "response_body_missing")

/-- The row and the response of a poll, before what follows. -/
def write_poll (cfg : Config) (db : DB) (env : Env) (row : DeliveryRow) (o : Outcome)
    (r : DeliveryReceipt) : Except HttpError DB :=
  store_response cfg { db with
      deliveries := db.deliveries.update (is_received row.delivery.id) fun q =>
        q.polled o row.delivery.response_message_id r.session_id env.now } env row o.status r

/-- What follows from a poll with an outcome. -/
def follow_poll (cfg : Config) (db : DB) (env : Env) (row : DeliveryRow) (is_qa : Bool)
    (o : Outcome) : DB :=
  let d := row.delivery
  let db := if is_failure o.status then
      terminal_validation_failure db env d.message_id d.id d.task_revision
        ((o.error_code.filter (· ≠ "")).getD o.status.value)
    else db
  let db := if row.fast is_qa then
      persist_execution db (env.snapshot d.id) row.project_id row.task_id d.agent_id env.now
    else db
  if o.status = .responded then follow_response cfg db env row o else db

/-- A poll with an outcome. -/
def recover_outcome (cfg : Config) (db : DB) (env : Env) (row : DeliveryRow) (is_qa : Bool)
    (status : DeliveryStatus) (r : DeliveryReceipt) : Except HttpError DB :=
  let o := poll_outcome cfg db row is_qa status r
  if db.deliveries.rows.any (is_received row.delivery.id) then
    (write_poll cfg db env row o r).map fun written => follow_poll cfg written env row is_qa o
  else .ok db

/-- The stage issue of a row is over once its run is observed. -/
def resolve_row (db : DB) (row : DeliveryRow) : DB :=
  match row.task_id with
  | some task_id => resolve db task_id row.delivery.task_revision row.delivery.id
  | none => db

/-- One row of `recover_received_deliveries`. -/
def recover_row (cfg : Config) (view : View) (db : DB) (env : Env) (row : DeliveryRow) (poll : Poll) :
    Except HttpError DB :=
  let d := row.delivery
  let is_qa := row.is_qa_delivery (view .task)
  if !row.fast is_qa && cfg.binds && !has_test_session d then
    .ok (fail_binding db env d.id "explicit_session_binding_missing")
  else if !row.fast is_qa && cfg.binds && env.bind_error then
    .ok (fail_binding db env d.id "session_binding_not_disposable_test")
  else
    match poll with
    | .raised =>
      .ok <| match row.task_id.bind (view .task).tasks.find with
      | some task =>
        if task.revision = d.task_revision then mark db task d.id "RECONCILE" "OBSERVATION_ERROR"
        else db
      | none => db
    | .run r =>
      if ((view .delivery).deliveries.find d.id).all fun q => q.status != .received then .ok db
      else
        match receipt_status r.status with
        | some .received =>
          let db := resolve_row db row
          .ok (if d.deadline_at.any (decide <| · ≤ env.now) then recover_expired cfg db env row
            else db)
        | none => .ok (if d.deadline_at.any (decide <| · ≤ env.now) then
            recover_expired cfg db env row
          else db)
        | some .responded => recover_outcome cfg (resolve_row db row) env row is_qa .responded r
        | some status => recover_outcome cfg db env row is_qa status r

/-! ## An explicit retry -/

/-- `request_delivery_retry`, for a row that it has read as `d`. -/
def request_delivery_retry (db : DB) (env : Env) (d : Delivery) : Option DB := do
  guard (is_failure d.status)
  let attempts := if d.retry_count = 0 then d.attempt_count else d.retry_count
  guard (attempts < if d.max_attempts = 0 then 3 else d.max_attempts)
  pure { db with
    deliveries := db.deliveries.update (fun q => q.id == d.id) fun q =>
      { q with
        status := .queued
        next_attempt_at := some env.now
        error_code := none
        error_class := none
        last_error_at := none } }

end WarRoom

end Plachem
