import PlachemMonitor.Spec.Machine
import PlachemMonitor.WarRoom.Projects
import PlachemMonitor.WarRoom.Worker

/-!
# The War Room

Any number of servers and workers on one database. A step of `warRoom` is one transaction, or one
call of an adapter; what it has read before its transaction it may have read from any earlier state
of the database.

The log tells what the database does not keep: which rows were handed to an adapter, which runs
were asked to stop, which have ended.
-/

namespace Plachem

namespace WarRoom

open AuthBroker (AuthScope)

/-! ## Endpoints -/

inductive Endpoint where
  | create_project
  | archive_project (project_id : String)
  | update_project (project_id : String)
  | save_manyfast_reference (method project_id : String)
  | save_manyfast_snapshot (project_id : String)
  | add_participant (project_id : String)
  | update_participant (project_id principal_id : String)
  | bind_test_session (project_id agent_id : String)
  | create_message (project_id : String)
  | register_project_document (project_id : String)
  | prepare_task (project_id : String)
  | create_task (project_id : String)
  | create_instruction_with_task (project_id : String)
  | approve_task (task_id : String)
  | revoke_approval (task_id approval_id : String)
  | assign_existing_task_reviewer (task_id : String)
  | transition_task (task_id : String)
  | supersede_task (task_id : String)
  | approve_and_execute_task (task_id : String)
  | deliver_message (message_id : String)
  | retry_delivery (delivery_id : String)
  | add_evidence (task_id : String)
  | qa_verdict (task_id : String)
  | representative_completion (task_id : String)
  | resume_task_qa (task_id : String)
  | recover_qa_rework (task_id : String)
  | revalidate_task_result (task_id : String)
  | stop_project (project_id : String)
  | stop_task (task_id : String)
  | stop_ack (project_id : String)
  | resume_project (project_id : String)
  | compile_executions (project_id task_id : String)
  | dispatch_execution (execution_id : String)
  | stop_execution (execution_id : String)
  deriving DecidableEq

def Endpoint.handler : Endpoint → Handler
  | create_project => WarRoom.create_project
  | archive_project project_id => WarRoom.archive_project project_id
  | update_project project_id => WarRoom.update_project project_id
  | save_manyfast_reference method project_id => WarRoom.save_manyfast_reference method project_id
  | save_manyfast_snapshot project_id => WarRoom.save_manyfast_snapshot project_id
  | add_participant project_id => WarRoom.add_participant project_id
  | update_participant project_id principal_id => WarRoom.update_participant project_id principal_id
  | bind_test_session project_id agent_id => WarRoom.bind_test_session project_id agent_id
  | create_message project_id => WarRoom.create_message project_id
  | register_project_document project_id => WarRoom.register_project_document project_id
  | prepare_task project_id => WarRoom.prepare_task project_id
  | create_task project_id => WarRoom.create_task project_id
  | create_instruction_with_task project_id => WarRoom.create_instruction_with_task project_id
  | approve_task task_id => WarRoom.approve_task task_id
  | revoke_approval task_id approval_id => WarRoom.revoke_approval task_id approval_id
  | assign_existing_task_reviewer task_id => WarRoom.assign_existing_task_reviewer task_id
  | transition_task task_id => WarRoom.transition_task task_id
  | supersede_task task_id => WarRoom.supersede_task task_id
  | approve_and_execute_task task_id => WarRoom.approve_and_execute_task task_id
  | deliver_message message_id => WarRoom.deliver_message message_id
  | retry_delivery delivery_id => WarRoom.retry_delivery delivery_id
  | add_evidence task_id => WarRoom.add_evidence task_id
  | qa_verdict task_id => WarRoom.qa_verdict task_id
  | representative_completion task_id => WarRoom.representative_completion task_id
  | resume_task_qa task_id => WarRoom.resume_task_qa task_id
  | recover_qa_rework task_id => WarRoom.recover_qa_rework task_id
  | revalidate_task_result task_id => WarRoom.revalidate_task_result task_id
  | stop_project project_id => WarRoom.stop_project project_id
  | stop_task task_id => WarRoom.stop_task task_id
  | stop_ack project_id => WarRoom.stop_ack project_id
  | resume_project project_id => WarRoom.resume_project project_id
  | compile_executions project_id task_id => WarRoom.compile_executions project_id task_id
  | dispatch_execution execution_id => WarRoom.dispatch_execution execution_id
  | stop_execution execution_id => WarRoom.stop_execution execution_id

/-! ## The log -/

inductive Event where
  /-- A claim, with the row before it. -/
  | claimed (d : Delivery) (token : String)
  /-- `adapter.deliver`, with the row of the claim. -/
  | handed (d : Delivery) (token : String)
  /-- The receipt of a call is written. -/
  | recorded (d : Delivery) (token : String) (status : DeliveryStatus) (run_id : Option String)
  /-- The outcome of a poll is written. -/
  | polled (d : Delivery) (status : DeliveryStatus)
  /-- `adapter.stop`, and whether its receipt confirms it. -/
  | asked (project_id : String) (d : Delivery) (confirmed : Bool)
  | resumed (project_id : String)
  /-- A call that the grant authorizer has reserved. -/
  | granted (task_id : String) (revision : Nat)
  deriving DecidableEq

/-! ## States and steps -/

structure World where
  db : DB
  /-- The earlier states, the latest first. -/
  past : List DB
  /-- The claims of all workers whose calls are not over. -/
  calls : List Call
  /-- The latest event first. -/
  log : List Event

namespace World

/-- The state that a read has seen, so many transactions ago. -/
def ago (w : World) (k : Nat) : DB := (w.past.take k).getLastD w.db

def view (w : World) (seen : Read → Nat) : View := fun r => w.ago (seen r)

/-- `uuid4` gives no id of a delivery twice. -/
def fresh_ids (w : World) (db : DB) : Bool :=
  db.deliveries.rows.all fun d => w.db.deliveries.rows.any (fun q => q.id == d.id) ||
    w.past.all fun v => v.deliveries.rows.all fun q => q.id != d.id

/-- `uuid4` gives no claim token twice. -/
def fresh_token (w : World) (token : String) : Bool :=
  w.log.all fun e => match e with
    | .claimed _ t => t != token
    | _ => true

/-- A transaction is committed. -/
def commit (w : World) (db : DB) (calls : List Call) (events : List Event) : Option World :=
  if w.fresh_ids db then some ⟨db, w.db :: w.past, calls, events ++ w.log⟩ else none

theorem commit_eq_some {w w' : World} {db : DB} {calls : List Call} {events : List Event} :
    w.commit db calls events = some w' ↔
      w.fresh_ids db = true ∧ w' = ⟨db, w.db :: w.past, calls, events ++ w.log⟩ := by
  unfold commit
  split
  · rename_i h
    rw [Option.some.injEq, eq_comm]
    exact ⟨fun hw => ⟨h, hw⟩, And.right⟩
  · rename_i h
    exact ⟨nofun, fun hw => absurd hw.1 h⟩

end World

/-- A request presents a context token that was issued before its first read. -/
def token_first (seen : Read → Nat) : Bool :=
  [Read.task, .message, .delivery, .project, .participants, .control, .keys, .agents, .approval,
    .deliveries, .runs, .calls, .active, .packet, .evidence].all fun r =>
      decide (seen r ≤ seen .context)

inductive Label where
  /-- A request, to the end of its transaction. -/
  | request (endpoint : Endpoint) (req : Request) (env : Env) (seen : Read → Nat)
  /-- A row of `process_due_deliveries`, to the end of its claim. -/
  | process (delivery_id : String) (env : Env) (seen : Read → Nat)
  /-- A claimed row is handed over; in the direct lane to the end of its transaction. -/
  | hand_over (token : String) (env : Env) (seen : Read → Nat) (r : DeliveryReceipt)
  /-- A call outside of a transaction ends. -/
  | record (token : String) (env : Env) (r : DeliveryReceipt)
  /-- A worker is gone, with what it was about to do. -/
  | abandon (token : String)
  /-- A row of `recover_received_deliveries`. -/
  | recover (delivery_id : String) (env : Env) (seen : Read → Nat) (poll : Poll)
  | request_delivery_retry (delivery_id : String) (env : Env) (seen : Read → Nat)
  | request_project_stop (project_id : String) (deadline : Option Int)
    (delivery_ids : Option (List String)) (env : Env) (seen : Read → Nat)
  | process_stop_timer (project_id : String) (env : Env) (seen : Read → Nat)
  /-- The engine admits a run through `WarRoomGrantAuthorizer`, and its grant is consumed. -/
  | authorize (scope : AuthScope) (now : Int)
  /-- The execution orchestrator writes its own tables. -/
  | executions (units : Table ExecutionUnit ExecutionUnit.execution_id)
    (runs : Table ExecutionRun ExecutionRun.core_run_id)
  /-- `finalize_workflow_projection` -/
  | finalize (task_id status : String) (now : Int)

/-- Stop requests, and their receipts. -/
def asked (db : DB) (receipts : List (Delivery × DeliveryReceipt)) : List Event :=
  receipts.filterMap fun r => (db.project_of r.1.message_id).map fun project_id =>
    .asked project_id r.1 (stop_status r.2 == .stopped)

/-- What the log keeps of a request. -/
def Endpoint.events (cfg : Config) (view : View) (db : DB) (env : Env) : Endpoint → List Event
  | .stop_project project_id => asked db (stop_deliveries cfg db env project_id).2
  | .stop_task task_id =>
    match (view .task).tasks.find task_id with
    | some task => asked db (stop_task_deliveries cfg view db env task).2
    | none => []
  | .resume_project project_id => [.resumed project_id]
  | _ => []

/-- What the log keeps of a poll. -/
def poll_events (cfg : Config) (view : View) (db db' : DB) (env : Env) (row : DeliveryRow)
    (poll : Poll) : List Event :=
  let d := row.delivery
  let received := fun (v : DB) => (v.deliveries.find d.id).any fun q => q.status == .received
  match poll with
  | .raised => []
  | .run r =>
    if received db && !received db' && received (view .delivery) then
      match receipt_status r.status with
      | none | some .received => [.asked row.project_id d true]
      | some status => [.polled d status]
    else if received (view .delivery) && d.deadline_at.any (decide <| · ≤ env.now) &&
        ((receipt_status r.status).all fun s => s == .received) then
      [.asked row.project_id d ((stop_bound_delivery cfg db env d).status == "stopped")]
    else []

/-- `request_project_stop`: what it selects, and the receipts. -/
def stop_receipts (cfg : Config) (db : DB) (env : Env) (targets : List Delivery) :
    List (Delivery × DeliveryReceipt) :=
  targets.map fun d => (d, stop_bound_delivery cfg db env d)

/-- The end of a call. -/
def World.finish (w : World) (cfg : Config) (db : DB) (env : Env) (c : Call) (is_qa : Bool)
    (r : DeliveryReceipt) (events : List Event) : Option World :=
  let calls := w.calls.filter fun q => q.token != c.token
  match record_receipt cfg db env c is_qa r with
  | .ok (some db') => w.commit db' calls
      (.recorded c.row.delivery c.token ((receipt_status r.status).getD .failed) r.run_id :: events)
  | .ok none => w.commit db calls events
  -- the transaction is rolled back
  | .error _ => w.commit w.db calls events

/-- The receipt that stands for a call that is not made. -/
def refusal (error_code : String) : DeliveryReceipt := ⟨"failed", none, some error_code, none, none⟩

/-- The adapters give a run id only with `received`. -/
def plausible_receipt (r : DeliveryReceipt) : Bool := r.run_id.isNone || r.status == "received"

/-- A claimed row is handed over. -/
def World.hand_over (cfg : Config) (w : World) (env : Env) (view : View) (c : Call)
    (r : DeliveryReceipt) : Option World :=
  let is_qa := c.row.is_qa_delivery (view .task)
  let handed := Event.handed c.row.delivery c.token
  match lane cfg env c.row is_qa with
  | .refused none error_code => w.finish cfg w.db env c is_qa (refusal error_code) []
  | .refused (some session) error_code =>
    w.finish cfg (write_session w.db c.row.delivery.id session) env c is_qa (refusal error_code) []
  | .direct session =>
    w.finish cfg (write_session w.db c.row.delivery.id session) env c is_qa r [handed]
  | .detached =>
    w.commit w.db (w.calls.map fun q =>
      if q.token = c.token then { q with delivering := some is_qa } else q) [handed]

def step (cfg : Config) (w : World) : Label → Option World
  | .request endpoint req env seen => do
    guard (token_first seen)
    let view := w.view seen
    match endpoint.handler.handle cfg view w.db env req with
    | .ok (some db, _) => w.commit db w.calls (endpoint.events cfg view w.db env)
    | .ok (none, _) => some w
    | .error _ => none
  | .process delivery_id env seen => do
    let view := w.view seen
    let row ← delivery_row (view .deliveries) delivery_id
    guard (row.delivery.due env.now ∧ w.fresh_token (env.uuid 0))
    let (db, claim) := process_row view w.db env row
    match claim with
    | none => w.commit db w.calls []
    | some c =>
      let before := (w.db.deliveries.find delivery_id).getD row.delivery
      w.commit db (w.calls ++ [c]) [.claimed before c.token]
  | .hand_over token env seen r => do
    let c ← w.calls.find? fun c => c.token == token && c.delivering.isNone
    guard (plausible_receipt r)
    w.hand_over cfg env (w.view seen) c r
  | .record token env r => do
    let c ← w.calls.find? fun c => c.token == token && c.delivering.isSome
    guard (plausible_receipt r)
    w.finish cfg w.db env c (c.delivering.getD false) r []
  | .abandon token => some { w with calls := w.calls.filter fun c => c.token != token }
  | .recover delivery_id env seen poll => do
    let view := w.view seen
    let row ← delivery_row (view .deliveries) delivery_id
    guard (row.delivery.status = .received ∧ row.delivery.run_id.isSome)
    match recover_row cfg view w.db env row poll with
    | .ok db => w.commit db w.calls (poll_events cfg view w.db db env row poll)
    | .error _ => none
  | .request_delivery_retry delivery_id env seen => do
    let d ← ((w.view seen) .delivery).deliveries.find delivery_id
    let db ← request_delivery_retry w.db env d
    w.commit db w.calls []
  | .request_project_stop project_id deadline delivery_ids env seen =>
    let targets := stop_targets ((w.view seen) .deliveries) project_id delivery_ids
    w.commit (request_project_stop cfg w.db env project_id deadline targets) w.calls
      (asked w.db (stop_receipts cfg w.db env targets))
  | .process_stop_timer project_id env seen => do
    let db ← process_stop_timer (w.view seen) w.db env project_id
    w.commit db w.calls []
  | .authorize scope now =>
    match authorize cfg w.db now scope, reserve cfg w.db now scope with
    | .ok (task, _), .ok db => w.commit db w.calls [.granted task.id task.revision]
    | _, _ => none
  | .executions units runs => w.commit { w.db with units := units, runs := runs } w.calls []
  | .finalize task_id status now => w.commit { w.db with
      tasks := w.db.tasks.update (fun t => t.id == task_id && t.workflow_finalized_at.isNone) fun t =>
        { t with workflow_status := some status, workflow_finalized_at := some now } } w.calls []

/-- Before any work: there may be projects, participants and messages. -/
structure Provisioned (db : DB) : Prop where
  tasks : db.tasks.rows = []
  task_agents : db.task_agents.rows = []
  packets : db.packets.rows = []
  approvals : db.approvals.rows = []
  deliveries : db.deliveries.rows = []
  task_calls : db.task_calls.rows = []
  evidence : db.evidence.rows = []
  verdicts : db.verdicts.rows = []
  representative_approvals : db.representative_approvals.rows = []
  issues : db.issues.rows = []
  runs : db.runs.rows = []
  units : db.units.rows = []
  attempts : db.attempts.rows = []
  revalidations : db.revalidations.rows = []
  keys : db.keys.rows = []
  controls : ∀ c ∈ db.controls.rows, c.stop_state = .running

/-- The War Room on a provisioned database. -/
def warRoom (cfg : Config) : Machine World Label where
  init w := Provisioned w.db ∧ w.past = [] ∧ w.calls = [] ∧ w.log = []
  step := step cfg

/-! ## A sample deployment

One project, with a representative, two agents that execute and one that reviews. The hash, the
signature and the parser of results are stand-ins that keep different texts apart. -/

namespace Sample

def config (bypassed : Bool) : Config where
  sha256 s := "#" ++ s
  request_hash d := String.ofList (d.json.encode false)
  qa_signature := some fun p => "signed by " ++ p.qa_principal ++ " for " ++ p.task_id
  representative a := a == "rep"
  fresh_context_bypassed := bypassed
  auto_qa_enabled := true
  auth_required := true
  binds := false
  structured_result _ text := .ok ⟨if text = "PASS" then .PASS else .REWORK⟩
  stored s := s
  default_goal_contract := .null
  grounded_instruction s _ _ := s

def agents : List String := ["rep", "dev", "ERPqa", "qa"]

/-- The time, and the ids that are generated. -/
def outside (now : Int) (ids : List String) : Env where
  now := now
  uuid n := ids.getD n ""
  catalog a := if a ∈ agents then some ⟨true, true, true⟩ else none
  canonical_agent_id
    | .str a => if a ∈ agents then some a else none
    | _ => none
  canonical_ne v := by
    split
    · split
      · rename_i h
        rintro ⟨⟩
        exact absurd h (by decide)
      · nofun
    · nofun
  stop_receipt _ := ⟨"stopped", none, none, none, none⟩
  snapshot _ := none
  project_session := some ("session", "1")
  bind_error := false
  qa_session := .ok ("qa-session", "1")
  packet := .ok ⟨"", "packet", some ["test"], false, false⟩
  evidence_error := none
  file_sha256 := none
  integrity := true
  revalidation := .ok (true, "")
  captured := []
  raised := none
  result := .ok .null

def body (members : List (String × Json)) (h : (Json.obj members).wf = true := by rfl) : Dict :=
  ⟨members, h⟩

/-- What an approval asks for. -/
def approval : Dict := body [("expires_at", .int 1000)]

/-- A request of the representative, with a context token for an action on a target. -/
def request (key action target : String) (now : Int) (body : Dict) : Request where
  principal := some "rep"
  x_war_room_actor := none
  idempotency_key := some key
  body := body
  context_token := some ⟨"rep", "p", action, target, now, now + 60⟩

/-- Every read sees the latest state. -/
def latest : Read → Nat := fun _ => 0

def db : DB where
  projects := ⟨[⟨"p", "demo", "active", "", "v1", 0⟩], by decide⟩
  controls := ⟨[⟨"p", none, none, none, .running, 0⟩], by decide⟩
  participants := ⟨[⟨"p", "rep", .project_manager, true, true, true, true, true⟩,
    ⟨"p", "dev", .developer, true, true, false, false, true⟩,
    ⟨"p", "ERPqa", .developer, true, true, false, false, true⟩,
    ⟨"p", "qa", .qa, true, true, false, false, true⟩], by decide⟩
  messages := .empty
  tasks := .empty
  task_agents := .empty
  packets := .empty
  approvals := .empty
  deliveries := .empty
  task_calls := .empty
  evidence := .empty
  verdicts := .empty
  representative_approvals := .empty
  issues := .empty
  runs := .empty
  units := .empty
  attempts := .empty
  revalidations := .empty
  keys := .empty

def world : World := ⟨db, [], [], []⟩

theorem init (cfg : Config) : (warRoom cfg).init world :=
  ⟨⟨rfl, rfl, rfl, rfl, rfl, rfl, rfl, rfl, rfl, rfl, rfl, rfl, rfl, rfl, rfl, by decide⟩, rfl, rfl,
    rfl⟩

/-- The world after the labels. -/
def after (cfg : Config) (as : List Label) : World := ((warRoom cfg).exec world as).getD world

theorem reachable_after (cfg : Config) (as : List Label) : (warRoom cfg).Reachable (after cfg as) := by
  unfold after
  cases h : (warRoom cfg).exec world as with
  | none => exact Machine.reachable_init (init cfg)
  | some w => exact Machine.reachable_of_exec (init cfg) h

theorem step_after {cfg : Config} {as : List Label} {a : Label}
    (h : ((warRoom cfg).exec world (as ++ [a])).isSome = true) :
    step cfg (after cfg as) a = some (after cfg (as ++ [a])) := by
  have hsnoc : (warRoom cfg).exec world (as ++ [a]) =
      ((warRoom cfg).exec world as).bind fun w => step cfg w a := by
    rw [Machine.exec, List.foldlM_append]
    simp [Machine.exec, warRoom]
  unfold after
  rw [hsnoc] at h ⊢
  cases has : (warRoom cfg).exec world as with
  | none => simp [has] at h
  | some w =>
    rw [has, Option.bind_some] at h
    obtain ⟨w', hw'⟩ := Option.isSome_iff_exists.mp h
    simp [hw']

/-- The task `t` and its instruction `m` are prepared for an agent. -/
def prepare_for (agent : String) : Label :=
  .request (.prepare_task "p") (request "prepare" "" "" 0 (body [("instruction", .str "do"),
    ("agent_ids", .arr [.str agent]), ("deadline_at", .int 1000), ("document_version", .str "v1")]))
    (outside 0 ["t", "m", ""]) latest

def prepare : Label := prepare_for "dev"

/-- The task is approved by `a` and runs: its delivery `d` waits. -/
def execute : Label :=
  .request (.approve_and_execute_task "t") (request "execute" "task_approve_execute" "t" 1
    approval) (outside 1 ["a", "", "d"]) latest

def transition (status : String) (now : Int) : Label :=
  .request (.transition_task "t") (request status "" "" now (body [("status", .str status)]))
    (outside now [""]) latest

def claim (delivery_id token : String) (now : Int) : Label :=
  .process delivery_id (outside now [token]) latest

/-- The receipt of a run that goes on. -/
def accepted (run_id : String) : DeliveryReceipt := ⟨"received", none, none, some run_id, none⟩

/-- The receipt of a response. -/
def answer (text : String) : DeliveryReceipt := ⟨"responded", none, none, none, some text⟩

/-- A claimed delivery is handed over; the receipt is that of the direct lane. -/
def hand (token : String) (now : Int) (r : DeliveryReceipt) : Label :=
  .hand_over token (outside now []) latest r

/-- A call ends; a response gets the id `r`. -/
def ended (token : String) (now : Int) (r : DeliveryReceipt) : Label :=
  .record token (outside now ["r"]) r

end Sample

end WarRoom

end Plachem
