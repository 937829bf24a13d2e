import PlachemMonitor.Engine.Dispatch
import PlachemMonitor.WarRoom.System

/-!
# The Fast Gateway adapter

`FastGatewayWarRoomAdapter`: the adapter of the delivery worker that calls the Core in the same
process. A delivery is handed to the Core run `war-<delivery_id>`; its stop looks for a run in the
rows that the worker has persisted.

The text of the instruction, the paths of the grounding packet and `str.casefold` are arguments of
the adapter. The other parts of the Core that a stop calls are in the module of the stops.
-/

namespace Plachem

namespace WarRoom

open AuthBroker
open CoreEngine (Engine EngineState DispatchArgs DispatchEnv DispatchError)

/-- The adapter, with what it uses of other modules. -/
structure FastGatewayWarRoomAdapter (ρ : Type) where
  engine : Engine ρ
  /-- `_agent` -/
  agent : String → String
  /-- `_grounded_instruction` -/
  grounded_instruction : String → Packet → Mode → String
  /-- `result_artifact_paths` of the packet, or its `approved_paths`; the blank ones are left out. -/
  approved_paths : Packet → List String

namespace FastGatewayWarRoomAdapter

def core_id (delivery_id : String) : String := "war-" ++ delivery_id

/-- `lower(..)` of SQLite -/
def lower (s : String) : String := s.map Char.toLower

/-- What `deliver` composes the instruction of. -/
structure Source where
  body : String
  execution_mode : Mode
  packet : Packet
  deriving DecidableEq

/-- The `SELECT` of `deliver`. -/
def source (db : DB) (delivery_id agent_id instruction_id : String) : Option Source := do
  let d ← db.deliveries.find delivery_id
  let m ← db.messages.find d.message_id
  let t ← db.tasks.rows.find? fun t =>
    t.source_message_id == some m.id && (db.packets.find t.id).isSome
  let g ← db.packets.find t.id
  guard (m.id = instruction_id ∧ lower d.agent_id = lower agent_id)
  pure ⟨m.body, t.execution_mode, g⟩

section

variable {ρ : Type} (adapter : FastGatewayWarRoomAdapter ρ)

/-- The dispatch of a delivery. -/
def dispatch_args (delivery_id agent_id : String) (src : Source) : DispatchArgs where
  agent_id := adapter.agent agent_id
  message := adapter.grounded_instruction src.body src.packet src.execution_mode
  timeout_positive := true
  core_run_id := some (core_id delivery_id)
  idempotency_key := some delivery_id
  goal_contract := none
  session_key := none
  parent_core_run_id := none
  context_reset_count := 0
  watchdog_managed := true
  auth_token := none
  action := "dispatch"
  workspace_id := "command-center"
  project_id := "fast-gateway"
  task_runtime_class := "WAR_ROOM"
  approved_paths :=
    if adapter.approved_paths src.packet = [] then none else some (adapter.approved_paths src.packet)

/-- A receipt without a run. -/
def failed (error_code : String) : DeliveryReceipt := ⟨"failed", none, some error_code, none, none⟩

/-- What `deliver` tells of the record that it gets. -/
def receipt (record : RunRecord) : DeliveryReceipt :=
  if record.status = .RUNNING then
    { status := "received"
      session_id := record.openclaw_binding.bind OpenclawBinding.session_id
      error_code := none
      run_id := record.openclaw_binding.map OpenclawBinding.openclaw_run_id
      response_body := none }
  else failed (if record.reason = "" then record.status.value else record.reason)

/-- `deliver` -/
def deliver (db : DB) (env : DispatchEnv) (delivery_id agent_id instruction_id : String)
    (s : EngineState ρ) : EngineState ρ × Except DispatchError DeliveryReceipt :=
  match source db delivery_id agent_id instruction_id with
  | none => (s, .ok (failed "FAST_GATEWAY_APPROVED_SOURCE_MISSING"))
  | some src =>
    let out := CoreEngine.dispatch adapter.engine env (adapter.dispatch_args delivery_id agent_id src) s
    (out.1, out.2.map receipt)

end

/-! ## A sample

A task on the Fast Gateway with one delivery, and a Core that asks nobody. -/

namespace GatewaySample

def adapter : FastGatewayWarRoomAdapter Unit where
  engine :=
    -- the digest of the one request that is made here
    { H :=
        ⟨fun _ => "321ea64c8f1b0f019a1c3099d90f36a35ed3ca48c3c5881eca4b6cdefd68463c", fun _ _ => []⟩
      require := fun _ => .ok ()
      normalize_goal_contract := fun _ => .ok ⟨"", "", [], [], "", []⟩
      task_runtime_policy := fun _ => .ok .empty
      auth_broker := none
      auth_required := false
      grant_authorizer := none }
  agent a := a
  grounded_instruction s _ _ := s
  approved_paths _ := []

def task : Task where
  id := "t"
  project_id := "p"
  source_message_id := some "m"
  assignee_agent_id := some "dev"
  reviewer_agent_id := none
  scope := "do"
  status := .running
  manyfast_version := "v1"
  document_version := some "v1"
  call_limit := none
  turn_limit := none
  execution_mode := .FAST_GATEWAY
  deadline_at := none
  revision := 1
  qa_cycle := 0
  created_at := 0
  updated_at := 0
  workflow_status := none
  workflow_finalized_at := none

/-- A claimed delivery that was not tried before. -/
def delivery (id message_id : String) : Delivery where
  id := id
  message_id := message_id
  agent_id := "dev"
  task_revision := 1
  status := .sent
  attempt_count := 0
  max_attempts := 3
  sent_at := none
  received_at := none
  responded_at := none
  error_code := none
  run_id := none
  response_message_id := none
  session_key := none
  session_id := none
  next_attempt_at := none
  deadline_at := none
  retry_count := 0
  error_class := none
  last_error_at := none
  claim_token := some "c"
  claim_expires_at := some 30
  stop_cycle_at := none
  created_at := 0

def db : DB :=
  { WarRoom.Sample.db with
    messages := ⟨[⟨"m", "p", "instruction", "rep", "do"⟩], by decide⟩
    tasks := ⟨[task], by decide⟩
    packets := ⟨[⟨"t", "packet", some [], false, false⟩], by decide⟩
    deliveries := ⟨[delivery "d" "m"], by decide⟩ }

def call : Call := ⟨⟨delivery "d" "m", "p", some "t", .FAST_GATEWAY⟩, "c", some false⟩

/-- The Core adapter accepts every run. -/
def env : DispatchEnv where
  uuid := "u"
  now_ms := 1
  issue_env := ⟨"e1", 1, false⟩
  issue_now := 1
  token := ""
  grant_id := ""
  consume_env := ⟨"e2", 1, false⟩
  consume_now := 1
  created_now := "t0"
  decided_now := "t1"
  submitted := .accepted ⟨"war-d", "o", "dev", "session", some "s", "d", .RUNNING⟩

def start : EngineState Unit := ⟨[], ⟨AuthStore.empty, [], []⟩, (), []⟩

def src : Source := ⟨"do", .FAST_GATEWAY, ⟨"t", "packet", some [], false, false⟩⟩

def create_args : CreateArgs :=
  CoreEngine.createArgs adapter.engine (adapter.dispatch_args "d" "dev" src) "u" []
    ⟨"", "", [], [], "", []⟩ .empty

/-- The run of the delivery, before it is submitted. -/
def queued : RunRecord := create_args.record (core_id "d") "t0"

def running : RunRecord :=
  queued.transitioned .RUNNING (some ⟨"war-d", "o", "dev", "session", some "s", "d", .RUNNING⟩) none
    "" "t1"

def passed : RunRecord := running.transitioned .PASS none none "" "t2"

/-- The registry after the run has got that far. -/
def upto (r : RunRecord) : EngineState Unit := { start with log := [queued, r] }

end GatewaySample

end FastGatewayWarRoomAdapter

end WarRoom

end Plachem
