import PlachemMonitor.Engine.Authorizer
import PlachemMonitor.WarRoom.Outcome

/-!
# The grant authorizer of the War Room

`WarRoomGrantAuthorizer.authorize` holds a transaction from before its first read until the call is
counted, so its checks and its reservation are one step on the tables.
-/

namespace Plachem

namespace WarRoom

open AuthBroker (AuthScope GrantAuthorizer Admission)

/-- A member of `scope.task_contract` that is a text. -/
def contract_text (scope : AuthScope) (k : String) : String := (asText (scope.task_contract.get? k)).getD ""

def refuse {α : Type} (code : String) : Except AuthError α := .error (AuthBroker.error code)

def require (cond : Prop) [Decidable cond] (code : String) : Except AuthError Unit :=
  if cond then .ok () else refuse code

def known {α : Type} (row : Option α) (code : String) : Except AuthError α :=
  match row with
  | some r => .ok r
  | none => refuse code

/-- `.casefold()` of an agent id, as far as ASCII goes. -/
def casefold (s : String) : String := s.map Char.toLower

/-- What a run is for. -/
structure Source where
  task : Task
  instruction : Message
  agent_id : String
  /-- `none` for an execution unit. -/
  delivery : Option Delivery

/-- The delivery or the execution unit that owns the run. -/
def source (db : DB) (now : Int) (scope : AuthScope) : Except AuthError Source := do
  let run_id := contract_text scope "core_run_id"
  let key := contract_text scope "idempotency_key"
  if run_id = "war-" ++ key then
    let d ← known (db.deliveries.find key) "AUTH_REQUIRED"
    let message ← known (db.messages.find d.message_id) "AUTH_REQUIRED"
    let task ← known (db.task_of_message d.message_id) "AUTH_REQUIRED"
    require (d.status = .sent ∧ d.claim_token.getD "" ≠ "" ∧ now < d.claim_expires_at.getD 0 ∧
      now < d.deadline_at.getD 0) "AUTH_REQUIRED"
    pure ⟨task, message, d.agent_id, some d⟩
  else
    let unit ← known (db.units.rows.find? fun u => run_id == "core-exec-" ++ u.execution_id &&
      key == "war-exec-" ++ u.execution_id) "AUTH_REQUIRED"
    let task ← known (db.tasks.find unit.war_task_id) "AUTH_REQUIRED"
    let message ← known (task.source_message_id.bind db.messages.find) "AUTH_REQUIRED"
    require (unit.dispatch_claimed_at.isSome ∧ unit.war_project_id = task.project_id ∧
      unit.dispatch_message = some message.body) "AUTH_REQUIRED"
    pure ⟨task, message, unit.agent_id, none⟩

/-- The instruction that the approval is for. -/
def authorized_instruction (cfg : Config) (db : DB) (s : Source) : Except AuthError String :=
  if s.delivery.isSome then
    (known (db.packets.find s.task.id) "AUTH_REQUIRED").map fun packet =>
      cfg.grounded_instruction s.instruction.body packet s.task.execution_mode
  else .ok s.instruction.body

/-- `SELECT * FROM war_approvals WHERE task_id=? ORDER BY created_at DESC,rowid DESC LIMIT 1` -/
def latest_approval (db : DB) (task_id : String) : Option Approval :=
  (db.approvals.rows.filter fun a => a.task_id == task_id).foldl (fun best a =>
    match best with
    | none => some a
    | some b => if b.created_at ≤ a.created_at then some a else some b) none

/-- The latest decision on the task is an approval in force of the task as it stands. -/
def in_force (cfg : Config) (db : DB) (now : Int) (task : Task) (a : Approval) : Bool :=
  a.decision == .approved && a.revoked_at.isNone && decide (now < a.expires_at.getD 0) &&
    a.scope_hash == cfg.sha256 task.scope && some a.document_version == task.document_version &&
    a.assignee_agent_id == task.assignee_agent_id &&
    a.target_set_hash == target_set_hash cfg (db.agents task.id)

/-- The counters of a revision. -/
def calls_of (db : DB) (task_id : String) (revision : Nat) : TaskCalls :=
  (db.task_calls.find (task_id, revision)).getD ⟨task_id, revision, 0, 0⟩

/-- `authorize`, up to `broker.issue`: the task and the approval that admit the run. -/
def authorize (cfg : Config) (db : DB) (now : Int) (scope : AuthScope) :
    Except AuthError (Task × Approval) := do
  require (scope.action = "dispatch" ∧ scope.workspace_id = "command-center" ∧
    scope.project_id = "fast-gateway") "AUTH_REQUIRED"
  require (scope.task_contract.get? "goal_contract" = some cfg.default_goal_contract)
    "TASK_DIGEST_MISMATCH"
  let s ← source db now scope
  let task := s.task
  require (task.execution_mode = .FAST_GATEWAY ∧ task.status = .running ∧
    s.instruction.project_id = task.project_id ∧ casefold s.agent_id = scope.agent_id ∧
    now < task.deadline_at.getD 0 ∧ task.document_version.getD "" ≠ "" ∧
    task.document_version = some task.manyfast_version) "BINDING_MISMATCH"
  let instruction ← authorized_instruction cfg db s
  require (contract_text scope "instruction_sha256" = cfg.sha256 instruction) "TASK_DIGEST_MISMATCH"
  require ((db.projects.find task.project_id).any (fun p => p.status != "archived") ∧
    (db.controls.find task.project_id).any fun c =>
      c.archived_at.isNone && c.stop_state == .running) "AUTH_REQUIRED"
  require (scope.agent_id ∈ (db.agents task.id).map casefold) "BINDING_MISMATCH"
  require ((db.participants.rows.find? fun p => p.project_id == task.project_id &&
    casefold p.principal_id == scope.agent_id).any fun p => p.active && p.can_read) "AUTH_REQUIRED"
  let approval ← known ((latest_approval db task.id).filter (in_force cfg db now task))
    "AUTH_REQUIRED"
  require ((db.participants.find (task.project_id, approval.approver_id)).any fun p =>
    p.active && p.can_read && p.can_approve && decide (.approve ∈ ROLE_PERMISSIONS p.role))
    "AUTH_REQUIRED"
  require (∀ d ∈ s.delivery, d.task_revision = task.revision) "BINDING_MISMATCH"
  let calls := calls_of db task.id task.revision
  require (calls.call_count < task.call_limit.getD 0 ∧ calls.turn_count < task.turn_limit.getD 0)
    "AUTH_REQUIRED"
  pure (task, approval)

/-- `ON CONFLICT .. DO UPDATE SET call_count=call_count+?,turn_count=turn_count+?` -/
def count_calls (db : DB) (task_id : String) (revision : Nat) (calls turns : Int) : DB :=
  { db with
    task_calls := db.task_calls.upsert ⟨task_id, revision, calls, turns⟩ fun c =>
      { c with call_count := c.call_count + calls, turn_count := c.turn_count + turns } }

/-- `authorize`, from the consumption of its grant on. -/
def reserve (cfg : Config) (db : DB) (now : Int) (scope : AuthScope) : Except AuthError DB :=
  (authorize cfg db now scope).map fun r => count_calls db r.1.id r.1.revision 1 0

/-- `WarRoomGrantAuthorizer`, as the engine uses it. -/
def grant_authorizer (cfg : Config) : GrantAuthorizer DB where
  owns_run run_id := run_id.startsWith "war-" || run_id.startsWith "core-exec-"
  admits db scope now_ms :=
    (db, (authorize cfg db (now_ms / 1000) scope).map fun r =>
      { scope := { scope with
          workspace_id := "war-room:" ++ r.1.id
          project_id := r.1.project_id }
        ttl_positive := true
        ttl_ms := 1000 * min 30 (min (r.2.expires_at.getD 0 - now_ms / 1000)
          (r.1.deadline_at.getD 0 - now_ms / 1000))
        created_by := r.2.approver_id })
  settle db scope now_ms :=
    match reserve cfg db (now_ms / 1000) scope with
    | .ok db' => (db', .ok ())
    | .error e => (db, .error e)

end WarRoom

end Plachem
