import PlachemMonitor.Engine.Authorizer
import PlachemMonitor.Registry.Mutation

/-!
# Dispatch

`CoreEngine._dispatch`: the run is created in the registry, authorized by the broker, and given to
the adapter. A call holds the lock of the engine, and is one step of the machine `system`; the other
users of the registry and of the grant store, and whoever changes what the authorizer looks at, act
between the calls.

`sent` is the history of the calls of `adapter.submit`.
-/

namespace Plachem

namespace CoreEngine

open AuthBroker

/-- What `dispatch` raises. -/
inductive DispatchError where
  | value (message : String)
  | registry (error : RegistryError)
  /-- What the broker or the authorizer raised, if it is no `AuthBrokerError`. -/
  | auth (error : AuthError)
  /-- An exception of the adapter that is no `AdapterError` and no `TimeoutError`. -/
  | adapter
  deriving DecidableEq

/-- The arguments of `_dispatch`; whether the timeout is a positive number is given. -/
structure DispatchArgs where
  agent_id : String
  message : String
  timeout_positive : Bool
  core_run_id : Option String
  idempotency_key : Option String
  goal_contract : Option Dict
  session_key : Option String
  parent_core_run_id : Option String
  context_reset_count : Int
  watchdog_managed : Bool
  auth_token : Option String
  action : String
  workspace_id : String
  project_id : String
  task_runtime_class : String
  approved_paths : Option (List String)

/-- How `adapter.submit` ends. -/
inductive Submitted where
  | accepted (binding : RunBinding)
  /-- `AdapterError` or `TimeoutError`, with the reason that goes on the record. -/
  | rejected (reason : String)
  | raised

/-- Generated ids, clock readings, and the answer of the adapter. -/
structure DispatchEnv where
  uuid : String
  now_ms : Int
  issue_env : TxEnv
  issue_now : Int
  token : String
  grant_id : String
  consume_env : TxEnv
  consume_now : Int
  created_now : String
  decided_now : String
  submitted : Submitted

/-- An engine with its collaborators. `require` and `normalize_goal_contract` give the message that
they raise, `task_runtime_policy` is `_policy_metadata(task_runtime_profile(..))`. -/
structure Engine (ρ : Type) where
  H : Hashlib
  require : String → Except String Unit
  normalize_goal_contract : Option Dict → Except String GoalContract
  task_runtime_policy : String → Except String Dict
  auth_broker : Option Broker
  auth_required : Bool
  grant_authorizer : Option (GrantAuthorizer ρ)

/-- A call of `adapter.submit`, with the action and the contract that it is for. -/
structure Submission where
  core_run_id : String
  agent_id : String
  message : String
  idempotency_key : String
  session_key : Option String
  approved_paths : List String
  action : String
  goal_contract : GoalContract
  deriving DecidableEq

structure EngineState (ρ : Type) where
  log : Log
  auth : AuthWorld
  resolver : ρ
  sent : List Submission

/-! ## The parts of a dispatch -/

/-- `_normalize_approved_paths` -/
def normalize_approved_paths (approved_paths : Option (List String)) : Except String (List String) :=
  match approved_paths with
  | none => .ok []
  | some paths => paths.foldlM (fun normalized value =>
      let value := Text.strip value
      if value = "" ∨ "/".toList.isPrefixOf value.toList = false ∨ 4096 < value.toList.length then
        .error "INVALID_APPROVED_PATHS"
      else .ok (if value ∈ normalized then normalized else normalized ++ [value])) []

/-- `_request_hash` -/
def request_hash (H : Hashlib) (args : DispatchArgs) (goal_id : String) : String :=
  H.sha256 (String.ofList ((Dict.ofList [("agent_id", .str args.agent_id),
    ("message", .str args.message), ("goal_id", .str goal_id), ("action", .str args.action),
    ("workspace_id", .str args.workspace_id), ("project_id", .str args.project_id)]
    (by simp)).dumps false))

def war_run (core_run_id : String) : Bool :=
  ["war-", "core-exec-"].any fun p => p.toList.isPrefixOf core_run_id.toList

/-- `core_run_id or f"core-{uuid.uuid4().hex}"` -/
def DispatchArgs.actual_id (args : DispatchArgs) (uuid : String) : String :=
  match args.core_run_id.filter (· ≠ "") with
  | some id => id
  | none => "core-" ++ uuid

/-- `idempotency_key or actual_id` -/
def DispatchArgs.key (args : DispatchArgs) (uuid : String) : String :=
  match args.idempotency_key.filter (· ≠ "") with
  | some key => key
  | none => args.actual_id uuid

variable {ρ : Type} (engine : Engine ρ)

/-- `self.grant_authorizer is not None and self.grant_authorizer.owns_run(actual_id)` -/
def owned (actual_id : String) : Bool :=
  match engine.grant_authorizer with
  | some a => a.owns_run actual_id
  | none => false

/-- A broker transaction that the engine asks for, in the store that all brokers share. -/
def issue (broker : Broker) (env : TxEnv) (w : AuthWorld) (args : IssueArgs) :
    AuthWorld × Except AuthError IssuedGrant :=
  ((AuthCall.issue broker env args).run engine.H w,
    (AuthBroker.issue engine.H broker env w.store args).2)

def verify_and_consume (broker : Broker) (env : TxEnv) (w : AuthWorld) (token : Option String)
    (scope : AuthScope) (run_id : String) (now : Int) : AuthWorld × Except AuthError ConsumedGrant :=
  ((AuthCall.verify_and_consume broker env token scope run_id now).run engine.H w,
    (AuthBroker.verify_and_consume engine.H broker env w.store token scope run_id now).2)

/-- `with self.grant_authorizer.authorize(..)`: admission, a grant, its consumption. -/
def resolve (authorizer : GrantAuthorizer ρ) (broker : Broker) (env : DispatchEnv)
    (scope : AuthScope) (actual_id : String) (w : AuthWorld) (resolver : ρ) :
    (AuthWorld × ρ) × Except AuthError Unit :=
  match authorizer.admits resolver scope env.now_ms with
  | (resolver, .error e) => ((w, resolver), .error e)
  | (resolver, .ok admission) =>
    match issue engine broker env.issue_env w
        ⟨admission.scope, admission.ttl_positive, admission.ttl_ms, admission.created_by,
          env.issue_now, env.token, env.grant_id⟩ with
    | (w, .error e) => ((w, resolver), .error e)
    | (w, .ok grant) =>
      let grant_scope := admission.scope
      if grant_scope.agent_id ≠ scope.agent_id ∨ grant_scope.action ≠ scope.action ∨
          ¬ Dict.Eqv grant_scope.task_contract scope.task_contract then
        ((w, resolver), .error (error "BINDING_MISMATCH"))
      else
        match verify_and_consume engine broker env.consume_env w (some grant.token) grant_scope
            actual_id env.consume_now with
        | (w, .error e) => ((w, resolver), .error e)
        | (w, .ok _) =>
          let (resolver, out) := authorizer.settle resolver scope env.now_ms
          ((w, resolver), out)

/-- The authorization of a run: the body of the `try`. -/
def authorize (broker : Broker) (env : DispatchEnv) (args : DispatchArgs) (scope : AuthScope)
    (actual_id : String) (w : AuthWorld) (resolver : ρ) :
    (AuthWorld × ρ) × Except AuthError Unit :=
  if args.auth_token.isSome && owned engine actual_id then
    ((w, resolver), .error (error "FORBIDDEN_FIELD"))
  else
    match args.auth_token, engine.grant_authorizer with
    | none, some authorizer => resolve engine authorizer broker env scope actual_id w resolver
    | token, _ =>
      let (w, out) := verify_and_consume engine broker env.consume_env w token scope actual_id
        env.consume_now
      ((w, resolver), out.map fun _ => ())

/-- `self.registry.transition(..)` as the last statement of a dispatch. -/
def finish (s : EngineState ρ) (actual_id : String) (status : CoreRunStatus)
    (binding : Option RunBinding) (reason now : String) :
    EngineState ρ × Except DispatchError RunRecord :=
  match RunRegistry.transition s.log actual_id status binding none reason now with
  | .ok (record, log) => ({ s with log := log }, .ok record)
  | .error e => (s, .error (.registry e))

/-- From `adapter.submit` on. -/
def submit (env : DispatchEnv) (args : DispatchArgs) (submission : Submission)
    (s : EngineState ρ) : EngineState ρ × Except DispatchError RunRecord :=
  let s := { s with sent := s.sent ++ [submission] }
  match env.submitted with
  | .raised => (s, .error .adapter)
  | .rejected reason => finish s submission.core_run_id .FAIL none reason env.decided_now
  | .accepted binding =>
    if args.session_key.isSome ∧ args.session_key ≠ some binding.session_key then
      finish s submission.core_run_id .FAIL none "FRESH_SESSION_IDENTITY_UNVERIFIED" env.decided_now
    else finish s submission.core_run_id .RUNNING (some binding) "" env.decided_now

/-- The run is created or QUEUED: the gate, and the submission behind it. -/
def gate (env : DispatchEnv) (args : DispatchArgs) (contract : GoalContract) (record : RunRecord)
    (s : EngineState ρ) : EngineState ρ × Except DispatchError RunRecord :=
  let actual_id := args.actual_id env.uuid
  let key := args.key env.uuid
  let submission : Submission :=
    ⟨actual_id, args.agent_id, args.message, key, args.session_key, record.approved_paths,
      args.action, contract⟩
  match engine.auth_broker with
  | none =>
    if engine.auth_required then
      finish s actual_id .BLOCKED none "AUTH_BROKER_UNAVAILABLE" env.decided_now
    else submit env args submission s
  | some broker =>
    let scope := execution_auth_scope engine.H args.agent_id args.message actual_id key
      contract.as_dict args.action args.workspace_id args.project_id
    match authorize engine broker env args scope actual_id s.auth s.resolver with
    | ((w, resolver), .ok ()) => submit env args submission { s with auth := w, resolver := resolver }
    | ((w, resolver), .error (.broker code)) =>
      finish { s with auth := w, resolver := resolver } actual_id .BLOCKED none ("AUTH_" ++ code)
        env.decided_now
    | ((w, resolver), .error e) => ({ s with auth := w, resolver := resolver }, .error (.auth e))

/-- What the dispatch gives to `RunRegistry.create`. -/
def createArgs (args : DispatchArgs) (uuid : String) (approved : List String)
    (contract : GoalContract) (policy : Dict) : CreateArgs where
  core_run_id := some (args.actual_id uuid)
  agent_id := args.agent_id
  idempotency_key := args.key uuid
  request_hash := request_hash engine.H args contract.goal_id
  policy := policy
  goal_contract := contract
  parent_core_run_id := args.parent_core_run_id
  context_reset_count := args.context_reset_count
  approved_paths := some approved
  watchdog_managed := args.watchdog_managed

/-- The checks of the arguments before the run is created. -/
def checked (env : DispatchEnv) (args : DispatchArgs) :
    Except String (List String × GoalContract × Dict) := do
  engine.require args.agent_id
  let approved ← normalize_approved_paths args.approved_paths
  if Text.strip args.message = "" then throw "INVALID_MESSAGE"
  else if args.timeout_positive = false then throw "INVALID_TIMEOUT"
  else
    let contract ← engine.normalize_goal_contract args.goal_contract
    let actual_id := args.actual_id env.uuid
    let policy ← engine.task_runtime_policy
      (if war_run actual_id && owned engine actual_id then "WAR_ROOM" else args.task_runtime_class)
    pure (approved, contract, policy)

/-- `CoreEngine._dispatch` -/
def dispatch (env : DispatchEnv) (args : DispatchArgs) (s : EngineState ρ) :
    EngineState ρ × Except DispatchError RunRecord :=
  match checked engine env args with
  | .error message => (s, .error (.value message))
  | .ok (approved, contract, policy) =>
    match RunRegistry.create s.log (createArgs engine args env.uuid approved contract policy) ""
        env.created_now with
    | .error e => (s, .error (.registry e))
    | .ok ((record, created), log) =>
      if created = false ∧ record.status ≠ .QUEUED then (s, .ok record)
      else gate engine env args contract record { s with log := log }

/-! ## The system -/

inductive Label (ρ : Type) where
  | dispatch (env : DispatchEnv) (args : DispatchArgs)
  /-- Some broker issues, consumes or revokes a grant. -/
  | auth (call : AuthCall)
  /-- The rest of the program changes the registry. -/
  | registry (m : Mutation)
  /-- Approvals and registrations change. -/
  | resolver (state : ρ)

def system : Machine (EngineState ρ) (Label ρ) where
  init s := s.log = [] ∧ s.auth = ⟨AuthStore.empty, [], []⟩ ∧ s.sent = []
  step s label :=
    some (match label with
      | .dispatch env args => (dispatch engine env args s).1
      | .auth call => { s with auth := call.run engine.H s.auth }
      | .registry m => { s with log := m.run s.log }
      | .resolver state => { s with resolver := state })

end CoreEngine

end Plachem
