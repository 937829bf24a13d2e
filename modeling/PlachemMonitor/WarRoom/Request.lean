import Mathlib.Algebra.Ring.Nat
import PlachemMonitor.Json.Scan
import PlachemMonitor.Spec.Result
import PlachemMonitor.WarRoom.Schema

/-!
# Requests

What every write endpoint does before its own work: it authenticates the actor, checks the project
and the stop barrier, and looks the `Idempotency-Key` up.

SQLite runs a `SELECT` outside of a transaction on the last committed state of the moment, and a
transaction from its first write on without any other writer. So an endpoint decides on rows of
several states: `View` gives the state that each of its reads before the first write has seen, `db`
is the state at the first write (after `BEGIN IMMEDIATE`, where the source has it).

A `Handler` is an endpoint in two parts, `before` and `after` the lookup of the key.
-/

namespace Plachem

namespace WarRoom

/-- What an endpoint raises. -/
inductive HttpError where
  | http (status_code : Nat) (detail : String)
  /-- `sqlite3.IntegrityError` -/
  | integrity
  deriving DecidableEq

/-- The reads of an endpoint outside of a transaction. -/
inductive Read where
  /-- The state for which the context token was issued, before the request. -/
  | context
  | task | message | delivery | project | participants | control | keys | agents | approval
  | deliveries | runs | calls | active | packet | evidence
  deriving DecidableEq

abbrev View := Read → DB

/-- An entry of `load_agent_catalog`. -/
structure WarRoomAgent where
  registered : Bool
  gateway_allowed : Bool
  enabled : Bool
  deriving DecidableEq

def WarRoomAgent.execution_eligible (a : WarRoomAgent) : Bool :=
  a.registered && a.gateway_allowed && a.enabled

/-- What a worker answered, by `_structured_result`. -/
structure StructuredResult where
  verdict : Verdict
  deriving DecidableEq

/-- The deployment: secrets, environment variables, and the texts that are hashed or parsed. -/
structure Config where
  /-- `hashlib.sha256(text.encode()).hexdigest()` -/
  sha256 : String → String
  /-- The SHA-256 of `json.dumps(payload, sort_keys=True, ensure_ascii=False)`. -/
  request_hash : Dict → String
  /-- `_qa_signature` of the text of a payload; without a secret there is none. -/
  qa_signature : Option (SignedPayload → String)
  /-- `_representative_principals` -/
  representative : String → Bool
  /-- `_fresh_context_bypassed` -/
  fresh_context_bypassed : Bool
  /-- `_auto_qa_enabled` -/
  auto_qa_enabled : Bool
  /-- `engine.auth_required`: the Fast Gateway adapter reserves the call budget. -/
  auth_required : Bool
  /-- The adapter of the direct lane has `bind_delivery`. -/
  binds : Bool
  /-- `_structured_result` for a task with this packet. -/
  structured_result : Packet → String → Except String StructuredResult
  /-- The text that `_store_response_message` stores. -/
  stored : String → String
  /-- `normalize_goal_contract(None).as_dict()` -/
  default_goal_contract : Json
  /-- `_grounded_instruction` -/
  grounded_instruction : String → Packet → Mode → String

/-- The context token of a request, as far as it is no part of the state that it was issued for. -/
structure ContextToken where
  actor : String
  project_id : String
  action : String
  target_id : String
  iat : Int
  exp : Int
  deriving DecidableEq

structure Request where
  /-- What `_request_principal` finds and `_known_principal` knows. -/
  principal : Option String
  x_war_room_actor : Option String
  idempotency_key : Option String
  body : Dict
  context_token : Option ContextToken

/-- `DeliveryReceipt` -/
structure DeliveryReceipt where
  status : String
  session_id : Option String
  error_code : Option String
  run_id : Option String
  response_body : Option String
  deriving DecidableEq

/-- What the outside gives to one step: the clock, generated ids, the agent catalog, the answers of
the adapters and of the file system. -/
structure Env where
  now : Int
  uuid : Nat → String
  catalog : String → Option WarRoomAgent
  canonical_agent_id : Json → Option String
  /-- The ids of the catalog are texts that are not empty. -/
  canonical_ne : ∀ v, canonical_agent_id v ≠ some ""
  /-- `stop_bound_delivery` of each delivery. -/
  stop_receipt : String → DeliveryReceipt
  /-- `execution_snapshot` of each delivery. -/
  snapshot : String → Option ExecutionRun
  /-- The enabled row of `war_project_sessions` for the agent of a delivery. -/
  project_session : Option (String × String)
  /-- `bind_delivery` or `bind_run` raises a `ValueError`. -/
  bind_error : Bool
  /-- `_ensure_auto_qa_session`: a session, or the reason why there is none. -/
  qa_session : Except String (String × String)
  /-- `_grounding_packet` of the task that is prepared. -/
  packet : Except HttpError Packet
  /-- `_qa_evidence_validation`: it reads files. -/
  evidence_error : Option String
  /-- The SHA-256 of a file that is readable. -/
  file_sha256 : Option String
  /-- The newest `war_session_integrity` row of the task verifies. -/
  integrity : Bool
  /-- `adapter.revalidate_result`: a valid `PASS`, and the reason. -/
  revalidation : Except HttpError (Bool × String)
  /-- The evidence that the step materializes from files and earlier rows. -/
  captured : List Evidence
  /-- An exception of the follow-up of a response, at its first or its second file access. -/
  raised : Option Bool
  /-- What an endpoint outside of these tables gives. -/
  result : Except HttpError Json

/-! ## Fields of a body -/

namespace Request

variable (req : Request)

def get? (k : String) : Option Json := req.body.get? k

/-- The field is a `str`. -/
def text? (k : String) : Option String :=
  match req.get? k with
  | some (.str s) => some s
  | _ => none

/-- The field is an `int` and no `bool`. -/
def int? (k : String) : Option Int :=
  match req.get? k with
  | some (.int n) => some n
  | _ => none

/-- `body.get(k) is None` -/
def absent (k : String) : Bool :=
  match req.get? k with
  | none | some .null => true
  | _ => false

end Request

def raise {α : Type} (status_code : Nat) (detail : String) : Except HttpError α :=
  .error (.http status_code detail)

/-- `if not cond: raise HTTPException(..)` -/
def ensure (cond : Prop) [Decidable cond] (status_code : Nat) (detail : String) :
    Except HttpError Unit :=
  if cond then .ok () else raise status_code detail

/-- A row that has to be there. -/
def found {α : Type} (row : Option α) (status_code : Nat) (detail : String) : Except HttpError α :=
  match row with
  | some r => .ok r
  | none => raise status_code detail

/-- An `INSERT`. -/
def inserted {α : Type} (row : Option α) : Except HttpError α :=
  match row with
  | some r => .ok r
  | none => .error .integrity

/-- A `UNIQUE` constraint of an `UPDATE`. -/
def integrity (cond : Prop) [Decidable cond] : Except HttpError Unit :=
  if cond then .ok () else .error .integrity

/-- `if cond: ..`, for a check. -/
def only_if (cond : Prop) [Decidable cond] (check : Except HttpError Unit) : Except HttpError Unit :=
  if cond then check else .ok ()

/-- `.. if cond else None` -/
def some_if {α : Type} (cond : Prop) [Decidable cond] (value : Except HttpError α) :
    Except HttpError (Option α) :=
  if cond then value.map some else .ok none

variable {α : Type} {cond : Prop} [Decidable cond] {status_code : Nat} {detail : String}

@[simp] theorem raise_ne_ok {a : α} : raise status_code detail ≠ .ok a := nofun

@[simp] theorem ensure_eq_ok {u : Unit} : ensure cond status_code detail = .ok u ↔ cond := by
  by_cases h : cond
  · simp [ensure, h]
  · simp [ensure, h]

@[simp] theorem found_eq_ok {row : Option α} {r : α} :
    found row status_code detail = .ok r ↔ row = some r := by
  cases row <;> simp [found]

@[simp] theorem inserted_eq_ok {row : Option α} {r : α} : inserted row = .ok r ↔ row = some r := by
  cases row <;> simp [inserted]

@[simp] theorem integrity_eq_ok {u : Unit} : integrity cond = .ok u ↔ cond := by
  by_cases h : cond
  · simp [integrity, h]
  · simp [integrity, h]

@[simp] theorem only_if_eq_ok {check : Except HttpError Unit} {u : Unit} :
    only_if cond check = .ok u ↔ (cond → check = .ok ()) := by
  by_cases h : cond
  · simp [only_if, h]
  · simp [only_if, h]

/-! ## The checks that the endpoints share -/

def Participant.capable (p : Participant) : Permission → Bool
  | .read => p.can_read
  | .comment => p.can_comment
  | .approve => p.can_approve
  | .execute => p.can_execute
  | .manage => p.can_execute

/-- `_actor` -/
def actor (db : DB) (req : Request) (permission : Permission) (project_id : String) :
    Except HttpError String :=
  match req.principal with
  | none | some "" => raise 401 "Authenticated War Room actor required"
  | some a =>
    if req.x_war_room_actor.isSome ∧ req.x_war_room_actor ≠ some a then
      raise 401 "Actor header does not match authenticated principal"
    else
      match db.participants.find (project_id, a) with
      | none => raise 403 "War Room permission denied"
      | some p =>
        if p.active ∧ p.can_read ∧ p.capable permission ∧ permission ∈ ROLE_PERMISSIONS p.role then
          .ok a
        else raise 403 "War Room permission denied"

/-- `_require_representative` -/
def require_representative (cfg : Config) (actor : String) : Except HttpError Unit :=
  ensure (cfg.representative actor) 403
    "representative principal required; server-side identity mapping is not configured"

/-- `_project_or_404` -/
def project_or_404 (db : DB) (project_id : String) : Except HttpError Project :=
  found (db.projects.find project_id) 404 "Project not found"

/-- `_require_mutable_project` -/
def require_mutable_project (db : DB) (project_id : String) : Except HttpError Unit :=
  ensure (∀ p ∈ db.projects.find project_id, p.status ≠ "archived") 409
    "archived project is immutable"

/-- `_control`: every project has a row. -/
def control (db : DB) (project_id : String) : Control :=
  (db.controls.find project_id).getD
    { project_id := project_id, archived_at := none, stop_requested_at := none,
      stop_deadline := none, stop_state := .running, updated_at := 0 }

/-- `_require_not_stopped` -/
def require_not_stopped (db : DB) (project_id : String) : Except HttpError Unit :=
  let state := (control db project_id).stop_state
  ensure (state = .running) 409 ("project stop barrier active: " ++ state.value)

/-- `_validate_mutation_contract` -/
def validate_mutation_contract (req : Request) (task : Task) : Except HttpError Unit :=
  if req.int? "contract_version" ≠ some 1 then .ok ()
  else if req.text? "project_id" ≠ some task.project_id then
    raise 409 "mutation project binding is stale"
  else if req.text? "task_id" ≠ some task.id then raise 409 "mutation task binding is stale"
  else
    match req.int? "task_revision" with
    | none => raise 422 "task_revision must be a positive integer"
    | some revision =>
      if revision < 1 then raise 422 "task_revision must be a positive integer"
      else if revision ≠ task.revision then raise 409 "mutation task revision is stale"
      else .ok ()

/-- The canonical ids of a list of agents (`_canonical_agents`). -/
def canonical_agents (env : Env) (values : Option Json) : Except HttpError (List String) :=
  let message := "agent_ids must be a unique non-empty allowlisted list"
  match values with
  | some (.arr (v :: vs)) =>
    (v :: vs).foldlM (fun canonical value =>
      match env.canonical_agent_id value with
      | none => raise 422 message
      | some agent =>
        if agent ∈ canonical then raise 422 message else .ok (canonical ++ [agent])) []
  | _ => raise 422 message

/-- The ids are those of the catalog, none of them twice. -/
theorem canonical_agents_spec {env : Env} {values : Option Json} {agents : List String}
    (h : canonical_agents env values = .ok agents) : agents.Nodup ∧ "" ∉ agents := by
  have hfold : ∀ (vs : List Json) (acc : List String), acc.Nodup ∧ "" ∉ acc →
      vs.foldlM (fun canonical value =>
        match env.canonical_agent_id value with
        | none => raise 422 "agent_ids must be a unique non-empty allowlisted list"
        | some agent =>
          if agent ∈ canonical then
            raise 422 "agent_ids must be a unique non-empty allowlisted list"
          else .ok (canonical ++ [agent])) acc = .ok agents → agents.Nodup ∧ "" ∉ agents := by
    intro vs
    induction vs with
    | nil =>
      intro acc hacc h
      rw [List.foldlM_nil, pure_eq_ok] at h
      exact h ▸ hacc
    | cons v vs ih =>
      intro acc hacc h
      rw [List.foldlM_cons, bind_eq_ok] at h
      obtain ⟨acc', hv, h⟩ := h
      refine ih acc' ?_ h
      cases ha : env.canonical_agent_id v with
      | none => simp [ha] at hv
      | some agent =>
        simp only [ha] at hv
        split at hv
        · simp at hv
        · rename_i hnew
          cases hv
          refine ⟨?_, ?_⟩
          · exact List.nodup_append.mpr ⟨hacc.1, List.nodup_singleton _, by grind⟩
          · have := env.canonical_ne v
            grind
  unfold canonical_agents at h
  split at h
  · exact hfold _ [] ⟨.nil, List.not_mem_nil⟩ h
  · simp at h

/-- `_require_execution_agents` -/
def require_execution_agents (db : DB) (env : Env) (project_id : String) (agents : List String) :
    Except HttpError Unit :=
  ensure (agents ≠ [] ∧ ∀ a ∈ agents, (env.catalog a).any WarRoomAgent.execution_eligible ∧
      (db.participants.find (project_id, a)).any fun p => p.active && p.can_comment) 409
    ("every execution agent must be registered, enabled, Gateway-allowed, capable, and an active " ++
      "project participant")

/-- `_require_independent_reviewer` -/
def require_independent_reviewer (reviewer : Option String) (agents : List String)
    (required : Bool) : Except HttpError Unit :=
  ensure (¬(required ∧ reviewer = none) ∧ ∀ r ∈ reviewer, r ∉ agents) 422
    "reviewer must be independent from every execution agent"

/-- The participant is an active QA reviewer of the project. -/
def qa_participant (db : DB) (project_id principal : String) : Bool :=
  (db.participants.find (project_id, principal)).any fun p => p.active && p.role == .qa

/-! ## The fresh context -/

/-- What `_mutation_state_fingerprint` hashes for an action on a task. -/
structure TaskFingerprint where
  task : Option Task
  project : Option Project
  control : Option Control
  agents : List String
  grounding : Option Packet
  approvals : List Approval
  deliveries : List Delivery
  evidence : List Evidence
  verdicts : List QaVerdict
  deriving DecidableEq

/-- `_mutation_state_fingerprint` of a task, before it is hashed. -/
def task_fingerprint (db : DB) (project_id task_id : String) : TaskFingerprint :=
  let task := db.tasks.find task_id
  let revision := (task.map Task.revision).getD 0
  let qa_cycle := (task.map Task.qa_cycle).getD 0
  { task := task
    project := db.projects.find project_id
    control := db.controls.find project_id
    agents := db.agents task_id
    grounding := db.packets.find task_id
    approvals := db.approvals.rows.filter fun a => a.task_id == task_id
    deliveries := db.deliveries.rows.filter fun d =>
      some d.message_id == task.bind Task.source_message_id && d.task_revision == revision
    evidence := db.evidence.rows.filter fun e =>
      e.task_id == task_id && e.task_revision == revision && e.qa_cycle == qa_cycle
    verdicts := db.verdicts.rows.filter fun v =>
      v.signed_payload.task_id == task_id && v.signed_payload.task_revision == revision &&
        v.signed_payload.qa_cycle == qa_cycle }

/-- What `_project_state_fingerprint` hashes, without the counts of audit events. -/
structure ProjectFingerprint where
  project : Option Project
  control : Option Control
  tasks : List Nat
  approvals : Nat
  deliveries : List (DeliveryStatus × Nat)
  deriving DecidableEq

/-- `_project_state_fingerprint`, before it is hashed. -/
def project_fingerprint (db : DB) (project_id : String) : ProjectFingerprint :=
  let tasks := db.tasks.rows.filter fun t => t.project_id == project_id
  let deliveries := db.deliveries.rows.filter fun d => db.in_project project_id d.message_id
  { project := db.projects.find project_id
    control := db.controls.find project_id
    tasks := [tasks.length, (tasks.map Task.revision).sum, (tasks.map Task.qa_cycle).sum]
    approvals := db.approvals.rows.countP fun a =>
      (db.tasks.find a.task_id).any fun t => t.project_id == project_id
    deliveries := [DeliveryStatus.queued, .sent, .received, .responded, .failed, .timed_out,
      .stopped].map fun s => (s, deliveries.countP fun d => d.status == s) }

/-- `_require_fresh_context`: the state that the token was issued for is that of now. -/
def require_fresh_context {φ : Type} [DecidableEq φ] (cfg : Config) (env : Env) (req : Request)
    (actor project_id action target_id : String) (issued current : φ) : Except HttpError Unit :=
  if cfg.fresh_context_bypassed then .ok ()
  else
    match req.context_token with
    | none => raise 409 "FRESH_CONTEXT_REQUIRED"
    | some token =>
      if token.actor ≠ actor ∨ token.project_id ≠ project_id ∨ token.action ≠ action ∨
          token.target_id ≠ target_id ∨ env.now + 5 < token.iat ∨ token.exp < env.now ∨
          125 < env.now - token.iat then raise 409 "STALE_CONTEXT"
      else ensure (issued = current) 409 "STALE_CONTEXT"

/-! ## Idempotency keys -/

/-- What a call looks up: the actor, the scope of the endpoint, and the payload. -/
structure Lookup where
  actor : String
  scope : String
  payload : Dict

/-- `_idem` -/
def idem (cfg : Config) (db : DB) (req : Request) (l : Lookup) : Except HttpError (Option Json) :=
  match req.idempotency_key with
  | none => raise 400 "Idempotency-Key header required"
  | some key =>
    if key = "" ∨ 128 < key.toList.length then raise 400 "Idempotency-Key header required"
    else
      match db.keys.find (l.actor, l.scope, key) with
      | none => .ok none
      | some row =>
        if row.request_hash ≠ cfg.request_hash l.payload then
          raise 409 "Idempotency-Key payload mismatch"
        else .ok (some row.response)

/-- `_save_idem` -/
def save_idem (cfg : Config) (db : DB) (req : Request) (l : Lookup) (response : Json) :
    Except HttpError DB := do
  let keys ← inserted (db.keys.insert
    { actor_id := l.actor, scope := l.scope, idempotency_key := req.idempotency_key.getD ""
      request_hash := cfg.request_hash l.payload, response := response })
  pure { db with keys := keys }

/-- A key that is looked up in vain can be saved. -/
theorem save_idem_ok {cfg : Config} {db : DB} {req : Request} {l : Lookup}
    (hkey : idem cfg db req l = .ok none) (result : Json) :
    ∃ keys, save_idem cfg db req l result = .ok { db with keys := keys } := by
  obtain ⟨key, hreq, hfree⟩ : ∃ key, req.idempotency_key = some key ∧
      db.keys.find (l.actor, l.scope, key) = none := by
    unfold idem at hkey
    split at hkey
    · cases hkey
    · rename_i key hreq
      refine ⟨key, hreq, ?_⟩
      split at hkey
      · cases hkey
      · split at hkey
        · assumption
        · split at hkey <;> cases hkey
  obtain ⟨keys, hkeys⟩ := Table.insert_of_find_none
    (r := (⟨l.actor, l.scope, key, cfg.request_hash l.payload, result⟩ : IdempotencyKey)) hfree
  refine ⟨keys, ?_⟩
  unfold save_idem
  rw [hreq, Option.getD_some]
  exact bind_eq_ok.mpr ⟨keys, inserted_eq_ok.mpr hkeys, rfl⟩

/-! ## Endpoints -/

/-- A write endpoint. `before` runs up to the lookup of the key; `after` returns the tables that it
leaves, and its response. -/
structure Handler where
  Context : Type
  /-- The key is looked up after `BEGIN IMMEDIATE`. -/
  immediate : Bool
  before : Config → View → DB → Env → Request → Except HttpError (Lookup × Context)
  after : Config → View → DB → Env → Request → Lookup → Context → Except HttpError (DB × Json)

/-- The endpoint: the tables that it commits, `none` if it writes nothing, and its response. -/
def Handler.handle (h : Handler) (cfg : Config) (view : View) (db : DB) (env : Env)
    (req : Request) : Except HttpError (Option DB × Json) := do
  let (l, ctx) ← h.before cfg view db env req
  match ← idem cfg (if h.immediate then db else view .keys) req l with
  | some stored => pure (none, stored)
  | none =>
    let (db, result) ← h.after cfg view db env req l ctx
    let db ← save_idem cfg db req l result
    pure (some db, result)

/-- `{"mode": "controlled", ..}` -/
def controlled (members : List (String × Json)) : Json :=
  .obj (("mode", .str "controlled") :: members)

end WarRoom

end Plachem
