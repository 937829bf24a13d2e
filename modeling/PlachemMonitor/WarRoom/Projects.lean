import PlachemMonitor.WarRoom.Review

/-!
# The endpoints of a project

Projects, participants, messages, document references and execution units. What they do outside of
the tables of the model (documents, sessions, snapshots, the execution orchestrator) is an answer of
the outside.
-/

namespace Plachem

namespace WarRoom

open Text (strip)

/-- A name of a project. -/
def project_name (v : Option Json) : Except HttpError String :=
  (found ((nonblank v).filter (decide <| ·.toList.length ≤ 200)) 422 "valid name required").map strip

/-- Another project has the name. -/
def duplicate_name (db : DB) (name : String) (id : Option String) : Bool :=
  db.projects.rows.any fun p => p.name.map Char.toLower == name.map Char.toLower &&
    p.status != "archived" && some p.id != id

/-- `POST /projects` -/
def create_project : Handler where
  Context := String
  immediate := false
  before _ view _ _ req := do
    let name ← project_name (req.get? "name")
    let actor ← found req.principal 401 "authentication required"
    ensure ((view .participants).participants.rows.any fun p =>
      p.principal_id == actor && p.role == .project_manager) 403 "project manager required"
    pure (⟨actor, "POST:/projects", req.body⟩, name)
  after _ view db env req l name := do
    ensure (¬duplicate_name (view .project) name none) 409 "duplicate project name"
    let id := env.uuid 0
    let projects ← inserted (db.projects.insert
      { id := id, name := name, status := "planning"
        manyfast_project_id := (req.text? "manyfast_project_id").getD ""
        manyfast_version := (req.text? "manyfast_version").getD "unknown", updated_at := env.now })
    let controls ← inserted (db.controls.insert
      { project_id := id, archived_at := none, stop_requested_at := none, stop_deadline := none
        stop_state := .running, updated_at := env.now })
    let participants ← inserted (db.participants.insert
      ⟨id, l.actor, .project_manager, true, true, true, true, true⟩)
    pure ({ db with projects := projects, controls := controls, participants := participants },
      controlled [("project_id", .str id), ("correlation_id", .str (env.uuid 1))])

/-- What every endpoint of a project checks before it looks the key up. -/
def manage_project (view : View) (req : Request) (project_id scope : String)
    (permission : Permission) : Except HttpError (Lookup × Project) := do
  let project ← project_or_404 (view .project) project_id
  let actor ← actor (view .participants) req permission project_id
  require_mutable_project (view .project) project_id
  pure (⟨actor, scope, req.body⟩, project)

/-- The row of a project, and of its control if it is archived. -/
def write_project (db : DB) (env : Env) (project_id : String) (f : Project → Project)
    (archived : Bool) (hf : ∀ p, (f p).id = p.id := by intro p; rfl) : DB :=
  { db with
    projects := db.projects.update (fun p => p.id == project_id) f hf
    controls := db.controls.update (fun c => archived && c.project_id == project_id) fun c =>
      { c with archived_at := some env.now, updated_at := env.now } }

/-- `POST /projects/{project_id}/archive` -/
def archive_project (project_id : String) : Handler where
  Context := Unit
  immediate := false
  before _ view _ _ req := do
    let _ ← project_or_404 (view .project) project_id
    let actor ← actor (view .participants) req .manage project_id
    pure (⟨actor, "POST:/projects/" ++ project_id ++ "/archive", req.body⟩, ())
  after _ view db env _ _ _ := do
    require_mutable_project (view .project) project_id
    pure (write_project db env project_id
        (fun p => { p with status := "archived", updated_at := env.now }) true,
      controlled [("project_id", .str project_id), ("status", .str "archived"),
        ("correlation_id", .str (env.uuid 0))])

/-- `PATCH /projects/{project_id}` -/
def update_project (project_id : String) : Handler where
  Context := Project
  immediate := false
  before _ view _ _ req := manage_project view req project_id ("PATCH:/projects/" ++ project_id) .manage
  after _ view db env req _ project := do
    let name ← project_name ((req.get? "name").or (some (.str project.name)))
    let status ← found ((asText ((req.get? "status").or (some (.str project.status)))).filter
      (· ∈ ["planning", "active", "paused", "archived"])) 422 "invalid project status"
    ensure (¬duplicate_name (view .project) name (some project_id)) 409 "duplicate project name"
    pure (write_project db env project_id
        (fun p => { p with name := name, status := status, updated_at := env.now })
        (status == "archived"),
      controlled [("project_id", .str project_id), ("name", .str name), ("status", .str status),
        ("correlation_id", .str (env.uuid 0))])

/-- `POST|PUT /projects/{project_id}/manyfast-reference` -/
def save_manyfast_reference (method project_id : String) : Handler where
  Context := Project × String × String
  immediate := false
  before _ view _ _ req := do
    let message := "manyfast_project_id and document_version required"
    let version ← found (nonblank ((req.get? "document_version").or (req.get? "manyfast_version"))) 422
      message
    let manyfast_id ← found (asText ((req.get? "manyfast_project_id").or (some (.str "")))) 422 message
    let (l, project) ← manage_project view req project_id
      (method ++ ":/projects/" ++ project_id ++ "/manyfast-reference") .manage
    pure (l, project, strip version, manyfast_id)
  after _ _ db env _ _ ctx := do
    let (project, version, manyfast_id) := ctx
    pure (write_project db env project_id (fun p =>
        { p with
          manyfast_project_id := manyfast_id
          manyfast_version := version
          updated_at := env.now }) false,
      controlled [("project_id", .str project_id), ("manyfast_project_id", .str manyfast_id),
        ("document_version", .str version),
        ("drift", .bool (project.manyfast_version ≠ version ∨
          project.manyfast_project_id ≠ manyfast_id)),
        ("correlation_id", .str (env.uuid 0))])

/-! ## Participants -/

def role_of : Option String → Option Role
  | some "project_manager" => some .project_manager
  | some "developer" => some .developer
  | some "qa" => some .qa
  | some "observer" => some .observer
  | _ => none

/-- A capability: what the body says, else the default; a role has only its own. -/
def capability (req : Request) (role : Role) (default : Bool) (column : String) (p : Permission) :
    Except HttpError Bool := do
  let value ← found (match req.get? column with
    | none => some default
    | some (.bool b) => some b
    | some _ => none) 422 (column ++ " must be boolean")
  ensure (value → p ∈ ROLE_PERMISSIONS role) 422 (column ++ " exceeds role capability")
  pure value

/-- `POST /projects/{project_id}/participants` -/
def add_participant (project_id : String) : Handler where
  Context := String × Role
  immediate := false
  before _ view _ env req := do
    let message := "participant or role not allowed"
    let participant ← found ((req.get? "principal_id").bind env.canonical_agent_id) 422 message
    let role ← found (if (req.get? "role").isNone then some .developer
      else role_of (req.text? "role")) 422 message
    let (l, _) ← manage_project view req project_id
      ("POST:/projects/" ++ project_id ++ "/participants") .manage
    pure (l, participant, role)
  after _ view db env req _ ctx := do
    let (participant, role) := ctx
    ensure (((view .participants).participants.find (project_id, participant)).isNone) 409
      "agent is already a project participant"
    ensure ((env.catalog participant).any fun e => e.registered && e.enabled) 409
      "participant must be registered and enabled"
    ensure (role = .qa ∨ (env.catalog participant).any WarRoomAgent.execution_eligible) 409
      "execution participant must be Gateway-allowed"
    let default := fun p => decide (p ∈ ROLE_PERMISSIONS role)
    let read ← capability req role (default .read) "can_read" .read
    let comment ← capability req role (default .comment) "can_comment" .comment
    let approve ← capability req role (default .approve) "can_approve" .approve
    let execute ← capability req role (default .execute) "can_execute" .execute
    let participants ← inserted (db.participants.insert
      ⟨project_id, participant, role, read, comment, approve, execute, true⟩)
    pure ({ db with participants := participants },
      controlled [("participant_id", .str ("participant-" ++ project_id ++ "-" ++ participant)),
        ("correlation_id", .str (env.uuid 0))])

/-- The field is absent or a `bool`. -/
def bool_or_absent (req : Request) (k : String) : Bool :=
  match req.get? k with
  | none | some (.bool _) => true
  | _ => false

/-- `PATCH /projects/{project_id}/participants/{principal_id}` -/
def update_participant (project_id principal_id : String) : Handler where
  Context := String × Option Role
  immediate := false
  before _ view _ env req := do
    let principal ← found (env.canonical_agent_id (.str principal_id)) 422
      "participant is not allowed"
    let role := role_of (req.text? "role")
    ensure (req.absent "role" ∨ role.isSome) 422 "participant role not allowed"
    ensure (req.absent "active" ∨ bool_or_absent req "active") 422 "active must be boolean"
    ensure (∀ c ∈ ["can_read", "can_comment", "can_approve", "can_execute"], bool_or_absent req c) 422
      "a capability must be boolean"
    let (l, _) ← manage_project view req project_id
      ("PATCH:/projects/" ++ project_id ++ "/participants/" ++ principal) .manage
    pure (l, principal, role)
  after _ view db env req _ ctx := do
    let (principal, role) := ctx
    let row ← found ((view .participants).participants.find (project_id, principal)) 404
      "participant not found"
    let next := role.getD row.role
    let active := if req.absent "active" then row.active
      else req.get? "active" == some (.bool true)
    let default := fun (own : Bool) p => if role.isNone then own else decide (p ∈ ROLE_PERMISSIONS next)
    let read ← capability req next (default row.can_read .read) "can_read" .read
    let comment ← capability req next (default row.can_comment .comment) "can_comment" .comment
    let approve ← capability req next (default row.can_approve .approve) "can_approve" .approve
    let execute ← capability req next (default row.can_execute .execute) "can_execute" .execute
    let participants := db.participants.update (fun p => p.key == row.key) fun p =>
      { p with
        role := next
        active := active
        can_read := read
        can_comment := comment
        can_approve := approve
        can_execute := execute }
    pure ({ db with participants := participants },
      controlled [("principal_id", .str principal), ("active", .bool active),
        ("correlation_id", .str (env.uuid 0))])

/-! ## Messages -/

/-- `POST /projects/{project_id}/messages` -/
def create_message (project_id : String) : Handler where
  Context := String × String
  immediate := false
  before _ view _ _ req := do
    let text ← found (bounded_text 4096 (req.get? "body")) 422 "body must be 1..4096 characters"
    let message_type ← found ((asText ((req.get? "message_type").or (some (.str "opinion")))).filter
      (· ∈ ["instruction", "opinion", "question", "decision", "result", "status", "system"])) 422
      "message_type not allowed"
    ensure (message_type ≠ "instruction") 422
      "instruction must be created with its linked task via /projects/{project_id}/instructions"
    let (l, _) ← manage_project view req project_id
      ("POST:/projects/" ++ project_id ++ "/messages") .comment
    require_not_stopped (view .control) project_id
    pure (l, text, message_type)
  after cfg view db env req l ctx := do
    let (text, message_type) := ctx
    let linked := (req.text? "source_message_id").bind fun id =>
      if (view .message).in_project project_id id then (view .task).task_of_message id else none
    ensure (req.absent "source_message_id" ∨ linked.isSome) 422
      "source_message_id must identify a project task instruction"
    ensure (message_type = "result" →
      linked.any fun t => t.assignee_agent_id == some l.actor) 403
      "only the approved assignee may submit a task result"
    ensure (message_type = "opinion" → ¬req.absent "requested_agent_id" →
      ((req.get? "requested_agent_id").bind env.canonical_agent_id).any fun a =>
        ((view .participants).participants.find (project_id, a)).any fun p =>
          p.active && p.can_comment) 409
      "opinion target must be an active commenting participant"
    let messages ← inserted (db.messages.insert
      ⟨env.uuid 0, project_id, message_type, l.actor, cfg.stored text⟩)
    pure ({ db with messages := messages }, controlled [("id", .str (env.uuid 0)),
      ("correlation_id", .str (env.uuid 1))])

/-- `POST /tasks/{task_id}/supersede`: it writes nothing but the audit. -/
def supersede_task (task_id : String) : Handler where
  Context := Task × String
  immediate := false
  before cfg view _ _ req := do
    let replacement_id ← found (nonblank (req.get? "replacement_task_id")) 422
      "replacement_task_id required"
    let _ ← found (bounded_text 1024 (req.get? "reason")) 422 "reason must be 1..1024 characters"
    let source ← found ((view .task).tasks.find task_id) 404 "Task not found"
    let actor ← actor (view .participants) req .manage source.project_id
    require_representative cfg actor
    require_mutable_project (view .project) source.project_id
    pure (⟨actor, "POST:/tasks/" ++ task_id ++ "/supersede", req.body⟩, source, strip replacement_id)
  after cfg view db env req l ctx := do
    let (source, replacement_id) := ctx
    require_fresh_context cfg env req l.actor source.project_id "task_supersede" task_id
      (task_fingerprint (view .context) source.project_id task_id)
      (task_fingerprint (view .project) source.project_id task_id)
    ensure (source.status ∈ [.rework_required, .draft, .stopped, .stop_unconfirmed]) 409
      "only inactive failed/draft/stopped tasks may be superseded"
    ensure (replacement_id ≠ task_id) 422 "replacement task must differ from source task"
    let replacement ← found (((view .task).tasks.find replacement_id).filter fun t =>
      t.project_id == source.project_id) 409 "replacement task must belong to the same project"
    ensure (replacement.status ∈ [.qa, .completed]) 409 "replacement task requires latest QA PASS"
    ensure (¬(view .active).deliveries.rows.any fun d =>
      some d.message_id == source.source_message_id && d.active) 409
      "source task still has an active delivery"
    ensure (¬(view .runs).runs.rows.any fun r => r.war_task_id == task_id && run_is_active r) 409
      "source task still has an active execution run"
    let _ ← env.result
    pure (db, controlled [("task_id", .str task_id), ("projected_state", .str "SUPERSEDED"),
      ("replacement_task_id", .str replacement_id), ("correlation_id", .str (env.uuid 0))])

/-! ## Endpoints with an effect elsewhere -/

/-- The response is what the outside answers. -/
def answered (db : DB) (env : Env) : Except HttpError (DB × Json) := env.result.map fun r => (db, r)

/-- `PUT /projects/{project_id}/participants/{agent_id}/test-session` -/
def bind_test_session (project_id agent_id : String) : Handler where
  Context := String
  immediate := false
  before _ view _ env req := do
    let agent ← found ((env.canonical_agent_id (.str agent_id)).filter fun _ =>
      ((req.text? "session_key").any fun k => k.startsWith "test:") &&
        (req.absent "session_id" || (req.text? "session_id").isSome)) 422
      "explicit test session_key and optional session_id required"
    let (l, _) ← manage_project view req project_id
      ("PUT:/projects/" ++ project_id ++ "/participants/" ++ agent ++ "/test-session") .manage
    pure (l, agent)
  after _ view db env _ _ agent := do
    ensure (((view .participants).participants.find (project_id, agent)).any Participant.active) 409
      "active participant required"
    answered db env

/-- `POST /projects/{project_id}/manyfast-snapshot` -/
def save_manyfast_snapshot (project_id : String) : Handler where
  Context := Unit
  immediate := false
  before _ view _ _ req := do
    let _ ← found ((nonblank (req.get? "document_version")).filter fun _ =>
      match req.get? "snapshot" with
      | some (.obj _) => true
      | _ => false) 422 "document_version and snapshot required"
    let (l, _) ← manage_project view req project_id
      ("POST:/projects/" ++ project_id ++ "/manyfast-snapshot") .manage
    pure (l, ())
  after _ _ db env _ _ _ := answered db env

/-- `POST /projects/{project_id}/documents/register` -/
def register_project_document (project_id : String) : Handler where
  Context := Unit
  immediate := true
  before _ view _ _ req := do
    let (l, _) ← manage_project view req project_id
      ("POST:/projects/" ++ project_id ++ "/documents/register") .manage
    pure (l, ())
  after _ _ db env req _ _ := do
    ensure (req.absent "task_id" ∨ (nonblank (req.get? "task_id")).isSome) 422
      "task_id must be a non-empty string"
    answered db env

/-- `POST /projects/{project_id}/tasks/{task_id}/executions/compile` -/
def compile_executions (project_id task_id : String) : Handler where
  Context := Unit
  immediate := false
  before _ view _ _ req := do
    let _ ← project_or_404 (view .project) project_id
    let actor ← actor (view .participants) req .execute project_id
    ensure (((view .task).tasks.find task_id).any fun t => t.project_id == project_id) 404
      "task not found for project"
    pure (⟨actor, "POST:/projects/" ++ project_id ++ "/tasks/" ++ task_id ++ "/executions/compile",
      req.body⟩, ())
  after _ view db env req _ _ := do
    let agents ← canonical_agents env (req.get? "agent_ids")
    require_execution_agents (view .agents) env project_id agents
    answered db env

/-- The endpoints of one execution unit: `dispatch` and `stop`. -/
def execution_endpoint (action execution_id : String) : Handler where
  Context := Unit
  immediate := false
  before _ view _ _ req := do
    let unit ← found ((view .runs).units.find execution_id) 404 "execution not found"
    let actor ← actor (view .participants) req .execute unit.war_project_id
    pure (⟨actor, "POST:/executions/" ++ execution_id ++ "/" ++ action, req.body⟩, ())
  after _ _ db env _ _ _ := answered db env

/-- `POST /executions/{execution_id}/dispatch` -/
def dispatch_execution (execution_id : String) : Handler := execution_endpoint "dispatch" execution_id

/-- `POST /executions/{execution_id}/stop` -/
def stop_execution (execution_id : String) : Handler := execution_endpoint "stop" execution_id

end WarRoom

end Plachem
