import PlachemMonitor.WarRoom.Outcome

/-!
# The endpoints of a review

Evidence, verdicts, completion, and the three recoveries of a review. `qa_verdict` and
`add_evidence` open no transaction of their own, and `representative_completion` opens one after it
has read the task; the recoveries read everything within theirs.
-/

namespace Plachem

namespace WarRoom

open Text (strip)

/-- A `str` that is not blank. -/
def nonblank (v : Option Json) : Option String := (asText v).filter (strip · ≠ "")

/-- The row is bound to the task as it stands; `NULL` matches nothing. -/
def Evidence.current (cfg : Config) (task : Task) (e : Evidence) : Bool :=
  e.task_id == task.id && e.task_revision == task.revision &&
    e.scope_hash == cfg.sha256 task.scope && task.document_version.isSome &&
    e.document_version == task.document_version && e.qa_cycle == task.qa_cycle

/-! ## Evidence -/

/-- The summary of a `session_integrity` row. -/
def valid_integrity (env : Env) (members : List (String × Json)) : Except HttpError Unit := do
  let field := fun k => Json.getMember members k
  let fields := ["scope", "pre_count", "post_count", "changed_count", "deleted_count",
    "uncertain_count", "mtime_encoding", "verified_at"]
  ensure (∀ k ∈ fields, (field k).isSome) 422 "complete session_integrity summary required"
  let count := fun k => asInt (field k)
  ensure ((nonblank (field "scope")).isSome ∧
    (∀ k ∈ ["pre_count", "post_count", "changed_count", "deleted_count", "uncertain_count"],
      (count k).any (decide <| 0 ≤ ·)) ∧
    count "pre_count" = count "post_count" ∧
    (∀ k ∈ ["changed_count", "deleted_count", "uncertain_count"], count k = some 0) ∧
    asText (field "mtime_encoding") = some "decimal_string" ∧
    (count "verified_at").any (decide <| · ≤ env.now)) 409
    "session integrity verification failed or uncertain"

/-- What a body with an `evidence_id` has to prove: the id. -/
def contract_evidence (env : Env) (req : Request) : Except HttpError (Option String) :=
  if req.absent "evidence_id" then .ok none
  else do
    let id ← found (nonblank (req.get? "evidence_id")) 422 "evidence_id must be a non-empty string"
    ensure ((nonblank (req.get? "evidence_type")).isSome ∧
      (nonblank (req.get? "source_command")).isSome ∧ (req.text? "expected_contains").isSome) 422
      "structured evidence requires evidence_type, source_command, expected_contains"
    ensure (req.get? "immutable" = some (.bool true) ∧ (nonblank (req.get? "run_id")).isSome) 422
      "immutable evidence requires run_id and immutable=true"
    let sha256 ← found env.file_sha256 422 "evidence file is not readable"
    ensure (req.text? "sha256" = some sha256) 409 "EVIDENCE_TAMPERED"
    pure (some (strip id))

/-- `POST /tasks/{task_id}/evidence` -/
def add_evidence (task_id : String) : Handler where
  Context := Task × String
  immediate := false
  before _ view _ _ req := do
    let uri ← found ((req.text? "uri").filter fun s =>
      s.startsWith "/" && decide (s.toList.length ≤ 1024)) 422
      "evidence requires local uri and summary"
    let _ ← found ((req.text? "summary").filter (decide <| ·.toList.length ≤ 4096)) 422
      "evidence requires local uri and summary"
    let task ← found ((view .task).tasks.find task_id) 404 "Task not found"
    let actor ← actor (view .participants) req .comment task.project_id
    require_mutable_project (view .project) task.project_id
    require_not_stopped (view .control) task.project_id
    ensure (task.status = .qa) 409 "evidence may only be added during QA"
    pure (⟨actor, "POST:/tasks/" ++ task_id ++ "/evidence", req.body⟩, task, uri)
  after cfg _ db env req _ ctx := do
    let (task, uri) := ctx
    let evidence_type := (asText (req.get? "evidence_type")).getD "file"
    only_if (evidence_type = "session_integrity") (match req.get? "session_integrity" with
      | some (.obj members) => valid_integrity env members
      | _ => raise 422 "complete session_integrity summary required")
    let contract_evidence_id ← contract_evidence env req
    let physical_id := env.uuid 0
    let db ← insert_evidence db [bind_evidence cfg task
      { id := physical_id, task_id := task_id, evidence_type := evidence_type, uri := uri
        sha256 := req.text? "sha256", task_revision := 0, scope_hash := "", document_version := none
        qa_cycle := 0, run_id := req.text? "run_id"
        immutable := req.get? "immutable" == some (.bool true)
        contract_evidence_id := contract_evidence_id }]
    pure (db, controlled [("evidence_id", .str (contract_evidence_id.getD physical_id)),
      ("record_id", .str physical_id), ("correlation_id", .str (env.uuid 1))])

/-! ## Verdicts -/

/-- `if error: raise HTTPException(409, error)` -/
def no_error : Option String → Except HttpError Unit
  | some error => raise 409 error
  | none => .ok ()

/-- The ids that the body submits; `some none` are none at all. -/
def submitted_ids (req : Request) : Option (Option (List String)) :=
  let falsy : Option Json → Bool := fun v => match v with
    | none | some .null | some (.arr []) | some (.str "") | some (.bool false) | some (.int 0) => true
    | _ => false
  let given := if falsy (req.get? "evidence_ids") then req.get? "verified_evidence_ids"
    else req.get? "evidence_ids"
  match given with
  | none | some .null =>
    some <| match req.text? "evidence_profile" with
    | some profile =>
      if profile.startsWith "required:" then
        let ids := ((profile.toList.drop 9).splitOn ',').map String.ofList |>.filter (· ≠ "")
        if ids = [] then none else some ids
      else none
    | none => none
  | some (.arr vs) =>
    let ids := vs.filterMap fun v => (asText (some v)).filter (· ≠ "")
    if ids.length = vs.length then some (some ids) else none
  | _ => none

def verdict_of : Option String → Option Verdict
  | some "PASS" => some .PASS
  | some "FAIL" => some .FAIL
  | some "REWORK" => some .REWORK
  | _ => none

/-- The signature that the verdict is recorded with. -/
def verdict_signature (cfg : Config) (req : Request) (payload : SignedPayload) :
    Except HttpError String := do
  let own := req.text? "signature"
  if req.text? "source" = some "agent_result" then
    pure ((← found cfg.qa_signature 503 "QA signing is unavailable") payload)
  else if own.getD "" = "" then raise 403 "invalid QA signature"
  else
    let sign ← found cfg.qa_signature 503 "QA signing is unavailable"
    ensure (own = some (sign payload)) 403 "invalid QA signature"
    pure (sign payload)

/-- `POST /tasks/{task_id}/qa-verdict` -/
def qa_verdict (task_id : String) : Handler where
  Context := Task × Verdict × String
  immediate := false
  before _ view _ env req := do
    let verdict ← found (verdict_of (req.text? "verdict")) 422 "invalid verdict"
    let qa_principal ← found ((req.get? "qa_principal").bind env.canonical_agent_id) 422
      "qa_principal required"
    let task ← found ((view .task).tasks.find task_id) 404 "Task not found"
    let actor ← actor (view .participants) req .comment task.project_id
    pure (⟨actor, "POST:/tasks/" ++ task_id ++ "/qa-verdict", req.body⟩, task, verdict, qa_principal)
  after cfg view db env req l ctx := do
    let (task, verdict, qa_principal) := ctx
    require_mutable_project (view .project) task.project_id
    require_not_stopped (view .control) task.project_id
    ensure (task.status = .qa) 409 "QA verdict may only be submitted during QA"
    ensure (l.actor = qa_principal ∧ some l.actor ≠ task.assignee_agent_id ∧
      l.actor ∉ (view .agents).agents task_id ∧ task.reviewer_agent_id = some l.actor ∧
      qa_participant (view .participants) task.project_id l.actor) 403
      "independent QA principal required"
    let required ← required_ids (view .packet) task_id
    let v := new_verdict cfg env (env.uuid 0) qa_principal "" task verdict (evidence_profile required)
    let signature ← verdict_signature cfg req v.signed_payload
    let _ ← found (submitted_ids req) 409 "QA_CONTRACT_ERROR"
    only_if (verdict = .PASS) (no_error env.evidence_error)
    let evidence := (view .evidence).evidence.rows.filter (Evidence.current cfg task)
    ensure (verdict = .PASS →
      ((view .packet).packets.find task_id).any Packet.session_integrity_required →
      ∃ e ∈ evidence, e.evidence_type = "session_integrity") 409
      "session_integrity evidence required before QA PASS"
    let verdicts ← inserted (db.verdicts.insert { v with signature := signature })
    let db := { db with verdicts := verdicts }
    let (db, status) := if verdict = .PASS then (db, task.status)
      else (next_revision db env task_id .rework_required, .rework_required)
    pure (db, controlled [("verdict_id", .str v.id), ("verdict", .str verdict.value),
      ("status", .str status.value)])

/-! ## Completion -/

/-- A signed `PASS` of the reviewer of the task as it stands. -/
def is_signed_pass (sign : SignedPayload → String) (payload : SignedPayload) (v : QaVerdict) : Bool :=
  v.qa_principal == payload.qa_principal && v.signed_payload == payload &&
    v.signature == sign payload

/-- What a `PASS` of the reviewer signs. -/
def pass_payload (cfg : Config) (task : Task) (profile : String) : SignedPayload where
  task_id := task.id
  verdict := .PASS
  evidence_profile := profile
  qa_principal := task.reviewer_agent_id.getD ""
  task_revision := task.revision
  scope_hash := cfg.sha256 task.scope
  document_version := task.document_version
  qa_cycle := task.qa_cycle

/-- `_valid_signed_qa_pass`: the reason why there is none. -/
def signed_qa_pass_error (cfg : Config) (db : DB) (task : Task) : Option String :=
  match required_ids db task.id, cfg.qa_signature with
  | .error _, _ => some "GROUNDING_PACKET_INVALID"
  | .ok _, none => some "QA_SIGNATURE_UNAVAILABLE"
  | .ok required, some sign =>
    let payload := pass_payload cfg task (evidence_profile required)
    -- a column that is `NULL` matches nothing
    if task.document_version.isSome && db.verdicts.rows.any (is_signed_pass sign payload) then none
    else some "SIGNED_QA_PASS"

/-- `_representative_completion_checks`: what is missing. -/
def representative_completion_checks (cfg : Config) (db : DB) (env : Env) (task : Task) :
    List String :=
  let packet := db.packets.find task.id
  let evidence := if db.evidence.rows.any (Evidence.current cfg task) then none
    else some "CURRENT_EVIDENCE"
  let qa := signed_qa_pass_error cfg db task
  let integrity := if packet.any Packet.session_integrity_required && !(qa.isNone && env.integrity)
    then some "SESSION_INTEGRITY" else none
  let contract := if packet.any Packet.profiled then env.evidence_error else none
  let unresolved := if issues db task.id task.revision = [] then none
    else some "PROCESSING_UNRESOLVED"
  [evidence, qa, integrity, contract, unresolved].filterMap id

/-- The error of an approval whose checks miss something. -/
def completion_error (missing : List String) : HttpError :=
  if "QA_SIGNATURE_UNAVAILABLE" ∈ missing then .http 503 "QA signature verification is unavailable"
  else if "GROUNDING_PACKET_INVALID" ∈ missing then .http 409 "valid grounding packet required"
  else if "CURRENT_EVIDENCE" ∈ missing ∨ "SIGNED_QA_PASS" ∈ missing then
    .http 409 "signed QA PASS and evidence required"
  else if "SESSION_INTEGRITY" ∈ missing then
    .http 409 ("verified session_integrity evidence required before QA PASS and representative " ++
      "approval")
  else .http 409 "representative completion prerequisites not satisfied"

/-- The decision of the representative on the task as it was read. -/
def new_representative_approval (cfg : Config) (env : Env) (representative : String) (task : Task)
    (decision : Decision) : RepresentativeApproval where
  id := env.uuid 0
  task_id := task.id
  representative_id := representative
  decision := decision
  task_revision := task.revision
  scope_hash := cfg.sha256 task.scope
  document_version := task.document_version
  qa_cycle := task.qa_cycle

def decision_of : Option String → Option Decision
  | some "approved" => some .approved
  | some "rejected" => some .rejected
  | _ => none

/-- `POST /tasks/{task_id}/representative-completion` -/
def representative_completion (task_id : String) : Handler where
  Context := Task × Decision
  immediate := true
  before cfg view _ _ req := do
    let decision ← found (decision_of (req.text? "decision")) 422
      "decision must be approved or rejected"
    let task ← found ((view .task).tasks.find task_id) 404 "Task not found"
    let principal ← found req.principal 401 "Authenticated War Room actor required"
    require_representative cfg principal
    let actor ← actor (view .participants) req .manage task.project_id
    require_mutable_project (view .project) task.project_id
    require_not_stopped (view .control) task.project_id
    pure (⟨actor, "POST:/tasks/" ++ task_id ++ "/representative-completion", req.body⟩, task, decision)
  after cfg view db env req l ctx := do
    let (task, decision) := ctx
    require_fresh_context cfg env req l.actor task.project_id "representative_completion" task_id
      (task_fingerprint (view .context) task.project_id task_id)
      (task_fingerprint db task.project_id task_id)
    ensure (task.status = .qa) 409 "task must be in QA"
    let missing := representative_completion_checks cfg db env task
    only_if (decision = .approved ∧ missing ≠ []) (.error (completion_error missing))
    let approvals ← inserted (db.representative_approvals.insert
      (new_representative_approval cfg env l.actor task decision))
    let db := { db with representative_approvals := approvals }
    let (db, status) := if decision = .approved then (set_status db env task_id .completed,
        TaskStatus.completed)
      else (next_revision db env task_id .rework_required, .rework_required)
    pure (db, controlled [("task_id", .str task_id), ("status", .str status.value),
      ("representative_approval_id", .str (env.uuid 0)), ("correlation_id", .str (env.uuid 1))])

/-! ## Recoveries -/

/-- `archive` -/
def archive (db : DB) (env : Env) (task : Task) (stage delivery_id : String)
    (record : Option Delivery) : Except HttpError DB := do
  let attempts ← inserted (db.attempts.insert
    ⟨env.uuid 3, task.id, task.revision, stage, delivery_id, record⟩)
  pure { db with attempts := attempts }

/-- `_queue_auto_qa_delivery` has to find a review. -/
def queue_review (cfg : Config) (db : DB) (env : Env) (task : Task) : Except HttpError DB := do
  let (db, queued) ← queue_auto_qa_delivery cfg db env task.id task.source_message_id (env.uuid 2)
  ensure queued 409 "QA_DELIVERY_UNAVAILABLE"
  pure db

/-- The review of the task that `resume_qa` finds. -/
def review_delivery (db : DB) (task : Task) : Option Delivery :=
  db.deliveries.rows.find? fun d => some d.message_id == task.source_message_id &&
    some d.agent_id == task.reviewer_agent_id && d.task_revision == task.revision

/-- `resume_qa`, with its result. -/
def resume_qa (cfg : Config) (db : DB) (env : Env) (task : Task) :
    Except HttpError (DB × List (String × Json)) := do
  ensure (task.status = .qa) 409 "QA_STAGE_NOT_RESUMABLE"
  ensure (¬db.verdicts.rows.any fun v => v.signed_payload.task_id == task.id &&
    v.signed_payload.task_revision == task.revision && v.signed_payload.qa_cycle == task.qa_cycle) 409
    "QA_VERDICT_ALREADY_RECORDED"
  ensure (task.reviewer_agent_id.getD "" ≠ "") 409 "QA_REVIEWER_MISSING"
  match review_delivery db task with
  | some previous =>
    if previous.active then
      pure (db, [("status", .str "already_running"), ("delivery_id", .str previous.id)])
    else
      let db ← archive db env task "QA_RETRY" previous.id (some previous)
      reopen { db with deliveries := db.deliveries.delete fun d => d.id == previous.id }
  | none => reopen db
where
  /-- A new cycle of the review. -/
  reopen (db : DB) : Except HttpError (DB × List (String × Json)) := do
    let db := { db with tasks := db.tasks.update (fun t =>
        t.id == task.id && t.revision == task.revision && t.status == .qa) fun t =>
      { t with
        qa_cycle := t.qa_cycle + 1
        deadline_at := some (max (t.deadline_at.getD 0) (env.now + 3600))
        updated_at := env.now } }
    let db ← capture_required_evidence cfg db env task.id
    let (db, queued) ← queue_auto_qa_delivery cfg db env task.id task.source_message_id (env.uuid 2)
    let db := if queued then resolve_where db fun i => i.task_id == task.id &&
        i.task_revision == task.revision && i.stage == "QA"
      else db
    pure (db, [("status", .str (if queued then "queued" else "qa_unavailable")),
      ("qa_cycle", .int (task.qa_cycle + 1))])

/-- `POST /tasks/{task_id}/resume-qa` -/
def resume_task_qa (task_id : String) : Handler where
  Context := Task
  immediate := true
  before cfg _ db _ req := do
    let task ← found (db.tasks.find task_id) 404 "Task not found"
    validate_mutation_contract req task
    let actor ← actor db req .execute task.project_id
    require_representative cfg actor
    require_mutable_project db task.project_id
    require_not_stopped db task.project_id
    pure (⟨actor, "POST:/tasks/" ++ task_id ++ "/resume-qa", req.body⟩, task)
  after cfg view db env req l task := do
    require_fresh_context cfg env req l.actor task.project_id "task_resume_qa" task_id
      (task_fingerprint (view .context) task.project_id task_id)
      (task_fingerprint db task.project_id task_id)
    let (db, result) ← resume_qa cfg db env task
    pure (db, .obj (result ++ [("worker_redispatched", .bool false), ("task_id", .str task_id),
      ("task_revision", .int task.revision)]))

/-- The approval that a recovery asks for; one of an older schema has no target set. -/
def recovery_approval (cfg : Config) (db : DB) (env : Env) (task : Task) (expires : Bool)
    (a : Approval) : Bool :=
  a.scope_hash == cfg.sha256 task.scope && some a.document_version == task.document_version &&
    a.assignee_agent_id == task.assignee_agent_id &&
    (a.target_set_hash == "" || a.target_set_hash == target_set_hash cfg (db.agents task.id)) &&
    (match a.expires_at with
      | none => !expires
      | some n => decide (env.now < n))

/-- `lower(run_status) IN ('pass','completed')` -/
def run_passed (r : ExecutionRun) : Bool := r.run_status.map Char.toLower ∈ ["pass", "completed"]

/-- The review claims that a receipt is missing, under the verdict that it recorded. -/
def receipt_path_response (verdict : Verdict) (body : String) : Option Bool :=
  let text := ((strip body).toList.dropWhile (· == '`')).reverse.dropWhile (· == '`') |>.reverse
  (Json.loads text).map fun v =>
    let field := fun k => match v with
      | .obj members => (asText (Json.getMember members k)).getD ""
      | _ => ""
    let summary := (field "summary").map Char.toLower
    upper (field "verdict") == verdict.value && isPart "receipt" summary &&
      ["does not exist", "not found", "missing"].any fun m => isPart m summary

/-- The delivery and the run of the executor behind a verdict. -/
def verdict_run (db : DB) (task : Task) (core_run_id : String) (revision : Nat) :
    Except HttpError (ExecutionRun × Delivery) := do
  let run ← found ((db.runs.find core_run_id).filter fun r => r.war_task_id == task.id &&
    r.war_project_id == task.project_id && some r.agent_id == task.assignee_agent_id &&
    run_passed r) 409 "QA_REWORK_RUN_MISMATCH"
  ensure (run.cancel_reason.getD "" = "" ∧ run.openclaw_run_id.getD "" ≠ "") 409
    "QA_REWORK_RUN_CANCELLED_OR_UNBOUND"
  let delivery ← found (db.deliveries.rows.find? fun d =>
    some d.message_id == task.source_message_id && some d.agent_id == task.assignee_agent_id &&
      d.task_revision == revision && d.status == .responded &&
      (d.run_id == some run.core_run_id || d.run_id == run.openclaw_run_id) &&
      (d.session_key.isNone || d.session_key == run.session_key)) 409
    "QA_REWORK_DELIVERY_BINDING_MISMATCH"
  pure (run, delivery)

/-- The response of the reviewer behind a verdict. -/
def verdict_response (db : DB) (task : Task) (verdict : QaVerdict) : Except HttpError Unit := do
  let message ← found ((db.deliveries.rows.find? fun d =>
    some d.message_id == task.source_message_id && some d.agent_id == task.reviewer_agent_id &&
      d.task_revision == verdict.signed_payload.task_revision && d.status == .responded &&
      d.response_message_id.isSome).bind fun d => d.response_message_id.bind db.messages.find) 409
    "QA_REWORK_QA_RESPONSE_MISSING"
  let proven ← found (receipt_path_response verdict.signed_payload.verdict message.body) 409
    "QA_REWORK_QA_RESPONSE_INVALID"
  ensure proven 409 "QA_REWORK_RECEIPT_PATH_ERROR_UNPROVEN"

/-- The rows of the cycle that the verdict was on. -/
def verdict_evidence (db : DB) (task : Task) (verdict : QaVerdict) : List Evidence :=
  db.evidence.rows.filter fun e => e.task_id == task.id &&
    e.task_revision == verdict.signed_payload.task_revision &&
    e.qa_cycle == verdict.signed_payload.qa_cycle

/-- `recover_false_qa_rework`; the id of the delivery of the executor. -/
def recover_false_qa_rework (cfg : Config) (db : DB) (env : Env) (task : Task)
    (core_run_id qa_verdict_id recovery_code : String) :
    Except HttpError (DB × List (String × Json)) := do
  ensure (task.status = .rework_required) 409 "QA_REWORK_RECOVERY_NOT_ELIGIBLE"
  ensure (recovery_code = "QA_FALSE_REWORK_RECEIPT_PATH") 409 "QA_REWORK_RECOVERY_CODE_NOT_ALLOWED"
  let verdict ← found ((db.verdicts.find qa_verdict_id).filter fun v =>
    v.signed_payload.task_id == task.id && v.signed_payload.verdict != .PASS) 409
    "QA_REWORK_VERDICT_NOT_FOUND"
  ensure (verdict.signed_payload.task_revision < task.revision) 409 "QA_REWORK_REVISION_NOT_ADVANCED"
  let (run, delivery) ← verdict_run db task core_run_id verdict.signed_payload.task_revision
  verdict_response db task verdict
  ensure ((DB.newest ((db.unrevoked task.id).filter fun a => a.scope_hash == cfg.sha256 task.scope &&
      some a.document_version == task.document_version &&
      a.assignee_agent_id == task.assignee_agent_id)).any (recovery_approval cfg db env task true)) 409
    "QA_REWORK_APPROVAL_CONTRACT_MISMATCH"
  let open_issue := (issues db task.id task.revision).find? fun i => i.stage == "QA"
  ensure (∀ i ∈ open_issue, recoverable_stage i.code true = some "QA") 409
    "QA_REWORK_STAGE_NOT_RECOVERABLE"
  ensure (∀ i ∈ open_issue, isPart "RECEIPT" (upper i.code) ∧ isPart "PATH" (upper i.code)) 409
    "QA_REWORK_REASON_NOT_RECEIPT_PATH"
  let sources := verdict_evidence db task verdict
  ensure (sources ≠ []) 409 "QA_REWORK_EVIDENCE_MISSING"
  ensure (open_issue.isSome ∨ verdict.signed_payload.verdict = .REWORK ∧
    ∃ e ∈ sources, e.evidence_type = "execution_receipt") 409 "QA_REWORK_REASON_NOT_RECEIPT_PATH"
  ensure (∀ e ∈ sources, e.immutable ∧ e.sha256.getD "" ≠ "" ∧
    (e.run_id = some run.core_run_id ∨ e.run_id = some (run.openclaw_run_id.getD ""))) 409
    "QA_REWORK_EVIDENCE_IDENTITY_INVALID"
  -- the files behind the rows
  no_error env.evidence_error
  let db := { db with tasks := db.tasks.update (fun t =>
      t.id == task.id && t.status == .rework_required) fun t =>
    { t with status := .qa, qa_cycle := task.qa_cycle + 1, updated_at := env.now } }
  let current ← found (db.tasks.find task.id) 404 "Task not found"
  let db ← insert_evidence db (env.captured.map (bind_evidence cfg current))
  let db ← queue_review cfg db env task
  let db := match open_issue with
    | some i => resolve db task.id task.revision i.delivery_id
    | none => db
  let db ← archive db env current "QA_FALSE_REWORK_RECOVERY" delivery.id none
  pure (db, [("status", .str "qa"), ("qa_cycle", .int (task.qa_cycle + 1)),
    ("task_revision", .int current.revision), ("original_qa_verdict_id", .str qa_verdict_id),
    ("original_worker_delivery_id", .str delivery.id)])

/-- `POST /tasks/{task_id}/recover-qa-rework` -/
def recover_qa_rework (task_id : String) : Handler where
  Context := Task × String × String × String
  immediate := true
  before cfg _ db _ req := do
    let message := "core_run_id, qa_verdict_id, and recovery_code are required"
    let core_run_id ← found (nonblank (req.get? "core_run_id")) 422 message
    let qa_verdict_id ← found (nonblank (req.get? "qa_verdict_id")) 422 message
    let recovery_code ← found (nonblank (req.get? "recovery_code")) 422 message
    let task ← found (db.tasks.find task_id) 404 "Task not found"
    validate_mutation_contract req task
    let actor ← actor db req .execute task.project_id
    require_representative cfg actor
    require_mutable_project db task.project_id
    require_not_stopped db task.project_id
    pure (⟨actor, "POST:/tasks/" ++ task_id ++ "/recover-qa-rework", req.body⟩, task,
      strip core_run_id, strip qa_verdict_id, strip recovery_code)
  after cfg view db env req l ctx := do
    let (task, core_run_id, qa_verdict_id, recovery_code) := ctx
    require_fresh_context cfg env req l.actor task.project_id "task_resume_qa" task_id
      (task_fingerprint (view .context) task.project_id task_id)
      (task_fingerprint db task.project_id task_id)
    let (db, result) ← recover_false_qa_rework cfg db env task core_run_id qa_verdict_id recovery_code
    pure (db, controlled (("task_id", .str task_id) :: result))

/-- `ORDER BY updated_at DESC,core_run_id DESC LIMIT 1` -/
def newest_run (runs : List ExecutionRun) : Option ExecutionRun :=
  runs.foldl (fun best r =>
    match best with
    | none => some r
    | some b => if b.updated_at < r.updated_at ∨
        b.updated_at = r.updated_at ∧ b.core_run_id < r.core_run_id then some r else some b) none

/-- `_result_revalidation_candidate`: the run. -/
def result_revalidation_candidate (cfg : Config) (db : DB) (env : Env) (task : Task) :
    Option ExecutionRun := do
  guard (task.status ∈ [.running, .qa, .rework_required])
  let issue := (issues db task.id task.revision).reverse.find? fun i => i.stage == "RESULT"
  guard (task.status = .rework_required ∨ issue.isSome)
  let run ← newest_run (db.runs.rows.filter fun r => r.war_task_id == task.id &&
    r.war_project_id == task.project_id && r.run_status.map Char.toLower == "fail")
  guard (run.openclaw_run_id.getD "" ≠ "" ∧ run.session_key.getD "" ≠ "" ∧
    run.cancel_reason.getD "" = "")
  guard (∀ i ∈ issue, recoverable_stage i.code false = some "RESULT")
  guard ((db.approval task.id).any (recovery_approval cfg db env task false))
  guard (¬db.revalidations.rows.any fun r => r.task_id == task.id &&
    r.task_revision == task.revision && r.core_run_id == run.core_run_id && r.passed)
  pure run

/-- What a valid result changes: the task enters QA, and no executor of it waits any longer. -/
def revalidated (cfg : Config) (db : DB) (env : Env) (task : Task) : Except HttpError DB := do
  let cycle := if task.status = .qa then task.qa_cycle else task.qa_cycle + 1
  let db := { db with
    tasks := db.tasks.update (fun t => t.id == task.id &&
        decide (t.status ∈ [.running, .qa, .rework_required])) fun t =>
      { t with status := .qa, qa_cycle := cycle, updated_at := env.now }
    -- `agent_id<>NULL` holds of no row
    deliveries := db.deliveries.update (fun d => some d.message_id == task.source_message_id &&
        d.task_revision == task.revision && task.reviewer_agent_id.any (d.agent_id != ·) &&
        d.status == .queued) fun d =>
      { d with
        status := .failed
        error_code := some "result_revalidation_worker_bypassed"
        error_class := some "system_error"
        last_error_at := some env.now } }
  let current ← found (db.tasks.find task.id) 404 "Task not found"
  let db ← insert_evidence db (env.captured.map (bind_evidence cfg current))
  let db ← queue_review cfg db env task
  pure (resolve_where db fun i => i.task_id == task.id && i.task_revision == task.revision &&
    i.stage == "RESULT" && i.isOpen)

/-- `POST /tasks/{task_id}/revalidate-result` -/
def revalidate_task_result (task_id : String) : Handler where
  Context := Task × String
  immediate := true
  before cfg _ db _ req := do
    let core_run_id ← found (nonblank (req.get? "core_run_id")) 422 "core_run_id is required"
    let task ← found (db.tasks.find task_id) 404 "Task not found"
    let actor ← actor db req .execute task.project_id
    require_representative cfg actor
    pure (⟨actor, "POST:/tasks/" ++ task_id ++ "/revalidate-result", req.body⟩, task,
      strip core_run_id)
  after cfg view db env req l ctx := do
    let (task, core_run_id) := ctx
    validate_mutation_contract req task
    require_fresh_context cfg env req l.actor task.project_id "task_revalidate_result" task_id
      (task_fingerprint (view .context) task.project_id task_id)
      (task_fingerprint db task.project_id task_id)
    require_mutable_project db task.project_id
    require_not_stopped db task.project_id
    let _ ← found ((result_revalidation_candidate cfg db env task).filter fun r =>
      r.core_run_id == core_run_id) 409 "RESULT_REVALIDATION_RUN_MISMATCH"
    let (passed, reason) ← env.revalidation
    let revalidations ← inserted (db.revalidations.insert
      ⟨env.uuid 0, task_id, task.revision, core_run_id, passed⟩)
    let db := { db with revalidations := revalidations }
    let revalidated ← some_if (passed = true) (revalidated cfg db env task)
    pure (revalidated.getD db, controlled [("task_id", .str task_id),
      ("status", .str (if passed then "qa" else "revalidation_rejected")),
      ("outcome", .str (if passed then "PASS" else "FAIL")), ("reason", .str reason),
      ("history_id", .str (env.uuid 0)), ("core_run_id", .str core_run_id),
      ("task_revision", .int task.revision), ("qa_delivery_queued", .bool passed)])

end WarRoom

end Plachem
