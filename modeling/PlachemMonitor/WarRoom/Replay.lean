import PlachemMonitor.WarRoom.History

/-!
# Idempotent replay

An endpoint makes some of its checks before it looks its `Idempotency-Key` up. `rechecks` are those of
them that read the database, the catalog or the clock: a replay passes them once more, in the state
that it finds.

* `before_iff`: what an endpoint checks before the lookup.
* `keys_since`: a key that is saved stays.
* `replay_iff`: a replay returns the stored response exactly if the `rechecks` pass.
-/

namespace Plachem

namespace WarRoom

variable {cfg : Config} {view : View} {db db' : DB} {env : Env} {req : Request}

/-- `_actor` finds the principal of the request, with the permission in the project. -/
def permitted (db : DB) (req : Request) (permission : Permission) (project_id : String) : Prop :=
  ∃ a, actor db req permission project_id = .ok a

theorem actor_eq_ok {permission : Permission} {project_id a : String} :
    actor db req permission project_id = .ok a ↔
      permitted db req permission project_id ∧ req.principal = some a := by
  have hp : ∀ b, actor db req permission project_id = .ok b → req.principal = some b := by
    intro b h
    unfold actor at h
    split at h
    · simp at h
    · simp at h
    · rename_i c hne hc
      rw [hc]
      split at h
      · simp at h
      · split at h
        · simp at h
        · split at h
          · exact congrArg some (Except.ok.inj h)
          · simp at h
  refine ⟨fun h => ⟨⟨a, h⟩, hp a h⟩, ?_⟩
  rintro ⟨⟨b, hb⟩, ha⟩
  have := hp b hb
  rw [ha] at this
  exact Option.some.inj this ▸ hb

/-! ## What an endpoint checks before the lookup -/

/-- The principal of the request is a representative. -/
def represented (cfg : Config) (req : Request) : Prop :=
  ∃ a, req.principal = some a ∧ require_representative cfg a = .ok ()

/-- The project is there and not archived, and the actor has the permission in it. -/
def managed (view : View) (req : Request) (permission : Permission) (project_id : String) : Prop :=
  (∃ p, project_or_404 (view .project) project_id = .ok p) ∧
    permitted (view .participants) req permission project_id ∧
    require_mutable_project (view .project) project_id = .ok ()

/-- The task is there, and the request is for it as it stands. -/
def bound_to (db : DB) (req : Request) (task_id : String) (p : Task → Prop) : Prop :=
  ∃ task, db.tasks.find task_id = some task ∧ validate_mutation_contract req task = .ok () ∧ p task

/-- The agents of a request for deliveries. -/
def delivery_agents (env : Env) (req : Request) : Except HttpError (List String) :=
  canonical_agents env (if req.absent "agent_ids" then
    some (.arr [(req.get? "agent_id").getD .null]) else req.get? "agent_ids")

namespace Endpoint

/-- The checks of the body alone. -/
def well_formed (req : Request) : Endpoint → Prop
  | create_project => ∃ name, project_name (req.get? "name") = .ok name
  | save_manyfast_reference _ _ =>
    (∃ version, nonblank ((req.get? "document_version").or (req.get? "manyfast_version")) =
      some version) ∧
    ∃ id, asText ((req.get? "manyfast_project_id").or (some (.str ""))) = some id
  | save_manyfast_snapshot _ => ∃ version, ((nonblank (req.get? "document_version")).filter fun _ =>
      match req.get? "snapshot" with
      | some (.obj _) => true
      | _ => false) = some version
  | add_participant _ => ∃ role, (if (req.get? "role").isNone then some .developer
      else role_of (req.text? "role")) = some role
  | update_participant _ _ =>
    (req.absent "role" ∨ (role_of (req.text? "role")).isSome) ∧
    (req.absent "active" ∨ bool_or_absent req "active") ∧
    ∀ c ∈ ["can_read", "can_comment", "can_approve", "can_execute"], bool_or_absent req c
  | bind_test_session _ _ => (((req.text? "session_key").any fun k => k.startsWith "test:") &&
      (req.absent "session_id" || (req.text? "session_id").isSome)) = true
  | create_message _ =>
    (∃ text, bounded_text 4096 (req.get? "body") = some text) ∧
    ∃ message_type, ((asText ((req.get? "message_type").or (some (.str "opinion")))).filter
      (· ∈ ["instruction", "opinion", "question", "decision", "result", "status", "system"])) =
        some message_type ∧ message_type ≠ "instruction"
  | prepare_task _ => (∃ text, bounded_text 4096 (req.get? "instruction") = some text) ∧
      ∃ mode, execution_mode (req.get? "execution_mode") = .ok mode
  | create_instruction_with_task _ => (∃ text, bounded_text 4096 (req.get? "body") = some text) ∧
      ∃ id, (req.text? "task_id").filter (· ≠ "") = some id
  | approve_task _ => ∃ decision, (match req.text? "decision" with
      | some "approved" => some Decision.approved
      | some "rejected" => some .rejected
      | _ => none) = some decision
  | assign_existing_task_reviewer _ => (∃ reason, bounded_text 1024 (req.get? "reason") = some reason) ∧
      ∃ n, (req.int? "task_revision").filter (decide <| 1 ≤ ·) = some n
  | transition_task _ => ∃ target, transition_target (req.text? "status") = some target ∧
      target ≠ .completed
  | supersede_task _ => (∃ id, nonblank (req.get? "replacement_task_id") = some id) ∧
      ∃ reason, bounded_text 1024 (req.get? "reason") = some reason
  | deliver_message _ => ∃ id, (req.text? "task_id").filter (· ≠ "") = some id
  | add_evidence _ => (∃ uri, ((req.text? "uri").filter fun s =>
      s.startsWith "/" && decide (s.toList.length ≤ 1024)) = some uri) ∧
      ∃ summary, (req.text? "summary").filter (decide <| ·.toList.length ≤ 4096) = some summary
  | qa_verdict _ => ∃ verdict, verdict_of (req.text? "verdict") = some verdict
  | representative_completion _ => ∃ decision, decision_of (req.text? "decision") = some decision
  | recover_qa_rework _ => (∃ id, nonblank (req.get? "core_run_id") = some id) ∧
      (∃ id, nonblank (req.get? "qa_verdict_id") = some id) ∧
      ∃ code, nonblank (req.get? "recovery_code") = some code
  | revalidate_task_result _ => ∃ id, nonblank (req.get? "core_run_id") = some id
  | _ => True

/-- The checks before the lookup that a replay can fail. -/
def rechecks (cfg : Config) (view : View) (db : DB) (env : Env) (req : Request) : Endpoint → Prop
  | create_project => ∃ a, req.principal = some a ∧
      ((view .participants).participants.rows.any fun p =>
        p.principal_id == a && p.role == .project_manager) = true
  | archive_project project_id => (∃ p, project_or_404 (view .project) project_id = .ok p) ∧
      permitted (view .participants) req .manage project_id
  | update_project project_id | save_manyfast_reference _ project_id
  | save_manyfast_snapshot project_id | register_project_document project_id =>
    managed view req .manage project_id
  | add_participant project_id =>
    (∃ a, (req.get? "principal_id").bind env.canonical_agent_id = some a) ∧
      managed view req .manage project_id
  | update_participant project_id agent_id | bind_test_session project_id agent_id =>
    (∃ a, env.canonical_agent_id (.str agent_id) = some a) ∧ managed view req .manage project_id
  | create_message project_id => managed view req .comment project_id ∧
      require_not_stopped (view .control) project_id = .ok ()
  | prepare_task project_id =>
    (∃ agents, canonical_agents env (req.get? "agent_ids") = .ok agents ∧ ∃ a ∈ agents,
      env.canonical_agent_id ((req.get? "assignee_agent_id").getD (.str (agents.headD ""))) = some a) ∧
    managed view req .manage project_id ∧ require_not_stopped db project_id = .ok ()
  | create_task project_id => managed view req .manage project_id ∧
      require_not_stopped (view .control) project_id = .ok ()
  | create_instruction_with_task project_id => managed view req .manage project_id ∧
      require_not_stopped db project_id = .ok ()
  | approve_task task_id => bound_to (view .task) req task_id fun task =>
      permitted (view .participants) req .approve task.project_id ∧ represented cfg req ∧
      require_mutable_project (view .project) task.project_id = .ok ()
  | revoke_approval task_id approval_id => ∃ task, (view .task).tasks.find task_id = some task ∧
      (∃ a, ((view .approval).approvals.find approval_id).filter (·.task_id == task_id) = some a) ∧
      permitted (view .participants) req .approve task.project_id
  | assign_existing_task_reviewer task_id =>
    (∃ a, (req.get? "reviewer_agent_id").bind env.canonical_agent_id = some a) ∧
    (∃ task, db.tasks.find task_id = some task) ∧
    ∃ task, (view .task).tasks.find task_id = some task ∧
      permitted (view .participants) req .manage task.project_id ∧ represented cfg req ∧
      require_mutable_project (view .project) task.project_id = .ok ()
  | transition_task task_id => bound_to (view .task) req task_id fun task =>
      (∀ target, transition_target (req.text? "status") = some target →
        permitted (view .participants) req
          (if target ∈ [.running, .stopped, .stop_unconfirmed, .qa] then Permission.execute
            else .manage) task.project_id) ∧
      require_mutable_project (view .project) task.project_id = .ok ()
  | supersede_task task_id => ∃ task, (view .task).tasks.find task_id = some task ∧
      permitted (view .participants) req .manage task.project_id ∧ represented cfg req ∧
      require_mutable_project (view .project) task.project_id = .ok ()
  | approve_and_execute_task task_id => bound_to (view .task) req task_id fun task =>
      permitted (view .participants) req .approve task.project_id ∧
      permitted (view .participants) req .execute task.project_id ∧ represented cfg req ∧
      require_mutable_project (view .project) task.project_id = .ok () ∧
      require_not_stopped db task.project_id = .ok ()
  | deliver_message message_id => ∃ message, (view .message).messages.find message_id = some message ∧
      permitted (view .participants) req .execute message.project_id ∧
      require_mutable_project (view .project) message.project_id = .ok () ∧
      require_not_stopped (view .control) message.project_id = .ok () ∧
      ∃ agents, delivery_agents env req = .ok agents ∧
      ∃ task, ((req.text? "task_id").bind fun id => ((view .task).tasks.find id).filter fun t =>
          t.source_message_id == some message_id) = some task ∧
        (∀ a ∈ agents, a ∈ (view .agents).agents task.id) ∧
        require_execution_agents (view .participants) env task.project_id agents = .ok () ∧
        task.status = .running ∧ task.deadline_at.any (decide <| env.now < ·) ∧
        task.document_version.getD "" ≠ "" ∧
        ((view .approval).approval task.id).any
          (approval_matches cfg env task ((view .agents).agents task.id)) ∧
        (calls_of (view .calls) task.id task.revision).call_count + agents.length ≤
          task.call_limit.getD 0 ∧
        (calls_of (view .calls) task.id task.revision).turn_count < task.turn_limit.getD 0 ∧
        ¬∃ d ∈ (view .active).deliveries.rows, d.agent_id ∈ agents ∧ d.active ∧
          (view .active).in_project task.project_id d.message_id
  | retry_delivery delivery_id => ∃ row, delivery_row (view .delivery) delivery_id = some row ∧
      permitted (view .participants) req .execute row.project_id ∧
      require_mutable_project (view .project) row.project_id = .ok () ∧
      require_not_stopped (view .control) row.project_id = .ok () ∧
      (row.delivery.status = .failed ∨ row.delivery.status = .timed_out) ∧
      ∃ agent_id, (if req.absent "agent_id" then some row.delivery.agent_id
        else (req.get? "agent_id").bind env.canonical_agent_id) = some agent_id ∧
        ∃ task_id ∈ row.task_id, agent_id ∈ (view .agents).agents task_id
  | add_evidence task_id => ∃ task, (view .task).tasks.find task_id = some task ∧
      permitted (view .participants) req .comment task.project_id ∧
      require_mutable_project (view .project) task.project_id = .ok () ∧
      require_not_stopped (view .control) task.project_id = .ok () ∧ task.status = .qa
  | qa_verdict task_id => (∃ a, (req.get? "qa_principal").bind env.canonical_agent_id = some a) ∧
      ∃ task, (view .task).tasks.find task_id = some task ∧
      permitted (view .participants) req .comment task.project_id
  | representative_completion task_id => ∃ task, (view .task).tasks.find task_id = some task ∧
      permitted (view .participants) req .manage task.project_id ∧ represented cfg req ∧
      require_mutable_project (view .project) task.project_id = .ok () ∧
      require_not_stopped (view .control) task.project_id = .ok ()
  | resume_task_qa task_id | recover_qa_rework task_id => bound_to db req task_id fun task =>
      permitted db req .execute task.project_id ∧ represented cfg req ∧
      require_mutable_project db task.project_id = .ok () ∧
      require_not_stopped db task.project_id = .ok ()
  | revalidate_task_result task_id => ∃ task, db.tasks.find task_id = some task ∧
      permitted db req .execute task.project_id ∧ represented cfg req
  | stop_project project_id | stop_ack project_id =>
    managed view req .execute project_id ∧ represented cfg req
  | resume_project project_id => managed view req .approve project_id ∧ represented cfg req
  | stop_task task_id => ∃ task, (view .task).tasks.find task_id = some task ∧
      permitted (view .participants) req .execute task.project_id ∧ represented cfg req ∧
      require_mutable_project (view .project) task.project_id = .ok ()
  | compile_executions project_id task_id =>
    (∃ p, project_or_404 (view .project) project_id = .ok p) ∧
      permitted (view .participants) req .execute project_id ∧
      (((view .task).tasks.find task_id).any fun t => t.project_id == project_id) = true
  | dispatch_execution execution_id | stop_execution execution_id =>
    ∃ unit, (view .runs).units.find execution_id = some unit ∧
      permitted (view .participants) req .execute unit.war_project_id

/-- The scope that the endpoint looks up. -/
def scope (env : Env) : Endpoint → Option String
  | create_project => some "POST:/projects"
  | archive_project project_id => some ("POST:/projects/" ++ project_id ++ "/archive")
  | update_project project_id => some ("PATCH:/projects/" ++ project_id)
  | save_manyfast_reference method project_id =>
    some (method ++ ":/projects/" ++ project_id ++ "/manyfast-reference")
  | save_manyfast_snapshot project_id =>
    some ("POST:/projects/" ++ project_id ++ "/manyfast-snapshot")
  | add_participant project_id => some ("POST:/projects/" ++ project_id ++ "/participants")
  | update_participant project_id agent_id => (env.canonical_agent_id (.str agent_id)).map
      ("PATCH:/projects/" ++ project_id ++ "/participants/" ++ ·)
  | bind_test_session project_id agent_id => (env.canonical_agent_id (.str agent_id)).map fun a =>
      "PUT:/projects/" ++ project_id ++ "/participants/" ++ a ++ "/test-session"
  | create_message project_id => some ("POST:/projects/" ++ project_id ++ "/messages")
  | register_project_document project_id =>
    some ("POST:/projects/" ++ project_id ++ "/documents/register")
  | prepare_task project_id => some ("POST:/projects/" ++ project_id ++ "/prepare")
  | create_task project_id => some ("POST:/projects/" ++ project_id ++ "/tasks")
  | create_instruction_with_task project_id =>
    some ("POST:/projects/" ++ project_id ++ "/instructions")
  | approve_task task_id => some ("POST:/tasks/" ++ task_id ++ "/approvals")
  | revoke_approval task_id approval_id =>
    some ("POST:/tasks/" ++ task_id ++ "/approvals/" ++ approval_id ++ "/revoke")
  | assign_existing_task_reviewer task_id => some ("POST:/tasks/" ++ task_id ++ "/reviewer")
  | transition_task task_id => some ("POST:/tasks/" ++ task_id ++ "/transition")
  | supersede_task task_id => some ("POST:/tasks/" ++ task_id ++ "/supersede")
  | approve_and_execute_task task_id => some ("POST:/tasks/" ++ task_id ++ "/approve-execute")
  | deliver_message message_id => some ("POST:/messages/" ++ message_id ++ "/deliveries")
  | retry_delivery delivery_id => some ("POST:/deliveries/" ++ delivery_id ++ "/retry")
  | add_evidence task_id => some ("POST:/tasks/" ++ task_id ++ "/evidence")
  | qa_verdict task_id => some ("POST:/tasks/" ++ task_id ++ "/qa-verdict")
  | representative_completion task_id =>
    some ("POST:/tasks/" ++ task_id ++ "/representative-completion")
  | resume_task_qa task_id => some ("POST:/tasks/" ++ task_id ++ "/resume-qa")
  | recover_qa_rework task_id => some ("POST:/tasks/" ++ task_id ++ "/recover-qa-rework")
  | revalidate_task_result task_id => some ("POST:/tasks/" ++ task_id ++ "/revalidate-result")
  | stop_project project_id => some ("POST:/projects/" ++ project_id ++ "/stop")
  | stop_task task_id => some ("POST:/tasks/" ++ task_id ++ "/stop")
  | stop_ack project_id => some ("POST:/projects/" ++ project_id ++ "/stop-ack")
  | resume_project project_id => some ("POST:/projects/" ++ project_id ++ "/resume")
  | compile_executions project_id task_id =>
    some ("POST:/projects/" ++ project_id ++ "/tasks/" ++ task_id ++ "/executions/compile")
  | dispatch_execution execution_id => some ("POST:/executions/" ++ execution_id ++ "/" ++ "dispatch")
  | stop_execution execution_id => some ("POST:/executions/" ++ execution_id ++ "/" ++ "stop")

/-- The payload that the endpoint looks up. -/
def payload (env : Env) (req : Request) : Endpoint → Option Dict
  | deliver_message _ => (delivery_agents env req).toOption.map fun agents =>
      req.body.set "agent_ids" ⟨.arr (agents.map .str), wf_texts agents⟩
  | _ => some req.body

/-- What a request looks up: its actor, the scope, and the payload. -/
def lookup (env : Env) (req : Request) (e : Endpoint) : Option Lookup :=
  req.principal.bind fun a => (e.scope env).bind fun s => (e.payload env req).map (⟨a, s, ·⟩)

end Endpoint

theorem represented_iff {a : String} (ha : req.principal = some a) :
    represented cfg req ↔ require_representative cfg a = .ok () := by
  simp [represented, ha]

set_option linter.unusedSimpArgs false in
/-- The call goes as far as its lookup if its body is well formed and the rechecks pass. -/
theorem before_iff {endpoint : Endpoint} {l : Lookup} :
    (∃ ctx, endpoint.handler.before cfg view db env req = .ok (l, ctx)) ↔
      endpoint.well_formed req ∧ endpoint.rechecks cfg view db env req ∧
        endpoint.lookup env req = some l := by
  cases endpoint with
  | create_project =>
    simp only [Endpoint.handler, create_project, Endpoint.well_formed, Endpoint.rechecks,
      Endpoint.lookup, Endpoint.scope, Endpoint.payload, bind_eq_ok, found_eq_ok, ensure_eq_ok,
      actor_eq_ok, pure_eq_ok, Prod.mk.injEq, exists_unit, Option.bind_some, Option.map_some,
      Option.bind_eq_some_iff, Option.map_eq_some_iff, Option.some.injEq, and_true, true_and]
    constructor
    · rintro ⟨_, name, hname, a, ha, hrole, rfl, -⟩
      exact ⟨⟨name, hname⟩, ⟨a, ha, hrole⟩, a, ha, rfl⟩
    · rintro ⟨⟨name, hname⟩, ⟨a, ha, hrole⟩, _, ha', rfl⟩
      obtain rfl := Option.some.inj (ha.symm.trans ha')
      exact ⟨_, name, hname, a, ha, hrole, rfl, rfl⟩
  | archive_project project_id =>
    simp only [Endpoint.handler, archive_project, project_or_404, Endpoint.well_formed,
      Endpoint.rechecks, Endpoint.lookup, Endpoint.scope, Endpoint.payload, bind_eq_ok, found_eq_ok,
      ensure_eq_ok, actor_eq_ok, pure_eq_ok, Prod.mk.injEq, exists_unit, Option.bind_some,
      Option.map_some, Option.bind_eq_some_iff, Option.map_eq_some_iff, Option.some.injEq, and_true,
      true_and]
    constructor
    · rintro ⟨p, hp, a, ⟨hactor, ha⟩, rfl⟩
      exact ⟨⟨⟨p, hp⟩, hactor⟩, a, ha, rfl⟩
    · rintro ⟨⟨⟨p, hp⟩, hactor⟩, a, ha, rfl⟩
      exact ⟨p, hp, a, ⟨hactor, ha⟩, rfl⟩
  | update_project project_id =>
    simp only [Endpoint.handler, update_project, manage_project, managed, project_or_404,
      Endpoint.well_formed, Endpoint.rechecks, Endpoint.lookup, Endpoint.scope, Endpoint.payload,
      bind_eq_ok, found_eq_ok, ensure_eq_ok, actor_eq_ok, pure_eq_ok, Prod.mk.injEq, exists_unit,
      Option.bind_some, Option.map_some, Option.bind_eq_some_iff, Option.map_eq_some_iff,
      Option.some.injEq, and_true, true_and]
    constructor
    · rintro ⟨_, p, hp, a, ⟨hactor, ha⟩, hopen, rfl, -⟩
      exact ⟨⟨⟨p, hp⟩, hactor, hopen⟩, a, ha, rfl⟩
    · rintro ⟨⟨⟨p, hp⟩, hactor, hopen⟩, a, ha, rfl⟩
      exact ⟨_, p, hp, a, ⟨hactor, ha⟩, hopen, rfl, rfl⟩
  | save_manyfast_reference method project_id =>
    simp only [Endpoint.handler, save_manyfast_reference, manage_project, managed, project_or_404,
      Endpoint.well_formed, Endpoint.rechecks, Endpoint.lookup, Endpoint.scope, Endpoint.payload,
      bind_eq_ok, found_eq_ok, ensure_eq_ok, actor_eq_ok, pure_eq_ok, Prod.mk.injEq, exists_unit,
      Option.bind_some, Option.map_some, Option.bind_eq_some_iff, Option.map_eq_some_iff,
      Option.some.injEq, and_true, true_and]
    constructor
    · rintro ⟨_, v, hv, id, hid, _, ⟨p, hp, a, ⟨hactor, ha⟩, hopen, rfl⟩, rfl, -⟩
      exact ⟨⟨⟨v, hv⟩, id, hid⟩, ⟨⟨p, hp⟩, hactor, hopen⟩, a, ha, rfl⟩
    · rintro ⟨⟨⟨v, hv⟩, id, hid⟩, ⟨⟨p, hp⟩, hactor, hopen⟩, a, ha, rfl⟩
      exact ⟨_, v, hv, id, hid, _, ⟨p, hp, a, ⟨hactor, ha⟩, hopen, rfl⟩, rfl, rfl⟩
  | save_manyfast_snapshot project_id =>
    simp only [Endpoint.handler, save_manyfast_snapshot, manage_project, managed, project_or_404,
      Endpoint.well_formed, Endpoint.rechecks, Endpoint.lookup, Endpoint.scope, Endpoint.payload,
      bind_eq_ok, found_eq_ok, ensure_eq_ok, actor_eq_ok, pure_eq_ok, Prod.mk.injEq, exists_unit,
      Option.bind_some, Option.map_some, Option.bind_eq_some_iff, Option.map_eq_some_iff,
      Option.some.injEq, and_true, true_and]
    constructor
    · rintro ⟨v, hv, _, ⟨p, hp, a, ⟨hactor, ha⟩, hopen, rfl⟩, rfl⟩
      exact ⟨⟨v, hv⟩, ⟨⟨p, hp⟩, hactor, hopen⟩, a, ha, rfl⟩
    · rintro ⟨⟨v, hv⟩, ⟨⟨p, hp⟩, hactor, hopen⟩, a, ha, rfl⟩
      exact ⟨v, hv, _, ⟨p, hp, a, ⟨hactor, ha⟩, hopen, rfl⟩, rfl⟩
  | add_participant project_id =>
    simp only [Endpoint.handler, add_participant, manage_project, managed, project_or_404,
      Endpoint.well_formed, Endpoint.rechecks, Endpoint.lookup, Endpoint.scope, Endpoint.payload,
      bind_eq_ok, found_eq_ok, ensure_eq_ok, actor_eq_ok, pure_eq_ok, Prod.mk.injEq, exists_unit,
      Option.bind_some, Option.map_some, Option.bind_eq_some_iff, Option.map_eq_some_iff,
      Option.some.injEq, and_true, true_and]
    constructor
    · rintro ⟨_, x, hx, role, hrole, _, ⟨p, hp, a, ⟨hactor, ha⟩, hopen, rfl⟩, rfl, -⟩
      exact ⟨⟨role, hrole⟩, ⟨⟨x, hx⟩, ⟨p, hp⟩, hactor, hopen⟩, a, ha, rfl⟩
    · rintro ⟨⟨role, hrole⟩, ⟨⟨x, hx⟩, ⟨p, hp⟩, hactor, hopen⟩, a, ha, rfl⟩
      exact ⟨_, x, hx, role, hrole, _, ⟨p, hp, a, ⟨hactor, ha⟩, hopen, rfl⟩, rfl, rfl⟩
  | update_participant project_id principal_id =>
    simp only [Endpoint.handler, update_participant, manage_project, managed, project_or_404,
      Endpoint.well_formed, Endpoint.rechecks, Endpoint.lookup, Endpoint.scope, Endpoint.payload,
      bind_eq_ok, found_eq_ok, ensure_eq_ok, actor_eq_ok, pure_eq_ok, Prod.mk.injEq, exists_unit,
      Option.bind_some, Option.map_some, Option.bind_eq_some_iff, Option.map_eq_some_iff,
      Option.some.injEq, and_true, true_and]
    constructor
    · rintro ⟨_, x, hx, hrole, hactive, hcaps, _, ⟨p, hp, a, ⟨hactor, ha⟩, hopen, rfl⟩, rfl, -⟩
      exact ⟨⟨hrole, hactive, hcaps⟩, ⟨⟨x, hx⟩, ⟨p, hp⟩, hactor, hopen⟩, a, ha, _, ⟨x, hx, rfl⟩,
        rfl⟩
    · rintro ⟨⟨hrole, hactive, hcaps⟩, ⟨-, ⟨p, hp⟩, hactor, hopen⟩, a, ha, _, ⟨x, hx, rfl⟩, rfl⟩
      exact ⟨_, x, hx, hrole, hactive, hcaps, _, ⟨p, hp, a, ⟨hactor, ha⟩, hopen, rfl⟩, rfl, rfl⟩
  | bind_test_session project_id agent_id =>
    simp only [Endpoint.handler, bind_test_session, manage_project, managed, project_or_404,
      Option.filter_eq_some_iff, Endpoint.well_formed, Endpoint.rechecks, Endpoint.lookup,
      Endpoint.scope, Endpoint.payload, bind_eq_ok, found_eq_ok, ensure_eq_ok, actor_eq_ok,
      pure_eq_ok, Prod.mk.injEq, exists_unit, Option.bind_some, Option.map_some,
      Option.bind_eq_some_iff, Option.map_eq_some_iff, Option.some.injEq, and_true, true_and]
    constructor
    · rintro ⟨_, x, ⟨hx, hsession⟩, _, ⟨p, hp, a, ⟨hactor, ha⟩, hopen, rfl⟩, rfl, -⟩
      exact ⟨hsession, ⟨⟨x, hx⟩, ⟨p, hp⟩, hactor, hopen⟩, a, ha, _, ⟨x, hx, rfl⟩, rfl⟩
    · rintro ⟨hsession, ⟨-, ⟨p, hp⟩, hactor, hopen⟩, a, ha, _, ⟨x, hx, rfl⟩, rfl⟩
      exact ⟨_, x, ⟨hx, hsession⟩, _, ⟨p, hp, a, ⟨hactor, ha⟩, hopen, rfl⟩, rfl, rfl⟩
  | create_message project_id =>
    simp only [Endpoint.handler, create_message, manage_project, managed, project_or_404,
      Endpoint.well_formed, Endpoint.rechecks, Endpoint.lookup, Endpoint.scope, Endpoint.payload,
      bind_eq_ok, found_eq_ok, ensure_eq_ok, actor_eq_ok, pure_eq_ok, Prod.mk.injEq, exists_unit,
      Option.bind_some, Option.map_some, Option.bind_eq_some_iff, Option.map_eq_some_iff,
      Option.some.injEq, and_true, true_and]
    constructor
    · rintro ⟨_, text, ht, kind, hk, hne, _, ⟨p, hp, a, ⟨hactor, ha⟩, hopen, rfl⟩, hrun, rfl, -⟩
      exact ⟨⟨⟨text, ht⟩, kind, hk, hne⟩, ⟨⟨⟨p, hp⟩, hactor, hopen⟩, hrun⟩, a, ha, rfl⟩
    · rintro ⟨⟨⟨text, ht⟩, kind, hk, hne⟩, ⟨⟨⟨p, hp⟩, hactor, hopen⟩, hrun⟩, a, ha, rfl⟩
      exact ⟨_, text, ht, kind, hk, hne, _, ⟨p, hp, a, ⟨hactor, ha⟩, hopen, rfl⟩, hrun, rfl, rfl⟩
  | register_project_document project_id =>
    simp only [Endpoint.handler, register_project_document, manage_project, managed, project_or_404,
      Endpoint.well_formed, Endpoint.rechecks, Endpoint.lookup, Endpoint.scope, Endpoint.payload,
      bind_eq_ok, found_eq_ok, ensure_eq_ok, actor_eq_ok, pure_eq_ok, Prod.mk.injEq, exists_unit,
      Option.bind_some, Option.map_some, Option.bind_eq_some_iff, Option.map_eq_some_iff,
      Option.some.injEq, and_true, true_and]
    constructor
    · rintro ⟨_, ⟨p, hp, a, ⟨hactor, ha⟩, hopen, rfl⟩, rfl⟩
      exact ⟨⟨⟨p, hp⟩, hactor, hopen⟩, a, ha, rfl⟩
    · rintro ⟨⟨⟨p, hp⟩, hactor, hopen⟩, a, ha, rfl⟩
      exact ⟨_, ⟨p, hp, a, ⟨hactor, ha⟩, hopen, rfl⟩, rfl⟩
  | prepare_task project_id =>
    simp only [Endpoint.handler, prepare_task, managed, project_or_404, Endpoint.well_formed,
      Endpoint.rechecks, Endpoint.lookup, Endpoint.scope, Endpoint.payload, bind_eq_ok, found_eq_ok,
      ensure_eq_ok, actor_eq_ok, pure_eq_ok, Prod.mk.injEq, exists_unit, Option.bind_some,
      Option.map_some, Option.bind_eq_some_iff, Option.map_eq_some_iff, Option.some.injEq, and_true,
      true_and]
    constructor
    · rintro ⟨_, text, ht, agents, hagents, mode, hmode, hassignee, p, hp, a, ⟨hactor, ha⟩, hopen,
        hrun, rfl, -⟩
      exact ⟨⟨⟨text, ht⟩, mode, hmode⟩, ⟨⟨agents, hagents, hassignee⟩, ⟨⟨p, hp⟩, hactor, hopen⟩,
        hrun⟩, a, ha, rfl⟩
    · rintro ⟨⟨⟨text, ht⟩, mode, hmode⟩, ⟨⟨agents, hagents, hassignee⟩, ⟨⟨p, hp⟩, hactor, hopen⟩,
        hrun⟩, a, ha, rfl⟩
      exact ⟨_, text, ht, agents, hagents, mode, hmode, hassignee, p, hp, a, ⟨hactor, ha⟩, hopen,
        hrun, rfl, rfl⟩
  | create_task project_id =>
    simp only [Endpoint.handler, create_task, managed, project_or_404, Endpoint.well_formed,
      Endpoint.rechecks, Endpoint.lookup, Endpoint.scope, Endpoint.payload, bind_eq_ok, found_eq_ok,
      ensure_eq_ok, actor_eq_ok, pure_eq_ok, Prod.mk.injEq, exists_unit, Option.bind_some,
      Option.map_some, Option.bind_eq_some_iff, Option.map_eq_some_iff, Option.some.injEq, and_true,
      true_and]
    constructor
    · rintro ⟨_, p, hp, a, ⟨hactor, ha⟩, hopen, hrun, rfl, -⟩
      exact ⟨⟨⟨⟨p, hp⟩, hactor, hopen⟩, hrun⟩, a, ha, rfl⟩
    · rintro ⟨⟨⟨⟨p, hp⟩, hactor, hopen⟩, hrun⟩, a, ha, rfl⟩
      exact ⟨_, p, hp, a, ⟨hactor, ha⟩, hopen, hrun, rfl, rfl⟩
  | create_instruction_with_task project_id =>
    simp only [Endpoint.handler, create_instruction_with_task, managed, project_or_404,
      Endpoint.well_formed, Endpoint.rechecks, Endpoint.lookup, Endpoint.scope, Endpoint.payload,
      bind_eq_ok, found_eq_ok, ensure_eq_ok, actor_eq_ok, pure_eq_ok, Prod.mk.injEq, exists_unit,
      Option.bind_some, Option.map_some, Option.bind_eq_some_iff, Option.map_eq_some_iff,
      Option.some.injEq, and_true, true_and]
    constructor
    · rintro ⟨_, text, ht, id, hid, p, hp, a, ⟨hactor, ha⟩, hopen, hrun, rfl, -⟩
      exact ⟨⟨⟨text, ht⟩, id, hid⟩, ⟨⟨⟨p, hp⟩, hactor, hopen⟩, hrun⟩, a, ha, rfl⟩
    · rintro ⟨⟨⟨text, ht⟩, id, hid⟩, ⟨⟨⟨p, hp⟩, hactor, hopen⟩, hrun⟩, a, ha, rfl⟩
      exact ⟨_, text, ht, id, hid, p, hp, a, ⟨hactor, ha⟩, hopen, hrun, rfl, rfl⟩
  | approve_task task_id =>
    simp only [Endpoint.handler, approve_task, bound_to, Endpoint.well_formed, Endpoint.rechecks,
      Endpoint.lookup, Endpoint.scope, Endpoint.payload, bind_eq_ok, found_eq_ok, ensure_eq_ok,
      actor_eq_ok, pure_eq_ok, Prod.mk.injEq, exists_unit, Option.bind_some, Option.map_some,
      Option.bind_eq_some_iff, Option.map_eq_some_iff, Option.some.injEq, and_true, true_and]
    constructor
    · rintro ⟨_, d, hd, t, ht, hbound, a, ⟨hactor, ha⟩, hrep, hopen, rfl, -⟩
      exact ⟨⟨d, hd⟩, ⟨t, ht, hbound, hactor, ⟨a, ha, hrep⟩, hopen⟩, a, ha, rfl⟩
    · rintro ⟨⟨d, hd⟩, ⟨t, ht, hbound, hactor, hrep, hopen⟩, a, ha, rfl⟩
      exact ⟨_, d, hd, t, ht, hbound, a, ⟨hactor, ha⟩, (represented_iff ha).mp hrep, hopen, rfl,
        rfl⟩
  | revoke_approval task_id approval_id =>
    simp only [Endpoint.handler, revoke_approval, Endpoint.well_formed, Endpoint.rechecks,
      Endpoint.lookup, Endpoint.scope, Endpoint.payload, bind_eq_ok, found_eq_ok, ensure_eq_ok,
      actor_eq_ok, pure_eq_ok, Prod.mk.injEq, exists_unit, Option.bind_some, Option.map_some,
      Option.bind_eq_some_iff, Option.map_eq_some_iff, Option.some.injEq, and_true, true_and]
    constructor
    · rintro ⟨_, t, ht, x, hx, a, ⟨hactor, ha⟩, rfl, -⟩
      exact ⟨⟨t, ht, ⟨x, hx⟩, hactor⟩, a, ha, rfl⟩
    · rintro ⟨⟨t, ht, ⟨x, hx⟩, hactor⟩, a, ha, rfl⟩
      exact ⟨_, t, ht, x, hx, a, ⟨hactor, ha⟩, rfl, rfl⟩
  | assign_existing_task_reviewer task_id =>
    simp only [Endpoint.handler, assign_existing_task_reviewer, Endpoint.well_formed,
      Endpoint.rechecks, Endpoint.lookup, Endpoint.scope, Endpoint.payload, bind_eq_ok, found_eq_ok,
      ensure_eq_ok, actor_eq_ok, pure_eq_ok, Prod.mk.injEq, exists_unit, Option.bind_some,
      Option.map_some, Option.bind_eq_some_iff, Option.map_eq_some_iff, Option.some.injEq, and_true,
      true_and]
    constructor
    · rintro ⟨_, x, hx, reason, hreason, n, hn, t, ht, a, ⟨hactor, ha⟩, hrep, hopen, q, hq, rfl, -⟩
      exact ⟨⟨⟨reason, hreason⟩, n, hn⟩, ⟨⟨x, hx⟩, ⟨q, hq⟩, t, ht, hactor, ⟨a, ha, hrep⟩, hopen⟩, a,
        ha, rfl⟩
    · rintro ⟨⟨⟨reason, hreason⟩, n, hn⟩, ⟨⟨x, hx⟩, ⟨q, hq⟩, t, ht, hactor, hrep, hopen⟩, a, ha,
        rfl⟩
      exact ⟨_, x, hx, reason, hreason, n, hn, t, ht, a, ⟨hactor, ha⟩, (represented_iff ha).mp hrep,
        hopen, q, hq, rfl, rfl⟩
  | transition_task task_id =>
    simp only [Endpoint.handler, transition_task, bound_to, Endpoint.well_formed, Endpoint.rechecks,
      Endpoint.lookup, Endpoint.scope, Endpoint.payload, bind_eq_ok, found_eq_ok, ensure_eq_ok,
      actor_eq_ok, pure_eq_ok, Prod.mk.injEq, exists_unit, Option.bind_some, Option.map_some,
      Option.bind_eq_some_iff, Option.map_eq_some_iff, Option.some.injEq, and_true, true_and]
    constructor
    · rintro ⟨_, x, hx, hne, t, ht, hbound, a, ⟨hactor, ha⟩, hopen, rfl, -⟩
      exact ⟨⟨x, hx, hne⟩, ⟨t, ht, hbound, fun y hy => Option.some.inj (hx.symm.trans hy) ▸ hactor,
        hopen⟩, a, ha, rfl⟩
    · rintro ⟨⟨x, hx, hne⟩, ⟨t, ht, hbound, hactor, hopen⟩, a, ha, rfl⟩
      exact ⟨_, x, hx, hne, t, ht, hbound, a, ⟨hactor x hx, ha⟩, hopen, rfl, rfl⟩
  | supersede_task task_id =>
    simp only [Endpoint.handler, supersede_task, Endpoint.well_formed, Endpoint.rechecks,
      Endpoint.lookup, Endpoint.scope, Endpoint.payload, bind_eq_ok, found_eq_ok, ensure_eq_ok,
      actor_eq_ok, pure_eq_ok, Prod.mk.injEq, exists_unit, Option.bind_some, Option.map_some,
      Option.bind_eq_some_iff, Option.map_eq_some_iff, Option.some.injEq, and_true, true_and]
    constructor
    · rintro ⟨_, x, hx, reason, hreason, t, ht, a, ⟨hactor, ha⟩, hrep, hopen, rfl, -⟩
      exact ⟨⟨⟨x, hx⟩, reason, hreason⟩, ⟨t, ht, hactor, ⟨a, ha, hrep⟩, hopen⟩, a, ha, rfl⟩
    · rintro ⟨⟨⟨x, hx⟩, reason, hreason⟩, ⟨t, ht, hactor, hrep, hopen⟩, a, ha, rfl⟩
      exact ⟨_, x, hx, reason, hreason, t, ht, a, ⟨hactor, ha⟩, (represented_iff ha).mp hrep, hopen,
        rfl, rfl⟩
  | approve_and_execute_task task_id =>
    simp only [Endpoint.handler, approve_and_execute_task, bound_to, Endpoint.well_formed,
      Endpoint.rechecks, Endpoint.lookup, Endpoint.scope, Endpoint.payload, bind_eq_ok, found_eq_ok,
      ensure_eq_ok, actor_eq_ok, pure_eq_ok, Prod.mk.injEq, exists_unit, Option.bind_some,
      Option.map_some, Option.bind_eq_some_iff, Option.map_eq_some_iff, Option.some.injEq, and_true,
      true_and]
    constructor
    · rintro ⟨_, t, ht, hbound, a, ⟨hactor, ha⟩, b, ⟨hexecute, -⟩, hrep, hopen, hrun, rfl, -⟩
      exact ⟨⟨t, ht, hbound, hactor, hexecute, ⟨a, ha, hrep⟩, hopen, hrun⟩, a, ha, rfl⟩
    · rintro ⟨⟨t, ht, hbound, hactor, hexecute, hrep, hopen, hrun⟩, a, ha, rfl⟩
      exact ⟨_, t, ht, hbound, a, ⟨hactor, ha⟩, a, ⟨hexecute, ha⟩, (represented_iff ha).mp hrep,
        hopen, hrun, rfl, rfl⟩
  | deliver_message message_id =>
    simp only [Endpoint.handler, deliver_message, Endpoint.well_formed, Endpoint.rechecks,
      Endpoint.lookup, Endpoint.scope, Endpoint.payload, delivery_agents, bind_eq_ok, found_eq_ok,
      ensure_eq_ok, actor_eq_ok, pure_eq_ok, Prod.mk.injEq, exists_unit, Option.bind_some,
      Option.bind_eq_some_iff, Option.map_eq_some_iff]
    constructor
    · rintro ⟨_, agents, hagents, message, hmessage, a, ⟨hactor, ha⟩, hopen, hrun, id, hid, t, ht, hchecks⟩
      obtain ⟨hallowed, hcapable, hstatus, hdeadline, hdocument, happroval, hcalls, hturns, hidle, rfl,
        -⟩ := hchecks
      have hid' : req.text? "task_id" = some id := (Option.filter_eq_some_iff.mp hid).1
      exact ⟨⟨id, hid⟩, ⟨message, hmessage, hactor, hopen, hrun, agents, hagents, t, ⟨id, hid', ht⟩,
        hallowed, hcapable, hstatus, hdeadline, hdocument, happroval, hcalls, hturns, hidle⟩, a, ha, _,
        ⟨agents, by rw [hagents]; rfl, rfl⟩, rfl⟩
    · rintro ⟨⟨id, hid⟩, ⟨message, hmessage, hactor, hopen, hrun, agents, hagents, t, ⟨id', hid', ht⟩,
        hallowed, hcapable, hstatus, hdeadline, hdocument, happroval, hcalls, hturns, hidle⟩, a, ha, _,
        ⟨agents', hagents', rfl⟩, rfl⟩
      obtain rfl := Option.some.inj ((Option.filter_eq_some_iff.mp hid).1.symm.trans hid')
      rw [hagents] at hagents'
      obtain rfl := Option.some.inj hagents'
      exact ⟨_, agents, hagents, message, hmessage, a, ⟨hactor, ha⟩, hopen, hrun, id, hid, t, ht,
        hallowed, hcapable, hstatus, hdeadline, hdocument, happroval, hcalls, hturns, hidle, rfl, rfl⟩
  | retry_delivery delivery_id =>
    simp only [Endpoint.handler, retry_delivery, Endpoint.well_formed, Endpoint.rechecks,
      Endpoint.lookup, Endpoint.scope, Endpoint.payload, bind_eq_ok, found_eq_ok, ensure_eq_ok,
      actor_eq_ok, pure_eq_ok, Prod.mk.injEq, exists_unit, Option.bind_some, Option.map_some,
      Option.bind_eq_some_iff, Option.map_eq_some_iff, Option.some.injEq, and_true, true_and]
    constructor
    · rintro ⟨_, row, hrow, a, ⟨hactor, ha⟩, hopen, hrun, hstatus, x, hx, hallowed, rfl, -⟩
      exact ⟨⟨row, hrow, hactor, hopen, hrun, hstatus, x, hx, hallowed⟩, a, ha, rfl⟩
    · rintro ⟨⟨row, hrow, hactor, hopen, hrun, hstatus, x, hx, hallowed⟩, a, ha, rfl⟩
      exact ⟨_, row, hrow, a, ⟨hactor, ha⟩, hopen, hrun, hstatus, x, hx, hallowed, rfl, rfl⟩
  | add_evidence task_id =>
    simp only [Endpoint.handler, add_evidence, Endpoint.well_formed, Endpoint.rechecks,
      Endpoint.lookup, Endpoint.scope, Endpoint.payload, bind_eq_ok, found_eq_ok, ensure_eq_ok,
      actor_eq_ok, pure_eq_ok, Prod.mk.injEq, exists_unit, Option.bind_some, Option.map_some,
      Option.bind_eq_some_iff, Option.map_eq_some_iff, Option.some.injEq, and_true, true_and]
    constructor
    · rintro ⟨_, uri, huri, summary, hsummary, t, ht, a, ⟨hactor, ha⟩, hopen, hrun, hqa, rfl, -⟩
      exact ⟨⟨⟨uri, huri⟩, summary, hsummary⟩, ⟨t, ht, hactor, hopen, hrun, hqa⟩, a, ha, rfl⟩
    · rintro ⟨⟨⟨uri, huri⟩, summary, hsummary⟩, ⟨t, ht, hactor, hopen, hrun, hqa⟩, a, ha, rfl⟩
      exact ⟨_, uri, huri, summary, hsummary, t, ht, a, ⟨hactor, ha⟩, hopen, hrun, hqa, rfl, rfl⟩
  | qa_verdict task_id =>
    simp only [Endpoint.handler, qa_verdict, Endpoint.well_formed, Endpoint.rechecks,
      Endpoint.lookup, Endpoint.scope, Endpoint.payload, bind_eq_ok, found_eq_ok, ensure_eq_ok,
      actor_eq_ok, pure_eq_ok, Prod.mk.injEq, exists_unit, Option.bind_some, Option.map_some,
      Option.bind_eq_some_iff, Option.map_eq_some_iff, Option.some.injEq, and_true, true_and]
    constructor
    · rintro ⟨_, v, hv, x, hx, t, ht, a, ⟨hactor, ha⟩, rfl, -⟩
      exact ⟨⟨v, hv⟩, ⟨⟨x, hx⟩, t, ht, hactor⟩, a, ha, rfl⟩
    · rintro ⟨⟨v, hv⟩, ⟨⟨x, hx⟩, t, ht, hactor⟩, a, ha, rfl⟩
      exact ⟨_, v, hv, x, hx, t, ht, a, ⟨hactor, ha⟩, rfl, rfl⟩
  | representative_completion task_id =>
    simp only [Endpoint.handler, representative_completion, Endpoint.well_formed, Endpoint.rechecks,
      Endpoint.lookup, Endpoint.scope, Endpoint.payload, bind_eq_ok, found_eq_ok, ensure_eq_ok,
      actor_eq_ok, pure_eq_ok, Prod.mk.injEq, exists_unit, Option.bind_some, Option.map_some,
      Option.bind_eq_some_iff, Option.map_eq_some_iff, Option.some.injEq, and_true, true_and]
    constructor
    · rintro ⟨_, d, hd, t, ht, b, hb, hrep, a, ⟨hactor, ha⟩, hopen, hrun, rfl, -⟩
      exact ⟨⟨d, hd⟩, ⟨t, ht, hactor, ⟨b, hb, hrep⟩, hopen, hrun⟩, a, ha, rfl⟩
    · rintro ⟨⟨d, hd⟩, ⟨t, ht, hactor, hrep, hopen, hrun⟩, a, ha, rfl⟩
      exact ⟨_, d, hd, t, ht, a, ha, (represented_iff ha).mp hrep, a, ⟨hactor, ha⟩, hopen, hrun,
        rfl, rfl⟩
  | resume_task_qa task_id =>
    simp only [Endpoint.handler, resume_task_qa, bound_to, Endpoint.well_formed, Endpoint.rechecks,
      Endpoint.lookup, Endpoint.scope, Endpoint.payload, bind_eq_ok, found_eq_ok, ensure_eq_ok,
      actor_eq_ok, pure_eq_ok, Prod.mk.injEq, exists_unit, Option.bind_some, Option.map_some,
      Option.bind_eq_some_iff, Option.map_eq_some_iff, Option.some.injEq, and_true, true_and]
    constructor
    · rintro ⟨_, t, ht, hbound, a, ⟨hactor, ha⟩, hrep, hopen, hrun, rfl, -⟩
      exact ⟨⟨t, ht, hbound, hactor, ⟨a, ha, hrep⟩, hopen, hrun⟩, a, ha, rfl⟩
    · rintro ⟨⟨t, ht, hbound, hactor, hrep, hopen, hrun⟩, a, ha, rfl⟩
      exact ⟨_, t, ht, hbound, a, ⟨hactor, ha⟩, (represented_iff ha).mp hrep, hopen, hrun, rfl, rfl⟩
  | recover_qa_rework task_id =>
    simp only [Endpoint.handler, recover_qa_rework, bound_to, Endpoint.well_formed,
      Endpoint.rechecks, Endpoint.lookup, Endpoint.scope, Endpoint.payload, bind_eq_ok, found_eq_ok,
      ensure_eq_ok, actor_eq_ok, pure_eq_ok, Prod.mk.injEq, exists_unit, Option.bind_some,
      Option.map_some, Option.bind_eq_some_iff, Option.map_eq_some_iff, Option.some.injEq, and_true,
      true_and]
    constructor
    · rintro ⟨_, x, hx, y, hy, z, hz, t, ht, hbound, a, ⟨hactor, ha⟩, hrep, hopen, hrun, rfl, -⟩
      exact ⟨⟨⟨x, hx⟩, ⟨y, hy⟩, z, hz⟩, ⟨t, ht, hbound, hactor, ⟨a, ha, hrep⟩, hopen, hrun⟩, a, ha,
        rfl⟩
    · rintro ⟨⟨⟨x, hx⟩, ⟨y, hy⟩, z, hz⟩, ⟨t, ht, hbound, hactor, hrep, hopen, hrun⟩, a, ha, rfl⟩
      exact ⟨_, x, hx, y, hy, z, hz, t, ht, hbound, a, ⟨hactor, ha⟩, (represented_iff ha).mp hrep,
        hopen, hrun, rfl, rfl⟩
  | revalidate_task_result task_id =>
    simp only [Endpoint.handler, revalidate_task_result, Endpoint.well_formed, Endpoint.rechecks,
      Endpoint.lookup, Endpoint.scope, Endpoint.payload, bind_eq_ok, found_eq_ok, ensure_eq_ok,
      actor_eq_ok, pure_eq_ok, Prod.mk.injEq, exists_unit, Option.bind_some, Option.map_some,
      Option.bind_eq_some_iff, Option.map_eq_some_iff, Option.some.injEq, and_true, true_and]
    constructor
    · rintro ⟨_, x, hx, t, ht, a, ⟨hactor, ha⟩, hrep, rfl, -⟩
      exact ⟨⟨x, hx⟩, ⟨t, ht, hactor, a, ha, hrep⟩, a, ha, rfl⟩
    · rintro ⟨⟨x, hx⟩, ⟨t, ht, hactor, hrep⟩, a, ha, rfl⟩
      exact ⟨_, x, hx, t, ht, a, ⟨hactor, ha⟩, (represented_iff ha).mp hrep, rfl, rfl⟩
  | stop_project project_id =>
    simp only [Endpoint.handler, stop_project, managed, project_or_404, Endpoint.well_formed,
      Endpoint.rechecks, Endpoint.lookup, Endpoint.scope, Endpoint.payload, bind_eq_ok, found_eq_ok,
      ensure_eq_ok, actor_eq_ok, pure_eq_ok, Prod.mk.injEq, exists_unit, Option.bind_some,
      Option.map_some, Option.bind_eq_some_iff, Option.map_eq_some_iff, Option.some.injEq, and_true,
      true_and]
    constructor
    · rintro ⟨p, hp, a, ⟨hactor, ha⟩, hrep, hopen, rfl⟩
      exact ⟨⟨⟨⟨p, hp⟩, hactor, hopen⟩, a, ha, hrep⟩, a, ha, rfl⟩
    · rintro ⟨⟨⟨⟨p, hp⟩, hactor, hopen⟩, hrep⟩, a, ha, rfl⟩
      exact ⟨p, hp, a, ⟨hactor, ha⟩, (represented_iff ha).mp hrep, hopen, rfl⟩
  | stop_task task_id =>
    simp only [Endpoint.handler, stop_task, Endpoint.well_formed, Endpoint.rechecks,
      Endpoint.lookup, Endpoint.scope, Endpoint.payload, bind_eq_ok, found_eq_ok, ensure_eq_ok,
      actor_eq_ok, pure_eq_ok, Prod.mk.injEq, exists_unit, Option.bind_some, Option.map_some,
      Option.bind_eq_some_iff, Option.map_eq_some_iff, Option.some.injEq, and_true, true_and]
    constructor
    · rintro ⟨_, t, ht, a, ⟨hactor, ha⟩, hrep, hopen, rfl, -⟩
      exact ⟨⟨t, ht, hactor, ⟨a, ha, hrep⟩, hopen⟩, a, ha, rfl⟩
    · rintro ⟨⟨t, ht, hactor, hrep, hopen⟩, a, ha, rfl⟩
      exact ⟨_, t, ht, a, ⟨hactor, ha⟩, (represented_iff ha).mp hrep, hopen, rfl, rfl⟩
  | stop_ack project_id =>
    simp only [Endpoint.handler, stop_ack, managed, project_or_404, Endpoint.well_formed,
      Endpoint.rechecks, Endpoint.lookup, Endpoint.scope, Endpoint.payload, bind_eq_ok, found_eq_ok,
      ensure_eq_ok, actor_eq_ok, pure_eq_ok, Prod.mk.injEq, exists_unit, Option.bind_some,
      Option.map_some, Option.bind_eq_some_iff, Option.map_eq_some_iff, Option.some.injEq, and_true,
      true_and]
    constructor
    · rintro ⟨p, hp, a, ⟨hactor, ha⟩, hrep, hopen, rfl⟩
      exact ⟨⟨⟨⟨p, hp⟩, hactor, hopen⟩, a, ha, hrep⟩, a, ha, rfl⟩
    · rintro ⟨⟨⟨⟨p, hp⟩, hactor, hopen⟩, hrep⟩, a, ha, rfl⟩
      exact ⟨p, hp, a, ⟨hactor, ha⟩, (represented_iff ha).mp hrep, hopen, rfl⟩
  | resume_project project_id =>
    simp only [Endpoint.handler, resume_project, managed, project_or_404, Endpoint.well_formed,
      Endpoint.rechecks, Endpoint.lookup, Endpoint.scope, Endpoint.payload, bind_eq_ok, found_eq_ok,
      ensure_eq_ok, actor_eq_ok, pure_eq_ok, Prod.mk.injEq, exists_unit, Option.bind_some,
      Option.map_some, Option.bind_eq_some_iff, Option.map_eq_some_iff, Option.some.injEq, and_true,
      true_and]
    constructor
    · rintro ⟨p, hp, a, ⟨hactor, ha⟩, hrep, hopen, rfl⟩
      exact ⟨⟨⟨⟨p, hp⟩, hactor, hopen⟩, a, ha, hrep⟩, a, ha, rfl⟩
    · rintro ⟨⟨⟨⟨p, hp⟩, hactor, hopen⟩, hrep⟩, a, ha, rfl⟩
      exact ⟨p, hp, a, ⟨hactor, ha⟩, (represented_iff ha).mp hrep, hopen, rfl⟩
  | compile_executions project_id task_id =>
    simp only [Endpoint.handler, compile_executions, project_or_404, Endpoint.well_formed,
      Endpoint.rechecks, Endpoint.lookup, Endpoint.scope, Endpoint.payload, bind_eq_ok, found_eq_ok,
      ensure_eq_ok, actor_eq_ok, pure_eq_ok, Prod.mk.injEq, exists_unit, Option.bind_some,
      Option.map_some, Option.bind_eq_some_iff, Option.map_eq_some_iff, Option.some.injEq, and_true,
      true_and]
    constructor
    · rintro ⟨p, hp, a, ⟨hactor, ha⟩, ht, rfl⟩
      exact ⟨⟨⟨p, hp⟩, hactor, ht⟩, a, ha, rfl⟩
    · rintro ⟨⟨⟨p, hp⟩, hactor, ht⟩, a, ha, rfl⟩
      exact ⟨p, hp, a, ⟨hactor, ha⟩, ht, rfl⟩
  | dispatch_execution execution_id =>
    simp only [Endpoint.handler, dispatch_execution, execution_endpoint, Endpoint.well_formed,
      Endpoint.rechecks, Endpoint.lookup, Endpoint.scope, Endpoint.payload, bind_eq_ok, found_eq_ok,
      ensure_eq_ok, actor_eq_ok, pure_eq_ok, Prod.mk.injEq, exists_unit, Option.bind_some,
      Option.map_some, Option.bind_eq_some_iff, Option.map_eq_some_iff, Option.some.injEq, and_true,
      true_and]
    constructor
    · rintro ⟨u, hu, a, ⟨hactor, ha⟩, rfl⟩
      exact ⟨⟨u, hu, hactor⟩, a, ha, rfl⟩
    · rintro ⟨⟨u, hu, hactor⟩, a, ha, rfl⟩
      exact ⟨u, hu, a, ⟨hactor, ha⟩, rfl⟩
  | stop_execution execution_id =>
    simp only [Endpoint.handler, stop_execution, execution_endpoint, Endpoint.well_formed,
      Endpoint.rechecks, Endpoint.lookup, Endpoint.scope, Endpoint.payload, bind_eq_ok, found_eq_ok,
      ensure_eq_ok, actor_eq_ok, pure_eq_ok, Prod.mk.injEq, exists_unit, Option.bind_some,
      Option.map_some, Option.bind_eq_some_iff, Option.map_eq_some_iff, Option.some.injEq, and_true,
      true_and]
    constructor
    · rintro ⟨u, hu, a, ⟨hactor, ha⟩, rfl⟩
      exact ⟨⟨u, hu, hactor⟩, a, ha, rfl⟩
    · rintro ⟨⟨u, hu, hactor⟩, a, ha, rfl⟩
      exact ⟨u, hu, a, ⟨hactor, ha⟩, rfl⟩

/-! ## The key of a call stays -/

/-- A key that is saved stays, with its payload and its response. -/
theorem keys_write {w : World} {l : Label} {k : IdempotencyKey} (h : Write cfg w l db db')
    (hk : k ∈ db.keys) : k ∈ db'.keys := by
  cases h with
  | insert_key q hins => exact (Table.mem_insert hins).mpr (.inl hk)
  | _ => exact hk

/-- What a first call saves. -/
theorem handle_saves {h : Handler} {resp : Json}
    (hh : h.handle cfg view db env req = .ok (some db', resp)) :
    ∃ l ctx key, h.before cfg view db env req = .ok (l, ctx) ∧ req.idempotency_key = some key ∧
      ¬(key = "" ∨ 128 < key.toList.length) ∧
      ⟨l.actor, l.scope, key, cfg.request_hash l.payload, resp⟩ ∈ db'.keys := by
  obtain ⟨l, ctx, db₁, hb, hidem, -, hs⟩ := handle_eq_ok hh
  simp only [save_idem, bind_eq_ok, inserted_eq_ok, pure_eq_ok] at hs
  obtain ⟨keys, hkeys, rfl⟩ := hs
  unfold idem at hidem
  split at hidem
  · simp at hidem
  · rename_i key hkey
    split at hidem
    · simp at hidem
    · rename_i hlength
      refine ⟨l, ctx, key, hb, hkey, hlength, (Table.mem_insert hkeys).mpr (.inr ?_)⟩
      rw [hkey, Option.getD_some]

/-- A lookup finds the row that is saved under its key. -/
theorem idem_of_mem {l : Lookup} {key : String} {resp : Json} (hkey : req.idempotency_key = some key)
    (hlength : ¬(key = "" ∨ 128 < key.toList.length))
    (hmem : ⟨l.actor, l.scope, key, cfg.request_hash l.payload, resp⟩ ∈ db.keys) :
    idem cfg db req l = .ok (some resp) := by
  have hfind := Table.mem_iff_find.mp hmem
  simp only [IdempotencyKey.key] at hfind
  unfold idem
  simp only [hkey, if_neg hlength, hfind, ne_eq, not_true, if_false]

/-- The body decides whether a request is well formed. -/
theorem well_formed_congr {req' : Request} (hbody : req'.body = req.body) (endpoint : Endpoint) :
    endpoint.well_formed req' ↔ endpoint.well_formed req := by
  have hget : req'.get? = req.get? := by
    funext k
    simp only [Request.get?, hbody]
  have htext : req'.text? = req.text? := by
    funext k
    simp only [Request.text?, hget]
  have hint : req'.int? = req.int? := by
    funext k
    simp only [Request.int?, hget]
  have habsent : req'.absent = req.absent := by
    funext k
    simp only [Request.absent, hget]
  have hbool : bool_or_absent req' = bool_or_absent req := by
    funext k
    simp only [bool_or_absent, hget]
  cases endpoint <;> simp only [Endpoint.well_formed, hget, htext, hint, habsent, hbool]

/-- After a first call that has succeeded, in every later state, a call of the same actor, key and
payload returns the stored response and writes nothing if and only if the checks before the lookup
pass in the state that it finds. -/
theorem replay_iff {w w₁ w₂ : World} {endpoint : Endpoint} {seen seen' : Read → Nat} {env' : Env}
    {req' : Request} {resp : Json} {as : List Label}
    (first : endpoint.handler.handle cfg (w.view seen) w.db env req = .ok (some db, resp))
    (call : step cfg w (.request endpoint req env seen) = some w₁)
    (run : (warRoom cfg).Steps (fun _ _ => True) w₁ as w₂)
    (hseen : seen' .keys + w₁.past.length ≤ w₂.past.length)
    (hkey : req'.idempotency_key = req.idempotency_key) (hbody : req'.body = req.body)
    (hlookup : endpoint.lookup env' req' = endpoint.lookup env req) :
    endpoint.handler.handle cfg (w₂.view seen') w₂.db env' req' = .ok (none, resp) ↔
      endpoint.rechecks cfg (w₂.view seen') w₂.db env' req' := by
  have hdb : w₁.db = db := by
    simp only [step, Option.bind_eq_bind, Option.bind_eq_some_iff, first] at call
    obtain ⟨_, -, call⟩ := call
    obtain ⟨-, rfl⟩ := World.commit_eq_some.mp call
    rfl
  obtain ⟨l, ctx, key, hb, hk, hlength, hmem⟩ := handle_saves first
  obtain ⟨hformed, -, hl⟩ := before_iff.mp ⟨ctx, hb⟩
  constructor
  · intro h
    rw [Handler.handle, bind_eq_ok] at h
    obtain ⟨⟨l', ctx'⟩, hb', -⟩ := h
    exact (before_iff.mp ⟨ctx', hb'⟩).2.1
  · intro h
    obtain ⟨ctx', hb'⟩ := before_iff.mpr
      ⟨(well_formed_congr hbody endpoint).mpr hformed, h, hlookup.trans hl⟩
    have hsince := Since.of_steps (fun _ _ _ _ hw => keys_write hw) run (hdb ▸ hmem)
    have hfound : idem cfg (if endpoint.handler.immediate then w₂.db else w₂.view seen' .keys) req' l =
        .ok (some resp) := by
      refine idem_of_mem (hkey.trans hk) hlength ?_
      split
      · exact hsince.holds 0 (by simpa using hsince.later)
      · exact hsince.holds _ hseen
    rw [Handler.handle, bind_of_ok hb']
    exact (bind_of_ok hfound).trans rfl

namespace Sample

/-- The agent is out of the catalog when its delivery is due. -/
def dismiss : Label := .process "d" { outside 2 [""] with catalog := fun _ => none } latest

def retry_request : Request := request "retry" "" "" 3 .empty

def retry : Label := .request (.retry_delivery "d") retry_request (outside 3 [""]) latest

/-- The delivery has failed. -/
def failed : World := after (config false) [prepare, execute, dismiss]

/-- The delivery waits again. -/
def retried : World := after (config false) [prepare, execute, dismiss, retry]

/-- The request was carried out. -/
def carried_out : Except HttpError (Option DB × Json) → Bool
  | .ok (some _, _) => true
  | _ => false

theorem exists_of_carried_out {out : Except HttpError (Option DB × Json)}
    (h : carried_out out = true) : ∃ db resp, out = .ok (some db, resp) := by
  unfold carried_out at h
  split at h
  · exact ⟨_, _, rfl⟩
  · cases h

def rejected_with (error : HttpError) : Except HttpError (Option DB × Json) → Bool
  | .error e => e == error
  | .ok _ => false

theorem eq_of_rejected_with {error : HttpError} {out : Except HttpError (Option DB × Json)}
    (h : rejected_with error out = true) : out = .error error := by
  unfold rejected_with at h
  split at h
  · rw [eq_of_beq h]
  · cases h

end Sample

open Sample in
/-- The retry of a failed delivery has succeeded; the same request once more is rejected, because
the delivery waits now. -/
theorem retry_not_replayed : ∃ db resp, (warRoom (config false)).Reachable failed ∧
    (retry_delivery "d").handle (config false) (failed.view latest) failed.db (outside 3 [""])
      retry_request = .ok (some db, resp) ∧
    step (config false) failed retry = some retried ∧
    (retry_delivery "d").handle (config false) (retried.view latest) retried.db (outside 3 [""])
      retry_request = .error (.http 409 "only final failed delivery can be manually retried") := by
  have hfirst : carried_out ((retry_delivery "d").handle (config false) (failed.view latest)
      failed.db (outside 3 [""]) retry_request) = true := by decide +kernel
  have hagain : rejected_with (.http 409 "only final failed delivery can be manually retried")
      ((retry_delivery "d").handle (config false) (retried.view latest) retried.db (outside 3 [""])
        retry_request) = true := by decide +kernel
  obtain ⟨db, resp, first⟩ := exists_of_carried_out hfirst
  exact ⟨db, resp, reachable_after _ _, first, step_after (by decide +kernel),
    eq_of_rejected_with hagain⟩

open Sample in
/-- The replay of the sample retry, in the state right after it. -/
theorem replay_iff_sample : ∃ db resp,
    (Endpoint.retry_delivery "d").handler.handle (config false) (failed.view latest) failed.db
      (outside 3 [""]) retry_request = .ok (some db, resp) ∧
    ((Endpoint.retry_delivery "d").handler.handle (config false) (retried.view latest) retried.db
        (outside 3 [""]) retry_request = .ok (none, resp) ↔
      (Endpoint.retry_delivery "d").rechecks (config false) (retried.view latest) retried.db
        (outside 3 [""]) retry_request) := by
  have hfirst : carried_out ((Endpoint.retry_delivery "d").handler.handle (config false)
      (failed.view latest) failed.db (outside 3 [""]) retry_request) = true := by decide +kernel
  have call : step (config false) failed retry = some retried := step_after (by decide +kernel)
  obtain ⟨db, resp, first⟩ := exists_of_carried_out hfirst
  exact ⟨db, resp, first, replay_iff first call (.refl _) (Nat.zero_add _).le rfl rfl rfl⟩

end WarRoom

end Plachem
