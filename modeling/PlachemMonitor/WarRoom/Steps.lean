import PlachemMonitor.WarRoom.Requests

/-!
# The statements of a step

* `request_writes`: a request that is not a replay writes its endpoint's statements and its key.
* `step_writes`: a step takes the tables by statements of `Writes`.
-/

namespace Plachem

namespace WarRoom

variable {cfg : Config} {w w' : World} {l : Label} {db db' : DB}

section

variable {req : Request} {env : Env} {seen : Read → Nat} {lookup : Lookup} {resp : Json}

/-! ## Projects -/

theorem write_project_writes {project_id : String} {f : Project → Project} {archived : Bool}
    (hf : ∀ p, (f p).id = p.id) :
    Writes cfg w l db (write_project db env project_id f archived hf) := by
  refine .head (.others (db.projects.update (fun p => p.id == project_id) f hf) db.participants
    db.runs db.units db.attempts db.revalidations fun _ => id) (controls_update fun c _ _ => ?_)
  exact .archived _

theorem project_writes (endpoint : Endpoint) (projects : Table Project Project.id)
    (participants : Table Participant Participant.key) :
    Write cfg w (.request endpoint req env seen) db
      { db with projects := projects, participants := participants } :=
  .others projects participants db.runs db.units db.attempts db.revalidations fun _ => id

theorem create_project_writes {ctx : String}
    (h : create_project.after cfg (w.view seen) w.db env req lookup ctx = .ok (db', resp)) :
    Writes cfg w (.request .create_project req env seen) w.db db' := by
  simp only [create_project, bind_eq_ok, inserted_eq_ok, ensure_eq_ok, pure_eq_ok, Prod.mk.injEq,
    exists_unit] at h
  obtain ⟨-, projects, -, controls, hcontrols, participants, -, rfl, -⟩ := h
  exact .head (project_writes _ projects participants) (.single (.insert_control _ hcontrols rfl))

theorem archive_project_writes {project_id : String} {ctx : Unit}
    (h : (archive_project project_id).after cfg (w.view seen) w.db env req lookup ctx =
      .ok (db', resp)) :
    Writes cfg w (.request (.archive_project project_id) req env seen) w.db db' := by
  simp only [archive_project, bind_eq_ok, pure_eq_ok, Prod.mk.injEq, exists_unit] at h
  obtain ⟨-, rfl, -⟩ := h
  exact write_project_writes _

theorem update_project_writes {project_id : String} {ctx : Project}
    (h : (update_project project_id).after cfg (w.view seen) w.db env req lookup ctx =
      .ok (db', resp)) :
    Writes cfg w (.request (.update_project project_id) req env seen) w.db db' := by
  simp only [update_project, bind_eq_ok, pure_eq_ok, Prod.mk.injEq, exists_unit] at h
  obtain ⟨_, -, _, -, -, rfl, -⟩ := h
  exact write_project_writes _

theorem save_manyfast_reference_writes {method project_id : String}
    {ctx : Project × String × String}
    (h : (save_manyfast_reference method project_id).after cfg (w.view seen) w.db env req lookup ctx =
      .ok (db', resp)) :
    Writes cfg w (.request (.save_manyfast_reference method project_id) req env seen) w.db db' := by
  obtain ⟨rfl, -⟩ := Prod.mk.inj (pure_eq_ok.mp h)
  exact write_project_writes _

theorem add_participant_writes {project_id : String} {ctx : String × Role}
    (h : (add_participant project_id).after cfg (w.view seen) w.db env req lookup ctx =
      .ok (db', resp)) :
    Writes cfg w (.request (.add_participant project_id) req env seen) w.db db' := by
  simp only [add_participant, bind_eq_ok, inserted_eq_ok, ensure_eq_ok, pure_eq_ok, Prod.mk.injEq,
    exists_unit] at h
  obtain ⟨-, -, -, _, -, _, -, _, -, _, -, participants, -, rfl, -⟩ := h
  exact .single (project_writes _ w.db.projects participants)

theorem update_participant_writes {project_id principal_id : String} {ctx : String × Option Role}
    (h : (update_participant project_id principal_id).after cfg (w.view seen) w.db env req lookup ctx =
      .ok (db', resp)) :
    Writes cfg w (.request (.update_participant project_id principal_id) req env seen) w.db db' := by
  simp only [update_participant, bind_eq_ok, found_eq_ok, pure_eq_ok, Prod.mk.injEq] at h
  obtain ⟨_, -, _, -, _, -, _, -, _, -, rfl, -⟩ := h
  exact .single (project_writes _ w.db.projects _)

theorem create_message_writes {project_id : String} {ctx : String × String}
    (h : (create_message project_id).after cfg (w.view seen) w.db env req lookup ctx =
      .ok (db', resp)) :
    Writes cfg w (.request (.create_message project_id) req env seen) w.db db' := by
  simp only [create_message, bind_eq_ok, inserted_eq_ok, ensure_eq_ok, pure_eq_ok, Prod.mk.injEq,
    exists_unit] at h
  obtain ⟨-, -, -, messages, hmessages, rfl, -⟩ := h
  exact .single (.insert_message _ hmessages)

/-- The endpoints that write none of the tables. -/
theorem answered_eq (h : answered db env = .ok (db', resp)) : db' = db := by
  obtain ⟨_, -, h⟩ := map_eq_ok.mp h
  exact (Prod.mk.inj h).1.symm

theorem supersede_task_eq {task_id : String} {ctx : Task × String}
    (h : (supersede_task task_id).after cfg (w.view seen) w.db env req lookup ctx =
      .ok (db', resp)) : db' = w.db := by
  simp only [supersede_task, bind_eq_ok, pure_eq_ok, Prod.mk.injEq, exists_unit] at h
  obtain ⟨-, -, -, _, -, -, -, -, _, -, rfl, -⟩ := h
  rfl

/-! ## Requests -/

/-- What an endpoint writes before it saves its key. -/
theorem after_writes {endpoint : Endpoint} {ctx : endpoint.handler.Context}
    (hb : endpoint.handler.before cfg (w.view seen) w.db env req = .ok (lookup, ctx))
    (h : endpoint.handler.after cfg (w.view seen) w.db env req lookup ctx = .ok (db', resp)) :
    Writes cfg w (.request endpoint req env seen) w.db db' := by
  cases endpoint with
  | create_project => exact create_project_writes h
  | archive_project project_id => exact archive_project_writes h
  | update_project project_id => exact update_project_writes h
  | save_manyfast_reference method project_id => exact save_manyfast_reference_writes h
  | save_manyfast_snapshot project_id => exact answered_eq h ▸ .refl
  | add_participant project_id => exact add_participant_writes h
  | update_participant project_id principal_id => exact update_participant_writes h
  | bind_test_session project_id agent_id =>
    obtain ⟨-, -, h⟩ := bind_eq_ok.mp h
    exact answered_eq h ▸ .refl
  | create_message project_id => exact create_message_writes h
  | register_project_document project_id =>
    obtain ⟨-, -, h⟩ := bind_eq_ok.mp h
    exact answered_eq h ▸ .refl
  | prepare_task project_id => exact prepare_task_writes hb h
  | create_task project_id => exact create_task_writes h
  | create_instruction_with_task project_id => exact create_instruction_with_task_writes hb h
  | approve_task task_id => exact approve_task_writes hb h
  | revoke_approval task_id approval_id => exact revoke_approval_writes h
  | assign_existing_task_reviewer task_id => exact assign_existing_task_reviewer_writes hb h
  | transition_task task_id => exact transition_task_writes hb h
  | supersede_task task_id => exact supersede_task_eq h ▸ .refl
  | approve_and_execute_task task_id => exact approve_and_execute_task_writes hb h
  | deliver_message message_id => exact deliver_message_writes hb h
  | retry_delivery delivery_id => exact retry_delivery_writes hb h
  | add_evidence task_id => exact add_evidence_writes h
  | qa_verdict task_id => exact qa_verdict_writes hb h
  | representative_completion task_id => exact representative_completion_writes hb h
  | resume_task_qa task_id => exact resume_task_qa_writes hb h
  | recover_qa_rework task_id => exact recover_qa_rework_writes hb h
  | revalidate_task_result task_id => exact revalidate_task_result_writes hb h
  | stop_project project_id => exact stop_project_writes h
  | stop_task task_id => exact stop_task_writes hb h
  | stop_ack project_id => exact stop_ack_writes h
  | resume_project project_id => exact resume_project_writes h
  | compile_executions project_id task_id =>
    obtain ⟨_, -, h⟩ := bind_eq_ok.mp h
    obtain ⟨-, -, h⟩ := bind_eq_ok.mp h
    exact answered_eq h ▸ .refl
  | dispatch_execution execution_id => exact answered_eq h ▸ .refl
  | stop_execution execution_id => exact answered_eq h ▸ .refl

/-- A call that finds no key: what it decides on, what it writes, and its key. -/
theorem handle_eq_ok {h : Handler} {view : View}
    (hh : h.handle cfg view db env req = .ok (some db', resp)) :
    ∃ lookup ctx db₁, h.before cfg view db env req = .ok (lookup, ctx) ∧
      idem cfg (if h.immediate then db else view .keys) req lookup = .ok none ∧
      h.after cfg view db env req lookup ctx = .ok (db₁, resp) ∧
      save_idem cfg db₁ req lookup resp = .ok db' := by
  simp only [Handler.handle, bind_eq_ok] at hh
  obtain ⟨⟨lookup, ctx⟩, hb, stored, hidem, hh⟩ := hh
  cases stored with
  | some stored => simp [pure_eq_ok] at hh
  | none =>
    simp only [bind_eq_ok, pure_eq_ok, Prod.mk.injEq, Option.some.injEq] at hh
    obtain ⟨⟨db₁, result⟩, ha, db₂, hs, rfl, rfl⟩ := hh
    exact ⟨lookup, ctx, db₁, hb, hidem, ha, hs⟩

theorem request_writes {endpoint : Endpoint}
    (h : endpoint.handler.handle cfg (w.view seen) w.db env req = .ok (some db', resp)) :
    Writes cfg w (.request endpoint req env seen) w.db db' := by
  obtain ⟨lookup, ctx, db₁, hb, -, ha, hs⟩ := handle_eq_ok h
  simp only [save_idem, bind_eq_ok, inserted_eq_ok, pure_eq_ok] at hs
  obtain ⟨keys, hkeys, rfl⟩ := hs
  exact .tail (after_writes hb ha) (.insert_key _ hkeys)

end

/-! ## Failures and responses -/

section

variable {env : Env} {row : DeliveryRow}

theorem task_of_message_eq_some {message_id : String} {t : Task}
    (h : db.task_of_message message_id = some t) :
    t ∈ db.tasks ∧ t.source_message_id = some message_id :=
  ⟨List.mem_of_find?_eq_some h, by simpa using List.find?_some h⟩

theorem terminal_validation_failure_writes {error_code : String} (hrow : w.row l = some row) :
    Writes cfg w l db (terminal_validation_failure db env row.delivery.message_id row.delivery.id
      row.delivery.task_revision error_code) := by
  have hrework : ∀ task : Task, task ∈ db.tasks →
      task.source_message_id = some row.delivery.message_id →
      task.revision = row.delivery.task_revision →
      task.status ∉ [.completed, .stopped, .stop_unconfirmed] →
      Writes cfg w l db (terminal_validation_failure.rework env row.delivery.message_id row.delivery.id
        row.delivery.task_revision db task) := by
    intro task hmem hsource hrevision hstatus
    refine .trans (@tasks_update _ _ _ _ _ _ (by intro t; rfl) fun t ht hid => ?_)
      (deliveries_update fun d _ hd => ?_)
    · simp only [Bool.and_eq_true, beq_iff_eq, bne_iff_ne] at hid
      obtain rfl : t = task := Table.eq_of_key ht hmem hid.1
      refine .failed _ hrow hsource hrevision ?_
      simp only [List.mem_cons, List.not_mem_nil, or_false, not_or] at hstatus ⊢
      exact ⟨hstatus.1, hstatus.2.1, hstatus.2.2, hid.2⟩
    · simp only [Bool.and_eq_true, beq_iff_eq, bne_iff_ne] at hd
      exact .cancelled hrow hd.1.1.1 hd.1.1.2 hd.1.2 hd.2
  unfold terminal_validation_failure
  split
  · exact .refl
  · rename_i task htask
    obtain ⟨hmem, hsource⟩ := task_of_message_eq_some htask
    split
    · exact .refl
    · rename_i hopen
      rw [not_or, ne_eq, not_not] at hopen
      simp only
      split
      · split
        · exact .single (.mark _ _ _ _)
        · exact hrework task hmem hsource hopen.2 hopen.1
      · exact hrework task hmem hsource hopen.2 hopen.1

theorem record_auto_qa_verdict_writes {task : Task} {verdict : Verdict}
    (hrow : w.row l = some row) (htask : row.task_id = some task.id)
    (h : record_auto_qa_verdict cfg db env task.id row.delivery.agent_id verdict = .ok db') :
    Writes cfg w l db db' := by
  unfold record_auto_qa_verdict at h
  split at h
  · cases h
    exact .refl
  · rename_i t hfind
    obtain ⟨hmem, hid⟩ := Table.find_some hfind
    split at h
    · cases h
      exact .refl
    · rename_i hqa
      rw [not_or, ne_eq, not_not, ne_eq, not_not] at hqa
      split at h
      · cases h
        exact .refl
      · obtain ⟨required, -, h⟩ := bind_eq_ok.mp h
        split at h
        · cases h
          exact .single (.mark _ _ _ _)
        · simp only [bind_eq_ok, found_eq_ok, inserted_eq_ok, pure_eq_ok] at h
          obtain ⟨sign, -, T, hT, rfl⟩ := h
          refine .head (.insert_verdict _ hT
            (.auto_judged env (env.uuid 1) _ _ hrow (hid ▸ htask) hmem hqa.1 hqa.2)) ?_
          split
          · exact .refl
          · refine tasks_update fun q hq hq' => ?_
            obtain rfl : q = t := Table.eq_of_key hq hmem (by simpa [hid] using hq')
            exact .auto_judged _ hrow (hid ▸ htask) hqa.1

theorem orElse_writes {r : Except HttpError DB} (h : ∀ db', r = .ok db' → Writes cfg w l db db') :
    Writes cfg w l db (orElse db r).1 := by
  cases r with
  | ok db' => exact h db' rfl
  | error e => exact .refl

theorem enter_auto_qa_writes {task_id : String} (hrow : w.row l = some row)
    (htask : row.task_id = some task_id) :
    Writes cfg w l db (enter_auto_qa cfg db env task_id row.delivery.message_id).1 := by
  unfold enter_auto_qa
  split
  · have hcapture : Writes cfg w l db
        (orElse db (capture_required_evidence cfg db env task_id)).1 := by
      refine orElse_writes fun db' h => ?_
      obtain ⟨es, T, hT, rfl⟩ := capture_required_evidence_eq_ok h
      exact .single (.insert_evidence es hT)
    simp only
    split
    · exact hcapture
    · refine hcapture.trans (orElse_writes fun db' h => ?_)
      obtain ⟨⟨db₂, queued⟩, hqueue, rfl⟩ := map_eq_ok.mp h
      refine queue_auto_qa_delivery_writes (fun t _ hid m hm => .inr ⟨row, hrow, ?_, ?_⟩) hqueue
      · rw [htask, hid]
      · exact Option.some.inj hm
  · exact .refl

/-- The rows that the outcome of a collaboration depends on. -/
structure SameRows (a b : DB) : Prop where
  tasks : a.tasks = b.tasks
  task_agents : a.task_agents = b.task_agents
  deliveries : a.deliveries = b.deliveries
  messages : a.messages = b.messages
  packets : a.packets = b.packets

theorem SameRows.refl (a : DB) : SameRows a a := ⟨rfl, rfl, rfl, rfl, rfl⟩

theorem SameRows.trans {a b c : DB} (hab : SameRows a b) (hbc : SameRows b c) : SameRows a c :=
  ⟨hab.tasks.trans hbc.tasks, hab.task_agents.trans hbc.task_agents,
    hab.deliveries.trans hbc.deliveries, hab.messages.trans hbc.messages,
    hab.packets.trans hbc.packets⟩

theorem worker_pending_congr {a b : DB} (h : SameRows a b) (task_id message_id : String)
    (revision : Nat) :
    worker_pending a task_id message_id revision = worker_pending b task_id message_id revision := by
  obtain ⟨-, hagents, hdeliveries, -, -⟩ := h
  cases a
  cases b
  cases hagents
  cases hdeliveries
  rfl

theorem collaboration_conflict_congr {a b : DB} (h : SameRows a b) (message_id : String)
    (revision : Nat) :
    collaboration_conflict cfg a message_id revision =
      collaboration_conflict cfg b message_id revision := by
  simp only [collaboration_conflict, verdicts, structured_result, DB.task_of_message, h.deliveries,
    h.messages, h.tasks, h.packets]

/-- The tables have the response that the step records. -/
structure Responded (cfg : Config) (w : World) (l : Label) (db : DB) : Prop where
  tasks : db.tasks = w.db.tasks
  written : ∃ written, w.written cfg l = some written ∧ SameRows written db

theorem Responded.congr {a b : DB} (h : Responded cfg w l a) (hsame : SameRows a b) :
    Responded cfg w l b where
  tasks := hsame.tasks.symm.trans h.tasks
  written := by
    obtain ⟨written, hw, hs⟩ := h.written
    exact ⟨written, hw, hs.trans hsame⟩

theorem apply_collaboration_outcome_writes {task : Task} (hrow : w.row l = some row)
    (hwritten : Responded cfg w l db) (hmem : task ∈ db.tasks) (htask : row.task_id = some task.id)
    (hrevision : task.revision = row.delivery.task_revision)
    (hreviewer : is_reviewer task row.delivery = false)
    (hpending : worker_pending db task.id row.delivery.message_id row.delivery.task_revision = false) :
    Writes cfg w l db (apply_collaboration_outcome cfg db env task.id row.delivery.message_id
      row.delivery.task_revision) := by
  obtain ⟨written, hw, hsame⟩ := hwritten.written
  have hmem' : task ∈ w.db.tasks := hwritten.tasks ▸ hmem
  rw [← worker_pending_congr hsame] at hpending
  unfold apply_collaboration_outcome
  split
  · rename_i hconflict
    rw [← collaboration_conflict_congr hsame] at hconflict
    refine tasks_update fun t ht hid => ?_
    obtain rfl : t = task := Table.eq_of_key ht hmem (by simpa using hid)
    exact .conflicted _ hrow hw hmem' htask hrevision hreviewer hpending hconflict
  · refine tasks_update fun t ht hid => ?_
    simp only [Bool.and_eq_true, beq_iff_eq] at hid
    obtain rfl : t = task := Table.eq_of_key ht hmem hid.1
    exact .entered_qa _ hrow hw hmem' htask hrevision hid.2 hpending

theorem resolve_writes (task_id : String) (revision : Nat) (delivery_id : String) :
    Write cfg w l db (resolve db task_id revision delivery_id) :=
  .resolve _

theorem after_responded_delivery_writes {result : Option StructuredResult}
    (hrow : w.row l = some row) (hwritten : Responded cfg w l db) :
    Writes cfg w l db (after_responded_delivery cfg db env row result).1 := by
  unfold after_responded_delivery
  split
  · exact .refl
  · rename_i task hfind
    obtain ⟨task_id, htask, hfind⟩ := Option.bind_eq_some_iff.mp hfind
    obtain ⟨hmem, rfl⟩ := Table.find_some hfind
    refine .head (resolve_writes task.id row.delivery.task_revision row.delivery.id) ?_
    simp only
    split
    · exact .refl
    · rename_i hrevision
      rw [ne_eq, not_not] at hrevision
      split
      · split
        · exact .refl
        · exact orElse_writes fun db' h => record_auto_qa_verdict_writes hrow htask h
      · rename_i hreviewer
        split
        · exact .refl
        · split
          · exact .refl
          · rename_i hpending
            rw [Bool.not_eq_true] at hreviewer hpending
            exact .trans (apply_collaboration_outcome_writes hrow (hwritten.congr ⟨rfl, rfl, rfl, rfl, rfl⟩) hmem htask
              hrevision hreviewer hpending) (enter_auto_qa_writes hrow htask)

theorem safe_after_responded_delivery_writes {result : Option StructuredResult}
    (hrow : w.row l = some row) (hwritten : Responded cfg w l db) :
    Writes cfg w l db (safe_after_responded_delivery cfg db env row result) := by
  have h : Writes cfg w l db (after_responded_delivery cfg db env row result).1 :=
    after_responded_delivery_writes hrow hwritten
  unfold safe_after_responded_delivery
  simp only
  split
  · exact .tail h (.mark _ _ _ _)
  · exact h

/-! ## Claims -/

theorem delivery_row_eq_some {id : String} (h : delivery_row db id = some row) :
    db.deliveries.find id = some row.delivery ∧ row.delivery ∈ db.deliveries ∧
      row.delivery.id = id ∧
      row.task_id = (db.task_of_message row.delivery.message_id).map Task.id := by
  simp only [delivery_row, Option.bind_eq_bind, Option.bind_eq_some_iff, Option.pure_def] at h
  obtain ⟨d, hd, project_id, -, h⟩ := h
  cases h
  exact ⟨hd, (Table.find_some hd).1, (Table.find_some hd).2, rfl⟩

theorem process_row_writes {id : String} {seen : Read → Nat}
    (hrow : delivery_row (w.view seen .deliveries) id = some row)
    (hdue : row.delivery.due env.now = true) :
    Writes cfg w (.process id env seen) w.db (process_row (w.view seen) w.db env row).1 := by
  obtain ⟨-, -, hid, -⟩ := delivery_row_eq_some hrow
  have hfail : ∀ (db : DB) (error_code : String),
      Writes cfg w (.process id env seen) db (fail_task db env row error_code) := by
    intro db error_code
    unfold fail_task
    split
    · exact terminal_validation_failure_writes (l := .process id env seen) hrow
    · exact .refl
  rw [Delivery.due, Bool.and_eq_true] at hdue
  unfold process_row
  simp only [hid]
  split
  · refine .trans (deliveries_update fun d _ hd => ?_) (hfail _ _)
    simp only [Bool.and_eq_true, beq_iff_eq] at hd
    exact .dismissed _ hd.1 hd.2
  · split
    · rename_i hdeadline
      refine .trans (deliveries_update fun d _ hd => ?_) (hfail _ _)
      simp only [Option.any_eq_true, decide_eq_true_eq] at hdeadline
      exact .overdue _ (by simpa using hd) hrow hdue.1 hdeadline
    · split
      · refine deliveries_update fun d _ hd => ?_
        simp only [Bool.and_eq_true, beq_iff_eq] at hd
        exact .postponed hd.1 hd.2
      · rename_i hbusy
        refine deliveries_update fun d _ hd => ?_
        simp only [Bool.and_eq_true, beq_iff_eq] at hd
        exact .claimed hd.1 hrow hd.2 (by simpa using hbusy)

/-! ## Outcomes -/

theorem store_response_writes {status : DeliveryStatus} {r : DeliveryReceipt}
    (hrow : w.row l = some row)
    (hsent : ∃ q ∈ w.db.deliveries, q.id = row.delivery.id ∧ q.sent = true)
    (h : store_response cfg db env row status r = .ok db') : Writes cfg w l db db' := by
  unfold store_response at h
  split at h
  · cases h
    exact .refl
  · split at h
    · cases h
      exact .refl
    · rename_i hresponse
      rw [ne_eq, not_not] at hresponse
      simp only [bind_eq_ok, inserted_eq_ok, pure_eq_ok] at h
      obtain ⟨T, hT, rfl⟩ := h
      refine .head (.insert_message _ hT) (deliveries_update fun d _ hd => ?_)
      simp only [Bool.and_eq_true, beq_iff_eq] at hd
      exact .answered _ hrow hd.1 hresponse (hd.1 ▸ hsent)

/-- A run id comes only with a run that has no outcome yet. -/
theorem outcome_run {r : DeliveryReceipt} {is_qa : Bool} {missing : String}
    (hr : plausible_receipt r = true) (hrun : r.run_id.isSome = true) :
    (outcome cfg db row is_qa ((receipt_status r.status).getD .failed) r missing).status =
      .received := by
  have hstatus : r.status = "received" := by
    simpa [plausible_receipt, Option.isSome_iff_ne_none.mp hrun] using hr
  rw [hstatus]
  rfl

/-- Only a receipt of a response makes the outcome of one. -/
theorem outcome_responded {r : DeliveryReceipt} {is_qa : Bool} {status : DeliveryStatus}
    {missing : String}
    (h : (outcome cfg db row is_qa status r missing).status = .responded) : status = .responded := by
  unfold outcome at h
  split at h
  · rfl
  · rfl
  · exact h

theorem fail_writes {failed : Bool} {error_code : String} (hrow : w.row l = some row) :
    Writes cfg w l db (if failed then terminal_validation_failure db env row.delivery.message_id
      row.delivery.id row.delivery.task_revision error_code else db) := by
  split
  · exact terminal_validation_failure_writes hrow
  · exact .refl

theorem persist_writes {fast : Bool} :
    Writes cfg w l db (if fast then persist_execution db (env.snapshot row.delivery.id)
      row.project_id row.task_id row.delivery.agent_id env.now else db) := by
  split
  · rw [persist_execution_eq]
    exact .single (runs_writes _)
  · exact .refl

theorem persist_same {fast : Bool} :
    SameRows db (if fast then persist_execution db (env.snapshot row.delivery.id)
      row.project_id row.task_id row.delivery.agent_id env.now else db) := by
  split
  · rw [persist_execution_eq]
    exact ⟨rfl, rfl, rfl, rfl, rfl⟩
  · exact .refl db

theorem store_response_tasks {status : DeliveryStatus} {r : DeliveryReceipt}
    (h : store_response cfg db env row status r = .ok db') : db'.tasks = db.tasks := by
  unfold store_response at h
  split at h
  · cases h
    rfl
  · split at h
    · cases h
      rfl
    · simp only [bind_eq_ok, inserted_eq_ok, pure_eq_ok] at h
      obtain ⟨T, hT, rfl⟩ := h
      rfl

theorem follow_outcome_writes {is_qa : Bool} {o : Outcome} (hrow : w.row l = some row)
    (hwritten : o.status = .responded → Responded cfg w l db) :
    Writes cfg w l db (follow_outcome cfg db env row is_qa o) := by
  unfold follow_outcome
  simp only
  generalize hfailed : (if is_failure o.status && !retryable env.now row.delivery o then
    terminal_validation_failure db env _ _ _ _ else db) = failed
  generalize hpersisted : (if row.fast is_qa then persist_execution failed _ _ _ _ _
    else failed) = persisted
  refine .trans (hfailed ▸ fail_writes hrow) (.trans (hpersisted ▸ persist_writes) ?_)
  split
  · exact .refl
  · simp only [count_outcome]
    split
    · rename_i hresponded
      have hdb : db = failed := by
        rw [← hfailed, if_neg (by simp [hresponded, is_failure])]
      have hsame : SameRows failed persisted := hpersisted ▸ persist_same
      have hcounted := (hwritten hresponded).congr (hdb ▸ hsame)
      exact .head (.count_calls _ _ _ _) (safe_after_responded_delivery_writes hrow
        (hcounted.congr ⟨rfl, rfl, rfl, rfl, rfl⟩))
    · exact .single (.count_calls _ _ _ _)

theorem write_receipt_tasks {c : Call} {is_qa : Bool} {r : DeliveryReceipt}
    (h : write_receipt cfg db env c is_qa r = .ok db') : db'.tasks = db.tasks := by
  unfold write_receipt at h
  exact (store_response_tasks h : db'.tasks = _)

/-- The end of a call that is still the one of the claim. -/
theorem record_receipt_writes {c : Call} {is_qa : Bool} {r : DeliveryReceipt}
    (hcall : w.call l = some c) (hrow : w.row l = some c.row) (hr : plausible_receipt r = true)
    (hdb : ∀ d ∈ db.deliveries, owns_claim c d = true → ∃ q ∈ w.db.deliveries, q.id = d.id ∧
      q.sent = true)
    (hresponded : ∀ written, write_receipt cfg db env c is_qa r = .ok written →
      (call_outcome cfg db c is_qa r).status = .responded → Responded cfg w l written)
    (h : record_receipt cfg db env c is_qa r = .ok (some db')) : Writes cfg w l db db' := by
  unfold record_receipt at h
  split at h
  · rename_i howns
    obtain ⟨d, hd, howns⟩ := List.any_eq_true.mp howns
    obtain ⟨q, hq, hqid, hsent⟩ := hdb d hd howns
    obtain ⟨written, hwritten, h⟩ := map_eq_ok.mp h
    obtain rfl := Option.some.inj h
    specialize hresponded written hwritten
    unfold write_receipt at hwritten
    refine .trans (deliveries_update fun d _ hd => ?_) (.trans (store_response_writes hrow ?_ hwritten)
      (follow_outcome_writes hrow hresponded))
    · exact .recorded _ r env.now hcall hd fun hrun => outcome_run hr hrun
    · rw [owns_claim, Bool.and_eq_true, Bool.and_eq_true, beq_iff_eq] at howns
      exact ⟨q, hq, hqid.trans howns.1.1, hsent⟩
  · cases h

/-! ## Recovery -/

theorem recover_expired_writes {id : String} {seen : Read → Nat} {poll : Poll}
    (hrow : delivery_row (w.view seen .deliveries) id = some row) :
    Writes cfg w (.recover id env seen poll) db (recover_expired cfg db env row) := by
  obtain ⟨-, -, hid, -⟩ := delivery_row_eq_some hrow
  unfold recover_expired
  simp only
  split
  · refine .trans (deliveries_update fun d _ hd => ?_)
      (terminal_validation_failure_writes (l := .recover id env seen poll) hrow)
    simp only [is_received, Bool.and_eq_true, beq_iff_eq] at hd
    exact .expired (hd.1.trans hid) hd.2
  · split
    · exact .single (.mark _ _ _ _)
    · exact .refl

theorem poll_outcome_status {is_qa : Bool} {status : DeliveryStatus} {r : DeliveryReceipt}
    (h : status ∉ [.queued, .sent, .received]) :
    (poll_outcome cfg db row is_qa status r).status ∉ [.queued, .sent, .received] := by
  unfold poll_outcome outcome
  split
  · unfold read_response
    split
    · simp
    · split <;> simp
  · split <;> simp
  · exact h

theorem recover_outcome_writes {id : String} {seen : Read → Nat} {is_qa : Bool}
    {status : DeliveryStatus} {r : DeliveryReceipt}
    (hrow : delivery_row (w.view seen .deliveries) id = some row)
    (hstatus : status ∉ [.queued, .sent, .received]) (hdb : db.deliveries = w.db.deliveries)
    (hresponded : ∀ written, write_poll cfg db env row (poll_outcome cfg db row is_qa status r) r =
      .ok written → (poll_outcome cfg db row is_qa status r).status = .responded →
      Responded cfg w (.recover id env seen (.run r)) written)
    (h : recover_outcome cfg db env row is_qa status r = .ok db') :
    Writes cfg w (.recover id env seen (.run r)) db db' := by
  obtain ⟨-, -, hid, -⟩ := delivery_row_eq_some hrow
  unfold recover_outcome at h
  simp only at h
  split at h
  · rename_i hreceived
    obtain ⟨d, hd, hreceived⟩ := List.any_eq_true.mp hreceived
    simp only [is_received, Bool.and_eq_true, beq_iff_eq] at hreceived
    obtain ⟨written, hwritten, rfl⟩ := map_eq_ok.mp h
    specialize hresponded written hwritten
    unfold write_poll at hwritten
    refine .trans (deliveries_update fun d _ hd => ?_) (.trans
      (store_response_writes (l := .recover id env seen (.run r)) hrow ?_ hwritten) ?_)
    · simp only [is_received, Bool.and_eq_true, beq_iff_eq] at hd
      exact .polled _ _ _ env.now (hd.1.trans hid) hd.2 (poll_outcome_status hstatus)
    · exact ⟨d, hdb ▸ hd, hreceived.1, by simp [Delivery.sent, hreceived.2]⟩
    · unfold follow_poll
      simp only
      generalize hfailed : (if is_failure (poll_outcome cfg db row is_qa status r).status then
        terminal_validation_failure written env _ _ _ _ else written) = failed
      generalize hpersisted : (if row.fast is_qa then persist_execution failed _ _ _ _ _
        else failed) = persisted
      refine .trans (hfailed ▸ fail_writes hrow) (.trans (hpersisted ▸ persist_writes) ?_)
      split
      · rename_i hstatus
        have hdb : written = failed := by
          rw [← hfailed, if_neg (by simp [hstatus, is_failure])]
        have hsame : SameRows failed persisted := hpersisted ▸ persist_same
        have hpersisted := (hresponded hstatus).congr (hdb ▸ hsame)
        unfold follow_response
        split
        · exact .refl
        · simp only
          split
          · exact safe_after_responded_delivery_writes (l := .recover id env seen (.run r)) hrow
              hpersisted
          · exact .head (.count_calls _ _ _ _) (safe_after_responded_delivery_writes
              (l := .recover id env seen (.run r)) hrow (hpersisted.congr ⟨rfl, rfl, rfl, rfl, rfl⟩))
      · exact .refl
  · cases h
    exact .refl

theorem resolve_row_writes (row : DeliveryRow) : Writes cfg w l db (resolve_row db row) := by
  unfold resolve_row
  split
  · exact .single (resolve_writes _ _ _)
  · exact .refl

@[simp] theorem resolve_row_deliveries : (resolve_row db row).deliveries = db.deliveries := by
  unfold resolve_row
  split <;> rfl

@[simp] theorem resolve_row_tasks : (resolve_row db row).tasks = db.tasks := by
  unfold resolve_row
  split <;> rfl

theorem receipt_status_open {s : String} {status : DeliveryStatus}
    (h : receipt_status s = some status) : status ∉ [.queued, .sent] := by
  unfold receipt_status at h
  split at h <;> cases h <;> simp

theorem recover_row_writes {id : String} {seen : Read → Nat} {poll : Poll}
    (hrow : delivery_row (w.view seen .deliveries) id = some row)
    (h : recover_row cfg (w.view seen) w.db env row poll = .ok db') :
    Writes cfg w (.recover id env seen poll) w.db db' := by
  obtain ⟨-, -, hid, -⟩ := delivery_row_eq_some hrow
  have hunbound : ∀ error_code, lacks_binding cfg (w.view seen) env row = true →
      Writes cfg w (.recover id env seen poll) w.db
        (fail_binding w.db env row.delivery.id error_code) := by
    intro error_code hlacks
    refine deliveries_update fun d _ hd => ?_
    rw [beq_iff_eq] at hd
    exact .unbound _ _ (hd.trans hid) hrow hlacks
  unfold recover_row at h
  simp only at h
  split at h
  · rename_i hlacks
    cases h
    refine hunbound _ ?_
    simp only [Bool.and_eq_true] at hlacks
    simp [lacks_binding, hlacks]
  · split at h
    · rename_i hlacks
      cases h
      refine hunbound _ ?_
      simp only [Bool.and_eq_true] at hlacks
      simp [lacks_binding, hlacks]
    · split at h
      · cases h
        split
        · split
          · exact .single (.mark _ _ _ _)
          · exact .refl
        · exact .refl
      · split at h
        · cases h
          exact .refl
        · split at h
          · cases h
            refine .trans (resolve_row_writes row) ?_
            split
            · exact recover_expired_writes hrow
            · exact .refl
          · cases h
            split
            · exact recover_expired_writes hrow
            · exact .refl
          · refine .trans (resolve_row_writes row) (recover_outcome_writes hrow (by simp)
              resolve_row_deliveries (fun written hwritten _ => ⟨?_, written, ?_, .refl _⟩) h)
            · rw [store_response_tasks hwritten, resolve_row_tasks]
            · simp only [World.written, hrow, Option.bind_eq_bind, Option.bind_some, hwritten]
              rfl
          · rename_i status hreceived hresponded hstatus
            have hopen := receipt_status_open hstatus
            refine recover_outcome_writes hrow ?_ rfl
              (fun _ _ ho => absurd (outcome_responded ho) hresponded) h
            simp only [List.mem_cons, List.not_mem_nil, or_false, not_or] at hopen ⊢
            exact ⟨hopen.1, hopen.2, hreceived⟩

end

/-! ## Steps -/

/-- What the end of a call commits. -/
theorem finish_eq_some {env : Env} {c : Call} {is_qa : Bool} {r : DeliveryReceipt}
    {events : List Event} (h : w.finish cfg db env c is_qa r events = some w') :
    record_receipt cfg db env c is_qa r = .ok (some w'.db) ∨ w'.db = db ∨ w'.db = w.db := by
  unfold World.finish at h
  simp only at h
  split at h
  · rename_i db' hrecord
    obtain ⟨-, rfl⟩ := World.commit_eq_some.mp h
    exact .inl hrecord
  · obtain ⟨-, rfl⟩ := World.commit_eq_some.mp h
    exact .inr (.inl rfl)
  · obtain ⟨-, rfl⟩ := World.commit_eq_some.mp h
    exact .inr (.inr rfl)

theorem finish_writes {env : Env} {c : Call} {is_qa : Bool} {r : DeliveryReceipt}
    {events : List Event} (hcall : w.call l = some c) (hrow : w.row l = some c.row)
    (hr : plausible_receipt r = true) (hdb : Writes cfg w l w.db db)
    (hsent : ∀ d ∈ db.deliveries, owns_claim c d = true → ∃ q ∈ w.db.deliveries, q.id = d.id ∧
      q.sent = true)
    (hresponded : ∀ written, write_receipt cfg db env c is_qa r = .ok written →
      (call_outcome cfg db c is_qa r).status = .responded → Responded cfg w l written)
    (h : w.finish cfg db env c is_qa r events = some w') : Writes cfg w l w.db w'.db := by
  rcases finish_eq_some h with h | h | h
  · exact hdb.trans (record_receipt_writes hcall hrow hr hsent hresponded h)
  · exact h ▸ hdb
  · exact h ▸ .refl

theorem owns_claim_sent {c : Call} {d : Delivery} (h : owns_claim c d = true) : d.sent = true := by
  simp only [owns_claim, Bool.and_eq_true] at h
  simp [Delivery.sent, h.1.2]

theorem write_session_sent {id : String} {session : String × String} {c : Call} {d : Delivery}
    (hd : d ∈ (write_session db id session).deliveries) (howns : owns_claim c d = true) :
    ∃ q ∈ db.deliveries, q.id = d.id ∧ q.sent = true := by
  simp only [write_session, Table.mem_update] at hd
  obtain ⟨q, hq, rfl⟩ := hd
  have hsent := owns_claim_sent howns
  refine ⟨q, hq, ?_⟩
  split
  · rename_i hid
    rw [if_pos hid] at hsent
    exact ⟨rfl, hsent⟩
  · rename_i hid
    rw [if_neg hid] at hsent
    exact ⟨rfl, hsent⟩

theorem hand_over_writes {token : String} {env : Env} {seen : Read → Nat} {r : DeliveryReceipt}
    {c : Call} (hcall : w.call (.hand_over token env seen r) = some c)
    (hr : plausible_receipt r = true)
    (h : w.hand_over cfg env (w.view seen) c r = some w') :
    Writes cfg w (.hand_over token env seen r) w.db w'.db := by
  have hrow : w.row (.hand_over token env seen r) = some c.row := by
    simp only [World.row, hcall, Option.map_some]
  have hsession : ∀ session, Writes cfg w (.hand_over token env seen r) w.db
      (write_session w.db c.row.delivery.id session) := by
    intro session
    refine deliveries_update fun d _ hd => ?_
    rw [beq_iff_eq] at hd
    exact .bound session hcall hd
  have hrefused : ∀ (db written : DB) (is_qa : Bool) (error_code : String),
      write_receipt cfg db env c is_qa (refusal error_code) = .ok written →
      (call_outcome cfg db c is_qa (refusal error_code)).status = .responded →
      Responded cfg w (.hand_over token env seen r) written := by
    intro db written is_qa error_code _ ho
    exact absurd (outcome_responded ho) nofun
  unfold World.hand_over at h
  simp only at h
  split at h
  · exact finish_writes hcall hrow rfl .refl (fun d hd ho => ⟨d, hd, rfl, owns_claim_sent ho⟩)
      (fun _ => hrefused _ _ _ _) h
  · exact finish_writes hcall hrow rfl (hsession _) (fun d => write_session_sent)
      (fun _ => hrefused _ _ _ _) h
  · rename_i session hlane
    refine finish_writes hcall hrow hr (hsession _) (fun d => write_session_sent)
      (fun written hwritten _ => ⟨?_, written, ?_, .refl _⟩) h
    · have htasks := write_receipt_tasks hwritten
      exact htasks
    · simp only [World.written, hcall, Option.bind_eq_bind, Option.bind_some, hlane, hwritten]
      rfl
  · obtain ⟨-, rfl⟩ := World.commit_eq_some.mp h
    exact .refl

/-- A step takes the tables by the statements of its label. -/
theorem step_writes (h : step cfg w l = some w') : Writes cfg w l w.db w'.db := by
  cases l with
  | request endpoint req env seen =>
    simp only [step, Option.bind_eq_bind, Option.bind_eq_some_iff] at h
    obtain ⟨_, -, h⟩ := h
    split at h
    · rename_i db' resp hhandle
      obtain ⟨-, rfl⟩ := World.commit_eq_some.mp h
      exact request_writes hhandle
    · cases h
      exact .refl
    · cases h
  | process id env seen =>
    simp only [step, Option.bind_eq_bind, Option.bind_eq_some_iff] at h
    obtain ⟨row, hrow, _, hguard, h⟩ := h
    have hwrites : Writes cfg w (.process id env seen) w.db (process_row (w.view seen) w.db env row).1 :=
      process_row_writes hrow ((Option.guard_eq_some' _).mp hguard).1
    split at h
    · obtain ⟨-, rfl⟩ := World.commit_eq_some.mp h
      exact hwrites
    · obtain ⟨-, rfl⟩ := World.commit_eq_some.mp h
      exact hwrites
  | hand_over token env seen r =>
    simp only [step, Option.bind_eq_bind, Option.bind_eq_some_iff] at h
    obtain ⟨c, hcall, _, hguard, h⟩ := h
    exact hand_over_writes hcall ((Option.guard_eq_some' _).mp hguard) h
  | record token env r =>
    simp only [step, Option.bind_eq_bind, Option.bind_eq_some_iff] at h
    obtain ⟨c, hcall, _, hguard, h⟩ := h
    have hrow : w.row (.record token env r) = some c.row := by
      simp only [World.row, World.call, hcall, Option.map_some]
    refine finish_writes (l := .record token env r) hcall hrow ((Option.guard_eq_some' _).mp hguard)
      .refl (fun d hd ho => ⟨d, hd, rfl, owns_claim_sent ho⟩)
      (fun written hwritten _ => ⟨write_receipt_tasks hwritten, written, ?_, .refl _⟩) h
    simp only [World.written, World.call, hcall, Option.bind_eq_bind, Option.bind_some, hwritten]
    rfl
  | abandon token =>
    cases h
    exact .refl
  | recover id env seen poll =>
    simp only [step, Option.bind_eq_bind, Option.bind_eq_some_iff] at h
    obtain ⟨row, hrow, _, -, h⟩ := h
    split at h
    · rename_i db' hrecover
      obtain ⟨-, rfl⟩ := World.commit_eq_some.mp h
      exact recover_row_writes hrow hrecover
    · cases h
  | request_delivery_retry id env seen =>
    simp only [step, request_delivery_retry, Option.bind_eq_bind, Option.bind_eq_some_iff] at h
    obtain ⟨q, hq, db', ⟨_, hfailed, _, -, hdb⟩, h⟩ := h
    obtain ⟨-, rfl⟩ := World.commit_eq_some.mp h
    obtain rfl := Option.some.inj hdb
    refine deliveries_update fun d _ hd => ?_
    rw [beq_iff_eq] at hd
    have hid : d.id = id := hd.trans (Table.find_some hq).2
    exact hid ▸ DeliveryMove.requeued (d := d) env.now (hid ▸ hq) ((Option.guard_eq_some' _).mp hfailed)
  | request_project_stop project_id deadline ids env seen =>
    simp only [step] at h
    obtain ⟨-, rfl⟩ := World.commit_eq_some.mp h
    refine .trans (controls_update fun c _ hc => ?_) (deliveries_update fun d _ hd => ?_)
    · rw [beq_iff_eq] at hc
      exact .stop_requested _ _ _ (.inr ⟨deadline, ids, env, seen, by rw [hc]⟩)
    · obtain ⟨q, hq, hid⟩ := List.mem_map.mp (of_decide_eq_true hd)
      exact .worker_answered _ hq hid
  | process_stop_timer project_id env seen =>
    simp only [step, process_stop_timer, Option.bind_eq_bind, Option.bind_eq_some_iff] at h
    obtain ⟨db', ⟨q, hq, _, hguard, hdb⟩, h⟩ := h
    obtain ⟨-, rfl⟩ := World.commit_eq_some.mp h
    obtain rfl := Option.some.inj hdb
    refine controls_update fun c _ hc => ?_
    rw [beq_iff_eq] at hc
    exact hc ▸ ControlMove.timed_out (c := c) env.now (hc ▸ hq)
      ((Option.guard_eq_some' _).mp hguard).1
  | authorize scope now =>
    simp only [step] at h
    split at h
    · rename_i task approval db' _ hreserve
      obtain ⟨-, rfl⟩ := World.commit_eq_some.mp h
      obtain ⟨_, -, rfl⟩ := map_eq_ok.mp hreserve
      exact .single (.count_calls _ _ _ _)
    · cases h
  | executions units runs =>
    obtain ⟨-, rfl⟩ := World.commit_eq_some.mp h
    exact .single (.others w.db.projects w.db.participants runs units w.db.attempts
      w.db.revalidations fun _ => id)
  | finalize task_id status now =>
    obtain ⟨-, rfl⟩ := World.commit_eq_some.mp h
    refine tasks_update fun t _ ht => ?_
    simp only [Bool.and_eq_true, beq_iff_eq] at ht
    exact ht.1 ▸ TaskMove.finalized (t := t) status now (Option.isNone_iff_eq_none.mp ht.2)

end WarRoom

end Plachem
