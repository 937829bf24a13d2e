import PlachemMonitor.WarRoom.Writes

/-!
# The statements of the endpoints

What each endpoint writes, from its checks: `..._writes` of an endpoint takes the tables at its first
write to those that it leaves by statements of `Writes`.
-/

namespace Plachem

namespace WarRoom

variable {cfg : Config} {w : World} {l : Label} {db db' : DB}

/-! ## Updates -/

theorem tasks_update {cond : Task → Bool} {f : Task → Task} {hf : ∀ t, (f t).id = t.id}
    (h : ∀ t ∈ db.tasks, cond t = true → TaskMove cfg w l db t (f t)) :
    Writes cfg w l db { db with tasks := db.tasks.update cond f hf } :=
  .single (.tasks (Table.evolves_update h))

theorem deliveries_update {cond : Delivery → Bool} {f : Delivery → Delivery}
    {hf : ∀ d, (f d).id = d.id}
    (h : ∀ d ∈ db.deliveries, cond d = true → DeliveryMove cfg w l db d (f d)) :
    Writes cfg w l db { db with deliveries := db.deliveries.update cond f hf } :=
  .single (.deliveries (Table.evolves_update h))

theorem controls_update {cond : Control → Bool} {f : Control → Control}
    {hf : ∀ c, (f c).project_id = c.project_id}
    (h : ∀ c ∈ db.controls, cond c = true → ControlMove cfg w l db c (f c)) :
    Writes cfg w l db { db with controls := db.controls.update cond f hf } :=
  .single (.controls (Table.evolves_update h))

theorem revoke_writes (env : Env) (cond : Approval → Bool) :
    Writes cfg w l db (revoke db env cond) :=
  .single (.revoke (Table.evolves_update fun _ _ _ => ⟨env.now, rfl⟩))

section

variable {req : Request} {env : Env} {seen : Read → Nat} {lookup : Lookup} {resp : Json}

/-! ## New tasks -/

/-- The agents of a new task. -/
theorem insert_task_agents_writes {task_id : String} {agents : List String}
    (hne : "" ∉ agents) (hold : ∀ t ∈ w.db.tasks, t.id ≠ task_id)
    (hnew : ∃ t ∈ db.tasks, t.id = task_id ∧ ∀ a ∈ agents, t.reviewer_agent_id ≠ some a)
    (h : insert_task_agents db task_id agents = some db') : Writes cfg w l db db' := by
  unfold insert_task_agents at h
  obtain ⟨T, hT, rfl⟩ := Option.map_eq_some_iff.mp h
  clear h
  induction agents generalizing db with
  | nil =>
    obtain rfl : db.task_agents = T := by simpa using hT
    exact .refl
  | cons a agents ih =>
    rw [List.foldlM_cons, Option.bind_eq_bind, Option.bind_eq_some_iff] at hT
    obtain ⟨T', hT', hT⟩ := hT
    obtain ⟨t, ht, hid, hrev⟩ := hnew
    have hwrite : Write cfg w l db { db with task_agents := T' } :=
      .insert_agent task_id a hT' (by grind) hold ⟨t, ht, hid, hrev a List.mem_cons_self⟩
    refine .head hwrite (ih (by grind) ?_ hT)
    exact ⟨t, ht, hid, fun b hb => hrev b (List.mem_cons_of_mem _ hb)⟩

/-- A new task is under an id of its own. -/
theorem insert_task_new {t : Task} {T : Table Task Task.id} (h : db.tasks.insert t = some T) :
    (∀ q ∈ db.tasks, q.id ≠ t.id) ∧ t ∈ T := by
  refine ⟨fun q hq heq => (Table.insert_eq_some h).2 ?_, (Table.mem_insert h).mpr (.inr rfl)⟩
  exact List.mem_map.mpr ⟨q, hq, heq⟩

theorem prepare_task_writes {project_id : String}
    {ctx : String × List String × Option String × Mode × Project}
    (hb : (prepare_task project_id).before cfg (w.view seen) w.db env req = .ok (lookup, ctx))
    (h : (prepare_task project_id).after cfg (w.view seen) w.db env req lookup ctx =
      .ok (db', resp)) :
    Writes cfg w (.request (.prepare_task project_id) req env seen) w.db db' := by
  obtain ⟨instruction, agents, assignee, mode, project⟩ := ctx
  simp only [prepare_task, bind_eq_ok, found_eq_ok, pure_eq_ok, Prod.mk.injEq, ensure_eq_ok,
    inserted_eq_ok, exists_unit] at hb h
  obtain ⟨_, -, agents, hagents, _, -, -, _, -, _, -, -, -, rfl, rfl, rfl, rfl, rfl, rfl⟩ := hb
  obtain ⟨p, -, hrev, -, -, packet, -, messages, hmessages, db₁, hdb₁, db₂, hdb₂, packets, hpackets,
    rfl, -⟩ := h
  obtain ⟨T, hT, rfl, hsource⟩ := insert_task_eq_some hdb₁
  obtain ⟨hold, hmem⟩ := insert_task_new hT
  refine .head (.insert_message _ hmessages) (.head (.insert_task _ hT rfl rfl (.inr rfl) hsource ?_)
    (.tail (insert_task_agents_writes (canonical_agents_spec hagents).2 hold ?_ hdb₂)
      (.insert_packet _ hpackets)))
  · exact fun a ha => ha
  · refine ⟨_, hmem, rfl, fun a ha heq => ?_⟩
    simp only [require_independent_reviewer, ensure_eq_ok] at hrev
    exact hrev.2 a heq ha

theorem create_task_writes {project_id : String} {ctx : Project}
    (h : (create_task project_id).after cfg (w.view seen) w.db env req lookup ctx =
      .ok (db', resp)) :
    Writes cfg w (.request (.create_task project_id) req env seen) w.db db' := by
  simp only [create_task, bind_eq_ok, pure_eq_ok, Prod.mk.injEq, ensure_eq_ok,
    inserted_eq_ok, exists_unit] at h
  obtain ⟨p, -, mode, -, agents, hagents, -, hrev, -, -, -, db₁, hdb₁, db₂, hdb₂, rfl, -⟩ := h
  obtain ⟨T, hT, rfl, hsource⟩ := insert_task_eq_some hdb₁
  obtain ⟨hold, hmem⟩ := insert_task_new hT
  refine .head (.insert_task _ hT rfl rfl (.inl rfl) hsource fun a ha => ha)
    (insert_task_agents_writes (canonical_agents_spec hagents).2 hold ?_ hdb₂)
  refine ⟨_, hmem, rfl, fun a ha heq => ?_⟩
  simp only [require_independent_reviewer, ensure_eq_ok] at hrev
  exact hrev.2 a heq ha

theorem create_instruction_with_task_writes {project_id : String} {ctx : String × String}
    (hb : (create_instruction_with_task project_id).before cfg (w.view seen) w.db env req =
      .ok (lookup, ctx))
    (h : (create_instruction_with_task project_id).after cfg (w.view seen) w.db env req lookup ctx =
      .ok (db', resp)) :
    Writes cfg w (.request (.create_instruction_with_task project_id) req env seen) w.db db' := by
  simp only [create_instruction_with_task, bind_eq_ok, found_eq_ok, pure_eq_ok, Prod.mk.injEq,
    ensure_eq_ok, inserted_eq_ok, integrity_eq_ok, exists_unit] at hb h
  obtain ⟨task, htask, -, hsource, messages, hmessages, hnew, rfl, -⟩ := h
  obtain ⟨_, -, task_id, hid, -, -, -, -, -, -, -, -, rfl, rfl⟩ := hb
  have htext := (Option.filter_eq_some_iff.mp hid).1
  obtain ⟨hmem, rfl⟩ := Table.find_some htask
  refine .head (.insert_message _ hmessages) (tasks_update fun t ht hid => ?_)
  obtain rfl : t = task := Table.eq_of_key ht hmem (by simpa using hid)
  exact .linked _ _ htext hsource fun q hq heq => hnew ⟨q, hq, heq⟩

/-! ## Approvals -/

theorem approve_task_writes {task_id : String} {ctx : Task × Decision}
    (hb : (approve_task task_id).before cfg (w.view seen) w.db env req = .ok (lookup, ctx))
    (h : (approve_task task_id).after cfg (w.view seen) w.db env req lookup ctx = .ok (db', resp)) :
    Writes cfg w (.request (.approve_task task_id) req env seen) w.db db' := by
  obtain ⟨task, decision⟩ := ctx
  simp only [approve_task, bind_eq_ok, found_eq_ok, pure_eq_ok, Prod.mk.injEq, ensure_eq_ok,
    inserted_eq_ok, exists_unit] at hb h
  obtain ⟨_, -, task, hread, -, actor, -, -, -, rfl, rfl, rfl⟩ := hb
  obtain ⟨hstatus, -, -, -, -, approvals, hinsert, rfl, -⟩ := h
  obtain rfl := (Table.find_some hread).2
  refine .head (.insert_approval _ hinsert (.decided _ _ _ _ hread hstatus))
    (tasks_update fun t ht hid => ?_)
  rw [beq_iff_eq] at hid
  exact hid ▸ TaskMove.decided (t := t) env.now ht (hid ▸ hread) hstatus

theorem revoke_approval_writes {task_id approval_id : String} {ctx : Approval}
    (h : (revoke_approval task_id approval_id).after cfg (w.view seen) w.db env req lookup ctx =
      .ok (db', resp)) :
    Writes cfg w (.request (.revoke_approval task_id approval_id) req env seen) w.db db' := by
  simp only [revoke_approval, bind_eq_ok, pure_eq_ok, Prod.mk.injEq, ensure_eq_ok,
    exists_unit] at h
  obtain ⟨-, rfl, -⟩ := h
  exact revoke_writes _ _

/-! ## Reviewers and transitions -/

/-- An approval that an update has left without `revoked_at` was so before. -/
theorem mem_revoke {env : Env} {cond : Approval → Bool} {a : Approval}
    (h : a ∈ (revoke db env cond).approvals) (hlive : a.revoked_at = none) :
    a ∈ db.approvals ∧ cond a = false := by
  simp only [revoke, Table.mem_update] at h
  obtain ⟨q, hq, rfl⟩ := h
  by_cases hc : cond q = true
  · simp [hc] at hlive
  · rw [Bool.not_eq_true] at hc
    rw [if_neg (by simp [hc])]
    exact ⟨hq, hc⟩

theorem assign_existing_task_reviewer_writes {task_id : String} {ctx : Task × String × Int}
    (hb : (assign_existing_task_reviewer task_id).before cfg (w.view seen) w.db env req =
      .ok (lookup, ctx))
    (h : (assign_existing_task_reviewer task_id).after cfg (w.view seen) w.db env req lookup ctx =
      .ok (db', resp)) :
    Writes cfg w (.request (.assign_existing_task_reviewer task_id) req env seen) w.db db' := by
  obtain ⟨task, reviewer, expected⟩ := ctx
  simp only [assign_existing_task_reviewer, bind_eq_ok, found_eq_ok, pure_eq_ok, Prod.mk.injEq,
    ensure_eq_ok, exists_unit] at hb h
  obtain ⟨_, -, _, -, _, -, _, -, actor, -, -, -, task, hfind, rfl, rfl, rfl, rfl⟩ := hb
  obtain ⟨hstatus, hnone, -, -, hindep, ⟨hidle, -⟩, rfl, -⟩ := h
  refine (revoke_writes env _).trans (tasks_update fun t ht hid => ?_)
  obtain ⟨hmem, rfl⟩ := Table.find_some hfind
  rw [beq_iff_eq] at hid
  obtain rfl : t = task := Table.eq_of_key ht hmem hid
  refine .reviewed _ _ hmem hstatus hnone ?_ ?_ ?_
  · intro hagent
    simp only [require_independent_reviewer, ensure_eq_ok] at hindep
    refine hindep.2 _ rfl ?_
    simp only [DB.agents, List.mem_mergeSort, List.mem_map, List.mem_filter]
    exact ⟨_, ⟨hagent, by simp⟩, rfl⟩
  · intro d hd hm
    rw [Bool.eq_false_iff]
    exact fun hact => hidle (List.any_eq_true.mpr ⟨d, hd, by simp [hm, hact]⟩)
  · intro a ha htask hdec hlive n hn
    obtain ⟨-, hc⟩ := mem_revoke ha hlive
    rw [Option.mem_def] at hn
    simpa [htask, hdec, hlive, hn] using hc

theorem transition_task_writes {task_id : String} {ctx : Task × TaskStatus}
    (hb : (transition_task task_id).before cfg (w.view seen) w.db env req = .ok (lookup, ctx))
    (h : (transition_task task_id).after cfg (w.view seen) w.db env req lookup ctx =
      .ok (db', resp)) :
    Writes cfg w (.request (.transition_task task_id) req env seen) w.db db' := by
  obtain ⟨task, target⟩ := ctx
  simp only [transition_task, bind_eq_ok, found_eq_ok, pure_eq_ok, Prod.mk.injEq, ensure_eq_ok,
    exists_unit] at hb h
  obtain ⟨target, hstatus, hcompleted, task, hread, -, actor, -, -, rfl, rfl, rfl⟩ := hb
  obtain ⟨-, htarget, -, effective, -, -, renewed, -, rfl, -⟩ := h
  obtain rfl := (Table.find_some hread).2
  refine (revoke_writes env _).trans (tasks_update fun t ht hid => ?_)
  rw [beq_iff_eq] at hid
  refine hid ▸ TaskMove.transitioned (t := t) _ env.now ht (hid ▸ hread) hstatus htarget
    hcompleted ?_
  intro hawaiting hdraft a ha htask hdec hlive hseen
  obtain ⟨-, hc⟩ := mem_revoke ha hlive
  have hrenews : target = .awaiting_approval ∧
      task.status ∈ [.rework_required, .stopped, .stop_unconfirmed, .qa] := by
    refine ⟨hawaiting, ?_⟩
    rw [hawaiting] at htarget
    cases hs : task.status <;> simp_all [TRANSITIONS]
  rw [if_pos hrenews, decide_eq_false_iff_not] at hc
  refine hc (List.mem_map_of_mem ?_)
  simp only [DB.unrevoked, List.mem_filter]
  exact ⟨hseen, by simp [hlive, hdec, htask, hid]⟩

/-! ## Deliveries -/

/-- The state of the context token is that of now. -/
theorem fresh_context_task {task : Task} {actor action task_id : String}
    (h : require_fresh_context cfg env req actor task.project_id action task_id
      (task_fingerprint (w.view seen .context) task.project_id task_id)
      (task_fingerprint w.db task.project_id task_id) = .ok ())
    (hb : cfg.fresh_context_bypassed = false) :
    w.db.tasks.find task_id = (w.view seen .context).tasks.find task_id := by
  unfold require_fresh_context at h
  rw [if_neg (by simp [hb])] at h
  split at h
  · simp at h
  · split at h
    · simp at h
    · rw [ensure_eq_ok] at h
      exact (congrArg TaskFingerprint.task h).symm

/-- The deliveries of an endpoint, one after the other. -/
theorem insert_deliveries_writes {message_id : String} {revision : Nat} {deadline : Option Int}
    {agents : List String} {n : Nat}
    (hnew : ∀ a ∈ agents, ∀ id db₁, db₁.tasks = db.tasks → db₁.approvals = db.approvals →
      NewDelivery cfg w l db₁
        (queued_delivery id message_id a revision deadline none env.now))
    (h : insert_deliveries db env message_id revision deadline agents n = some db') :
    Writes cfg w l db db' := by
  unfold insert_deliveries at h
  induction agents generalizing db n with
  | nil =>
    obtain rfl : db = db' := by simpa using h
    exact .refl
  | cons a agents ih =>
    rw [List.zipIdx_cons, List.foldlM_cons, Option.bind_eq_bind, Option.bind_eq_some_iff] at h
    obtain ⟨db₁, hins, h⟩ := h
    obtain ⟨T, hT, rfl, hunique⟩ := insert_delivery_eq_some hins
    refine .head (.insert_delivery _ hT (hnew a List.mem_cons_self _ db rfl rfl) hunique)
      (ih (fun b hb id db₁ ht ha => hnew b (List.mem_cons_of_mem _ hb) id db₁ ht ha) h)

theorem approve_and_execute_task_writes {task_id : String} {ctx : Task}
    (hb : (approve_and_execute_task task_id).before cfg (w.view seen) w.db env req =
      .ok (lookup, ctx))
    (h : (approve_and_execute_task task_id).after cfg (w.view seen) w.db env req lookup ctx =
      .ok (db', resp)) :
    Writes cfg w (.request (.approve_and_execute_task task_id) req env seen) w.db db' := by
  simp only [approve_and_execute_task, bind_eq_ok, found_eq_ok, pure_eq_ok, Prod.mk.injEq,
    exists_unit] at hb h
  obtain ⟨task, hread, -, actor, -, -, -, -, -, -, rfl, rfl⟩ := hb
  obtain ⟨hfresh, -, h⟩ := h
  split at h
  · simp only [pure_eq_ok, Prod.mk.injEq] at h
    obtain ⟨rfl, -⟩ := h
    exact .refl
  · rename_i message_id hstatus hsource
    simp only [bind_eq_ok, found_eq_ok, ensure_eq_ok, inserted_eq_ok, pure_eq_ok, Prod.mk.injEq,
      exists_unit] at h
    obtain ⟨expires_at, -, -, -, -, approvals, hinsert, db₁, hdeliveries, rfl, -⟩ := h
    obtain rfl := (Table.find_some hread).2
    refine .trans (deliveries_update fun d _ hd => ?_)
      (.head (.insert_approval _ hinsert (.executed _ _ _ hread hstatus))
        (.trans (tasks_update fun t ht hid => ?_) (insert_deliveries_writes ?_ hdeliveries)))
    · simp only [is_stale, Bool.and_eq_true, decide_eq_true_eq, Option.any_eq_true] at hd
      exact .reclaimed hd.1.1 hd.1.2 hd.2
    · rw [beq_iff_eq] at hid
      exact hid ▸ TaskMove.executed (t := t) env.now ht (hid ▸ hread) hstatus (by simp [hsource])
        (hid ▸ fresh_context_task hfresh)
    · intro agent hagent id db₁ ht ha
      refine .executed id env.now hread hstatus hsource hagent ?_ ?_
      · intro t hmem hid
        simp only [ht, Table.mem_update] at hmem
        obtain ⟨q, -, rfl⟩ := hmem
        split
        · rfl
        · rename_i hne
          rw [if_neg hne] at hid
          simp [hid] at hne
      · refine ⟨new_approval cfg env (env.uuid 0) actor task (w.db.agents task.id) .approved
          (some expires_at), ?_, rfl, ?_⟩
        · rw [ha]
          exact (Table.mem_insert hinsert).mpr (.inr rfl)
        · exact fun q hq heq => (Table.insert_eq_some hinsert).2 (List.mem_map.mpr ⟨q, hq, heq⟩)
  · simp at h

theorem deliver_message_writes {message_id : String} {ctx : Task × List String}
    (hb : (deliver_message message_id).before cfg (w.view seen) w.db env req = .ok (lookup, ctx))
    (h : (deliver_message message_id).after cfg (w.view seen) w.db env req lookup ctx =
      .ok (db', resp)) :
    Writes cfg w (.request (.deliver_message message_id) req env seen) w.db db' := by
  obtain ⟨task, agents⟩ := ctx
  simp only [deliver_message, bind_eq_ok, found_eq_ok, pure_eq_ok, Prod.mk.injEq, ensure_eq_ok,
    inserted_eq_ok, exists_unit] at hb h
  obtain ⟨agents, -, message, hmessage, actor, -, -, hstop, task_id, -, task, hread, hallowed, -,
    hstatus, -, -, happroval, -, -, -, -, rfl, rfl⟩ := hb
  obtain ⟨db₁, hdeliveries, rfl, -⟩ := h
  obtain ⟨hread, hsource⟩ := Option.filter_eq_some_iff.mp hread
  obtain rfl := (Table.find_some hread).2
  rw [beq_iff_eq] at hsource
  refine insert_deliveries_writes (fun a ha id db₁ _ _ => ?_) hdeliveries
  exact .delivered id env.now hread hstatus hsource (hallowed a ha) happroval ⟨message, hmessage, hstop⟩

theorem retry_delivery_writes {delivery_id : String} {ctx : String}
    (hb : (retry_delivery delivery_id).before cfg (w.view seen) w.db env req = .ok (lookup, ctx))
    (h : (retry_delivery delivery_id).after cfg (w.view seen) w.db env req lookup ctx =
      .ok (db', resp)) :
    Writes cfg w (.request (.retry_delivery delivery_id) req env seen) w.db db' := by
  simp only [retry_delivery, bind_eq_ok, found_eq_ok, pure_eq_ok, Prod.mk.injEq, ensure_eq_ok,
    integrity_eq_ok, exists_unit] at hb h
  obtain ⟨row, hrow, actor, -, -, -, hstatus, agent_id, -, hagent, rfl, rfl⟩ := hb
  obtain ⟨hunique, rfl, -⟩ := h
  refine deliveries_update fun d hd hid => ?_
  rw [beq_iff_eq] at hid
  refine hid ▸ DeliveryMove.retried (d := d) agent_id env.now (hid ▸ hrow) ?_ hagent ?_
  · rcases hstatus with h | h <;> simp [is_failure, h]
  · exact fun q hq hne hm ha hr => hunique ⟨d, hd, hid, q, hq, hid ▸ hne, hm, ha, hr⟩

/-! ## Reviews -/

/-- Evidence is appended. -/
theorem insert_evidence_eq_ok {es : List Evidence} (h : insert_evidence db es = .ok db') :
    ∃ T, T.rows = db.evidence.rows ++ es ∧ db' = { db with evidence := T } := by
  simp only [insert_evidence, bind_eq_ok, inserted_eq_ok, pure_eq_ok] at h
  obtain ⟨T, hT, rfl⟩ := h
  refine ⟨T, ?_, rfl⟩
  generalize db.evidence = t at hT
  induction es generalizing t with
  | nil =>
    obtain rfl : t = T := by simpa using hT
    simp
  | cons e es ih =>
    rw [List.foldlM_cons, Option.bind_eq_bind, Option.bind_eq_some_iff] at hT
    obtain ⟨t', ht', hT⟩ := hT
    unfold insert_contract_evidence at ht'
    split at ht'
    · cases ht'
    · rw [ih t' hT, (Table.insert_eq_some ht').1, List.append_assoc, List.singleton_append]

theorem add_evidence_writes {task_id : String} {ctx : Task × String}
    (h : (add_evidence task_id).after cfg (w.view seen) w.db env req lookup ctx = .ok (db', resp)) :
    Writes cfg w (.request (.add_evidence task_id) req env seen) w.db db' := by
  simp only [add_evidence, bind_eq_ok, pure_eq_ok, Prod.mk.injEq, exists_unit] at h
  obtain ⟨-, _, -, db₁, hinsert, rfl, -⟩ := h
  obtain ⟨T, hT, rfl⟩ := insert_evidence_eq_ok hinsert
  exact .single (.insert_evidence _ hT)

theorem qa_verdict_writes {task_id : String} {ctx : Task × Verdict × String}
    (hb : (qa_verdict task_id).before cfg (w.view seen) w.db env req = .ok (lookup, ctx))
    (h : (qa_verdict task_id).after cfg (w.view seen) w.db env req lookup ctx = .ok (db', resp)) :
    Writes cfg w (.request (.qa_verdict task_id) req env seen) w.db db' := by
  simp only [qa_verdict, bind_eq_ok, found_eq_ok, pure_eq_ok, Prod.mk.injEq, ensure_eq_ok,
    inserted_eq_ok, exists_unit] at hb h
  obtain ⟨verdict, hbody, principal, hprincipal, task, hread, actor, -, rfl, rfl⟩ := hb
  obtain ⟨-, -, hstatus, ⟨hactor, -, -, hreviewer, -⟩, ids, -, signature, -, _, -, -, -, T, hinsert, h⟩ := h
  obtain rfl := (Table.find_some hread).2
  have hne : principal ≠ "" := by
    rintro rfl
    obtain ⟨v, -, hv⟩ := Option.bind_eq_some_iff.mp hprincipal
    exact env.canonical_ne v hv
  have hverdict : Write cfg w (.request (.qa_verdict task.id) req env seen) w.db
      { w.db with verdicts := T } :=
    .insert_verdict _ hinsert
      (.judged (env.uuid 0) signature _ principal hread hstatus hne (hreviewer.trans (by rw [hactor])))
  split at h
  · obtain ⟨rfl, -⟩ := h
    exact .single hverdict
  · rename_i hfailed
    obtain ⟨rfl, -⟩ := h
    refine .head hverdict (tasks_update fun t ht hid => ?_)
    rw [beq_iff_eq] at hid
    exact hid ▸ TaskMove.judged (t := t) env.now ht (hid ▸ hread) hstatus
      (hbody ▸ fun hpass => hfailed (Option.some.inj hpass))

theorem representative_completion_writes {task_id : String} {ctx : Task × Decision}
    (hb : (representative_completion task_id).before cfg (w.view seen) w.db env req =
      .ok (lookup, ctx))
    (h : (representative_completion task_id).after cfg (w.view seen) w.db env req lookup ctx =
      .ok (db', resp)) :
    Writes cfg w (.request (.representative_completion task_id) req env seen) w.db db' := by
  simp only [representative_completion, bind_eq_ok, found_eq_ok, pure_eq_ok, Prod.mk.injEq,
    ensure_eq_ok, inserted_eq_ok, only_if_eq_ok, exists_unit] at hb h
  obtain ⟨decision, hbody, task, hread, principal, -, -, actor, -, -, -, rfl, rfl⟩ := hb
  obtain ⟨hfresh, hstatus, hchecks, T, hinsert, h⟩ := h
  obtain rfl := (Table.find_some hread).2
  have hinserted : Write cfg w (.request (.representative_completion task.id) req env seen) w.db
      { w.db with representative_approvals := T } := .insert_representative _ hinsert
  split at h
  · rename_i hdecision
    obtain ⟨rfl, -⟩ := h
    refine .head hinserted (tasks_update fun t ht hid => ?_)
    rw [beq_iff_eq] at hid
    refine hid ▸ TaskMove.completed (t := t) env.now ht (hid ▸ hread) hstatus
      (hdecision ▸ hbody) (hid ▸ fresh_context_task hfresh) ?_ ⟨_, (Table.mem_insert hinsert).mpr (.inr rfl), rfl,
        hdecision, rfl, rfl, rfl, rfl⟩
    by_contra hmissing
    cases hchecks ⟨hdecision, hmissing⟩
  · obtain ⟨rfl, -⟩ := h
    refine .head hinserted (tasks_update fun t ht hid => ?_)
    rw [beq_iff_eq] at hid
    exact hid ▸ TaskMove.rejected (t := t) env.now ht (hid ▸ hread) hstatus
      (hid ▸ fresh_context_task hfresh)

/-! ## Recoveries of a review -/

theorem capture_required_evidence_eq_ok {task_id : String}
    (h : capture_required_evidence cfg db env task_id = .ok db') :
    ∃ es T, T.rows = db.evidence.rows ++ es ∧ db' = { db with evidence := T } := by
  unfold capture_required_evidence at h
  split at h
  · cases h
    exact ⟨[], _, (List.append_nil _).symm, rfl⟩
  · split at h
    · exact ⟨_, insert_evidence_eq_ok h⟩
    · cases h
      exact ⟨[], _, (List.append_nil _).symm, rfl⟩

theorem archive_eq_ok {task : Task} {stage delivery_id : String} {record : Option Delivery}
    (h : archive db env task stage delivery_id record = .ok db') :
    db'.tasks = db.tasks ∧ db'.deliveries = db.deliveries ∧
      ∃ a ∈ db'.attempts, a.stage = stage ∧ a.delivery_id = delivery_id ∧ a.record = record := by
  simp only [archive, bind_eq_ok, inserted_eq_ok, pure_eq_ok] at h
  obtain ⟨T, hT, rfl⟩ := h
  exact ⟨rfl, rfl, _, (Table.mem_insert hT).mpr (.inr rfl), rfl, rfl, rfl⟩

theorem archive_writes {task : Task} {stage delivery_id : String} {record : Option Delivery}
    (h : archive db env task stage delivery_id record = .ok db') : Write cfg w l db db' := by
  simp only [archive, bind_eq_ok, inserted_eq_ok, pure_eq_ok] at h
  obtain ⟨T, hT, rfl⟩ := h
  exact .others db.projects db.participants db.runs db.units T db.revalidations fun a ha =>
    (Table.mem_insert hT).mpr (.inl ha)

theorem mem_agents {task_id agent_id : String} :
    agent_id ∈ db.agents task_id ↔ (task_id, agent_id) ∈ db.task_agents := by
  simp only [DB.agents, List.mem_mergeSort, List.mem_map, List.mem_filter, Table.mem_def]
  constructor
  · rintro ⟨⟨t, a⟩, ⟨hmem, ht⟩, rfl⟩
    rw [beq_iff_eq] at ht
    exact ht ▸ hmem
  · exact fun h => ⟨_, ⟨h, by simp⟩, rfl⟩

theorem queue_auto_qa_delivery_writes {task_id id : String} {message_id : Option String}
    {queued : Bool}
    (hsource : ∀ t ∈ db.tasks, t.id = task_id → ∀ m ∈ message_id, t.source_message_id = some m ∨
      ∃ row, w.row l = some row ∧ row.task_id = some t.id ∧ row.delivery.message_id = m)
    (h : queue_auto_qa_delivery cfg db env task_id message_id id = .ok (db', queued)) :
    Writes cfg w l db db' := by
  unfold queue_auto_qa_delivery at h
  split at h
  · rename_i task _ hfind
    obtain ⟨hmem, rfl⟩ := Table.find_some hfind
    simp only at h
    split at h
    · cases h
      exact .refl
    · rename_i hqa
      obtain ⟨hstatus, hreviewer⟩ : task.status = .qa ∧ task.reviewer_agent_id.getD "" ≠ "" := by
        simpa using hqa
      obtain ⟨r, hr⟩ : ∃ r, task.reviewer_agent_id = some r := by
        cases hr : task.reviewer_agent_id with
        | none => simp [hr] at hreviewer
        | some r => exact ⟨r, rfl⟩
      simp only [hr, Option.getD_some] at h hreviewer
      split at h
      · rename_i hagent
        cases h
        refine tasks_update fun t ht hid => ?_
        obtain rfl : t = task := Table.eq_of_key ht hmem (by simpa using hid)
        exact .unreviewable _ hstatus ⟨r, hr, mem_agents.mp hagent⟩
      · rename_i hagent
        split at h
        · cases h
          exact .refl
        · split at h
          · cases h
            exact .single (.mark _ _ _ _)
          · rename_i session _
            simp only [bind_eq_ok, inserted_eq_ok, pure_eq_ok, Prod.mk.injEq] at h
            obtain ⟨m, hm, db₁, hins, rfl, -⟩ := h
            obtain ⟨T, hT, rfl, hunique⟩ := insert_delivery_eq_some hins
            refine .single (.insert_delivery _ hT ?_ hunique)
            exact .reviewed id _ session env.now hmem hstatus (hsource task hmem rfl m hm) hr hreviewer
              fun hin => hagent (mem_agents.mpr hin)
  · cases h
    exact .refl

/-- The statements from the new cycle of a review on. -/
theorem reopen_writes {task : Task} {result : List (String × Json)}
    (hsource : ∀ t ∈ db.tasks, t.id = task.id → t.source_message_id = task.source_message_id)
    (h : resume_qa.reopen cfg env task db = .ok (db', result)) :
    Writes cfg w (.request (.resume_task_qa task.id) req env seen) db db' := by
  simp only [resume_qa.reopen, bind_eq_ok, pure_eq_ok, Prod.mk.injEq] at h
  obtain ⟨db₁, hcapture, ⟨db₂, queued⟩, hqueue, rfl, -⟩ := h
  obtain ⟨es, T, hT, rfl⟩ := capture_required_evidence_eq_ok hcapture
  have hresolve : Writes cfg w (.request (.resume_task_qa task.id) req env seen) db₂
      (if queued then resolve_where db₂ fun i => i.task_id == task.id &&
        i.task_revision == task.revision && i.stage == "QA" else db₂) := by
    split
    · exact .single (.resolve _)
    · exact .refl
  refine .trans (tasks_update fun t _ ht => ?_) (.head (.insert_evidence es hT)
    (.trans (queue_auto_qa_delivery_writes ?_ hqueue) hresolve))
  · simp only [Bool.and_eq_true, beq_iff_eq] at ht
    exact ht.1.1 ▸ TaskMove.resumed (t := t) _ _ ht.2
  · intro t ht hid m hm
    left
    simp only [Table.mem_update] at ht
    obtain ⟨q, hq, rfl⟩ := ht
    have hid' : q.id = task.id := by grind
    have := hsource q hq hid'
    rw [Option.mem_def] at hm
    split <;> simp [this, hm]

theorem resume_task_qa_writes {task_id : String} {ctx : Task}
    (hb : (resume_task_qa task_id).before cfg (w.view seen) w.db env req = .ok (lookup, ctx))
    (h : (resume_task_qa task_id).after cfg (w.view seen) w.db env req lookup ctx =
      .ok (db', resp)) :
    Writes cfg w (.request (.resume_task_qa task_id) req env seen) w.db db' := by
  simp only [resume_task_qa, bind_eq_ok, found_eq_ok, pure_eq_ok, Prod.mk.injEq,
    exists_unit] at hb h
  obtain ⟨task, hfind, -, actor, -, -, -, -, rfl, rfl⟩ := hb
  obtain ⟨-, ⟨db₁, result⟩, hresume, rfl, -⟩ := h
  obtain ⟨hmem, rfl⟩ := Table.find_some hfind
  have hsource : ∀ t ∈ w.db.tasks, t.id = task.id → t.source_message_id = task.source_message_id :=
    fun t ht hid => congrArg _ (Table.eq_of_key ht hmem hid)
  simp only [resume_qa, bind_eq_ok, ensure_eq_ok, exists_unit] at hresume
  obtain ⟨hstatus, -, hreviewer, h⟩ := hresume
  split at h
  · rename_i previous hprevious
    split at h
    · obtain ⟨rfl, -⟩ := Prod.mk.inj (pure_eq_ok.mp h)
      exact .refl
    · rename_i hactive
      simp only [bind_eq_ok] at h
      obtain ⟨db₂, harchive, h⟩ := h
      have hwrite : Write cfg w (.request (.resume_task_qa task.id) req env seen) w.db db₂ :=
        archive_writes harchive
      obtain ⟨htasks, hdeliveries, harchived⟩ := archive_eq_ok harchive
      obtain ⟨hfound, hmatch⟩ := And.intro (List.mem_of_find?_eq_some hprevious)
        (List.find?_some hprevious)
      simp only [Bool.and_eq_true, beq_iff_eq] at hmatch
      refine .head hwrite (.head (.delete_delivery (t := task) previous (htasks ▸ hmem) ?_ ?_ hstatus
        hmatch.1.1.symm hmatch.1.2.symm hmatch.2 harchived) (reopen_writes ?_ h))
      · rw [hdeliveries]
        exact hfound
      · simpa using hactive
      · rw [htasks]
        exact hsource
  · exact reopen_writes hsource h

theorem queue_review_writes {task : Task}
    (hsource : ∀ t ∈ db.tasks, t.id = task.id → t.source_message_id = task.source_message_id)
    (h : queue_review cfg db env task = .ok db') : Writes cfg w l db db' := by
  simp only [queue_review, bind_eq_ok, ensure_eq_ok, pure_eq_ok, exists_unit] at h
  obtain ⟨⟨db₁, queued⟩, hqueue, -, rfl⟩ := h
  refine queue_auto_qa_delivery_writes (fun t ht hid m hm => .inl ?_) hqueue
  rw [Option.mem_def] at hm
  rw [hsource t ht hid, hm]

/-- The sources are those before an update that leaves them. -/
theorem source_update {task t : Task} {cond : Task → Bool} {f : Task → Task}
    (hf : ∀ t, (f t).id = t.id) (hsource : ∀ t, (f t).source_message_id = t.source_message_id)
    (hmem : task ∈ db.tasks) (ht : ∃ q ∈ db.tasks, t = if cond q then f q else q)
    (hid : t.id = task.id) : t.source_message_id = task.source_message_id := by
  obtain ⟨q, hq, rfl⟩ := ht
  have hq' : q.id = task.id := by grind
  obtain rfl := Table.eq_of_key hq hmem hq'
  split
  · exact hsource q
  · rfl

theorem recover_qa_rework_writes {task_id : String} {ctx : Task × String × String × String}
    (hb : (recover_qa_rework task_id).before cfg (w.view seen) w.db env req = .ok (lookup, ctx))
    (h : (recover_qa_rework task_id).after cfg (w.view seen) w.db env req lookup ctx =
      .ok (db', resp)) :
    Writes cfg w (.request (.recover_qa_rework task_id) req env seen) w.db db' := by
  simp only [recover_qa_rework, bind_eq_ok, found_eq_ok, pure_eq_ok, Prod.mk.injEq,
    exists_unit] at hb h
  obtain ⟨_, -, _, -, _, -, task, hfind, -, actor, -, -, -, -, rfl, rfl⟩ := hb
  obtain ⟨-, ⟨db₁, result⟩, hrecover, rfl, -⟩ := h
  obtain ⟨hmem, rfl⟩ := Table.find_some hfind
  simp only [recover_false_qa_rework, bind_eq_ok, found_eq_ok, ensure_eq_ok, pure_eq_ok,
    exists_unit, Prod.mk.injEq] at hrecover
  obtain ⟨hstatus, -, verdict, -, -, ⟨run, delivery⟩, -, -, -, -, -, -, -, -, -, current, -, db₂, hinsert,
    db₃, hqueue, db₄, harchive, rfl, -⟩ := hrecover
  obtain ⟨T, hT, rfl⟩ := insert_evidence_eq_ok hinsert
  refine .trans (tasks_update fun t ht hid => ?_) (.head (.insert_evidence _ hT)
    (.trans (queue_review_writes ?_ hqueue) (.tail ?_ (archive_writes harchive))))
  · simp only [Bool.and_eq_true, beq_iff_eq] at hid
    obtain rfl : t = task := Table.eq_of_key ht hmem hid.1
    exact .recovered _ hid.2
  · intro t ht hid
    simp only [Table.mem_update] at ht
    exact source_update (by simp) (by simp) hmem ht hid
  · split
    · exact .single (.resolve _)
    · exact .refl

theorem revalidated_writes {task : Task} (hmem : task ∈ db.tasks)
    (h : revalidated cfg db env task = .ok db') :
    Writes cfg w (.request (.revalidate_task_result task.id) req env seen) db db' := by
  simp only [revalidated, bind_eq_ok, found_eq_ok, pure_eq_ok] at h
  obtain ⟨current, -, db₂, hinsert, db₃, hqueue, rfl⟩ := h
  obtain ⟨T, hT, rfl⟩ := insert_evidence_eq_ok hinsert
  refine .trans (@tasks_update _ _ _ _ _ _ (by intro t; rfl) fun t ht hid => ?_)
    (.trans (deliveries_update fun d _ hd => ?_)
      (.head (.insert_evidence _ hT) (.tail (queue_review_writes ?_ hqueue) (.resolve _))))
  · simp only [Bool.and_eq_true, beq_iff_eq, decide_eq_true_eq] at hid
    obtain rfl : t = task := Table.eq_of_key ht hmem hid.1
    refine .revalidated _ _ hid.2 ?_
    split <;> omega
  · simp only [Bool.and_eq_true, beq_iff_eq] at hd
    exact .bypassed _ hd.2
  · intro t ht hid
    simp only [Table.mem_update] at ht
    exact source_update (by simp) (by simp) hmem ht hid

theorem revalidate_task_result_writes {task_id : String} {ctx : Task × String}
    (hb : (revalidate_task_result task_id).before cfg (w.view seen) w.db env req = .ok (lookup, ctx))
    (h : (revalidate_task_result task_id).after cfg (w.view seen) w.db env req lookup ctx =
      .ok (db', resp)) :
    Writes cfg w (.request (.revalidate_task_result task_id) req env seen) w.db db' := by
  simp only [revalidate_task_result, bind_eq_ok, found_eq_ok, inserted_eq_ok, pure_eq_ok,
    Prod.mk.injEq, exists_unit] at hb h
  obtain ⟨_, -, task, hfind, actor, -, -, rfl, rfl⟩ := hb
  obtain ⟨-, -, -, -, run, -, ⟨passed, reason⟩, -, T, hT, result, hresult, rfl, -⟩ := h
  obtain ⟨hmem, rfl⟩ := Table.find_some hfind
  refine .head (.others w.db.projects w.db.participants w.db.runs w.db.units w.db.attempts T
    fun _ => id) ?_
  unfold some_if at hresult
  split at hresult
  · obtain ⟨db₁, hdb₁, rfl⟩ := map_eq_ok.mp hresult
    exact revalidated_writes hmem hdb₁
  · cases hresult
    exact .refl

/-! ## Stops -/

/-- Only runs are written. -/
theorem persist_execution_eq (db : DB) (snapshot : Option ExecutionRun) (project_id : String)
    (task_id : Option String) (agent_id : String) (now : Int) :
    persist_execution db snapshot project_id task_id agent_id now =
      { db with runs := (persist_execution db snapshot project_id task_id agent_id now).runs } := by
  unfold persist_execution
  split <;> rfl

theorem persist_snapshots_eq (db : DB) (env : Env) (project_id : String) (ds : List Delivery) :
    persist_snapshots db env project_id ds =
      { db with runs := (persist_snapshots db env project_id ds).runs } := by
  unfold persist_snapshots
  induction ds generalizing db with
  | nil => rfl
  | cons d ds ih =>
    rw [List.foldl_cons, persist_execution_eq, ih]

theorem runs_writes (runs : Table ExecutionRun ExecutionRun.core_run_id) :
    Write cfg w l db { db with runs := runs } :=
  .others db.projects db.participants runs db.units db.attempts db.revalidations fun _ => id

theorem stop_deliveries_writes {project_id : String} :
    Writes cfg w (.request (.stop_project project_id) req env seen) w.db
      (stop_deliveries cfg w.db env project_id).1 := by
  unfold stop_deliveries
  simp only
  rw [persist_snapshots_eq]
  refine .trans (controls_update fun c _ hc => ?_) (.trans (deliveries_update fun d _ hd => ?_)
    (.head (runs_writes _) (deliveries_update fun d hmem hd => ?_)))
  · rw [beq_iff_eq] at hc
    exact .stop_requested _ _ _ (.inl ⟨req, env, seen, by rw [hc]⟩)
  · simp only [Bool.and_eq_true, beq_iff_eq] at hd
    exact .project_barred _ hd.1 hd.2
  · rw [Bool.and_eq_true] at hd
    refine .project_answered _ _ hd.1 hd.2 ?_ rfl
    simp only [Table.mem_update] at hmem
    obtain ⟨q, hq, rfl⟩ := hmem
    split
    · rename_i hc
      rw [if_pos hc] at hd
      simp [Delivery.sent] at hd
    · exact hq

theorem stop_project_writes {project_id : String} {ctx : Unit}
    (h : (stop_project project_id).after cfg (w.view seen) w.db env req lookup ctx =
      .ok (db', resp)) :
    Writes cfg w (.request (.stop_project project_id) req env seen) w.db db' := by
  simp only [stop_project, bind_eq_ok, pure_eq_ok, Prod.mk.injEq, exists_unit] at h
  obtain ⟨-, rfl, -⟩ := h
  refine .trans stop_deliveries_writes (.trans (controls_update fun c _ hc => ?_)
    (.trans (revoke_writes env _) (tasks_update fun t ht hcond => ?_)))
  · rw [beq_iff_eq] at hc
    exact hc ▸ ControlMove.stop_answered (c := c) env.now
  · simp only [Bool.and_eq_true, beq_iff_eq, decide_eq_true_eq] at hcond
    refine .project_stopped _ _ hcond.1 hcond.2 ?_ ?_
    · split <;> simp
    · intro a ha htask hlive
      obtain ⟨-, hc⟩ := mem_revoke ha hlive
      have hfind := Table.mem_iff_find.mp ht
      simp only [set_stop_state, set_control, revoke] at hfind hc
      simp [htask, hfind, hlive, hcond.1] at hc

theorem stop_task_deliveries_writes {task : Task} (hread : w.read seen task.id = some task) :
    Writes cfg w (.request (.stop_task task.id) req env seen) w.db
      (stop_task_deliveries cfg (w.view seen) w.db env task).1 := by
  unfold stop_task_deliveries
  simp only
  rw [persist_snapshots_eq]
  refine .trans (@deliveries_update _ _ _ _ _ _ (by intro d; rfl) fun d hmem hd => ?_)
    (.tail (deliveries_update fun d _ hd => ?_) (runs_writes _))
  · obtain ⟨q, hq, hid⟩ := List.mem_map.mp (of_decide_eq_true hd)
    exact .task_barred _ hread hq hid hmem
  · rw [Bool.and_eq_true] at hd
    exact .task_answered _ _ hd.1

theorem stop_task_deliveries_tasks (task : Task) :
    (stop_task_deliveries cfg (w.view seen) w.db env task).1.tasks = w.db.tasks := by
  unfold stop_task_deliveries
  simp only
  rw [persist_snapshots_eq]

/-- A stop that changes the status makes a new revision. -/
theorem stopped_writes {task : Task} {status : TaskStatus}
    (hread : w.read seen task.id = some task) (htasks : db.tasks = w.db.tasks)
    (hstatus : task.status ≠ .completed) (hmem : status ∈ [.stopped, .stop_unconfirmed])
    (happrovals : ∀ a ∈ db.approvals, a.task_id = task.id → a.decision = .approved →
      a.revoked_at ≠ none) :
    Writes cfg w (.request (.stop_task task.id) req env seen) db
      (if task.status = status then db else next_revision db env task.id status) := by
  split
  · exact .refl
  · rename_i hne
    refine tasks_update fun t ht hid => ?_
    rw [beq_iff_eq] at hid
    exact hid ▸ TaskMove.task_stopped (t := t) _ env.now (htasks ▸ ht) (hid ▸ hread) hstatus hne hmem
      (hid ▸ happrovals)

theorem stop_task_writes {task_id : String} {ctx : Task}
    (hb : (stop_task task_id).before cfg (w.view seen) w.db env req = .ok (lookup, ctx))
    (h : (stop_task task_id).after cfg (w.view seen) w.db env req lookup ctx = .ok (db', resp)) :
    Writes cfg w (.request (.stop_task task_id) req env seen) w.db db' := by
  simp only [stop_task, bind_eq_ok, found_eq_ok, pure_eq_ok, Prod.mk.injEq, ensure_eq_ok,
    exists_unit] at hb h
  obtain ⟨task, hread, actor, -, -, -, rfl, rfl⟩ := hb
  obtain ⟨-, hstatus, rfl, -⟩ := h
  obtain rfl := (Table.find_some hread).2
  refine .trans (stop_task_deliveries_writes hread) (.trans (revoke_writes env fun a =>
    a.task_id == task.id && a.decision == .approved && a.revoked_at.isNone)
    (stopped_writes hread (stop_task_deliveries_tasks task) hstatus ?_ ?_))
  · split <;> simp
  · intro a ha htask hdec hlive
    obtain ⟨-, hc⟩ := mem_revoke ha hlive
    simp [htask, hdec, hlive] at hc

theorem stop_ack_writes {project_id : String} {ctx : Unit}
    (h : (stop_ack project_id).after cfg (w.view seen) w.db env req lookup ctx = .ok (db', resp)) :
    Writes cfg w (.request (.stop_ack project_id) req env seen) w.db db' := by
  simp only [stop_ack, bind_eq_ok, found_eq_ok, pure_eq_ok, Prod.mk.injEq, ensure_eq_ok,
    exists_unit] at h
  obtain ⟨cycle_at, hcycle, _, -, -, rfl, -⟩ := h
  obtain ⟨hat, hstate⟩ := Option.filter_eq_some_iff.mp hcycle
  refine controls_update fun c _ hc => ?_
  rw [beq_iff_eq] at hc
  exact hc ▸ ControlMove.acknowledged (c := c) cycle_at env.now (hc ▸ hat)
    (hc ▸ of_decide_eq_true hstate)

theorem resume_project_writes {project_id : String} {ctx : Unit}
    (h : (resume_project project_id).after cfg (w.view seen) w.db env req lookup ctx =
      .ok (db', resp)) :
    Writes cfg w (.request (.resume_project project_id) req env seen) w.db db' := by
  simp only [resume_project, bind_eq_ok, pure_eq_ok, Prod.mk.injEq, ensure_eq_ok,
    exists_unit] at h
  obtain ⟨-, hstate, -, rfl, -⟩ := h
  refine controls_update fun c _ hc => ?_
  rw [beq_iff_eq] at hc
  exact hc ▸ ControlMove.resumed (c := c) env.now (hc ▸ hstate)

end

end WarRoom

end Plachem
