import PlachemMonitor.WarRoom.History

/-!
# What only grows

* `Task.Grows`: revision and cycle of a task never go down, and what it is about stays.
* `DB.Grows`: tasks, approvals, messages, evidence and verdicts stay; the agents of a task are those
  that it was created with.
* `step_grows`, `inductive_grows`: steps extend it, so the earlier states of a world are ordered by it.
* `run_grows`: so do whole runs.
* `write_sources`: no two tasks have one instruction.
-/

namespace Plachem

namespace WarRoom

/-- What stays of a task, whatever is done to it. -/
structure Task.Grows (t t' : Task) : Prop where
  id : t'.id = t.id
  revision : t.revision ≤ t'.revision
  qa_cycle : t.qa_cycle ≤ t'.qa_cycle
  /-- A reviewer comes with a revision. -/
  reviewer : t'.revision = t.revision → t'.reviewer_agent_id = t.reviewer_agent_id
  source : ∀ m, t.source_message_id = some m → t'.source_message_id = some m
  project_id : t'.project_id = t.project_id
  scope : t'.scope = t.scope
  document_version : t'.document_version = t.document_version
  assignee : t'.assignee_agent_id = t.assignee_agent_id
  execution_mode : t'.execution_mode = t.execution_mode
  call_limit : t'.call_limit = t.call_limit
  turn_limit : t'.turn_limit = t.turn_limit

/-- What stays of the tables. -/
structure DB.Grows (a b : DB) : Prop where
  tasks : ∀ t ∈ a.tasks, ∃ t' ∈ b.tasks, t.Grows t'
  agents : ∀ t ∈ a.tasks, ∀ agent_id, (t.id, agent_id) ∈ b.task_agents ↔
    (t.id, agent_id) ∈ a.task_agents
  approvals : ∀ q ∈ a.approvals, ∃ q' ∈ b.approvals,
    q' = q ∨ ∃ now, q' = { q with revoked_at := some now }
  messages : ∀ m ∈ a.messages, m ∈ b.messages
  evidence : ∀ e ∈ a.evidence, e ∈ b.evidence
  verdicts : ∀ v ∈ a.verdicts, v ∈ b.verdicts
  representative_approvals : ∀ r ∈ a.representative_approvals, r ∈ b.representative_approvals

variable {cfg : Config} {w w' : World} {l : Label} {a b c db : DB} {t t' t'' : Task}

namespace Task.Grows

theorem refl (t : Task) : t.Grows t := by
  constructor <;> simp

theorem trans (h : t.Grows t') (h' : t'.Grows t'') : t.Grows t'' where
  id := h'.id.trans h.id
  revision := h.revision.trans h'.revision
  qa_cycle := h.qa_cycle.trans h'.qa_cycle
  reviewer hr := by
    have := h.revision
    have := h'.revision
    exact (h'.reviewer (by omega)).trans (h.reviewer (by omega))
  source m hm := h'.source m (h.source m hm)
  project_id := h'.project_id.trans h.project_id
  scope := h'.scope.trans h.scope
  document_version := h'.document_version.trans h.document_version
  assignee := h'.assignee.trans h.assignee
  execution_mode := h'.execution_mode.trans h.execution_mode
  call_limit := h'.call_limit.trans h.call_limit
  turn_limit := h'.turn_limit.trans h.turn_limit

end Task.Grows

theorem Task.grows_transitioned (t task : Task) (target : TaskStatus) (deadline : Option Int)
    (now : Int) : t.Grows (t.transitioned task target deadline now) := by
  unfold Task.transitioned
  split
  · constructor <;> simp
  · split
    · constructor <;> simp
    · split <;> constructor <;> simp
  · split
    · constructor <;> simp
    · split <;> constructor <;> simp
  · constructor <;> simp
  · constructor <;> simp

theorem TaskMove.grows (h : TaskMove cfg w l db t t') : t.Grows t' := by
  cases h with
  | linked message_id now htext hsource =>
    constructor <;> simp [hsource]
  | transitioned => exact t.grows_transitioned _ _ _ _
  | revalidated cycle now hstatus hcycle =>
    constructor <;> simp [hcycle]
  | _ => constructor <;> simp

namespace DB.Grows

theorem refl (a : DB) : a.Grows a where
  tasks t ht := ⟨t, ht, .refl t⟩
  agents _ _ _ := .rfl
  approvals q hq := ⟨q, hq, .inl rfl⟩
  messages _ := id
  evidence _ := id
  verdicts _ := id
  representative_approvals _ := id

theorem trans (h : a.Grows b) (h' : b.Grows c) : a.Grows c where
  tasks t ht := by
    obtain ⟨t', ht', hgrows⟩ := h.tasks t ht
    obtain ⟨t'', ht'', hgrows'⟩ := h'.tasks t' ht'
    exact ⟨t'', ht'', hgrows.trans hgrows'⟩
  agents t ht agent_id := by
    obtain ⟨t', ht', hgrows⟩ := h.tasks t ht
    rw [← hgrows.id, h'.agents t' ht', hgrows.id, h.agents t ht]
  approvals q hq := by
    obtain ⟨q', hq', hgrows⟩ := h.approvals q hq
    obtain ⟨q'', hq'', hgrows'⟩ := h'.approvals q' hq'
    refine ⟨q'', hq'', ?_⟩
    rcases hgrows with rfl | ⟨now, rfl⟩
    · exact hgrows'
    · rcases hgrows' with rfl | ⟨now', rfl⟩
      · exact .inr ⟨now, rfl⟩
      · exact .inr ⟨now', rfl⟩
  messages m hm := h'.messages m (h.messages m hm)
  evidence e he := h'.evidence e (h.evidence e he)
  verdicts v hv := h'.verdicts v (h.verdicts v hv)
  representative_approvals r hr := h'.representative_approvals r (h.representative_approvals r hr)

/-- The task that a task of an earlier state has become. -/
theorem task (h : a.Grows b) (ht : t ∈ a.tasks) (ht' : t' ∈ b.tasks) (hid : t'.id = t.id) :
    t.Grows t' := by
  obtain ⟨q, hq, hgrows⟩ := h.tasks t ht
  obtain rfl : q = t' := Table.eq_of_key hq ht' (hgrows.id.trans hid.symm)
  exact hgrows

end DB.Grows

/-! ## Steps -/

/-- Evidence, verdicts and approvals of the representative are only added. -/
theorem Write.appends (h : Write cfg w l a b) :
    (∀ e ∈ a.evidence, e ∈ b.evidence) ∧ (∀ v ∈ a.verdicts, v ∈ b.verdicts) ∧
      ∀ r ∈ a.representative_approvals, r ∈ b.representative_approvals := by
  cases h with
  | insert_evidence es hT =>
    refine ⟨fun e he => ?_, fun _ => id, fun _ => id⟩
    rw [Table.mem_def, hT]
    exact List.mem_append_left _ he
  | insert_verdict v hT =>
    exact ⟨fun _ => id, fun u hu => (Table.mem_insert hT).mpr (.inl hu), fun _ => id⟩
  | insert_representative r hT =>
    exact ⟨fun _ => id, fun _ => id, fun u hu => (Table.mem_insert hT).mpr (.inl hu)⟩
  | _ => exact ⟨fun _ => id, fun _ => id, fun _ => id⟩

theorem write_grows (h : Write cfg w l a b) (hw : w.db.Grows a) : w.db.Grows b := by
  obtain ⟨hevidence, hverdicts, hrepresentative⟩ := h.appends
  refine
    { tasks := fun t ht => ?_
      agents := ?_
      approvals := fun r hr => ?_
      messages := fun m hm => ?_
      evidence := fun e he => hevidence e (hw.evidence e he)
      verdicts := fun v hv => hverdicts v (hw.verdicts v hv)
      representative_approvals := fun r hr => hrepresentative r (hw.representative_approvals r hr) }
  · obtain ⟨t', ht', hgrows⟩ := hw.tasks t ht
    obtain ⟨t'', ht'', -, rfl | hmove⟩ := h.task_forth ht'
    · exact ⟨t'', ht'', hgrows⟩
    · exact ⟨t'', ht'', hgrows.trans hmove.grows⟩
  · cases h with
    | insert_agent task_id agent_id hT hne hnew =>
      intro t ht x
      rw [← hw.agents t ht x, Table.mem_insert hT]
      exact or_iff_left fun heq => hnew t ht (congrArg Prod.fst heq)
    | _ => exact hw.agents
  · obtain ⟨r', hr', hgrows⟩ := hw.approvals r hr
    cases h with
    | insert_approval q hT => exact ⟨r', (Table.mem_insert hT).mpr (.inl hr'), hgrows⟩
    | revoke hT =>
      obtain ⟨r'', hr'', -, rfl | ⟨now, rfl⟩⟩ := hT.forth hr'
      · exact ⟨r'', hr'', hgrows⟩
      · refine ⟨_, hr'', .inr ⟨now, ?_⟩⟩
        rcases hgrows with rfl | ⟨now', rfl⟩ <;> rfl
    | _ => exact ⟨r', hr', hgrows⟩
  · cases h with
    | insert_message q hT => exact (Table.mem_insert hT).mpr (.inl (hw.messages m hm))
    | _ => exact hw.messages m hm

theorem step_grows (h : step cfg w l = some w') : w.db.Grows w'.db :=
  (step_writes h).keeps (fun _ _ => write_grows) (.refl _)

/-- The earlier states of a reachable world, each with more than the ones before it. -/
theorem inductive_grows (G : World → Label → Prop) :
    (warRoom cfg).InductiveIf G (Ordered DB.Grows) where
  init w hw k j _ := by
    rw [World.ago_of_past_nil hw.2.1, World.ago_of_past_nil hw.2.1]
    exact .refl _
  step w l w' ho _ hs := ho.next (fun _ _ _ => .trans) .refl hs (step_grows hs)

/-- Whatever happens, the tables of before are still there: nothing about a task but its progress has
changed, and what was said, filed or decided stays as it was, approvals up to their revocation. -/
theorem run_grows {G : World → Label → Prop} {ls : List Label} (h : (warRoom cfg).Steps G w ls w') :
    w.db.Grows w'.db := by
  refine Machine.Steps.rel (R := fun a b : World => a.db.Grows b.db) (fun w => .refl w.db) ?_ ?_ h
  · exact fun _ _ _ hab hbc => hab.trans hbc
  · exact fun _ _ _ _ hs => step_grows hs

open Sample in
/-- The task that is prepared is kept when it is approved and runs. -/
theorem run_grows_sample : ((warRoom (config false)).after world [prepare]).db.Grows
    ((warRoom (config false)).after world ([prepare] ++ [execute])).db :=
  run_grows (Machine.steps_after (by decide +kernel))

/-! ## Instructions -/

/-- No two tasks have one instruction. -/
def DB.Sourced (db : DB) : Prop :=
  ∀ t ∈ db.tasks, ∀ t' ∈ db.tasks, ∀ m, t.source_message_id = some m →
    t'.source_message_id = some m → t = t'

/-- An instruction is new when it is linked to a task. -/
theorem TaskMove.source (h : TaskMove cfg w l db t t') :
    t'.source_message_id = t.source_message_id ∨
      ∃ m, t'.source_message_id = some m ∧ (∀ q ∈ db.tasks, q.source_message_id ≠ some m) ∧
        ∃ project_id req env seen,
          l = .request (.create_instruction_with_task project_id) req env seen ∧
          req.text? "task_id" = some t.id := by
  cases h with
  | @linked project_id req env seen db t m now htext _ hnew =>
    exact .inr ⟨m, rfl, hnew, project_id, req, env, seen, rfl, htext⟩
  | transitioned =>
    left
    unfold Task.transitioned
    split <;> try rfl
    all_goals
      split
      · rfl
      · split <;> rfl
  | _ => exact .inl rfl

theorem write_sources (h : Write cfg w l a b) (ha : a.Sourced) : b.Sourced := by
  cases h with
  | insert_task q hT _ _ _ hnew =>
    intro t ht t' ht' m hm hm'
    rcases (Table.mem_insert hT).mp ht with ht | rfl <;>
      rcases (Table.mem_insert hT).mp ht' with ht' | rfl
    · exact ha t ht t' ht' m hm hm'
    · exact absurd hm (hnew m hm' t ht)
    · exact absurd hm' (hnew m hm t' ht')
    · rfl
  | @tasks _ _ T hT =>
    intro t ht t' ht' m hm hm'
    have hback : ∀ t ∈ T, t.source_message_id = some m → ∃ q ∈ a.tasks, t.id = q.id ∧
        (q.source_message_id = some m ∨ (∀ q ∈ a.tasks, q.source_message_id ≠ some m) ∧
          ∃ project_id req env seen,
            l = .request (.create_instruction_with_task project_id) req env seen ∧
            req.text? "task_id" = some q.id) := by
      intro t ht hm
      obtain ⟨q, hq, hid, rfl | hmove⟩ := hT.back ht
      · exact ⟨t, hq, rfl, .inl hm⟩
      · rcases hmove.source with hsame | ⟨n, hn, hnew, hl⟩
        · exact ⟨q, hq, hid, .inl (hsame ▸ hm)⟩
        · obtain rfl : n = m := Option.some.inj (hn.symm.trans hm)
          exact ⟨q, hq, hid, .inr ⟨hnew, hl⟩⟩
    obtain ⟨q, hq, hid, hold⟩ := hback t ht hm
    obtain ⟨q', hq', hid', hold'⟩ := hback t' ht' hm'
    refine Table.eq_of_key ht ht' (hid.trans (Eq.trans ?_ hid'.symm))
    rcases hold with hold | ⟨hnew, project_id, req, env, seen, rfl, htext⟩
    · rcases hold' with hold' | ⟨hnew', -⟩
      · rw [ha q hq q' hq' m hold hold']
      · exact absurd hold (hnew' q hq)
    · rcases hold' with hold' | ⟨-, _, _, _, _, heq, htext'⟩
      · exact absurd hold' (hnew q' hq')
      · cases heq
        exact Option.some.inj (htext.symm.trans htext')
  | _ => exact ha

end WarRoom

end Plachem
