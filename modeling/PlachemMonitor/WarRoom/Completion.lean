import PlachemMonitor.WarRoom.Calls
import PlachemMonitor.WarRoom.Growth

/-!
# Completed tasks

What a completed task rests on: the approval of the representative, the signed `PASS` of a reviewer
who is none of its executors, and evidence, all of the task as it stands (`completed_grounded`).

The completion reads the task before its transaction. The fresh context sees to it that the row is
still the same (`fresh_row`); where the test mode bypasses it, `Fresh` asks for the same revision and
cycle, and without it a completion is possible on the evidence of an earlier revision
(`completed_ungrounded`).
-/

namespace Plachem

namespace WarRoom

/-- What a completed task rests on. -/
structure Grounded (cfg : Config) (db : DB) (t : Task) (reviewer : String) : Prop where
  assigned : t.reviewer_agent_id = some reviewer
  approved : ∃ a ∈ db.representative_approvals, a.task_id = t.id ∧ a.decision = .approved ∧
    a.task_revision = t.revision ∧ a.scope_hash = cfg.sha256 t.scope ∧
    a.document_version = t.document_version ∧ a.qa_cycle = t.qa_cycle
  passed : ∃ sign, cfg.qa_signature = some sign ∧ ∃ v ∈ db.verdicts, v.qa_principal = reviewer ∧
    v.signature = sign v.signed_payload ∧ ∃ profile, v.signed_payload = pass_payload cfg t profile
  evidence : ∃ e ∈ db.evidence, e.current cfg t = true

/-- A completion decides on the revision and the cycle that the task has. -/
def Fresh (cfg : Config) (w : World) (l : Label) : Prop :=
  cfg.fresh_context_bypassed = false ∨ ∀ t ∈ w.db.tasks, ∀ req env seen,
    l = .request (.representative_completion t.id) req env seen →
    decision_of (req.text? "decision") = some .approved →
    ∀ q, w.read seen t.id = some q → q.revision = t.revision ∧ q.qa_cycle = t.qa_cycle

/-- No agent of a task or of a delivery is without a name. -/
structure Named (db : DB) : Prop where
  agents : ∀ a ∈ db.task_agents, a.2 ≠ ""
  deliveries : ∀ d ∈ db.deliveries, d.agent_id ≠ ""

/-- The reviewers are none of the executors. -/
structure Independent (db : DB) : Prop where
  tasks : ∀ a ∈ db.task_agents, ∃ t ∈ db.tasks, t.id = a.1
  reviewers : ∀ t ∈ db.tasks, ∀ r, t.reviewer_agent_id = some r → (t.id, r) ∉ db.task_agents

variable {cfg : Config} {w w' : World} {l : Label} {a b db : DB} {t t' q : Task}

/-! ## Names -/

theorem Named.mem_agents (h : Named db) {task_id agent_id : String}
    (hagent : agent_id ∈ db.agents task_id) : agent_id ≠ "" :=
  h.agents _ (WarRoom.mem_agents.mp hagent)

theorem write_named (hpast : ∀ k, Named (w.ago k)) (h : Write cfg w l a b) (ha : Named a) :
    Named b where
  agents := by
    cases h with
    | insert_agent task_id agent_id hT hne =>
      intro x hx
      rcases (Table.mem_insert hT).mp hx with hx | rfl
      · exact ha.agents x hx
      · exact hne
    | _ => exact ha.agents
  deliveries d' hd' := by
    rcases h.delivery_back hd' with ⟨d, hd, -, rfl | hmove⟩ | ⟨hnew, -⟩
    · exact ha.deliveries d' hd
    · rcases hmove.agent with hagent | ⟨seen, task_id, hagent⟩
      · exact hagent ▸ ha.deliveries d hd
      · exact (hpast (seen .agents)).mem_agents hagent
    · cases hnew with
      | executed id now hread hstatus hsource hagent => exact (hpast 0).mem_agents hagent
      | @delivered message_id req env seen _ task agent_id id now hread hstatus hsource hagent =>
        exact (hpast (seen .agents)).mem_agents hagent
      | reviewed id deadline session now ht hqa hsource hreviewer hne => exact hne

theorem step_named (hpast : ∀ k, Named (w.ago k)) (h : step cfg w l = some w') (k : Nat) :
    Named (w'.ago k) :=
  ago_step h hpast ((step_writes h).keeps (fun _ _ => write_named hpast) (hpast 0)) k

/-! ## Reviewers -/

theorem TaskMove.reviewer (h : TaskMove cfg w l db t t') :
    t'.reviewer_agent_id = t.reviewer_agent_id ∨
      ∃ r, t'.reviewer_agent_id = some r ∧ (t.id, r) ∉ db.task_agents := by
  cases h with
  | reviewed reviewer now ht hstatus hnone hagent => exact .inr ⟨reviewer, rfl, hagent⟩
  | @transitioned req env seen db t task target deadline now =>
    left
    unfold Task.transitioned
    split <;> try rfl
    all_goals
      split
      · rfl
      · split <;> rfl
  | _ => exact .inl rfl

theorem write_independent (h : Write cfg w l a b) (ha : Independent a) : Independent b := by
  cases h with
  | insert_task q hT =>
    refine ⟨fun x hx => ?_, fun t ht r hr hagent => ?_⟩
    · obtain ⟨t, ht, hid⟩ := ha.tasks x hx
      exact ⟨t, (Table.mem_insert hT).mpr (.inl ht), hid⟩
    · rcases (Table.mem_insert hT).mp ht with ht | rfl
      · exact ha.reviewers t ht r hr hagent
      · obtain ⟨q, hq, hid⟩ := ha.tasks _ hagent
        exact (Table.insert_eq_some hT).2 (List.mem_map.mpr ⟨q, hq, hid⟩)
  | tasks hT =>
    refine ⟨fun x hx => ?_, fun t' ht' r hr hagent => ?_⟩
    · obtain ⟨t, ht, hid⟩ := ha.tasks x hx
      obtain ⟨t', ht', hid', -⟩ := hT.forth ht
      exact ⟨t', ht', hid'.trans hid⟩
    · obtain ⟨t, ht, hid, rfl | hmove⟩ := hT.back ht'
      · exact ha.reviewers t' ht r hr hagent
      · rcases hmove.reviewer with hsame | ⟨s, hs, hnew⟩
        · exact ha.reviewers t ht r (hsame ▸ hr) (hid ▸ hagent)
        · obtain rfl : s = r := Option.some.inj (hs.symm.trans hr)
          exact hnew (hid ▸ hagent)
  | insert_agent task_id agent_id hT hne hnew hreviewer =>
    obtain ⟨q, hq, rfl, hreviewer⟩ := hreviewer
    refine ⟨fun x hx => ?_, fun t ht r hr hagent => ?_⟩
    · rcases (Table.mem_insert hT).mp hx with hx | rfl
      · exact ha.tasks x hx
      · exact ⟨q, hq, rfl⟩
    · rcases (Table.mem_insert hT).mp hagent with hagent | heq
      · exact ha.reviewers t ht r hr hagent
      · obtain ⟨hid, rfl⟩ := Prod.mk.inj heq
        obtain rfl : t = q := Table.eq_of_key ht hq hid
        exact hreviewer hr
  | _ => exact ⟨ha.tasks, ha.reviewers⟩

/-- A verdict is that of somebody. -/
theorem write_principals (hrows : Rows w) (hpast : ∀ k, Named (w.ago k)) (h : Write cfg w l a b)
    (ha : ∀ v ∈ a.verdicts, v.qa_principal ≠ "") : ∀ v ∈ b.verdicts, v.qa_principal ≠ "" := by
  cases h with
  | insert_verdict v hT hnew =>
    intro u hu
    rcases (Table.mem_insert hT).mp hu with hu | rfl
    · exact ha u hu
    · cases hnew with
      | judged id signature profile principal hread hqa hne => exact hne
      | auto_judged env id signature profile hrow =>
        obtain ⟨k, hk⟩ := row_read hrows hrow
        exact (hpast k).deliveries _ (delivery_row_eq_some hk).2.1
  | _ => exact ha

/-! ## Completion -/

/-- The row that a completion has read is the one of now, up to what it does not rest on. -/
theorem fresh_row (ho : Ordered DB.Grows w) (hfresh : Fresh cfg w l)
    (hs : step cfg w l = some w') {req : Request} {env : Env} {seen : Read → Nat}
    (hl : l = .request (.representative_completion t.id) req env seen) (ht : t ∈ w.db.tasks)
    (hdecision : decision_of (req.text? "decision") = some .approved)
    (hread : w.read seen t.id = some q)
    (hcontext : cfg.fresh_context_bypassed = false → w.db.tasks.find t.id =
      (w.view seen .context).tasks.find t.id) :
    q.Grows t ∧ q.revision = t.revision ∧ q.qa_cycle = t.qa_cycle := by
  obtain ⟨hq, hid⟩ := Table.find_some hread
  have hgrows : q.Grows t := (ho.view seen .task).task hq ht hid.symm
  refine ⟨hgrows, ?_⟩
  rcases hfresh with hbypassed | hfresh
  · have hcurrent : t ∈ (w.view seen .context).tasks := by
      have hfind := hcontext hbypassed
      rw [Table.mem_iff_find.mp ht] at hfind
      exact (Table.find_some hfind.symm).1
    have hfirst : seen .task ≤ seen .context := by
      subst hl
      simp only [step, Option.bind_eq_bind, Option.bind_eq_some_iff] at hs
      obtain ⟨_, hguard, -⟩ := hs
      simpa [token_first] using (List.all_eq_true.mp ((Option.guard_eq_some' _).mp hguard)) .task
        (by simp)
    have hback : t.Grows q := (ho _ _ hfirst).task hcurrent hq hid
    exact ⟨Nat.le_antisymm hgrows.revision hback.revision,
      Nat.le_antisymm hgrows.qa_cycle hback.qa_cycle⟩
  · exact hfresh t ht req env seen hl hdecision q hread

/-- What the checks of a completion have found. -/
theorem checks_passed {env : Env} (h : representative_completion_checks cfg db env q = []) :
    (∃ e ∈ db.evidence, e.current cfg q = true) ∧
      ∃ sign, cfg.qa_signature = some sign ∧ ∃ profile, ∃ v ∈ db.verdicts,
        is_signed_pass sign (pass_payload cfg q profile) v = true := by
  have hnone := List.filterMap_eq_nil_iff.mp h
  simp only [List.mem_cons, List.not_mem_nil, or_false, forall_eq_or_imp, forall_eq, id_eq] at hnone
  obtain ⟨hevidence, hpass, -⟩ := hnone
  constructor
  · by_contra hno
    rw [if_neg fun hany => hno (List.any_eq_true.mp hany)] at hevidence
    cases hevidence
  · unfold signed_qa_pass_error at hpass
    split at hpass
    · cases hpass
    · cases hpass
    · rename_i required sign hrequired hsign
      simp only [ite_eq_left_iff, reduceCtorEq, imp_false, not_not, Bool.and_eq_true] at hpass
      obtain ⟨v, hv, hsigned⟩ := List.any_eq_true.mp hpass.2
      exact ⟨sign, hsign, _, v, hv, hsigned⟩

/-- What a task rests on does not change as long as revision and cycle are the same. -/
theorem current_congr (h : q.Grows t) (hrevision : q.revision = t.revision)
    (hcycle : q.qa_cycle = t.qa_cycle) (e : Evidence) : e.current cfg q = e.current cfg t := by
  simp only [Evidence.current, h.id, hrevision, hcycle, h.scope, h.document_version]

theorem pass_payload_congr (h : q.Grows t) (hrevision : q.revision = t.revision)
    (hcycle : q.qa_cycle = t.qa_cycle) (profile : String) :
    pass_payload cfg q profile = pass_payload cfg t profile := by
  simp only [pass_payload, h.id, hrevision, hcycle, h.scope, h.document_version,
    h.reviewer hrevision.symm]

/-- All that a completed task rests on has been there when it is completed. -/
theorem completed_grounds {env : Env} (hdb : a.Grows b) (hgrows : q.Grows t)
    (hrevision : q.revision = t.revision) (hcycle : q.qa_cycle = t.qa_cycle)
    (hchecks : representative_completion_checks cfg a env q = [])
    (hprincipals : ∀ v ∈ a.verdicts, v.qa_principal ≠ "")
    (happroved : ∃ r ∈ b.representative_approvals, r.task_id = q.id ∧ r.decision = .approved ∧
      r.task_revision = q.revision ∧ r.scope_hash = cfg.sha256 q.scope ∧
      r.document_version = q.document_version ∧ r.qa_cycle = q.qa_cycle) :
    ∃ r, Grounded cfg b t r := by
  obtain ⟨⟨e, he, hcurrent⟩, sign, hsign, profile, v, hv, hsigned⟩ := checks_passed hchecks
  simp only [is_signed_pass, Bool.and_eq_true, beq_iff_eq] at hsigned
  obtain ⟨⟨hprincipal, hpayload⟩, hsignature⟩ := hsigned
  obtain ⟨r, hr⟩ : ∃ r, q.reviewer_agent_id = some r := by
    cases hreviewer : q.reviewer_agent_id with
    | none => exact absurd (by simp [hprincipal, pass_payload, hreviewer]) (hprincipals v hv)
    | some r => exact ⟨r, rfl⟩
  refine ⟨r, (hgrows.reviewer hrevision.symm).trans hr, ?_, ?_, ?_⟩
  · obtain ⟨a, ha, hid, hdecision, hrev, hscope, hversion, hcyc⟩ := happroved
    exact ⟨a, ha, hid.trans hgrows.id.symm, hdecision, hrev.trans hrevision,
      by rw [hscope, hgrows.scope], by rw [hversion, hgrows.document_version], hcyc.trans hcycle⟩
  · refine ⟨sign, hsign, v, hdb.verdicts v hv, ?_, hpayload ▸ hsignature, profile, ?_⟩
    · rw [hprincipal, pass_payload, hr, Option.getD_some]
    · rw [hpayload, pass_payload_congr hgrows hrevision hcycle]
  · exact ⟨e, hdb.evidence e he, current_congr hgrows hrevision hcycle e ▸ hcurrent⟩

/-- What a task rests on stays, with the task at its revision and cycle. -/
theorem Grounded.mono {r : String} (h : Grounded cfg a t r) (hgrows : t.Grows t')
    (hrevision : t'.revision = t.revision) (hcycle : t'.qa_cycle = t.qa_cycle)
    (happrovals : ∀ x ∈ a.representative_approvals, x ∈ b.representative_approvals)
    (hverdicts : ∀ v ∈ a.verdicts, v ∈ b.verdicts) (hevidence : ∀ e ∈ a.evidence, e ∈ b.evidence) :
    Grounded cfg b t' r where
  assigned := (hgrows.reviewer hrevision).trans h.assigned
  approved := by
    obtain ⟨x, hx, hid, hdecision, hrev, hscope, hversion, hcyc⟩ := h.approved
    exact ⟨x, happrovals x hx, hid.trans hgrows.id.symm, hdecision, hrev.trans hrevision.symm,
      by rw [hscope, hgrows.scope], by rw [hversion, hgrows.document_version],
      hcyc.trans hcycle.symm⟩
  passed := by
    obtain ⟨sign, hsign, v, hv, hprincipal, hsignature, profile, hpayload⟩ := h.passed
    exact ⟨sign, hsign, v, hverdicts v hv, hprincipal, hsignature, profile,
      hpayload.trans (pass_payload_congr hgrows hrevision.symm hcycle.symm profile)⟩
  evidence := by
    obtain ⟨e, he, hcurrent⟩ := h.evidence
    exact ⟨e, hevidence e he, current_congr hgrows hrevision.symm hcycle.symm e ▸ hcurrent⟩

/-- A statement that leaves a task completed, or makes it so. -/
theorem TaskMove.completes (h : TaskMove cfg w l db t t') (hs : t'.status = .completed) :
    (t.status = .completed ∧ t'.revision = t.revision ∧ t'.qa_cycle = t.qa_cycle) ∨
      ∃ req env seen q now, l = .request (.representative_completion t.id) req env seen ∧
        t ∈ w.db.tasks ∧ w.read seen t.id = some q ∧
        decision_of (req.text? "decision") = some .approved ∧
        (cfg.fresh_context_bypassed = false →
          w.db.tasks.find t.id = (w.view seen .context).tasks.find t.id) ∧
        representative_completion_checks cfg w.db env q = [] ∧
        (∃ r ∈ db.representative_approvals, r.task_id = q.id ∧ r.decision = .approved ∧
          r.task_revision = q.revision ∧ r.scope_hash = cfg.sha256 q.scope ∧
          r.document_version = q.document_version ∧ r.qa_cycle = q.qa_cycle) ∧
        t' = { t with status := .completed, updated_at := now } := by
  cases h with
  | linked => exact .inl ⟨hs, rfl, rfl⟩
  | finalized => exact .inl ⟨hs, rfl, rfl⟩
  | @completed req env seen db t q now ht hread hqa hdecision hcontext hchecks happroved =>
    exact .inr ⟨req, env, seen, q, now, rfl, ht, hread, hdecision, hcontext, hchecks, happroved, rfl⟩
  | decided now ht hread hstatus =>
    rename_i decision
    cases decision <;> cases hs
  | transitioned deadline now ht hread htarget hmem hne =>
    rw [Task.transitioned_status] at hs
    exact absurd hs hne
  | project_stopped status now hproject hstatus hmem =>
    simp only [show status = .completed from hs] at hmem
    simp at hmem
  | task_stopped status now ht hread hne hchange hmem =>
    simp only [show status = .completed from hs] at hmem
    simp at hmem
  | resumed deadline now hqa => exact absurd (hqa.symm.trans hs) nofun
  | _ => cases hs

theorem write_grounded (ho : Ordered DB.Grows w) (hfresh : Fresh cfg w l)
    (hs : step cfg w l = some w') (hprincipals : ∀ v ∈ w.db.verdicts, v.qa_principal ≠ "")
    (h : Write cfg w l a b)
    (ha : w.db.Grows a ∧ ∀ t ∈ a.tasks, t.status = .completed → ∃ r, Grounded cfg a t r) :
    w.db.Grows b ∧ ∀ t ∈ b.tasks, t.status = .completed → ∃ r, Grounded cfg b t r := by
  refine ⟨write_grows h ha.1, fun t' ht' hstatus => ?_⟩
  obtain ⟨hevidence, hverdicts, hrepresentative⟩ := h.appends
  rcases h.task_back ht' with ⟨t, ht, -, rfl | hmove⟩ | ⟨-, hnew | hnew, -⟩
  · obtain ⟨r, hr⟩ := ha.2 t' ht hstatus
    exact ⟨r, hr.mono (.refl t') rfl rfl hrepresentative hverdicts hevidence⟩
  · rcases hmove.completes hstatus with ⟨hcompleted, hrevision, hcycle⟩ | hcompletes
    · obtain ⟨r, hr⟩ := ha.2 t ht hcompleted
      exact ⟨r, hr.mono hmove.grows hrevision hcycle hrepresentative hverdicts hevidence⟩
    · obtain ⟨req, env, seen, q, now, hl, htw, hread, hdecision, hcontext, hchecks, happroved, rfl⟩ :=
        hcompletes
      obtain ⟨hgrows, hrevision, hcycle⟩ := fresh_row ho hfresh hs hl htw hdecision hread hcontext
      obtain ⟨r, hr⟩ := completed_grounds ha.1 hgrows hrevision hcycle hchecks hprincipals happroved
      exact ⟨r, hr.mono hmove.grows rfl rfl hrepresentative hverdicts hevidence⟩
  · simp [hstatus] at hnew
  · simp [hstatus] at hnew

/-! ## Reachable states -/

/-- The invariant of the completed tasks, with what it needs. -/
structure Sound (cfg : Config) (w : World) : Prop where
  ordered : Ordered DB.Grows w
  rows : Rows w
  named : ∀ k, Named (w.ago k)
  independent : Independent w.db
  principals : ∀ v ∈ w.db.verdicts, v.qa_principal ≠ ""
  grounded : ∀ t ∈ w.db.tasks, t.status = .completed → ∃ r, Grounded cfg w.db t r

theorem sound_init (h : (warRoom cfg).init w) : Sound cfg w where
  ordered := (inductive_grows fun _ _ => True).init w h
  rows := (inductive_rows fun _ _ => True).init w h
  named k := by
    rw [World.ago_of_past_nil h.2.1]
    constructor <;> simp [Table.mem_def, h.1.task_agents, h.1.deliveries]
  independent := by
    constructor <;> simp [Table.mem_def, h.1.task_agents, h.1.tasks]
  principals := by simp [Table.mem_def, h.1.verdicts]
  grounded := by simp [Table.mem_def, h.1.tasks]

theorem sound_step (hw : Sound cfg w) (hfresh : Fresh cfg w l) (hs : step cfg w l = some w') :
    Sound cfg w' where
  ordered := (inductive_grows fun _ _ => True).step w l w' hw.ordered trivial hs
  rows := (inductive_rows fun _ _ => True).step w l w' hw.rows trivial hs
  named := step_named hw.named hs
  independent := (step_writes hs).keeps (fun _ _ => write_independent) hw.independent
  principals := (step_writes hs).keeps (fun _ _ => write_principals hw.rows hw.named) hw.principals
  grounded := ((step_writes hs).keeps
    (fun _ _ => write_grounded hw.ordered hfresh hs hw.principals) ⟨.refl _, hw.grounded⟩).2

theorem inductive_sound : (warRoom cfg).InductiveIf (Fresh cfg) (Sound cfg) where
  init _ := sound_init
  step _ _ _ := sound_step

/-- In every reachable state a completed task rests on the approval, the signed `PASS` of an
independent reviewer and evidence, all of its revision and cycle. -/
theorem completed_grounded (h : (warRoom cfg).ReachableIf (Fresh cfg) w) (ht : t ∈ w.db.tasks)
    (hs : t.status = .completed) :
    ∃ r, (t.id, r) ∉ w.db.task_agents ∧ Grounded cfg w.db t r := by
  have hw := inductive_sound.reachable h
  obtain ⟨r, hr⟩ := hw.grounded t ht hs
  exact ⟨r, hw.independent.reviewers t ht r hr.assigned, hr⟩

namespace Sample

def evidence : Label :=
  .request (.add_evidence "t") (request "evidence" "" "" 6
    (body [("uri", .str "/report"), ("summary", .str "done")])) (outside 6 ["e", ""]) latest

def complete (seen : Read → Nat) : Label :=
  .request (.representative_completion "t") (request "complete" "representative_completion" "t" 8
    (body [("decision", .str "approved")])) (outside 8 ["ra", ""]) seen

/-- The executor has responded, the review has passed, and there is evidence. -/
def review : List Label :=
  [prepare, execute, claim "d" "c" 2, hand "c" 3 (answer ""), ended "c" 4 (answer "PASS"),
    claim "" "q" 5, hand "q" 5 (answer "PASS"), evidence]

def completed : World := after (config false) (review ++ [complete latest])

/-- The task goes back; the completion has read it before. -/
def rework : List Label := [transition "rework_required" 7,
  complete fun r => if r = .task ∨ r = .context then 1 else 0]

def ungrounded : World := after (config true) (review ++ rework)

end Sample

open Sample in
/-- Where the fresh context is bypassed, a completion on a row from before the rework completes the
task at a revision that has neither evidence nor a verdict nor an approval. -/
theorem completed_ungrounded : (warRoom (config true)).Reachable ungrounded ∧
    ∃ t ∈ ungrounded.db.tasks, t.status = .completed ∧ ∀ r, ¬Grounded (config true) ungrounded.db t r := by
  refine ⟨reachable_after _ _, ?_⟩
  have htask : (ungrounded.db.tasks.find "t").any (fun t => t.status == .completed &&
      ungrounded.db.evidence.rows.all fun e => !e.current (config true) t) = true := by decide +kernel
  obtain ⟨t, hfind, ht⟩ := (Option.any_eq_true _ _).mp htask
  simp only [Bool.and_eq_true, beq_iff_eq, List.all_eq_true, Bool.not_eq_true'] at ht
  refine ⟨t, (Table.find_some hfind).1, ht.1, fun r hr => ?_⟩
  obtain ⟨e, he, hcurrent⟩ := hr.evidence
  rw [ht.2 e he] at hcurrent
  cases hcurrent

open Sample in
/-- The completed task of the sample. -/
theorem completed_grounded_sample : ∃ t ∈ completed.db.tasks, t.status = .completed ∧
    ∃ r, (t.id, r) ∉ completed.db.task_agents ∧ Grounded (config false) completed.db t r := by
  have htask : (completed.db.tasks.find "t").any (fun t => t.status == .completed) = true := by
    decide +kernel
  obtain ⟨t, hfind, ht⟩ := (Option.any_eq_true _ _).mp htask
  have hreachable : (warRoom (config false)).ReachableIf (Fresh (config false)) completed :=
    (reachable_after _ _).mono fun _ _ _ => .inl rfl
  exact ⟨t, (Table.find_some hfind).1, eq_of_beq ht,
    completed_grounded hreachable (Table.find_some hfind).1 (eq_of_beq ht)⟩

end WarRoom

end Plachem
