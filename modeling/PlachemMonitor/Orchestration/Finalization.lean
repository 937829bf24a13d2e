import PlachemMonitor.Orchestration.Sound

/-!
# The parent of a workflow

A summary that is terminal stays what it is, although each of its reads may have seen another state
(`summary_settles`): a run that has ended has ended, and a unit that is blocked by a failed
dependency never gets a run. So a parent is finalized once, with the status that its live summary
has ever after (`finalized_faithful`).
-/

namespace Plachem

namespace Orchestration

variable {cfg : Config} {w w' : World} {l : Label} {a b db : DB} {u u' : ExecutionUnit} {d : String}

/-! ## Lost dependencies -/

/-- A unit that is bound, and whose run has failed. -/
structure DB.Lost (db : DB) (execution_id : String) : Prop where
  bound : ∃ q ∈ db.units, q.execution_id = execution_id ∧ q.core_run_id.isSome = true
  status : ∃ f ∈ failure, db.status (core_run_id_for execution_id) = some f

instance : Decidable (db.Lost d) :=
  decidable_of_iff
    ((∃ q ∈ db.units.rows, q.execution_id = d ∧ q.core_run_id.isSome = true) ∧
      ∃ f ∈ failure, db.status (core_run_id_for d) = some f)
    ⟨fun h => ⟨h.1, h.2⟩, fun h => ⟨h.bound, h.status⟩⟩

theorem failure_terminal {s : CoreRunStatus} (h : s ∈ failure) : s ∈ CoreRunStatus.terminal := by
  revert s
  decide

theorem Reaches.failure {s s' : CoreRunStatus} (h : Reaches s s') (hs : s ∈ failure) :
    s' ∈ failure := by
  rcases h (failure_terminal hs) with rfl | ⟨-, rfl⟩
  · exact hs
  · decide

theorem DB.Lost.grows (h : a.Lost d) (hab : a.Grows b) : b.Lost d where
  bound := by
    obtain ⟨q, hq, hid, hbound⟩ := h.bound
    obtain ⟨q', hq', hgrows⟩ := hab.units q hq
    exact ⟨q', hq', hgrows.execution_id.trans hid, hgrows.bound hbound⟩
  status := by
    obtain ⟨f, hf, hs⟩ := h.status
    obtain ⟨s, hs', hreaches⟩ := hab.status hs
    exact ⟨s, hreaches.failure hf, hs'⟩

theorem DB.Lost.not_passed (h : db.Lost d) : ¬db.Passed d := by
  intro hpassed
  obtain ⟨f, hf, hs⟩ := h.status
  rw [hpassed.status] at hs
  cases hs
  revert hf
  decide

theorem Formed.lost (h : Formed db) (hd : db.Lost d) : dependency_detail db.reads d = .FAILURE := by
  obtain ⟨q, hq, rfl, hbound⟩ := hd.bound
  obtain ⟨f, hf, hs⟩ := hd.status
  have hfind : db.units.find q.execution_id = some q := Table.mem_iff_find.mp hq
  have houtcome : outcome (some f) = .FAILURE := outcome_failure.mpr ⟨f, hf, rfl⟩
  simp [dependency_detail, DB.reads, hfind, h.run_id_of_bound hq hbound, hs, houtcome]

/-- A dependency that is there and is lost as it was read. -/
theorem lost_of_dependency {reads : Reads} (hformed : Formed (reads.unit d))
    (hgrows : (reads.unit d).Grows (reads.status d))
    (hunit : ∃ q ∈ (reads.unit d).units, q.execution_id = d)
    (h : dependency_detail reads d ∈ [.FAILURE, .NOT_FOUND, .UNKNOWN]) : (reads.status d).Lost d := by
  obtain ⟨q, hq, rfl⟩ := hunit
  have hfind : (reads.unit q.execution_id).units.find q.execution_id = some q :=
    Table.mem_iff_find.mp hq
  rw [dependency_detail, hfind] at h
  cases hr : q.run_id with
  | none => simp [hr] at h
  | some r =>
    obtain ⟨rfl, hbound⟩ := hformed.run_id hq hr
    obtain ⟨q', hq', hgrown⟩ := hgrows.units q hq
    refine ⟨⟨q', hq', hgrown.execution_id, hgrown.bound (by rw [hbound]; rfl)⟩, ?_⟩
    -- the run of a bound unit is in the registry
    obtain ⟨run, hrun, hid⟩ := hformed.run q hq (by rw [hbound]; rfl)
    obtain ⟨s, hs, -⟩ := hgrows.status (DB.status_eq_some.mpr ⟨run, hrun, hid, rfl⟩)
    simp only [hr, hs] at h
    refine ⟨s, ?_, hs⟩
    cases s <;> simp [outcome, failure] at h ⊢

/-! ## Children -/

/-- The reads of a summary are between the state of its units and the present one. -/
structure SummaryReads.Within (reads : SummaryReads) (a b : DB) : Prop where
  own : ∀ e, (reads.own e).Grows b
  unit : ∀ e d, a.Grows ((reads.evaluate e).unit d)
  formed : ∀ e d, Formed ((reads.evaluate e).unit d)
  dependency : ∀ e d, ((reads.evaluate e).unit d).Grows ((reads.evaluate e).status d)
  status : ∀ e d, ((reads.evaluate e).status d).Grows b

theorem within_self (ha : Formed a) (hab : a.Grows b) : a.summary_reads.Within a b :=
  ⟨fun _ => hab, fun _ _ => .refl a, fun _ _ => ha, fun _ _ => .refl a, fun _ _ => hab⟩

theorem Sound.within (h : Sound w) (seen : Seen) :
    (w.summary_reads seen).Within (w.second seen) w.db where
  own _ := h.latest _
  unit _ _ := h.ago (Nat.min_le_right _ _)
  formed _ _ := h.formed _
  dependency _ _ := h.ago (Nat.min_le_right _ _)
  status _ _ := h.latest _

theorem SummaryReads.Within.grows {reads : SummaryReads} (h : reads.Within a b) (hb : b.Grows db) :
    reads.Within a db where
  own e := (h.own e).trans hb
  unit := h.unit
  formed := h.formed
  dependency := h.dependency
  status e d := (h.status e d).trans hb

/-- A child that is not pending, and what it is later. -/
structure Child.Settles (c c' : Child) : Prop where
  pending : c'.pending = false
  required : c'.required = c.required
  status : c'.run_status = c.run_status ∨ c.run_status = .run .FAIL ∧ c'.run_status = .run .CANCELLED

theorem child_settles {reads : SummaryReads} (ha : Formed a) (hb : Formed b)
    (hreads : reads.Within a b) (hu : u ∈ a.units) (hu' : u' ∈ b.units) (hgrown : u.Grows u')
    (hpending : (child reads u).pending = false) :
    (child reads u).Settles (child b.summary_reads u') := by
  have hrequired : (child b.summary_reads u').required = (child reads u).required := by
    simp [child, hgrown.workflow_role]
  simp only [Child.pending, Bool.or_eq_false_iff, bne_eq_false_iff_eq] at hpending
  obtain ⟨hstatus, hblocked⟩ := hpending
  cases hr : u.run_id with
  | some r =>
    obtain ⟨rfl, hbound⟩ := ha.run_id hu hr
    have hr' : u'.run_id = some (core_run_id_for u.execution_id) :=
      hgrown.execution_id ▸ hb.run_id_of_bound hu' (hgrown.bound (by rw [hbound]; rfl))
    cases hs : (reads.own u.execution_id).status (core_run_id_for u.execution_id) with
    | none => simp [child, child_status, hr, hs] at hstatus
    | some s =>
      have hterm : s ∈ CoreRunStatus.terminal := by
        cases s <;> simp [child, child_status, hr, hs, active, CoreRunStatus.terminal] at hstatus ⊢
      obtain ⟨s', hs', hreaches⟩ := (hreads.own _).status hs
      have hlive : (child b.summary_reads u').run_status = .run s' := by
        simp [child, child_status, hr', hs', DB.summary_reads]
      have hsame : (child reads u).run_status = .run s := by simp [child, child_status, hr, hs]
      refine ⟨?_, hrequired, ?_⟩
      · have hready : (child b.summary_reads u').readiness = .BLOCKED := evaluate_run hr'
        have hnext : s' ∉ active := by
          rcases hreaches hterm with rfl | ⟨-, rfl⟩
          · revert hterm
            cases s' <;> decide
          · decide
        simp [Child.pending, hlive, hready, hnext]
      · rw [hlive, hsame]
        exact (hreaches hterm).imp (congrArg _) fun ⟨hfail, hcancel⟩ => ⟨by rw [hfail], by rw [hcancel]⟩
  | none =>
    obtain ⟨d, hd, hlost⟩ := (evaluate_blocked hr).mp hblocked
    obtain ⟨q, hq, hid, -⟩ := ha.depends_on u hu d hd
    obtain ⟨q', hq', hgrown'⟩ := (hreads.unit u.execution_id d).units q hq
    have hnow : b.Lost d := (lost_of_dependency (hreads.formed _ d) (hreads.dependency _ d)
      ⟨q', hq', hgrown'.execution_id.trans hid⟩ hlost).grows (hreads.status _ d)
    have hd' : d ∈ u'.depends_on_execution_ids := hgrown.depends_on ▸ hd
    have hr' : u'.run_id = none := by
      refine (hb.not_bound hu').mpr (Option.eq_none_iff_forall_ne_some.mpr fun r hr => ?_)
      exact hnow.not_passed (hb.bound_passed hu' (by rw [hr]; rfl) hd')
    have hready : (child b.summary_reads u').readiness = .BLOCKED :=
      (evaluate_blocked hr').mpr ⟨d, hd', by
        have hfailed := hb.lost hnow
        simp only [DB.summary_reads, hfailed]
        decide⟩
    have hlive : (child b.summary_reads u').run_status = .NOT_STARTED := by
      simp [child, child_status, hr']
    exact ⟨by simp [Child.pending, hlive, hready], hrequired,
      .inl (by simp [child, child_status, hr, hr'])⟩

/-- Settled children have the status of the parent that they had. -/
theorem parent_status_settles {cs cs' : List Child} (hpending : ∀ c ∈ cs, c.pending = false)
    (hforth : ∀ c ∈ cs, ∃ c' ∈ cs', c.Settles c') (hback : ∀ c' ∈ cs', ∃ c ∈ cs, c.Settles c') :
    parent_status cs' = parent_status cs := by
  have hidle : cs.any Child.pending = false := List.any_eq_false.mpr fun c hc => by simp [hpending c hc]
  have hidle' : cs'.any Child.pending = false := by
    refine List.any_eq_false.mpr fun c' hc' => ?_
    obtain ⟨c, -, h⟩ := hback c' hc'
    simp [h.pending]
  have hmem : ∀ {cs : List Child} {s : ChildStatus},
      s ∈ (cs.filter Child.required).map Child.run_status ↔
        ∃ c ∈ cs, c.required = true ∧ c.run_status = s := by
    simp [and_assoc]
  have hnil : (cs'.filter Child.required).map Child.run_status ≠ [] ↔
      (cs.filter Child.required).map Child.run_status ≠ [] := by
    simp only [ne_eq, List.map_eq_nil_iff, List.filter_eq_nil_iff, not_forall]
    constructor
    · rintro ⟨c', hc', hrequired⟩
      obtain ⟨c, hc, h⟩ := hback c' hc'
      exact ⟨c, hc, h.required ▸ hrequired⟩
    · rintro ⟨c, hc, hrequired⟩
      obtain ⟨c', hc', h⟩ := hforth c hc
      exact ⟨c', hc', by rwa [h.required]⟩
  have hpass : (∀ s ∈ (cs'.filter Child.required).map Child.run_status, s = .run .PASS) ↔
      ∀ s ∈ (cs.filter Child.required).map Child.run_status, s = .run .PASS := by
    simp only [hmem]
    constructor
    · rintro hall s ⟨c, hc, hrequired, hs⟩
      obtain ⟨c', hc', h⟩ := hforth c hc
      have hpassed := hall _ ⟨c', hc', h.required ▸ hrequired, rfl⟩
      rcases h.status with heq | ⟨-, hcancel⟩
      · rw [← hs, ← heq, hpassed]
      · rw [hcancel] at hpassed
        cases hpassed
    · rintro hall s ⟨c', hc', hrequired, hs⟩
      obtain ⟨c, hc, h⟩ := hback c' hc'
      have hpassed := hall _ ⟨c, hc, h.required ▸ hrequired, rfl⟩
      rcases h.status with heq | ⟨hfail, -⟩
      · rw [← hs, heq, hpassed]
      · rw [hfail] at hpassed
        cases hpassed
  have hfailed : (∃ s ∈ (cs'.filter Child.required).map Child.run_status,
        s ∈ [ChildStatus.run .FAIL, .run .TIMEOUT, .run .CANCELLED]) ↔
      ∃ s ∈ (cs.filter Child.required).map Child.run_status,
        s ∈ [ChildStatus.run .FAIL, .run .TIMEOUT, .run .CANCELLED] := by
    simp only [hmem]
    constructor
    · rintro ⟨s, ⟨c', hc', hrequired, hs⟩, hfail⟩
      obtain ⟨c, hc, h⟩ := hback c' hc'
      refine ⟨c.run_status, ⟨c, hc, h.required ▸ hrequired, rfl⟩, ?_⟩
      rcases h.status with heq | ⟨hold, -⟩
      · rwa [← heq, hs]
      · simp [hold]
    · rintro ⟨s, ⟨c, hc, hrequired, hs⟩, hfail⟩
      obtain ⟨c', hc', h⟩ := hforth c hc
      refine ⟨c'.run_status, ⟨c', hc', h.required ▸ hrequired, rfl⟩, ?_⟩
      rcases h.status with heq | ⟨-, hcancel⟩
      · rwa [heq, hs]
      · simp [hcancel]
  simp only [parent_status, hidle, hidle', hnil, hpass, hfailed]

/-! ## Summaries -/

theorem mem_workflow {p t c : String} : u ∈ db.workflow p t c ↔
    u ∈ db.units ∧ u.war_project_id = p ∧ u.war_task_id = t ∧ u.correlation_id = c := by
  simp [DB.workflow, Table.mem_def, and_assoc]

theorem parent_status_terminal {cs : List Child} (h : (parent_status cs).terminal = true) :
    ∀ c ∈ cs, c.pending = false := by
  intro c hc
  by_contra hpending
  have hany : cs.any Child.pending = true := List.any_eq_true.mpr ⟨c, hc, by simpa using hpending⟩
  simp [parent_status, hany, WorkflowStatus.terminal] at h

/-- A terminal summary is what the live summary is, then and later. -/
theorem summary_settles {reads : SummaryReads} {p t c : String} {s : WorkflowStatus} (ha : Formed a)
    (hb : Formed b) (hab : a.Grows b) (hreads : reads.Within a b)
    (h : workflow_summary reads (a.workflow p t c) = some s) (hs : s.terminal = true) :
    b.summary p t c = some s := by
  unfold workflow_summary at h
  split at h
  · cases h
  · rename_i hne
    obtain rfl := Option.some.inj h
    have hpending := parent_status_terminal hs
    have hnow : ∀ u ∈ a.workflow p t c, ∃ u' ∈ b.workflow p t c, u.Grows u' := by
      intro u hu
      obtain ⟨hmem, hp, ht, hc⟩ := mem_workflow.mp hu
      obtain ⟨u', hu', hgrown⟩ := hab.units u hmem
      exact ⟨u', mem_workflow.mpr ⟨hu', hgrown.war_project_id.trans hp, hgrown.war_task_id.trans ht,
        hgrown.correlation_id.trans hc⟩, hgrown⟩
    have hold : ∀ u' ∈ b.workflow p t c, ∃ u ∈ a.workflow p t c, u.Grows u' := by
      intro u' hu'
      obtain ⟨v, hv⟩ := List.exists_mem_of_ne_nil _ hne
      obtain ⟨hvmem, hvp, hvt, -⟩ := mem_workflow.mp hv
      obtain ⟨hmem, hp, ht, hc⟩ := mem_workflow.mp hu'
      obtain ⟨u, hu, hgrown⟩ := hab.workflow v hvmem u' hmem (hp.trans hvp.symm) (ht.trans hvt.symm)
      exact ⟨u, mem_workflow.mpr ⟨hu, hgrown.war_project_id.symm.trans hp,
        hgrown.war_task_id.symm.trans ht, hgrown.correlation_id.symm.trans hc⟩, hgrown⟩
    have hsettles : ∀ u ∈ a.workflow p t c, ∀ u' ∈ b.workflow p t c, u.Grows u' →
        (child reads u).Settles (child b.summary_reads u') := fun u hu u' hu' hgrown =>
      child_settles ha hb hreads (mem_workflow.mp hu).1 (mem_workflow.mp hu').1 hgrown
        (hpending _ (List.mem_map_of_mem hu))
    have hne' : b.workflow p t c ≠ [] := by
      obtain ⟨v, hv⟩ := List.exists_mem_of_ne_nil _ hne
      obtain ⟨v', hv', -⟩ := hnow v hv
      exact List.ne_nil_of_mem hv'
    rw [DB.summary, workflow_summary, if_neg hne']
    refine congrArg some (parent_status_settles hpending (fun q hq => ?_) fun q' hq' => ?_)
    · obtain ⟨u, hu, rfl⟩ := List.mem_map.mp hq
      obtain ⟨u', hu', hgrown⟩ := hnow u hu
      exact ⟨_, List.mem_map_of_mem hu', hsettles u hu u' hu' hgrown⟩
    · obtain ⟨u', hu', rfl⟩ := List.mem_map.mp hq'
      obtain ⟨u, hu, hgrown⟩ := hold u' hu'
      exact ⟨_, List.mem_map_of_mem hu, hsettles u hu u' hu' hgrown⟩

/-- What a completed workflow looks like. -/
theorem summary_completed {p t c : String} (hformed : Formed db)
    (h : db.summary p t c = some .COMPLETED) (hu : u ∈ db.workflow p t c) :
    (u.workflow_role ≠ "observer" → ∃ r, u.core_run_id = some r ∧ db.status r = some .PASS) ∧
      (∀ r, u.core_run_id = some r → ∀ s ∈ active, db.status r ≠ some s) ∧
      db.readiness u = .BLOCKED := by
  rw [DB.summary, workflow_summary, if_neg (List.ne_nil_of_mem hu)] at h
  have hstatus := Option.some.inj h
  have hmem := List.mem_map_of_mem (f := child db.summary_reads) hu
  have hpending := parent_status_terminal (by rw [hstatus]; rfl) _ hmem
  have hunit := (mem_workflow.mp hu).1
  simp only [Child.pending, Bool.or_eq_false_iff, bne_eq_false_iff_eq] at hpending
  refine ⟨fun hrole => ?_, fun r hr s hs hactive => ?_, hpending.2⟩
  · have hpass : (child db.summary_reads u).run_status = .run .PASS := by
      have hrequired : (child db.summary_reads u).required = true := by simp [child, hrole]
      simp only [parent_status] at hstatus
      split at hstatus
      · cases hstatus
      · split at hstatus
        · rename_i hall
          exact hall.2 _ (List.mem_map_of_mem (List.mem_filter.mpr ⟨hmem, hrequired⟩))
        · split at hstatus <;> cases hstatus
    cases hr : u.run_id with
    | none => simp [child, child_status, hr] at hpass
    | some r =>
      obtain ⟨rfl, hbound⟩ := hformed.run_id hunit hr
      refine ⟨_, hbound, ?_⟩
      cases hs : db.status (core_run_id_for u.execution_id) with
      | none => simp [child, child_status, hr, DB.summary_reads, hs] at hpass
      | some s => simpa [child, child_status, hr, DB.summary_reads, hs] using hpass
  · obtain rfl := hformed.own u hunit r hr
    have hrun := hformed.run_id_of_bound hunit (by rw [hr]; rfl)
    simp [child, child_status, hrun, DB.summary_reads, hactive, hs] at hpending

/-! ## Parents -/

/-- A parent is not finalized, or once, with the live summary of its workflow. -/
def Parent.Faithful (db : DB) (p : Parent) : Prop :=
  (p.workflow_finalized_at = none ∧ p.workflow_status = none ∧ p.workflow_finalize_count = 0) ∨
  (p.workflow_finalized_at.isSome = true ∧ p.workflow_finalize_count = 1 ∧
    ∃ s c, p.workflow_status = some s ∧ s.terminal = true ∧ db.summary p.project_id p.id c = some s)

theorem Parent.Faithful.grows {p : Parent} (h : p.Faithful a) (ha : Formed a) (hb : Formed b)
    (hab : a.Grows b) : p.Faithful b := by
  rcases h with h | ⟨hat, hcount, s, c, hs, hterm, hsummary⟩
  · exact .inl h
  · exact .inr ⟨hat, hcount, s, c, hs, hterm,
      summary_settles ha hb hab (within_self ha hab) hsummary hterm⟩

theorem unit_by_core_run_id_mem {r : String} (h : unit_by_core_run_id db r = some u) : u ∈ db.units :=
  List.mem_of_find?_eq_some h

theorem effect_faithful {calls : List Call} {events : List Event} (h : Sound w)
    (hold : ∀ p ∈ w.db.parents, p.Faithful w.db) (he : Effect cfg w l db calls events) :
    ∀ p ∈ db.parents, p.Faithful db := by
  have hgrows := effect_grows he
  have hformed := effect_formed h he
  have hkept : ∀ p ∈ w.db.parents, p.Faithful db :=
    fun p hp => (hold p hp).grows h.now hformed hgrows
  cases he with
  | @finalize core_run_id seen now source s hsource hs hterm =>
    intro p hp
    obtain ⟨q, hq, rfl⟩ := mem_finalize.mp hp
    split
    · rename_i hcond
      obtain ⟨hid, hnone⟩ := Bool.and_eq_true_iff.mp hcond
      have hcount : q.workflow_finalize_count = 0 := by
        rcases hkept q hq with ⟨-, -, hcount⟩ | ⟨hat, -⟩
        · exact hcount
        · simp [Option.isNone_iff_eq_none.mp hnone] at hat
      -- the parent is the one of the project of the workflow
      obtain ⟨u, hu, hgrown⟩ := (h.latest _).units _ (unit_by_core_run_id_mem hsource)
      obtain ⟨q', hq', hid', hproject⟩ := h.now.parent u hu
      have hqid : q.id = source.war_task_id := eq_of_beq hid
      have hqq : q' = q :=
        Table.eq_of_key hq' hq (hid'.trans (hgrown.war_task_id.trans hqid.symm))
      have hqproject : q.project_id = source.war_project_id := by
        rw [← hqq, hproject, hgrown.war_project_id]
      have hsummary := summary_settles (h.formed _) hformed ((h.latest _).trans hgrows)
        ((h.within seen).grows hgrows) hs hterm
      refine .inr ⟨rfl, by simp [hcount], s, source.correlation_id, rfl, hterm, ?_⟩
      simpa only [hqid, hqproject] using hsummary
    · exact hkept q hq
  | _ => exact hkept

theorem effect_final {calls : List Call} {events : List Event} {p : Parent} (hp : p ∈ w.db.parents)
    (hat : p.workflow_finalized_at.isSome = true) (he : Effect cfg w l db calls events) :
    p ∈ db.parents := by
  cases he with
  | finalize =>
    refine mem_finalize.mpr ⟨p, hp, ?_⟩
    obtain ⟨now, hnow⟩ := Option.isSome_iff_exists.mp hat
    simp [hnow]
  | _ => exact hp

theorem inductive_faithful (G : World → Label → Prop) : (orchestrators cfg).InductiveIf G
    fun w => Sound w ∧ ∀ p ∈ w.db.parents, p.Faithful w.db := by
  refine (inductive_sound G).and (fun w hw p hp => ?_) fun w l w' h hold _ hs => ?_
  · obtain ⟨-, -, hparents, -⟩ := hw
    obtain ⟨hstatus, hat, hcount⟩ := hparents p hp
    exact .inl ⟨hat, hstatus, hcount⟩
  · obtain ⟨db, calls, events, he, rfl⟩ := step_effect hs
    exact effect_faithful h hold he

theorem final_run {G : World → Label → Prop} {p : Parent} {as : List Label}
    (run : (orchestrators cfg).Steps G w as w') (hp : p ∈ w.db.parents)
    (hat : p.workflow_finalized_at.isSome = true) : p ∈ w'.db.parents := by
  refine run.inv (I := fun w => p ∈ w.db.parents) (fun w l w' hp _ hs => ?_) hp
  obtain ⟨db, calls, events, he, rfl⟩ := step_effect hs
  exact effect_final hp hat he

/-- A parent is finalized at most once, and is ever after what its live summary is. -/
theorem finalized_faithful {p : Parent} (h : (orchestrators cfg).Reachable w) (hp : p ∈ w.db.parents) :
    p.workflow_finalize_count ≤ 1 ∧
    ∀ s, p.workflow_status = some s →
      (∃ u ∈ w.db.units, u.war_task_id = p.id) ∧
      (∀ u ∈ w.db.units, u.war_task_id = p.id →
        w.db.summary u.war_project_id u.war_task_id u.correlation_id = some s) ∧
      (s = .COMPLETED → ∀ u ∈ w.db.units, u.war_task_id = p.id →
        (u.workflow_role ≠ "observer" → ∃ r, u.core_run_id = some r ∧ w.db.status r = some .PASS) ∧
        (∀ r, u.core_run_id = some r → ∀ s ∈ active, w.db.status r ≠ some s) ∧
        w.db.readiness u = .BLOCKED) ∧
      ∀ as w', (orchestrators cfg).Steps (fun _ _ => True) w as w' → p ∈ w'.db.parents := by
  obtain ⟨hsound, hfaithful⟩ := (inductive_faithful _).reachable h
  have hformed := hsound.now
  rcases hfaithful p hp with ⟨-, hnone, hcount⟩ | ⟨hat, hcount, s, c, hs, hterm, hsummary⟩
  · refine ⟨by omega, fun s hs => ?_⟩
    rw [hnone] at hs
    cases hs
  · refine ⟨by omega, fun s' hs' => ?_⟩
    obtain rfl : s = s' := Option.some.inj (hs.symm.trans hs')
    obtain ⟨v, hv⟩ : ∃ v, v ∈ w.db.workflow p.project_id p.id c := by
      refine List.exists_mem_of_ne_nil _ fun hnil => ?_
      simp [DB.summary, workflow_summary, hnil] at hsummary
    obtain ⟨hvmem, hvp, hvt, hvc⟩ := mem_workflow.mp hv
    -- every unit of the task is of this workflow
    have hof : ∀ u ∈ w.db.units, u.war_task_id = p.id →
        u.war_project_id = p.project_id ∧ u.correlation_id = c := by
      intro u hu htask
      obtain ⟨hproject, hcorrelation⟩ := hformed.same hvmem hu (htask.trans hvt.symm)
      exact ⟨hproject.trans hvp, hcorrelation.trans hvc⟩
    refine ⟨⟨v, hvmem, hvt⟩, fun u hu htask => ?_, fun hcompleted u hu htask => ?_,
      fun as w' run => final_run run hp hat⟩
    · obtain ⟨hproject, hcorrelation⟩ := hof u hu htask
      rw [hproject, htask, hcorrelation, hsummary]
    · obtain ⟨hproject, hcorrelation⟩ := hof u hu htask
      exact summary_completed hformed (hcompleted ▸ hsummary)
        (mem_workflow.mpr ⟨hu, hproject, htask, hcorrelation⟩)

namespace Sample

/-- Two units, of which the second depends on the first, have passed. -/
def passed : List Label :=
  compile [unitA, unitB] :: dispatch "k" "A" "first" .PASS ++
    dispatch "k" "B" "second" .PASS

def finalized : World := after (passed ++ [.finalize (core_run_id_for "B") present 2])

end Sample

open Sample in
/-- The parent of the sample is completed, once. -/
theorem finalized_faithful_sample : ∃ p ∈ finalized.db.parents, p.workflow_status = some .COMPLETED ∧
    p.workflow_finalize_count ≤ 1 := by
  have hparent : (finalized.db.parents.find "t").any
      (fun p => p.workflow_status == some .COMPLETED) = true := by decide +kernel
  obtain ⟨p, hfind, hs⟩ := (Option.any_eq_true _ _).mp hparent
  have hp := (Table.find_some hfind).1
  exact ⟨p, hp, eq_of_beq hs, (finalized_faithful (reachable_after _) hp).1⟩

end Orchestration

end Plachem
