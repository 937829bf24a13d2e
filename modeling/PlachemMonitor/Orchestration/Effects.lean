import PlachemMonitor.Orchestration.System

/-!
# What a step does

* `Effect`: the tables, the calls and the events that a step leaves, with what it has checked
  (`step_effect`).
* `DB.Grows`: units keep what they are, a run that has ended stays so (`effect_grows`).
-/

namespace Plachem

namespace Orchestration

variable {cfg : Config} {w w' : World} {l : Label}

/-- What a step does, by its label. -/
inductive Effect (cfg : Config) (w : World) : Label → DB → List Call → List Event → Prop
  | compile {project_id task_id correlation_id units T} :
    compiled project_id task_id correlation_id units = true →
    (∃ p ∈ w.db.parents, p.id = task_id ∧ p.project_id = project_id) →
    (∀ u ∈ w.db.units, u.war_project_id = project_id → u.war_task_id ≠ task_id) →
    units.foldlM Table.insert w.db.units = some T →
    Effect cfg w (.compile project_id task_id correlation_id units) { w.db with units := T } w.calls []
  | begin {token execution_id input seen unit current} :
    (w.first seen).units.find execution_id = some unit →
    (w.second seen).units.find execution_id = some current → input.valid = true →
    unit.run_id = none → w.ready seen current = true →
    (∀ c ∈ w.calls, c.token ≠ token) →
    Effect cfg w (.begin token execution_id input seen) (update_dispatch_input w.db execution_id input)
      (w.calls ++ [⟨token, unit, input, .submitted⟩]) []
  | claim {token now c u} : w.call token .submitted = some c → u ∈ w.db.units →
    u.execution_id = c.unit.execution_id → u.claimable = true →
    Effect cfg w (.claim token now) (claim_for_dispatch w.db c.unit.execution_id now).1
      (w.advance token (some .claimed)) [.claimed c.unit.execution_id token]
  | lose {token now c} : w.call token .submitted = some c →
    (∀ u ∈ w.db.units, u.execution_id = c.unit.execution_id → u.claimable = false) →
    Effect cfg w (.claim token now) (claim_for_dispatch w.db c.unit.execution_id now).1
      (w.advance token none) []
  | dispatch {token answer c runs status} : w.call token .claimed = some c →
    core_dispatch w.db.runs (core_run_id_for c.unit.execution_id)
      (cfg.request_hash c.unit.agent_id c.input) answer = some (runs, status) →
    Effect cfg w (.dispatch token answer) { w.db with runs := runs }
      (w.advance token (status.map fun _ => .dispatched)) [.submitted c.unit.execution_id c.input]
  | bind {token c} : w.call token .dispatched = some c →
    Effect cfg w (.bind token)
      (update_core_run_id w.db c.unit.execution_id (core_run_id_for c.unit.execution_id))
      (w.advance token none) []
  | replay {execution_id input seen answer unit core_run_id s runs status} :
    (w.first seen).units.find execution_id = some unit → unit.run_id = some core_run_id →
    (w.second seen).status core_run_id = some s → s ∈ active ∨ s = .PASS →
    input.valid = true → (∀ i ∈ unit.dispatch_input, i.contract = input.contract) →
    core_dispatch w.db.runs (core_run_id_for execution_id) (cfg.request_hash unit.agent_id input)
      answer = some (runs, status) →
    Effect cfg w (.replay execution_id input seen answer) { w.db with runs := runs } w.calls
      [.submitted execution_id input]
  | rebind {execution_id seen unit} : (w.first seen).units.find execution_id = some unit →
    unit.run_id.isSome = true →
    Effect cfg w (.rebind execution_id seen)
      (update_core_run_id w.db execution_id (core_run_id_for execution_id)) w.calls []
  | proceed {token core_run_id execution_id seen now source unit u input} :
    unit_by_core_run_id (w.first seen) core_run_id = some source →
    unit ∈ workflow_of (w.second seen) source → unit.execution_id = execution_id →
    w.ready seen unit = true → unit.dispatch_input.any DispatchInput.valid = true →
    (∀ c ∈ w.calls, c.token ≠ token) →
    u ∈ w.db.units → u.execution_id = execution_id → u.claimable = true →
    u.dispatch_input = some input →
    Effect cfg w (.proceed token core_run_id execution_id seen now)
      (claim_for_dispatch w.db execution_id now).1
      (w.calls ++ [⟨token, { u with dispatch_claimed_at := some now }, input, .continued⟩])
      [.claimed execution_id token]
  | resubmit {token seen c unit current} : w.call token .continued = some c →
    (w.first seen).units.find c.unit.execution_id = some unit →
    (w.second seen).units.find c.unit.execution_id = some current → c.input.valid = true →
    unit.run_id = none → w.ready seen current = true →
    Effect cfg w (.resubmit token seen) (update_dispatch_input w.db c.unit.execution_id c.input)
      (w.advance token (some .claimed)) []
  | finalize {core_run_id seen now source s} :
    unit_by_core_run_id (w.first seen) core_run_id = some source →
    workflow_summary (w.summary_reads seen) (workflow_of (w.second seen) source) = some s →
    s.terminal = true →
    Effect cfg w (.finalize core_run_id seen now)
      (finalize_workflow_projection w.db source.war_task_id s now) w.calls []
  | core {core_run_id status reason r} : r ∈ w.db.runs → r.core_run_id = core_run_id →
    r.next status = true →
    Effect cfg w (.core core_run_id status reason)
      { w.db with runs := w.db.runs.update (fun q => q.core_run_id == core_run_id) fun q =>
        { q with status := status, reason := reason } } w.calls []
  | abandon {token} : Effect cfg w (.abandon token) w.db (w.advance token none) []

theorem step_effect (h : step cfg w l = some w') :
    ∃ db calls events, Effect cfg w l db calls events ∧
      w' = ⟨db, w.db :: w.past, calls, events ++ w.log⟩ := by
  have hguard : ∀ {p : Prop} [Decidable p] {u : Unit}, guard p = some u → p :=
    fun h => (Option.guard_eq_some' _).mp h
  cases l with
  | compile project_id task_id correlation_id units =>
    simp only [step, create_units, Option.bind_eq_bind, Option.bind_eq_some_iff] at h
    obtain ⟨_, hg, T, hT, h⟩ := h
    obtain ⟨hcompiled, hparent⟩ := hguard hg
    obtain ⟨p, hp, hproject⟩ := (Option.any_eq_true _ _).mp hparent
    obtain ⟨hmem, hid⟩ := Table.find_some hp
    split at hT
    · cases hT
    · rename_i hnew
      refine ⟨_, _, _, .compile hcompiled ⟨p, hmem, hid, eq_of_beq hproject⟩ ?_ hT,
        (Option.some.inj h).symm⟩
      intro u hu hp htask
      exact hnew (List.any_eq_true.mpr ⟨u, hu, by simp [hp, htask]⟩)
  | begin token execution_id input seen =>
    simp only [step, Option.bind_eq_bind, Option.bind_eq_some_iff] at h
    obtain ⟨unit, hunit, current, hcurrent, _, hg, h⟩ := h
    obtain ⟨hvalid, hrun, hready, htoken⟩ := hguard hg
    exact ⟨_, _, _, .begin hunit hcurrent hvalid hrun hready
      (fun c hc => by simpa using List.all_eq_true.mp htoken c hc), (Option.some.inj h).symm⟩
  | claim token now =>
    simp only [step, Option.bind_eq_bind, Option.bind_eq_some_iff] at h
    obtain ⟨c, hc, h⟩ := h
    split at h
    · rename_i db u hclaim
      have hdb : db = (claim_for_dispatch w.db c.unit.execution_id now).1 := by rw [hclaim]
      have hsome : (w.db.units.find c.unit.execution_id).any ExecutionUnit.claimable = true := by
        by_contra hnone
        simp [claim_for_dispatch, hnone] at hclaim
      obtain ⟨q, hq, hclaimable⟩ := (Option.any_eq_true _ _).mp hsome
      obtain ⟨hmem, hid⟩ := Table.find_some hq
      subst hdb
      exact ⟨_, _, _, .claim hc hmem hid hclaimable, (Option.some.inj h).symm⟩
    · rename_i db hclaim
      have hdb : db = (claim_for_dispatch w.db c.unit.execution_id now).1 := by rw [hclaim]
      subst hdb
      refine ⟨_, _, _, .lose hc ?_, (Option.some.inj h).symm⟩
      intro u hu hid
      have hfind := Table.mem_iff_find.mp hu
      rw [hid] at hfind
      by_contra hclaimable
      rw [Bool.not_eq_false] at hclaimable
      simp [claim_for_dispatch, hfind, hclaimable, Table.find_update] at hclaim
  | dispatch token answer =>
    simp only [step, Option.bind_eq_bind, Option.bind_eq_some_iff] at h
    obtain ⟨c, hc, ⟨runs, status⟩, hd, h⟩ := h
    exact ⟨_, _, _, .dispatch hc hd, (Option.some.inj h).symm⟩
  | bind token =>
    simp only [step, Option.bind_eq_bind, Option.bind_eq_some_iff] at h
    obtain ⟨c, hc, h⟩ := h
    exact ⟨_, _, _, .bind hc, (Option.some.inj h).symm⟩
  | replay execution_id input seen answer =>
    simp only [step, Option.bind_eq_bind, Option.bind_eq_some_iff] at h
    obtain ⟨unit, hunit, core_run_id, hrun, s, hs, _, hg, ⟨runs, status⟩, hd, h⟩ := h
    obtain ⟨hvalid, hcontract, hstatus⟩ := hguard hg
    refine ⟨_, _, _, .replay hunit hrun hs hstatus hvalid ?_ hd, (Option.some.inj h).symm⟩
    intro i hi
    rw [Option.mem_def] at hi
    rw [hi] at hcontract
    simpa using hcontract
  | rebind execution_id seen =>
    simp only [step, Option.bind_eq_bind, Option.bind_eq_some_iff] at h
    obtain ⟨unit, hunit, _, hg, h⟩ := h
    exact ⟨_, _, _, .rebind hunit (hguard hg), (Option.some.inj h).symm⟩
  | proceed token core_run_id execution_id seen now =>
    simp only [step, Option.bind_eq_bind, Option.bind_eq_some_iff] at h
    obtain ⟨source, hsource, unit, hunit, _, hg, claimed, hclaim, input, hinput, h⟩ := h
    obtain ⟨hready, hvalid, htoken⟩ := hguard hg
    have hid : unit.execution_id = execution_id := by simpa using List.find?_some hunit
    have hsome : (w.db.units.find execution_id).any ExecutionUnit.claimable = true := by
      by_contra hnone
      simp [claim_for_dispatch, hnone] at hclaim
    obtain ⟨q, hq, hclaimable⟩ := (Option.any_eq_true _ _).mp hsome
    obtain ⟨hmem, rfl⟩ := Table.find_some hq
    have hrow : claimed = { q with dispatch_claimed_at := some now } := by
      simp [claim_for_dispatch, Table.find_update, hq, hclaimable] at hclaim
      exact hclaim.symm
    subst hrow
    exact ⟨_, _, _, .proceed hsource (List.mem_of_find?_eq_some hunit) hid hready hvalid
      (fun c hc => by simpa using List.all_eq_true.mp htoken c hc) hmem rfl hclaimable hinput,
      (Option.some.inj h).symm⟩
  | resubmit token seen =>
    simp only [step, Option.bind_eq_bind, Option.bind_eq_some_iff] at h
    obtain ⟨c, hc, unit, hunit, current, hcurrent, _, hg, h⟩ := h
    obtain ⟨hvalid, hrun, hready⟩ := hguard hg
    exact ⟨_, _, _, .resubmit hc hunit hcurrent hvalid hrun hready, (Option.some.inj h).symm⟩
  | finalize core_run_id seen now =>
    simp only [step, Option.bind_eq_bind, Option.bind_eq_some_iff] at h
    obtain ⟨source, hsource, s, hs, _, hg, h⟩ := h
    exact ⟨_, _, _, .finalize hsource hs (hguard hg), (Option.some.inj h).symm⟩
  | core core_run_id status reason =>
    simp only [step, Option.bind_eq_bind, Option.bind_eq_some_iff] at h
    obtain ⟨r, hr, _, hg, h⟩ := h
    obtain ⟨hmem, hid⟩ := Table.find_some hr
    exact ⟨_, _, _, .core hmem hid (hguard hg), (Option.some.inj h).symm⟩
  | abandon token => exact ⟨_, _, _, .abandon, (Option.some.inj h).symm⟩

/-! ## What only grows -/

/-- A run that has ended keeps its status, but for the failure of an aborted run. -/
def Reaches (s s' : CoreRunStatus) : Prop :=
  s ∈ CoreRunStatus.terminal → s' = s ∨ s = .FAIL ∧ s' = .CANCELLED

theorem Reaches.refl (s : CoreRunStatus) : Reaches s s := fun _ => .inl rfl

theorem Reaches.trans {s s' s'' : CoreRunStatus} (h : Reaches s s') (h' : Reaches s' s'') :
    Reaches s s'' := by
  intro hs
  rcases h hs with rfl | ⟨rfl, rfl⟩
  · exact h' hs
  · rcases h' (by decide) with rfl | ⟨heq, -⟩
    · exact .inr ⟨rfl, rfl⟩
    · cases heq

theorem CoreRun.next_reaches {r : CoreRun} {s : CoreRunStatus} (h : r.next s = true) :
    Reaches r.status s := by
  intro hs
  rw [CoreRun.next, CoreRunStatus.transitions_of_terminal hs] at h
  simp only [List.not_mem_nil, decide_false, Bool.false_or, Bool.and_eq_true, beq_iff_eq] at h
  exact .inr ⟨h.1.1, h.2⟩

/-- What stays of a unit. -/
structure ExecutionUnit.Grows (u u' : ExecutionUnit) : Prop where
  execution_id : u'.execution_id = u.execution_id
  war_project_id : u'.war_project_id = u.war_project_id
  war_task_id : u'.war_task_id = u.war_task_id
  correlation_id : u'.correlation_id = u.correlation_id
  agent_id : u'.agent_id = u.agent_id
  workflow_role : u'.workflow_role = u.workflow_role
  depends_on : u'.depends_on_execution_ids = u.depends_on_execution_ids
  bound : u.core_run_id.isSome = true → u'.core_run_id.isSome = true
  claimed : u.dispatch_claimed_at.isSome = true → u'.dispatch_claimed_at.isSome = true

/-- What stays of the tables; a workflow gets no more units. -/
structure DB.Grows (a b : DB) : Prop where
  units : ∀ u ∈ a.units, ∃ u' ∈ b.units, u.Grows u'
  runs : ∀ r ∈ a.runs, ∃ r' ∈ b.runs, r'.core_run_id = r.core_run_id ∧ Reaches r.status r'.status
  workflow : ∀ u ∈ a.units, ∀ u' ∈ b.units, u'.war_project_id = u.war_project_id →
    u'.war_task_id = u.war_task_id → ∃ q ∈ a.units, q.Grows u'

variable {a b c db db' : DB} {u u' u'' : ExecutionUnit}

theorem ExecutionUnit.Grows.refl (u : ExecutionUnit) : u.Grows u := by
  constructor <;> simp

theorem ExecutionUnit.Grows.trans (h : u.Grows u') (h' : u'.Grows u'') : u.Grows u'' where
  execution_id := h'.execution_id.trans h.execution_id
  war_project_id := h'.war_project_id.trans h.war_project_id
  war_task_id := h'.war_task_id.trans h.war_task_id
  correlation_id := h'.correlation_id.trans h.correlation_id
  agent_id := h'.agent_id.trans h.agent_id
  workflow_role := h'.workflow_role.trans h.workflow_role
  depends_on := h'.depends_on.trans h.depends_on
  bound hu := h'.bound (h.bound hu)
  claimed hu := h'.claimed (h.claimed hu)

namespace DB.Grows

theorem refl (a : DB) : a.Grows a where
  units u hu := ⟨u, hu, .refl u⟩
  runs r hr := ⟨r, hr, rfl, .refl _⟩
  workflow _ _ u' hu' _ _ := ⟨u', hu', .refl u'⟩

theorem trans (h : a.Grows b) (h' : b.Grows c) : a.Grows c where
  units u hu := by
    obtain ⟨u', hu', hgrows⟩ := h.units u hu
    obtain ⟨u'', hu'', hgrows'⟩ := h'.units u' hu'
    exact ⟨u'', hu'', hgrows.trans hgrows'⟩
  runs r hr := by
    obtain ⟨r', hr', hid, hreaches⟩ := h.runs r hr
    obtain ⟨r'', hr'', hid', hreaches'⟩ := h'.runs r' hr'
    exact ⟨r'', hr'', hid'.trans hid, hreaches.trans hreaches'⟩
  workflow u hu u'' hu'' hp ht := by
    obtain ⟨v, hv, hgrows⟩ := h.units u hu
    obtain ⟨q, hq, hq'⟩ := h'.workflow v hv u'' hu'' (hp.trans hgrows.war_project_id.symm)
      (ht.trans hgrows.war_task_id.symm)
    obtain ⟨q', hq', hgrows'⟩ := h.workflow u hu q hq (hq'.war_project_id.symm.trans hp)
      (hq'.war_task_id.symm.trans ht)
    exact ⟨q', hq', hgrows'.trans ‹_›⟩

/-- The row that a row of an earlier state has become. -/
theorem unit (h : a.Grows b) (hu : u ∈ a.units) (hu' : u' ∈ b.units)
    (hid : u'.execution_id = u.execution_id) : u.Grows u' := by
  obtain ⟨q, hq, hgrows⟩ := h.units u hu
  obtain rfl : q = u' := Table.eq_of_key hq hu' (hgrows.execution_id.trans hid.symm)
  exact hgrows

theorem status (h : a.Grows b) {core_run_id : String} {s : CoreRunStatus}
    (hs : a.status core_run_id = some s) : ∃ s', b.status core_run_id = some s' ∧ Reaches s s' := by
  obtain ⟨r, hr, rfl, rfl⟩ := DB.status_eq_some.mp hs
  obtain ⟨r', hr', hid, hreaches⟩ := h.runs r hr
  exact ⟨r'.status, DB.status_eq_some.mpr ⟨r', hr', hid, rfl⟩, hreaches⟩

end DB.Grows

/-! ## Statements -/

/-- An update that changes no identity of the units that it selects. -/
theorem units_grow {cond : ExecutionUnit → Bool} {f : ExecutionUnit → ExecutionUnit}
    {hf : ∀ u, (f u).execution_id = u.execution_id} (h : ∀ u : ExecutionUnit, u.Grows (f u)) :
    db.Grows { db with units := db.units.update cond f hf } where
  units u hu := by
    have hmem : (if cond u then f u else u) ∈ db.units.update cond f hf := Table.update_mem hu
    refine ⟨_, hmem, ?_⟩
    split
    · exact h u
    · exact .refl u
  runs r hr := ⟨r, hr, rfl, .refl _⟩
  workflow _ _ u' hu' _ _ := by
    change u' ∈ db.units.update cond f hf at hu'
    obtain ⟨q, hq, rfl⟩ := Table.mem_update.mp hu'
    refine ⟨q, hq, ?_⟩
    split
    · exact h q
    · exact .refl q

theorem runs_grow {T : Table CoreRun CoreRun.core_run_id}
    (h : ∀ r ∈ db.runs, ∃ r' ∈ T, r'.core_run_id = r.core_run_id ∧ Reaches r.status r'.status) :
    db.Grows { db with runs := T } where
  units u hu := ⟨u, hu, .refl u⟩
  runs := h
  workflow _ _ u' hu' _ _ := ⟨u', hu', .refl u'⟩

/-- The runs after a call of the engine. -/
theorem core_dispatch_cases {runs T : Table CoreRun CoreRun.core_run_id} {id hash : String}
    {answer : CoreAnswer} {status : Option CoreRunStatus}
    (h : core_dispatch runs id hash answer = some (T, status)) :
    (T = runs ∧ (status.isSome = true → ∃ r ∈ runs, r.core_run_id = id)) ∨
    (∃ r, r.core_run_id = id ∧ runs.insert r = some T) ∨
    ∃ r ∈ runs, r.core_run_id = id ∧ r.status = .QUEUED ∧ ∃ s reason,
      T = runs.update (fun q => q.core_run_id == id) fun q =>
        { q with status := s, reason := reason } := by
  unfold core_dispatch at h
  split at h
  · cases h
    exact .inl ⟨rfl, nofun⟩
  · split at h
    · rename_i q hq
      obtain ⟨hmem, hid⟩ := Table.find_some hq
      split at h
      · cases h
        exact .inl ⟨rfl, nofun⟩
      · split at h
        · cases h
          exact .inl ⟨rfl, fun _ => ⟨q, hmem, hid⟩⟩
        · rename_i hqueued
          rw [ne_eq, not_not] at hqueued
          split at h
          · split at h
            · cases h
              exact .inr (.inr ⟨q, hmem, hid, hqueued, _, _, rfl⟩)
            · cases h
          · cases h
            exact .inl ⟨rfl, nofun⟩
    · split at h
      · split at h
        · obtain ⟨T', hT, heq⟩ := Option.map_eq_some_iff.mp h
          cases heq
          exact .inr (.inl ⟨_, rfl, hT⟩)
        · cases h
      · obtain ⟨T', hT, heq⟩ := Option.map_eq_some_iff.mp h
        cases heq
        exact .inr (.inl ⟨_, rfl, hT⟩)

section

variable {T : Table CoreRun CoreRun.core_run_id} {id hash : String} {answer : CoreAnswer}
  {status : Option CoreRunStatus} (h : core_dispatch db.runs id hash answer = some (T, status))
include h

theorem core_dispatch_grows : db.Grows { db with runs := T } := by
  refine runs_grow fun r hr => ?_
  rcases core_dispatch_cases h with ⟨rfl, -⟩ | ⟨q, -, hT⟩ | ⟨q, hq, hid, hqueued, s, reason, rfl⟩
  · exact ⟨r, hr, rfl, .refl _⟩
  · exact ⟨r, (Table.mem_insert hT).mpr (.inl hr), rfl, .refl _⟩
  · refine ⟨_, Table.update_mem hr, ?_, ?_⟩
    · split <;> rfl
    · split
      · rename_i hrid
        rw [Table.eq_of_key hr hq ((eq_of_beq hrid).trans hid.symm), hqueued]
        exact fun hterm => absurd hterm (by decide)
      · exact .refl _

/-- The run of the record that the call returns. -/
theorem core_dispatch_run (hstatus : status.isSome = true) : ∃ r ∈ T, r.core_run_id = id := by
  rcases core_dispatch_cases h with ⟨rfl, hrun⟩ | ⟨q, hid, hT⟩ | ⟨q, hq, hid, -, s, reason, rfl⟩
  · exact hrun hstatus
  · exact ⟨q, (Table.mem_insert hT).mpr (.inr rfl), hid⟩
  · exact ⟨_, Table.update_mem hq, by split <;> exact hid⟩

/-- A run that is new is the one of the call. -/
theorem core_dispatch_new {r : CoreRun} (hr : r ∈ T) :
    (∃ q ∈ db.runs, q.core_run_id = r.core_run_id) ∨ r.core_run_id = id := by
  rcases core_dispatch_cases h with ⟨rfl, -⟩ | ⟨q, hid, hT⟩ | ⟨q, hq, hid, -, s, reason, rfl⟩
  · exact .inl ⟨r, hr, rfl⟩
  · rcases (Table.mem_insert hT).mp hr with hr | rfl
    · exact .inl ⟨r, hr, rfl⟩
    · exact .inr hid
  · obtain ⟨q', hq', rfl⟩ := Table.mem_update.mp hr
    exact .inl ⟨q', hq', by split <;> rfl⟩

end

/-- The parents after a finalization. -/
theorem mem_finalize {task_id : String} {s : WorkflowStatus} {now : Int} {p : Parent} :
    p ∈ (finalize_workflow_projection db task_id s now).parents ↔ ∃ q ∈ db.parents,
      p = if q.id == task_id && q.workflow_finalized_at.isNone then
        { q with
          workflow_status := some s
          workflow_finalized_at := some now
          workflow_finalize_count := q.workflow_finalize_count + 1 }
      else q := by
  simp only [finalize_workflow_projection, Table.mem_update]

/-- The rows after several inserts. -/
theorem mem_inserts {units : List ExecutionUnit} {t T : Table ExecutionUnit ExecutionUnit.execution_id}
    (h : units.foldlM Table.insert t = some T) : u ∈ T ↔ u ∈ t ∨ u ∈ units := by
  induction units generalizing t with
  | nil =>
    cases h
    simp
  | cons q units ih =>
    rw [List.foldlM_cons] at h
    obtain ⟨t', ht', h⟩ := Option.bind_eq_some_iff.mp h
    rw [ih h, Table.mem_insert ht', List.mem_cons, or_assoc]

/-- What the compiler ensures. -/
theorem compiled_spec {project_id task_id correlation_id : String} {units : List ExecutionUnit}
    (h : compiled project_id task_id correlation_id units = true) (hu : u ∈ units) :
    u.war_project_id = project_id ∧ u.war_task_id = task_id ∧ u.correlation_id = correlation_id ∧
      u.core_run_id = none ∧ u.dispatch_claimed_at = none ∧
      ∀ d ∈ u.depends_on_execution_ids, ∃ q ∈ units, q.execution_id = d := by
  have hunit := List.all_eq_true.mp (Bool.and_eq_true_iff.mp h).1 u hu
  simp only [Bool.and_eq_true, beq_iff_eq, Option.isNone_iff_eq_none, List.all_eq_true,
    List.any_eq_true] at hunit
  obtain ⟨⟨⟨⟨⟨hp, ht⟩, hc⟩, hr⟩, hcl⟩, hd⟩ := hunit
  exact ⟨hp, ht, hc, hr, hcl, hd⟩

theorem mem_dispatch_input {e : String} {i : DispatchInput} :
    u ∈ (update_dispatch_input db e i).units ↔ ∃ q ∈ db.units,
      u = if q.execution_id == e then
        { q with
          dispatch_message := some i.message
          dispatch_timeout_seconds := some i.timeout_seconds
          dispatch_goal_contract := i.goal_contract }
      else q := by
  simp only [update_dispatch_input, Table.mem_update]

theorem mem_claim {e : String} {now : Int} :
    u ∈ (claim_for_dispatch db e now).1.units ↔ ∃ q ∈ db.units,
      u = if q.execution_id == e && q.claimable then { q with dispatch_claimed_at := some now }
      else q := by
  simp only [claim_for_dispatch, Table.mem_update]

theorem mem_core_run_id {e r : String} :
    u ∈ (update_core_run_id db e r).units ↔ ∃ q ∈ db.units,
      u = if q.execution_id == e then { q with core_run_id := some r } else q := by
  simp only [update_core_run_id, Table.mem_update]

/-- How a row of the units comes about. -/
inductive Became (w : World) (l : Label) (calls : List Call) (events : List Event)
    (u : ExecutionUnit) : Prop
  | same : u ∈ w.db.units → Became w l calls events u
  | compiled : u.core_run_id = none → u.dispatch_claimed_at = none → events = [] →
    Became w l calls events u
  | input {q i} : q ∈ w.db.units → events = [] →
    (∃ token seen, l = .begin token q.execution_id i seen) ∨
      (∃ token seen c, l = .resubmit token seen ∧ w.call token .continued = some c ∧
        c.unit.execution_id = q.execution_id ∧ c.input = i) →
    u = { q with
          dispatch_message := some i.message
          dispatch_timeout_seconds := some i.timeout_seconds
          dispatch_goal_contract := i.goal_contract } → Became w l calls events u
  | claimed {q token now} : q ∈ w.db.units → q.claimable = true →
    events = [.claimed q.execution_id token] → u = { q with dispatch_claimed_at := some now } →
    Became w l calls events u
  | bound {q} : q ∈ w.db.units → events = [] →
    (∃ token c, l = .bind token ∧ w.call token .dispatched = some c ∧
        c.unit.execution_id = q.execution_id ∧ calls = w.advance token none) ∨
      (∃ seen unit, l = .rebind q.execution_id seen ∧ unit ∈ (w.first seen).units ∧
        unit.execution_id = q.execution_id ∧ unit.run_id.isSome = true) →
    u = { q with core_run_id := some (core_run_id_for q.execution_id) } → Became w l calls events u

theorem effect_unit {calls : List Call} {events : List Event} (h : Effect cfg w l db calls events)
    (hu : u ∈ db.units) : Became w l calls events u := by
  cases h with
  | compile hcompiled _ _ hT =>
    rcases (mem_inserts hT).mp hu with hu | hu
    · exact .same hu
    · obtain ⟨-, -, -, hrun, hclaimed, -⟩ := compiled_spec hcompiled hu
      exact .compiled hrun hclaimed rfl
  | begin =>
    obtain ⟨q, hq, rfl⟩ := mem_dispatch_input.mp hu
    split
    · rename_i hid
      obtain rfl := eq_of_beq hid
      exact .input hq rfl (.inl ⟨_, _, rfl⟩) rfl
    · exact .same hq
  | resubmit hc =>
    obtain ⟨q, hq, rfl⟩ := mem_dispatch_input.mp hu
    split
    · rename_i hid
      exact .input hq rfl (.inr ⟨_, _, _, rfl, hc, (eq_of_beq hid).symm, rfl⟩) rfl
    · exact .same hq
  | claim | proceed =>
    obtain ⟨q, hq, rfl⟩ := mem_claim.mp hu
    split
    · rename_i hcond
      obtain ⟨hid, hclaimable⟩ := Bool.and_eq_true_iff.mp hcond
      exact .claimed hq hclaimable (by rw [eq_of_beq hid]) rfl
    · exact .same hq
  | lose _ hlost =>
    obtain ⟨q, hq, rfl⟩ := mem_claim.mp hu
    split
    · rename_i hcond
      obtain ⟨hid, hclaimable⟩ := Bool.and_eq_true_iff.mp hcond
      rw [hlost q hq (eq_of_beq hid)] at hclaimable
      cases hclaimable
    · exact .same hq
  | bind hc =>
    obtain ⟨q, hq, rfl⟩ := mem_core_run_id.mp hu
    split
    · rename_i hid
      exact .bound hq rfl (.inl ⟨_, _, rfl, hc, (eq_of_beq hid).symm, rfl⟩) (by rw [← eq_of_beq hid])
    · exact .same hq
  | rebind hunit hbound =>
    obtain ⟨q, hq, rfl⟩ := mem_core_run_id.mp hu
    obtain ⟨hmem, hid'⟩ := Table.find_some hunit
    split
    · rename_i hid
      obtain rfl := eq_of_beq hid
      exact .bound hq rfl (.inr ⟨_, _, rfl, hmem, hid', hbound⟩) rfl
    · exact .same hq
  | dispatch | replay | finalize | core | abandon => exact .same hu

theorem effect_grows {calls : List Call} {events : List Event} (h : Effect cfg w l db calls events) :
    w.db.Grows db := by
  cases h with
  | @compile project_id task_id correlation_id units T hcompiled hparent hnew hT =>
    refine { units := fun u hu => ⟨u, (mem_inserts hT).mpr (.inl hu), .refl u⟩
             runs := fun r hr => ⟨r, hr, rfl, .refl _⟩
             workflow := fun u hu u' hu' hp ht => ?_ }
    rcases (mem_inserts hT).mp hu' with hu' | hu'
    · exact ⟨u', hu', .refl u'⟩
    · obtain ⟨hproject, htask, -⟩ := compiled_spec hcompiled hu'
      exact absurd (ht.symm.trans htask) (hnew u hu (hp.symm.trans hproject))
  | begin => exact units_grow fun u => by constructor <;> simp
  | claim => exact units_grow fun u => by constructor <;> simp
  | lose => exact units_grow fun u => by constructor <;> simp
  | dispatch _ hd => exact core_dispatch_grows hd
  | bind => exact units_grow fun u => by constructor <;> simp
  | replay _ _ _ _ _ _ hd => exact core_dispatch_grows hd
  | rebind => exact units_grow fun u => by constructor <;> simp
  | proceed => exact units_grow fun u => by constructor <;> simp
  | resubmit => exact units_grow fun u => by constructor <;> simp
  | finalize => exact ⟨fun u hu => ⟨u, hu, .refl u⟩, fun r hr => ⟨r, hr, rfl, .refl _⟩,
      fun _ _ u' hu' _ _ => ⟨u', hu', .refl u'⟩⟩
  | @core core_run_id status reason r hmem hid hnext =>
    refine runs_grow fun q hq => ⟨_, Table.update_mem hq, ?_, ?_⟩
    · split <;> rfl
    · split
      · rename_i hqid
        obtain rfl : q = r := Table.eq_of_key hq hmem ((eq_of_beq hqid).trans hid.symm)
        exact CoreRun.next_reaches hnext
      · exact .refl _
  | abandon => exact .refl _

end Orchestration

end Plachem
