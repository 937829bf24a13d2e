import PlachemMonitor.Orchestration.Effects

/-!
# What is true of every reachable state

* `DB.Passed`: a dependency has passed; it stays so (`DB.Passed.grows`).
* `Formed`: every unit is of one workflow with its dependencies, is bound to a run of its own, and
  has a run only if all of them have passed.
* `Sound`: every state so far is `Formed` and the states only grow; a call is of a unit whose
  dependencies have passed (`inductive_sound`).
-/

namespace Plachem

namespace Orchestration

variable {cfg : Config} {w w' : World} {l : Label} {a b db : DB} {u q : ExecutionUnit} {d : String}

/-! ## Tables -/

/-- A unit that is bound, and whose run has passed. -/
structure DB.Passed (db : DB) (execution_id : String) : Prop where
  bound : ∃ q ∈ db.units, q.execution_id = execution_id ∧ q.core_run_id.isSome = true
  status : db.status (core_run_id_for execution_id) = some .PASS

theorem DB.Passed.grows (h : a.Passed d) (hab : a.Grows b) : b.Passed d where
  bound := by
    obtain ⟨q, hq, hid, hbound⟩ := h.bound
    obtain ⟨q', hq', hgrows⟩ := hab.units q hq
    exact ⟨q', hq', hgrows.execution_id.trans hid, hgrows.bound hbound⟩
  status := by
    obtain ⟨s, hs, hreaches⟩ := hab.status h.status
    rcases hreaches (by decide) with rfl | ⟨hfail, -⟩
    · exact hs
    · cases hfail

/-- What is true of the tables. -/
structure Formed (db : DB) : Prop where
  own : ∀ u ∈ db.units, ∀ r, u.core_run_id = some r → r = core_run_id_for u.execution_id
  run : ∀ u ∈ db.units, u.core_run_id.isSome = true →
    ∃ r ∈ db.runs, r.core_run_id = core_run_id_for u.execution_id
  depends_on : ∀ u ∈ db.units, ∀ d ∈ u.depends_on_execution_ids, ∃ q ∈ db.units,
    q.execution_id = d ∧ q.war_task_id = u.war_task_id
  passed : ∀ u ∈ db.units, ∀ r ∈ db.runs, r.core_run_id = core_run_id_for u.execution_id →
    ∀ d ∈ u.depends_on_execution_ids, db.Passed d
  of_unit : ∀ r ∈ db.runs, ∃ u ∈ db.units, r.core_run_id = core_run_id_for u.execution_id
  parent : ∀ u ∈ db.units, ∃ p ∈ db.parents, p.id = u.war_task_id ∧ p.project_id = u.war_project_id
  workflow : ∀ u ∈ db.units, ∀ q ∈ db.units, q.war_project_id = u.war_project_id →
    q.war_task_id = u.war_task_id → q.correlation_id = u.correlation_id

theorem core_run_id_for_inj {e e' : String} (h : core_run_id_for e = core_run_id_for e') : e = e' := by
  have hdata := congrArg String.toList h
  simp only [core_run_id_for, String.toList_append, List.append_cancel_left_eq] at hdata
  exact String.toList_injective hdata

theorem core_run_id_for_ne (e : String) : core_run_id_for e ≠ "" := by
  intro h
  have hdata := congrArg String.toList h
  simp [core_run_id_for] at hdata

namespace Formed

/-- Two units of one task are of one workflow. -/
theorem same (h : Formed db) (hu : u ∈ db.units) (hq : q ∈ db.units)
    (htask : q.war_task_id = u.war_task_id) :
    q.war_project_id = u.war_project_id ∧ q.correlation_id = u.correlation_id := by
  obtain ⟨p, hp, hid, hproject⟩ := h.parent u hu
  obtain ⟨p', hp', hid', hproject'⟩ := h.parent q hq
  obtain rfl : p' = p := Table.eq_of_key hp' hp (hid'.trans (htask.trans hid.symm))
  have hsame : q.war_project_id = u.war_project_id := hproject'.symm.trans hproject
  exact ⟨hsame, h.workflow u hu q hq hsame htask⟩

theorem run_id (h : Formed db) (hu : u ∈ db.units) {r : String} (hr : u.run_id = some r) :
    r = core_run_id_for u.execution_id ∧ u.core_run_id = some (core_run_id_for u.execution_id) := by
  obtain ⟨hsome, -⟩ := Option.filter_eq_some_iff.mp hr
  obtain rfl := h.own u hu r hsome
  exact ⟨rfl, hsome⟩

theorem run_id_of_bound (h : Formed db) (hu : u ∈ db.units) (hbound : u.core_run_id.isSome = true) :
    u.run_id = some (core_run_id_for u.execution_id) := by
  obtain ⟨r, hr⟩ := Option.isSome_iff_exists.mp hbound
  obtain rfl := h.own u hu r hr
  exact Option.filter_eq_some_iff.mpr ⟨hr, by simpa using core_run_id_for_ne u.execution_id⟩

theorem not_bound (h : Formed db) (hu : u ∈ db.units) : u.run_id = none ↔ u.core_run_id = none := by
  refine ⟨fun hr => ?_, fun hr => by rw [ExecutionUnit.run_id, hr, Option.filter_none]⟩
  cases hc : u.core_run_id with
  | none => rfl
  | some r =>
    rw [h.run_id_of_bound hu (by rw [hc]; rfl)] at hr
    cases hr

/-- A bound unit has passed dependencies. -/
theorem bound_passed (h : Formed db) (hu : u ∈ db.units) (hbound : u.core_run_id.isSome = true)
    (hd : d ∈ u.depends_on_execution_ids) : db.Passed d := by
  obtain ⟨r, hr, hid⟩ := h.run u hu hbound
  exact h.passed u hu r hr hid d hd

end Formed

/-- A dependency that has passed, as it was read. -/
theorem passed_of_dependency {reads : Reads} (hformed : Formed (reads.unit d))
    (hgrows : (reads.unit d).Grows (reads.status d)) (h : dependency_detail reads d = .SUCCESS) :
    (reads.status d).Passed d := by
  obtain ⟨q, hq, rfl, r, hr, hs⟩ := dependency_success.mp h
  obtain ⟨rfl, hbound⟩ := hformed.run_id hq hr
  obtain ⟨q', hq', hgrown⟩ := hgrows.units q hq
  exact ⟨⟨q', hq', hgrown.execution_id, hgrown.bound (by rw [hbound]; rfl)⟩, hs⟩

theorem Formed.dependency (h : Formed db) : dependency_detail db.reads d = .SUCCESS ↔ db.Passed d := by
  refine ⟨@passed_of_dependency d db.reads h (.refl db), fun hd => ?_⟩
  obtain ⟨q, hq, rfl, hbound⟩ := hd.bound
  exact dependency_success.mpr ⟨q, hq, rfl, _, h.run_id_of_bound hq hbound, hd.status⟩

/-! ## Writes -/

/-- Units that are as they were, or are bound to a run of their own. -/
theorem Formed.units {T : Table ExecutionUnit ExecutionUnit.execution_id} (h : Formed db)
    (hgrows : db.Grows { db with units := T })
    (hrows : ∀ u ∈ T, ∃ q ∈ db.units, q.Grows u ∧ (u.core_run_id = q.core_run_id ∨
      u.core_run_id = some (core_run_id_for q.execution_id) ∧
        ∃ r ∈ db.runs, r.core_run_id = core_run_id_for q.execution_id)) :
    Formed { db with units := T } where
  own u hu r hr := by
    obtain ⟨q, hq, hgrown, hsame | ⟨hown, -⟩⟩ := hrows u hu
    · rw [hgrown.execution_id]
      exact h.own q hq r (hsame ▸ hr)
    · rw [hgrown.execution_id]
      exact Option.some.inj (hr.symm.trans hown)
  run u hu hbound := by
    obtain ⟨q, hq, hgrown, hsame | ⟨-, hrun⟩⟩ := hrows u hu
    · rw [hgrown.execution_id]
      exact h.run q hq (hsame ▸ hbound)
    · rw [hgrown.execution_id]
      exact hrun
  depends_on u hu d hd := by
    obtain ⟨q, hq, hgrown, -⟩ := hrows u hu
    obtain ⟨v, hv, hid, htask⟩ := h.depends_on q hq d (hgrown.depends_on ▸ hd)
    obtain ⟨v', hv', hgrown'⟩ := hgrows.units v hv
    exact ⟨v', hv', hgrown'.execution_id.trans hid,
      hgrown'.war_task_id.trans (htask.trans hgrown.war_task_id.symm)⟩
  passed u hu r hr hid d hd := by
    obtain ⟨q, hq, hgrown, -⟩ := hrows u hu
    exact (h.passed q hq r hr (hid.trans (by rw [hgrown.execution_id])) d
      (hgrown.depends_on ▸ hd)).grows hgrows
  of_unit r hr := by
    obtain ⟨q, hq, hid⟩ := h.of_unit r hr
    obtain ⟨q', hq', hgrown⟩ := hgrows.units q hq
    exact ⟨q', hq', hid.trans (by rw [hgrown.execution_id])⟩
  parent u hu := by
    obtain ⟨q, hq, hgrown, -⟩ := hrows u hu
    rw [hgrown.war_task_id, hgrown.war_project_id]
    exact h.parent q hq
  workflow u hu v hv hproject htask := by
    obtain ⟨q, hq, hgrown, -⟩ := hrows u hu
    obtain ⟨q', hq', hgrown', -⟩ := hrows v hv
    rw [hgrown.correlation_id, hgrown'.correlation_id]
    exact h.workflow q hq q' hq'
      (hgrown'.war_project_id.symm.trans (hproject.trans hgrown.war_project_id))
      (hgrown'.war_task_id.symm.trans (htask.trans hgrown.war_task_id))

/-- Runs of which each is not new, or is of a unit with passed dependencies. -/
theorem Formed.runs {T : Table CoreRun CoreRun.core_run_id} (h : Formed db)
    (hgrows : db.Grows { db with runs := T })
    (hnew : ∀ r ∈ T, (∃ q ∈ db.runs, q.core_run_id = r.core_run_id) ∨
      ∃ u ∈ db.units, r.core_run_id = core_run_id_for u.execution_id ∧
        ∀ d ∈ u.depends_on_execution_ids, db.Passed d) :
    Formed { db with runs := T } where
  own := h.own
  run u hu hbound := by
    obtain ⟨r, hr, hid⟩ := h.run u hu hbound
    obtain ⟨r', hr', hid', -⟩ := hgrows.runs r hr
    exact ⟨r', hr', hid'.trans hid⟩
  depends_on := h.depends_on
  passed u hu r hr hid d hd := by
    rcases hnew r hr with ⟨q, hq, hsame⟩ | ⟨q, hq, hrun, hpassed⟩
    · exact (h.passed u hu q hq (hsame.trans hid) d hd).grows hgrows
    · obtain rfl : u = q := Table.eq_of_key hu hq (core_run_id_for_inj (hid.symm.trans hrun))
      exact (hpassed d hd).grows hgrows
  of_unit r hr := by
    rcases hnew r hr with ⟨q, hq, hsame⟩ | ⟨q, hq, hrun, -⟩
    · exact hsame ▸ h.of_unit q hq
    · exact ⟨q, hq, hrun⟩
  parent := h.parent
  workflow := h.workflow

/-- An update of the units that binds none. -/
theorem Formed.update {cond : ExecutionUnit → Bool} {f : ExecutionUnit → ExecutionUnit}
    {hf : ∀ u, (f u).execution_id = u.execution_id} (h : Formed db)
    (hgrows : ∀ u : ExecutionUnit, u.Grows (f u))
    (hbound : ∀ u : ExecutionUnit, (f u).core_run_id = u.core_run_id) :
    Formed { db with units := db.units.update cond f hf } := by
  refine h.units (units_grow hgrows) fun u hu => ?_
  obtain ⟨q, hq, rfl⟩ := Table.mem_update.mp hu
  refine ⟨q, hq, ?_⟩
  split
  · exact ⟨hgrows q, .inl (hbound q)⟩
  · exact ⟨.refl q, .inl rfl⟩

/-- `update_core_run_id` -/
theorem Formed.bind {e : String} (h : Formed db)
    (hrun : ∃ r ∈ db.runs, r.core_run_id = core_run_id_for e) :
    Formed (update_core_run_id db e (core_run_id_for e)) := by
  refine h.units (units_grow fun u => by constructor <;> simp) fun u hu => ?_
  obtain ⟨q, hq, rfl⟩ := Table.mem_update.mp hu
  refine ⟨q, hq, ?_⟩
  split
  · rename_i hid
    obtain rfl := eq_of_beq hid
    exact ⟨by constructor <;> simp, .inr ⟨rfl, hrun⟩⟩
  · exact ⟨.refl q, .inl rfl⟩

/-- The units of a new workflow. -/
theorem Formed.compile {project_id task_id correlation_id : String} {units : List ExecutionUnit}
    {T : Table ExecutionUnit ExecutionUnit.execution_id} (h : Formed db)
    (hcompiled : compiled project_id task_id correlation_id units = true)
    (hparent : ∃ p ∈ db.parents, p.id = task_id ∧ p.project_id = project_id)
    (hnew : ∀ u ∈ db.units, u.war_project_id = project_id → u.war_task_id ≠ task_id)
    (hT : units.foldlM Table.insert db.units = some T)
    (hgrows : db.Grows { db with units := T }) : Formed { db with units := T } where
  own u hu r hr := by
    rcases (mem_inserts hT).mp hu with hu | hu
    · exact h.own u hu r hr
    · rw [(compiled_spec hcompiled hu).2.2.2.1] at hr
      cases hr
  run u hu hbound := by
    rcases (mem_inserts hT).mp hu with hu | hu
    · exact h.run u hu hbound
    · rw [(compiled_spec hcompiled hu).2.2.2.1] at hbound
      cases hbound
  depends_on u hu d hd := by
    rcases (mem_inserts hT).mp hu with hu | hu
    · obtain ⟨q, hq, hid, htask⟩ := h.depends_on u hu d hd
      exact ⟨q, (mem_inserts hT).mpr (.inl hq), hid, htask⟩
    · obtain ⟨-, htask, -, -, -, hdeps⟩ := compiled_spec hcompiled hu
      obtain ⟨q, hq, hid⟩ := hdeps d hd
      exact ⟨q, (mem_inserts hT).mpr (.inr hq), hid,
        (compiled_spec hcompiled hq).2.1.trans htask.symm⟩
  passed u hu r hr hid d hd := by
    -- the run is of an older unit, which no new one can replace
    obtain ⟨q, hq, hrun⟩ := h.of_unit r hr
    obtain rfl : u = q := Table.eq_of_key (t := { db with units := T }.units) hu
      ((mem_inserts hT).mpr (.inl hq)) (core_run_id_for_inj (hid.symm.trans hrun))
    exact (h.passed u hq r hr hid d hd).grows hgrows
  of_unit r hr := by
    obtain ⟨q, hq, hrun⟩ := h.of_unit r hr
    exact ⟨q, (mem_inserts hT).mpr (.inl hq), hrun⟩
  parent u hu := by
    rcases (mem_inserts hT).mp hu with hu | hu
    · exact h.parent u hu
    · obtain ⟨hproject, htask, -⟩ := compiled_spec hcompiled hu
      rw [hproject, htask]
      exact hparent
  workflow u hu q hq hproject htask := by
    rcases (mem_inserts hT).mp hu with hu | hu <;> rcases (mem_inserts hT).mp hq with hq | hq
    · exact h.workflow u hu q hq hproject htask
    · obtain ⟨hp, ht, -⟩ := compiled_spec hcompiled hq
      exact absurd (htask.symm.trans ht) (hnew u hu (hproject.symm.trans hp))
    · obtain ⟨hp, ht, -⟩ := compiled_spec hcompiled hu
      exact absurd (htask.trans ht) (hnew q hq (hproject.trans hp))
    · exact (compiled_spec hcompiled hq).2.2.1.trans (compiled_spec hcompiled hu).2.2.1.symm

/-! ## Worlds -/

/-- What is true of a call. -/
structure Call.Sound (db : DB) (c : Call) : Prop where
  unit : ∃ u ∈ db.units, u.execution_id = c.unit.execution_id ∧
    ∀ d ∈ u.depends_on_execution_ids, db.Passed d
  run : c.stage = .dispatched → ∃ r ∈ db.runs, r.core_run_id = core_run_id_for c.unit.execution_id

structure Sound (w : World) : Prop where
  formed : ∀ k, Formed (w.ago k)
  ordered : Past.Ordered DB.Grows w.db w.past
  calls : ∀ c ∈ w.calls, c.Sound w.db
  tokens : (w.calls.map Call.token).Nodup

theorem Call.Sound.grows {c : Call} (h : c.Sound a) (hab : a.Grows b) : c.Sound b where
  unit := by
    obtain ⟨u, hu, hid, hpassed⟩ := h.unit
    obtain ⟨u', hu', hgrown⟩ := hab.units u hu
    exact ⟨u', hu', hgrown.execution_id.trans hid,
      fun d hd => (hpassed d (hgrown.depends_on ▸ hd)).grows hab⟩
  run hstage := by
    obtain ⟨r, hr, hid⟩ := h.run hstage
    obtain ⟨r', hr', hid', -⟩ := hab.runs r hr
    exact ⟨r', hr', hid'.trans hid⟩

theorem mem_advance {token : String} {stage : Stage} {c : Call} :
    c ∈ w.advance token (some stage) ↔
      ∃ q ∈ w.calls, c = if q.token = token then { q with stage := stage } else q := by
  simp only [World.advance, List.mem_map, eq_comm]

theorem mem_advance_none {token : String} {c : Call} :
    c ∈ w.advance token none ↔ c ∈ w.calls ∧ c.token ≠ token := by
  simp [World.advance]

theorem call_some {token : String} {stage : Stage} {c : Call} (h : w.call token stage = some c) :
    c ∈ w.calls ∧ c.token = token ∧ c.stage = stage := by
  have hc := List.find?_some h
  simp only [Bool.and_eq_true, beq_iff_eq] at hc
  exact ⟨List.mem_of_find?_eq_some h, hc⟩

namespace Sound

theorem now (h : Sound w) : Formed w.db := h.formed 0

theorem ago (h : Sound w) {k j : Nat} (hjk : j ≤ k) : (w.ago k).Grows (w.ago j) := h.ordered k j hjk

theorem latest (h : Sound w) (k : Nat) : (w.ago k).Grows w.db := h.ordered.latest k

/-- The call of a token. -/
theorem token (h : Sound w) {c c' : Call} (hc : c ∈ w.calls) (hc' : c' ∈ w.calls)
    (htoken : c.token = c'.token) : c = c' :=
  List.inj_on_of_nodup_map h.tokens hc hc' htoken

/-- The dependencies of a unit that a step has read as ready. -/
theorem ready (h : Sound w) {seen : Seen} (hready : w.ready seen u = true) :
    u.run_id = none ∧ ∀ d ∈ u.depends_on_execution_ids, w.db.Passed d := by
  obtain ⟨hrun, hdeps⟩ := evaluate_ready.mp (eq_of_beq hready)
  refine ⟨hrun, fun d hd => ?_⟩
  have hpassed := passed_of_dependency (h.formed _) (h.ago (Nat.min_le_right _ _)) (hdeps d hd)
  exact hpassed.grows (h.latest _)

/-- A unit that a step has read, as it is now. -/
theorem unit (h : Sound w) {k : Nat} (hu : u ∈ (w.ago k).units)
    (hpassed : ∀ d ∈ u.depends_on_execution_ids, w.db.Passed d) :
    ∃ q ∈ w.db.units, q.execution_id = u.execution_id ∧
      ∀ d ∈ q.depends_on_execution_ids, w.db.Passed d := by
  obtain ⟨q, hq, hgrown⟩ := (h.latest k).units u hu
  exact ⟨q, hq, hgrown.execution_id, fun d hd => hpassed d (hgrown.depends_on ▸ hd)⟩

end Sound

/-! ## Steps -/

theorem effect_formed {calls : List Call} {events : List Event} (h : Sound w)
    (he : Effect cfg w l db calls events) : Formed db := by
  have hgrows := effect_grows he
  cases he with
  | compile hcompiled hparent hnew hT => exact h.now.compile hcompiled hparent hnew hT hgrows
  | begin => exact h.now.update (fun u => by constructor <;> simp) fun _ => rfl
  | claim => exact h.now.update (fun u => by constructor <;> simp) fun _ => rfl
  | lose => exact h.now.update (fun u => by constructor <;> simp) fun _ => rfl
  | dispatch hc hd =>
    obtain ⟨u, hu, hid, hpassed⟩ := (h.calls _ (call_some hc).1).unit
    refine h.now.runs hgrows fun r hr => (core_dispatch_new hd hr).imp_right fun hr => ?_
    exact ⟨u, hu, by rw [hr, hid], hpassed⟩
  | bind hc =>
    obtain ⟨hmem, -, hstage⟩ := call_some hc
    exact h.now.bind ((h.calls _ hmem).run hstage)
  | @replay execution_id input seen answer unit core_run_id s runs status hunit hrun hs hstatus hvalid
      hcontract hd =>
    obtain ⟨hmem, hid⟩ := Table.find_some hunit
    obtain ⟨u, hu, hgrown⟩ := (h.latest _).units unit hmem
    obtain ⟨-, hbound⟩ := (h.formed _).run_id hmem hrun
    have hbound' := hgrown.bound (by rw [hbound]; rfl)
    refine h.now.runs hgrows fun r hr => (core_dispatch_new hd hr).imp_right fun hr => ?_
    exact ⟨u, hu, by rw [hr, hgrown.execution_id, hid], fun d hd => h.now.bound_passed hu hbound' hd⟩
  | rebind hunit hbound =>
    obtain ⟨hmem, hid⟩ := Table.find_some hunit
    obtain ⟨u, hu, hgrown⟩ := (h.latest _).units _ hmem
    obtain ⟨r, hr⟩ := Option.isSome_iff_exists.mp hbound
    obtain ⟨-, hbound⟩ := (h.formed _).run_id hmem hr
    obtain ⟨r, hr, hrun⟩ := h.now.run u hu (hgrown.bound (by rw [hbound]; rfl))
    exact h.now.bind ⟨r, hr, by rw [hrun, hgrown.execution_id, hid]⟩
  | proceed => exact h.now.update (fun u => by constructor <;> simp) fun _ => rfl
  | resubmit => exact h.now.update (fun u => by constructor <;> simp) fun _ => rfl
  | finalize =>
    exact
      { own := h.now.own
        run := h.now.run
        depends_on := h.now.depends_on
        passed := fun u hu r hr hid d hd => (h.now.passed u hu r hr hid d hd).grows hgrows
        of_unit := h.now.of_unit
        parent := fun u hu => by
          obtain ⟨p, hp, hid, hproject⟩ := h.now.parent u hu
          exact ⟨_, mem_finalize.mpr ⟨p, hp, rfl⟩, by split <;> exact hid, by split <;> exact hproject⟩
        workflow := h.now.workflow }
  | core hmem hid hnext =>
    refine h.now.runs hgrows fun q hq => .inl ?_
    obtain ⟨r, hr, rfl⟩ := Table.mem_update.mp hq
    exact ⟨r, hr, by split <;> rfl⟩
  | abandon => exact h.now

theorem effect_calls {calls : List Call} {events : List Event} (h : Sound w)
    (he : Effect cfg w l db calls events) : ∀ c ∈ calls, c.Sound db := by
  have hgrows := effect_grows he
  have hold : ∀ c ∈ w.calls, c.Sound db := fun c hc => (h.calls c hc).grows hgrows
  have hnone : ∀ token, ∀ c ∈ w.advance token none, c.Sound db :=
    fun token c hc => hold c (mem_advance_none.mp hc).1
  have hsome : ∀ token stage, (stage = .dispatched → ∃ c ∈ w.calls, c.token = token ∧
      ∃ r ∈ db.runs, r.core_run_id = core_run_id_for c.unit.execution_id) →
      ∀ c ∈ w.advance token (some stage), c.Sound db := by
    intro token stage hrun c hc
    obtain ⟨q, hq, rfl⟩ := mem_advance.mp hc
    split
    · rename_i htoken
      refine ⟨(hold q hq).unit, fun hstage => ?_⟩
      obtain ⟨c, hc, htoken', hr⟩ := hrun hstage
      rwa [h.token hc hq (htoken'.trans htoken.symm)] at hr
    · exact hold q hq
  cases he with
  | compile => exact hold
  | begin hunit hcurrent hvalid hrun hready htoken =>
    intro c hc
    rcases List.mem_append.mp hc with hc | hc
    · exact hold c hc
    · obtain rfl := List.mem_singleton.mp hc
      obtain ⟨hmem, hid⟩ := Table.find_some hcurrent
      obtain ⟨-, hpassed⟩ := h.ready hready
      obtain ⟨q, hq, hqid, hqpassed⟩ := h.unit hmem hpassed
      obtain ⟨-, hid'⟩ := Table.find_some hunit
      exact Call.Sound.grows ⟨⟨q, hq, by rw [hqid, hid, hid'], hqpassed⟩, nofun⟩ hgrows
  | claim => exact hsome _ _ nofun
  | lose => exact hnone _
  | @dispatch token answer c runs status hc hd =>
    obtain ⟨hmem, htoken, -⟩ := call_some hc
    cases status with
    | none => exact hnone _
    | some s => exact hsome _ _ fun _ => ⟨c, hmem, htoken, core_dispatch_run hd rfl⟩
  | bind => exact hnone _
  | replay => exact hold
  | rebind => exact hold
  | @proceed token core_run_id execution_id seen now source unit u input hsource hunit hid hready hvalid
      htoken hu huid hclaimable hinput =>
    intro c hc
    rcases List.mem_append.mp hc with hc | hc
    · exact hold c hc
    · obtain rfl := List.mem_singleton.mp hc
      obtain ⟨-, hpassed⟩ := h.ready hready
      obtain ⟨q, hq, hqid, hqpassed⟩ := h.unit (List.mem_of_mem_filter hunit) hpassed
      exact Call.Sound.grows ⟨⟨q, hq, by rw [hqid, hid, ← huid], hqpassed⟩, nofun⟩ hgrows
  | resubmit => exact hsome _ _ nofun
  | finalize => exact hold
  | core => exact hold
  | abandon => exact hnone _

theorem effect_tokens {calls : List Call} {events : List Event} (h : Sound w)
    (he : Effect cfg w l db calls events) : (calls.map Call.token).Nodup := by
  have hadvance : ∀ token stage, ((w.advance token stage).map Call.token).Nodup := by
    intro token stage
    cases stage with
    | none => exact h.tokens.sublist (List.filter_sublist.map _)
    | some stage =>
      have hsame : (w.advance token (some stage)).map Call.token = w.calls.map Call.token := by
        rw [World.advance, List.map_map]
        refine List.map_congr_left fun c _ => ?_
        simp only [Function.comp_apply]
        split <;> rfl
      exact hsame ▸ h.tokens
  have hnew : ∀ c : Call, (∀ q ∈ w.calls, q.token ≠ c.token) →
      ((w.calls ++ [c]).map Call.token).Nodup := by
    intro c hc
    rw [List.map_append, List.nodup_append_comm]
    refine List.nodup_cons.mpr ⟨fun hmem => ?_, h.tokens⟩
    obtain ⟨q, hq, htoken⟩ := List.mem_map.mp hmem
    exact hc q hq htoken
  cases he with
  | begin _ _ _ _ _ htoken => exact hnew _ htoken
  | proceed _ _ _ _ _ htoken => exact hnew _ htoken
  | compile | replay | rebind | finalize | core => exact h.tokens
  | claim | lose | dispatch | bind | resubmit | abandon => exact hadvance _ _

theorem inductive_sound (G : World → Label → Prop) : (orchestrators cfg).InductiveIf G Sound where
  init w hw := by
    obtain ⟨hunits, hruns, -, hpast, hcalls, -⟩ := hw
    have hu : ∀ u, u ∉ w.db.units := fun u hu => by rw [Table.mem_def, hunits] at hu; cases hu
    have hr : ∀ r, r ∉ w.db.runs := fun r hr => by rw [Table.mem_def, hruns] at hr; cases hr
    have hformed : Formed w.db :=
      ⟨fun u h => absurd h (hu u), fun u h => absurd h (hu u), fun u h => absurd h (hu u),
        fun u h => absurd h (hu u), fun r h => absurd h (hr r), fun u h => absurd h (hu u),
        fun u h => absurd h (hu u)⟩
    refine ⟨fun k => ?_, ?_, ?_, ?_⟩
    · rw [World.ago, hpast, Past.ago_nil]
      exact hformed
    · rw [hpast]
      exact .nil DB.Grows.refl w.db
    · rw [hcalls]
      exact fun c hc => absurd hc List.not_mem_nil
    · rw [hcalls]
      exact .nil
  step w l w' h _ hs := by
    obtain ⟨db, calls, events, he, rfl⟩ := step_effect hs
    have hformed : ∀ k, Formed (Past.ago db (w.db :: w.past) k) :=
      Past.forall_ago h.formed (effect_formed h he)
    have hordered : Past.Ordered DB.Grows db (w.db :: w.past) :=
      h.ordered.push DB.Grows.refl (fun _ _ _ => DB.Grows.trans) (effect_grows he)
    exact ⟨hformed, hordered, effect_calls h he, effect_tokens h he⟩

end Orchestration

end Plachem
