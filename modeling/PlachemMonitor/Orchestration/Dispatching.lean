import Mathlib.Algebra.Order.BigOperators.Group.List
import Mathlib.Algebra.Order.Ring.Nat
import PlachemMonitor.Orchestration.Compiler
import PlachemMonitor.Orchestration.Sound

/-!
# Dispatching what has been compiled

`scheduler` dispatches units that are ready, in any order, and all runs pass. The compiled units are in an order in
which each one stands in front of its dependencies, so as long as one of them has not passed, the last such unit is
running or ready (`Underway.passed_of_stuck`). Each move brings a unit on, so there are at most two for each unit.
-/

namespace Plachem

namespace Orchestration

/-! ## Moves -/

/-- `engine.dispatch` of a unit that is ready, and `update_core_run_id`. -/
def dispatch_ready (request_hash : String → String) (db : DB) (execution_id : String) : Option DB := do
  let u ← db.units.find execution_id
  guard (db.readiness u = .READY)
  let (runs, status) ← core_dispatch db.runs (core_run_id_for execution_id) (request_hash execution_id)
    (.status .RUNNING "")
  guard status.isSome
  pure (update_core_run_id { db with runs := runs } execution_id (core_run_id_for execution_id))

/-- The run of a unit passes. -/
def pass_run (db : DB) (execution_id : String) : Option DB := do
  let s ← db.status (core_run_id_for execution_id)
  guard (s = .RUNNING)
  pure { db with runs := db.runs.update (fun q => q.core_run_id == core_run_id_for execution_id) fun q =>
    { q with status := .PASS } }

inductive Move where
  | dispatch (execution_id : String)
  | pass (execution_id : String)
  deriving DecidableEq

/-- Units are dispatched when they are ready, and their runs pass. -/
def scheduler (request_hash : String → String) (execution_ids : List String) : Machine DB Move where
  init _ := True
  step db
    | .dispatch e => if e ∈ execution_ids then dispatch_ready request_hash db e else none
    | .pass e => if e ∈ execution_ids then pass_run db e else none

/-- The compiled units are in the store, and none of them has a run. -/
def DB.Stores (db : DB) (units : List CompiledUnit) : Prop :=
  ∀ c ∈ units, ∃ u, db.units.find c.execution_id = some u ∧
    u.depends_on_execution_ids = c.depends_on_execution_ids ∧ u.core_run_id = none ∧
    db.status (core_run_id_for c.execution_id) = none

variable {request_hash : String → String} {execution_ids : List String} {db db' : DB} {e e' : String}
  {c : CompiledUnit} {units : List CompiledUnit} {move : Move} {u : ExecutionUnit}

/-! ## What a move does -/

theorem run_id_of_some (h : u.core_run_id = some (core_run_id_for e)) : u.run_id = some (core_run_id_for e) := by
  rw [ExecutionUnit.run_id, h, Option.filter_some, if_pos]
  exact decide_eq_true (core_run_id_for_ne e)

theorem core_dispatch_fresh {runs : Table CoreRun CoreRun.core_run_id} {id hash : String} (h : runs.find id = none) :
    core_dispatch runs id hash (.status .RUNNING "") =
      (runs.insert ⟨id, hash, .RUNNING, ""⟩).map fun runs => (runs, some .RUNNING) := by
  unfold core_dispatch
  rw [h]
  rfl

theorem of_guard {p : Prop} [Decidable p] {x : Unit} (h : (guard p : Option Unit) = some x) : p := by
  unfold guard at h
  split at h
  · assumption
  · cases h

theorem guard_of {p : Prop} [Decidable p] (h : p) : (guard p : Option Unit) = some () := by
  unfold guard
  exact if_pos h

theorem ready_of_dispatch (h : dispatch_ready request_hash db e = some db') :
    ∃ u, db.units.find e = some u ∧ db.readiness u = .READY := by
  obtain ⟨u, hu, h⟩ := Option.bind_eq_some_iff.mp h
  obtain ⟨_, hready, -⟩ := Option.bind_eq_some_iff.mp h
  exact ⟨u, hu, of_guard hready⟩

/-- A unit that is dispatched has a run that goes on. -/
structure Dispatches (db : DB) (e : String) (db' : DB) : Prop where
  units : ∀ e', db'.units.find e' = (db.units.find e').map fun u =>
    if u.execution_id == e then { u with core_run_id := some (core_run_id_for e) } else u
  status : ∀ r, db'.status r = if core_run_id_for e = r then some .RUNNING else db.status r

theorem dispatches_of_some (hfresh : db.status (core_run_id_for e) = none)
    (h : dispatch_ready request_hash db e = some db') : Dispatches db e db' := by
  have hnone : db.runs.find (core_run_id_for e) = none := Option.map_eq_none_iff.mp hfresh
  obtain ⟨u, hu, h⟩ := Option.bind_eq_some_iff.mp h
  obtain ⟨_, -, h⟩ := Option.bind_eq_some_iff.mp h
  rw [core_dispatch_fresh hnone] at h
  obtain ⟨p, hp, h⟩ := Option.bind_eq_some_iff.mp h
  obtain ⟨runs, hruns, rfl⟩ := Option.map_eq_some_iff.mp hp
  obtain ⟨_, -, h⟩ := Option.bind_eq_some_iff.mp h
  cases h
  refine ⟨fun e' => ?_, fun r => ?_⟩
  · unfold update_core_run_id
    dsimp only
    rw [Table.find_update]
  · unfold DB.status update_core_run_id
    dsimp only
    rw [Table.find_insert hruns]
    split <;> rfl

theorem dispatch_ready_isSome (request_hash : String → String)
    (hfresh : db.status (core_run_id_for e) = none) (hu : db.units.find e = some u)
    (hready : db.readiness u = .READY) : ∃ db', dispatch_ready request_hash db e = some db' := by
  have hnone : db.runs.find (core_run_id_for e) = none := Option.map_eq_none_iff.mp hfresh
  obtain ⟨runs, hruns⟩ := Table.insert_of_find_none
    (r := (⟨core_run_id_for e, request_hash e, .RUNNING, ""⟩ : CoreRun)) hnone
  unfold dispatch_ready
  rw [hu, core_dispatch_fresh hnone, hruns, Option.bind_eq_bind, Option.bind_some, guard_of hready]
  exact ⟨_, rfl⟩

/-- A run that passes went on. -/
structure Passes (db : DB) (e : String) (db' : DB) : Prop where
  running : db.status (core_run_id_for e) = some .RUNNING
  units : db'.units = db.units
  status : ∀ r, db'.status r = if core_run_id_for e = r then some .PASS else db.status r

theorem passes_of_some (h : pass_run db e = some db') : Passes db e db' := by
  obtain ⟨s, hs, h⟩ := Option.bind_eq_some_iff.mp h
  obtain ⟨_, hguard, h⟩ := Option.bind_eq_some_iff.mp h
  cases h
  refine ⟨of_guard hguard ▸ hs, rfl, fun r => ?_⟩
  unfold DB.status
  dsimp only
  rw [Table.find_update]
  split
  · rename_i heq
    obtain ⟨q, hq, -⟩ := Option.map_eq_some_iff.mp hs
    rw [← heq, hq, Option.map_some, Option.map_some, (Table.find_some hq).2, beq_self_eq_true, if_pos rfl]
  · rename_i hne
    cases hq : db.runs.find r with
    | none => rfl
    | some q =>
      have hother : ¬(q.core_run_id == core_run_id_for e) = true := fun heq =>
        hne ((beq_iff_eq.mp heq).symm.trans (Table.find_some hq).2)
      rw [Option.map_some, Option.map_some, if_neg hother]
      rfl

theorem pass_run_isSome (h : db.status (core_run_id_for e) = some .RUNNING) : ∃ db', pass_run db e = some db' := by
  unfold pass_run
  rw [h]
  exact ⟨_, rfl⟩

/-! ## The units on their way -/

/-- A unit waits without a run, or it is bound to its run, which goes on or has passed. -/
structure OnItsWay (db : DB) (c : CompiledUnit) (u : ExecutionUnit) : Prop where
  row : db.units.find c.execution_id = some u
  depends_on : u.depends_on_execution_ids = c.depends_on_execution_ids
  state : u.core_run_id = none ∧ db.status (core_run_id_for c.execution_id) = none ∨
    u.core_run_id = some (core_run_id_for c.execution_id) ∧
      (db.status (core_run_id_for c.execution_id) = some .RUNNING ∨
        db.status (core_run_id_for c.execution_id) = some .PASS)

/-- Every unit is on its way. -/
def Underway (units : List CompiledUnit) (db : DB) : Prop := ∀ c ∈ units, ∃ u, OnItsWay db c u

/-- How many moves a unit still needs. -/
def DB.left (db : DB) (c : CompiledUnit) : Nat :=
  match db.status (core_run_id_for c.execution_id) with
  | some .PASS => 0
  | some .RUNNING => 1
  | _ => 2

theorem underway_of_stores (h : db.Stores units) : Underway units db := by
  intro c hc
  obtain ⟨u, hu, hdeps, hnone, hstatus⟩ := h c hc
  exact ⟨u, hu, hdeps, .inl ⟨hnone, hstatus⟩⟩

/-- A unit that can be dispatched has no run. -/
theorem OnItsWay.fresh (h : OnItsWay db c u) (hready : db.readiness u = .READY) :
    u.core_run_id = none ∧ db.status (core_run_id_for c.execution_id) = none := by
  rcases h.state with hfresh | ⟨hbound, -⟩
  · exact hfresh
  · have hnone := (evaluate_ready.mp hready).1
    rw [run_id_of_some hbound] at hnone
    cases hnone

/-- A dispatch brings one unit on, and the others stay. -/
theorem OnItsWay.dispatch (h : OnItsWay db c u) (hd : Dispatches db e db')
    (hfresh : db.status (core_run_id_for e) = none) :
    (∃ u', OnItsWay db' c u') ∧ db'.left c ≤ db.left c ∧ (c.execution_id = e → db'.left c < db.left c) := by
  have hrow := hd.units c.execution_id
  rw [h.row, Option.map_some] at hrow
  have hid : u.execution_id = c.execution_id := (Table.find_some h.row).2
  have hstatus := hd.status (core_run_id_for c.execution_id)
  by_cases heq : c.execution_id = e
  · rw [if_pos (beq_iff_eq.mpr (hid.trans heq))] at hrow
    rw [if_pos (heq ▸ rfl)] at hstatus
    have hleft : db'.left c < db.left c := by
      unfold DB.left
      rw [hstatus, heq, hfresh]
      decide
    exact ⟨⟨_, hrow, h.depends_on, .inr ⟨by rw [heq], .inl hstatus⟩⟩, hleft.le, fun _ => hleft⟩
  · rw [if_neg (fun hb => heq (hid.symm.trans (beq_iff_eq.mp hb)))] at hrow
    rw [if_neg (fun hr => heq (core_run_id_for_inj hr).symm)] at hstatus
    refine ⟨⟨u, hrow, h.depends_on, hstatus ▸ h.state⟩, ?_, fun h => absurd h heq⟩
    unfold DB.left
    rw [hstatus]

/-- A run that passes brings its unit on, and the others stay. -/
theorem OnItsWay.pass (h : OnItsWay db c u) (hp : Passes db e db') :
    (∃ u', OnItsWay db' c u') ∧ db'.left c ≤ db.left c ∧ (c.execution_id = e → db'.left c < db.left c) := by
  have hrow : db'.units.find c.execution_id = some u := hp.units ▸ h.row
  have hstatus := hp.status (core_run_id_for c.execution_id)
  by_cases heq : c.execution_id = e
  · rw [if_pos (heq ▸ rfl)] at hstatus
    have hleft : db'.left c < db.left c := by
      unfold DB.left
      rw [hstatus, heq, hp.running]
      decide
    refine ⟨⟨u, hrow, h.depends_on, .inr ⟨?_, .inr hstatus⟩⟩, hleft.le, fun _ => hleft⟩
    rcases h.state with ⟨-, hnone⟩ | ⟨hbound, -⟩
    · rw [heq, hp.running] at hnone
      cases hnone
    · exact hbound
  · rw [if_neg (fun hr => heq (core_run_id_for_inj hr).symm)] at hstatus
    refine ⟨⟨u, hrow, h.depends_on, hstatus ▸ h.state⟩, ?_, fun h => absurd h heq⟩
    unfold DB.left
    rw [hstatus]

/-- Each move keeps the units on their way, and brings one of them on. -/
theorem Underway.step (h : Underway units db)
    (hstep : (scheduler request_hash (units.map CompiledUnit.execution_id)).step db move = some db') :
    Underway units db' ∧ (units.map db'.left).sum < (units.map db.left).sum := by
  have hone : ∃ e ∈ units.map CompiledUnit.execution_id, ∀ c ∈ units, (∃ u, OnItsWay db' c u) ∧
      db'.left c ≤ db.left c ∧ (c.execution_id = e → db'.left c < db.left c) := by
    cases move with
    | dispatch e =>
      obtain ⟨hmem, hdispatch⟩ := Option.ite_none_right_eq_some.mp hstep
      obtain ⟨q, hq, rfl⟩ := List.mem_map.mp hmem
      obtain ⟨v, hv⟩ := h q hq
      have hfresh : db.status (core_run_id_for q.execution_id) = none := by
        obtain ⟨v', hv', hready⟩ := ready_of_dispatch hdispatch
        rw [Option.some.inj (hv.row.symm.trans hv')] at hv
        exact (hv.fresh hready).2
      have hd := dispatches_of_some hfresh hdispatch
      refine ⟨_, hmem, fun c hc => ?_⟩
      obtain ⟨u, hu⟩ := h c hc
      exact hu.dispatch hd hfresh
    | pass e =>
      obtain ⟨hmem, hpass⟩ := Option.ite_none_right_eq_some.mp hstep
      refine ⟨e, hmem, fun c hc => ?_⟩
      obtain ⟨u, hu⟩ := h c hc
      exact hu.pass (passes_of_some hpass)
  obtain ⟨e, hmem, hall⟩ := hone
  obtain ⟨q, hq, rfl⟩ := List.mem_map.mp hmem
  refine ⟨fun c hc => (hall c hc).1, ?_⟩
  exact List.sum_lt_sum _ _ (fun c hc => (hall c hc).2.1) ⟨q, hq, (hall q hq).2.2 rfl⟩

/-- The moves of a run are at most two for each unit. -/
theorem Underway.run (h : Underway units db) {moves : List Move}
    (hrun : (scheduler request_hash (units.map CompiledUnit.execution_id)).Steps (fun _ _ => True) db moves db') :
    Underway units db' ∧ moves.length + (units.map db'.left).sum ≤ (units.map db.left).sum := by
  induction hrun with
  | refl => exact ⟨h, by rw [List.length_nil, Nat.zero_add]⟩
  | cons _ hstep _ ih =>
    obtain ⟨hmid, hless⟩ := h.step hstep
    obtain ⟨hend, hle⟩ := ih hmid
    refine ⟨hend, ?_⟩
    rw [List.length_cons]
    omega

/-! ## The end -/

/-- A dependency that has passed is bound to its run. -/
theorem Underway.dependency_success (h : Underway units db) (hc : c ∈ units) (hpassed : db.Passed c.execution_id) :
    dependency_detail db.reads c.execution_id = .SUCCESS := by
  obtain ⟨u, hu⟩ := h c hc
  obtain ⟨hmem, hid⟩ := Table.find_some hu.row
  refine Orchestration.dependency_success.mpr ⟨u, hmem, hid, _, ?_, hpassed.status⟩
  rcases hu.state with ⟨-, hnone⟩ | ⟨hbound, -⟩
  · rw [hpassed.status] at hnone
    cases hnone
  · exact run_id_of_some hbound

/-- If no move is left, a unit whose dependencies have passed has passed. -/
theorem Underway.passed_of_stuck (h : Underway units db) (hc : c ∈ units)
    (hstuck : ∀ move, (scheduler request_hash (units.map CompiledUnit.execution_id)).step db move = none)
    (hdeps : ∀ e ∈ c.depends_on_execution_ids, ∃ v ∈ units, v.execution_id = e ∧ db.Passed e) :
    db.Passed c.execution_id := by
  have hmem : c.execution_id ∈ units.map CompiledUnit.execution_id := List.mem_map_of_mem hc
  obtain ⟨u, hu⟩ := h c hc
  rcases hu.state with ⟨hnone, hfresh⟩ | ⟨hbound, hrunning | hpassed⟩
  · have hready : db.readiness u = .READY := by
      refine evaluate_ready.mpr ⟨by rw [ExecutionUnit.run_id, hnone, Option.filter_none], fun d hd => ?_⟩
      rw [hu.depends_on] at hd
      obtain ⟨v, hv, rfl, hpassed⟩ := hdeps d hd
      exact h.dependency_success hv hpassed
    obtain ⟨db', hdb'⟩ := dispatch_ready_isSome request_hash hfresh hu.row hready
    have hnot := hstuck (.dispatch c.execution_id)
    rw [show (scheduler request_hash (units.map CompiledUnit.execution_id)).step db (.dispatch c.execution_id) =
      some db' from (if_pos hmem).trans hdb'] at hnot
    cases hnot
  · obtain ⟨db', hdb'⟩ := pass_run_isSome hrunning
    have hnot := hstuck (.pass c.execution_id)
    rw [show (scheduler request_hash (units.map CompiledUnit.execution_id)).step db (.pass c.execution_id) =
      some db' from (if_pos hmem).trans hdb'] at hnot
    cases hnot
  · obtain ⟨hrow, hid⟩ := Table.find_some hu.row
    exact ⟨⟨u, hrow, hid, by rw [hbound]; rfl⟩, hpassed⟩

/-- Whatever is dispatched when it is ready, and in whatever order the runs pass: after at most two moves for each unit
none is left, and then every unit has passed. -/
def ReachesAll (units : List CompiledUnit) : Prop :=
  ∀ (request_hash : String → String) (db db' : DB) (moves : List Move), db.Stores units →
    (scheduler request_hash (units.map CompiledUnit.execution_id)).Steps (fun _ _ => True) db moves db' →
    moves.length ≤ 2 * units.length ∧
      ((∀ move, (scheduler request_hash (units.map CompiledUnit.execution_id)).step db' move = none) →
        ∀ c ∈ units, db'.Passed c.execution_id)

theorem left_le (db : DB) (units : List CompiledUnit) : (units.map db.left).sum ≤ 2 * units.length := by
  induction units with
  | nil => exact Nat.le_refl 0
  | cons c units ih =>
    have hc : db.left c ≤ 2 := by
      unfold DB.left
      split <;> decide
    rw [List.map_cons, List.sum_cons, List.length_cons]
    omega

theorem compiled_reaches_all {i : Intent} {r : Compiled} (h : compile_task_intent i = .ok r) :
    ReachesAll r.execution_units := by
  intro request_hash db db' moves hstores hrun
  obtain ⟨hunderway, hle⟩ := (underway_of_stores hstores).run hrun
  have hbound := left_le db r.execution_units
  refine ⟨by omega, fun hstuck => ?_⟩
  have hexact := compiled_exact h
  obtain ⟨next, order, hsettled, hall⟩ := order_of_ok h
  -- along the order: the units of the agents that an agent waits for have passed
  have hpassed := hsettled.forall (P := fun a => ∀ c ∈ r.execution_units, c.agent_id = a → db'.Passed c.execution_id)
    fun a _ ih c hc hagent => hunderway.passed_of_stuck hc hstuck fun e he => by
      obtain ⟨v, hv, rfl⟩ := hexact.closed c hc e he
      have hdeclared := (hexact.graph c hc v hv).mp he
      have hmem : c.agent_id ∈ listed i := hexact.agents ▸ List.mem_map_of_mem hc
      exact ⟨v, hv, rfl, ih v.agent_id (hagent ▸ ((hall _ hmem).2 _).mpr hdeclared) v hv rfl⟩
  intro c hc
  have hmem : c.agent_id ∈ listed i := hexact.agents ▸ List.mem_map_of_mem hc
  exact hpassed c.agent_id (hall _ hmem).1 c hc rfl

/-- The compiler succeeds just on well formed arguments without a cycle, and what it compiles is exact and can all be
dispatched. -/
theorem compile_exact (i : Intent) : ((∃ r, compile_task_intent i = .ok r) ↔ WellFormed i ∧ NoCycle i) ∧
    ∀ r, compile_task_intent i = .ok r → Exact i r ∧ ReachesAll r.execution_units :=
  ⟨compile_ok_iff i, fun _ h => ⟨compiled_exact h, compiled_reaches_all h⟩⟩

end Orchestration

end Plachem
