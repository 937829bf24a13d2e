import PlachemMonitor.Orchestration.Units
import PlachemMonitor.Spec.Machine
import PlachemMonitor.Spec.Past

/-!
# The orchestrators

Any number of `WarRoomOrchestrator`s on one store and one Core. A step of `orchestrators` is one
write of the store with the reads before it, or one call of the engine; a read may have seen any
state since the read before it. An orchestrator has a lock, but another one has another.

`dispatch_execution` is `begin` (its checks, and `update_dispatch_input`), `claim`, `dispatch`
(`engine.dispatch`) and `bind` (`update_core_run_id`). `on_core_run_terminal` is a `proceed` for each
child that it claims, with `resubmit`, `dispatch` and `bind`, and then `finalize`.
-/

namespace Plachem

namespace Orchestration

/-! ## Dispatch -/

/-- `_core_run_id_for` -/
def core_run_id_for (execution_id : String) : String := "core-exec-" ++ execution_id

structure DispatchInput where
  message : String
  timeout_seconds : ℚ
  goal_contract : Option Dict
  deriving DecidableEq

/-- The checks of `_dispatch_execution_locked` on its arguments. -/
def DispatchInput.valid (i : DispatchInput) : Bool := i.message != "" && decide (0 < i.timeout_seconds)

/-- `_dispatch_contract`, before it is hashed. -/
def DispatchInput.contract (i : DispatchInput) : String × ℚ × Json :=
  (i.message, i.timeout_seconds, (i.goal_contract.getD .empty).json.sortKeys)

/-- The input that is stored on a unit. -/
def ExecutionUnit.dispatch_input (u : ExecutionUnit) : Option DispatchInput := do
  pure ⟨← u.dispatch_message, ← u.dispatch_timeout_seconds, u.dispatch_goal_contract⟩

/-- `update_dispatch_input` -/
def update_dispatch_input (db : DB) (execution_id : String) (i : DispatchInput) : DB :=
  { db with
    units := db.units.update (fun u => u.execution_id == execution_id) fun u =>
      { u with
        dispatch_message := some i.message
        dispatch_timeout_seconds := some i.timeout_seconds
        dispatch_goal_contract := i.goal_contract } }

/-- A unit that can be claimed. -/
def ExecutionUnit.claimable (u : ExecutionUnit) : Bool :=
  u.core_run_id.isNone && u.dispatch_claimed_at.isNone

/-- `claim_for_dispatch`: the unit, if the claim is won. -/
def claim_for_dispatch (db : DB) (execution_id : String) (now : Int) : DB × Option ExecutionUnit :=
  let db' := { db with
    units := db.units.update (fun u => u.execution_id == execution_id && u.claimable) fun u =>
      { u with dispatch_claimed_at := some now } }
  (db', if (db.units.find execution_id).any ExecutionUnit.claimable then db'.units.find execution_id
    else none)

/-- `update_core_run_id` -/
def update_core_run_id (db : DB) (execution_id core_run_id : String) : DB :=
  { db with
    units := db.units.update (fun u => u.execution_id == execution_id) fun u =>
      { u with core_run_id := some core_run_id } }

/-- How a call of the engine ends. -/
inductive CoreAnswer where
  /-- An exception, without a record. -/
  | raised
  /-- An exception or a crash, after the record. -/
  | interrupted
  | status (s : CoreRunStatus) (reason : String)
  deriving DecidableEq

/-- `engine.dispatch`: the registry, and the status of the record that it returns. -/
def core_dispatch (runs : Table CoreRun CoreRun.core_run_id) (core_run_id request_hash : String)
    (answer : CoreAnswer) : Option (Table CoreRun CoreRun.core_run_id × Option CoreRunStatus) :=
  match answer with
  | .raised => some (runs, none)
  | answer =>
    match runs.find core_run_id with
    | some r =>
      -- `IDEMPOTENCY_CONFLICT`
      if r.request_hash ≠ request_hash then some (runs, none)
      else if r.status ≠ .QUEUED then some (runs, some r.status)
      else
        match answer with
        | .status s reason =>
          if s ∈ CoreRunStatus.QUEUED.transitions then
            some (runs.update (fun q => q.core_run_id == core_run_id) (fun q =>
              { q with status := s, reason := reason }), some s)
          else none
        | _ => some (runs, none)
    | none =>
      match answer with
      | .status s reason =>
        if s ∈ CoreRunStatus.QUEUED.transitions then
          (runs.insert ⟨core_run_id, request_hash, s, reason⟩).map fun runs => (runs, some s)
        else none
      | _ => (runs.insert ⟨core_run_id, request_hash, .QUEUED, ""⟩).map fun runs => (runs, none)

/-! ## States -/

inductive Stage where
  /-- The input is written, the unit is not claimed. -/
  | submitted
  /-- A continuation has claimed the unit. -/
  | continued
  /-- The unit is claimed, and its input is written. -/
  | claimed
  /-- `engine.dispatch` has returned. -/
  | dispatched
  deriving DecidableEq

/-- A call of `dispatch_execution`, with the unit as it read it first. -/
structure Call where
  token : String
  unit : ExecutionUnit
  input : DispatchInput
  stage : Stage
  deriving DecidableEq

inductive Event where
  /-- The claim of a unit is won. -/
  | claimed (execution_id token : String)
  /-- `engine.dispatch` -/
  | submitted (execution_id : String) (input : DispatchInput)
  deriving DecidableEq

structure World where
  db : DB
  past : List DB
  calls : List Call
  log : List Event

/-- When the reads of a step were made, in changes ago: a later read is not from before an earlier
one. -/
structure Seen where
  first : Nat
  second : Nat
  own : String → Nat
  unit : String → String → Nat
  status : String → String → Nat

namespace World

def ago (w : World) (k : Nat) : DB := Past.ago w.db w.past k

/-- The first read of a step, and the second one. -/
def first (w : World) (seen : Seen) : DB := w.ago seen.first

def second (w : World) (seen : Seen) : DB := w.ago (min seen.second seen.first)

/-- The reads of the evaluation of a unit. -/
def reads (w : World) (seen : Seen) (execution_id : String) : Reads :=
  let k := min seen.second seen.first
  { unit := fun d => w.ago (min (seen.unit execution_id d) k)
    status := fun d => w.ago (min (seen.status execution_id d) (min (seen.unit execution_id d) k)) }

def summary_reads (w : World) (seen : Seen) : SummaryReads :=
  { own := fun e => w.ago (min (seen.own e) (min seen.second seen.first))
    evaluate := w.reads seen }

/-- The unit is ready, as the step has read it and its dependencies. -/
def ready (w : World) (seen : Seen) (u : ExecutionUnit) : Bool :=
  (evaluate ((w.summary_reads seen).own u.execution_id) (w.reads seen u.execution_id) u).readiness ==
    .READY

def commit (w : World) (db : DB) (calls : List Call) (events : List Event) : Option World :=
  some ⟨db, w.db :: w.past, calls, events ++ w.log⟩

/-- The call at a stage. -/
def call (w : World) (token : String) (stage : Stage) : Option Call :=
  w.calls.find? fun c => c.token == token && c.stage == stage

/-- The calls, with one of them at another stage, or over. -/
def advance (w : World) (token : String) (stage : Option Stage) : List Call :=
  match stage with
  | some stage => w.calls.map fun c => if c.token = token then { c with stage := stage } else c
  | none => w.calls.filter fun c => c.token != token

end World

/-! ## Steps -/

inductive Label where
  /-- `compile_and_persist`: the units that the compiler has made. -/
  | compile (war_project_id war_task_id correlation_id : String) (units : List ExecutionUnit)
  | begin (token execution_id : String) (input : DispatchInput) (seen : Seen)
  | claim (token : String) (now : Int)
  | dispatch (token : String) (answer : CoreAnswer)
  | bind (token : String)
  /-- A replay by an orchestrator that does not know the contract. -/
  | replay (execution_id : String) (input : DispatchInput) (seen : Seen) (answer : CoreAnswer)
  /-- A dispatch of a unit whose run has failed. -/
  | rebind (execution_id : String) (seen : Seen)
  /-- `on_core_run_terminal` claims a child. -/
  | proceed (token core_run_id execution_id : String) (seen : Seen) (now : Int)
  | resubmit (token : String) (seen : Seen)
  /-- `_finalize_parent_if_terminal` -/
  | finalize (core_run_id : String) (seen : Seen) (now : Int)
  /-- The status of a run changes. -/
  | core (core_run_id : String) (status : CoreRunStatus) (reason : String)
  /-- A call is gone, with what it was about to do. -/
  | abandon (token : String)

/-- `agent_id`, `message` and `goal_contract` as the registry compares them. -/
structure Config where
  request_hash : String → DispatchInput → String

/-- No unit depends on itself, however indirectly: whatever waits for nothing that remains goes. -/
def acyclic (units : List ExecutionUnit) : Bool :=
  (List.range units.length).foldl (fun rest _ => rest.filter fun u =>
    u.depends_on_execution_ids.any fun d => rest.any fun q => q.execution_id == d) units == []

/-- What `compile_task_intent` gives. -/
def compiled (war_project_id war_task_id correlation_id : String) (units : List ExecutionUnit) : Bool :=
  units.all (fun u => u.war_project_id == war_project_id && u.war_task_id == war_task_id &&
    u.correlation_id == correlation_id && u.core_run_id.isNone && u.dispatch_claimed_at.isNone &&
    u.depends_on_execution_ids.all fun d => units.any fun q => q.execution_id == d) && acyclic units

/-- `create_units(.., reject_existing_workflow=True)` -/
def create_units (db : DB) (war_project_id war_task_id : String) (units : List ExecutionUnit) :
    Option (Table ExecutionUnit ExecutionUnit.execution_id) :=
  if db.units.rows.any fun u => u.war_project_id == war_project_id && u.war_task_id == war_task_id then
    none
  else units.foldlM Table.insert db.units

/-- `get_unit_by_core_run_id` -/
def unit_by_core_run_id (db : DB) (core_run_id : String) : Option ExecutionUnit :=
  db.units.rows.find? fun u => u.core_run_id == some core_run_id

/-- The workflow of a unit. -/
def workflow_of (db : DB) (u : ExecutionUnit) : List ExecutionUnit :=
  db.workflow u.war_project_id u.war_task_id u.correlation_id

/-- `finalize_workflow_projection` -/
def finalize_workflow_projection (db : DB) (war_task_id : String) (s : WorkflowStatus) (now : Int) : DB :=
  { db with
    parents := db.parents.update (fun p => p.id == war_task_id && p.workflow_finalized_at.isNone)
      fun p =>
        { p with
          workflow_status := some s
          workflow_finalized_at := some now
          workflow_finalize_count := p.workflow_finalize_count + 1 } }

/-- A status that a run can change to; the failure of an aborted run is reconciled. -/
def CoreRun.next (r : CoreRun) (s : CoreRunStatus) : Bool :=
  decide (s ∈ r.status.transitions) ||
    r.status == .FAIL && r.reason == "OPENCLAW_ERROR" && s == .CANCELLED

def step (cfg : Config) (w : World) : Label → Option World
  | .compile project_id task_id correlation_id units => do
    guard (compiled project_id task_id correlation_id units ∧
      (w.db.parents.find task_id).any fun p => p.project_id == project_id)
    let units ← create_units w.db project_id task_id units
    w.commit { w.db with units := units } w.calls []
  | .begin token execution_id input seen => do
    let unit ← (w.first seen).units.find execution_id
    let current ← (w.second seen).units.find execution_id
    guard (input.valid ∧ unit.run_id = none ∧ w.ready seen current ∧
      w.calls.all (fun c => c.token != token))
    w.commit (update_dispatch_input w.db execution_id input) (w.calls ++ [⟨token, unit, input, .submitted⟩])
      []
  | .claim token now => do
    let c ← w.call token .submitted
    match claim_for_dispatch w.db c.unit.execution_id now with
    | (db, some _) => w.commit db (w.advance token (some .claimed)) [.claimed c.unit.execution_id token]
    | (db, none) => w.commit db (w.advance token none) []
  | .dispatch token answer => do
    let c ← w.call token .claimed
    let (runs, status) ← core_dispatch w.db.runs (core_run_id_for c.unit.execution_id)
      (cfg.request_hash c.unit.agent_id c.input) answer
    w.commit { w.db with runs := runs } (w.advance token (status.map fun _ => .dispatched))
      [.submitted c.unit.execution_id c.input]
  | .bind token => do
    let c ← w.call token .dispatched
    w.commit (update_core_run_id w.db c.unit.execution_id (core_run_id_for c.unit.execution_id))
      (w.advance token none) []
  | .replay execution_id input seen answer => do
    let unit ← (w.first seen).units.find execution_id
    let core_run_id ← unit.run_id
    let status ← (w.second seen).status core_run_id
    guard (input.valid ∧ (unit.dispatch_input.all fun i => i.contract == input.contract) ∧
      (status ∈ active ∨ status = .PASS))
    let (runs, _) ← core_dispatch w.db.runs (core_run_id_for execution_id)
      (cfg.request_hash unit.agent_id input) answer
    w.commit { w.db with runs := runs } w.calls [.submitted execution_id input]
  | .rebind execution_id seen => do
    let unit ← (w.first seen).units.find execution_id
    guard unit.run_id.isSome
    w.commit (update_core_run_id w.db execution_id (core_run_id_for execution_id)) w.calls []
  | .proceed token core_run_id execution_id seen now => do
    let source ← unit_by_core_run_id (w.first seen) core_run_id
    let unit ← (workflow_of (w.second seen) source).find? fun u => u.execution_id == execution_id
    guard (w.ready seen unit ∧ unit.dispatch_input.any DispatchInput.valid ∧
      w.calls.all (fun c => c.token != token))
    let (db, claimed) := claim_for_dispatch w.db execution_id now
    let claimed ← claimed
    let input ← claimed.dispatch_input
    w.commit db (w.calls ++ [⟨token, claimed, input, .continued⟩]) [.claimed execution_id token]
  | .resubmit token seen => do
    let c ← w.call token .continued
    let unit ← (w.first seen).units.find c.unit.execution_id
    let current ← (w.second seen).units.find c.unit.execution_id
    guard (c.input.valid ∧ unit.run_id = none ∧ w.ready seen current)
    w.commit (update_dispatch_input w.db c.unit.execution_id c.input)
      (w.advance token (some .claimed)) []
  | .finalize core_run_id seen now => do
    let source ← unit_by_core_run_id (w.first seen) core_run_id
    let s ← workflow_summary (w.summary_reads seen) (workflow_of (w.second seen) source)
    guard s.terminal
    w.commit (finalize_workflow_projection w.db source.war_task_id s now) w.calls []
  | .core core_run_id status reason => do
    let r ← w.db.runs.find core_run_id
    guard (r.next status)
    w.commit { w.db with runs := w.db.runs.update (fun q => q.core_run_id == core_run_id) fun q =>
      { q with status := status, reason := reason } } w.calls []
  | .abandon token => w.commit w.db (w.advance token none) []

/-- Before any workflow is compiled. -/
def orchestrators (cfg : Config) : Machine World Label where
  init w := w.db.units.rows = [] ∧ w.db.runs.rows = [] ∧
    (∀ p ∈ w.db.parents.rows, p.workflow_status = none ∧ p.workflow_finalized_at = none ∧
      p.workflow_finalize_count = 0) ∧ w.past = [] ∧ w.calls = [] ∧ w.log = []
  step := step cfg

/-! ## A sample -/

namespace Sample

def config : Config := ⟨fun agent_id i => agent_id ++ ":" ++ i.message⟩

def unit (execution_id : String) (depends_on : List String) (hid : execution_id ≠ "" := by decide)
    (hdeps : "" ∉ depends_on := by decide) : ExecutionUnit where
  execution_id := execution_id
  war_project_id := "p"
  war_task_id := "t"
  correlation_id := "c"
  agent_id := "agent"
  workflow_role := "implementation"
  depends_on_execution_ids := depends_on
  core_run_id := none
  dispatch_message := none
  dispatch_timeout_seconds := none
  dispatch_goal_contract := none
  dispatch_claimed_at := none
  created_at := 0
  execution_id_ne := hid
  agent_id_ne := by decide
  depends_on_ne := hdeps

def unitA : ExecutionUnit := unit "A" []

def unitB : ExecutionUnit := unit "B" ["A"]

/-- One task without a workflow. -/
def world : World :=
  ⟨⟨⟨[⟨"t", "p", none, none, 0⟩], by decide⟩, .empty, .empty⟩, [], [], []⟩

theorem init_world : (orchestrators config).init world :=
  ⟨rfl, rfl, by decide, rfl, rfl, rfl⟩

/-- All reads are of the present. -/
def present : Seen := ⟨0, 0, fun _ => 0, fun _ _ => 0, fun _ _ => 0⟩

def compile (units : List ExecutionUnit) : Label := .compile "p" "t" "c" units

def input (message : String) : DispatchInput := ⟨message, 60, none⟩

/-- A call of `dispatch_execution`, and the end of the run. -/
def dispatch (token execution_id message : String) (s : CoreRunStatus) : List Label :=
  [.begin token execution_id (input message) present, .claim token 1,
    .dispatch token (.status .RUNNING ""), .bind token, .core (core_run_id_for execution_id) s ""]

def after (as : List Label) : World := (orchestrators config).after world as

theorem step_after {as : List Label} {l : Label}
    (h : ((orchestrators config).exec world (as ++ [l])).isSome = true) :
    step config (after as) l = some (after (as ++ [l])) :=
  Machine.step_after h

theorem reachable_after (as : List Label) : (orchestrators config).Reachable (after as) :=
  Machine.reachable_after init_world as

end Sample

end Orchestration

end Plachem
