import PlachemMonitor.FastGateway.Redelivery
import PlachemMonitor.Registry.Lifecycle

/-!
# The stop of a delivery

`stop` looks for the run of a delivery in the rows that the worker has persisted: the newest row of
the task and the agent. The row of the delivery itself is written only after its call of `deliver`
has returned, so the newest row can be that of an earlier delivery. The stop acts on the run of the
delivery exactly if that row is its own (`stop_exact`).

Between the calls of a stop the rest of the program may change the registry.
-/

namespace Plachem

namespace UserStop

open RunRegistry (last require transition reconcile_abort_observation)

/-- What the rest of the program does to the registry during a stop, call by call, and what the
outside answers. -/
structure StopEnv where
  before_status : List Mutation
  /-- The answer to `control_rpc.abort`: the run was aborted, or there was none; `none` if it raises. -/
  aborted : Option Bool
  before_reconcile : List Mutation
  /-- What the adapter has after ten milliseconds; `none` if it raises. -/
  waited : Option AdapterOutcome
  during_wait : List Mutation
  before_mark : List Mutation
  now : String

/-- The registry after some changes. -/
def changed (log : Log) (ms : List Mutation) : Log := ms.foldl Mutation.run log

/-- `mark_user_cancelled` -/
def mark_user_cancelled (log : Log) (core_run_id now : String) :
    Except RegistryError (RunRecord × Log) := do
  let record ← require log core_run_id
  if record.status ∈ CoreRunStatus.terminal then pure (record, log)
  else transition log core_run_id .CANCELLED none none "USER_CANCEL" now

/-- `mark_user_cancelled_after_abort` -/
def mark_user_cancelled_after_abort (log : Log) (core_run_id now : String) :
    Except RegistryError (RunRecord × Log) := do
  let record ← require log core_run_id
  if record.status = .FAIL ∧ record.reason = "OPENCLAW_ERROR" then
    reconcile_abort_observation log core_run_id now
  else if record.status ∉ CoreRunStatus.terminal then
    transition log core_run_id .CANCELLED none none "USER_CANCEL" now
  else pure (record, log)

/-- `reconcile_external_completion` -/
def reconcile_external_completion (env : StopEnv) (log : Log) (core_run_id : String) :
    Except RegistryError (RunRecord × Log) := do
  let record ← require log core_run_id
  if record.status ∈ CoreRunStatus.terminal then pure (record, log)
  else
    let log := changed log env.during_wait
    let record ← require log core_run_id
    match env.waited with
    | none => pure (record, log)
    | some outcome =>
      if record.status ∈ CoreRunStatus.terminal ∨ outcome.status ∉ CoreRunStatus.terminal then
        pure (record, log)
      else transition log core_run_id outcome.status none (some outcome) outcome.reason env.now

/-! ## The record that is returned -/

theorem last_transition {log log' : Log} {id : String} {status : CoreRunStatus}
    {binding : Option RunBinding} {outcome : Option AdapterOutcome} {reason now : String}
    {r : RunRecord} (h : transition log id status binding outcome reason now = .ok (r, log')) :
    last id log' = some r := by
  obtain ⟨old, hold, h⟩ := bind_eq_ok.mp h
  have hlast := RunRegistry.require_ok hold
  split at h
  · cases h
    exact hlast
  · split at h
    · cases h
    · cases h
      have hid : (old.transitioned status binding outcome reason now).core_run_id = id := by
        rw [← (RunRegistry.last_some hlast).2]
        exact congrArg RunRecord.Identity.core_run_id (RunRecord.transitioned_identity ..)
      exact hid ▸ RunRegistry.last_append_self _ _

theorem last_reconcile_abort_observation {log log' : Log} {id now : String} {r : RunRecord}
    (h : reconcile_abort_observation log id now = .ok (r, log')) : last id log' = some r := by
  obtain ⟨old, hold, h⟩ := bind_eq_ok.mp h
  have hlast := RunRegistry.require_ok hold
  split at h
  · cases h
    exact hlast
  · cases h
    have hid : (old.reconciled now).core_run_id = id := (RunRegistry.last_some hlast).2
    exact hid ▸ RunRegistry.last_append_self _ _

theorem last_mark_user_cancelled {log log' : Log} {id now : String} {r : RunRecord}
    (h : mark_user_cancelled log id now = .ok (r, log')) : last id log' = some r := by
  obtain ⟨old, hold, h⟩ := bind_eq_ok.mp h
  split at h
  · cases h
    exact RunRegistry.require_ok hold
  · exact last_transition h

theorem last_mark_user_cancelled_after_abort {log log' : Log} {id now : String} {r : RunRecord}
    (h : mark_user_cancelled_after_abort log id now = .ok (r, log')) : last id log' = some r := by
  obtain ⟨old, hold, h⟩ := bind_eq_ok.mp h
  split at h
  · exact last_reconcile_abort_observation h
  · split at h
    · exact last_transition h
    · cases h
      exact RunRegistry.require_ok hold

theorem last_reconcile_external_completion {env : StopEnv} {log log' : Log} {id : String}
    {r : RunRecord} (h : reconcile_external_completion env log id = .ok (r, log')) :
    last id log' = some r := by
  obtain ⟨old, hold, h⟩ := bind_eq_ok.mp h
  split at h
  · cases h
    exact RunRegistry.require_ok hold
  · obtain ⟨record, hrecord, h⟩ := bind_eq_ok.mp h
    have hlast := RunRegistry.require_ok hrecord
    split at h
    · cases h
      exact hlast
    · split at h
      · cases h
        exact hlast
      · exact last_transition h

/-- A run that has ended stays so. -/
theorem terminal_changed {log : Log} {id : String} {r : RunRecord} (h : last id log = some r)
    (hterm : r.status ∈ CoreRunStatus.terminal) (ms : List Mutation) :
    ∃ r', last id (changed log ms) = some r' ∧ r'.status ∈ CoreRunStatus.terminal := by
  induction ms generalizing log r with
  | nil => exact ⟨r, h, hterm⟩
  | cons m ms ih =>
    obtain ⟨r', hr', hstatus⟩ := RunRegistry.last_run m h
    refine ih hr' ?_
    rcases hstatus with ⟨hstatus, -⟩ | hstatus | ⟨-, hstatus⟩
    · rwa [hstatus]
    · rw [CoreRunStatus.transitions_of_terminal hterm] at hstatus
      cases hstatus
    · rw [hstatus]
      decide

end UserStop

namespace WarRoom

namespace FastGatewayWarRoomAdapter

open UserStop
open RunRegistry (last)

/-- `ORDER BY er.updated_at DESC LIMIT 1`: of the rows of one time, the first. -/
def latest_run (runs : List ExecutionRun) : Option ExecutionRun :=
  runs.foldl (fun best r =>
    match best with
    | none => some r
    | some b => if b.updated_at < r.updated_at then some r else some b) none

/-- `_binding_for_delivery` -/
def binding_for_delivery (db : DB) (delivery_id agent_id : String) : Option ExecutionRun := do
  let d ← db.deliveries.find delivery_id
  guard (d.agent_id = agent_id)
  let m ← db.messages.find d.message_id
  latest_run (db.runs.rows.filter fun r =>
    r.war_project_id == m.project_id && lower r.agent_id == lower d.agent_id &&
      db.tasks.rows.any fun t => t.id == r.war_task_id && t.source_message_id == some m.id)

/-- `binding.get("core_run_id") and binding.get("session_key")` -/
def usable (run : ExecutionRun) : Bool := run.core_run_id != "" && run.session_key.getD "" != ""

/-- A stop: the runs whose cancellation it has requested, the sessions that it has aborted, and
what it returns, with the registry as it is then. -/
structure Stop where
  cancelled : List String
  aborted : List String
  outcome : Except RegistryError (DeliveryReceipt × Log)

/-- A receipt that names the run. -/
def stop_receipt (run : ExecutionRun) (error_code : Option String) : DeliveryReceipt :=
  { status := if error_code.isSome then "failed" else "stopped"
    session_id := none
    error_code := error_code
    run_id := run.openclaw_run_id
    response_body := none }

/-- The end of `stop`. -/
def cancel_receipt (run : ExecutionRun) (record : RunRecord) : DeliveryReceipt :=
  stop_receipt run
    (if record.status = .CANCELLED then none else some "FAST_GATEWAY_CANCEL_RECONCILE_FAILED")

/-- `stop`, after the session is aborted. -/
def after_abort (env : StopEnv) (run : ExecutionRun) (aborted : Bool) (log : Log) :
    Except RegistryError (DeliveryReceipt × Log) := do
  let log := changed log env.before_reconcile
  if aborted then
    let (record, log) ← mark_user_cancelled_after_abort log run.core_run_id env.now
    pure (cancel_receipt run record, log)
  else
    let (record, log) ← reconcile_external_completion env log run.core_run_id
    if record.status ∈ CoreRunStatus.terminal then pure (stop_receipt run none, log)
    else
      let (record, log) ←
        mark_user_cancelled (changed log env.before_mark) run.core_run_id env.now
      pure (cancel_receipt run record, log)

/-- `stop`, with the run that it has found. -/
def stop_run (env : StopEnv) (run : ExecutionRun) (log : Log) : Stop :=
  let log := changed log env.before_status
  match RunRegistry.require log run.core_run_id with
  | .error _ =>
    ⟨[run.core_run_id], [], .ok (stop_receipt run (some "FAST_GATEWAY_RUN_MISSING"), log)⟩
  | .ok record =>
    if record.status ∈ CoreRunStatus.terminal then
      ⟨[run.core_run_id], [], .ok (stop_receipt run none, log)⟩
    else
      { cancelled := [run.core_run_id]
        aborted := [run.session_key.getD ""]
        outcome :=
          match env.aborted with
          | none => .ok (stop_receipt run (some "FAST_GATEWAY_USER_ABORT_FAILED"), log)
          | some aborted => after_abort env run aborted log }

/-- `stop` -/
def stop (db : DB) (env : StopEnv) (delivery_id agent_id : String) (log : Log) : Stop :=
  match binding_for_delivery db delivery_id agent_id with
  | none => ⟨[], [], .ok (failed "FAST_GATEWAY_BINDING_MISSING", log)⟩
  | some run =>
    if usable run then stop_run env run log
    else ⟨[], [], .ok (failed "FAST_GATEWAY_BINDING_MISSING", log)⟩

/-! ## What a stop acts on -/

/-- The stop acts on no other run than that of the delivery, and says `stopped` only if that run has
ended, or was never there. -/
structure Stop.Exact (db : DB) (delivery_id : String) (out : Stop) : Prop where
  cancelled : ∀ id ∈ out.cancelled, id = core_id delivery_id
  aborted : ∀ key ∈ out.aborted, ∃ run ∈ db.runs.rows, run.core_run_id = core_id delivery_id ∧
    run.session_key = some key
  stopped : ∀ receipt log, out.outcome = .ok (receipt, log) → receipt.status = "stopped" →
    ∀ ms record, last (core_id delivery_id) (changed log ms) = some record →
      record.status ∈ CoreRunStatus.terminal

theorem latest_run_mem {runs : List ExecutionRun} {run : ExecutionRun}
    (h : latest_run runs = some run) : run ∈ runs := by
  have hfold : ∀ (runs : List ExecutionRun) (best : Option ExecutionRun) (run : ExecutionRun),
      runs.foldl (fun best r =>
        match best with
        | none => some r
        | some b => if b.updated_at < r.updated_at then some r else some b) best = some run →
      best = some run ∨ run ∈ runs := by
    intro runs
    induction runs with
    | nil => exact fun best run h => .inl h
    | cons r runs ih =>
      intro best run h
      rcases ih _ _ h with hbest | hmem
      · cases best with
        | none => exact .inr (List.mem_cons.mpr (.inl (Option.some.inj hbest).symm))
        | some b =>
          dsimp only at hbest
          split at hbest
          · exact .inr (List.mem_cons.mpr (.inl (Option.some.inj hbest).symm))
          · exact .inl hbest
      · exact .inr (List.mem_cons_of_mem _ hmem)
  exact (hfold runs none run h).resolve_left nofun

theorem binding_mem {db : DB} {delivery_id agent_id : String} {run : ExecutionRun}
    (h : binding_for_delivery db delivery_id agent_id = some run) : run ∈ db.runs.rows := by
  simp only [binding_for_delivery, Option.bind_eq_bind, Option.bind_eq_some_iff] at h
  obtain ⟨d, -, -, -, m, -, hrun⟩ := h
  exact List.mem_of_mem_filter (latest_run_mem hrun)

theorem cancel_receipt_stopped {run : ExecutionRun} {record : RunRecord}
    (h : (cancel_receipt run record).status = "stopped") : record.status = .CANCELLED := by
  by_contra hne
  simp [cancel_receipt, stop_receipt, hne] at h

/-- After the abort, `stopped` tells that the run has ended. -/
theorem after_abort_stopped {env : StopEnv} {run : ExecutionRun} {aborted : Bool} {log log' : Log}
    {receipt : DeliveryReceipt} (h : after_abort env run aborted log = .ok (receipt, log'))
    (hstopped : receipt.status = "stopped") :
    ∃ record, last run.core_run_id log' = some record ∧ record.status ∈ CoreRunStatus.terminal := by
  have hcancelled : ∀ record : RunRecord, record.status = .CANCELLED →
      record.status ∈ CoreRunStatus.terminal := by
    intro record h
    rw [h]
    decide
  simp only [after_abort] at h
  split at h
  · obtain ⟨⟨record, log''⟩, hmark, h⟩ := bind_eq_ok.mp h
    cases h
    exact ⟨record, last_mark_user_cancelled_after_abort hmark,
      hcancelled record (cancel_receipt_stopped hstopped)⟩
  · obtain ⟨⟨record, log''⟩, hreconcile, h⟩ := bind_eq_ok.mp h
    dsimp only at h
    split at h
    · rename_i hterm
      cases h
      exact ⟨record, last_reconcile_external_completion hreconcile, hterm⟩
    · obtain ⟨⟨record', log'''⟩, hmark, h⟩ := bind_eq_ok.mp h
      cases h
      exact ⟨record', last_mark_user_cancelled hmark,
        hcancelled record' (cancel_receipt_stopped hstopped)⟩

/-- The stop of a run requests the cancellation of this run. -/
theorem stop_run_cancelled (env : StopEnv) (run : ExecutionRun) (log : Log) :
    (stop_run env run log).cancelled = [run.core_run_id] := by
  unfold stop_run
  dsimp only
  split
  · rfl
  · split <;> rfl

/-- A run that has ended is stopped without an abort. -/
theorem stop_run_ended {env : StopEnv} {run : ExecutionRun} {log : Log} {record : RunRecord}
    (h : RunRegistry.require (changed log env.before_status) run.core_run_id = .ok record)
    (hterm : record.status ∈ CoreRunStatus.terminal) : stop_run env run log =
      ⟨[run.core_run_id], [], .ok (stop_receipt run none, changed log env.before_status)⟩ := by
  simp only [stop_run, h, if_pos hterm]

/-- The stop of the run of the delivery is exact. -/
theorem stop_run_exact {db : DB} {run : ExecutionRun} {delivery_id : String}
    (hmem : run ∈ db.runs.rows) (husable : usable run = true)
    (hown : run.core_run_id = core_id delivery_id) (env : StopEnv) (log : Log) :
    (stop_run env run log).Exact db delivery_id := by
  refine ⟨?_, ?_, ?_⟩
  · simp [stop_run_cancelled, hown]
  · have hkey : run.session_key = some (run.session_key.getD "") := by
      cases hkey : run.session_key <;> simp_all [usable]
    intro key haborted
    refine ⟨run, hmem, hown, ?_⟩
    unfold stop_run at haborted
    dsimp only at haborted
    split at haborted
    · cases haborted
    · split at haborted
      · cases haborted
      · rw [List.mem_singleton.mp haborted]
        exact hkey
  · intro receipt log' hout hstopped
    have hended : ∃ record, last run.core_run_id log' = some record ∧
        record.status ∈ CoreRunStatus.terminal := by
      unfold stop_run at hout
      dsimp only at hout
      split at hout
      · cases hout
        exact absurd hstopped (by simp [stop_receipt])
      · rename_i record hrecord
        split at hout
        · rename_i hterm
          cases hout
          exact ⟨record, RunRegistry.require_ok hrecord, hterm⟩
        · dsimp only at hout
          split at hout
          · cases hout
            exact absurd hstopped (by simp [stop_receipt])
          · exact after_abort_stopped hout hstopped
    obtain ⟨record, hlast, hterm⟩ := hended
    intro ms record' hlast'
    obtain ⟨r, hr, hstatus⟩ := terminal_changed hlast hterm ms
    rw [← hown, hr] at hlast'
    cases hlast'
    exact hstatus

/-- A stop acts on the run of its delivery exactly if the row that it finds is the delivery's own. -/
theorem stop_exact (db : DB) (env : StopEnv) (delivery_id agent_id : String) (log : Log) :
    (stop db env delivery_id agent_id log).Exact db delivery_id ↔
      ∀ run ∈ binding_for_delivery db delivery_id agent_id, usable run = true →
        run.core_run_id = core_id delivery_id := by
  have hmissing : (⟨[], [], .ok (failed "FAST_GATEWAY_BINDING_MISSING", log)⟩ : Stop).Exact db
      delivery_id := by
    refine ⟨by simp, by simp, ?_⟩
    rintro receipt log ⟨⟩ hstopped
    exact absurd hstopped (by simp [failed])
  cases hbinding : binding_for_delivery db delivery_id agent_id with
  | none => simp [stop, hbinding, hmissing]
  | some run =>
    cases husable : usable run with
    | false => simp [stop, hbinding, husable, hmissing]
    | true =>
      have hstop : stop db env delivery_id agent_id log = stop_run env run log := by
        simp [stop, hbinding, husable]
      rw [hstop]
      simp only [Option.mem_def, Option.some.injEq, forall_eq', husable, forall_const]
      refine ⟨fun h => ?_, fun hown => stop_run_exact (binding_mem hbinding) husable hown env log⟩
      exact h.cancelled _ (by simp [stop_run_cancelled])

/-! ## The sample -/

namespace GatewaySample

open RunRegistry (SafeRecord)

def row : ExecutionRun := ⟨"war-d", "p", "t", "dev", some "o", some "session", "PASS", none, 10⟩

/-- The task has been called again with its second revision, and the row of its new run is not
written yet. -/
def revised : DB :=
  { db with
    tasks := ⟨[{ task with revision := 2 }], by decide⟩
    deliveries :=
      ⟨[{ delivery "d" "m" with status := .responded, run_id := some "o", claim_token := none },
        { delivery "d2" "m" with task_revision := 2 }], by decide⟩
    runs := ⟨[row], by decide⟩ }

/-- The run of the second delivery. -/
def second : RunRecord :=
  { running with core_run_id := core_id "d2", idempotency_key := "d2" }

def stop_env : StopEnv := ⟨[], some true, [], none, [], [], "t3"⟩

theorem safe_second : SafeRecord second :=
  { safe_running with
    core_run_id := by decide +kernel
    idempotency_key := by decide +kernel }

end GatewaySample

open GatewaySample in
/-- The first run has passed and the second one goes on: the stop of the second delivery requests
the cancellation of the first run and says `stopped`. -/
theorem stop_other_run : (stop revised stop_env "d2" "dev" [passed, second]).cancelled = ["war-d"] ∧
    (∃ receipt, (stop revised stop_env "d2" "dev" [passed, second]).outcome =
      .ok (receipt, [passed, second]) ∧ receipt.status = "stopped") ∧
    (last (core_id "d2") [passed, second]).map RunRecord.status = some .RUNNING := by
  have hbinding : binding_for_delivery revised "d2" "dev" = some row := by decide +kernel
  have hid : passed.core_run_id = "war-d" := by decide +kernel
  have hother : second.core_run_id ≠ "war-d" := by decide +kernel
  have hlast : last "war-d" [passed, second] = some passed :=
    (RunRegistry.last_append_ne [passed] hother).trans (hid ▸ RunRegistry.last_append_self [] passed)
  have hreadable : ∀ r ∈ [passed, second], RunRegistry.readable r = true := by
    simp only [List.forall_mem_cons, List.not_mem_nil, false_imp_iff, implies_true, and_true]
    exact ⟨RunRegistry.readable_of_safe safe_passed, RunRegistry.readable_of_safe safe_second⟩
  have hstop : stop revised stop_env "d2" "dev" [passed, second] =
      ⟨["war-d"], [], .ok (stop_receipt row none, [passed, second])⟩ := by
    rw [stop, hbinding]
    exact (if_pos (by decide)).trans
      (stop_run_ended (RunRegistry.require_of_last hreadable hlast) (by decide))
  rw [hstop]
  refine ⟨rfl, ⟨_, rfl, rfl⟩, ?_⟩
  decide +kernel

end FastGatewayWarRoomAdapter

end WarRoom

end Plachem
