import PlachemMonitor.FastGateway.Adapter
import PlachemMonitor.Registry.Readable

/-!
# Redelivery

A delivery that is handed over again asks for the run that it has asked for before, and the Core
returns the record of that run. `deliver` calls every record that is not `RUNNING` a failure: what
the worker records agrees with the run exactly if the run is `RUNNING`, if it was still `QUEUED` and
is submitted now, or if it has failed and the delivery is not tried again (`redelivery_faithful`). A
delivery whose source is no longer there, or asks for something else, is a failure or an error.
-/

namespace Plachem

namespace WarRoom

namespace FastGatewayWarRoomAdapter

open AuthBroker
open CoreEngine (Engine EngineState DispatchArgs DispatchEnv DispatchError)
open RunRegistry (last readable)

section

variable {ρ : Type} {adapter : FastGatewayWarRoomAdapter ρ} {db : DB} {env : DispatchEnv}
  {s : EngineState ρ} {src : Source} {contract : GoalContract} {old : RunRecord} {d : Delivery}

/-- The dispatch of a delivery of the worker. -/
abbrev args_of (adapter : FastGatewayWarRoomAdapter ρ) (d : Delivery) (src : Source) : DispatchArgs :=
  adapter.dispatch_args d.id d.agent_id src

/-- The delivery has been handed over before: its run is in the registry under the same request. -/
structure Redelivered (adapter : FastGatewayWarRoomAdapter ρ) (db : DB) (env : DispatchEnv) (d : Delivery)
    (s : EngineState ρ) (src : Source) (contract : GoalContract) (old : RunRecord) : Prop where
  id_ne : d.id ≠ ""
  source : source db d.id d.agent_id d.message_id = some src
  checked : ∃ approved policy,
    CoreEngine.checked adapter.engine env (adapter.args_of d src) = .ok (approved, contract, policy)
  readable : ∀ r ∈ s.log, readable r = true
  last : last (core_id d.id) s.log = some old
  key : old.idempotency_key = d.id
  hash : old.request_hash =
    CoreEngine.request_hash adapter.engine.H (adapter.args_of d src) contract.goal_id

/-- The broker lets the run through. -/
def Authorized (adapter : FastGatewayWarRoomAdapter ρ) (env : DispatchEnv) (d : Delivery)
    (s : EngineState ρ) (src : Source) (contract : GoalContract) : Prop :=
  let args := adapter.args_of d src
  match adapter.engine.auth_broker with
  | none => adapter.engine.auth_required = false
  | some broker => (CoreEngine.authorize adapter.engine broker env args
      (execution_auth_scope adapter.engine.H args.agent_id args.message (core_id d.id) d.id
        contract.as_dict args.action args.workspace_id args.project_id)
      (core_id d.id) s.auth s.resolver).2 = .ok ()

/-- What the worker makes of the answer to a call. -/
def recorded_status (cfg : Config) (db : DB) (now : Int) (c : Call) (r : DeliveryReceipt) :
    DeliveryStatus :=
  (c.row.delivery.recorded c.row.delivery (call_outcome cfg db c false r) r now).status

/-- The outcome that is recorded agrees with the run: an active run is under way, the result of one
that has passed is there, and one that has failed is submitted again or tried no more. -/
def Agrees (old : RunRecord) (resubmitted : Prop) (recorded : Option DeliveryStatus) : Prop :=
  match old.status with
  | .QUEUED | .RUNNING => recorded = some .received
  | .PASS => recorded = some .responded
  | .FAIL | .BLOCKED | .TIMEOUT | .CANCELLED => resubmitted ∨ recorded = some .failed

theorem core_id_ne (delivery_id : String) : core_id delivery_id ≠ "" := by
  intro h
  have hdata := congrArg String.toList h
  simp [core_id] at hdata

theorem actual_id_eq (d : Delivery) (src : Source) (uuid : String) :
    (adapter.args_of d src).actual_id uuid = core_id d.id := by
  have hfilter : (some (core_id d.id)).filter (· ≠ "") = some (core_id d.id) := by
    simpa [Option.filter] using core_id_ne d.id
  simp only [DispatchArgs.actual_id, dispatch_args, hfilter]

theorem key_eq (hne : d.id ≠ "") (src : Source) (uuid : String) :
    (adapter.args_of d src).key uuid = d.id := by
  have hfilter : (some d.id).filter (· ≠ "") = some d.id := by simpa [Option.filter] using hne
  simp only [DispatchArgs.key, dispatch_args, hfilter]

theorem created_id (d : Delivery) (src : Source) (uuid : String) {approved : List String}
    {policy : Dict} :
    CreateArgs.actual_id (CoreEngine.createArgs adapter.engine (adapter.args_of d src) uuid
      approved contract policy) "" = core_id d.id := by
  simp only [CreateArgs.actual_id, CoreEngine.createArgs, actual_id_eq, if_neg (core_id_ne d.id)]

/-! ## The dispatch -/

namespace Redelivered

variable (h : Redelivered adapter db env d s src contract old)
include h

theorem create (approved : List String) (policy : Dict) (now : String) :
    RunRegistry.create s.log (CoreEngine.createArgs adapter.engine (adapter.args_of d src) env.uuid
      approved contract policy) "" now = .ok ((old, false), s.log) := by
  refine RunRegistry.create_existing h.readable ((created_id d src env.uuid).symm ▸ h.last) ?_ h.hash now
  rw [CoreEngine.createArgs, key_eq h.id_ne]
  exact h.key

/-- A run that is not QUEUED is returned as it is. -/
theorem dispatch_known (hqueued : old.status ≠ .QUEUED) :
    CoreEngine.dispatch adapter.engine env (adapter.args_of d src) s = (s, .ok old) := by
  obtain ⟨approved, policy, hchecked⟩ := h.checked
  simp only [CoreEngine.dispatch, hchecked, h.create, ne_eq, hqueued, not_false_eq_true, and_self,
    if_true]

/-- A run that is QUEUED goes to the gate. -/
theorem dispatch_queued (hqueued : old.status = .QUEUED) :
    CoreEngine.dispatch adapter.engine env (adapter.args_of d src) s =
      CoreEngine.gate adapter.engine env (adapter.args_of d src) contract old s := by
  obtain ⟨approved, policy, hchecked⟩ := h.checked
  simp [CoreEngine.dispatch, hchecked, h.create, hqueued]

/-- A last transition of a run that is QUEUED. -/
theorem finish_queued (hqueued : old.status = .QUEUED) (s' : EngineState ρ) (hlog : s'.log = s.log)
    {status : CoreRunStatus} (hstatus : status ∈ CoreRunStatus.QUEUED.transitions)
    (binding : Option RunBinding) (reason now : String) :
    ∃ r, (CoreEngine.finish s' (core_id d.id) status binding reason now).2 = .ok r ∧
      r.status = status := by
  have htrans := RunRegistry.transition_of_last (hlog ▸ h.readable) (hlog ▸ h.last)
    (hqueued ▸ hstatus) (by rintro rfl; rw [hqueued] at hstatus; revert hstatus; decide)
    binding none reason now
  exact ⟨_, by rw [CoreEngine.finish, htrans], RunRecord.transitioned_status _ _ _ _ _ _⟩

/-- A submission gives a RUNNING record exactly if it is accepted. -/
theorem submit_running (hqueued : old.status = .QUEUED) (s' : EngineState ρ) (hlog : s'.log = s.log)
    (submission : CoreEngine.Submission) (hid : submission.core_run_id = core_id d.id) :
    (∃ r, (CoreEngine.submit env (adapter.args_of d src) submission s').2 = .ok r ∧
        r.status = .RUNNING) ↔ ∃ binding, env.submitted = .accepted binding := by
  unfold CoreEngine.submit
  cases hsubmitted : env.submitted with
  | raised => simp
  | rejected reason =>
    have hfail : CoreRunStatus.FAIL ∈ CoreRunStatus.QUEUED.transitions := by decide
    obtain ⟨r, hr, hstatus⟩ := h.finish_queued hqueued { s' with sent := s'.sent ++ [submission] }
      hlog hfail none reason env.decided_now
    refine ⟨fun ⟨r', hr', hrunning⟩ => ?_, nofun⟩
    simp only [hid, hr] at hr'
    cases hr'
    rw [hstatus] at hrunning
    cases hrunning
  | accepted binding =>
    have hrunning : CoreRunStatus.RUNNING ∈ CoreRunStatus.QUEUED.transitions := by decide
    obtain ⟨r, hr, hstatus⟩ := h.finish_queued hqueued { s' with sent := s'.sent ++ [submission] }
      hlog hrunning (some binding) "" env.decided_now
    refine ⟨fun _ => ⟨binding, rfl⟩, fun _ => ⟨r, ?_, hstatus⟩⟩
    simpa [dispatch_args, hid] using hr

/-- The record of a QUEUED run that is dispatched again is RUNNING exactly if the run is authorized
and accepted. -/
theorem gate_running (hqueued : old.status = .QUEUED) :
    (∃ r, (CoreEngine.gate adapter.engine env (adapter.args_of d src) contract old s).2 = .ok r ∧
        r.status = .RUNNING) ↔
      Authorized adapter env d s src contract ∧ ∃ binding, env.submitted = .accepted binding := by
  have hblocked : ∀ {s' : EngineState ρ} {reason : String}, s'.log = s.log →
      ¬∃ r, (CoreEngine.finish s' (core_id d.id) .BLOCKED none reason env.decided_now).2 = .ok r ∧
        r.status = .RUNNING := by
    rintro s' reason hlog ⟨r', hr', hrunning⟩
    have hmem : CoreRunStatus.BLOCKED ∈ CoreRunStatus.QUEUED.transitions := by decide
    obtain ⟨r, hr, hstatus⟩ := h.finish_queued hqueued s' hlog hmem none reason env.decided_now
    rw [hr] at hr'
    cases hr'
    rw [hstatus] at hrunning
    cases hrunning
  unfold CoreEngine.gate Authorized
  simp only [actual_id_eq, key_eq h.id_ne]
  cases hbroker : adapter.engine.auth_broker with
  | none =>
    cases hrequired : adapter.engine.auth_required with
    | true =>
      refine ⟨fun hr => absurd hr (hblocked rfl), ?_⟩
      rintro ⟨hfalse, -⟩
      cases hfalse
    | false =>
      exact (h.submit_running hqueued s rfl _ rfl).trans ⟨fun hb => ⟨rfl, hb⟩, fun hb => hb.2⟩
  | some broker =>
    dsimp only
    generalize hauth : CoreEngine.authorize adapter.engine broker env _ _ _ _ _ = out
    obtain ⟨⟨w, resolver⟩, out⟩ := out
    cases out with
    | ok _ =>
      have hsubmit := h.submit_running hqueued { s with auth := w, resolver := resolver } rfl
        ⟨core_id d.id, (adapter.args_of d src).agent_id, (adapter.args_of d src).message, d.id,
          (adapter.args_of d src).session_key, old.approved_paths, (adapter.args_of d src).action,
          contract⟩ rfl
      exact ⟨fun hr => ⟨rfl, hsubmit.mp hr⟩, fun hb => hsubmit.mpr hb.2⟩
    | error e =>
      cases e with
      | broker code =>
        refine ⟨fun hr => absurd hr (hblocked rfl), ?_⟩
        rintro ⟨hfalse, -⟩
        cases hfalse
      | _ =>
        constructor
        · rintro ⟨r, hr, -⟩
          cases hr
        · rintro ⟨hfalse, -⟩
          cases hfalse

omit h in
/-- The contract is that of the arguments. -/
theorem contract_eq {contract' : GoalContract} (h : Redelivered adapter db env d s src contract old)
    (h' : Redelivered adapter db env d s src contract' old) : contract = contract' := by
  obtain ⟨approved, policy, hchecked⟩ := h.checked
  obtain ⟨approved', policy', hchecked'⟩ := h'.checked
  rw [hchecked] at hchecked'
  cases hchecked'
  rfl

end Redelivered

theorem deliver_eq (hsource : source db d.id d.agent_id d.message_id = some src) :
    adapter.deliver db env d.id d.agent_id d.message_id s =
      ((CoreEngine.dispatch adapter.engine env (adapter.args_of d src) s).1,
        (CoreEngine.dispatch adapter.engine env (adapter.args_of d src) s).2.map receipt) := by
  simp only [deliver, hsource]

/-- A run that is not asked for as before is refused. -/
theorem dispatch_refused (hne : d.id ≠ "") (hlast : last (core_id d.id) s.log = some old)
    (hsource : source db d.id d.agent_id d.message_id = some src)
    (hother : ¬∃ contract, Redelivered adapter db env d s src contract old) :
    ∃ e, CoreEngine.dispatch adapter.engine env (adapter.args_of d src) s = (s, .error e) := by
  unfold CoreEngine.dispatch
  cases hchecked : CoreEngine.checked adapter.engine env (adapter.args_of d src) with
  | error message => exact ⟨_, rfl⟩
  | ok out =>
    obtain ⟨approved, contract, policy⟩ := out
    dsimp only
    cases hcreate : RunRegistry.create s.log (CoreEngine.createArgs adapter.engine
        (adapter.args_of d src) env.uuid approved contract policy) "" env.created_now with
    | error e => exact ⟨_, rfl⟩
    | ok out =>
      -- the run is there, so it was found under this key and hash
      have hid : CreateArgs.actual_id (CoreEngine.createArgs adapter.engine (adapter.args_of d src)
          env.uuid approved contract policy) "" = core_id d.id := created_id d src env.uuid
      obtain ⟨hreadable, hkey, hhash⟩ := RunRegistry.create_of_last (hid.symm ▸ hlast) hcreate
      have hsame : Redelivered adapter db env d s src contract old :=
        { id_ne := hne
          source := hsource
          checked := ⟨approved, policy, hchecked⟩
          readable := hreadable
          last := hlast
          key := by rw [hkey, CoreEngine.createArgs, key_eq hne]
          hash := hhash }
      exact absurd ⟨contract, hsame⟩ hother

/-! ## The outcome -/

/-- The error code of a record that is not RUNNING. -/
def reason_of (record : RunRecord) : String :=
  if record.reason = "" then record.status.value else record.reason

/-- The delivery is tried again after this error. -/
def tried_again (now : Int) (d : Delivery) (error_code : String) : Bool :=
  retryable now d ⟨.failed, some error_code, false, none⟩

theorem recorded_running {cfg : Config} {now : Int} {c : Call} {r : RunRecord}
    (h : r.status = .RUNNING) : recorded_status cfg db now c (receipt r) = .received := by
  simp [recorded_status, receipt, h, call_outcome, receipt_status, outcome, Delivery.recorded,
    retryable, is_failure]

theorem recorded_error (cfg : Config) (db : DB) (now : Int) (c : Call) (error_code : String) :
    recorded_status cfg db now c (failed error_code) =
      if tried_again now c.row.delivery error_code then .queued else .failed :=
  rfl

theorem recorded_failed {cfg : Config} {now : Int} {c : Call} {r : RunRecord}
    (h : r.status ≠ .RUNNING) : recorded_status cfg db now c (receipt r) =
      if tried_again now c.row.delivery (reason_of r) then .queued else .failed := by
  rw [receipt, if_neg h]
  exact recorded_error cfg db now c (reason_of r)

/-- An error code that is recorded agrees with a run exactly if the run has failed and the delivery is
tried no more. -/
theorem agrees_failed (tried : Bool) :
    Agrees old False (some (if tried then .queued else .failed)) ↔
      old.status ∈ [.FAIL, .BLOCKED, .TIMEOUT, .CANCELLED] ∧ tried = false := by
  cases tried <;> cases hstatus : old.status <;> simp [Agrees, hstatus]

/-- What a redelivery makes of the run, for the delivery to be recorded faithfully. -/
def Faithful (adapter : FastGatewayWarRoomAdapter ρ) (db : DB) (env : DispatchEnv) (now : Int)
    (d : Delivery) (s : EngineState ρ) (old : RunRecord) : Prop :=
  match source db d.id d.agent_id d.message_id with
  | none =>
    old.status ∈ [.FAIL, .BLOCKED, .TIMEOUT, .CANCELLED] ∧
      tried_again now d "FAST_GATEWAY_APPROVED_SOURCE_MISSING" = false
  | some src => ∃ contract, Redelivered adapter db env d s src contract old ∧
    (old.status = .RUNNING ∨
      old.status = .QUEUED ∧ Authorized adapter env d s src contract ∧
        (∃ binding, env.submitted = .accepted binding) ∨
      old.status ∈ [.FAIL, .BLOCKED, .TIMEOUT, .CANCELLED] ∧ tried_again now d (reason_of old) = false)

/-- A redelivery that asks for the same run again. -/
theorem Redelivered.agrees {cfg : Config} {db' : DB} {now : Int} {c : Call}
    (h : Redelivered adapter db env c.row.delivery s src contract old) :
    let d := c.row.delivery
    let out := adapter.deliver db env d.id d.agent_id d.message_id s
    Agrees old (out.1.sent ≠ s.sent) (out.2.toOption.map (recorded_status cfg db' now c)) ↔
      old.status = .RUNNING ∨
      old.status = .QUEUED ∧ Authorized adapter env d s src contract ∧
        (∃ binding, env.submitted = .accepted binding) ∨
      old.status ∈ [.FAIL, .BLOCKED, .TIMEOUT, .CANCELLED] ∧ tried_again now d (reason_of old) = false := by
  intro d out
  have hdeliver : out = _ := deliver_eq h.source
  by_cases hqueued : old.status = .QUEUED
  · rw [h.dispatch_queued hqueued] at hdeliver
    have hagrees : Agrees old (out.1.sent ≠ s.sent) (out.2.toOption.map (recorded_status cfg db' now c)) ↔
        ∃ r, (CoreEngine.gate adapter.engine env (adapter.args_of d src) contract old s).2 = .ok r ∧
          r.status = .RUNNING := by
      simp only [Agrees, hqueued, hdeliver]
      cases hgate : (CoreEngine.gate adapter.engine env (adapter.args_of d src) contract old s).2 with
      | error e => simp [Except.map, Except.toOption]
      | ok r =>
        by_cases hrunning : r.status = .RUNNING
        · simp [Except.map, Except.toOption, recorded_running hrunning, hrunning]
        · simp [Except.map, Except.toOption, recorded_failed hrunning, hrunning]
          split <;> decide
    rw [hagrees, h.gate_running hqueued]
    simp [hqueued, d]
  · rw [h.dispatch_known hqueued] at hdeliver
    by_cases hrunning : old.status = .RUNNING
    · simp [Agrees, hdeliver, hrunning, Except.map, Except.toOption, recorded_running hrunning]
    · have hrecorded : out.2.toOption.map (recorded_status cfg db' now c) =
          some (if tried_again now d (reason_of old) then .queued else .failed) := by
        simp [hdeliver, Except.map, Except.toOption, recorded_failed hrunning, d]
      have hsent : (out.1.sent ≠ s.sent) = False := by simp [hdeliver]
      rw [hrecorded, hsent, agrees_failed]
      simp [hqueued, hrunning]

/-- What is recorded for a redelivery agrees with its run exactly if the same run is asked for and is,
or gets, under way, or if it has failed and the delivery is not tried again. -/
theorem redelivery_faithful {cfg : Config} {db' : DB} {now : Int} {c : Call}
    (hne : c.row.delivery.id ≠ "") (hlast : last (core_id c.row.delivery.id) s.log = some old) :
    let d := c.row.delivery
    let out := adapter.deliver db env d.id d.agent_id d.message_id s
    Agrees old (out.1.sent ≠ s.sent) (out.2.toOption.map (recorded_status cfg db' now c)) ↔
      Faithful adapter db env now d s old := by
  intro d out
  cases hsource : source db d.id d.agent_id d.message_id with
  | none =>
    have hdeliver : out = (s, .ok (failed "FAST_GATEWAY_APPROVED_SOURCE_MISSING")) := by
      simp only [out, deliver]
      rw [hsource]
    have hrecorded : out.2.toOption.map (recorded_status cfg db' now c) =
        some (if tried_again now d "FAST_GATEWAY_APPROVED_SOURCE_MISSING" then .queued
          else .failed) := by
      rw [hdeliver]
      exact congrArg some (recorded_error cfg db' now c _)
    have hsent : (out.1.sent ≠ s.sent) = False := by simp [hdeliver]
    rw [hrecorded, hsent, agrees_failed]
    simp only [Faithful, hsource]
  | some src =>
    simp only [Faithful, hsource]
    by_cases hsame : ∃ contract, Redelivered adapter db env d s src contract old
    · obtain ⟨contract, h⟩ := hsame
      refine h.agrees.trans ⟨fun hagrees => ⟨contract, h, hagrees⟩, fun ⟨contract', h', hagrees⟩ => ?_⟩
      rwa [h.contract_eq h']
    · obtain ⟨e, he⟩ := dispatch_refused hne hlast hsource hsame
      have hdeliver : out = (s, .error e) := by
        simp only [out, deliver_eq hsource]
        rw [he]
        rfl
      refine ⟨fun hagrees => ?_, fun ⟨contract, h, _⟩ => absurd ⟨contract, h⟩ hsame⟩
      rw [hdeliver] at hagrees
      cases hstatus : old.status <;> simp [Agrees, hstatus, Except.toOption] at hagrees

end

/-! ## The sample -/

namespace GatewaySample

open RegistryFile (safeText)
open RunRegistry (SafeRecord SafeCreate safe_record safe_transitioned readable_of_safe)

theorem safe_queued : SafeRecord queued := by
  have hcreate : SafeCreate create_args :=
    { agent_id := by decide +kernel
      idempotency_key := by decide +kernel
      request_hash := by decide +kernel
      policy := by decide +kernel
      goal_contract := by decide +kernel
      parent_core_run_id := nofun
      approved_paths := by decide +kernel }
  exact safe_record hcreate (by decide +kernel) (by decide +kernel)

theorem safe_running : SafeRecord running := by
  refine safe_transitioned safe_queued _ ?_ nofun (by decide +kernel) (by decide +kernel)
  rintro b ⟨⟩
  decide +kernel

theorem safe_passed : SafeRecord passed :=
  safe_transitioned safe_running _ nofun nofun (by decide +kernel) (by decide +kernel)

/-- The delivery is handed over again when its run has got as far as `r`. -/
theorem redelivered {r : RunRecord} (hsafe : SafeRecord r) (hidentity : r.identity = queued.identity) :
    Redelivered adapter db env call.row.delivery (upto r) src ⟨"", "", [], [], "", []⟩ r := by
  have hid : r.core_run_id = core_id "d" := congrArg RunRecord.Identity.core_run_id hidentity
  have hlast : last (core_id "d") [queued, r] = some r := hid ▸ RunRegistry.last_append_self [queued] r
  refine ⟨by decide, by decide +kernel, ⟨[], .empty, rfl⟩, ?_, hlast, ?_, ?_⟩
  · simp only [upto, List.forall_mem_cons, List.not_mem_nil, false_imp_iff, implies_true, and_true]
    exact ⟨readable_of_safe safe_queued, readable_of_safe hsafe⟩
  · exact congrArg RunRecord.Identity.idempotency_key hidentity
  · exact congrArg RunRecord.Identity.request_hash hidentity

end GatewaySample

open GatewaySample in
/-- The run has passed, and its delivery is put back in the queue as a failed one. -/
theorem passed_recorded_failed :
    (last (core_id "d") (upto passed).log).map RunRecord.status = some .PASS ∧
    (adapter.deliver db env "d" "dev" "m" (upto passed)).2.toOption.map
      (fun r => (r.status, r.error_code)) = some ("failed", some "PASS") ∧
    (adapter.deliver db env "d" "dev" "m" (upto passed)).2.toOption.map
      (recorded_status (WarRoom.Sample.config false) db 10 call) = some .queued := by
  have h := redelivered safe_passed rfl
  have hdispatch : (CoreEngine.dispatch adapter.engine env (adapter.dispatch_args "d" "dev" src)
      (upto passed)).2 = .ok passed := congrArg Prod.snd (h.dispatch_known (by decide))
  have hdeliver : (adapter.deliver db env "d" "dev" "m" (upto passed)).2 = .ok (failed "PASS") := by
    have hsource : source db "d" "dev" "m" = some src := h.source
    simp only [deliver, hsource, hdispatch]
    rfl
  rw [hdeliver]
  refine ⟨congrArg (Option.map RunRecord.status) h.last, rfl, ?_⟩
  decide +kernel

open GatewaySample in
/-- A delivery whose run goes on is `received` again. -/
theorem redelivery_faithful_sample : (adapter.deliver db env "d" "dev" "m" (upto running)).2.toOption.map
    (recorded_status (WarRoom.Sample.config false) db 10 call) = some .received := by
  have h := redelivered safe_running rfl
  have hagrees : Agrees running _
      ((adapter.deliver db env "d" "dev" "m" (upto running)).2.toOption.map
        (recorded_status (WarRoom.Sample.config false) db 10 call)) :=
    (redelivery_faithful (by decide) h.last).mpr (by
      rw [Faithful, h.source]
      exact ⟨_, h, .inl rfl⟩)
  exact hagrees

end FastGatewayWarRoomAdapter

end WarRoom

end Plachem
