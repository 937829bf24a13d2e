import PlachemMonitor.Recovery.Eligibility
import PlachemMonitor.Spec.Stacks

/-!
# Recovery calls

`RecoveryLayer.attempt_recovery` and `recover_watchdog_cancelled` on a shared registry. Every
access to the registry is one step of a frame, so that calls interleave as they may in the program.
The dispatch of a child is part of its call: `CoreEngine._dispatch` creates the run, authorizes it
and submits it, then the harness looks at the record that came back and may recover it, in a frame
above.

A label carries the answers of the outside: generated ids, clock readings, what the authorization
and the adapter say. `children` and `passed` are a history that no frame reads: the runs that calls
have created, and those that have passed the authorization.
-/

namespace Plachem

namespace RecoveryLayer

open RunRegistry (get recent)

/-- The limits of a layer, at least one each. -/
structure Layer where
  max_attempts : Nat
  max_dispatch_attempts : Nat
  one_le_attempts : 1 ≤ max_attempts
  one_le_dispatches : 1 ≤ max_dispatch_attempts

/-- Which method the child is for, with the dispatches that `attempt_recovery` has counted. -/
inductive Kind where
  | recovery (existing_dispatches : Nat)
  | watchdog
  deriving DecidableEq

/-- Where a call stands. -/
inductive Frame where
  /-- `attempt_recovery` is to read the source. -/
  | attempt_recovery (core_run_id : String)
  /-- It is to look for execution attempts, then for dispatches. -/
  | executions (source : RunRecord)
  | dispatches (source : RunRecord)
  /-- `recover_watchdog_cancelled` is to read the source. -/
  | recover_watchdog_cancelled (core_run_id : String)
  /-- It is to look for a child of the source. -/
  | existing (source : RunRecord)
  /-- The child is to be created, authorized and submitted. -/
  | create (kind : Kind) (source : RunRecord)
  | authorize (kind : Kind) (source : RunRecord) (child_id : String)
  | submit (kind : Kind) (source : RunRecord) (child_id : String)
  /-- The harness is to look at the record of the child. -/
  | observe (kind : Kind) (source : RunRecord) (child_id : String) (dispatched : RunRecord)
  /-- The child is to be marked. -/
  | account (kind : Kind) (source : RunRecord) (child_id : String) (dispatched : RunRecord)
  /-- The start of its execution is to be marked. -/
  | execution_started (existing_dispatches : Nat) (source : RunRecord) (child_id : String)

/-- The answers of the outside to a step. -/
structure Answer where
  uuid : String
  key_uuid : String
  request_hash : String
  policy : Dict
  goal_contract : GoalContract
  prior_evidence : Dict
  /-- The code of the `AuthBrokerError`, if the authorization fails. -/
  denied : Option String
  /-- The binding, or the reason that the failure of the submission gives. -/
  submitted : Except String RunBinding
  /-- The restored runs, or nothing if the harness is closed or has no recovery layer, or the engine
  was called without it. -/
  restored : Option (List String)
  event_at : String
  now : String

/-- A run that a call has created. -/
structure Child where
  kind : Kind
  parent : String
  run_id : String
  deriving DecidableEq

/-- What a step leaves. -/
structure Outcome where
  log : Log
  frames : List Frame
  created : Option Child
  passed : Option String

/-- The call returns, or raises. -/
def Outcome.done (log : Log) : Outcome := ⟨log, [], none, none⟩

def Outcome.next (log : Log) (frame : Frame) : Outcome := ⟨log, [frame], none, none⟩

/-! ## The child -/

def Kind.child_id (kind : Kind) (source : RunRecord) (uuid : String) : String :=
  match kind with
  | recovery _ => source.core_run_id ++ "-rec-" ++ uuid
  | watchdog => "direct-" ++ uuid

/-- `f"{source.get('idempotency_key') or core_run_id}:rec:{n}"` -/
def recovery_key (source : RunRecord) (n : Nat) : String :=
  (if source.idempotency_key = "" then source.core_run_id else source.idempotency_key) ++ ":rec:" ++
    toString n

def Kind.idempotency_key (kind : Kind) (source : RunRecord) (key_uuid : String) : String :=
  match kind with
  | recovery existing_dispatches => recovery_key source (existing_dispatches + 1)
  | watchdog => "direct:watchdog:" ++ key_uuid

/-- What `CoreEngine._dispatch` gives to `RunRegistry.create`. -/
def createArgs (kind : Kind) (source : RunRecord) (answer : Answer) : CreateArgs where
  core_run_id := some (kind.child_id source answer.uuid)
  agent_id := source.agent_id
  idempotency_key := kind.idempotency_key source answer.key_uuid
  request_hash := answer.request_hash
  policy := answer.policy
  goal_contract := answer.goal_contract
  parent_core_run_id := none
  context_reset_count := 0
  approved_paths :=
    match kind with
    | .recovery _ => some []
    | .watchdog => some source.approved_paths
  watchdog_managed := decide (kind = .watchdog)

/-- The goal state that marks a recovery child. -/
def recoveryGoal (source_id : String) (dispatch_attempt : Nat) (started : Bool) : Dict :=
  Dict.ofList [("recovery_source_run_id", .str source_id),
    ("recovery_dispatch_attempt", .int dispatch_attempt),
    ("recovery_execution_attempt", .int (if started then 1 else 0))] (by simp)

/-- The goal state that marks a watchdog child. -/
def watchdogGoal (source_id : String) : Dict :=
  Dict.ofList [("watchdog_recovery_source_run_id", .str source_id),
    ("watchdog_recovery_attempt", .int 1)] (by simp)

/-- The update that marks a child with its source. -/
def accounting (layer : Layer) (kind : Kind) (source dispatched : RunRecord) : GoalUpdate :=
  match kind with
  | .recovery existing_dispatches =>
    let started := !is_pre_execution_block dispatched.status dispatched.reason
    { GoalUpdate.none with
      goal_state := some (recoveryGoal source.core_run_id (existing_dispatches + 1) started)
      event_code := some "RECOVERY_ATTEMPTED"
      event_details := some (Dict.ofList [("source_run_id", .str source.core_run_id),
        ("source_reason", .str source.reason),
        ("fail_class", .str (classify_fail source.reason).value),
        ("dispatch_attempt", .int (existing_dispatches + 1)),
        ("execution_attempt", .int (if started then 1 else 0)),
        ("execution_started", .bool started),
        ("max_attempts", .int layer.max_attempts),
        ("max_dispatch_attempts", .int layer.max_dispatch_attempts),
        ("dispatched_status", .str dispatched.status.value),
        ("dispatched_reason", .str dispatched.reason)] (by simp)) }
  | .watchdog =>
    { GoalUpdate.none with
      goal_state := some (watchdogGoal source.core_run_id)
      event_code := some "WATCHDOG_RECOVERY_DISPATCHED"
      event_details := some (Dict.ofList [("source_run_id", .str source.core_run_id),
        ("source_status", .str source.status.value), ("auth_rechecked", .bool true),
        ("approved_paths_preserved", .strs source.approved_paths)] (by simp)) }

/-- The update that marks the start of the execution. -/
def startedAccounting (existing_dispatches : Nat) (source : RunRecord) : GoalUpdate :=
  { GoalUpdate.none with
    goal_state := some (recoveryGoal source.core_run_id (existing_dispatches + 1) true)
    event_code := some "RECOVERY_EXECUTION_STARTED"
    event_details := some (Dict.ofList [("source_run_id", .str source.core_run_id),
      ("dispatch_attempt", .int (existing_dispatches + 1)), ("execution_attempt", .int 1)]
      (by simp)) }

/-- The update that hands a run over to the controlled lane. -/
def requeue (source : RunRecord) (prior_evidence : Dict) : GoalUpdate :=
  { GoalUpdate.none with
    event_code := some "WATCHDOG_REQUEUE_REQUIRED"
    event_details := some (Dict.ofList [("source_run_id", .str source.core_run_id)] (by simp))
    escalation_reason := some "WATCHDOG_REQUEUE_REQUIRED"
    escalation_package := some (Dict.ofList [("source_run_id", .str source.core_run_id),
      ("source_status", .str source.status.value), ("agent_id", .str source.agent_id),
      ("goal_contract", .ofDict source.goal_contract.as_dict),
      ("verified_progress", .ofDict source.verified_progress),
      ("watchdog_snapshot", .ofDict prior_evidence),
      ("required_action", .str "REQUEUE_THROUGH_CONTROLLED_LANE")] (by simp)) }

/-! ## The steps of a call -/

/-- `PersistentExecutionHarness._handle_recovery`: whether a record is given to the layer. -/
def handles_recovery (restored : List String) (record : RunRecord) : Bool :=
  decide (record.status = .FAIL ∧ record.core_run_id ∉ restored ∧
    record.escalation_reason ≠ "WATCHDOG_REQUEUE_REQUIRED") && !is_recovery_child record

/-- `core_run_id.startswith("direct-")` -/
def isDirect (core_run_id : String) : Bool := "direct-".toList.isPrefixOf core_run_id.toList

variable (layer : Layer)

/-- The next step of a call. A registry method that raises ends the call. -/
def Frame.step (answer : Answer) (log : Log) : Frame → Outcome
  | attempt_recovery core_run_id =>
    match get log core_run_id with
    | .ok (some source) => .next log (executions source)
    | _ => .done log
  | executions source =>
    match recent log 200 with
    | .ok records =>
      let existing_exec := max_execution_attempts records source.core_run_id
      if (evaluate_recovery source existing_exec).eligible then .next log (dispatches source)
      else .done log
    | .error _ => .done log
  | dispatches source =>
    match recent log 200 with
    | .ok records =>
      let existing_dispatches := count_existing_dispatches records source.core_run_id
      if layer.max_dispatch_attempts ≤ existing_dispatches then .done log
      else .next log (create (.recovery existing_dispatches) source)
    | .error _ => .done log
  | recover_watchdog_cancelled core_run_id =>
    match get log core_run_id with
    | .ok (some source) =>
      if source.watchdog_managed = false then .done log
      else if (marks source).watchdog_recovery_source_run_id.isSome then .done log
      else if isDirect core_run_id = false then
        .done ((Mutation.update_goal_state core_run_id (requeue source answer.prior_evidence)
          answer.event_at answer.now).run log)
      else if source.status ≠ .CANCELLED then .done log
      else .next log (existing source)
    | _ => .done log
  | existing source =>
    match recent log 200 with
    | .ok records =>
      if 1 ≤ count_watchdog_children records source.core_run_id then .done log
      else .next log (create .watchdog source)
    | .error _ => .done log
  | create kind source =>
    let child_id := kind.child_id source answer.uuid
    match RunRegistry.create log (createArgs kind source answer) "" answer.now with
    | .ok ((record, created), log) =>
      let child : Option Child :=
        if created then some ⟨kind, source.core_run_id, child_id⟩ else none
      if created = false ∧ record.status ≠ .QUEUED then
        ⟨log, [observe kind source child_id record], child, none⟩
      else ⟨log, [authorize kind source child_id], child, none⟩
    | .error _ => .done log
  | authorize kind source child_id =>
    match answer.denied with
    | some code =>
      match RunRegistry.transition log child_id .BLOCKED none none ("AUTH_" ++ code) answer.now with
      | .ok (record, log) => .next log (observe kind source child_id record)
      | .error _ => .done log
    | none => ⟨log, [submit kind source child_id], none, some child_id⟩
  | submit kind source child_id =>
    let (status, binding, reason) : CoreRunStatus × Option RunBinding × String :=
      match answer.submitted with
      | .ok binding => (.RUNNING, some binding, "")
      | .error reason => (.FAIL, none, reason)
    match RunRegistry.transition log child_id status binding none reason answer.now with
    | .ok (record, log) => .next log (observe kind source child_id record)
    | .error _ => .done log
  | observe kind source child_id dispatched =>
    match answer.restored with
    | some restored =>
      if handles_recovery restored dispatched then
        ⟨log, [attempt_recovery dispatched.core_run_id, account kind source child_id dispatched],
          none, none⟩
      else .next log (account kind source child_id dispatched)
    | none => .next log (account kind source child_id dispatched)
  | account kind source child_id dispatched =>
    match RunRegistry.update_goal_state log child_id (accounting layer kind source dispatched)
        answer.event_at answer.now with
    | .ok (_, log) =>
      match kind with
      | .recovery existing_dispatches =>
        if is_pre_execution_block dispatched.status dispatched.reason then .done log
        else .next log (execution_started existing_dispatches source child_id)
      | .watchdog => .done log
    | .error _ => .done log
  | execution_started existing_dispatches source child_id =>
    .done ((Mutation.update_goal_state child_id (startedAccounting existing_dispatches source)
      answer.event_at answer.now).run log)

/-! ## The system -/

structure State where
  log : Log
  threads : List (List Frame)
  children : List Child
  passed : List String

inductive Label where
  /-- Somebody calls `attempt_recovery`. -/
  | attempt_recovery (core_run_id : String)
  /-- Somebody calls `recover_watchdog_cancelled`. -/
  | recover_watchdog_cancelled (core_run_id : String)
  /-- An observer hands a record that it has read to the harness. -/
  | observed (record : RunRecord) (restored : List String)
  /-- A call takes its next step. -/
  | step (t : Nat) (answer : Answer)
  /-- A call ends: a grant cannot be registered, a check of the dispatch fails, an access raises. -/
  | abort (t : Nat)
  /-- The rest of the program changes the registry. -/
  | foreign (m : Mutation)

/-- The run that a mutation is about. -/
def target : Mutation → String
  | .create args fresh _ => args.actual_id fresh
  | .transition id _ _ _ _ _ => id
  | .reconcile_abort_observation id _ => id
  | .update_goal_state id _ _ _ => id
  | .update_policy id _ _ _ => id

/-- The rest of the program writes goal states that it has read from a record of the same run, so
it makes up no marks. -/
def Copies (log : Log) (m : Mutation) : Prop :=
  ∀ goal ∈ written m, marksOf goal = Marks.none ∨
    ∃ r ∈ log, r.core_run_id = target m ∧ marksOf goal = marks r

instance (log : Log) (m : Mutation) : Decidable (Copies log m) := by
  unfold Copies
  infer_instance

/-- The calls of one layer, from an empty registry. -/
def system : Machine State Label where
  init s := s = ⟨[], [], [], []⟩
  step s label :=
    match label with
    | .attempt_recovery id => some { s with threads := Stacks.spawn s.threads (.attempt_recovery id) }
    | .recover_watchdog_cancelled id =>
      some { s with threads := Stacks.spawn s.threads (.recover_watchdog_cancelled id) }
    | .observed record restored =>
      if record ∈ s.log ∧ handles_recovery restored record then
        some { s with threads := Stacks.spawn s.threads (.attempt_recovery record.core_run_id) }
      else none
    | .step t answer =>
      match Stacks.top s.threads t with
      | some frame =>
        let out := frame.step layer answer s.log
        some
          { log := out.log
            threads := Stacks.advance s.threads t out.frames
            children := s.children ++ out.created.toList
            passed := s.passed ++ out.passed.toList }
      | none => none
    | .abort t =>
      match Stacks.top s.threads t with
      | some _ => some { s with threads := Stacks.advance s.threads t [] }
      | none => none
    | .foreign m => if Copies s.log m then some { s with log := m.run s.log } else none

end RecoveryLayer

end Plachem
