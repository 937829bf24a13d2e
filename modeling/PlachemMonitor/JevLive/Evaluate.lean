import PlachemMonitor.JevLive.Nudge

/-!
# The evaluation of a candidate

`evaluate_live_candidate`, in the steps between which other calls and threads may run: a step reads
what the process shares (`Shared`), takes an answer of the outside, and has at most one `Effect`. Where
a stage keeps the history that was `read`, or the decision, no step uses it but to tell of the past.
-/

namespace Plachem

namespace JevLive

/-! ## What the calls and threads share -/

/-- An entry of `_SALVAGE_CONFIRMATIONS`. -/
structure Confirmation where
  count : Nat
  last_at : FloatText
  digest : String

/-- The history, which is a file, and the tables of the process. -/
structure Shared where
  records : List Dict
  inflight : List String
  nudge_inflight : List String
  confirmations : String → Option Confirmation

def AUTO_RECOVERY_CONFIRMATIONS : Nat := 2

def AUTO_RECOVERY_CONFIRMATION_GAP_SECONDS : FloatText := float "45.0" (by decide)

/-- The entry that `_confirm_salvage` leaves. -/
def confirm_salvage (F : Floats) (previous : Option Confirmation) (stable_digest : String)
    (current : FloatText) : Confirmation :=
  match previous with
  | none => ⟨1, current, stable_digest⟩
  | some previous =>
    if previous.digest ≠ stable_digest then ⟨1, current, stable_digest⟩
    else if F.le AUTO_RECOVERY_CONFIRMATION_GAP_SECONDS (F.sub current previous.last_at) then
      ⟨previous.count + 1, current, stable_digest⟩
    else ⟨previous.count, previous.last_at, stable_digest⟩

/-! ## Candidates -/

def ALLOWED_KINDS : List String := ["STALL", "LOOP", "COMPACTION_STREAK", "CONTEXT_EVIDENCE", "PERIODIC_HEALTH"]

/-- What a payload asks about; `none` is `INVALID_LIVE_CANDIDATE`. -/
def job_of (cfg : Config) (payload : Dict) : Option Job :=
  let text (k : String) := Text.strip (cfg.text (payload.get? k))
  let job : Job :=
    { agent_id := text "agent_id"
      session_id := text "session_id"
      session_key := text "session_key"
      kind := cfg.upper (text "kind")
      severity := (payload.value? "severity").getD .null
      evidence := ((payload.value? "evidence").filter (·.json.truthy)).getD (.ofDict .empty) }
  if job.agent_id = "" ∨ job.session_id = "" ∨ job.session_key = "" ∨ job.kind ∉ ALLOWED_KINDS then none
  else some job

def GENERAL_RECOVERY_GRACE_SECONDS : FloatText := float "300.0" (by decide)

def NUDGE_RESTART_HOLD_SECONDS : FloatText := float "240.0" (by decide)

/-! ## Records -/

def Role.text : Role → String
  | handoff => "handoff"
  | recovery => "recovery"
  | task => "task"

def skip_record (job : Job) (now : FloatText) (status reason : String) (extra : List (String × Value)) :
    Dict :=
  extend (Dict.ofList [("type", .str "live_candidate_skip"), ("observed_at", time now),
    ("agent_id", .str job.agent_id), ("session_id", .str job.session_id),
    ("session_key", .str job.session_key), ("kind", .str job.kind), ("status", .str status),
    ("reason", .str reason), ("action", .str "OBSERVE_ONLY")] (by simp)) extra

def LatestRun.dict (run : LatestRun) : Dict :=
  Dict.ofList [("available", .bool run.available), ("run_id", .ofOption .str run.run_id),
    ("terminal", .bool run.terminal), ("active", .bool run.active),
    ("control_only", .bool run.control_only), ("prompt", .str run.prompt),
    ("status", .ofOption .str run.status)] (by simp)

def Scope.dict (scope : Scope) : Dict :=
  Dict.ofList [("production", .bool scope.production), ("destructive", .bool scope.destructive),
    ("external_send", .bool scope.external_send), ("unknown", .bool scope.unknown),
    ("protected_session_key", .bool scope.protected_session_key),
    ("risk_matches", .strs scope.risk_matches),
    ("auto_recovery_allowed", .bool scope.auto_recovery_allowed)] (by simp)

def terminal_skip (job : Job) : Dict :=
  Dict.ofList [("status", .str "TERMINAL_SKIP"), ("agent_id", .str job.agent_id),
    ("session_id", .str job.session_id), ("action", .str "OBSERVE_ONLY")] (by simp)

/-- The record of a decision, before there is an action. -/
def decision_record (job : Job) (now : FloatText) (snapshot : Snapshot) (d : Decision) : Dict :=
  Dict.ofList [("type", .str "live_jev_decision"), ("observed_at", time now),
    ("agent_id", .str job.agent_id), ("session_id", .str job.session_id),
    ("session_key", .str job.session_key), ("session_role", .str (session_role job.session_key).text),
    ("kind", .str job.kind), ("state_digest", .str snapshot.state_digest),
    ("stable_state_digest", .str snapshot.stable_state_digest), ("choice", .str d.choice),
    ("confidence", confidence_value d),
    ("probabilities", .ofDict (extend .empty (d.probabilities.map fun p => (p.1, time p.2)))),
    ("auto_recovery_allowed", .bool snapshot.scope.auto_recovery_allowed),
    ("risk", .ofDict snapshot.scope.dict)] (by simp)

/-- `dispatch.get(k)` -/
def member (row : Dict) (k : String) : Value := (row.value? k).getD .null

/-- The outcome of a nudge that a call has found pending. -/
def pending_outcome (job : Job) (now : FloatText) (dispatch : Dict) (current : Metrics) (status : String)
    (extra : List (String × Value)) : Dict :=
  extend (extend (Dict.ofList [("type", .str "live_nudge_outcome")] (Nudge.nodup_type _))
    (nudge_fields job now (member dispatch "stable_state_digest") (member dispatch "dispatch_id")))
    ([("status", .str status), ("same_session", .bool true),
      ("baseline", .ofDict (baseline_of dispatch)), ("current", .ofDict current.dict)] ++ extra)

def nudge_pending (job : Job) (age : Value) : Dict :=
  Dict.ofList [("status", .str "NUDGE_PENDING"), ("agent_id", .str job.agent_id),
    ("session_id", .str job.session_id), ("choice", .str "NUDGE"),
    ("action", .str "NUDGE_INFLIGHT_OBSERVE"), ("nudge_age_seconds", age)] (by simp)

/-! ## Calls -/

/-- A decision, and the record of it so far. -/
structure Judgment where
  ctx : Context
  snapshot : Snapshot
  decision : Decision
  record : Dict

/-- Where a call stands. -/
inductive CallStage where
  | observing
  | pending (ctx : Context) (snapshot : Snapshot)
  | holding (ctx : Context) (snapshot : Snapshot) (dispatch : Dict)
  | settling (ctx : Context) (snapshot : Snapshot) (record : Dict)
  | judging (ctx : Context) (snapshot : Snapshot)
  | guarding (j : Judgment)
  | comparing (j : Judgment)
  | dispatching (j : Judgment) (read : List Dict)
  | scanning (j : Judgment)
  | confirming (j : Judgment) (read : List Dict)
  | starting (j : Judgment) (read : List Dict)
  | claiming (j : Judgment) (read : List Dict)
  | resetting (record : Option Dict) (result : Dict)
  | appending (record result : Dict)

structure Call where
  job : Job
  stage : CallStage

inductive CallAnswer where
  | go (now : FloatText)
  | observed (seen : Observation) (now : FloatText)
  | judged (decision : Decision) (now : FloatText)
  | confirmed (enabled : Bool) (now : FloatText)
  | dispatched (dispatch_id : String) (now : FloatText)
  | raised (error : LiveError)

/-- What a step does to what is shared, the session being that of the call. -/
inductive Effect where
  | none
  | append (record : Dict)
  | reset
  | confirm (entry : Confirmation)
  | claim (recovery : Recovery)
  | dispatch (record : Dict) (nudge : Nudge)

/-- The call goes on, or returns or raises. -/
inductive Next where
  | more (stage : CallStage)
  | done (result : Except LiveError Dict)

abbrev Outcome := Effect × Next

def Judgment.acts (j : Judgment) (action : String) (extra : List (String × Value)) : Dict :=
  (extend j.record extra).set "action" (.str action)

/-- The record is appended and returned. -/
def Judgment.close (j : Judgment) (action : String) (extra : List (String × Value)) : CallStage :=
  .appending (j.acts action extra) (j.acts action extra)

/-- The same, after `_reset_salvage_confirmation`. -/
def Judgment.clear (j : Judgment) (action : String) (extra : List (String × Value)) : CallStage :=
  .resetting (some (j.acts action extra)) (j.acts action extra)

def deferred (reason : String) : List (String × Value) :=
  [("auto_recovery_deferred", .bool true), ("defer_reason", .str reason)]

namespace Call

/-- From the start to the question whether a nudge is pending. -/
def observe (cfg : Config) (c : Call) : CallAnswer → Option Outcome
  | .go now =>
    if session_role c.job.session_key = .handoff then
      let record := skip_record c.job now "CONTROL_SESSION_SKIP" "jev_handoff_session" []
      some (.none, .more (.resetting (some record) record))
    else none
  | .observed seen now =>
    if session_role c.job.session_key = .handoff then none
    else
      match make_snapshot cfg seen with
      | .error e => some (.none, .done (.error e))
      | .ok (ctx, snapshot) =>
        let age := session_age_seconds cfg.floats ctx now
        if terminal_status cfg ctx then
          some (.none, .more (.resetting none (terminal_skip c.job)))
        else if age.any (cfg.floats.lt · GENERAL_RECOVERY_GRACE_SECONDS) then
          let record := skip_record c.job now "GRACE_PERIOD" "session_under_5m"
            [("session_age_seconds", .ofOption time (age.map cfg.floats.round))]
          some (.none, .more (.resetting (some record) record))
        else
          match source_task_active cfg ctx with
          | (false, reason) =>
            let record := skip_record c.job now "NO_ACTIVE_TASK" reason
              [("latest_run", .ofDict ctx.latest_run.dict)]
            some (.none, .more (.resetting (some record) record))
          | (true, _) => some (.none, .more (.pending ctx snapshot))
  | _ => none

/-- `_pending_nudge_observation`, up to its question for the threads of nudges. -/
def await (cfg : Config) (w : Shared) (c : Call) (ctx : Context) (snapshot : Snapshot) (now : FloatText) :
    Outcome :=
  match latest_nudge_state w.records c.job.session_id with
  | .error e => (.none, .done (.error e))
  | .ok (none, _) | .ok (some _, some _) => (.none, .more (.judging ctx snapshot))
  | .ok (some dispatch, none) =>
    let current := nudge_metrics (some snapshot.trace)
    match nudge_worker_activity cfg (baseline_of dispatch) current.dict "" with
    | .error e => (.none, .done (.error e))
    | .ok [] => (.none, .more (.holding ctx snapshot dispatch))
    | .ok reasons =>
      let row := pending_outcome c.job now dispatch current "NUDGE_RECOVERED"
        [("activity_reasons", .strs reasons)]
      (.none, .more (.appending row (extend row
        [("choice", .str "CONTINUE"), ("action", .str "NUDGE_RECOVERED")])))

/-- The rest of it: the nudge is still pending, or has been given up. -/
def hold (cfg : Config) (w : Shared) (c : Call) (ctx : Context) (snapshot : Snapshot) (dispatch : Dict)
    (now : FloatText) : Outcome :=
  let F := cfg.floats
  let observed_at := (number F (dispatch.get? "observed_at")).getD (F.ofInt 0)
  let age := F.max (F.ofInt 0) (F.sub now observed_at)
  if c.job.session_id ∈ w.nudge_inflight ∨ F.lt age NUDGE_RESTART_HOLD_SECONDS then
    (.none, .done (.ok (nudge_pending c.job (time (F.round age)))))
  else
    (.none, .more (.settling ctx snapshot (pending_outcome c.job now dispatch
      (nudge_metrics (some snapshot.trace)) "NUDGE_NO_ACTIVITY"
      [("reason", .str "restart_hold_expired_without_worker_activity")])))

/-- What the choice of the judge leads to. -/
def judge (cfg : Config) (c : Call) (ctx : Context) (snapshot : Snapshot) (d : Decision)
    (now : FloatText) : Outcome :=
  let j : Judgment := ⟨ctx, snapshot, d, decision_record c.job now snapshot d⟩
  if d.choice ≠ "SALVAGE" then
    (.reset, .more
      (if d.choice = "DEAD" then j.close "ESCALATE_MAIN" []
      else if d.choice = "NUDGE" then .guarding j
      else j.close "OBSERVE_ONLY" []))
  else
    let (confident, reason, margin) := salvage_is_confident cfg.floats d
    let j := { j with record := j.record.set "salvage_margin" (.ofOption time margin) }
    (.none, .more
      (if !confident then j.clear "SALVAGE_DEFERRED_RECHECK" (deferred reason)
      else if session_role c.job.session_key = .recovery then
        j.clear "RECOVERY_GENERATION_LIMIT" [("recovery_generation_limit", .int 1)]
      else if cfg.lower c.job.agent_id = "main" then j.clear "ESCALATE_MAIN" []
      else if !runtime_recovery_safe cfg ctx then j.clear "SALVAGE_BLOCKED_NO_RUNTIME_EVIDENCE" []
      else if !snapshot.scope.auto_recovery_allowed then j.clear "SALVAGE_BLOCKED_BY_SCOPE" []
      else .scanning j))

/-- The checks of `_nudge_guard`. -/
def guard (cfg : Config) (w : Shared) (c : Call) (j : Judgment) : Outcome :=
  match recovery_attempt_exists w.records c.job.session_id with
  | .error e => (.none, .done (.error e))
  | .ok attempted =>
    match nudge_checks cfg c.job j.ctx j.snapshot attempted with
    | some reason =>
      (.none, .more (j.close "NUDGE_BLOCKED_OBSERVE_ONLY" [("nudge_guard_reason", .str reason)]))
    | none => (.none, .more (.comparing j))

/-- The rest of `_nudge_guard`. -/
def compare (cfg : Config) (w : Shared) (c : Call) (j : Judgment) : Outcome :=
  match latest_nudge_state w.records c.job.session_id with
  | .error e => (.none, .done (.error e))
  | .ok (prior, _) =>
    match nudge_prior cfg (nudge_metrics (some j.snapshot.trace)) j.snapshot.stable_state_digest prior with
    | .error e => (.none, .done (.error e))
    | .ok (some reason) =>
      (.none, .more (j.close "NUDGE_BLOCKED_OBSERVE_ONLY" [("nudge_guard_reason", .str reason)]))
    | .ok none =>
      let j := { j with record := j.record.set "nudge_guard_reason" (.str "nudge_guard_pass") }
      (.none, .more (.dispatching j w.records))

/-- The dispatch of a nudge, under the lock. -/
def dispatch (w : Shared) (c : Call) (j : Judgment) (dispatch_id : String) (now : FloatText) : Outcome :=
  let baseline := nudge_metrics (some j.snapshot.trace)
  let digest := j.snapshot.stable_state_digest
  if c.job.session_id ∈ w.nudge_inflight then (.none, .more (j.close "NUDGE_INFLIGHT_OBSERVE" []))
  else
    (.dispatch (dispatch_record c.job now digest dispatch_id baseline)
      ⟨c.job, digest, dispatch_id, baseline, false⟩,
      .more (j.close "NUDGE_DISPATCHED" [("nudge_dispatch_id", .str dispatch_id)]))

/-- `_recovery_attempt_exists`, and whether the candidate is one of the supervisor's. -/
def scan (w : Shared) (c : Call) (j : Judgment) : Outcome :=
  match recovery_attempt_exists w.records c.job.session_id with
  | .error e => (.none, .done (.error e))
  | .ok true => (.none, .more (j.clear "RECOVERY_ATTEMPT_EXISTS" []))
  | .ok false =>
    (.none, .more
      (if !is_periodic_supervisor_candidate c.job then
        j.clear "EVENT_EVIDENCE_ONLY" (deferred "single_entry_periodic_supervisor_only")
      else .confirming j w.records))

/-- `_confirm_salvage`. -/
def confirm (cfg : Config) (w : Shared) (c : Call) (j : Judgment) (read : List Dict) (enabled : Bool)
    (now : FloatText) : Outcome :=
  let entry := confirm_salvage cfg.floats (w.confirmations c.job.session_id)
    j.snapshot.stable_state_digest now
  let record := extend j.record
    [("salvage_confirmation_count", .int entry.count),
      ("salvage_confirmation_required", .int AUTO_RECOVERY_CONFIRMATIONS)]
  let j := { j with record := record }
  (.confirm entry, .more
    (if entry.count < AUTO_RECOVERY_CONFIRMATIONS then
      j.close "SALVAGE_DEFERRED_RECHECK" (deferred "confirmation_required")
    else if enabled then .starting j read
    else
      j.close "RECOVERY_READY_OBSERVE_ONLY"
        [("auto_recovery_execution_enabled", .bool false), ("recovery_ready", .bool true)]))

/-- The thread that is started for a decision. -/
def recovery (c : Call) (j : Judgment) : Recovery where
  job := c.job
  ctx := { j.ctx with session_key := c.job.session_key }
  snapshot := j.snapshot
  decision := j.decision
  rejudged := false
  file := none
  window_key := j.ctx.session_key
  stage := .precheck
  aborted := none
  restarted := false
  outcome := none

/-- The start of a recovery, under the lock. -/
def claim (w : Shared) (c : Call) (j : Judgment) : Outcome :=
  if c.job.session_id ∈ w.inflight then (.none, .more (j.close "RECOVERY_INFLIGHT" []))
  else (.claim (c.recovery j), .more (j.close "RECOVERY_STARTED" []))

/-- One step of the call. An exception may come up at any place. -/
def step (cfg : Config) (w : Shared) (c : Call) (answer : CallAnswer) : Option Outcome :=
  match c.stage, answer with
  | _, .raised e => some (.none, .done (.error e))
  | .observing, answer => c.observe cfg answer
  | .pending ctx snapshot, .go now => some (c.await cfg w ctx snapshot now)
  | .holding ctx snapshot dispatch, .go now => some (c.hold cfg w ctx snapshot dispatch now)
  | .settling ctx snapshot record, .go _ => some (.append record, .more (.judging ctx snapshot))
  | .judging ctx snapshot, .judged d now => some (c.judge cfg ctx snapshot d now)
  | .guarding j, .go _ => some (c.guard cfg w j)
  | .comparing j, .go _ => some (c.compare cfg w j)
  | .dispatching j _, .dispatched dispatch_id now => some (c.dispatch w j dispatch_id now)
  | .scanning j, .go _ => some (c.scan w j)
  | .confirming j read, .confirmed enabled now => some (c.confirm cfg w j read enabled now)
  | .starting j read, .go _ => some (.reset, .more (.claiming j read))
  | .claiming j _, .go _ => some (c.claim w j)
  | .resetting record result, .go _ =>
    some (.reset,
      match record with
      | some record => .more (.appending record result)
      | none => .done (.ok result))
  | .appending record result, .go _ => some (.append record, .done (.ok result))
  | _, _ => none

end Call

end JevLive

end Plachem
