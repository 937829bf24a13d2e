import PlachemMonitor.JevLive.Handoff

/-!
# A recovery

`_recover_live`, in the steps between which other threads may run: each step takes an answer of the
outside and appends at most one record. `aborted`, `restarted` and `outcome` are a history that no step
reads.
-/

namespace Plachem

namespace JevLive

/-! ## Records -/

/-- Members after those of the display. -/
def extend (d : Dict) (extra : List (String × Value)) : Dict := extra.foldl (fun d m => d.set m.1 m.2) d

def time (now : FloatText) : Value := .float now

/-- `_append_recovery_phase` -/
def phase_record (job : Job) (now : FloatText) (phase status : String)
    (extra : List (String × Value)) : Dict :=
  extend (Dict.ofList [("type", .str "live_recovery_phase"), ("observed_at", time now),
    ("source_session_id", .str job.session_id), ("agent_id", .str job.agent_id),
    ("phase", .str phase), ("status", .str status)] (by simp)) extra

def outcome_record (job : Job) (now : FloatText) (status : String)
    (extra : List (String × Value)) : Dict :=
  extend (Dict.ofList [("type", .str "live_recovery_outcome"), ("observed_at", time now),
    ("source_session_id", .str job.session_id), ("agent_id", .str job.agent_id),
    ("status", .str status)] (by simp)) extra

def confidence_value (d : Decision) : Value := .ofOption time d.confidence

def recheck_record (job : Job) (now : FloatText) (d : Decision) (snapshot : Snapshot) : Dict :=
  Dict.ofList [("type", .str "live_stale_recheck"), ("observed_at", time now),
    ("source_session_id", .str job.session_id), ("agent_id", .str job.agent_id),
    ("choice", .str d.choice), ("confidence", confidence_value d),
    ("stable_state_digest", .str snapshot.stable_state_digest)] (by simp)

/-- The row is a phase of the session with the key of its recovery session. -/
def target_row (session_id : String) (row : Dict) : Option String :=
  if row.get? "type" = some (.str "live_recovery_phase") ∧
      row.get? "source_session_id" = some (.str session_id) ∧
      row.get? "phase" = some (.str "C_RESTART") then
    match row.get? "target_session_key" with
    | some (.str key) => if key = "" then none else some key
    | _ => none
  else none

def target_scan (session_id : String) : List Value → Except LiveError (Option String)
  | [] => .ok none
  | row :: rows =>
    match row.dict? with
    | none => .error .attribute
    | some row =>
      match target_row session_id row with
      | some key => .ok (some key)
      | none => target_scan session_id rows

/-- `_latest_target_key` -/
def latest_target_key (records : List Dict) (session_id : String) : Except LiveError (Option String) :=
  target_scan session_id (rows 1000 records).reverse

/-! ## The thread -/

/-- What comes back from `sessions.abort`. -/
inductive Reply where
  | result (data : Dict)
  /-- An exception that `_abort_session` answers with `False`. -/
  | lost
  | raised (error : LiveError)

/-- What `_abort_session` returns. -/
def Reply.confirmed : Reply → Bool
  | .result data =>
    data.get? "status" == some (.str "aborted") || (data.get? "abortedRunId").any Json.truthy ||
      data.get? "aborted" == some (.bool true)
  | .lost | .raised _ => false

/-- An abort that was sent for a run. -/
structure Abort where
  run_id : String
  /-- What was read just before it, and the context that this was taken for. -/
  reads : Except LiveError Reads
  fresh : Context
  reply : Reply
  /-- The run was ended by it. -/
  effective : Bool
  /-- The context that was read after it, where the reply did not confirm it. -/
  after : Option Context

/-- What `_agent_turn` returns. -/
structure Turn where
  text : String
  session_id : Option String

/-- Where a recovery stands. -/
inductive Stage where
  | precheck
  | rejudging (ctx : Context) (snapshot : Snapshot)
  | checked
  | handoff (path : String)
  | writing (path : String)
  | terminate (path : String)
  | reading (path : String)
  | aborting (path : String) (reads : Except LiveError Reads) (fresh : Context) (run_id : String)
  | unconfirmed (path : String)
  | restart (path : String)
  | turning (path target_key : String)
  | acking (path target_key : String) (turn : Turn)
  | completing (path target_key : String) (turn : Turn)
  | closing (phase status : String) (extra : List (String × Value))
  | failing (phase error detail : String)
  | finishing

structure Recovery where
  job : Job
  ctx : Context
  snapshot : Snapshot
  decision : Decision
  /-- The decision is that of the second look. -/
  rejudged : Bool
  /-- The content of `RECOVERY_HANDOFF.md`, once its place is known. -/
  file : Option (List Char)
  /-- The key of the session in `session_windows`, when its snapshot was judged. -/
  window_key : String
  stage : Stage
  aborted : Option Abort
  restarted : Bool
  outcome : Option String

/-- `current_phase` -/
def Stage.phase : Stage → String
  | precheck | rejudging .. | checked => "PRECHECK"
  | handoff _ | writing _ => "A_HANDOFF"
  | terminate _ | reading _ | aborting .. | unconfirmed _ => "B_TERMINATE"
  | restart _ | turning .. | acking .. | completing .. => "C_RESTART"
  | closing phase .. | failing phase .. => phase
  | finishing => "E_COMPLETE"

/-- The answers of the outside to a step. -/
inductive Answer where
  | go (now : FloatText)
  | observed (seen : Observation)
  | judged (decision : Decision) (now : FloatText)
  | workspace (path : String) (file : Option (List Char))
  | context (reads : Except LiveError Reads) (now : FloatText)
  | sent (reply : Reply) (effective : Bool) (now : FloatText)
  | turned (turn : Turn) (now : FloatText)
  | raised (error : LiveError)

/-- The name of the class and the text of an exception. -/
def LiveError.describe : LiveError → String × String
  | .runtime message => ("RuntimeError", message)
  | .value message => ("ValueError", message)
  | .attribute => ("AttributeError", "")
  | .type => ("TypeError", "")

namespace Recovery

/-- What a step leaves: the record that it appends, and the recovery, unless it is over. -/
abbrev Step := Option Dict × Option Recovery

def goto (r : Recovery) (stage : Stage) : Step := (none, some { r with stage := stage })

def log (r : Recovery) (record : Dict) (stage : Stage) : Step := (some record, some { r with stage := stage })

/-- An exception: `except Exception` is next. -/
def fail (r : Recovery) (error : LiveError) : Step :=
  r.goto (.failing r.stage.phase error.describe.1 (String.ofList (error.describe.2.toList.take 240)))

def phase (r : Recovery) (now : FloatText) (phase status : String) (extra : List (String × Value)) : Dict :=
  phase_record r.job now phase status extra

/-- From the start to the handoff. -/
def check (cfg : Config) (r : Recovery) : Answer → Option Step
  | .observed seen =>
    match r.stage with
    | .precheck =>
      match make_snapshot cfg seen with
      | .error e => some (r.fail e)
      | .ok (ctx, snapshot) =>
        if snapshot.stable_state_digest = r.snapshot.stable_state_digest then some (r.goto .checked)
        else some (r.goto (.rejudging ctx snapshot))
    | _ => none
  | .judged decision now =>
    match r.stage with
    | .rejudging ctx snapshot =>
      let record := recheck_record r.job now decision snapshot
      if decision.choice ≠ "SALVAGE" ∨ !snapshot.scope.auto_recovery_allowed then
        some (r.log record
          (.closing "PRECHECK" "STALE_REEVALUATED_NO_ACTION" [("fresh_choice", .str decision.choice)]))
      else
        some (some record, some
          { r with
            stage := .checked
            window_key := ctx.session_key
            snapshot := snapshot
            ctx := { ctx with session_key := r.job.session_key }
            decision := decision
            rejudged := true })
    | _ => none
  | .workspace path file =>
    match r.stage with
    | .checked =>
      match source_task_active cfg r.ctx with
      | (true, _) => some ({ r with file := file }.goto (.handoff path))
      | (false, reason) =>
        some (r.goto (.closing "PRECHECK" "STALE_REEVALUATED_NO_ACTION"
          [("fresh_choice", .str r.decision.choice), ("reason", .str reason)]))
    | _ => none
  | _ => none

/-- Phase A: `_write_code_handoff`. -/
def prepare (cfg : Config) (r : Recovery) : Answer → Option Step
  | .go now =>
    match r.stage with
    | .handoff path =>
      if r.file.any validate then
        some (r.log (r.phase now "A_HANDOFF" "REUSED"
          [("handoff_path", .str path), ("writer", .str "code")]) (.terminate path))
      else
        some (r.log (r.phase now "A_HANDOFF" "STARTED"
          [("handoff_path", .str path), ("writer", .str "code")]) (.writing path))
    | _ => none
  | .context reads now =>
    match r.stage with
    | .writing path =>
      let write (source : Option Context) : Step :=
        let content := (handoff_content cfg r.job source now).toList
        if validate content then
          { r with file := some content }.log (r.phase now "A_HANDOFF" "COMPLETE"
            [("handoff_path", .str path), ("writer", .str "code")]) (.terminate path)
        else r.fail (.value "RECOVERY_HANDOFF.md missing required non-empty sections")
      match session_context cfg reads with
      | .ok source => some (write (some source))
      | .error (.runtime _) => some (write none)
      | .error e => some (r.fail e)
    | _ => none
  | _ => none

/-- What comes after phase B without a restart. -/
def unrestarted (r : Recovery) (path : String) (abort_attempted : Bool) : Stage :=
  .closing "B_TERMINATE" "STALE_REEVALUATED_NO_ACTION"
    [("source_session_key", .str r.job.session_key), ("jev_choice", .str r.decision.choice),
      ("jev_confidence", confidence_value r.decision), ("handoff_path", .str path),
      ("handoff_valid", .bool true), ("abort_attempted", .bool abort_attempted),
      ("abort_confirmed", .bool false), ("reason", .str "source_finished_before_confirmed_abort")]

/-- Phase B: `_phase_b_terminate_source`. -/
def terminate (cfg : Config) (r : Recovery) : Answer → Option Step
  | .go now =>
    match r.stage with
    | .terminate path => some (r.log (r.phase now "B_TERMINATE" "STARTED" []) (.reading path))
    | _ => none
  | .context reads now =>
    match r.stage with
    | .reading path =>
      match session_context cfg reads with
      | .error e => some (r.fail e)
      | .ok fresh =>
        match source_task_active cfg fresh with
        | (false, reason) =>
          some (r.log (r.phase now "B_TERMINATE" "SKIPPED_NO_ACTIVE_TASK"
            [("reason", .str reason), ("abort_attempted", .bool false),
              ("abort_confirmed", .bool false)]) (r.unrestarted path false))
        | (true, _) =>
          match fresh.run_id.filter (· ≠ "") with
          | none => some (r.fail (.runtime "SOURCE_RUN_ID_MISSING"))
          | some run_id => some (r.goto (.aborting path reads fresh run_id))
    | .unconfirmed path =>
      match session_context cfg reads with
      | .error e => some (r.fail e)
      | .ok after =>
        let r := { r with aborted := r.aborted.map fun (a : Abort) => { a with after := some after } }
        match source_task_active cfg after with
        | (true, _) => some (r.fail (.runtime "SOURCE_ABORT_FAILED"))
        | (false, reason) =>
          some (r.log (r.phase now "B_TERMINATE" "SOURCE_TERMINATED_ABORT_UNCONFIRMED"
            [("reason", .str reason), ("abort_attempted", .bool true),
              ("abort_confirmed", .bool false)]) (r.unrestarted path true))
    | _ => none
  | .sent reply effective now =>
    match r.stage with
    | .aborting path reads fresh run_id =>
      let r := { r with aborted := some ⟨run_id, reads, fresh, reply, effective, none⟩ }
      match reply with
      | .raised e => some (r.fail e)
      | _ =>
        if reply.confirmed then
          some (r.log (r.phase now "B_TERMINATE" "COMPLETE"
            [("abort_attempted", .bool true), ("abort_confirmed", .bool true)]) (.restart path))
        else some (r.goto (.unconfirmed path))
    | _ => none
  | _ => none

/-- `final_status` -/
def final_status (turn : Turn) : String :=
  if contains turn.text "RECOVERY_COMPLETE" then "RECOVERY_COMPLETE"
  else if contains turn.text "RECOVERY_BLOCKED" then "RECOVERY_BLOCKED"
  else "RECOVERY_UNVERIFIED"

/-- Phases C to E: `_phase_c_restart_and_resume`. -/
def resume (records : List Dict) (r : Recovery) : Answer → Option Step
  | .go now =>
    match r.stage with
    | .restart path =>
      match latest_target_key records r.job.session_id with
      | .error e => some (r.fail e)
      | .ok key =>
        let target_key := key.getD
          ("agent:" ++ r.job.agent_id ++ ":jev-recovery:" ++ r.job.session_id)
        some ({ r with restarted := true }.log (r.phase now "C_RESTART" "STARTED"
          [("target_session_key", .str target_key)]) (.turning path target_key))
    | .acking path target_key turn =>
      some (r.log (r.phase now "D_ACK" "IMPLICIT_BY_RECOVERY_TURN"
        [("target_session_key", .str target_key),
          ("target_session_id", .ofOption .str turn.session_id)]) (.completing path target_key turn))
    | .completing path target_key turn =>
      some (r.log (r.phase now "E_COMPLETE" (final_status turn)
        [("target_session_key", .str target_key),
          ("target_session_id", .ofOption .str turn.session_id)])
        (.closing "E_COMPLETE" (final_status turn)
          [("source_session_key", .str r.job.session_key),
            ("target_session_id", .ofOption .str turn.session_id),
            ("target_session_key", .str target_key), ("jev_choice", .str r.decision.choice),
            ("jev_confidence", confidence_value r.decision), ("handoff_path", .str path),
            ("handoff_valid", .bool true), ("handoff_ack", .bool true),
            ("abort_attempted", .bool true), ("abort_confirmed", .bool true),
            ("logical_close", .bool true), ("force_kill", .bool false), ("delete", .bool false),
            ("target_reply", .str (String.ofList (turn.text.toList.take 2000)))]))
    | _ => none
  | .turned turn now =>
    match r.stage with
    | .turning path target_key =>
      some (r.log (r.phase now "C_RESTART" "COMPLETE"
        [("target_session_key", .str target_key),
          ("target_session_id", .ofOption .str turn.session_id)]) (.acking path target_key turn))
    | _ => none
  | _ => none

/-- The outcome, and the end. -/
def finish (r : Recovery) : Answer → Option Step
  | .go now =>
    match r.stage with
    | .closing _ status extra =>
      some ({ r with outcome := some status }.log (outcome_record r.job now status extra) .finishing)
    | .failing phase error detail =>
      some ({ r with outcome := some "RECOVERY_ERROR" }.log (outcome_record r.job now "RECOVERY_ERROR"
        [("phase", .str phase), ("error", .str error), ("error_detail", .str detail)]) .finishing)
    | .finishing => some (none, none)
    | _ => none
  | _ => none

/-- The body of the `try` is still running. -/
def guarded : Stage → Bool
  | .failing .. | .finishing => false
  | _ => true

/-- One step of `_recover_live`. At any place in the `try` an exception may come up. -/
def step (cfg : Config) (records : List Dict) (r : Recovery) (answer : Answer) : Option Step :=
  match answer with
  | .raised e => if guarded r.stage then some (r.fail e) else none
  | _ =>
    (r.check cfg answer).or ((r.prepare cfg answer).or ((r.terminate cfg answer).or
      ((r.resume records answer).or (r.finish answer))))

end Recovery

end JevLive

end Plachem
