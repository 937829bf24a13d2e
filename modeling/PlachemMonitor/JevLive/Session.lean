import Mathlib.Data.List.Infix
import PlachemMonitor.JevLive.History

/-!
# What live recovery sees of a session

`_session_context` and `_make_snapshot` on what their queries return, and the predicates on a context
that decide whether a session may be touched. The parts of the transcript and of its trace that they use
are arguments, and so are the digests of the facts; `Config` has the functions of Python and the risk
patterns that are not computed here.
-/

namespace Plachem

namespace JevLive

/-! ## Parameters -/

/-- The arithmetic of floats, which are named by their texts. -/
structure Floats where
  add : FloatText → FloatText → FloatText
  sub : FloatText → FloatText → FloatText
  div : FloatText → FloatText → FloatText
  lt : FloatText → FloatText → Bool
  le : FloatText → FloatText → Bool
  /-- `round(x, 1)` -/
  round : FloatText → FloatText
  ofInt : Int → FloatText

/-- `max(a, b)` -/
def Floats.max (F : Floats) (a b : FloatText) : FloatText := if F.lt a b then b else a

structure Config where
  floats : Floats
  /-- `str` of a value that is no text. -/
  str : Json → String
  /-- `int` of a value that is no integer, and not false. -/
  int : Json → Except LiveError Int
  lower : String → String
  upper : String → String
  /-- The patterns of `_RISK_PATTERNS` that are found in the text, its negated phrases masked. -/
  risk_matches : String → List String
  destructive : String → Bool
  external_send : String → Bool
  /-- `re.sub(r"\s+", " ", text).strip()` -/
  collapse : String → String

/-- A float that is written like this in the source. -/
def float (text : String) (h : isFractional text.toList = true) : FloatText := ⟨text.toList, .inl h⟩

/-- `str(value or "")` -/
def Config.text (cfg : Config) : Option Json → String
  | some (.str s) => s
  | some v => if v.truthy then cfg.str v else ""
  | none => ""

/-- `int(value or 0)` -/
def Config.count (cfg : Config) : Option Json → Except LiveError Int
  | some (.int n) => .ok n
  | some v => if v.truthy then cfg.int v else .ok 0
  | none => .ok 0

/-- `part in whole` -/
def contains (whole part : String) : Bool := decide (part.toList <:+: whole.toList)

def startswith (s start : String) : Bool := start.toList.isPrefixOf s.toList

def TERMINAL : List String := ["done", "failed", "killed", "timeout", "cancelled", "canceled"]

def HANDOFF_SESSION_TAG : String := ":jev-handoff:"

def RECOVERY_SESSION_TAG : String := ":jev-recovery:"

def NUDGE_PREFIX : String := "JEV SAME-SESSION NUDGE."

def CONTROL_PROMPT_PREFIXES : List String := ["Agent-to-agent announce step.", "JEV RECOVERY MODE."]

/-! ## Runs -/

/-- A row of `trajectory_runtime_events` with its run, and what `json.loads` makes of its event. -/
structure RuntimeEvent where
  run_id : String
  event : Option Json

/-- What `_latest_run_state` returns. -/
structure LatestRun where
  available : Bool
  run_id : Option String
  terminal : Bool
  active : Bool
  control_only : Bool
  prompt : String
  status : Option String
  deriving DecidableEq

/-- What the loop over the events of a run has seen. -/
structure Seen where
  prompt : String
  terminal : Bool
  status : Option String

def see_events (cfg : Config) : List Json → Seen → Except LiveError Seen
  | [], seen => .ok seen
  | .obj event :: events, seen =>
    let etype := cfg.text (Json.getMember event "type")
    let data :=
      match Json.getMember event "data" with
      | some (.obj data) => data
      | _ => []
    let seen :=
      if etype = "prompt.submitted" ∧ seen.prompt = "" then
        { seen with prompt := Text.strip (cfg.text (Json.getMember data "prompt")) }
      else seen
    if etype = "session.ended" then
      .ok { seen with
        terminal := true
        status := some (cfg.lower (cfg.text (Json.getMember data "status"))) |>.filter (· ≠ "") }
    else see_events cfg events seen
  | _ :: _, _ => .error .attribute

/-- `_latest_run_state` on the newest 120 rows, the newest first. -/
def latest_run_state (cfg : Config) (rows : List RuntimeEvent) : Except LiveError LatestRun :=
  match rows with
  | [] => .ok ⟨false, none, false, false, false, "", none⟩
  | row :: _ => do
    let events := (rows.filter fun r => r.run_id == row.run_id).filterMap RuntimeEvent.event
    let seen ← see_events cfg events.reverse ⟨"", false, none⟩
    pure
      { available := true
        run_id := some row.run_id
        terminal := seen.terminal
        active := !seen.terminal
        control_only := CONTROL_PROMPT_PREFIXES.any (startswith seen.prompt)
        prompt := String.ofList (seen.prompt.toList.take 400)
        status := seen.status }

/-! ## Contexts -/

/-- A row of `session_windows`. -/
structure Window where
  session_key : String
  status : String
  started_at : Option Json
  channel : String

/-- What the queries of `_session_context` return, one after the other, and what it takes from the
messages of the transcript. -/
structure Reads where
  window : Option Window
  run_row : Option String
  runtime : List RuntimeEvent
  transcript_run_id : Option String
  latest_user : String
  command_texts : List String
  recent_assistant_texts : List String

structure Context where
  session_key : String
  status : String
  started_at : Option Json
  channel : String
  latest_user : String
  command_texts : List String
  recent_assistant_texts : List String
  latest_run : LatestRun
  run_id : Option String

/-- `_session_context`; a database that cannot be read raises before. -/
def session_context (cfg : Config) (reads : Except LiveError Reads) : Except LiveError Context := do
  let reads ← reads
  match reads.window with
  | none => throw (.runtime "SESSION_WINDOW_NOT_FOUND")
  | some window =>
    let latest_run ← latest_run_state cfg reads.runtime
    pure
      { session_key := window.session_key
        status := window.status
        started_at := window.started_at
        channel := window.channel
        latest_user := String.ofList (reads.latest_user.toList.take 1200)
        command_texts := newest 12 reads.command_texts
        recent_assistant_texts := reads.recent_assistant_texts.take 4
        latest_run := latest_run
        run_id := (reads.run_row.filter (· ≠ "")).or reads.transcript_run_id }

inductive Role where
  | handoff
  | recovery
  | task
  deriving DecidableEq

/-- `_session_role` -/
def session_role (session_key : String) : Role :=
  if contains session_key HANDOFF_SESSION_TAG then .handoff
  else if contains session_key RECOVERY_SESSION_TAG then .recovery
  else .task

def terminal_status (cfg : Config) (ctx : Context) : Bool := decide (cfg.lower ctx.status ∈ TERMINAL)

/-- `_source_task_active` -/
def source_task_active (cfg : Config) (ctx : Context) : Bool × String :=
  if session_role ctx.session_key = .handoff then (false, "control_handoff_session")
  else if terminal_status cfg ctx then (false, "session_terminal:" ++ cfg.lower ctx.status)
  else if !ctx.latest_run.available then (true, "runtime_run_unavailable")
  else if ctx.latest_run.control_only then (false, "control_only_run")
  else if ctx.latest_run.terminal then
    (false, "latest_run_terminal:" ++ ctx.latest_run.status.getD "unknown")
  else if !ctx.latest_run.active then (false, "no_active_runtime_run")
  else (true, "active_task_run")

/-- `_runtime_recovery_safe`, with the snapshot of the same context. -/
def runtime_recovery_safe (cfg : Config) (ctx : Context) : Bool :=
  if ctx.latest_run.available then
    ctx.latest_run.active && !ctx.latest_run.terminal && !ctx.latest_run.control_only
  else (ctx.run_id.filter (· ≠ "")).isSome && !terminal_status cfg ctx

/-- `_session_age_seconds` -/
def session_age_seconds (F : Floats) (ctx : Context) (now : FloatText) : Option FloatText :=
  let started : Option FloatText :=
    match ctx.started_at with
    | some (.int n) => if 0 < n then some (F.ofInt n) else none
    | some (.float t) => if F.lt (F.ofInt 0) t then some t else none
    | _ => none
  started.map fun started =>
    let started := if F.lt (F.ofInt 10000000000) started then F.div started (F.ofInt 1000) else started
    F.max (F.ofInt 0) (F.sub now started)

structure Scope where
  production : Bool
  destructive : Bool
  external_send : Bool
  unknown : Bool
  protected_session_key : Bool
  risk_matches : List String
  auto_recovery_allowed : Bool

def PROTECTED_TAGS : List String :=
  [":telegram:", ":cron:", ":fast-gateway", HANDOFF_SESSION_TAG, RECOVERY_SESSION_TAG]

def EXTERNAL_CHANNELS : List String := ["telegram", "whatsapp", "slack", "email"]

/-- `_risk_scope` -/
def risk_scope (cfg : Config) (ctx : Context) : Scope :=
  let text := "\n".intercalate (ctx.latest_user :: ctx.command_texts)
  let channel := cfg.lower ctx.channel
  let risks := cfg.risk_matches text
  let protected_key := PROTECTED_TAGS.any (contains ctx.session_key)
  let restricted := protected_key || decide (channel ∈ EXTERNAL_CHANNELS) || !risks.isEmpty
  { production := !risks.isEmpty
    destructive := cfg.destructive text
    external_send := decide (channel ∈ EXTERNAL_CHANNELS) || cfg.external_send text
    unknown := false
    protected_session_key := protected_key
    risk_matches := risks.take 8
    auto_recovery_allowed := !restricted && !terminal_status cfg ctx }

/-! ## Snapshots -/

/-- The part of `_read_session_trace` that nudges look at. -/
structure Trace where
  assistant_turns : Int
  tool_call_count : Int
  tool_result_count : Int
  meaningful_result_count : Int
  latest_total_tokens : Option Int
  meaningful_progress_age_sec : Option FloatText
  inflight_tool_calls : Int

/-- A snapshot, with the digests of its facts. -/
structure Snapshot where
  trace : Trace
  scope : Scope
  state_digest : String
  stable_state_digest : String

/-- What `_make_snapshot` reads; no trace means that it is not available. -/
structure Observation where
  reads : Except LiveError Reads
  trace : Option Trace
  state_digest : String
  stable_state_digest : String

/-- `_make_snapshot` -/
def make_snapshot (cfg : Config) (seen : Observation) : Except LiveError (Context × Snapshot) := do
  let ctx ← session_context cfg seen.reads
  match seen.trace with
  | none => throw (.runtime "SESSION_TRACE_UNAVAILABLE")
  | some trace =>
    pure (ctx, ⟨trace, risk_scope cfg ctx, seen.state_digest, seen.stable_state_digest⟩)

/-! ## Decisions -/

/-- What the judge answers. -/
structure Decision where
  choice : String
  confidence : Option FloatText
  probabilities : List (String × FloatText)

def Decision.probability (d : Decision) (k : String) : Option FloatText :=
  (d.probabilities.find? fun p => p.1 == k).map Prod.snd

def AUTO_RECOVERY_MIN_CONFIDENCE : FloatText := float "0.7" (by decide)

def AUTO_RECOVERY_MIN_MARGIN : FloatText := float "0.2" (by decide)

/-- `max(xs)` of a list that is not empty. -/
def Floats.maximum (F : Floats) : List FloatText → Option FloatText
  | [] => none
  | x :: xs => some (xs.foldl F.max x)

def Decision.margin (F : Floats) (d : Decision) : Option FloatText := do
  let salvage ← d.probability "SALVAGE"
  let other ← F.maximum (["WATCH", "CONTINUE", "NUDGE", "DEAD"].filterMap d.probability)
  pure (F.sub salvage other)

/-- `_salvage_is_confident` -/
def salvage_is_confident (F : Floats) (d : Decision) : Bool × String × Option FloatText :=
  if d.confidence.all (F.lt · AUTO_RECOVERY_MIN_CONFIDENCE) then
    (false, "low_confidence", d.margin F)
  else if (d.margin F).any (F.lt · AUTO_RECOVERY_MIN_MARGIN) then (false, "low_margin", d.margin F)
  else (true, "confident", d.margin F)

/-- What is asked about. -/
structure Job where
  agent_id : String
  session_id : String
  session_key : String
  kind : String
  severity : Value
  evidence : Value

/-- `_is_periodic_supervisor_candidate` -/
def is_periodic_supervisor_candidate (job : Job) : Bool :=
  job.kind == "PERIODIC_HEALTH" &&
    match job.evidence.json with
    | .obj evidence => Json.getMember evidence "source" == some (.str "periodic_supervisor")
    | _ => false

end JevLive

end Plachem
