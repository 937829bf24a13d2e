import PlachemMonitor.JevLive.System
import PlachemMonitor.Spec.Pairing
import PlachemMonitor.Text.Partition
import PlachemMonitor.Text.Words

/-!
# The tool calls of a transcript

`_read_session_trace` on the rows of a session, as far as nudges look at what it returns. It reads the
newest 80 rows, and takes as many tool calls for open as there are more of them than terminal results.

* `tool_calls_add_surplus`: a result whose call is not among these rows, or that repeats another one,
  makes up for a call that is open.
* `inflight_reported_iff`: an open call is reported if the calls that wait are more than these results.
-/

namespace Plachem

namespace JevLive

open Pairing

/-! ## The rows -/

structure ToolCall where
  call_id : String
  name : String
  arguments : List (String × Json)

structure ToolResult where
  call_id : String
  name : String
  arguments : List (String × Json)
  is_error : Bool
  status : Option Json
  exit_code : Option Json
  timestamp : Option Json

/-- What the loop over the events has collected. -/
structure Scan where
  tool_calls : List ToolCall
  tool_results : List ToolResult
  assistant_turns : ℕ
  latest_total_tokens : Option Int
  first_activity_ts : Option Int

def Scan.empty : Scan := ⟨[], [], 0, none, none⟩

/-- `value if isinstance(value, dict) else {}` -/
def members : Option Json → List (String × Json)
  | some (.obj ms) => ms
  | _ => []

/-- `value`, if `isinstance(value, list)` -/
def elements : Option Json → List Json
  | some (.arr xs) => xs
  | _ => []

/-- `int(value)`, if `isinstance(value, (int, float))` -/
def Config.whole (cfg : Config) : Option Json → Except LiveError (Option Int)
  | some (.int n) => .ok (some n)
  | some (.bool b) => .ok (some b.toInt)
  | some (.float t) => some <$> cfg.int (.float t)
  | _ => .ok none

/-- `str(value or "unknown")` -/
def Config.nameOf (cfg : Config) (value : Option Json) : String :=
  if value.any Json.truthy then cfg.text value else "unknown"

def is_tool_call (part : List (String × Json)) : Bool :=
  Json.getMember part "type" == some (.str "toolCall")

/-- The parts of a content that are tool calls. -/
def call_parts (message : List (String × Json)) : List (List (String × Json)) :=
  ((elements (Json.getMember message "content")).map fun part => members (some part)).filter is_tool_call

def tool_call (cfg : Config) (part : List (String × Json)) : ToolCall where
  call_id := cfg.text (Json.getMember part "id")
  name := cfg.nameOf (Json.getMember part "name")
  arguments := members (Json.getMember part "arguments")

/-- `call_by_id.get(call_id, {})` -/
def Scan.call_by_id (scan : Scan) (call_id : String) : Option ToolCall :=
  scan.tool_calls.reverse.find? fun call => call.call_id ≠ "" && call.call_id == call_id

def tool_result (cfg : Config) (scan : Scan) (message : List (String × Json)) : ToolResult :=
  let call_id := cfg.text (Json.getMember message "toolCallId")
  let details := members (Json.getMember message "details")
  { call_id := call_id
    name := cfg.nameOf (Json.getMember message "toolName")
    arguments := ((scan.call_by_id call_id).map ToolCall.arguments).getD []
    is_error := (Json.getMember message "isError").any Json.truthy
    status := Json.getMember details "status"
    exit_code := Json.getMember details "exitCode"
    timestamp := Json.getMember message "timestamp" }

def earliest (first ts : Option Int) : Option Int :=
  match first, ts with
  | some a, some b => some (min a b)
  | some a, none => some a
  | none, b => b

/-- The body of the loop, on a message. -/
def see_message (cfg : Config) (scan : Scan) (message : List (String × Json)) : Except LiveError Scan := do
  let timestamp ← cfg.whole (Json.getMember message "timestamp")
  let scan := { scan with first_activity_ts := earliest scan.first_activity_ts timestamp }
  if Json.getMember message "role" = some (.str "assistant") then
    let total ← cfg.whole (Json.getMember (members (Json.getMember message "usage")) "totalTokens")
    pure { scan with
      assistant_turns := scan.assistant_turns + 1
      latest_total_tokens := total.or scan.latest_total_tokens
      tool_calls := scan.tool_calls ++ (call_parts message).map (tool_call cfg) }
  else if Json.getMember message "role" = some (.str "toolResult") then
    pure { scan with tool_results := scan.tool_results ++ [tool_result cfg scan message] }
  else pure scan

/-- The message of an event, if it has one. -/
def message_of : Json → Option (List (String × Json))
  | .obj event =>
    if Json.getMember event "type" = some (.str "message") then
      match Json.getMember event "message" with
      | some (.obj message) => some message
      | _ => none
    else none
  | _ => none

def see_messages (cfg : Config) (scan : Scan) : List (List (String × Json)) → Except LiveError Scan
  | [] => .ok scan
  | message :: messages => do
    let scan ← see_message cfg scan message
    see_messages cfg scan messages

/-! ## Results -/

def NONTERMINAL_STATUSES : List String := ["running", "pending", "in_progress", "accepted"]

def terminal_result_status (cfg : Config) (status : Option Json) : Bool :=
  decide (cfg.lower (cfg.text status) ∉ NONTERMINAL_STATUSES)

def PROBE_PREFIXES : List String :=
  ["ls", "pwd", "stat ", "cat ", "head ", "tail ", "grep ", "find ", "wc ", "git status", "git diff --stat"]

/-- The command of a call to `exec`, less a `cd` before it. -/
def probed_command (cfg : Config) (arguments : List (String × Json)) : String :=
  let words := Text.split (cfg.lower (Text.strip (cfg.text (Json.getMember arguments "command")))).toList
  let command := String.ofList (Text.joined words)
  match Text.cut "&&".toList command.toList with
  | some (_, rest) => if startswith command "cd " then Text.strip (String.ofList rest) else command
  | none => command

/-- `is_state_probe` -/
def is_state_probe (cfg : Config) (item : ToolResult) : Bool :=
  let name := cfg.lower item.name
  if name = "process" then
    decide (cfg.lower (cfg.text (Json.getMember item.arguments "action")) ∈ ["list", "poll", "log"])
  else if name ≠ "exec" then false
  else
    let command := probed_command cfg item.arguments
    -- No prefix begins with whitespace, so that `rstrip` is `strip`.
    PROBE_PREFIXES.any fun start => command == Text.strip start || startswith command start

/-- `isinstance(exit_code, int) and exit_code != 0` -/
def nonzero_exit : Option Json → Bool
  | some (.int n) => n != 0
  | some (.bool b) => b
  | _ => false

def meaningful_result (cfg : Config) (item : ToolResult) : Bool :=
  !is_state_probe cfg item && !(item.name == "exec" && nonzero_exit item.exit_code)

def Scan.terminal_results (cfg : Config) (scan : Scan) : List ToolResult :=
  scan.tool_results.filter fun item => terminal_result_status cfg item.status

/-- What `_read_session_trace` returns of the events that it has looked at. -/
def Scan.trace (cfg : Config) (scan : Scan) (now_ms : Int) : Except LiveError Trace := do
  let terminal_results := scan.terminal_results cfg
  let meaningful_results :=
    (terminal_results.filter fun item => !item.is_error).filter (meaningful_result cfg)
  let timestamps ← meaningful_results.mapM fun item => cfg.whole item.timestamp
  let last_meaningful_ts := timestamps.reduceOption.max?.or scan.first_activity_ts
  pure
    { assistant_turns := scan.assistant_turns
      tool_call_count := scan.tool_calls.length
      tool_result_count := scan.tool_results.length
      meaningful_result_count := meaningful_results.length
      latest_total_tokens := scan.latest_total_tokens
      meaningful_progress_age_sec := last_meaningful_ts.map fun ts =>
        cfg.floats.round (cfg.floats.div (cfg.floats.ofInt (now_ms - ts)) (cfg.floats.ofInt 1000))
      inflight_tool_calls := max 0 (scan.tool_calls.length - (terminal_results.length : Int)) }

/-- The messages of rows, the newest of which comes first. A row that cannot be parsed is none. -/
def messages (rows : List (Option Json)) : List (List (String × Json)) :=
  rows.reverse.reduceOption.filterMap message_of

/-- `_read_session_trace`, of the rows of the session. -/
def read_session_trace (cfg : Config) (rows : List (Option Json)) (now_ms : Int) : Except LiveError Trace := do
  let scan ← see_messages cfg .empty (messages (rows.take 80))
  scan.trace cfg now_ms

/-! ## Open calls -/

/-- A message of the assistant opens its calls, and a terminal result closes the one it names. -/
def marks_of (cfg : Config) (message : List (String × Json)) : List (Pairing.Mark String) :=
  if Json.getMember message "role" = some (.str "assistant") then
    (call_parts message).map fun part => .opened (tool_call cfg part).call_id
  else if Json.getMember message "role" = some (.str "toolResult") ∧
      terminal_result_status cfg (Json.getMember (members (Json.getMember message "details")) "status") then
    [.closed (cfg.text (Json.getMember message "toolCallId"))]
  else []

def marks (cfg : Config) (rows : List (Option Json)) : List (Pairing.Mark String) :=
  (messages rows).flatMap (marks_of cfg)

/-- A tool call of the session has no terminal result yet. -/
def ToolRunning (cfg : Config) (rows : List (Option Json)) : Prop := ∃ call_id, LeftOpen (marks cfg rows) call_id

/-- Among the newest 80 rows, more calls wait for a terminal result than there are terminal results that
no call among them has waited for. -/
def WaitsVisibly (cfg : Config) (rows : List (Option Json)) : Prop :=
  (balance (marks cfg (rows.take 80))).surplus < (balance (marks cfg (rows.take 80))).waiting.length

section Counts

variable {cfg : Config} {scan scan' : Scan} {rows : List (Option Json)} {trace : Trace} {now_ms : Int}

theorem see_message_counts {message : List (String × Json)} (h : see_message cfg scan message = .ok scan') :
    scan'.tool_calls.length = scan.tool_calls.length + (marks_of cfg message).countP isOpened ∧
      (scan'.terminal_results cfg).length =
        (scan.terminal_results cfg).length + (marks_of cfg message).countP isClosed := by
  rw [see_message] at h
  obtain ⟨timestamp, -, h⟩ := bind_eq_ok.mp h
  by_cases hassistant : Json.getMember message "role" = some (.str "assistant")
  · rw [if_pos hassistant] at h
    obtain ⟨total, -, h⟩ := bind_eq_ok.mp h
    obtain rfl := Except.ok.inj h
    rw [marks_of, if_pos hassistant]
    constructor
    · rw [List.countP_map, List.length_append, List.length_map]
      exact congrArg _ (List.countP_eq_length.mpr fun _ _ => rfl).symm
    · have hclosed : ((call_parts message).countP fun _ => false) = 0 :=
        List.countP_eq_zero.mpr fun _ _ => Bool.false_ne_true
      rw [List.countP_map]
      exact (congrArg ((scan.terminal_results cfg).length + ·) hclosed).symm
  · rw [if_neg hassistant] at h
    rw [marks_of, if_neg hassistant]
    by_cases hresult : Json.getMember message "role" = some (.str "toolResult")
    · rw [if_pos hresult] at h
      obtain rfl := Except.ok.inj h
      generalize hseen : { scan with first_activity_ts := earliest scan.first_activity_ts timestamp } = seen
      have hitem : terminal_result_status cfg (tool_result cfg seen message).status =
        terminal_result_status cfg
          (Json.getMember (members (Json.getMember message "details")) "status") := rfl
      obtain rfl := hseen
      simp only [Scan.terminal_results, List.filter_append, List.length_append, hresult, true_and,
        List.filter_cons, hitem, List.filter_nil]
      split <;> exact ⟨rfl, rfl⟩
    · rw [if_neg hresult] at h
      obtain rfl := Except.ok.inj h
      rw [if_neg fun h => hresult h.1]
      exact ⟨rfl, rfl⟩

theorem see_messages_counts {ms : List (List (String × Json))} (h : see_messages cfg scan ms = .ok scan') :
    scan'.tool_calls.length = scan.tool_calls.length + (ms.flatMap (marks_of cfg)).countP isOpened ∧
      (scan'.terminal_results cfg).length =
        (scan.terminal_results cfg).length + (ms.flatMap (marks_of cfg)).countP isClosed := by
  induction ms generalizing scan with
  | nil =>
    obtain rfl := Except.ok.inj h
    exact ⟨rfl, rfl⟩
  | cons message ms ih =>
    obtain ⟨next, hnext, hrest⟩ := bind_eq_ok.mp h
    have hstep := see_message_counts hnext
    have hrun := ih hrest
    rw [List.flatMap_cons, List.countP_append, List.countP_append]
    omega

/-- The difference of the two counts is the one of the calls that wait and the results that are left over. -/
theorem read_session_trace_inflight (h : read_session_trace cfg rows now_ms = .ok trace) :
    trace.inflight_tool_calls = max 0 ((balance (marks cfg (rows.take 80))).waiting.length -
      ((balance (marks cfg (rows.take 80))).surplus : Int)) := by
  obtain ⟨scan, hscan, htrace⟩ := bind_eq_ok.mp h
  obtain ⟨timestamps, -, htrace⟩ := bind_eq_ok.mp htrace
  obtain rfl := Except.ok.inj htrace
  have hcounts := see_messages_counts hscan
  have hbalance := opened_add_surplus (marks cfg (rows.take 80))
  rw [marks] at *
  show max 0 (scan.tool_calls.length - ((scan.terminal_results cfg).length : Int)) = _
  have hcalls : Scan.empty.tool_calls.length = 0 := rfl
  have hresults : (Scan.empty.terminal_results cfg).length = 0 := rfl
  omega

theorem nudge_checks_inflight {job : Job} {ctx : Context} {snapshot : Snapshot} {attempted : Bool}
    (h : nudge_checks cfg job ctx snapshot attempted = none) : snapshot.trace.inflight_tool_calls = 0 := by
  simp only [nudge_checks, Option.map_eq_none_iff, List.find?_eq_none, List.forall_mem_cons] at h
  have hzero := h.2.2.2.1
  simpa [nudge_metrics] using hzero

/-- An open call is reported, and no nudge passes, exactly when it does not happen that as many terminal
results have lost their call, or come again, as calls are open. -/
theorem inflight_reported_iff (h : read_session_trace cfg rows now_ms = .ok trace) :
    (ToolRunning cfg rows →
        1 ≤ trace.inflight_tool_calls ∧
          ∀ job ctx snapshot attempted, snapshot.trace = trace →
            nudge_checks cfg job ctx snapshot attempted ≠ none) ↔
      (ToolRunning cfg rows → WaitsVisibly cfg rows) := by
  have hinflight := read_session_trace_inflight h
  refine forall_congr' fun _ => ?_
  rw [WaitsVisibly]
  constructor
  · rintro ⟨hone, -⟩
    omega
  · intro hvisible
    have hone : 1 ≤ trace.inflight_tool_calls := by omega
    refine ⟨hone, ?_⟩
    rintro job ctx snapshot attempted rfl hnone
    have hzero := nudge_checks_inflight hnone
    omega

/-- As long as each terminal result among the newest rows answers a call among them, a call that is open
among them is reported. -/
theorem inflight_of_no_surplus {call_id : String} (h : read_session_trace cfg rows now_ms = .ok trace)
    (hopen : LeftOpen (marks cfg (rows.take 80)) call_id)
    (hsurplus : (balance (marks cfg (rows.take 80))).surplus = 0) : 1 ≤ trace.inflight_tool_calls := by
  have hinflight := read_session_trace_inflight h
  have hwaits := List.length_pos_of_mem (mem_waiting_of_leftOpen hopen)
  omega

end Counts

/-! ## A call that is overlooked -/

namespace Sample

def ageing : Config := { config with floats := { floats with ofInt := fun _ => later } }

def event (message : List (String × Json)) : Option Json :=
  some (.obj [("type", .str "message"), ("message", .obj message)])

def calls (call_id : String) : Option Json :=
  event [("role", .str "assistant"), ("timestamp", .int 1),
    ("content", .arr [.obj [("type", .str "toolCall"), ("id", .str call_id)]])]

def answers (call_id : String) : Option Json := event [("role", .str "toolResult"), ("toolCallId", .str call_id)]

/-- Of the first call, only the result is among the newest 80 rows. -/
def cut_off : List (Option Json) :=
  calls "call-2" :: (List.replicate 78 (some (.obj [("type", .str "custom")])) ++ [answers "call-1", calls "call-1"])

def candidate : Job where
  agent_id := "erp"
  session_id := "s-1"
  session_key := "agent:erp:task"
  kind := "PERIODIC_HEALTH"
  severity := .null
  evidence := .ofDict (Dict.ofList [("source", .str "periodic_supervisor")] (List.nodup_singleton "source"))

def working : Context where
  session_key := "agent:erp:task"
  status := "running"
  started_at := none
  channel := "web"
  latest_user := "sort the rows"
  command_texts := []
  recent_assistant_texts := []
  latest_run := ⟨true, some "run-1", false, true, false, "sort the rows", none⟩
  run_id := some "run-1"

/-- Whether all checks of a nudge pass. -/
def unguarded (rows : List (Option Json)) : Bool :=
  (read_session_trace ageing rows 0).toOption.any fun trace =>
    nudge_checks ageing candidate working ⟨trace, risk_scope ageing working, "", ""⟩ false == none

end Sample

theorem inflight_reported_sample :
    ∃ trace, read_session_trace Sample.ageing [Sample.calls "call-1"] 0 = .ok trace ∧
      1 ≤ trace.inflight_tool_calls := by
  have hread : (read_session_trace Sample.ageing [Sample.calls "call-1"] 0).toOption.isSome = true := by
    decide +kernel
  cases htrace : read_session_trace Sample.ageing [Sample.calls "call-1"] 0 with
  | error e =>
    rw [htrace] at hread
    cases hread
  | ok trace =>
    have hopen : ToolRunning Sample.ageing [Sample.calls "call-1"] :=
      ⟨"call-1", [], [], by decide +kernel, List.not_mem_nil⟩
    have hvisible : WaitsVisibly Sample.ageing [Sample.calls "call-1"] := by
      unfold WaitsVisibly
      decide +kernel
    exact ⟨trace, rfl, ((inflight_reported_iff htrace).mpr (fun _ => hvisible) hopen).1⟩

/-- The second call is open, the result of the first one makes up for it, and a nudge passes. -/
theorem open_call_overlooked :
    ToolRunning Sample.ageing Sample.cut_off ∧
      ((read_session_trace Sample.ageing Sample.cut_off 0).toOption.map Trace.inflight_tool_calls = some 0) ∧
      Sample.unguarded Sample.cut_off = true :=
  ⟨⟨"call-2", [.opened "call-1", .closed "call-1"], [], by decide +kernel, List.not_mem_nil⟩,
    by decide +kernel, by decide +kernel⟩

end JevLive

end Plachem
