import PlachemMonitor.JevLive.Recover

/-!
# Nudges

What `_nudge_guard` compares, and the thread of a nudge. A nudge's record is written before its thread
starts; the record's baseline is what later calls measure the progress of the worker against.

* `Metrics.Activity`: what counts as progress (`nudge_worker_activity_metrics`).
* `nudge_prior_none`: what the guard has made sure of when it lets a nudge pass.
-/

namespace Plachem

namespace JevLive

/-! ## Metrics -/

structure Metrics where
  assistant_turns : Int
  tool_call_count : Int
  tool_result_count : Int
  meaningful_result_count : Int
  latest_total_tokens : Int
  meaningful_progress_age_sec : Option FloatText
  inflight_tool_calls : Int

/-- `_nudge_metrics`, of a snapshot or of a trace; one that is not available has no members. -/
def nudge_metrics : Option Trace → Metrics
  | some trace =>
    ⟨trace.assistant_turns, trace.tool_call_count, trace.tool_result_count,
      trace.meaningful_result_count, trace.latest_total_tokens.getD 0,
      trace.meaningful_progress_age_sec, trace.inflight_tool_calls⟩
  | none => ⟨0, 0, 0, 0, 0, none, 0⟩

def Metrics.dict (m : Metrics) : Dict :=
  Dict.ofList [("assistant_turns", .int m.assistant_turns), ("tool_call_count", .int m.tool_call_count),
    ("tool_result_count", .int m.tool_result_count),
    ("meaningful_result_count", .int m.meaningful_result_count),
    ("latest_total_tokens", .int m.latest_total_tokens),
    ("meaningful_progress_age_sec", .ofOption time m.meaningful_progress_age_sec),
    ("inflight_tool_calls", .int m.inflight_tool_calls)] (by simp)

/-- The counters that `_nudge_worker_activity` compares. -/
def COUNTERS : List String :=
  ["assistant_turns", "tool_call_count", "tool_result_count", "meaningful_result_count",
    "latest_total_tokens"]

/-- The counters that are larger than in the baseline. -/
def larger (cfg : Config) (baseline current : Dict) : List String → Except LiveError (List String)
  | [] => .ok []
  | key :: keys => do
    let after ← cfg.count (current.get? key)
    let before ← cfg.count (baseline.get? key)
    let rest ← larger cfg baseline current keys
    pure (if before < after then key :: rest else rest)

/-- The number, if `isinstance(value, (int, float))`. -/
def number (F : Floats) : Option Json → Option FloatText
  | some (.int n) => some (F.ofInt n)
  | some (.bool b) => some (F.ofInt b.toInt)
  | some (.float t) => some t
  | _ => none

/-- `after + 5.0 < before` -/
def fresher (F : Floats) (before after : Option FloatText) : Bool :=
  match before, after with
  | some before, some after => F.lt (F.add after (float "5.0" (by decide))) before
  | _, _ => false

/-- The reasons that `_nudge_worker_activity` returns. -/
def nudge_worker_activity (cfg : Config) (baseline current : Dict) (assistant_reply : String) :
    Except LiveError (List String) := do
  let reasons ← larger cfg baseline current COUNTERS
  let age :=
    if fresher cfg.floats (number cfg.floats (baseline.get? "meaningful_progress_age_sec"))
        (number cfg.floats (current.get? "meaningful_progress_age_sec")) then
      ["meaningful_progress_age_sec"]
    else []
  let reply := if Text.strip assistant_reply ≠ "" then ["assistant_reply"] else []
  pure (reasons ++ age ++ reply)

/-- The worker has done something between the two. -/
def Metrics.Activity (F : Floats) (m m' : Metrics) : Prop :=
  m.assistant_turns < m'.assistant_turns ∨ m.tool_call_count < m'.tool_call_count ∨
    m.tool_result_count < m'.tool_result_count ∨
    m.meaningful_result_count < m'.meaningful_result_count ∨
    m.latest_total_tokens < m'.latest_total_tokens ∨
    fresher F m.meaningful_progress_age_sec m'.meaningful_progress_age_sec = true

/-! ## Dispatches -/

/-- `row.get("baseline")`, if it is a dictionary. -/
def baseline_of (row : Dict) : Dict := ((row.value? "baseline").bind Value.dict?).getD .empty

def dispatch_record (job : Job) (now : FloatText) (stable_digest dispatch_id : String)
    (baseline : Metrics) : Dict :=
  Dict.ofList [("type", .str "live_nudge_dispatch"), ("observed_at", time now),
    ("agent_id", .str job.agent_id), ("session_id", .str job.session_id),
    ("session_key", .str job.session_key), ("stable_state_digest", .str stable_digest),
    ("dispatch_id", .str dispatch_id), ("baseline", .ofDict baseline.dict),
    ("message_prefix", .str NUDGE_PREFIX)] (by simp)

def NUDGE_MIN_NO_PROGRESS_SECONDS : FloatText := float "60.0" (by decide)

/-- The first of the `checks` that fails. All of them are evaluated: `attempted` is what
`_recovery_attempt_exists` has returned. -/
def nudge_checks (cfg : Config) (job : Job) (ctx : Context) (snapshot : Snapshot) (attempted : Bool) :
    Option String :=
  let metrics := nudge_metrics (some snapshot.trace)
  let active := source_task_active cfg ctx
  let checks :=
    [(decide (session_role job.session_key = .task), "not_task_session"), active,
      (runtime_recovery_safe cfg ctx, "runtime_evidence_not_safe"),
      (metrics.inflight_tool_calls == 0, "inflight_tool_active"),
      (metrics.meaningful_progress_age_sec.any (cfg.floats.le NUDGE_MIN_NO_PROGRESS_SECONDS ·),
        "recent_or_unobservable_progress"),
      (snapshot.scope.auto_recovery_allowed, "scope_blocks_auto_action"),
      (!attempted, "recovery_attempt_exists"),
      (is_periodic_supervisor_candidate job, "periodic_supervisor_only")]
  (checks.find? fun check => !check.1).map Prod.snd

/-- What the rest of `_nudge_guard` says of the last dispatch. -/
def nudge_prior (cfg : Config) (metrics : Metrics) (stable_digest : String) :
    Option Dict → Except LiveError (Option String)
  | none => .ok none
  | some prior => do
    let progressed ← nudge_worker_activity cfg (baseline_of prior) metrics.dict ""
    if cfg.text (prior.get? "stable_state_digest") = stable_digest then
      pure (some "same_stable_state_already_nudged")
    else if progressed = [] then pure (some "prior_nudge_without_worker_activity")
    else pure none

/-! ## The thread -/

/-- A thread of `_run_same_session_nudge`. -/
structure Nudge where
  job : Job
  stable_digest : String
  dispatch_id : String
  baseline : Metrics
  /-- Only the `finally` is left. -/
  reported : Bool

inductive NudgeAnswer where
  | turned (turn : Turn) (trace : Option Trace) (now : FloatText)
  | failed (error : LiveError) (now : FloatText)
  | discarded

/-- The fields that the records of a nudge begin with. -/
def nudge_fields (job : Job) (now : FloatText) (stable_digest dispatch_id : Value) :
    List (String × Value) :=
  [("observed_at", time now), ("agent_id", .str job.agent_id), ("session_id", .str job.session_id),
    ("session_key", .str job.session_key), ("stable_state_digest", stable_digest),
    ("dispatch_id", dispatch_id)]

namespace Nudge

def fields (t : Nudge) (now : FloatText) : List (String × Value) :=
  nudge_fields t.job now (.str t.stable_digest) (.str t.dispatch_id)

theorem nodup_type (type : String) : ([("type", Value.str type)].map Prod.fst).Nodup := by simp

def outcome (t : Nudge) (turn : Turn) (current : Metrics) (reasons : List String) (now : FloatText) :
    Dict :=
  let same_session := decide (turn.session_id.getD "" = t.job.session_id)
  let status :=
    if same_session && !reasons.isEmpty then "NUDGE_RECOVERED"
    else if !same_session then "NUDGE_SESSION_MISMATCH"
    else "NUDGE_NO_ACTIVITY"
  extend (extend (Dict.ofList [("type", .str "live_nudge_outcome")] (nodup_type _)) (t.fields now))
    [("status", .str status), ("same_session", .bool same_session),
      ("returned_session_id", .ofOption .str (turn.session_id.filter (· ≠ ""))),
      ("activity_reasons", .strs reasons), ("baseline", .ofDict t.baseline.dict),
      ("current", .ofDict current.dict)]

def error (t : Nudge) (e : LiveError) (now : FloatText) : Dict :=
  extend (extend (Dict.ofList [("type", .str "live_nudge_error")] (nodup_type _)) (t.fields now))
    [("status", .str "NUDGE_ERROR"), ("error", .str e.describe.1),
      ("error_detail", .str (String.ofList (e.describe.2.toList.take 240)))]

/-- One step of the thread: the record that it appends, and the thread, unless it is over. -/
def step (cfg : Config) (t : Nudge) (answer : NudgeAnswer) : Option (Option Dict × Option Nudge) :=
  if t.reported then
    match answer with
    | .discarded => some (none, none)
    | _ => none
  else
    match answer with
    | .turned turn trace now =>
      let current := nudge_metrics trace
      let reply := if turn.session_id.getD "" = t.job.session_id then turn.text else ""
      match nudge_worker_activity cfg t.baseline.dict current.dict reply with
      | .ok reasons => some (some (t.outcome turn current reasons now), some { t with reported := true })
      | .error e => some (some (t.error e now), some { t with reported := true })
    | .failed e now => some (some (t.error e now), some { t with reported := true })
    | .discarded => none

end Nudge

/-! ## What the guard compares -/

section Compare

variable {cfg : Config}

theorem larger_eq {baseline current : Dict} {before after : String → Int} {keys : List String}
    (hbefore : ∀ k ∈ keys, baseline.get? k = some (.int (before k)))
    (hafter : ∀ k ∈ keys, current.get? k = some (.int (after k))) :
    larger cfg baseline current keys = .ok (keys.filter fun k => decide (before k < after k)) := by
  induction keys with
  | nil => rfl
  | cons key keys ih =>
    have hrest := ih (fun k hk => hbefore k (by simp [hk])) fun k hk => hafter k (by simp [hk])
    rw [larger, hbefore key (by simp), hafter key (by simp)]
    show (do let rest ← larger cfg baseline current keys; _) = _
    rw [hrest]
    by_cases hlt : before key < after key
    · simp [hlt, bind, Except.bind, pure, Except.pure]
    · simp [hlt, bind, Except.bind, pure, Except.pure]

theorem baseline_of_get? {row : Dict} {ms : List (String × Json)} (h : row.get? "baseline" = some (.obj ms))
    (k : String) : (baseline_of row).get? k = Json.getMember ms k := by
  have hvalue := row.value?_json "baseline"
  rw [h, Option.map_eq_some_iff] at hvalue
  obtain ⟨⟨v, hwf⟩, hv, rfl⟩ := hvalue
  rw [baseline_of, hv]
  rfl

/-- The baseline of a dispatch, read back. -/
theorem baseline_of_dispatch (job : Job) (now : FloatText) (stable_digest dispatch_id : String)
    (m : Metrics) (k : String) :
    (baseline_of (dispatch_record job now stable_digest dispatch_id m).sorted).get? k =
      m.dict.sorted.get? k := by
  have hget : (dispatch_record job now stable_digest dispatch_id m).sorted.get? "baseline" =
      some (.obj m.dict.sorted.members) := by
    simp [dispatch_record, Dict.get?_ofList, Value.ofDict, ← Dict.json_sorted]
    rfl
  exact baseline_of_get? hget k

theorem stable_digest_of_dispatch (job : Job) (now : FloatText) (stable_digest dispatch_id : String)
    (m : Metrics) :
    (dispatch_record job now stable_digest dispatch_id m).sorted.get? "stable_state_digest" =
      some (.str stable_digest) := by
  simp [dispatch_record, Dict.get?_ofList, Value.str, Json.sortKeys]

/-- A counter, by its name. -/
def Metrics.counter (m : Metrics) (k : String) : Int :=
  match m.dict.get? k with
  | some (.int n) => n
  | _ => 0

theorem Metrics.get?_counter (m : Metrics) : ∀ k ∈ COUNTERS, m.dict.get? k = some (.int (m.counter k)) := by
  simp [COUNTERS, Metrics.counter, Metrics.dict, Dict.get?_ofList, Value.int]

theorem Metrics.number_age (F : Floats) (m : Metrics) :
    number F (m.dict.get? "meaningful_progress_age_sec") = m.meaningful_progress_age_sec := by
  simp only [Metrics.dict, Dict.get?_ofList]
  cases m.meaningful_progress_age_sec <;>
    simp [Value.ofOption, Value.null, Value.float, time, number]

/-- Of a baseline that was written with a dispatch and read back, `_nudge_worker_activity` tells
whether the worker has done something since. -/
theorem nudge_worker_activity_metrics {baseline : Dict} {m m' : Metrics}
    (h : ∀ k, baseline.get? k = m.dict.sorted.get? k) {reasons : List String}
    (hok : nudge_worker_activity cfg baseline m'.dict "" = .ok reasons) :
    reasons ≠ [] ↔ m.Activity cfg.floats m' := by
  have hcounter : ∀ k ∈ COUNTERS, baseline.get? k = some (.int (m.counter k)) := by
    intro k hk
    rw [h, Dict.get?_sorted, m.get?_counter k hk]
    rfl
  have hage : number cfg.floats (baseline.get? "meaningful_progress_age_sec") =
      m.meaningful_progress_age_sec := by
    rw [h, Dict.get?_sorted, ← m.number_age cfg.floats]
    cases m.dict.get? "meaningful_progress_age_sec" with
    | none => rfl
    | some v => cases v <;> simp [Json.sortKeys, number]
  unfold nudge_worker_activity at hok
  rw [larger_eq hcounter m'.get?_counter, hage, m'.number_age] at hok
  have hreasons := Except.ok.inj hok
  have hstrip : Text.strip "" = "" := by decide
  simp only [hstrip, ne_eq, not_true_eq_false, if_false, List.append_nil] at hreasons
  have hlarger : COUNTERS.filter (fun k => decide (m.counter k < m'.counter k)) ≠ [] ↔
      m.assistant_turns < m'.assistant_turns ∨ m.tool_call_count < m'.tool_call_count ∨
        m.tool_result_count < m'.tool_result_count ∨
        m.meaningful_result_count < m'.meaningful_result_count ∨
        m.latest_total_tokens < m'.latest_total_tokens := by
    simp only [ne_eq, List.filter_eq_nil_iff, COUNTERS, Metrics.counter, Metrics.dict, Dict.get?_ofList,
      List.forall_mem_cons, decide_eq_true_eq, Value.int]
    simp [-not_lt, Decidable.or_iff_not_imp_left]
  rw [← hreasons, Metrics.Activity]
  by_cases hfresh : fresher cfg.floats m.meaningful_progress_age_sec m'.meaningful_progress_age_sec = true
  · simp [hfresh]
  · simp only [hfresh, if_false, List.append_nil, hlarger, or_false, reduceCtorEq]

/-- A nudge passes if the last one was of another state, and the worker has done something since. -/
theorem nudge_prior_none {metrics m : Metrics} {job : Job} {now : FloatText}
    {stable_digest digest dispatch_id : String}
    (h : nudge_prior cfg metrics stable_digest
      (some (dispatch_record job now digest dispatch_id m).sorted) = .ok none) :
    digest ≠ stable_digest ∧ m.Activity cfg.floats metrics := by
  rw [nudge_prior] at h
  obtain ⟨reasons, hreasons, h⟩ := bind_eq_ok.mp h
  rw [stable_digest_of_dispatch] at h
  split at h
  · cases h
  rename_i hne
  split at h
  · cases h
  rename_i hprogressed
  exact ⟨hne, (nudge_worker_activity_metrics (baseline_of_dispatch job now digest dispatch_id m)
    hreasons).mp hprogressed⟩

end Compare

end JevLive

end Plachem
