import Mathlib.Algebra.Order.Field.Rat
import Mathlib.Tactic.Linarith
import PlachemMonitor.Spec.Log
import PlachemMonitor.Spec.Machine
import PlachemMonitor.JevLive.Watchdog.Safe
import PlachemMonitor.Registry.Record

/-!
# The session watchdog

`JEVSessionRecoveryWatchdog.observe`, over any sequence of calls. When a run was last polled is kept in
memory; what was observed of it is read from the history, which outlives the process.

* `Lawful`: what each poll and each recovery may follow on.
* `rows_eq`, `last_entry_of_recent`: what is read back of entries that no line break cuts.
* `restart_confirmed`: the law holds in every run whose calls take no line break into the history.
-/

namespace Plachem

namespace SessionWatchdog

open Regex

/-! ## Parameters -/

/-- What `sha256(...).hexdigest()` returns. -/
abbrev Hex := { text : String // RegistryFile.safeText text = true }

/-- Times and probabilities are numbers; floats that are none, and the rounding of the others, are left out. -/
structure Config where
  /-- `str.isalnum` of a character beyond ASCII. -/
  letter : Char → Bool
  /-- `str` of a value that is no text. -/
  str : Json → String
  /-- `float(value)`, unless it raises. -/
  float : Json → Option ℚ
  repr : ℚ → FloatText
  /-- `datetime.fromisoformat(value.replace("Z", "+00:00")).timestamp()`, unless it raises. -/
  fromisoformat : String → Option ℚ
  sha256 : List Char → Hex
  /-- `self.recovery is not None` -/
  has_recovery : Bool

/-- `str(value or default)` -/
def Config.text (cfg : Config) (default : String) : Option Json → String
  | some (.str s) => if s = "" then default else s
  | some v => if v.truthy then cfg.str v else default
  | none => default

def START_DELAY_SECONDS : ℚ := 300

def CADENCE_SECONDS : ℚ := 60

def TERMINAL_STATES : List String := ["PASS", "FAIL", "BLOCKED", "TIMEOUT", "CANCELLED"]

def BOOLEAN_QUESTIONS : List String :=
  ["meaningful_progress", "productive_activity", "loop_suspected", "stalled", "continue_current_session",
    "restart_recommended"]

def CHOICE_VALUES : List String := ["CONTINUE", "RECHECK", "RESTART_SESSION", "ESCALATE_MAIN"]

/-- `_UNSAFE` -/
def UNSAFE : Reg :=
  any [cat [lit "production", plus space, lit "db"],
    cat [lit "database", plus space, any [lit "write", lit "migration"]],
    cat [lit "git", plus space, any [lit "push", lit "merge"]],
    cat [.boundary, lit "delete", .boundary], cat [lit "service", plus space, lit "restart"],
    cat [lit "permission", plus space, lit "change"],
    cat [lit "external", plus space, any [lit "send", lit "post"]],
    cat [lit "uncertain", plus space, lit "side effect"]]

/-! ## Records -/

/-- `value in values`; a list or a dictionary cannot be looked up in a set. -/
def member (values : List String) : Option Json → Option Bool
  | some (.arr _) | some (.obj _) => none
  | some (.str s) => some (decide (s ∈ values))
  | _ => some false

/-- `d.get(key) or {}`, on which `.get` is called. -/
def part (d : Dict) (key : String) : Option Dict :=
  match d.value? key with
  | none => some .empty
  | some v => if v.json.truthy then v.dict? else some .empty

/-- `d.get(key)`, as a value. -/
def field (d : Dict) (key : String) : Value := Value.ofOption id (d.value? key)

/-- `d.get(key) if isinstance(d.get(key), Mapping) else {}` -/
def mapping (d : Dict) (key : String) : Dict := ((d.value? key).bind Value.dict?).getD .empty

/-- `d.get(key, default)` -/
def get (d : Dict) (key : String) (default : Json) : Json := (d.get? key).getD default

/-- `_started_epoch` -/
def started_epoch (cfg : Config) (record : Dict) (now : ℚ) : Option ℚ :=
  let parsed :=
    match record.get? "started_at" with
    | some (.str value) => cfg.fromisoformat value
    | _ => none
  match parsed with
  | some start => some start
  | none => do
    let policy_state ← part record "policy_state"
    match policy_state.get? "watchdog_started_at" with
    | some (.int n) => pure n
    | some (.bool b) => pure (b.toInt : ℚ)
    | some (.float t) => cfg.float (.float t)
    | _ => pure now

/-- `recovery_snapshot` -/
def recovery_snapshot (cfg : Config) (record : Dict) : Option Json := do
  let goal := mapping record "goal_contract"
  let checkpoint := mapping record "progress_checkpoint"
  let verified ← part record "verified_progress"
  let policy_state ← part record "policy_state"
  pure (safe cfg.letter (.obj
    [("original_goal", get goal "primary_objective" (.str "UNAVAILABLE")),
      ("completed_work", get verified "completed_conditions" (.arr [])),
      ("current_step", get checkpoint "current_step" (.str "UNAVAILABLE")),
      ("files", get verified "artifacts" (.arr [])), ("tests", get verified "evidence" (.arr [])),
      ("blocker", get checkpoint "blocking_reason" (.str "UNAVAILABLE")),
      ("tried_approaches", get policy_state "tried_approaches" (.arr [])),
      ("do_not_repeat", get policy_state "do_not_repeat" (.arr [])),
      ("remaining_conditions", get checkpoint "remaining_conditions" (.arr [])),
      ("next_recommendation", .str "fresh child session with same goal contract")]))

/-- `deterministic_interlock` -/
def deterministic_interlock (cfg : Config) (record : Dict) (snapshot : Json) : Option (Bool × String) :=
  let material := Json.layout [' '] false
    (safe cfg.letter (.obj [("record", record.json), ("snapshot", snapshot)]))
  if found cfg.letter UNSAFE material then some (false, "IRREVERSIBLE_OR_UNCERTAIN_SIDE_EFFECT")
  else if (record.get? "escalation_required").any Json.truthy then some (false, "POLICY_OR_SECURITY_STOP")
  else do
    if ← member ["BLOCKED", "CANCELLED"] (record.get? "policy_status") then
      pure (false, "POLICY_OR_SECURITY_STOP")
    else pure (true, "INTERLOCKS_PASS")

/-! ## The history -/

/-- The lines of the file, after these entries. -/
def lines (history : List Dict) : List (List Char) :=
  Text.readLines (history.flatMap fun entry => entry.dumps false ++ ['\n'])

/-- The rows of the run, unless a line is JSON but no dictionary. -/
def rows (history : List Dict) (run_id : String) : Option (List Dict) := do
  let values ← ((lines history).filterMap loadsValue).mapM Value.dict?
  pure (values.filter fun value => value.get? "run_id" == some (.str run_id))

/-- `_recent` -/
def recent (history : List Dict) (run_id : String) : Option (List Dict) :=
  (rows history run_id).map fun rows => rows.drop (rows.length - 5)

/-! ## Calls -/

/-- The arguments of a call, and what it is told. -/
structure Inputs where
  run_id : String
  now : ℚ
  /-- `self.registry.get(run_id)` -/
  record : Option Dict
  /-- `sanitize_observed_facts`, unless it raises. -/
  facts : Option Value
  /-- What the client answers, unless it raises. -/
  answer : Option Dict
  /-- `dict(self.recovery(run_id, snapshot) or {})`, unless it raises. -/
  recovery : Option Dict
  timestamp : ℚ
  latency_ms : ℚ

inductive Outcome where
  | raised
  | terminal
  | legacy
  | waiting (elapsed : ℚ)
  | cadence_wait (elapsed : ℚ)
  | observed (choice follow_up : String) (restart : Bool) (entry : Dict)

inductive Event where
  | polled (run_id : String) (now : ℚ) (record : Dict)
  | recovered (run_id : String) (record : Dict)
  /-- What is recorded, before `_safe`. -/
  | recorded (run_id : String) (entry : Dict)
  | restarted

structure World where
  history : List Dict
  last_check : String → Option ℚ
  trace : List Event

/-- What a call knows when it polls the client. -/
structure Admitted where
  record : Dict
  facts : Value
  elapsed : ℚ
  recent : List Dict

/-- `observe`, up to the call of the client. -/
def World.gate (cfg : Config) (w : World) (i : Inputs) : Except Outcome Admitted :=
  match i.record with
  | none => .error .raised
  | some record =>
    match member TERMINAL_STATES (record.get? "status") with
    | none => .error .raised
    | some true => .error .terminal
    | some false =>
      if !(record.get? "watchdog_managed").any Json.truthy then .error .legacy
      else
        match started_epoch cfg record i.now with
        | none => .error .raised
        | some start =>
          let elapsed := max 0 (i.now - start)
          if elapsed < START_DELAY_SECONDS then .error (.waiting elapsed)
          else if (w.last_check i.run_id).any fun prior => i.now - prior < CADENCE_SECONDS then
            .error (.cadence_wait elapsed)
          else
            match i.facts, recent w.history i.run_id with
            | some facts, some recent => .ok ⟨record, facts, elapsed, recent⟩
            | _, _ => .error .raised

/-! ### The answer of the client -/

/-- What is made of an answer before it is decided upon. -/
structure Judged where
  requested_choice : String
  probabilities : String → ℚ
  confidence : ℚ
  interlock : Bool × String
  snapshot : Json

def requested_choice (cfg : Config) (raw : Dict) : String := cfg.text "ESCALATE_MAIN" (raw.get? "choice")

/-- `float(probabilities.get(name, 0.0))` -/
def probability (cfg : Config) (probabilities : Dict) (name : String) : Option ℚ :=
  match probabilities.get? name with
  | some value => cfg.float value
  | none => some 0

/-- The `probabilities` of an answer. -/
def probabilities_of (cfg : Config) (raw : Dict) : Option (String → ℚ) := do
  let probabilities ← part raw "probabilities"
  guard (∀ name ∈ CHOICE_VALUES, (probability cfg probabilities name).isSome)
  pure fun name => (probability cfg probabilities name).getD 0

/-- `float(raw.get("confidence") or max(probabilities.values()))` -/
def confidence_of (cfg : Config) (raw : Dict) (probabilities : String → ℚ) : Option ℚ :=
  match (raw.get? "confidence").filter Json.truthy with
  | some value => cfg.float value
  | none => (CHOICE_VALUES.map probabilities).max?

def judge (cfg : Config) (record raw : Dict) : Option Judged := do
  let probabilities ← probabilities_of cfg raw
  let confidence ← confidence_of cfg raw probabilities
  let snapshot ← recovery_snapshot cfg record
  let interlock ← deterministic_interlock cfg record snapshot
  pure ⟨requested_choice cfg raw, probabilities, confidence, interlock, snapshot⟩

/-- `str(recent[-1].get("requested_choice") or recent[-1].get("choice") or "")` -/
def last_choice (cfg : Config) (row : Dict) : String :=
  cfg.text (cfg.text "" (row.get? "choice")) (row.get? "requested_choice")

def prior_restart (cfg : Config) (recent : List Dict) : Bool :=
  recent.getLast?.any fun row =>
    decide (last_choice cfg row = "RESTART_SESSION") &&
      decide (cfg.text "" (row.get? "follow_up") = "RESTART_CONFIRMATION_REQUIRED")

/-- Whether `self.recovery` is called. -/
def recovers (cfg : Config) (recent : List Dict) (j : Judged) : Bool :=
  decide (j.requested_choice = "RESTART_SESSION") && prior_restart cfg recent && j.interlock.1 &&
    cfg.has_recovery

structure Ruling where
  choice : String
  follow_up : String
  restart : Bool
  recovery_result : Option Dict

/-- What follows from a recovery. -/
def Ruling.ofRecovery (cfg : Config) (result : Dict) : Ruling :=
  let status := cfg.text "UNKNOWN" (result.get? "status")
  if status = "DISPATCHED" then ⟨"RESTART_SESSION", "FRESH_CHILD_CREATED", true, some result⟩
  else if status = "REQUEUE_REQUIRED" then
    ⟨"RESTART_SESSION", "CONTROLLED_REQUEUE_REQUIRED", false, some result⟩
  else ⟨"ESCALATE_MAIN", "RECOVERY_" ++ status, false, some result⟩

def rule (cfg : Config) (recent : List Dict) (j : Judged) (recovery : Option Dict) : Option Ruling :=
  if j.requested_choice = "RESTART_SESSION" then
    if !prior_restart cfg recent then
      some ⟨j.requested_choice, "RESTART_CONFIRMATION_REQUIRED", false, none⟩
    else if recovers cfg recent j then recovery.map (Ruling.ofRecovery cfg)
    else some ⟨"ESCALATE_MAIN", j.interlock.2 ++ ":NO_TERMINATION", false, none⟩
  else if j.requested_choice ∈ ["CONTINUE", "RECHECK"] then
    some ⟨j.requested_choice, j.requested_choice, false, none⟩
  else some ⟨"ESCALATE_MAIN", "ESCALATE_NO_TERMINATION", false, none⟩

theorem nodup_keys {keys : List String} (h : keys.Nodup) (f : String → Value) :
    ((keys.map fun k => (k, f k)).map Prod.fst).Nodup := by
  rw [List.map_map]
  show (keys.map id).Nodup
  rwa [List.map_id]

/-- `{k: raw.get("boolean_probabilities", {}).get(k) for k in BOOLEAN_QUESTIONS}` -/
def boolean_probabilities (raw : Dict) : Option Dict := do
  let given ←
    match raw.value? "boolean_probabilities" with
    | some v => v.dict?
    | none => some .empty
  pure (Dict.ofList (BOOLEAN_QUESTIONS.map fun k => (k, field given k)) (nodup_keys (by decide) _))

def number (cfg : Config) (x : ℚ) : Value := .float (cfg.repr x)

def choice_probabilities (cfg : Config) (j : Judged) : Dict :=
  Dict.ofList (CHOICE_VALUES.map fun name => (name, number cfg (j.probabilities name)))
    (nodup_keys (by decide) _)

def state (a : Admitted) : Json :=
  let recent := .arr (a.recent.map Dict.json)
  .obj [("facts", a.facts.json), ("last_decisions", recent), ("activity_deltas", recent)]

/-- `sha256(json.dumps(value, sort_keys=True).encode()).hexdigest()` -/
def digest (cfg : Config) (value : Json) : Hex := cfg.sha256 (Json.layout [' '] true value.sortKeys)

/-- `snapshot_id`: only a recovery has one. -/
def snapshot_id (cfg : Config) (j : Judged) (r : Ruling) : Option String :=
  r.recovery_result.map fun _ => String.ofList ((digest cfg j.snapshot).val.toList.take 16)

/-- The entry of the history. -/
def entry (cfg : Config) (i : Inputs) (a : Admitted) (raw : Dict) (j : Judged) (r : Ruling) : Option Dict := do
  let binding ← part a.record "openclaw_binding"
  let boolean_probabilities ← boolean_probabilities raw
  pure (Dict.ofList
    [("timestamp", number cfg i.timestamp), ("agent_id", field a.record "agent_id"),
      ("session_id", field binding "session_id"), ("run_id", .str i.run_id),
      ("task_id", field a.record "task_id"), ("elapsed", number cfg a.elapsed),
      ("state_digest", .str (digest cfg (state a)).val), ("boolean_questions", .strs BOOLEAN_QUESTIONS),
      ("boolean_probabilities", .ofDict boolean_probabilities),
      ("requested_choice", .str j.requested_choice), ("choice", .str r.choice),
      ("choice_probabilities", .ofDict (choice_probabilities cfg j)), ("confidence", number cfg j.confidence),
      ("latency_ms", number cfg i.latency_ms), ("follow_up", .str r.follow_up), ("restart", .bool r.restart),
      ("recovery_result", .ofOption (fun result => .ofDict (safe_dict cfg.letter result)) r.recovery_result),
      ("snapshot_id", .ofOption .str (snapshot_id cfg j r))]
    (by simp))

/-! ### The whole call -/

/-- The ruling on an answer, and its entry. -/
def decided (cfg : Config) (i : Inputs) (a : Admitted) (raw : Dict) (j : Judged) : Option (Ruling × Dict) := do
  let r ← rule cfg a.recent j i.recovery
  let e ← entry cfg i a raw j r
  pure (r, e)

def World.log (w : World) (e : Event) : World := { w with trace := w.trace ++ [e] }

/-- The call has polled the client. -/
def World.polled (w : World) (i : Inputs) (a : Admitted) : World :=
  { w with last_check := Function.update w.last_check i.run_id (some i.now) }.log
    (.polled i.run_id i.now a.record)

/-- The call has decided what the answer means, and has called `self.recovery` if that follows. -/
def World.judged (cfg : Config) (w : World) (i : Inputs) (a : Admitted) (j : Judged) : World :=
  if recovers cfg a.recent j then w.log (.recovered i.run_id a.record) else w

/-- `_history` -/
def World.recorded (cfg : Config) (w : World) (i : Inputs) (e : Dict) : World :=
  { w with history := w.history ++ [safe_dict cfg.letter e] }.log (.recorded i.run_id e)

/-- `observe`, from the call of the client on. -/
def World.poll (cfg : Config) (w : World) (i : Inputs) (a : Admitted) : World × Outcome :=
  let w := w.polled i a
  match i.answer with
  | none => (w, .raised)
  | some raw =>
    match judge cfg a.record raw with
    | none => (w, .raised)
    | some j =>
      let w := w.judged cfg i a j
      match decided cfg i a raw j with
      | none => (w, .raised)
      | some (r, e) => (w.recorded cfg i e, .observed r.choice r.follow_up r.restart e)

/-- `observe` -/
def World.observe (cfg : Config) (w : World) (i : Inputs) : World × Outcome :=
  match w.gate cfg i with
  | .error outcome => (w, outcome)
  | .ok a => w.poll cfg i a

inductive Label where
  | observe (i : Inputs)
  /-- The process starts anew, and keeps the history. -/
  | restart

def World.step (cfg : Config) (w : World) : Label → World
  | .observe i => (w.observe cfg i).1
  | .restart => { w with last_check := fun _ => none }.log .restarted

/-- Calls in any order, with any arguments and answers, and restarts. -/
def watchdog (cfg : Config) : Machine World Label where
  init w := w = ⟨[], fun _ => none, []⟩
  step w l := some (w.step cfg l)

/-! ## The law -/

def isRestart : Event → Bool
  | .restarted => true
  | _ => false

/-- What has happened since the process started. -/
def since_restart (trace : List Event) : List Event := trace.rtakeWhile fun e => !isRestart e

/-- What has been recorded, with the run. -/
def entries (trace : List Event) : List (String × Dict) :=
  trace.filterMap fun
    | .recorded run_id entry => some (run_id, entry)
    | _ => none

/-- The last observation of the run that has been recorded. -/
def last_entry (run_id : String) (trace : List Event) : Option Dict :=
  (((entries trace).filter fun e => e.1 == run_id).getLast?).map Prod.snd

/-- What an event may follow on. -/
def Lawful (cfg : Config) (before : List Event) : Event → Prop
  | .polled run_id now record =>
    (∃ start, started_epoch cfg record now = some start ∧ 300 ≤ now - start) ∧
      ∀ prior record', .polled run_id prior record' ∈ since_restart before → 60 ≤ now - prior
  | .recovered run_id record =>
    (∃ snapshot reason, recovery_snapshot cfg record = some snapshot ∧
        deterministic_interlock cfg record snapshot = some (true, reason)) ∧
      member TERMINAL_STATES (record.get? "status") = some false ∧
      ∃ entry, last_entry run_id before = some entry ∧
        entry.get? "requested_choice" = some (.str "RESTART_SESSION") ∧
        entry.get? "follow_up" = some (.str "RESTART_CONFIRMATION_REQUIRED")
  | _ => True

/-! ## What is read back -/

section ReadBack

variable {cfg : Config} {letter : Char → Bool} {history : List Dict} {run_id : String} {d : Dict}

theorem lines_cons (h : RegistryFile.lineSafe d = true) (history : List Dict) :
    lines (d :: history) = d.dumps false :: lines history := by
  rw [lines, List.flatMap_cons, List.append_assoc, List.singleton_append, Text.readLines_newline,
    Text.readLines_whole ((RegistryFile.lineSafe_iff d).mp h)]
  rfl

/-- An entry without line breaks is read as it has been written, whatever comes after it. -/
theorem rows_cons (h : RegistryFile.lineSafe d = true) {rest : List Dict} (hrest : rows history run_id = some rest) :
    rows (d :: history) run_id =
      some (([d.sorted].filter fun row => row.get? "run_id" == some (.str run_id)) ++ rest) := by
  obtain ⟨values, hvalues, hfilter⟩ := Option.bind_eq_some_iff.mp hrest
  obtain ⟨v, hv, hd⟩ := Option.bind_eq_some_iff.mp (loadsValue_dumps false d)
  obtain rfl := Option.some.inj hfilter
  rw [rows, lines_cons h, List.filterMap_cons_some hv, List.mapM_cons, hd, hvalues, ← List.filter_append]
  rfl

/-- Entries without line breaks are read as they have been written. -/
theorem rows_eq (h : ∀ d ∈ history, RegistryFile.lineSafe d = true) (run_id : String) :
    rows history run_id =
      some ((history.map Dict.sorted).filter fun row => row.get? "run_id" == some (.str run_id)) := by
  induction history with
  | nil => rfl
  | cons d history ih =>
    rw [List.forall_mem_cons] at h
    rw [rows_cons h.1 (ih h.2), List.map_cons, ← List.filter_append, List.singleton_append]

end ReadBack

/-! ## What is recorded -/

/-- No text that comes from outside into the entry has a character at which `str.splitlines` ends a line and
which `json.dumps` does not escape. -/
structure Plain (cfg : Config) (i : Inputs) : Prop where
  run_id : RegistryFile.safeText i.run_id = true
  record : ∀ record, i.record = some record → ∀ key ∈ ["agent_id", "task_id"],
    (field record key).json.allStrings RegistryFile.safeText = true
  session : ∀ record binding, i.record = some record → part record "openclaw_binding" = some binding →
    (field binding "session_id").json.allStrings RegistryFile.safeText = true
  choice : ∀ raw, i.answer = some raw → RegistryFile.safeText (requested_choice cfg raw) = true
  probabilities : ∀ raw given, i.answer = some raw → boolean_probabilities raw = some given →
    given.json.allStrings RegistryFile.safeText = true
  recovery : ∀ result, i.recovery = some result →
    result.json.allStrings RegistryFile.safeText = true ∧
      RegistryFile.safeText (cfg.text "UNKNOWN" (result.get? "status")) = true

/-- An entry of the run, as `observe` makes them. -/
structure Made (run_id : String) (e : Dict) : Prop where
  run_id : e.get? "run_id" = some (.str run_id)
  texts : ∃ requested choice follow_up, e.get? "requested_choice" = some (.str requested) ∧
    e.get? "choice" = some (.str choice) ∧ e.get? "follow_up" = some (.str follow_up) ∧
    (choice = "RESTART_SESSION" → requested = "RESTART_SESSION")
  line : RegistryFile.lineSafe e = true

section Recorded

variable {cfg : Config} {i : Inputs} {a : Admitted} {raw : Dict} {j : Judged} {r : Ruling} {e : Dict}

theorem judge_requested (h : judge cfg a.record raw = some j) :
    j.requested_choice = requested_choice cfg raw := by
  obtain ⟨probabilities, -, h⟩ := Option.bind_eq_some_iff.mp h
  obtain ⟨confidence, -, h⟩ := Option.bind_eq_some_iff.mp h
  obtain ⟨snapshot, -, h⟩ := Option.bind_eq_some_iff.mp h
  obtain ⟨interlock, -, h⟩ := Option.bind_eq_some_iff.mp h
  obtain rfl := Option.some.inj h
  rfl

theorem judge_interlock (h : judge cfg a.record raw = some j) :
    recovery_snapshot cfg a.record = some j.snapshot ∧
      deterministic_interlock cfg a.record j.snapshot = some j.interlock := by
  obtain ⟨probabilities, -, h⟩ := Option.bind_eq_some_iff.mp h
  obtain ⟨confidence, -, h⟩ := Option.bind_eq_some_iff.mp h
  obtain ⟨snapshot, hsnapshot, h⟩ := Option.bind_eq_some_iff.mp h
  obtain ⟨interlock, hinterlock, h⟩ := Option.bind_eq_some_iff.mp h
  obtain rfl := Option.some.inj h
  exact ⟨hsnapshot, hinterlock⟩

theorem interlock_reason {record : Dict} {snapshot : Json} {verdict : Bool × String}
    (h : deterministic_interlock cfg record snapshot = some verdict) :
    RegistryFile.safeText verdict.2 = true := by
  simp only [deterministic_interlock] at h
  split at h
  · obtain rfl := Option.some.inj h
    exact safeText_literal rfl (by decide)
  split at h
  · obtain rfl := Option.some.inj h
    exact safeText_literal rfl (by decide)
  obtain ⟨stopped, -, h⟩ := Option.bind_eq_some_iff.mp h
  split at h <;>
  · obtain rfl := Option.some.inj h
    exact safeText_literal rfl (by decide)

theorem safeText_append {s t : String} (hs : RegistryFile.safeText s = true)
    (ht : RegistryFile.safeText t = true) : RegistryFile.safeText (s ++ t) = true := by
  rw [RegistryFile.safeText] at *
  rw [String.toList_append, List.all_append, hs, ht]
  rfl

theorem ofRecovery_texts {result : Dict}
    (h : RegistryFile.safeText (cfg.text "UNKNOWN" (result.get? "status")) = true) :
    RegistryFile.safeText (Ruling.ofRecovery cfg result).choice = true ∧
      RegistryFile.safeText (Ruling.ofRecovery cfg result).follow_up = true ∧
      (Ruling.ofRecovery cfg result).recovery_result = some result := by
  have hrestart : RegistryFile.safeText "RESTART_SESSION" = true := safeText_literal rfl (by decide)
  have hescalate : RegistryFile.safeText "ESCALATE_MAIN" = true := safeText_literal rfl (by decide)
  have hchild : RegistryFile.safeText "FRESH_CHILD_CREATED" = true := safeText_literal rfl (by decide)
  have hrequeue : RegistryFile.safeText "CONTROLLED_REQUEUE_REQUIRED" = true := safeText_literal rfl (by decide)
  simp only [Ruling.ofRecovery]
  split
  · exact ⟨hrestart, hchild, rfl⟩
  split
  · exact ⟨hrestart, hrequeue, rfl⟩
  · exact ⟨hescalate, safeText_append (safeText_literal rfl (by decide)) h, rfl⟩

/-- The texts of a ruling are those of the source, of the answer or of the recovery. -/
theorem rule_texts {recent : List Dict} {recovery : Option Dict} (h : rule cfg recent j recovery = some r)
    (hrequested : RegistryFile.safeText j.requested_choice = true)
    (hreason : RegistryFile.safeText j.interlock.2 = true)
    (hrecovery : ∀ result, recovery = some result →
      RegistryFile.safeText (cfg.text "UNKNOWN" (result.get? "status")) = true) :
    RegistryFile.safeText r.choice = true ∧ RegistryFile.safeText r.follow_up = true ∧
      ∀ result, r.recovery_result = some result → recovery = some result := by
  have hescalate : RegistryFile.safeText "ESCALATE_MAIN" = true := safeText_literal rfl (by decide)
  have hconfirm : RegistryFile.safeText "RESTART_CONFIRMATION_REQUIRED" = true := safeText_literal rfl (by decide)
  rw [rule] at h
  split at h
  · split at h
    · obtain rfl := Option.some.inj h
      refine ⟨hrequested, hconfirm, ?_⟩
      rintro _ ⟨⟩
    split at h
    · obtain ⟨result, hresult, rfl⟩ := Option.map_eq_some_iff.mp h
      obtain ⟨hchoice, hfollow, hof⟩ := ofRecovery_texts (hrecovery result hresult)
      refine ⟨hchoice, hfollow, ?_⟩
      rintro _ heq
      rw [hof] at heq
      obtain rfl := Option.some.inj heq
      exact hresult
    · obtain rfl := Option.some.inj h
      refine ⟨hescalate, safeText_append hreason (safeText_literal rfl (by decide)), ?_⟩
      rintro _ ⟨⟩
  · split at h
    · obtain rfl := Option.some.inj h
      refine ⟨hrequested, hrequested, ?_⟩
      rintro _ ⟨⟩
    · obtain rfl := Option.some.inj h
      refine ⟨hescalate, safeText_literal rfl (by decide), ?_⟩
      rintro _ ⟨⟩

/-- Only an answer that asks for a restart is ruled to be one. -/
theorem rule_restart {recent : List Dict} {recovery : Option Dict} (h : rule cfg recent j recovery = some r)
    (hchoice : r.choice = "RESTART_SESSION") : j.requested_choice = "RESTART_SESSION" := by
  by_contra hother
  rw [rule, if_neg hother] at h
  split at h
  · obtain rfl := Option.some.inj h
    exact hother hchoice
  · obtain rfl := Option.some.inj h
    exact absurd hchoice (by decide)

theorem choice_probabilities_texts (cfg : Config) (j : Judged) :
    (Value.ofDict (choice_probabilities cfg j)).json.allStrings RegistryFile.safeText = true := by
  have hnames : ∀ name ∈ CHOICE_VALUES, RegistryFile.safeText name = true := by
    simp only [CHOICE_VALUES, List.forall_mem_cons]
    refine ⟨?_, ?_, ?_, ?_, fun _ h => absurd h List.not_mem_nil⟩ <;> exact safeText_literal rfl (by decide)
  refine (RegistryFile.lineSafe_ofList _).mpr (List.forall_mem_map.mpr fun name hname => ?_)
  exact ⟨hnames name hname, rfl⟩

theorem snapshot_id_texts (cfg : Config) (j : Judged) (r : Ruling) :
    (Value.ofOption .str (snapshot_id cfg j r)).json.allStrings RegistryFile.safeText = true := by
  rw [snapshot_id]
  cases r.recovery_result with
  | none => rfl
  | some result =>
    show RegistryFile.safeText (String.ofList ((digest cfg j.snapshot).val.toList.take 16)) = true
    have hdigest := (digest cfg j.snapshot).2
    rw [RegistryFile.safeText, List.all_eq_true] at hdigest ⊢
    intro c hc
    rw [String.toList_ofList] at hc
    exact hdigest c (List.mem_of_mem_take hc)

theorem entry_texts (h : entry cfg i a raw j r = some e) :
    e.get? "run_id" = some (.str i.run_id) ∧ e.get? "requested_choice" = some (.str j.requested_choice) ∧
      e.get? "choice" = some (.str r.choice) ∧ e.get? "follow_up" = some (.str r.follow_up) := by
  obtain ⟨binding, -, h⟩ := Option.bind_eq_some_iff.mp h
  obtain ⟨given, -, h⟩ := Option.bind_eq_some_iff.mp h
  obtain rfl := Option.some.inj h
  refine ⟨?_, ?_, ?_, ?_⟩ <;> simp [Dict.get?_ofList, Value.str]

theorem entry_made (hplain : Plain cfg i) (hrecord : i.record = some a.record) (hanswer : i.answer = some raw)
    (hjudge : judge cfg a.record raw = some j) (hrule : rule cfg a.recent j i.recovery = some r)
    (h : entry cfg i a raw j r = some e) : Made i.run_id e := by
  obtain ⟨hid, hasked, hruled, hup⟩ := entry_texts h
  obtain ⟨binding, hbinding, h⟩ := Option.bind_eq_some_iff.mp h
  obtain ⟨given, hgiven, h⟩ := Option.bind_eq_some_iff.mp h
  have hrequested := hplain.choice raw hanswer
  rw [← judge_requested hjudge] at hrequested
  obtain ⟨hchoice, hfollow, hresult⟩ := rule_texts hrule hrequested
    (interlock_reason (judge_interlock hjudge).2) fun result hresult => (hplain.recovery result hresult).2
  have hquestions : (Value.strs BOOLEAN_QUESTIONS).json.allStrings RegistryFile.safeText = true := by
    simp only [Value.strs, Json.allStrings, Json.allStringsElems_iff, BOOLEAN_QUESTIONS, List.map_cons,
      List.map_nil, List.forall_mem_cons]
    refine ⟨?_, ?_, ?_, ?_, ?_, ?_, fun _ h => absurd h List.not_mem_nil⟩ <;> exact safeText_literal rfl (by decide)
  have hrecovery : (Value.ofOption (fun result => .ofDict (safe_dict cfg.letter result))
      r.recovery_result).json.allStrings RegistryFile.safeText = true := by
    cases hr : r.recovery_result with
    | none => rfl
    | some result => exact safe_allStrings _ (hplain.recovery result (hresult result hr)).1
  obtain rfl := Option.some.inj h
  refine ⟨hid, ⟨j.requested_choice, r.choice, r.follow_up, hasked, hruled, hup, rule_restart hrule⟩, ?_⟩
  rw [RegistryFile.lineSafe_ofList]
  have hkeys : (["timestamp", "agent_id", "session_id", "run_id", "task_id", "elapsed", "state_digest",
      "boolean_questions", "boolean_probabilities", "requested_choice", "choice", "choice_probabilities",
      "confidence", "latency_ms", "follow_up", "restart", "recovery_result", "snapshot_id"].all
      RegistryFile.safeText) = true := by
    simp only [List.all_cons, List.all_nil, Bool.and_true, Bool.and_eq_true]
    refine ⟨?_, ?_, ?_, ?_, ?_, ?_, ?_, ?_, ?_, ?_, ?_, ?_, ?_, ?_, ?_, ?_, ?_, ?_⟩ <;>
      exact safeText_literal rfl (by decide)
  simp only [List.all_cons, List.all_nil, Bool.and_true, Bool.and_eq_true] at hkeys
  obtain ⟨k₁, k₂, k₃, k₄, k₅, k₆, k₇, k₈, k₉, k₁₀, k₁₁, k₁₂, k₁₃, k₁₄, k₁₅, k₁₆, k₁₇, k₁₈⟩ := hkeys
  simp only [List.forall_mem_cons]
  exact ⟨⟨k₁, rfl⟩, ⟨k₂, hplain.record _ hrecord _ List.mem_cons_self⟩,
    ⟨k₃, hplain.session _ _ hrecord hbinding⟩, ⟨k₄, hplain.run_id⟩,
    ⟨k₅, hplain.record _ hrecord _ (List.mem_cons_of_mem _ List.mem_cons_self)⟩, ⟨k₆, rfl⟩,
    ⟨k₇, (digest cfg (state a)).2⟩, ⟨k₈, hquestions⟩, ⟨k₉, hplain.probabilities _ _ hanswer hgiven⟩,
    ⟨k₁₀, hrequested⟩, ⟨k₁₁, hchoice⟩, ⟨k₁₂, choice_probabilities_texts cfg j⟩, ⟨k₁₃, rfl⟩, ⟨k₁₄, rfl⟩,
    ⟨k₁₅, hfollow⟩, ⟨k₁₆, rfl⟩, ⟨k₁₇, hrecovery⟩, ⟨k₁₈, snapshot_id_texts cfg j r⟩,
    fun _ hm => absurd hm List.not_mem_nil⟩

end Recorded

/-! ## The last observation -/

section Last

variable {cfg : Config} {letter : Char → Bool} {trace : List Event} {run_id : String} {e row : Dict}

theorem mem_entries {p : String × Dict} : p ∈ entries trace ↔ .recorded p.1 p.2 ∈ trace := by
  rw [entries, List.mem_filterMap]
  constructor
  · rintro ⟨event, hevent, h⟩
    cases event with
    | recorded run_id entry =>
      obtain rfl := Option.some.inj h
      exact hevent
    | _ => cases h
  · intro h
    exact ⟨_, h, rfl⟩

theorem row_text {key text : String} (hkey : secret_key letter key = false)
    (h : e.get? key = some (.str text)) :
    (safe_dict letter e).sorted.get? key = some (.str (safe_text letter text)) := by
  rw [Dict.get?_sorted, get?_safe_dict hkey, h]
  rfl

theorem safe_text_restart {text : String} (h : safe_text letter text = "RESTART_SESSION") :
    text = "RESTART_SESSION" :=
  (safe_text_literal rfl rfl (by decide) (by decide)).mp h

theorem safe_text_required {text : String} (h : safe_text letter text = "RESTART_CONFIRMATION_REQUIRED") :
    text = "RESTART_CONFIRMATION_REQUIRED" :=
  (safe_text_literal rfl rfl (by decide) (by decide)).mp h

theorem text_str_eq {default text value : String}
    (h : cfg.text default (some (.str text)) = value) : text = value ∨ text = "" ∧ default = value := by
  rw [Config.text] at h
  split at h
  · rename_i hblank
    exact .inr ⟨hblank, h⟩
  · exact .inl h

/-- What a row is taken to say, its entry has said. -/
theorem confirmed_of_row (hmade : Made run_id e)
    (hchoice : last_choice cfg (safe_dict cfg.letter e).sorted = "RESTART_SESSION")
    (hfollow : cfg.text "" ((safe_dict cfg.letter e).sorted.get? "follow_up") =
      "RESTART_CONFIRMATION_REQUIRED") :
    e.get? "requested_choice" = some (.str "RESTART_SESSION") ∧
      e.get? "follow_up" = some (.str "RESTART_CONFIRMATION_REQUIRED") := by
  obtain ⟨requested, choice, follow_up, hrequested, hruled, hup, hrestart⟩ := hmade.texts
  rw [last_choice, row_text rfl hrequested, row_text rfl hruled] at hchoice
  rw [row_text rfl hup] at hfollow
  have hasked : requested = "RESTART_SESSION" := by
    rcases text_str_eq hchoice with h | ⟨hblank, h⟩
    · exact safe_text_restart h
    · rcases text_str_eq h with h | ⟨-, h⟩
      · exact hrestart (safe_text_restart h)
      · exact absurd h (by decide)
  have hanswered : follow_up = "RESTART_CONFIRMATION_REQUIRED" := by
    rcases text_str_eq hfollow with h | ⟨-, h⟩
    · exact safe_text_required h
    · exact absurd h (by decide)
  rw [hrequested, hup, hasked, hanswered]
  exact ⟨rfl, rfl⟩

/-- No entry of another run is recorded under this id. -/
def Apart (cfg : Config) (trace : List Event) (run_id : String) : Prop :=
  ∀ other e, .recorded other e ∈ trace → safe_text cfg.letter other = run_id → other = run_id

theorem getLast?_newest {α : Type} (xs : List α) : (xs.drop (xs.length - 5)).getLast? = xs.getLast? := by
  rw [List.getLast?_drop]
  split
  · rename_i h
    obtain rfl : xs = [] := List.length_eq_zero_iff.mp (by omega)
    rfl
  · rfl

/-- The last of the rows that are read is the last observation of the run. -/
theorem last_entry_of_recent {rows : List Dict} (hmade : ∀ p ∈ entries trace, Made p.1 p.2)
    (hapart : Apart cfg trace run_id)
    (h : recent ((entries trace).map fun p => safe_dict cfg.letter p.2) run_id = some rows)
    (hlast : rows.getLast? = some row) :
    ∃ e, last_entry run_id trace = some e ∧ row = (safe_dict cfg.letter e).sorted ∧ Made run_id e := by
  have hsafe : ∀ d ∈ (entries trace).map fun p => safe_dict cfg.letter p.2, RegistryFile.lineSafe d = true := by
    refine List.forall_mem_map.mpr fun p hp => ?_
    exact safe_allStrings p.2.json (hmade p hp).line
  rw [recent, rows_eq hsafe, List.map_map, List.filter_map] at h
  have hfilter : (entries trace).filter
        ((fun row => row.get? "run_id" == some (.str run_id)) ∘ Dict.sorted ∘ fun p => safe_dict cfg.letter p.2) =
      (entries trace).filter fun p => safe_text cfg.letter p.1 == run_id := by
    refine List.filter_congr fun p hp => ?_
    show ((safe_dict cfg.letter p.2).sorted.get? "run_id" == some (.str run_id)) = _
    rw [row_text rfl (hmade p hp).run_id, Bool.eq_iff_iff, beq_iff_eq, beq_iff_eq, Option.some_inj,
      Json.str.injEq]
  rw [hfilter, Option.map_some, Option.some_inj] at h
  obtain rfl := h
  rw [getLast?_newest, List.getLast?_map, Option.map_eq_some_iff] at hlast
  obtain ⟨p, hp, rfl⟩ := hlast
  have hmem := List.mem_filter.mp (List.mem_of_getLast? hp)
  have hid : p.1 = run_id := hapart p.1 p.2 (mem_entries.mp hmem.1) (beq_iff_eq.mp hmem.2)
  have hself := beq_iff_eq.mp hmem.2
  rw [hid] at hself
  have hsame : ((entries trace).filter fun p => safe_text cfg.letter p.1 == run_id) =
      (entries trace).filter fun p => p.1 == run_id := by
    refine List.filter_congr fun q hq => ?_
    rw [Bool.eq_iff_iff, beq_iff_eq, beq_iff_eq]
    refine ⟨hapart q.1 q.2 (mem_entries.mp hq), fun h => ?_⟩
    rw [h]
    exact hself
  rw [hsame] at hp
  refine ⟨p.2, ?_, rfl, hid ▸ hmade p hmem.1⟩
  rw [last_entry, hp]
  rfl

end Last

/-! ## Runs -/

/-- A call takes no line break into the history, and its run has no other run's entries. -/
def Readable (cfg : Config) (w : World) : Label → Prop
  | .observe i => Plain cfg i ∧ Apart cfg w.trace i.run_id
  | .restart => True

structure Sound (cfg : Config) (w : World) : Prop where
  lawful : Logged (Lawful cfg) w.trace
  history : w.history = (entries w.trace).map fun p => safe_dict cfg.letter p.2
  made : ∀ p ∈ entries w.trace, Made p.1 p.2
  checks : ∀ run_id prior record, .polled run_id prior record ∈ since_restart w.trace →
    ∃ last, w.last_check run_id = some last ∧ prior ≤ last

section Steps

variable {cfg : Config} {w : World} {i : Inputs} {a : Admitted} {j : Judged} {r : Ruling} {raw e record : Dict}
  {facts : Value} {start : ℚ} {recents : List Dict} {event : Event}

theorem since_restart_append (trace : List Event) (h : isRestart event = false) :
    since_restart (trace ++ [event]) = since_restart trace ++ [event] := by
  rw [since_restart, List.rtakeWhile_concat, h]
  rfl

/-- What a call has made sure of when it polls. -/
theorem gate_ok (h : w.gate cfg i = .ok a) :
    i.record = some a.record ∧ member TERMINAL_STATES (a.record.get? "status") = some false ∧
      (∃ start, started_epoch cfg a.record i.now = some start ∧ 300 ≤ i.now - start) ∧
      (∀ last, w.last_check i.run_id = some last → 60 ≤ i.now - last) ∧
      recent w.history i.run_id = some a.recent := by
  rw [World.gate] at h
  split at h
  · cases h
  rename_i record hrecord
  split at h
  · cases h
  · cases h
  rename_i hstatus
  split at h
  · cases h
  split at h
  · cases h
  rename_i start hstart
  simp only at h
  split at h
  · cases h
  rename_i hdelay
  split at h
  · cases h
  rename_i hcadence
  split at h
  · rename_i facts recent hfacts hrecent
    obtain rfl := Except.ok.inj h
    refine ⟨hrecord, hstatus, ⟨start, hstart, ?_⟩, ?_, hrecent⟩
    · have hdelay : (300 : ℚ) ≤ max 0 (i.now - start) := not_lt.mp hdelay
      exact (le_max_iff.mp hdelay).resolve_left (by norm_num)
    · intro last hlast
      rw [hlast, Option.any_some, decide_eq_true_eq] at hcadence
      exact not_lt.mp hcadence
  · cases h

theorem gate_eq_ok (hrecord : i.record = some record)
    (hstatus : member TERMINAL_STATES (record.get? "status") = some false)
    (hmanaged : (record.get? "watchdog_managed").any Json.truthy = true)
    (hstart : started_epoch cfg record i.now = some start) (hdelay : 300 ≤ i.now - start)
    (hcadence : ∀ last, w.last_check i.run_id = some last → 60 ≤ i.now - last) (hfacts : i.facts = some facts)
    (hrecent : recent w.history i.run_id = some recents) :
    w.gate cfg i = .ok ⟨record, facts, i.now - start, recents⟩ := by
  have helapsed : max 0 (i.now - start) = i.now - start := max_eq_right (by linarith)
  have hlate : ¬ i.now - start < START_DELAY_SECONDS := not_lt.mpr hdelay
  have hminute : (w.last_check i.run_id).any (fun prior => decide (i.now - prior < CADENCE_SECONDS)) = false :=
    (Option.any_eq_false ..).mpr fun last h => decide_eq_false (not_lt.mpr (hcadence last h))
  rw [World.gate, hrecord]
  simp only [hstatus, hmanaged, hstart, helapsed]
  rw [if_neg hlate, hminute, hfacts, hrecent]
  rfl

theorem step_observe (h : w.gate cfg i = .ok a) : w.step cfg (.observe i) = (w.poll cfg i a).1 := by
  rw [World.step, World.observe, h]

theorem poll_recorded (hanswer : i.answer = some raw) (hjudge : judge cfg a.record raw = some j)
    (hrecovers : recovers cfg a.recent j = false) (hrule : rule cfg a.recent j i.recovery = some r)
    (hentry : entry cfg i a raw j r = some e) :
    (w.poll cfg i a).1 = (w.polled i a).recorded cfg i e := by
  have hdecided : decided cfg i a raw j = some (r, e) := by
    rw [decided, hrule]
    exact Option.bind_eq_some_iff.mpr ⟨r, rfl, Option.bind_eq_some_iff.mpr ⟨e, hentry, rfl⟩⟩
  rw [World.poll, hanswer]
  simp only [hjudge, World.judged, hrecovers, hdecided]
  rfl

theorem poll_unrecovered (hanswer : i.answer = some raw) (hjudge : judge cfg a.record raw = some j)
    (hrecovers : recovers cfg a.recent j = true) (hrecovery : i.recovery = none) :
    (w.poll cfg i a).1 = (w.polled i a).log (.recovered i.run_id a.record) := by
  have hrule : rule cfg a.recent j i.recovery = none := by
    have h := hrecovers
    simp only [recovers, Bool.and_eq_true, decide_eq_true_eq] at h
    rw [rule, if_pos h.1.1.1, h.1.1.2, hrecovers, hrecovery]
    rfl
  have hdecided : decided cfg i a raw j = none := by
    rw [decided, hrule]
    rfl
  rw [World.poll, hanswer]
  simp only [hjudge, World.judged, hrecovers, hdecided]
  rfl

theorem entries_append (trace : List Event) (event : Event) :
    entries (trace ++ [event]) = entries trace ++ entries [event] :=
  List.filterMap_append

/-- One more event that is no poll. -/
theorem checks_append {trace : List Event} {last_check : String → Option ℚ}
    (h : ∀ run_id prior record, .polled run_id prior record ∈ since_restart trace →
      ∃ last, last_check run_id = some last ∧ prior ≤ last)
    (hrestart : isRestart event = false) (hevent : ∀ run_id now record, event ≠ .polled run_id now record) :
    ∀ run_id prior record, .polled run_id prior record ∈ since_restart (trace ++ [event]) →
      ∃ last, last_check run_id = some last ∧ prior ≤ last := by
  intro run_id prior record hmem
  rw [since_restart_append trace hrestart, List.mem_append, List.mem_singleton] at hmem
  exact h run_id prior record (hmem.resolve_right fun heq => hevent _ _ _ heq.symm)

theorem sound_polled (hsound : Sound cfg w) (h : w.gate cfg i = .ok a) : Sound cfg (w.polled i a) := by
  obtain ⟨-, -, hstart, hcadence, -⟩ := gate_ok h
  have hentries : entries (w.polled i a).trace = entries w.trace :=
    (entries_append w.trace _).trans (List.append_nil _)
  refine ⟨Logged.snoc_iff.mpr ⟨hsound.lawful, hstart, ?_⟩, ?_, ?_, ?_⟩
  · intro prior record hprior
    obtain ⟨last, hlast, hle⟩ := hsound.checks _ _ _ hprior
    have hgap := hcadence last hlast
    linarith
  · rw [hentries]
    exact hsound.history
  · rw [hentries]
    exact hsound.made
  · intro run_id prior record hmem
    show ∃ last, Function.update w.last_check i.run_id (some i.now) run_id = some last ∧ prior ≤ last
    have hmem : Event.polled run_id prior record ∈
      since_restart (w.trace ++ [.polled i.run_id i.now a.record]) := hmem
    rw [since_restart_append _ rfl, List.mem_append, List.mem_singleton] at hmem
    by_cases hrun : run_id = i.run_id
    · rw [hrun, Function.update_self]
      refine ⟨i.now, rfl, ?_⟩
      rcases hmem with hmem | heq
      · obtain ⟨last, hlast, hle⟩ := hsound.checks _ _ _ hmem
        have hgap := hcadence last (hrun ▸ hlast)
        linarith
      · injection heq with _ hnow
        exact hnow.le
    · rw [Function.update_of_ne hrun]
      refine hsound.checks run_id prior record (hmem.resolve_right fun heq => ?_)
      injection heq with heq
      exact hrun heq

/-- A recovery follows on a confirmation. -/
theorem sound_judged (hsound : Sound cfg w) (hapart : Apart cfg w.trace i.run_id)
    (hstatus : member TERMINAL_STATES (a.record.get? "status") = some false)
    (hrecent : recent w.history i.run_id = some a.recent) (hjudge : judge cfg a.record raw = some j) :
    Sound cfg (w.judged cfg i a j) := by
  rw [World.judged]
  split
  · rename_i hrecovers
    have hentries : entries (w.log (.recovered i.run_id a.record)).trace = entries w.trace :=
      (entries_append w.trace _).trans (List.append_nil _)
    simp only [recovers, Bool.and_eq_true, decide_eq_true_eq] at hrecovers
    obtain ⟨⟨⟨-, hprior⟩, hinterlock⟩, -⟩ := hrecovers
    rw [hsound.history] at hrecent
    rw [prior_restart, Option.any_eq_true] at hprior
    obtain ⟨row, hrow, hconfirmed⟩ := hprior
    rw [Bool.and_eq_true, decide_eq_true_eq, decide_eq_true_eq] at hconfirmed
    obtain ⟨e, hlast, rfl, hmade⟩ := last_entry_of_recent hsound.made hapart hrecent hrow
    obtain ⟨hsnapshot, hverdict⟩ := judge_interlock hjudge
    refine ⟨Logged.snoc_iff.mpr ⟨hsound.lawful, ⟨j.snapshot, j.interlock.2, hsnapshot, ?_⟩, hstatus, e, hlast,
      confirmed_of_row hmade hconfirmed.1 hconfirmed.2⟩, ?_, ?_, ?_⟩
    · rw [hverdict, ← hinterlock]
    · rw [hentries]
      exact hsound.history
    · rw [hentries]
      exact hsound.made
    · exact checks_append hsound.checks rfl fun _ _ _ heq => by cases heq
  · exact hsound

theorem sound_recorded (hsound : Sound cfg w) (hmade : Made i.run_id e) : Sound cfg (w.recorded cfg i e) := by
  have hentries : entries (w.recorded cfg i e).trace = entries w.trace ++ [(i.run_id, e)] :=
    entries_append w.trace _
  refine ⟨Logged.snoc_iff.mpr ⟨hsound.lawful, trivial⟩, ?_, ?_, ?_⟩
  · rw [hentries, List.map_append, ← hsound.history]
    rfl
  · intro p hp
    rw [hentries] at hp
    rcases List.mem_append.mp hp with hp | hp
    · exact hsound.made p hp
    · obtain rfl := List.mem_singleton.mp hp
      exact hmade
  · exact checks_append hsound.checks rfl fun _ _ _ heq => by cases heq

theorem sound_poll (hsound : Sound cfg w) (hplain : Plain cfg i) (hapart : Apart cfg w.trace i.run_id)
    (h : w.gate cfg i = .ok a) : Sound cfg (w.poll cfg i a).1 := by
  obtain ⟨hrecord, hstatus, -, -, hrecent⟩ := gate_ok h
  have hpolled := sound_polled hsound h
  rw [World.poll]
  cases hanswer : i.answer with
  | none => exact hpolled
  | some raw =>
    simp only
    cases hjudge : judge cfg a.record raw with
    | none => exact hpolled
    | some j =>
      have happart : Apart cfg (w.polled i a).trace i.run_id := by
        intro other e hmem
        have hmem : Event.recorded other e ∈ w.trace ++ [.polled i.run_id i.now a.record] := hmem
        rw [List.mem_append, List.mem_singleton] at hmem
        exact hapart other e (hmem.resolve_right fun heq => by cases heq)
      have hjudged := sound_judged hpolled happart hstatus hrecent hjudge
      simp only
      cases hdecided : decided cfg i a raw j with
      | none => exact hjudged
      | some decision =>
        obtain ⟨r, hrule, hdecided⟩ := Option.bind_eq_some_iff.mp hdecided
        obtain ⟨e, hentry, hdecided⟩ := Option.bind_eq_some_iff.mp hdecided
        obtain rfl := Option.some.inj hdecided
        exact sound_recorded hjudged (entry_made hplain hrecord hanswer hjudge hrule hentry)

theorem sound_step {l : Label} (hsound : Sound cfg w) (h : Readable cfg w l) : Sound cfg (w.step cfg l) := by
  cases l with
  | observe i =>
    show Sound cfg (w.observe cfg i).1
    rw [World.observe]
    cases hgate : w.gate cfg i with
    | error outcome => exact hsound
    | ok a => exact sound_poll hsound h.1 h.2 hgate
  | restart =>
    have hentries : entries (w.trace ++ [.restarted]) = entries w.trace :=
      (entries_append w.trace _).trans (List.append_nil _)
    refine ⟨Logged.snoc_iff.mpr ⟨hsound.lawful, trivial⟩, ?_, ?_, ?_⟩
    · exact hsound.history.trans (by rw [← hentries]; rfl)
    · intro p hp
      exact hsound.made p (hentries ▸ hp)
    · intro run_id prior record hmem
      have hmem : Event.polled run_id prior record ∈ since_restart (w.trace ++ [.restarted]) := hmem
      rw [since_restart, List.rtakeWhile_concat] at hmem
      cases hmem

end Steps

/-- Polls come after the delay and a minute apart, and a recovery follows on a confirmation that was the
last observation of its run. -/
theorem restart_confirmed {cfg : Config} {w : World} (h : (watchdog cfg).ReachableIf (Readable cfg) w) :
    Logged (Lawful cfg) w.trace := by
  have hinductive : (watchdog cfg).InductiveIf (Readable cfg) (Sound cfg) := by
    constructor
    · rintro _ rfl
      exact ⟨Logged.nil, rfl, fun _ hp => absurd hp List.not_mem_nil,
        fun _ _ _ hp => absurd hp List.not_mem_nil⟩
    · intro s l s' hsound hreadable hstep
      obtain rfl := Option.some.inj hstep
      exact sound_step hsound hreadable
  exact (hinductive.reachable h).lawful

/-! ## An observation that cannot be read -/

namespace Sample

def config : Config where
  letter _ := false
  str _ := ""
  float _ := some 0
  repr _ := FloatText.zero
  fromisoformat _ := none
  sha256 _ := ⟨"0", by decide +kernel⟩
  has_recovery := true

def record : Dict :=
  Dict.ofList [("watchdog_managed", .bool true),
    ("policy_state", .ofDict (Dict.ofList [("watchdog_started_at", .int 0)] (by simp)))] (by simp)

def answer (choice : String) : Dict :=
  Dict.ofList [("choice", .str choice), ("confidence", .int 1)] (by simp)

/-- A call, the recovery of which raises if there is one. -/
def inputs (now : ℚ) (choice : String) : Inputs where
  run_id := "run-1"
  now := now
  record := some record
  facts := some .null
  answer := some (answer choice)
  recovery := none
  timestamp := now
  latency_ms := 0

def call (now : ℚ) (choice : String) : Label := .observe (inputs now choice)

def start : World := ⟨[], fun _ => none, []⟩

/-- The second observation has a line separator in its choice. -/
def interrupted : World :=
  (watchdog config).after start
    [call 300 "RESTART_SESSION", call 360 "WAIT\u2028", call 420 "RESTART_SESSION"]

/-- The last event is a recovery, and this has been asked for before. -/
def recovered_after (trace : List Event) : Option String :=
  match trace.getLast? with
  | some (.recovered run_id _) =>
    match (last_entry run_id trace.dropLast).bind fun e => e.get? "requested_choice" with
    | some (.str choice) => some choice
    | _ => none
  | _ => none

theorem plain (now : ℚ) : Plain config (inputs now "RESTART_SESSION") where
  run_id := by
    show RegistryFile.safeText "run-1" = true
    exact safeText_literal rfl (by decide)
  record := by
    rintro _ ⟨⟩ key hkey
    rw [List.mem_cons, List.mem_singleton] at hkey
    rcases hkey with rfl | rfl <;> decide +kernel
  session := by
    rintro _ binding ⟨⟩ hbinding
    obtain rfl := Option.some.inj hbinding
    rfl
  choice := by
    rintro _ ⟨⟩
    decide +kernel
  probabilities := by
    rintro _ given ⟨⟩ hgiven
    obtain rfl := Option.some.inj hgiven
    decide +kernel
  recovery := by rintro _ ⟨⟩

theorem interlock_passes :
    (recovery_snapshot config record).bind (deterministic_interlock config record) =
      some (true, "INTERLOCKS_PASS") := by
  decide +kernel

theorem judge_some {raw : Dict} (hprobabilities : (probabilities_of config raw).isSome = true)
    (hconfidence : (raw.get? "confidence").filter Json.truthy = some (.int 1)) :
    ∃ j, judge config record raw = some j ∧ j.interlock.1 = true := by
  obtain ⟨p, hp⟩ := Option.isSome_iff_exists.mp hprobabilities
  have hc : confidence_of config raw p = some 0 := by
    rw [confidence_of, hconfidence]
    rfl
  obtain ⟨snapshot, hsnapshot, hinterlock⟩ := Option.bind_eq_some_iff.mp interlock_passes
  refine ⟨⟨requested_choice config raw, p, 0, (true, "INTERLOCKS_PASS"), snapshot⟩, ?_, rfl⟩
  exact Option.bind_eq_some_iff.mpr ⟨p, hp, Option.bind_eq_some_iff.mpr ⟨0, hc,
    Option.bind_eq_some_iff.mpr ⟨snapshot, hsnapshot, Option.bind_eq_some_iff.mpr ⟨_, hinterlock, rfl⟩⟩⟩⟩

/-- The entry of the second answer. -/
def broken : Option Dict :=
  entry config (inputs 360 "WAIT\u2028") ⟨record, .null, 360, []⟩ (answer "WAIT\u2028")
    ⟨"WAIT\u2028", fun _ => 0, 0, (true, ""), .null⟩ ⟨"ESCALATE_MAIN", "ESCALATE_NO_TERMINATION", false, none⟩

theorem entry_broken {a : Admitted} {j : Judged} (ha : a.record = record)
    (hj : j.requested_choice = "WAIT\u2028") :
    entry config (inputs 360 "WAIT\u2028") a (answer "WAIT\u2028") j
      ⟨"ESCALATE_MAIN", "ESCALATE_NO_TERMINATION", false, none⟩ = broken := by
  rw [broken, entry, entry, ha, hj]
  rfl

theorem broken_lost : broken.bind (fun e => rows [safe_dict config.letter e] "run-1") = some [] := by
  decide +kernel

theorem gate_passes {w : World} {now : ℚ} {choice : String} {recents : List Dict} (hnow : 300 ≤ now)
    (hlast : ∀ last, w.last_check "run-1" = some last → 60 ≤ now - last)
    (hrecent : recent w.history "run-1" = some recents) :
    w.gate config (inputs now choice) = .ok ⟨record, .null, now - 0, recents⟩ :=
  gate_eq_ok rfl (by decide +kernel) (by decide +kernel) rfl (show 300 ≤ now - 0 by linarith) hlast rfl hrecent

/-- The first call records that a restart has to be confirmed. -/
theorem first_recorded : ∃ e, start.step config (call 300 "RESTART_SESSION") =
      ⟨[safe_dict config.letter e], Function.update (fun _ => none) "run-1" (some 300),
        [.polled "run-1" 300 record, .recorded "run-1" e]⟩ ∧
    Made "run-1" e ∧ e.get? "requested_choice" = some (.str "RESTART_SESSION") ∧
    e.get? "follow_up" = some (.str "RESTART_CONFIRMATION_REQUIRED") := by
  obtain ⟨j, hjudge, -⟩ := @judge_some (answer "RESTART_SESSION") (by decide +kernel) rfl
  have hasked : j.requested_choice = "RESTART_SESSION" := judge_requested (a := ⟨record, .null, 0, []⟩) hjudge
  have hgate : start.gate config (inputs 300 "RESTART_SESSION") = .ok ⟨record, .null, 300 - 0, []⟩ :=
    gate_passes le_rfl (fun _ h => absurd h (by simp [start])) rfl
  have hrule : rule config [] j none = some ⟨"RESTART_SESSION", "RESTART_CONFIRMATION_REQUIRED", false, none⟩ := by
    rw [rule, if_pos hasked, hasked]
    rfl
  obtain ⟨e, hentry⟩ : ∃ e, entry config (inputs 300 "RESTART_SESSION") ⟨record, .null, 300 - 0, []⟩
    (answer "RESTART_SESSION") j ⟨"RESTART_SESSION", "RESTART_CONFIRMATION_REQUIRED", false, none⟩ = some e := ⟨_, rfl⟩
  obtain ⟨-, hrequested, -, hfollow⟩ := entry_texts hentry
  refine ⟨e, ?_, ?_, hasked ▸ hrequested, hfollow⟩
  · rw [call, step_observe hgate, poll_recorded (i := inputs 300 "RESTART_SESSION")
      (a := ⟨record, .null, 300 - 0, []⟩) rfl hjudge (by simp [recovers, prior_restart]) hrule hentry]
    rfl
  · exact entry_made (a := ⟨record, .null, 300 - 0, []⟩) (plain 300) rfl rfl hjudge hrule hentry

/-- The second one records an entry that is cut when it is read back. -/
theorem second_recorded {w : World} {recents : List Dict} (hlast : w.last_check "run-1" = some 300)
    (hrecent : recent w.history "run-1" = some recents) :
    ∃ e, w.step config (call 360 "WAIT\u2028") =
        ⟨w.history ++ [safe_dict config.letter e], Function.update w.last_check "run-1" (some 360),
          w.trace ++ [.polled "run-1" 360 record] ++ [.recorded "run-1" e]⟩ ∧
      rows [safe_dict config.letter e] "run-1" = some [] ∧ e.get? "requested_choice" = some (.str "WAIT\u2028") := by
  obtain ⟨j, hjudge, -⟩ := @judge_some (answer "WAIT\u2028") (by decide +kernel) rfl
  have hasked : j.requested_choice = "WAIT\u2028" := judge_requested (a := ⟨record, .null, 0, []⟩) hjudge
  have hgate : w.gate config (inputs 360 "WAIT\u2028") = .ok ⟨record, .null, 360 - 0, recents⟩ := by
    refine gate_passes (by norm_num) (fun last h => ?_) hrecent
    obtain rfl := Option.some.inj (h.symm.trans hlast)
    norm_num
  have hother : ¬ j.requested_choice = "RESTART_SESSION" := by
    rw [hasked]
    decide
  have hrule : rule config recents j none =
      some ⟨"ESCALATE_MAIN", "ESCALATE_NO_TERMINATION", false, none⟩ := by
    rw [rule, if_neg hother, if_neg]
    rw [hasked]
    decide
  obtain ⟨e, hbroken, hlost⟩ := Option.bind_eq_some_iff.mp broken_lost
  have hentry := (entry_broken (a := ⟨record, .null, 360 - 0, recents⟩) rfl hasked).trans hbroken
  refine ⟨e, ?_, hlost, hasked ▸ (entry_texts hentry).2.1⟩
  rw [call, step_observe hgate, poll_recorded (i := inputs 360 "WAIT\u2028")
      (a := ⟨record, .null, 360 - 0, recents⟩) rfl hjudge (by simp [recovers, hother]) hrule hentry]
  rfl

theorem third_recovered {w : World} {row : Dict} (hlast : w.last_check "run-1" = some 360)
    (hrecent : recent w.history "run-1" = some [row]) (hprior : prior_restart config [row] = true) :
    (w.step config (call 420 "RESTART_SESSION")).trace =
      w.trace ++ [.polled "run-1" 420 record] ++ [.recovered "run-1" record] := by
  obtain ⟨j, hjudge, hinterlock⟩ := @judge_some (answer "RESTART_SESSION") (by decide +kernel) rfl
  have hasked : j.requested_choice = "RESTART_SESSION" := judge_requested (a := ⟨record, .null, 0, []⟩) hjudge
  have hgate : w.gate config (inputs 420 "RESTART_SESSION") = .ok ⟨record, .null, 420 - 0, [row]⟩ := by
    refine gate_passes (by norm_num) (fun last h => ?_) hrecent
    obtain rfl := Option.some.inj (h.symm.trans hlast)
    norm_num
  have hrecovers : recovers config [row] j = true := by
    rw [recovers, decide_eq_true hasked, hprior, hinterlock]
    rfl
  rw [call, step_observe hgate, poll_unrecovered (i := inputs 420 "RESTART_SESSION")
      (a := ⟨record, .null, 420 - 0, [row]⟩) rfl hjudge hrecovers rfl]
  rfl

theorem after_eq (cfg : Config) (labels : List Label) (w : World) :
    (watchdog cfg).after w labels = labels.foldl (World.step cfg) w := by
  have hexec : (watchdog cfg).exec w labels = some (labels.foldl (World.step cfg) w) := by
    induction labels generalizing w with
    | nil => rfl
    | cons l labels ih => exact ih (w.step cfg l)
  rw [Machine.after, hexec]
  rfl

theorem interrupted_eq : interrupted =
    ((start.step config (call 300 "RESTART_SESSION")).step config (call 360 "WAIT\u2028")).step config
      (call 420 "RESTART_SESSION") := by
  rw [interrupted, after_eq, List.foldl_cons, List.foldl_cons, List.foldl_cons, List.foldl_nil]

theorem safe_text_kept {letter : Char → Bool} {text : String}
    (h : text = "RESTART_SESSION" ∨ text = "RESTART_CONFIRMATION_REQUIRED" ∨ text = "run-1") :
    safe_text letter text = text := by
  rcases h with rfl | rfl | rfl
  · exact (safe_text_literal rfl rfl (by decide) (by decide)).mpr rfl
  · exact (safe_text_literal rfl rfl (by decide) (by decide)).mpr rfl
  · exact (safe_text_literal rfl rfl (by decide) (by decide)).mpr rfl

theorem recovered_after_concat {trace : List Event} {run_id choice : String} {record e : Dict}
    (hlast : last_entry run_id trace = some e) (hchoice : e.get? "requested_choice" = some (.str choice)) :
    recovered_after (trace ++ [.recovered run_id record]) = some choice := by
  rw [recovered_after, List.getLast?_concat, List.dropLast_concat]
  simp only [hlast, Option.bind_some, hchoice]

theorem interrupted_recovers : recovered_after interrupted.trace = some "WAIT\u2028" := by
  obtain ⟨e, hfirst, hmade, hrequested, hfollow⟩ := first_recorded
  have hrow : prior_restart config [(safe_dict config.letter e).sorted] = true := by
    rw [prior_restart, List.getLast?_singleton, Option.any_some, last_choice, row_text rfl hrequested,
      row_text rfl hfollow, safe_text_kept (.inl rfl), safe_text_kept (.inr (.inl rfl))]
    rfl
  have hkept : ((safe_dict config.letter e).sorted.get? "run_id" == some (.str "run-1")) = true := by
    rw [row_text rfl hmade.run_id, safe_text_kept (.inr (.inr rfl))]
    rfl
  have hline : RegistryFile.lineSafe (safe_dict config.letter e) = true := safe_allStrings e.json hmade.line
  have hread {history : List Dict} (hrest : rows history "run-1" = some []) :
      recent (safe_dict config.letter e :: history) "run-1" = some [(safe_dict config.letter e).sorted] := by
    rw [recent, rows_cons hline hrest, List.filter_cons, hkept]
    rfl
  have hfirst_read : recent (start.step config (call 300 "RESTART_SESSION")).history "run-1" =
      some [(safe_dict config.letter e).sorted] := by
    rw [hfirst]
    exact hread rfl
  obtain ⟨e', hsecond, hlost, hwait⟩ := second_recorded (by rw [hfirst]; rfl) hfirst_read
  -- of the second entry nothing is read, so that the first one is taken for the last
  have hsecond_read : recent ((start.step config (call 300 "RESTART_SESSION")).step config
      (call 360 "WAIT\u2028")).history "run-1" = some [(safe_dict config.letter e).sorted] := by
    rw [hsecond, hfirst]
    exact hread hlost
  rw [interrupted_eq, third_recovered (by rw [hsecond]; rfl) hsecond_read hrow]
  refine recovered_after_concat ?_ hwait
  rw [hsecond, hfirst]
  rfl

end Sample

theorem recovered_after_lawful {cfg : Config} {trace : List Event} {choice : String}
    (hlogged : Logged (Lawful cfg) trace) (h : Sample.recovered_after trace = some choice) :
    choice = "RESTART_SESSION" := by
  rw [Sample.recovered_after] at h
  split at h
  · rename_i run_id record hlast
    obtain ⟨-, -, entry, hentry, hrequested, -⟩ :=
      hlogged _ _ [] (List.dropLast_append_getLast? _ hlast).symm
    rw [hentry, Option.bind_some, hrequested] at h
    exact (Option.some.inj h).symm
  · cases h

theorem restart_confirmed_sample :
    Logged (Lawful Sample.config) (Sample.start.step Sample.config (Sample.call 300 "RESTART_SESSION")).trace :=
  restart_confirmed ⟨Sample.start, [Sample.call 300 "RESTART_SESSION"], rfl,
    .single ⟨Sample.plain 300, fun _ _ h => absurd h List.not_mem_nil⟩ rfl⟩

/-- The recovery follows on an observation that asked for something else, and that has been lost. -/
theorem unconfirmed_restart :
    ∃ w, (watchdog Sample.config).Reachable w ∧ ¬ Logged (Lawful Sample.config) w.trace := by
  refine ⟨Sample.interrupted, Machine.reachable_after rfl _, fun hlogged => ?_⟩
  have hrecovered := Sample.interrupted_recovers
  exact absurd (recovered_after_lawful hlogged hrecovered) (by decide)

end SessionWatchdog

end Plachem
