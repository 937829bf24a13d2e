import PlachemMonitor.Registry.Recent

/-!
# Which runs are recovered

`evaluate_recovery` on a failed run, and the accounting that the recovery layer keeps in the goal
state of the runs it dispatches: `Marks` are the entries it reads back. `marks_appended` says what
a mutation of the registry does to them.
-/

namespace Plachem

namespace RecoveryLayer

open RunRegistry (last)

def MAX_RECOVERY_ATTEMPTS : Int := 1

def MAX_RECOVERY_DISPATCH_ATTEMPTS : Nat := 3

/-! ## Classification -/

inductive FailClass where
  | RESULT_RECOVERABLE
  | SESSION_RECOVERABLE
  | POLICY_BLOCKED
  | UNKNOWN
  deriving DecidableEq

def FailClass.value : FailClass → String
  | RESULT_RECOVERABLE => "RESULT_RECOVERABLE"
  | SESSION_RECOVERABLE => "SESSION_RECOVERABLE"
  | POLICY_BLOCKED => "POLICY_BLOCKED"
  | UNKNOWN => "UNKNOWN"

def RESULT_RECOVERABLE_REASONS : List String :=
  ["MISSING_RESULT", "OPENCLAW_RUN_MISMATCH", "HISTORY_WATERMARK_UNVERIFIABLE",
    "UNKNOWN_OPENCLAW_STATUS"]

def SESSION_RECOVERABLE_REASONS : List String :=
  ["TRANSPORT_FAILURE", "WAIT_REJECTED", "WORKER_FAILED", "TRANSPORT_TIMEOUT", "OPENCLAW_ERROR"]

def POLICY_BLOCKED_REASONS : List String := ["POLICY_ABORT_FAILED", "USER_CANCEL"]

/-- `_RESULT_VALIDATION_PREFIXES` -/
def RESULT_VALIDATION_PREFIXES : List String :=
  ["EVIDENCE_VALIDATION_FAILED:", "SCOPE_VALIDATION_FAILED:", "ARTIFACT_VALIDATION_FAILED:",
    "RESULT_SCHEMA_VALIDATION_FAILED:"]

/-- `_PRE_EXECUTION_BLOCK_REASONS` -/
def PRE_EXECUTION_BLOCK_REASONS : List String :=
  ["AUTH_AUTH_REQUIRED", "AUTH_BROKER_UNAVAILABLE", "AUTH_BINDING_MISMATCH",
    "AUTH_FORBIDDEN_FIELD", "AUTH_EXPIRED", "AUTH_CONFLICT"]

def classify_fail (reason : String) : FailClass :=
  let value := Text.strip reason
  if value ∈ POLICY_BLOCKED_REASONS then .POLICY_BLOCKED
  else if value ∈ SESSION_RECOVERABLE_REASONS then .SESSION_RECOVERABLE
  else if value ∈ RESULT_RECOVERABLE_REASONS then .RESULT_RECOVERABLE
  else if RESULT_VALIDATION_PREFIXES.any fun p => p.toList.isPrefixOf value.toList then
    .RESULT_RECOVERABLE
  else .UNKNOWN

def is_recoverable_class (fail_class : FailClass) : Bool :=
  decide (fail_class ∈ [.RESULT_RECOVERABLE, .SESSION_RECOVERABLE])

/-- `_is_pre_execution_block` -/
def is_pre_execution_block (status : CoreRunStatus) (reason : String) : Bool :=
  decide (status = .BLOCKED ∧ reason ∈ PRE_EXECUTION_BLOCK_REASONS)

structure RecoveryVerdict where
  fail_class : FailClass
  eligible : Bool
  reason : String
  detail : String
  deriving DecidableEq

/-- `evaluate_recovery`, as the layer calls it: with the execution attempts that it counted. -/
def evaluate_recovery (record : RunRecord) (existing_execution_attempts : Int) :
    RecoveryVerdict :=
  let fail_class := classify_fail record.reason
  if record.watchdog_managed then
    ⟨fail_class, false, "WATCHDOG_MANAGED_REQUIRES_CONTROLLED_REQUEUE", record.reason⟩
  else if record.status ≠ .FAIL then
    ⟨fail_class, false, "NOT_FAIL", "status=" ++ record.status.value⟩
  else if is_recoverable_class fail_class = false then
    ⟨fail_class, false, "CLASS_NOT_RECOVERABLE", record.reason⟩
  else if MAX_RECOVERY_ATTEMPTS ≤ existing_execution_attempts then
    ⟨fail_class, false, "MAX_RECOVERY_ATTEMPTS",
      "execution_attempts=" ++ toString existing_execution_attempts⟩
  else ⟨fail_class, true, "ELIGIBLE", record.reason⟩

/-- The run failed for a reason that recovery is for. -/
def Recoverable (record : RunRecord) : Prop :=
  record.status = .FAIL ∧ is_recoverable_class (classify_fail record.reason) = true

theorem eligible_iff {record : RunRecord} {existing : Int} :
    (evaluate_recovery record existing).eligible = true ↔
      record.watchdog_managed = false ∧ Recoverable record ∧ existing < MAX_RECOVERY_ATTEMPTS := by
  unfold evaluate_recovery Recoverable
  dsimp only
  split
  · simp [*]
  split
  · simp [*]
  split
  · simp [*]
  split
  · simp_all
  · simp_all

/-! ## The marks of a child -/

/-- `policy_state.get("goal") or {}`: only dictionaries are stored there. -/
def goalOf (policy_state : Dict) : Dict :=
  ((policy_state.getD "goal" .null).dict?).getD Dict.empty

/-- `(record.get("policy_state") or {}).get("goal") or {}` -/
def goal_state (record : RunRecord) : Dict := goalOf record.policy_state

/-- A text that is stored under the key and is not empty. -/
def textAt (goal : Dict) (key : String) : Option String :=
  match goal.get? key with
  | some (.str s) => if s = "" then none else some s
  | _ => none

/-- `int(goal.get(key) or 0)`: only integers are stored there. -/
def intAt (goal : Dict) (key : String) : Int :=
  match goal.get? key with
  | some (.int n) => n
  | _ => 0

/-- The entries of a goal state that the layer reads back. -/
structure Marks where
  recovery_source_run_id : Option String
  recovery_execution_attempt : Int
  watchdog_recovery_source_run_id : Option String
  deriving DecidableEq

def Marks.none : Marks := ⟨.none, 0, .none⟩

def marksOf (goal : Dict) : Marks where
  recovery_source_run_id := textAt goal "recovery_source_run_id"
  recovery_execution_attempt := intAt goal "recovery_execution_attempt"
  watchdog_recovery_source_run_id := textAt goal "watchdog_recovery_source_run_id"

def marks (record : RunRecord) : Marks := marksOf (goal_state record)

/-- `_is_recovery_child` -/
def is_recovery_child (record : RunRecord) : Bool := (marks record).recovery_source_run_id.isSome

/-- The record is marked as a recovery child of the run. -/
def isChildOf (core_run_id : String) (record : RunRecord) : Bool :=
  (marks record).recovery_source_run_id == some core_run_id

/-- `_count_existing_dispatches` on the records that `recent` returned. -/
def count_existing_dispatches (records : List RunRecord) (core_run_id : String) : Nat :=
  records.countP (isChildOf core_run_id)

/-- `_max_execution_attempts` on the records that `recent` returned. -/
def max_execution_attempts (records : List RunRecord) (core_run_id : String) : Int :=
  ((records.filter (isChildOf core_run_id)).map fun r =>
    (marks r).recovery_execution_attempt).foldl max 0

/-- The count of `recover_watchdog_cancelled` on the records that `recent` returned. -/
def count_watchdog_children (records : List RunRecord) (core_run_id : String) : Nat :=
  records.countP fun r => (marks r).watchdog_recovery_source_run_id == some core_run_id

theorem le_foldl_max {n : Int} : ∀ {ns : List Int} {b : Int}, n ∈ ns ∨ n ≤ b → n ≤ ns.foldl max b
  | [], b, h => h.elim (fun h => nomatch h) id
  | a :: ns, b, h => by
    refine @le_foldl_max n ns (max b a) ?_
    rcases h with h | h
    · rcases List.mem_cons.mp h with rfl | h
      · exact .inr (le_max_right b n)
      · exact .inl h
    · exact .inr (h.trans (le_max_left b a))

/-- Each child that is shown has at most as many attempts as the largest number. -/
theorem le_max_execution_attempts {records : List RunRecord} {r : RunRecord} {id : String}
    (hr : r ∈ records) (hchild : isChildOf id r = true) :
    (marks r).recovery_execution_attempt ≤ max_execution_attempts records id :=
  le_foldl_max (.inl (List.mem_map_of_mem (List.mem_filter.mpr ⟨hr, hchild⟩)))

/-! ## Marks in the registry -/

theorem dict?_ofDict (d : Dict) : (Value.ofDict d).dict? = some d := rfl

theorem getD_set (d : Dict) (key : String) (v default : Value) :
    (d.set key v).getD key default = v := by
  unfold Dict.getD
  split
  · rename_i h
    rw [Dict.get?_set_self] at h
    cases h
  · rename_i w h
    rw [Dict.get?_set_self] at h
    obtain rfl := Option.some.inj h
    rfl

theorem marks_congr {r r' : RunRecord} (h : r'.policy_state = r.policy_state) :
    marks r' = marks r := by
  rw [marks, goal_state, h]
  rfl

/-- A goal state that was written is read back. -/
theorem marks_of_goal {r r' : RunRecord} {goal : Dict}
    (h : r'.policy_state = r.policy_state.set "goal" (.ofDict goal)) : marks r' = marksOf goal := by
  rw [marks, goal_state, h, goalOf, getD_set, dict?_ofDict]
  rfl

/-- A new run has no marks. -/
theorem marks_record (args : CreateArgs) (id now : String) :
    marks (args.record id now) = Marks.none := by
  have h : goal_state (args.record id now) = Dict.empty := by
    show goalOf ((Dict.empty.set "retry_count" (.int 0)).set "tool_call_count" .null) = Dict.empty
    decide +kernel
  rw [marks, h]
  rfl

/-- The goal state that the mutation writes, if it writes one. -/
def written (m : Mutation) : Option Dict :=
  match m with
  | .update_goal_state _ args _ _ => args.goal_state
  | .update_policy _ args _ _ => args.policy_state.map goalOf
  | _ => none

/-- A record that is appended has no marks, the marks of the goal state that is written, or those
of the record before. -/
theorem marks_appended {log : Log} {m : Mutation} {r : RunRecord} (h : m.Appends log r) :
    (last r.core_run_id log = none ∧ marks r = Marks.none) ∨
    ∃ old, last r.core_run_id log = some old ∧
      (written m = none ∧ marks r = marks old ∨
        ∃ goal, written m = some goal ∧ marks r = marksOf goal) := by
  cases h with
  | create hid hkey => exact .inl ⟨RunRegistry.last_eq_none.mpr hid, marks_record ..⟩
  | @transition id status binding outcome reason now old hlast hstatus =>
    have hident := old.transitioned_identity status binding outcome reason now
    refine .inr ⟨old, Mutation.last_of_identity hlast hident, .inl ⟨rfl, marks_congr ?_⟩⟩
    exact old.transitioned_policy_state status binding outcome reason now
  | reconcile_abort_observation hlast hstatus hreason =>
    exact .inr ⟨_, Mutation.last_of_identity hlast rfl, .inl ⟨rfl, marks_congr rfl⟩⟩
  | @update_goal_state id args event_at now old r hlast h =>
    obtain ⟨hident, -, hstate⟩ := RunRecord.goalUpdated_ok h
    refine .inr ⟨old, Mutation.last_of_identity hlast hident, ?_⟩
    cases hgoal : args.goal_state with
    | none =>
      rw [hgoal] at hstate
      exact .inl ⟨hgoal, marks_congr hstate⟩
    | some goal =>
      rw [hgoal] at hstate
      exact .inr ⟨goal, hgoal, marks_of_goal hstate⟩
  | @update_policy id args event_at now old r hlast h =>
    obtain ⟨hident, -, hstate⟩ := RunRecord.policyUpdated_ok h
    refine .inr ⟨old, Mutation.last_of_identity hlast hident, ?_⟩
    cases hpolicy : args.policy_state with
    | none =>
      rw [hpolicy] at hstate
      exact .inl ⟨by rw [written, hpolicy]; rfl, marks_congr hstate⟩
    | some state =>
      rw [hpolicy] at hstate
      refine .inr ⟨_, by rw [written, hpolicy]; rfl, ?_⟩
      rw [marks, goal_state, hstate, Option.getD_some]

end RecoveryLayer

end Plachem
