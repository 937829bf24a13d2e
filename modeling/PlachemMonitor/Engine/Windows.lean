import Mathlib.Algebra.Order.Field.Basic
import Mathlib.Tactic.Linarith
import PlachemMonitor.Engine.Observation
import PlachemMonitor.Registry.Lifecycle

/-!
# Observation windows

`agent.wait` gives up after a bounded window: the adapter answers TIMEOUT with the reason
`OPENCLAW_TIMEOUT`, which says nothing about the run. `wait` and the deadline timer take it for that,
and end a run only when its budget is over, after the abort of its worker;
`reconcile_external_completion` records it (`window_no_deadline`).
-/

namespace Plachem

namespace Mutation

/-- The mutation is none that changes the status of a run. -/
def IsUpdate : Mutation → Bool
  | update_goal_state .. | update_policy .. => true
  | create .. | transition .. | reconcile_abort_observation .. => false

end Mutation

/-- The last record of a run after an update of some run. -/
theorem RunRegistry.last_updated {log : Log} {m : Mutation} (hm : m.IsUpdate = true) {id : String}
    {r' : RunRecord} (h : last id (m.run log) = some r') :
    ∃ r, last id log = some r ∧ r'.identity = r.identity ∧ r'.ending = r.ending := by
  rcases m.run_cases log with hrun | ⟨q, hrun, happ⟩
  · rw [hrun] at h
    exact ⟨r', h, rfl, rfl⟩
  · rw [hrun] at h
    by_cases hid : q.core_run_id = id
    · subst hid
      rw [last_append_self] at h
      obtain rfl := Option.some.inj h
      cases happ with
      | create | transition | reconcile_abort_observation => cases hm
      | update_goal_state hlast hupd =>
        obtain ⟨hident, hend, -⟩ := RunRecord.goalUpdated_ok hupd
        exact ⟨_, Mutation.last_of_identity hlast hident, hident, hend⟩
      | update_policy hlast hupd =>
        obtain ⟨hident, hend, -⟩ := RunRecord.policyUpdated_ok hupd
        exact ⟨_, Mutation.last_of_identity hlast hident, hident, hend⟩
    · rw [last_append_ne _ hid] at h
      exact ⟨r', h, rfl, rfl⟩

namespace CoreEngine

open Effect
open RunRegistry (last readable)

/-- The window of `agent.wait` is over. -/
def Waited.IsWindow : Waited → Prop
  | .outcome o => o.status = .TIMEOUT ∧ o.reason = "OPENCLAW_TIMEOUT"
  | .timeout | .transport | .rejected | .raised => False

/-- A call that asks the adapter for the outcome of a run. `_finalize_local_execution` is a part of
the first two. -/
inductive Observing where
  | wait (timeout_seconds : ℚ) (collection : Collection) (guarded : Bool) (polls : List Poll)
  | timer (collection : Collection)
  | reconcile (answer : Waited)

namespace Observing

/-- What the adapter answers to the call. -/
def answers : Observing → List Waited
  | wait _ collection _ polls => collection.answer :: polls.map Poll.answer
  | timer collection => [collection.answer]
  | reconcile answer => [answer]

def run {ρ : Type} (env : ObserveEnv) (engine : Engine ρ) (id : String) : Observing → Act Unit
  | wait timeout_seconds collection guarded polls =>
    discard <| CoreEngine.wait env engine id timeout_seconds collection guarded polls
  | timer collection => enforce_runtime_deadline env engine id collection
  | reconcile answer => discard <| reconcile_external_completion env id answer

/-- The execution budget of the run is over when the call reads the clock. A timer fires when it is. -/
def Exhausted (profile : RuntimeModelProfile) : Observing → Prop
  | wait _ _ _ polls => ∃ poll ∈ polls,
      profile.execution_budget ≤ max 0 poll.reading₀ ∨ profile.execution_budget ≤ max 0 poll.reading
  | timer _ => True
  | reconcile _ => False

end Observing

/-! ## What a call that sees only windows keeps -/

/-- The run ends only after an abort that is not one of the first `n`, if its budget is over, and not
as TIMEOUT. -/
def EndsByAbort (id : String) (n : Nat) (exhausted : Prop) (s : Core) : Prop :=
  n ≤ s.aborts.length ∧ ∀ r, last id s.log = some r → r.status ∈ CoreRunStatus.terminal →
    r.status ≠ .TIMEOUT ∧ exhausted ∧ n < s.aborts.length

/-- The worker of the run has been asked to stop, and the run is not TIMEOUT. -/
def AbortAsked (id : String) (n : Nat) (s : Core) : Prop :=
  n < s.aborts.length ∧ ∀ r, last id s.log = some r → r.status ≠ .TIMEOUT

section Keeps

variable {env : ObserveEnv} {ρ : Type} {engine : Engine ρ} {id : String} {n : Nat} {exhausted : Prop}

theorem keeps_require {I : Core → Prop} : Keeps I (require id) := by
  refine Keeps.get.bind fun s => ?_
  split
  · exact .pure _
  · exact .throw _

theorem keeps_clear {I : Core → Prop} (h : ∀ s timers, I s → I { s with timers := timers }) :
    Keeps I (clear_runtime_deadline id) :=
  fun s hs => h s _ hs

/-- A mutation keeps what its run of the log keeps. -/
theorem keeps_mutate {I : Core → Prop} {m : Nat → Mutation}
    {f : Log → Except RegistryError (RunRecord × Log)}
    (hf : ∀ log, f log = (m log.length).apply log)
    (h : ∀ s n, I s → I { s with log := (m n).run s.log }) : Keeps I (mutate f) := by
  intro s hs
  have hrun := h s s.log.length hs
  rw [Mutation.run, ← hf] at hrun
  unfold mutate
  rw [eval_bind_ok (eval_get s)]
  cases hcall : f s.log with
  | error e => exact hs
  | ok p =>
    rw [hcall] at hrun
    exact hrun

/-- An update of a run leaves the statuses of all runs as they are. -/
theorem keeps_update {m : Nat → Mutation} {f : Log → Except RegistryError (RunRecord × Log)}
    (hm : ∀ k, (m k).IsUpdate = true) (hf : ∀ log, f log = (m log.length).apply log) :
    Keeps (EndsByAbort id n exhausted) (mutate f) := by
  refine keeps_mutate hf fun s k hs => ⟨hs.1, fun r' hr' hterm => ?_⟩
  obtain ⟨r, hr, -, hend⟩ := RunRegistry.last_updated (hm k) hr'
  have hstatus : r'.status = r.status := congrArg RunRecord.Ending.status hend
  rw [hstatus] at hterm ⊢
  exact hs.2 r hr hterm

theorem keeps_update_goal_state (args : GoalUpdate) :
    Keeps (EndsByAbort id n exhausted) (update_goal_state env id args) :=
  keeps_update (m := fun k => .update_goal_state id args (env.event_at k) (env.now k))
    (fun _ => rfl) fun _ => rfl

theorem keeps_update_policy (args : PolicyUpdate) :
    Keeps (EndsByAbort id n exhausted) (update_policy env id args) :=
  keeps_update (m := fun k => .update_policy id args (env.event_at k) (env.now k))
    (fun _ => rfl) fun _ => rfl

theorem keeps_record_runtime (seconds : ℚ) :
    Keeps (EndsByAbort id n exhausted) (record_runtime env id seconds) :=
  (keeps_update_policy _).map _

/-- A transition of the run to another status than TIMEOUT. -/
theorem keeps_transition {status : CoreRunStatus} (hstatus : status ≠ .TIMEOUT)
    (binding : Option RunBinding) (outcome : Option AdapterOutcome) (reason : String) :
    Keeps (AbortAsked id n) (transition env id status binding outcome reason) := by
  refine keeps_mutate (m := fun k => .transition id status binding outcome reason (env.now k))
    (fun _ => rfl) fun s k hs => ⟨hs.1, fun r' hr' => ?_⟩
  rcases Mutation.run_cases s.log (.transition id status binding outcome reason (env.now k))
    with hrun | ⟨q, hrun, happ⟩
  · rw [hrun] at hr'
    exact hs.2 r' hr'
  · rw [hrun] at hr'
    cases happ with
    | @transition _ _ _ _ _ _ old hlast _ =>
      rw [RunRegistry.last_append_identity hlast (RunRecord.transitioned_identity ..)] at hr'
      rw [← Option.some.inj hr', RunRecord.transitioned_status]
      exact hstatus

theorem keeps_abort_and_end (h : exhausted) (reason : String) :
    Keeps (EndsByAbort id n exhausted) (abort_and_end env id reason) := by
  have hclear : Keeps (AbortAsked id n) (clear_runtime_deadline id) := keeps_clear fun _ _ hs => hs
  have hinto : ∀ s, AbortAsked id n s → EndsByAbort id n exhausted s :=
    fun s hs => ⟨hs.1.le, fun r hr _ => ⟨hs.2 r hr, h, hs.1⟩⟩
  refine Keeps.bind_into (fun s hs => ?_) (fun binding => ?_) hinto
  · have hasked : AbortAsked id n { s with aborts := s.aborts ++ [id] } := by
      refine ⟨?_, fun r hr hstatus => ?_⟩
      · rw [List.length_append]
        exact Nat.lt_succ_of_le hs.1
      · exact (hs.2 r hr (by rw [hstatus]; decide)).1 hstatus
    unfold cancel_worker
    rw [eval_bind_ok (eval_modify _ s)]
    split <;> exact hasked
  · cases binding with
    | none => exact hclear.bind fun _ => keeps_transition (by decide) _ _ _
    | some binding => exact hclear.bind fun _ => keeps_transition (by decide) _ _ _

theorem keeps_escalate (reason : String) (record : RunRecord) :
    Keeps (EndsByAbort id n exhausted) (escalate env id reason record) := by
  unfold escalate
  split
  · split
    · exact .throw _
    · split
      · exact (keeps_update_goal_state _).map _
      · exact .pure _
  · exact .pure _

/-- The policy ends a run whose budget is over. -/
theorem keeps_cancel_for_policy (h : exhausted) (event_code : String) (recorded : Option String) :
    Keeps (EndsByAbort id n exhausted) (cancel_for_policy env id event_code recorded) := by
  have hend : ∀ reason, Keeps (EndsByAbort id n exhausted) (end_for_policy env id reason) :=
    fun reason => keeps_require.bind fun record =>
      (keeps_escalate reason record).bind fun _ => keeps_abort_and_end h reason
  unfold cancel_for_policy
  cases recorded with
  | some reason => exact hend reason
  | none => exact ((keeps_update_policy _).map _).bind fun _ => hend _

theorem keeps_note_exhausted (profile : RuntimeModelProfile) (record : RunRecord) :
    Keeps (EndsByAbort id n exhausted) (note_exhausted env id profile record) := by
  unfold note_exhausted
  split
  · exact (keeps_update_policy _).map _
  · exact .pure _

/-- The finalization of a run whose budget is over, if the adapter answers that a window is. -/
theorem keeps_finalize (h : exhausted) {collection : Collection}
    (hwindow : collection.answer.IsWindow) (profile : RuntimeModelProfile) :
    Keeps (EndsByAbort id n exhausted)
      (finalize_local_execution env engine id profile collection) := by
  have hcancel : Keeps (EndsByAbort id n exhausted) (cancel_for_policy env id "RUNTIME_LIMIT" none) :=
    keeps_cancel_for_policy h _ _
  obtain ⟨reading₀, answer, reading⟩ := collection
  cases answer with
  | timeout | transport | rejected | raised => exact hwindow.elim
  | outcome o =>
    unfold finalize_local_execution
    refine keeps_require.bind fun record => ?_
    split
    · exact .pure _
    refine (keeps_note_exhausted profile record).bind fun _ => keeps_require.bind fun record => ?_
    dsimp only
    split
    · exact hcancel
    refine Keeps.pure_bind (keeps_require.bind fun record => (keeps_record_runtime _).bind fun _ => ?_)
    split
    · exact hcancel
    · rw [if_neg fun hterm => hterm.2 hwindow]
      exact hcancel

theorem runtime_seconds_le (record : RunRecord) (reading : ℚ) :
    runtime_seconds record reading ≤ max 0 reading := by
  unfold runtime_seconds
  split
  · exact le_max_left _ _
  · exact le_rfl

section Turn

variable {profile : RuntimeModelProfile} {collection : Collection} {poll : Poll}
  {requested_wait : ℚ}

/-- A turn of `wait` that sees a window does not leave the loop with it. -/
theorem window_returns (hlocal : profile.runtime_class = .LOCAL) (hwindow : poll.answer.IsWindow) :
    Returns (fun turn => ∀ outcome, turn ≠ .observed outcome)
      (wait_turn env engine id profile requested_wait collection poll) := by
  have returned : ∀ x : Act RunRecord,
      Returns (fun turn => ∀ outcome, turn ≠ .observed outcome) (Turn.returned <$> x) :=
    fun x => .map fun record outcome h => by cases h
  obtain ⟨reading₀, answer, reading, guarded⟩ := poll
  cases answer with
  | timeout | transport | rejected | raised => exact hwindow.elim
  | outcome o =>
    obtain ⟨hstatus, hreason⟩ : o.status = .TIMEOUT ∧ o.reason = "OPENCLAW_TIMEOUT" := hwindow
    unfold wait_turn
    refine .bind fun record => .bind fun _ => ?_
    dsimp only
    split
    · exact returned _
    split
    · exact returned _
    refine .pure_bind (.bind fun record => .bind fun _ => ?_)
    split
    · exact returned _
    split
    · exact returned _
    split
    · exact returned _
    rw [if_neg (not_not.mpr hstatus)]
    split
    · exact returned _
    rw [if_neg (not_not.mpr hlocal), if_neg (not_not.mpr hreason)]
    split
    · exact returned _
    · exact .pure fun outcome h => by cases h

/-- A turn of `wait` ends the run after its budget, or sees that the window is over and goes on or
returns. -/
theorem keeps_wait_turn (hbudget : profile.execution_budget ≤ profile.max_runtime)
    (hcollect : collection.answer.IsWindow) (hwindow : poll.answer.IsWindow)
    (h : profile.execution_budget ≤ max 0 poll.reading₀ ∨
      profile.execution_budget ≤ max 0 poll.reading → exhausted) :
    Keeps (EndsByAbort id n exhausted)
      (wait_turn env engine id profile requested_wait collection poll) := by
  have hcancel : exhausted → Keeps (EndsByAbort id n exhausted)
      (cancel_for_policy env id "RUNTIME_LIMIT" none) := fun h => keeps_cancel_for_policy h _ _
  have hfinal : exhausted → Keeps (EndsByAbort id n exhausted)
      (finalize_local_execution env engine id profile collection) :=
    fun h => keeps_finalize h hcollect profile
  obtain ⟨reading₀, answer, reading, guarded⟩ := poll
  cases answer with
  | timeout | transport | rejected | raised => exact hwindow.elim
  | outcome o =>
    unfold wait_turn
    refine keeps_require.bind fun record => (keeps_record_runtime _).bind fun _ => ?_
    have hbefore := runtime_seconds_le record reading₀
    dsimp only
    split
    · rename_i hover
      exact (hcancel (h (.inl (by linarith [hover.2])))).map _
    split
    · rename_i hover
      exact (hfinal (h (.inl (by linarith [hover.2.2])))).map _
    refine Keeps.pure_bind (keeps_require.bind fun record' => (keeps_record_runtime _).bind fun _ => ?_)
    have hafter := runtime_seconds_le record' reading
    split
    · exact keeps_require.map _
    split
    · rename_i hover
      exact (hfinal (h (.inr (by linarith [hover.2.2.1])))).map _
    split
    · rename_i hover
      exact (hcancel (h (.inr (by linarith [hover.2.1])))).map _
    split
    · exact .pure _
    split
    · exact keeps_require.map _
    split
    · exact keeps_require.map _
    split
    · exact .pure _
    split
    · exact keeps_require.map _
    · exact .pure _

end Turn

/-- The profile of a record is that of a task class. -/
theorem profile_maximum (record : RunRecord) :
    ∃ maximum : ℚ, 120 ≤ maximum ∧ profile_for_record record = profile_of maximum := by
  unfold profile_for_record task_runtime_profile
  split
  · split
    · exact ⟨120, by norm_num, rfl⟩
    · exact ⟨300, by norm_num, rfl⟩
    · exact ⟨600, by norm_num, rfl⟩
    · exact ⟨900, by norm_num, rfl⟩
    · exact ⟨3600, by norm_num, rfl⟩
    · exact ⟨300, by norm_num, rfl⟩
  · exact ⟨300, by norm_num, rfl⟩

theorem profile_local (record : RunRecord) :
    (profile_for_record record).runtime_class = .LOCAL ∧
      (profile_for_record record).execution_budget ≤ (profile_for_record record).max_runtime := by
  obtain ⟨maximum, hmaximum, heq⟩ := profile_maximum record
  rw [heq]
  refine ⟨rfl, ?_⟩
  have hreserve : 0 ≤ min 60 (maximum / 5) := le_min (by norm_num) (by linarith)
  show maximum - min 60 (maximum / 5) ≤ maximum
  linarith

theorem execution_budget_pos (record : RunRecord) :
    0 < (profile_for_record record).execution_budget := by
  obtain ⟨maximum, hmaximum, heq⟩ := profile_maximum record
  rw [heq]
  have hreserve : min 60 (maximum / 5) ≤ 60 := min_le_left _ _
  show 0 < maximum - min 60 (maximum / 5)
  linarith

/-- The loop of `wait`, if all that it sees are windows. -/
theorem keeps_wait_loop {profile : RuntimeModelProfile} (hlocal : profile.runtime_class = .LOCAL)
    (hbudget : profile.execution_budget ≤ profile.max_runtime) {collection : Collection}
    (hcollect : collection.answer.IsWindow) {requested_wait : ℚ} {guarded : Bool}
    {polls : List Poll} (hwindow : ∀ poll ∈ polls, poll.answer.IsWindow)
    (h : ∀ poll ∈ polls, profile.execution_budget ≤ max 0 poll.reading₀ ∨
      profile.execution_budget ≤ max 0 poll.reading → exhausted) :
    Keeps (EndsByAbort id n exhausted)
      (wait_loop env engine id profile requested_wait collection guarded polls) := by
  induction polls with
  | nil => exact .throw _
  | cons poll polls ih =>
    rw [List.forall_mem_cons] at hwindow h
    refine (keeps_wait_turn hbudget hcollect hwindow.1 h.1).bind_returns
      (window_returns hlocal hwindow.1) fun turn hturn => ?_
    cases turn with
    | returned record => exact .pure _
    | observed outcome => exact absurd rfl (hturn outcome)
    | again => exact ih hwindow.2 h.2

end Keeps

/-! ## Windows and deadlines -/

section Deadline

variable {ρ : Type} (env : ObserveEnv) (engine : Engine ρ)

/-- After the call the run has not ended, or it has ended after its budget, by an abort that the call
has asked for, and not as TIMEOUT. -/
def NoDeadline (id : String) (profile : RuntimeModelProfile) (call : Observing) (s : Core) : Prop :=
  let s' := (eval (call.run env engine id) s).1
  ∀ r, last id s'.log = some r → r.status ∈ CoreRunStatus.terminal →
    r.status ≠ .TIMEOUT ∧ call.Exhausted profile ∧ s.aborts.length < s'.aborts.length

/-- `reconcile_external_completion` finds the run RUNNING. -/
def Reconciles (s : Core) (r : RunRecord) : Observing → Prop
  | .reconcile _ => r.status = .RUNNING ∧ ∀ q ∈ s.log, readable q = true
  | .wait _ _ _ _ => False
  | .timer _ => False

variable {env engine} {id : String} {s : Core} {r : RunRecord}

/-- A call that leaves the run as it is. -/
theorem noDeadline_of_log {profile : RuntimeModelProfile} {call : Observing}
    (hlast : last id s.log = some r) (hlive : r.status ∉ CoreRunStatus.terminal)
    (hlog : (eval (call.run env engine id) s).1.log = s.log) :
    NoDeadline env engine id profile call s := by
  intro r' hr' hterm
  rw [hlog, hlast] at hr'
  rw [← Option.some.inj hr'] at hterm
  exact absurd hterm hlive

theorem eval_discard {α : Type} (x : Act α) (s : Core) :
    (eval (discard x) s).1 = (eval x s).1 := by
  rcases bind_cases x (fun _ => pure PUnit.unit) s with ⟨t, a, hx, heval⟩ | ⟨t, e, hx, heval⟩
  · rw [hx]
    exact congrArg Prod.fst heval
  · rw [hx]
    exact congrArg Prod.fst heval

theorem eval_require (h : RunRegistry.require s.log id = .ok r) :
    eval (require id) s = (s, .ok r) := by
  unfold require
  rw [eval_bind_ok (eval_get s), h]
  rfl

theorem eval_require_error {e : RegistryError} (h : RunRegistry.require s.log id = .error e) :
    eval (require id) s = (s, .error (.registry e)) := by
  unfold require
  rw [eval_bind_ok (eval_get s), h]
  rfl

theorem endsByAbort_start (exhausted : Prop) (hlast : last id s.log = some r)
    (hlive : r.status ∉ CoreRunStatus.terminal) : EndsByAbort id s.aborts.length exhausted s := by
  refine ⟨le_rfl, fun r' hr' hterm => ?_⟩
  rw [hlast] at hr'
  rw [← Option.some.inj hr'] at hterm
  exact absurd hterm hlive

/-- `wait`, if all that it sees are windows. -/
theorem wait_windows (hlast : last id s.log = some r) (hlive : r.status ∉ CoreRunStatus.terminal)
    {timeout_seconds : ℚ} {collection : Collection} {guarded : Bool} {polls : List Poll}
    (hcollect : collection.answer.IsWindow) (hpolls : ∀ poll ∈ polls, poll.answer.IsWindow) :
    EndsByAbort id s.aborts.length (∃ poll ∈ polls,
        (profile_for_record r).execution_budget ≤ max 0 poll.reading₀ ∨
          (profile_for_record r).execution_budget ≤ max 0 poll.reading)
      (eval (wait env engine id timeout_seconds collection guarded polls) s).1 := by
  have hstart := endsByAbort_start (∃ poll ∈ polls,
    (profile_for_record r).execution_budget ≤ max 0 poll.reading₀ ∨
      (profile_for_record r).execution_budget ≤ max 0 poll.reading) hlast hlive
  unfold wait
  cases hrequire : RunRegistry.require s.log id with
  | error e => rwa [eval_bind_error (eval_require_error hrequire)]
  | ok r' =>
    obtain rfl : r = r' := Option.some.inj (hlast.symm.trans (RunRegistry.require_ok hrequire))
    obtain ⟨hlocal, hbudget⟩ := profile_local r
    rw [eval_bind_ok (eval_require hrequire), if_neg hlive]
    split
    · exact hstart
    · exact keeps_wait_loop hlocal hbudget hcollect hpolls (fun poll hpoll hover =>
        ⟨poll, hpoll, hover⟩) s hstart

/-- The deadline timer, if it sees a window. -/
theorem keeps_timer {n : Nat} {exhausted : Prop} (h : exhausted) {collection : Collection}
    (hwindow : collection.answer.IsWindow) :
    Keeps (EndsByAbort id n exhausted) (enforce_runtime_deadline env engine id collection) := by
  have hclear : Keeps (EndsByAbort id n exhausted) (clear_runtime_deadline id) :=
    keeps_clear fun _ _ hs => hs
  unfold enforce_runtime_deadline
  refine Keeps.get.bind fun s => ?_
  split
  · exact .throw _
  · exact hclear
  · split
    · exact hclear
    · dsimp only
      split
      · exact .pure _
      · split
        · exact (keeps_record_runtime _).bind fun _ => (keeps_finalize h hwindow _).map _
        · exact (keeps_record_runtime _).bind fun _ => (keeps_cancel_for_policy h _ _).map _

/-- `reconcile_external_completion` applies the outcome at once. -/
theorem eval_reconcile (hrequire : RunRegistry.require s.log id = .ok r)
    (hlive : r.status ∉ CoreRunStatus.terminal) (o : AdapterOutcome)
    (hterm : o.status ∈ CoreRunStatus.terminal) :
    (eval (reconcile_external_completion env id (.outcome o)) s).1.log =
      (Mutation.transition id o.status none (some o) o.reason (env.now s.log.length)).run s.log := by
  unfold reconcile_external_completion reconcile_apply
  rw [eval_bind_ok (eval_require hrequire), if_neg hlive]
  dsimp only
  rw [eval_bind_ok (eval_require hrequire), if_neg hlive, if_neg (not_not.mpr hterm)]
  unfold clear_runtime_deadline transition mutate
  rw [eval_bind_ok (eval_modify _ s), eval_bind_ok (eval_get _)]
  rw [Mutation.run, Mutation.apply]
  dsimp only
  cases RunRegistry.transition s.log id o.status none (some o) o.reason (env.now s.log.length) with
  | error e => rfl
  | ok p => rfl

/-- `reconcile_external_completion` records the window as the end of the run. -/
theorem reconcile_window (hsafe : ∀ q ∈ s.log, readable q = true) (hlast : last id s.log = some r)
    (hrunning : r.status = .RUNNING) {answer : Waited} (hwindow : answer.IsWindow) :
    ¬ NoDeadline env engine id (profile_for_record r) (.reconcile answer) s := by
  cases answer with
  | timeout | transport | rejected | raised => exact hwindow.elim
  | outcome o =>
    obtain ⟨hstatus, -⟩ : o.status = .TIMEOUT ∧ o.reason = "OPENCLAW_TIMEOUT" := hwindow
    intro h
    have hlive : r.status ∉ CoreRunStatus.terminal := by
      rw [hrunning]
      decide
    have hlog : (eval (reconcile_external_completion env id (.outcome o)) s).1.log = _ :=
      eval_reconcile (RunRegistry.require_of_last hsafe hlast) hlive o (by rw [hstatus]; decide)
    have happly := RunRegistry.transition_of_last hsafe hlast
      (show o.status ∈ r.status.transitions by rw [hrunning, hstatus]; decide)
      (by rw [hrunning, hstatus]; decide) none (some o) o.reason
      (env.now s.log.length)
    rw [Mutation.run_of_apply (m := .transition id o.status none (some o) o.reason
      (env.now s.log.length)) happly] at hlog
    have hend := h (r.transitioned o.status none (some o) o.reason (env.now s.log.length))
    unfold Observing.run at hend
    rw [eval_discard, hlog] at hend
    refine (hend (RunRegistry.last_append_identity hlast (RunRecord.transitioned_identity ..)) ?_).1 ?_
    · rw [RunRecord.transitioned_status, hstatus]
      decide
    · rw [RunRecord.transitioned_status, hstatus]

/-- Where it does not, it leaves the run as it is. -/
theorem reconcile_leaves (hlast : last id s.log = some r) (hlive : r.status ∉ CoreRunStatus.terminal)
    {answer : Waited} (hwindow : answer.IsWindow) (hnot : ¬ Reconciles s r (.reconcile answer)) :
    (eval (reconcile_external_completion env id answer) s).1.log = s.log := by
  cases answer with
  | timeout | transport | rejected | raised => exact hwindow.elim
  | outcome o =>
    obtain ⟨hstatus, -⟩ : o.status = .TIMEOUT ∧ o.reason = "OPENCLAW_TIMEOUT" := hwindow
    cases hrequire : RunRegistry.require s.log id with
    | error e =>
      unfold reconcile_external_completion
      rw [eval_bind_error (eval_require_error hrequire)]
    | ok r' =>
      obtain rfl : r = r' := Option.some.inj (hlast.symm.trans (RunRegistry.require_ok hrequire))
      obtain ⟨_, hget, -⟩ := bind_eq_ok.mp hrequire
      have hqueued : r.status = .QUEUED := by
        have hnotrunning : r.status ≠ .RUNNING :=
          fun hrunning => hnot ⟨hrunning, RunRegistry.get_readable hget⟩
        cases hr : r.status with
        | QUEUED => rfl
        | RUNNING => exact absurd hr hnotrunning
        | PASS | FAIL | BLOCKED | TIMEOUT | CANCELLED => exact absurd (by rw [hr]; decide) hlive
      have hrefused : ∃ e, RunRegistry.transition s.log id .TIMEOUT none (some o) o.reason
          (env.now s.log.length) = .error e := by
        rw [RunRegistry.transition, bind_of_ok hrequire, hqueued]
        exact ⟨_, rfl⟩
      obtain ⟨e, herror⟩ := hrefused
      rw [eval_reconcile hrequire hlive o (by rw [hstatus]; decide), hstatus, Mutation.run,
        Mutation.apply]
      simp only [herror]

/-- An observation window is no deadline: a call that sees only windows ends no run before its budget
is over and its worker was asked to stop, and none as TIMEOUT, except for
`reconcile_external_completion` on a run that is RUNNING. -/
theorem window_no_deadline (hlast : last id s.log = some r)
    (hlive : r.status ∉ CoreRunStatus.terminal) {call : Observing}
    (hwindow : ∀ answer ∈ call.answers, answer.IsWindow) :
    NoDeadline env engine id (profile_for_record r) call s ↔ ¬ Reconciles s r call := by
  obtain ⟨hlocal, hbudget⟩ := profile_local r
  cases call with
  | wait timeout_seconds collection guarded polls =>
    refine ⟨fun _ => not_false, fun _ => ?_⟩
    obtain ⟨hcollect, hpolls⟩ := List.forall_mem_cons.mp hwindow
    rw [List.forall_mem_map] at hpolls
    unfold NoDeadline Observing.run
    rw [eval_discard]
    exact (wait_windows hlast hlive hcollect hpolls).2
  | timer collection =>
    refine ⟨fun _ => not_false, fun _ => ?_⟩
    have hcollect : collection.answer.IsWindow := hwindow _ (List.mem_singleton_self _)
    exact (keeps_timer trivial hcollect s (endsByAbort_start True hlast hlive)).2
  | reconcile answer =>
    have hanswer : answer.IsWindow := hwindow answer (List.mem_singleton_self _)
    constructor
    · rintro h ⟨hrunning, hsafe⟩
      exact reconcile_window hsafe hlast hrunning hanswer h
    · intro hnot
      refine noDeadline_of_log hlast hlive ?_
      rw [Observing.run, eval_discard]
      exact reconcile_leaves hlast hlive hanswer hnot

end Deadline

/-! ## A run whose window is over -/

namespace Sample

open RunRegistry (sampleArgs)

/-- A run that is RUNNING. -/
def running : RunRecord := (sampleArgs.record "core-1" "t0").transitioned .RUNNING none none "" "t1"

def core : Core := ⟨[sampleArgs.record "core-1" "t0", running], ["core-1"], []⟩

def observe_env (abort : Aborted) : ObserveEnv where
  now _ := "t"
  event_at _ := "t"
  round _ := .zero
  abort := abort
  safe_now _ := by decide +kernel
  safe_event_at _ := by decide +kernel

def unbound : Engine Unit where
  H := ⟨fun s => s, fun _ _ => []⟩
  require _ := .ok ()
  normalize_goal_contract _ := .ok sampleArgs.goal_contract
  task_runtime_policy _ := .ok Dict.empty
  auth_broker := none
  auth_required := false
  grant_authorizer := none

def window : Waited := .outcome (made_up .TIMEOUT "OPENCLAW_TIMEOUT")

theorem readable_core : ∀ q ∈ core.log, readable q = true := by
  refine fun q hq => (RunRegistry.readable_iff q).mpr ?_
  revert q
  decide +kernel

theorem last_core : last "core-1" core.log = some running := rfl

theorem running_live : running.status ∉ CoreRunStatus.terminal := by decide

end Sample

/-- `reconcile_external_completion` ends a run as TIMEOUT whose window is over. -/
theorem window_ends : ∃ call : Observing, (∀ answer ∈ call.answers, answer.IsWindow) ∧
    Sample.running.status = .RUNNING ∧ last "core-1" Sample.core.log = some Sample.running ∧
    ¬ NoDeadline (Sample.observe_env .failed) Sample.unbound "core-1" (profile_for_record Sample.running) call
      Sample.core := by
  have hwindow : Sample.window.IsWindow := ⟨rfl, rfl⟩
  refine ⟨.reconcile Sample.window, ?_, rfl, Sample.last_core, ?_⟩
  · exact List.forall_mem_singleton.mpr hwindow
  · exact reconcile_window Sample.readable_core Sample.last_core rfl hwindow

/-- The deadline timer aborts the worker of such a run, and does not take the window for its end. -/
theorem window_no_deadline_sample :
    NoDeadline (Sample.observe_env .failed) Sample.unbound "core-1" (profile_for_record Sample.running)
      (.timer ⟨240, Sample.window, 250⟩) Sample.core := by
  have hwindow : ∀ answer ∈ (Observing.timer ⟨240, Sample.window, 250⟩).answers, answer.IsWindow :=
    List.forall_mem_singleton.mpr ⟨rfl, rfl⟩
  exact (window_no_deadline Sample.last_core Sample.running_live hwindow).mpr not_false

end CoreEngine

end Plachem
