import PlachemMonitor.Engine.Drift
import PlachemMonitor.Spec.Machine

/-!
# A dispatch and the calls of `wait` on its run

`dispatch` holds the lock of the engine from before the run is created until the run is RUNNING;
between the two `adapter.submit` stores the binding. `wait` takes the lock only to apply what it has
observed: it reads the record and asks the adapter without it. `race` has the statements of both as
steps. Calls of `wait` on one run follow each other, as they hold the observation lock of the run.

Before the binding is there, the adapter rejects a `wait`, and the outcome that the engine makes of
that, FAIL with WAIT_REJECTED, is applied when the dispatch lets go of the lock. It never is, in a run
in which each `wait` asks the adapter only after the binding is stored (`accepted_not_rejected`).
-/

namespace Plachem

namespace CoreEngine

open Effect
open RunRegistry (last)

/-! ## The stages of a call of `wait` -/

/-- Where a call of `wait` stands; the seconds are those of the run before and after the poll. -/
inductive WaitStage where
  /-- At the top of its loop. -/
  | top
  | read (elapsed_before : ℚ) (managed : Bool)
  | noted (elapsed_before : ℚ) (managed : Bool)
  /-- In `adapter.wait`. -/
  | asking (elapsed_before : ℚ) (managed : Bool)
  | answered (elapsed_before : ℚ) (managed : Bool) (outcome : AdapterOutcome)
  | read_again (elapsed_before : ℚ) (managed : Bool) (outcome : AdapterOutcome) (elapsed : ℚ)
  | noted_again (elapsed_before : ℚ) (managed : Bool) (outcome : AdapterOutcome) (elapsed : ℚ)
  /-- It has left its loop, and waits for the lock. -/
  | observed (outcome : AdapterOutcome)

/-- The outcome that a call has at hand. -/
def WaitStage.outcome? : WaitStage → Option AdapterOutcome
  | top | read .. | noted .. | asking .. => none
  | answered _ _ o | read_again _ _ o _ | noted_again _ _ o _ | observed o => some o

/-- The next statement is `adapter.wait`. -/
def WaitStage.asks : WaitStage → Bool
  | asking .. => true
  | _ => false

structure Waiting where
  profile : RuntimeModelProfile
  requested_wait : ℚ
  stage : WaitStage

/-- What a step of a call is told. -/
structure WaitEnv where
  env : ObserveEnv
  reading : ℚ
  answer : Waited
  collection : Collection
  guarded : Bool

namespace Waiting

variable {ρ : Type} (engine : Engine ρ) (id : String)

/-- A statement, and the stage after it; an exception ends the call. -/
def proceed {α : Type} (w : Waiting) (x : Act α) (next : α → Option WaitStage) (s : Core) :
    Core × Option Waiting :=
  ((eval x s).1,
    match (eval x s).2 with
    | .ok a => (next a).map fun stage => { w with stage := stage }
    | .error _ => none)

/-- The next statement of a call. -/
def next (told : WaitEnv) (w : Waiting) : Core → Core × Option Waiting :=
  match w.stage with
  | .top => w.proceed (require id) fun record =>
    some (.read (runtime_seconds record told.reading) record.watchdog_managed)
  | .read elapsed_before managed => w.proceed (record_runtime told.env id elapsed_before) fun _ =>
    some (.noted elapsed_before managed)
  | .noted elapsed_before managed =>
    if managed = false ∧ w.profile.max_runtime - elapsed_before ≤ 0 then
      w.proceed (cancel_for_policy told.env id "RUNTIME_LIMIT" none) fun _ => none
    else if w.profile.runtime_class = .LOCAL ∧ managed = false ∧
        w.profile.execution_budget - elapsed_before ≤ 0 then
      w.proceed (finalize_local_execution told.env engine id w.profile told.collection) fun _ => none
    else fun s => (s, some { w with stage := .asking elapsed_before managed })
  | .asking elapsed_before managed => w.proceed (polled told.env id told.answer) fun outcome =>
    some (.answered elapsed_before managed outcome)
  | .answered elapsed_before managed outcome => w.proceed (require id) fun record =>
    some (.read_again elapsed_before managed outcome (runtime_seconds record told.reading))
  | .read_again elapsed_before managed outcome elapsed =>
    w.proceed (record_runtime told.env id elapsed) fun _ =>
      some (.noted_again elapsed_before managed outcome elapsed)
  | .noted_again elapsed_before managed outcome elapsed =>
    if told.guarded then fun s => (s, none)
    else if managed = false ∧ w.profile.runtime_class = .LOCAL ∧
        w.profile.execution_budget ≤ elapsed ∧
        (outcome.status = .RUNNING ∨ outcome.status = .TIMEOUT) then
      w.proceed (finalize_local_execution told.env engine id w.profile told.collection) fun _ => none
    else if managed = false ∧ w.profile.max_runtime ≤ elapsed ∧
        (outcome.status = .RUNNING ∨ outcome.status = .TIMEOUT) then
      w.proceed (cancel_for_policy told.env id "RUNTIME_LIMIT" none) fun _ => none
    else if outcome.status ≠ .TIMEOUT then
      fun s => (s, some { w with stage := .observed outcome })
    else if managed ∧ outcome.reason = "OPENCLAW_TIMEOUT" then fun s => (s, none)
    else if w.profile.runtime_class ≠ .LOCAL then fun s => (s, none)
    else if outcome.reason ≠ "OPENCLAW_TIMEOUT" then
      fun s => (s, some { w with stage := .observed outcome })
    else if elapsed - elapsed_before <
        min 1 (bounded_wait managed w.profile w.requested_wait elapsed_before / 2) then
      fun s => (s, none)
    else fun s => (s, some { w with stage := .top })
  | .observed outcome => w.proceed (wait_apply told.env engine id told.guarded outcome) fun _ => none

end Waiting

/-! ## The machine -/

inductive DispatchStage where
  | waiting
  /-- The run is created; the lock is held from here on. -/
  | created
  /-- The adapter has accepted the run and stored its binding. -/
  | submitted
  | over
  deriving DecidableEq

structure Race where
  core : Core
  /-- The adapter has the binding of the run. -/
  bound : Bool
  dispatch : DispatchStage
  /-- The call of `wait` that has the observation lock. -/
  wait : Option Waiting

inductive RaceLabel where
  | create (args : CreateArgs) (now : String)
  /-- `adapter.submit` -/
  | submit
  | accept (env : ObserveEnv) (binding : RunBinding)
  | begin (timeout_seconds : ℚ)
  | wait (told : WaitEnv)

/-- The adapter rejects a run just if it has no binding for it. The reason `WAIT_REJECTED` is one of
the engine. -/
def answers (bound : Bool) : Waited → Bool
  | .rejected => !bound
  | .outcome o => bound && decide (o.reason ≠ "WAIT_REJECTED")
  | .timeout | .transport | .raised => bound

/-- The guard of a step of `wait`: the lock for its last section, and what the adapter can answer. -/
def Race.admits (s : Race) (told : WaitEnv) (w : Waiting) : Bool :=
  (match w.stage with
    | .observed _ => s.dispatch != .created && s.dispatch != .submitted
    | .asking .. => answers s.bound told.answer
    | _ => true) &&
  (answers true told.collection.answer || answers false told.collection.answer)

variable {ρ : Type} (engine : Engine ρ) (id : String)

def race_step (s : Race) : RaceLabel → Option Race
  | .create args now =>
    if s.dispatch = .waiting ∧ args.core_run_id = some id ∧ id ≠ "" then
      match RunRegistry.create s.core.log args "" now with
      | .ok ((record, created), log) =>
        if created = false ∧ record.status ≠ .QUEUED then some { s with dispatch := .over }
        else some { s with core := { s.core with log := log }, dispatch := .created }
      | .error _ => some { s with dispatch := .over }
    else none
  | .submit =>
    if s.dispatch = .created then some { s with bound := true, dispatch := .submitted } else none
  | .accept env binding =>
    if s.dispatch = .submitted then
      some { s with
        core := (eval (transition env id .RUNNING (some binding) none "") s.core).1
        dispatch := .over }
    else none
  | .begin timeout_seconds =>
    if s.wait.isSome then none
    else
      match RunRegistry.require s.core.log id with
      | .error _ => some s
      | .ok record =>
        if record.status ∈ CoreRunStatus.terminal ∨ timeout_seconds ≤ 0 then some s
        else some { s with wait := some ⟨profile_for_record record, timeout_seconds, .top⟩ }
  | .wait told => do
    let w ← s.wait
    if s.admits told w then
      let after := w.next engine id told s.core
      some { s with core := after.1, wait := after.2 }
    else none

/-- One dispatch of a run that nobody has started, and any number of calls of `wait`. -/
def race : Machine Race RaceLabel where
  init s := (∀ r, last id s.core.log = some r → r.status = .QUEUED) ∧ s.bound = false ∧
    s.dispatch = .waiting ∧ s.wait = none
  step := race_step engine id

/-- `adapter.wait` is called only when the adapter has the binding. -/
def AsksBound (s : Race) : RaceLabel → Prop
  | .wait _ => ∀ w ∈ s.wait, w.stage.asks = true → s.bound = true
  | .create .. | .submit | .accept .. | .begin _ => True

instance (s : Race) (label : RaceLabel) : Decidable (AsksBound s label) :=
  match label with
  | .wait _ => inferInstanceAs (Decidable (∀ w ∈ s.wait, w.stage.asks = true → s.bound = true))
  | .create .. | .submit | .accept .. | .begin _ => inferInstanceAs (Decidable True)

/-! ## What the statements keep -/

def WaitRejected (r : RunRecord) : Prop := r.status = .FAIL ∧ r.reason = "WAIT_REJECTED"

def Unrejected (id : String) (s : Core) : Prop := ∀ r, last id s.log = some r → ¬ WaitRejected r

/-- The reason that a transition to an end records. -/
def recorded_reason (reason : String) (outcome : Option AdapterOutcome) : String :=
  if reason = "" then outcome.elim "" AdapterOutcome.reason else reason

theorem transitioned_recorded (r : RunRecord) {status : CoreRunStatus}
    (hstatus : status ∈ CoreRunStatus.terminal) (binding : Option RunBinding)
    (outcome : Option AdapterOutcome) (reason now : String) :
    (r.transitioned status binding outcome reason now).reason = recorded_reason reason outcome := by
  unfold RunRecord.transitioned recorded_reason
  dsimp only
  rw [if_pos hstatus]
  cases outcome <;> dsimp only <;> split <;> rfl

namespace Unrejected

variable {ρ : Type} {env : ObserveEnv} {engine : Engine ρ} {id : String}

theorem append {s : Core} (h : Unrejected id s) {r : RunRecord}
    (hr : r.core_run_id = id → ¬ WaitRejected r) : Unrejected id { s with log := s.log ++ [r] } := by
  intro r' hr'
  by_cases hid : r.core_run_id = id
  · subst hid
    rw [RunRegistry.last_append_self] at hr'
    obtain rfl := Option.some.inj hr'
    exact hr rfl
  · rw [RunRegistry.last_append_ne _ hid] at hr'
    exact h r' hr'

theorem update {m : Nat → Mutation} {f : Log → Except RegistryError (RunRecord × Log)}
    (hm : ∀ k, (m k).IsUpdate = true) (hf : ∀ log, f log = (m log.length).apply log) :
    Keeps (Unrejected id) (mutate f) := by
  refine keeps_mutate hf fun s k hs r' hr' => ?_
  obtain ⟨r, hr, -, hend⟩ := RunRegistry.last_updated (hm k) hr'
  have hstatus : r'.status = r.status := congrArg RunRecord.Ending.status hend
  have hreason : r'.reason = r.reason := congrArg RunRecord.Ending.reason hend
  unfold WaitRejected
  rw [hstatus, hreason]
  exact hs r hr

theorem update_goal_state (args : GoalUpdate) :
    Keeps (Unrejected id) (CoreEngine.update_goal_state env id args) :=
  update (m := fun k => .update_goal_state id args (env.event_at k) (env.now k)) (fun _ => rfl)
    fun _ => rfl

theorem update_policy (args : PolicyUpdate) :
    Keeps (Unrejected id) (CoreEngine.update_policy env id args) :=
  update (m := fun k => .update_policy id args (env.event_at k) (env.now k)) (fun _ => rfl)
    fun _ => rfl

theorem record_runtime (seconds : ℚ) :
    Keeps (Unrejected id) (CoreEngine.record_runtime env id seconds) :=
  (update_policy _).map _

theorem transition {status : CoreRunStatus} {reason : String}
    {outcome : Option AdapterOutcome}
    (h : status = .FAIL → recorded_reason reason outcome ≠ "WAIT_REJECTED")
    (binding : Option RunBinding) :
    Keeps (Unrejected id) (CoreEngine.transition env id status binding outcome reason) := by
  refine keeps_mutate (m := fun k => .transition id status binding outcome reason (env.now k))
    (fun _ => rfl) fun s k hs => ?_
  rcases Mutation.run_cases s.log (.transition id status binding outcome reason (env.now k))
    with hrun | ⟨q, hrun, happ⟩
  · rw [hrun]
    exact hs
  · rw [hrun]
    refine hs.append fun _ hrejected => ?_
    cases happ with
    | @transition _ _ _ _ _ _ old hlast _ =>
      obtain ⟨hstatus, hreason⟩ := hrejected
      rw [RunRecord.transitioned_status] at hstatus
      subst hstatus
      rw [transitioned_recorded _ (by decide)] at hreason
      exact h rfl hreason

theorem require : Keeps (Unrejected id) (CoreEngine.require id) := keeps_require

theorem clear : Keeps (Unrejected id) (clear_runtime_deadline id) :=
  keeps_clear fun _ _ hs => hs

theorem cancel_worker : Keeps (Unrejected id) (CoreEngine.cancel_worker env id) := by
  intro s hs
  rw [eval_cancel_worker]
  exact hs

theorem abort_and_end (reason : String) :
    Keeps (Unrejected id) (CoreEngine.abort_and_end env id reason) := by
  refine cancel_worker.bind fun binding => ?_
  cases binding with
  | none => exact clear.bind fun _ => transition (fun _ => by decide) none
  | some binding => exact clear.bind fun _ => transition (fun h => by cases h) _

theorem escalate (reason : String) (record : RunRecord) :
    Keeps (Unrejected id) (CoreEngine.escalate env id reason record) := by
  unfold CoreEngine.escalate
  split
  · split
    · exact .throw _
    · split
      · exact (update_goal_state _).map _
      · exact .pure _
  · exact .pure _

theorem cancel_for_policy (event_code : String) (recorded : Option String) :
    Keeps (Unrejected id) (CoreEngine.cancel_for_policy env id event_code recorded) := by
  have hend : ∀ reason, Keeps (Unrejected id) (end_for_policy env id reason) := fun reason =>
    require.bind fun record => (escalate reason record).bind fun _ =>
      abort_and_end reason
  unfold CoreEngine.cancel_for_policy
  cases recorded with
  | some reason => exact hend reason
  | none => exact ((update_policy _).map _).bind fun _ => hend _

theorem finish_outcome {o : AdapterOutcome} (ho : o.reason ≠ "WAIT_REJECTED") :
    Keeps (Unrejected id) (CoreEngine.finish_outcome env id o) :=
  clear.bind fun _ => transition (fun _ => show recorded_reason "" (some o) ≠ _ from ho) none

theorem observe (checkpoint : Dict) :
    Keeps (Unrejected id) (observe_progress_checkpoint env engine id checkpoint) := by
  refine require.bind fun record => ?_
  split
  · exact .pure _
  split
  · exact .throw _
  split
  · exact update_goal_state _
  split
  · exact .throw _
  refine ((update_goal_state _).map _).bind fun _ => ?_
  split
  · exact (require.map _).bind fun _ => cancel_for_policy _ _
  · exact require

theorem apply_checkpoint {o : AdapterOutcome} (ho : o.reason ≠ "WAIT_REJECTED")
    (checkpoint : Dict) : Keeps (Unrejected id) (apply_checkpoint env engine id o checkpoint) := by
  refine Keeps.bind (.tryCatch ((observe checkpoint).map _) fun e => ?_) fun observed => ?_
  · split
    · exact .pure _
    · exact .throw _
  split
  · refine ((update_goal_state _).map _).bind fun _ => clear.bind fun _ => ?_
    exact transition (fun h => by cases h) none
  · split
    · exact clear.bind fun _ => .pure _
    split
    · split
      · exact .throw _
      · exact ((update_goal_state _).map _).bind fun _ => clear.bind fun _ => require
    · exact finish_outcome ho

/-- An outcome that does not say WAIT_REJECTED. -/
theorem apply_adapter_outcome {o : AdapterOutcome} (ho : o.reason ≠ "WAIT_REJECTED") :
    Keeps (Unrejected id) (apply_adapter_outcome env engine id o) := by
  have hend : Keeps (Unrejected id) (do
      clear_runtime_deadline id
      CoreEngine.transition env id .TIMEOUT none (some o) "") :=
    clear.bind fun _ => transition (fun h => by cases h) none
  unfold CoreEngine.apply_adapter_outcome
  split
  · exact require
  split
  · split
    · refine cancel_worker.bind fun binding => ?_
      split
      · exact ((update_policy _).map _).bind fun _ => hend
      · exact hend
    · exact hend
  split
  · exact apply_checkpoint ho _
  · exact finish_outcome ho

theorem wait_apply {guarded : Bool} {o : AdapterOutcome} (ho : o.reason ≠ "WAIT_REJECTED") :
    Keeps (Unrejected id) (CoreEngine.wait_apply env engine id guarded o) := by
  refine require.bind fun record => ?_
  split
  · exact .pure _
  split
  · exact .pure _
  · exact apply_adapter_outcome ho

theorem note_exhausted (profile : RuntimeModelProfile) (record : RunRecord) :
    Keeps (Unrejected id) (CoreEngine.note_exhausted env id profile record) := by
  unfold CoreEngine.note_exhausted
  split
  · exact (update_policy _).map _
  · exact .pure _

/-- The collection of an outcome that does not say WAIT_REJECTED. -/
theorem finalize {collection : Collection}
    (hanswer : ∀ o, collection.answer = .outcome o → o.reason ≠ "WAIT_REJECTED")
    (profile : RuntimeModelProfile) :
    Keeps (Unrejected id) (finalize_local_execution env engine id profile collection) := by
  have hcancel : Keeps (Unrejected id) (CoreEngine.cancel_for_policy env id "RUNTIME_LIMIT" none) :=
    cancel_for_policy _ _
  have hrest : ∀ o : AdapterOutcome, o.reason ≠ "WAIT_REJECTED" → Keeps (Unrejected id) (do
      let elapsed := runtime_seconds (← CoreEngine.require id) collection.reading
      CoreEngine.record_runtime env id elapsed
      if profile.max_runtime ≤ elapsed then CoreEngine.cancel_for_policy env id "RUNTIME_LIMIT" none
      else if o.status ∈ CoreRunStatus.terminal ∧
          ¬(o.status = .TIMEOUT ∧ o.reason = "OPENCLAW_TIMEOUT") then
        CoreEngine.apply_adapter_outcome env engine id o
      else CoreEngine.cancel_for_policy env id "RUNTIME_LIMIT" none) := by
    intro o ho
    refine require.bind fun record => (record_runtime _).bind fun _ => ?_
    split
    · exact hcancel
    split
    · exact apply_adapter_outcome ho
    · exact hcancel
  refine require.bind fun record => ?_
  split
  · exact .pure _
  refine (note_exhausted profile record).bind fun _ => require.bind fun record => ?_
  dsimp only
  split
  · exact hcancel
  cases hcollected : collection.answer with
  | outcome o => exact Keeps.pure_bind (hrest o (hanswer o hcollected))
  | timeout | transport | rejected =>
    exact Keeps.pure_bind (hrest (made_up .RUNNING "FINALIZATION_COLLECTION_FAILED") (by decide))
  | raised => exact fun s hs => hs

theorem polled (answer : Waited) : Keeps (Unrejected id) (CoreEngine.polled env id answer) := by
  cases answer with
  | outcome _ | rejected => exact .pure _
  | timeout | transport => exact ((update_policy _).map _).bind fun _ => .pure _
  | raised => exact .throw _

end Unrejected

/-! ## The steps of a call -/

/-- The outcome at hand does not say WAIT_REJECTED. -/
def WaitStage.Sound (stage : WaitStage) : Prop :=
  ∀ o, stage.outcome? = some o → o.reason ≠ "WAIT_REJECTED"

theorem WaitStage.sound_none {stage : WaitStage} (h : stage.outcome? = none) : stage.Sound := by
  intro o ho
  rw [h] at ho
  cases ho

/-- The registry and the call that goes on, if one does. -/
def CallSound (id : String) (s : Core × Option Waiting) : Prop :=
  Unrejected id s.1 ∧ ∀ w ∈ s.2, w.stage.Sound

section Calls

variable {ρ : Type} {engine : Engine ρ} {id : String} {told : WaitEnv} {w : Waiting} {s : Core}

theorem polled_sound {env : ObserveEnv} {answer : Waited} (h : answers true answer = true) :
    Returns (fun o : AdapterOutcome => o.reason ≠ "WAIT_REJECTED") (polled env id answer) := by
  cases answer with
  | outcome o => exact .pure (by simpa [answers] using h)
  | timeout | transport => exact .bind fun _ => .pure (by decide)
  | rejected => cases h
  | raised => exact .throw _

theorem answers_outcome {answer : Waited}
    (h : (answers true answer || answers false answer) = true) (o : AdapterOutcome)
    (ho : answer = .outcome o) : o.reason ≠ "WAIT_REJECTED" := by
  subst ho
  simpa [answers] using h

theorem proceed_sound {α : Type} {x : Act α} {P : α → Prop} {next : α → Option WaitStage}
    (hs : Unrejected id s) (hx : Keeps (Unrejected id) x) (hP : Returns P x)
    (hnext : ∀ a, P a → ∀ stage ∈ next a, stage.Sound) : CallSound id (w.proceed x next s) := by
  refine ⟨hx s hs, fun w' hw' => ?_⟩
  have hreturned := hP s
  unfold Waiting.proceed at hw'
  dsimp only at hw'
  cases hresult : (eval x s).2 with
  | error e =>
    rw [hresult] at hw'
    cases hw'
  | ok a =>
    rw [hresult] at hw'
    obtain ⟨stage, hstage, rfl⟩ := Option.map_eq_some_iff.mp hw'
    exact hnext a (hreturned _ a (Prod.ext rfl hresult)) stage hstage

/-- A statement after which nothing new is at hand. -/
theorem proceed_to {α : Type} {x : Act α} {next : α → Option WaitStage}
    (hs : Unrejected id s) (hx : Keeps (Unrejected id) x)
    (hnext : ∀ a, ∀ stage ∈ next a, stage.Sound) : CallSound id (w.proceed x next s) :=
  proceed_sound (P := fun _ => True) hs hx (fun _ _ _ _ => trivial) fun a _ => hnext a

theorem sound_end (hs : Unrejected id s) : CallSound id (s, none) := ⟨hs, fun _ h => by cases h⟩

theorem sound_at (hs : Unrejected id s) {stage : WaitStage} (hstage : stage.Sound) :
    CallSound id (s, some { w with stage := stage }) := by
  refine ⟨hs, fun w' hw' => ?_⟩
  obtain rfl := Option.some.inj hw'
  exact hstage

/-- Each statement of a call that asks the adapter only when it has the binding. -/
theorem next_sound (hs : Unrejected id s) (hw : w.stage.Sound)
    (hcollect : (answers true told.collection.answer || answers false told.collection.answer) = true)
    (hasked : w.stage.asks = true → answers true told.answer = true) :
    CallSound id (w.next engine id told s) := by
  have hfinalize : Keeps (Unrejected id)
      (finalize_local_execution told.env engine id w.profile told.collection) :=
    Unrejected.finalize (answers_outcome hcollect) w.profile
  have hcancel : Keeps (Unrejected id) (cancel_for_policy told.env id "RUNTIME_LIMIT" none) :=
    Unrejected.cancel_for_policy _ _
  have hended : ∀ {α : Type} {x : Act α}, Keeps (Unrejected id) x →
      CallSound id (w.proceed x (fun _ => none) s) := fun hx => proceed_to hs hx fun _ _ h => by cases h
  unfold Waiting.next
  cases hstage : w.stage with
  | top =>
    refine proceed_to hs Unrejected.require fun record stage h => ?_
    obtain rfl := Option.some.inj h
    exact WaitStage.sound_none rfl
  | read elapsed managed =>
    refine proceed_to hs (Unrejected.record_runtime _) fun record stage h => ?_
    obtain rfl := Option.some.inj h
    exact WaitStage.sound_none rfl
  | noted elapsed managed =>
    dsimp only
    split
    · exact hended hcancel
    split
    · exact hended hfinalize
    · exact sound_at hs (WaitStage.sound_none rfl)
  | asking elapsed managed =>
    refine proceed_sound hs (Unrejected.polled _) (polled_sound (hasked (by rw [hstage]; rfl)))
      fun o ho stage h => ?_
    obtain rfl := Option.some.inj h
    intro o' ho'
    obtain rfl := Option.some.inj ho'
    exact ho
  | answered elapsed managed outcome =>
    rw [hstage] at hw
    refine proceed_to hs Unrejected.require fun record stage h => ?_
    obtain rfl := Option.some.inj h
    exact hw
  | read_again elapsed_before managed outcome elapsed =>
    rw [hstage] at hw
    refine proceed_to hs (Unrejected.record_runtime _) fun record stage h => ?_
    obtain rfl := Option.some.inj h
    exact hw
  | noted_again elapsed_before managed outcome elapsed =>
    rw [hstage] at hw
    have hobserved : WaitStage.Sound (.observed outcome) := hw
    dsimp only
    split
    · exact sound_end hs
    split
    · exact hended hfinalize
    split
    · exact hended hcancel
    split
    · exact sound_at hs hobserved
    split
    · exact sound_end hs
    split
    · exact sound_end hs
    split
    · exact sound_at hs hobserved
    split
    · exact sound_end hs
    · exact sound_at hs (WaitStage.sound_none rfl)
  | observed outcome =>
    rw [hstage] at hw
    exact hended (Unrejected.wait_apply (hw outcome rfl))

end Calls

/-! ## Runs -/

/-- What the steps keep. -/
def Race.Sound (id : String) (s : Race) : Prop := CallSound id (s.core, s.wait)

theorem created_sound {id : String} {core : Core} (hs : Unrejected id core) {args : CreateArgs}
    {now : String} {out : RunRecord × Bool} {log : Log}
    (h : RunRegistry.create core.log args "" now = .ok (out, log)) :
    Unrejected id { core with log := log } := by
  rcases RunRegistry.create_ok h with ⟨-, rfl, -⟩ | ⟨-, rfl, hr, -⟩
  · exact hs
  · refine hs.append fun _ hrejected => ?_
    rw [hr] at hrejected
    cases hrejected.1

section Machine

variable {ρ : Type} (engine : Engine ρ) (id : String)

/-- What each step keeps that does not let `wait` ask the adapter too early. -/
theorem step_sound {s s' : Race} {label : RaceLabel} (hs : s.Sound id) (hbound : AsksBound s label)
    (h : race_step engine id s label = some s') : s'.Sound id := by
  obtain ⟨hcore, hwait⟩ := hs
  cases label with
  | create args now =>
    unfold race_step at h
    dsimp only at h
    split at h
    · cases hcreate : RunRegistry.create s.core.log args "" now with
      | error e =>
        rw [hcreate] at h
        obtain rfl := Option.some.inj h
        exact ⟨hcore, hwait⟩
      | ok out =>
        obtain ⟨⟨record, created⟩, log⟩ := out
        rw [hcreate] at h
        dsimp only at h
        split at h
        · obtain rfl := Option.some.inj h
          exact ⟨hcore, hwait⟩
        · obtain rfl := Option.some.inj h
          exact ⟨created_sound hcore hcreate, hwait⟩
    · cases h
  | submit =>
    unfold race_step at h
    dsimp only at h
    split at h
    · obtain rfl := Option.some.inj h
      exact ⟨hcore, hwait⟩
    · cases h
  | accept env binding =>
    unfold race_step at h
    dsimp only at h
    split at h
    · obtain rfl := Option.some.inj h
      have hkeeps : Keeps (Unrejected id) (transition env id .RUNNING (some binding) none "") :=
        Unrejected.transition (fun h => by cases h) _
      exact ⟨hkeeps s.core hcore, hwait⟩
    · cases h
  | begin timeout_seconds =>
    unfold race_step at h
    dsimp only at h
    split at h
    · cases h
    split at h
    · obtain rfl := Option.some.inj h
      exact ⟨hcore, hwait⟩
    · split at h
      · obtain rfl := Option.some.inj h
        exact ⟨hcore, hwait⟩
      · obtain rfl := Option.some.inj h
        refine ⟨hcore, fun w hw => ?_⟩
        obtain rfl := Option.some.inj hw
        exact WaitStage.sound_none rfl
  | wait told =>
    obtain ⟨w, hw, h⟩ := Option.bind_eq_some_iff.mp h
    split at h
    · rename_i hadmits
      obtain rfl := Option.some.inj h
      obtain ⟨hask, hcollect⟩ := Bool.and_eq_true_iff.mp hadmits
      refine next_sound hcore (hwait w hw) hcollect fun hasks => ?_
      cases hstage : w.stage with
      | asking elapsed managed =>
        rw [hstage, hbound w hw hasks] at hask
        exact hask
      | _ =>
        rw [hstage] at hasks
        cases hasks
    · cases h

/-- In a run in which each `wait` asks the adapter only after the binding is stored, WAIT_REJECTED
does not end the run. -/
theorem accepted_not_rejected {s : Race} (h : (race engine id).ReachableIf AsksBound s)
    {r : RunRecord} (hr : last id s.core.log = some r) : ¬ WaitRejected r := by
  have hinductive : (race engine id).InductiveIf AsksBound (Race.Sound id) := by
    refine ⟨fun s hs => ⟨fun r hr hrejected => ?_, fun w hw => ?_⟩, fun s label s' hs hg hstep => ?_⟩
    · have hfail := hrejected.1
      rw [hs.1 r hr] at hfail
      cases hfail
    · rw [hs.2.2.2] at hw
      cases hw
    · exact step_sound engine id hs hg hstep
  exact (hinductive.reachable h).1 r hr

end Machine

namespace Sample

open RunRegistry (sampleArgs)

def race_start : Race := ⟨⟨[], [], []⟩, false, .waiting, none⟩

def dispatched : List RaceLabel :=
  [.submit, .accept (observe_env .failed)
    ⟨"core-1", "run-1", "executor", "session-1", none, "key-1", .RUNNING⟩]

/-- Statements of a call that the adapter answers so. -/
def waits (answer : Waited) (n : Nat) : List RaceLabel :=
  List.replicate n (.wait ⟨observe_env .failed, 1, answer, ⟨1, .timeout, 1⟩, false⟩)

/-- A call of `wait` asks the adapter before `submit` has stored the binding. -/
def early : List RaceLabel :=
  [.create sampleArgs "t0", .begin 5] ++ waits .rejected 4 ++ dispatched ++ waits .rejected 4

/-- One that asks it afterwards. -/
def late : List RaceLabel := [.create sampleArgs "t0", .submit, .begin 5] ++ waits .timeout 4

theorem init_race_start : (race unbound "core-1").init race_start :=
  ⟨fun _ h => (by cases h), rfl, rfl, rfl⟩

def early_end : Race := (race unbound "core-1").after race_start early

def late_end : Race := (race unbound "core-1").after race_start late

theorem early_end_last : (early_end.bound, early_end.dispatch,
    (last "core-1" early_end.core.log).map fun r => (r.status, r.reason)) =
      (true, .over, some (.FAIL, "WAIT_REJECTED")) := by
  decide +kernel

end Sample

/-- The rejection of a call that was too early ends the run after it has been accepted. -/
theorem accepted_rejected : ∃ s r, (race Sample.unbound "core-1").Reachable s ∧
    s.bound = true ∧ s.dispatch = .over ∧ last "core-1" s.core.log = some r ∧ WaitRejected r := by
  have hend := Sample.early_end_last
  obtain ⟨hbound, hlast⟩ := Prod.mk.inj hend
  obtain ⟨hdispatch, hlast⟩ := Prod.mk.inj hlast
  obtain ⟨r, hr, hended⟩ := Option.map_eq_some_iff.mp hlast
  exact ⟨Sample.early_end, r, Machine.reachable_after Sample.init_race_start Sample.early, hbound,
    hdispatch, hr, congrArg Prod.fst hended, congrArg Prod.snd hended⟩

theorem late_not_rejected : ∃ s, (race Sample.unbound "core-1").ReachableIf AsksBound s ∧
    ∀ r, last "core-1" s.core.log = some r → ¬ WaitRejected r := by
  have hreach : (race Sample.unbound "core-1").ReachableIf AsksBound Sample.late_end :=
    Machine.reachableIf_after Sample.init_race_start (by decide +kernel)
  exact ⟨Sample.late_end, hreach, fun r => accepted_not_rejected Sample.unbound "core-1" hreach⟩

end CoreEngine

end Plachem
