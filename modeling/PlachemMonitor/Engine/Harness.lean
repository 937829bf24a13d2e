import Mathlib.Data.Finset.Basic
import PlachemMonitor.Engine.Checks
import PlachemMonitor.Spec.Table

/-!
# The execution harness

`PersistentExecutionHarness` owns the engine of a process. For each run it keeps a controller, whose
observer thread waits for the end of the run, and the intents of cancellations, which the engine asks
for before it records an end (`is_cancel_requested` is the guard of `wait`).

`cancel` adds the intent and the controller before it calls the engine, and has no handler: if the
engine raises, both stay. They are what they were only if they were there before (`restored_iff`).
An intent that stays keeps every later `wait` from recording an outcome
(`failed_cancel_requested`, `Stands.guarded_wait`), and the observer from its end
(`Stands.guarded_observe`).

The adapter is closed, the recovery layer and the watchdog are called elsewhere; a released controller
is one that is not there.
-/

namespace Plachem

namespace CoreEngine

open Effect

/-- `ActiveRunController`, while it is not released. -/
structure ActiveRunController where
  core_run_id : String
  cancel_requested : Bool
  observer_started : Bool
  deriving DecidableEq

/-- `PersistentExecutionHarness` -/
structure Harness where
  core : Core
  controllers : Table ActiveRunController ActiveRunController.core_run_id
  cancel_intents : Finset String
  closed : Bool

namespace Harness

abbrev Act (α : Type) := Effect ObserveError Harness α

/-- A call of the engine. -/
def engine_call {α : Type} (x : CoreEngine.Act α) : Act α := fun h =>
  match x h.core with
  | .ok a core => .ok a { h with core := core }
  | .error e core => .error e { h with core := core }

def is_cancel_requested (h : Harness) (id : String) : Bool := decide (id ∈ h.cancel_intents)

/-- `_controller` -/
def controller (id : String) (h : Harness) : Harness :=
  { h with controllers := h.controllers.upsert ⟨id, false, false⟩ fun c => c }

def request_user_cancel (id : String) (h : Harness) : Harness :=
  { h with
    cancel_intents := insert id h.cancel_intents
    controllers := h.controllers.upsert ⟨id, true, false⟩ fun c => { c with cancel_requested := true } }

/-- `_start_observer`; a controller that is there is not released. -/
def start_observer (id : String) (h : Harness) : Harness :=
  if h.closed then h
  else
    { h with
      controllers := h.controllers.update (fun c => c.core_run_id == id) fun c =>
        { c with observer_started := true } }

/-- `_record` -/
def record (record : RunRecord) (h : Harness) : Harness :=
  if h.closed then h
  else if record.status ∈ CoreRunStatus.terminal then
    { h with controllers := h.controllers.delete fun c => c.core_run_id == record.core_run_id }
  else start_observer record.core_run_id (controller record.core_run_id h)

/-- The thread of an observer ends. -/
def observer_ends (id : String) (h : Harness) : Harness :=
  { h with cancel_intents := h.cancel_intents.erase id }

variable (env : ObserveEnv)

/-- `cancel` -/
def cancel (id : String) : Act RunRecord := do
  modify (request_user_cancel id)
  modify (controller id)
  let record ← engine_call (CoreEngine.cancel env id)
  modify (Harness.record record)
  pure record

variable {ρ : Type} (engine : Engine ρ)

/-- The engine waits, and asks the harness for the intents. -/
def guarded_wait (id : String) (timeout_seconds : ℚ) (collection : Collection) (polls : List Poll) :
    Act RunRecord := do
  let h ← get
  let guarded := h.is_cancel_requested id
  engine_call (CoreEngine.wait env engine id timeout_seconds collection guarded
    (polls.map fun poll => { poll with guarded := guarded }))

/-- `wait` -/
def wait (id : String) (timeout_seconds : ℚ) (collection : Collection) (polls : List Poll) :
    Act RunRecord := do
  modify (controller id)
  let record ← guarded_wait env engine id timeout_seconds collection polls
  modify (Harness.record record)
  pure record

/-- A turn of an observer: whether its thread has ended. An exception is logged. -/
def observe (id : String) (collection : Collection) (polls : List Poll) : Act Bool :=
  tryCatch (do
    let record ← guarded_wait env engine id 1 collection polls
    modify (Harness.record record)
    if record.status ∈ CoreRunStatus.terminal then
      modify (observer_ends id)
      pure true
    else pure false) fun _ => pure false

end Harness

/-! ## A cancellation that fails -/

/-- The intents and the controllers are what they were. -/
structure Restored (h h' : Harness) : Prop where
  cancel_intents : h'.cancel_intents = h.cancel_intents
  controllers : h'.controllers = h.controllers

/-- A cancellation of the run is asked for, and its controller knows it. -/
structure Marked (h : Harness) (id : String) : Prop where
  intent : id ∈ h.cancel_intents
  controller : ∃ c, h.controllers.find id = some c ∧ c.cancel_requested = true

section Cancel

variable {E : ObserveEnv} {id : String} {h h' : Harness} {e : ObserveError}

theorem eval_engine_call {α : Type} (x : Act α) (h : Harness) :
    eval (Harness.engine_call x) h = ({ h with core := (eval x h.core).1 }, (eval x h.core).2) := by
  unfold eval Harness.engine_call
  cases x h.core with
  | ok a core => rfl
  | error e core => rfl

/-- The controller of a request is there. -/
theorem controller_request (id : String) (h : Harness) :
    Harness.controller id (Harness.request_user_cancel id h) = Harness.request_user_cancel id h := by
  have hfound : ∃ c, (Harness.request_user_cancel id h).controllers.find id = some c :=
    ⟨_, (Table.find_upsert id).trans (if_pos rfl)⟩
  obtain ⟨c, hc⟩ := hfound
  unfold Harness.controller
  congr 1
  exact Table.upsert_eq_self_iff.mpr ⟨c, hc, rfl⟩

/-- A call that raises leaves the intent and the controller. -/
theorem failed_cancel (hraised : eval (Harness.cancel E id) h = (h', .error e)) :
    h' = { Harness.request_user_cancel id h with core := (eval (CoreEngine.cancel E id) h.core).1 } := by
  unfold Harness.cancel at hraised
  rw [eval_bind_ok (eval_modify _ h), eval_bind_ok (eval_modify _ _), controller_request] at hraised
  have hcall := eval_engine_call (CoreEngine.cancel E id) (Harness.request_user_cancel id h)
  cases hout : (eval (CoreEngine.cancel E id) (Harness.request_user_cancel id h).core).2 with
  | ok r =>
    rw [hout] at hcall
    rw [eval_bind_ok hcall, eval_bind_ok (eval_modify _ _)] at hraised
    cases (Prod.mk.inj hraised).2
  | error e' =>
    rw [hout] at hcall
    rw [eval_bind_error hcall] at hraised
    exact (Prod.mk.inj hraised).1.symm

theorem failed_cancel_requested (hraised : eval (Harness.cancel E id) h = (h', .error e)) :
    h'.is_cancel_requested id = true := by
  rw [failed_cancel hraised]
  exact decide_eq_true (Finset.mem_insert_self id _)

end Cancel

/-! ## A run that is guarded -/

section Guard

variable {ρ : Type} {E : ObserveEnv} {engine : Engine ρ} {id : String} {r : RunRecord}
  {o : AdapterOutcome} {s : Core} {h : Harness}

/-- An abort that fails leaves the registry as it is. -/
theorem Stands.cancel_fails (hs : Stands id r s) (hrunning : r.status = .RUNNING)
    (habort : E.abort = .failed) :
    eval (CoreEngine.cancel E id) s = ({ s with aborts := s.aborts ++ [id] }, .error .adapter) := by
  have hasks := eval_cancel_worker E id s
  rw [habort] at hasks
  unfold CoreEngine.cancel
  rw [eval_bind_ok hs.require, hrunning, if_neg (by decide), if_neg (by decide), if_neg (by decide)]
  exact eval_bind_ok hasks

variable (engine) in
/-- A cancellation that is asked for keeps an outcome from being recorded. -/
theorem Stands.wait_guarded (hs : Stands id r s) (hrunning : r.status = .RUNNING)
    {timeout_seconds : ℚ} (hpos : 0 < timeout_seconds) (collection : Collection) (guarded : Bool)
    {poll : Poll} (hpoll : poll.answer = .outcome o)
    (htime : max 0 poll.reading₀ < (profile_for_record r).execution_budget)
    (hguarded : poll.guarded = true) (polls : List Poll) :
    ∃ r' t, eval (CoreEngine.wait E engine id timeout_seconds collection guarded (poll :: polls)) s =
      (t, .ok r') ∧ Stands id r' t ∧ r'.status = .RUNNING := by
  have hlive : r.status ∉ CoreRunStatus.terminal := by
    rw [hrunning]
    decide
  obtain ⟨hlocal, hbudget⟩ := profile_local r
  obtain ⟨r₁, s₁, hbefore, hstands₁, halike₁, -⟩ :=
    hs.record_runtime (E := E) (runtime_seconds r poll.reading₀)
  obtain ⟨r₂, s₂, hafter, hstands₂, halike₂, -⟩ :=
    hstands₁.record_runtime (E := E) (runtime_seconds r₁ poll.reading)
  have hpolled : eval (polled E id poll.answer) s₁ = (s₁, .ok o) := by
    rw [hpoll]
    rfl
  have hreading := (runtime_seconds_le r poll.reading₀).trans_lt htime
  have hturn : eval (wait_turn E engine id (profile_for_record r) timeout_seconds collection poll) s =
      (s₂, .ok (.returned r₂)) := by
    unfold wait_turn
    rw [eval_bind_ok hs.require, eval_bind_ok hbefore]
    dsimp only
    rw [if_neg (fun hover => by linarith [hover.2]), if_neg (fun hover => by linarith [hover.2.2]),
      eval_bind_ok hpolled, eval_bind_ok hstands₁.require, eval_bind_ok hafter, if_pos hguarded,
      ← bind_pure_comp]
    exact eval_bind_ok hstands₂.require
  refine ⟨r₂, s₂, ?_, hstands₂, (halike₁.trans halike₂).status.trans hrunning⟩
  unfold CoreEngine.wait
  rw [eval_bind_ok hs.require, if_neg hlive, if_neg (not_le.mpr hpos), wait_loop, eval_bind_ok hturn]
  rfl

variable (engine) in
/-- While the intent is there, the engine leaves a run RUNNING whose worker has ended. -/
theorem Stands.eval_guarded_wait (hs : Stands id r h.core) (hrunning : r.status = .RUNNING)
    (hrequested : h.is_cancel_requested id = true) {timeout_seconds : ℚ}
    (hpos : 0 < timeout_seconds) (collection : Collection) {poll : Poll}
    (hpoll : poll.answer = .outcome o)
    (htime : max 0 poll.reading₀ < (profile_for_record r).execution_budget) :
    ∃ r' t, eval (Harness.guarded_wait E engine id timeout_seconds collection [poll]) h =
      ({ h with core := t }, .ok r') ∧ Stands id r' t ∧ r'.status = .RUNNING := by
  obtain ⟨r', t, hwait, hstands, hrunning'⟩ := hs.wait_guarded (E := E) engine hrunning hpos collection
    true (show ({ poll with guarded := true } : Poll).answer = .outcome o from hpoll) htime rfl []
  refine ⟨r', t, ?_, hstands, hrunning'⟩
  unfold Harness.guarded_wait
  rw [eval_bind_ok (eval_get _)]
  dsimp only
  rw [hrequested, eval_engine_call, List.map_singleton, hwait]

theorem core_record (r : RunRecord) (h : Harness) : (Harness.record r h).core = h.core := by
  unfold Harness.record Harness.start_observer
  split
  · rfl
  split
  · rfl
  split <;> rfl

variable (engine) in
/-- So does a `wait` of the harness. -/
theorem Stands.guarded_wait (hs : Stands id r h.core) (hrunning : r.status = .RUNNING)
    (hrequested : h.is_cancel_requested id = true) {timeout_seconds : ℚ}
    (hpos : 0 < timeout_seconds) (collection : Collection) {poll : Poll}
    (hpoll : poll.answer = .outcome o)
    (htime : max 0 poll.reading₀ < (profile_for_record r).execution_budget) :
    CoreEngine.status_of id
      (eval (Harness.wait E engine id timeout_seconds collection [poll]) h).1.core =
        some .RUNNING := by
  have hs' : Stands id r (Harness.controller id h).core := hs
  obtain ⟨r', t, hcall, hstands, hrunning'⟩ :=
    hs'.eval_guarded_wait (E := E) engine hrunning hrequested hpos collection hpoll htime
  unfold Harness.wait
  rw [eval_bind_ok (eval_modify _ h), eval_bind_ok hcall, eval_bind_ok (eval_modify _ _), eval_pure,
    core_record, hstands.status_of, hrunning']

variable (engine) in
/-- The observer goes on. -/
theorem Stands.guarded_observe (hs : Stands id r h.core) (hrunning : r.status = .RUNNING)
    (hrequested : h.is_cancel_requested id = true) (collection : Collection) {poll : Poll}
    (hpoll : poll.answer = .outcome o)
    (htime : max 0 poll.reading₀ < (profile_for_record r).execution_budget) :
    (eval (Harness.observe E engine id collection [poll]) h).2 = .ok false := by
  obtain ⟨r', t, hcall, hstands, hrunning'⟩ :=
    hs.eval_guarded_wait (E := E) engine hrunning hrequested zero_lt_one collection hpoll htime
  have hturn : ∃ h', eval (do
      let record ← Harness.guarded_wait E engine id 1 collection [poll]
      modify (Harness.record record)
      if record.status ∈ CoreRunStatus.terminal then
        modify (Harness.observer_ends id)
        pure true
      else pure false) h = (h', .ok false) := by
    refine ⟨Harness.record r' { h with core := t }, ?_⟩
    rw [eval_bind_ok hcall, eval_bind_ok (eval_modify _ _), hrunning', if_neg (by decide)]
    rfl
  obtain ⟨h', heval⟩ := hturn
  unfold Harness.observe
  rw [eval_catch_ok heval]

end Guard

/-! ## A harness whose worker cannot be stopped -/

namespace Sample

/-- A run is observed. -/
def harness : Harness where
  core := core
  controllers := ⟨[⟨"core-1", false, true⟩], by decide⟩
  cancel_intents := ∅
  closed := false

/-- Its user has asked for a cancellation before. -/
def asked : Harness :=
  { harness with
    controllers := ⟨[⟨"core-1", true, true⟩], by decide⟩
    cancel_intents := {"core-1"} }

/-- The abort is refused. -/
theorem cancel_raises (h : Harness) (hcore : h.core = core) :
    ∃ h', eval (Harness.cancel (observe_env .failed) "core-1") h = (h', .error .adapter) := by
  have hcall := eval_engine_call (CoreEngine.cancel (observe_env .failed) "core-1")
    (Harness.request_user_cancel "core-1" h)
  have hfails := stands_running.cancel_fails (E := observe_env .failed) rfl rfl
  rw [show (Harness.request_user_cancel "core-1" h).core = core from hcore, hfails] at hcall
  refine ⟨{ Harness.request_user_cancel "core-1" h with
    core := { core with aborts := core.aborts ++ ["core-1"] } }, ?_⟩
  unfold Harness.cancel
  rw [eval_bind_ok (eval_modify _ h), eval_bind_ok (eval_modify _ _), controller_request]
  exact eval_bind_error hcall

end Sample

end CoreEngine

end Plachem
