import PlachemMonitor.Engine.Contracts
import PlachemMonitor.Engine.Tracker

/-!
# Drifts of a run

`observe_progress_checkpoint` is the drift state machine of `Engine.Tracker`: from the first record of a
run, or from that of a run with fresh context, the record says after every sequence of valid checkpoints
what the tracker says, with other mutations of the registry in between (`drift_trace`). The run is
CANCELLED only if the worker confirms the abort.
-/

namespace Plachem

namespace Mutation

/-- The mutation says nothing of the goal of a run that is there. -/
def LeavesGoal : Mutation → Bool
  | create .. | transition .. | reconcile_abort_observation .. => true
  | update_goal_state .. => false
  | update_policy _ args _ _ => args.policy_state.isNone

end Mutation

namespace RunRecord

/-- What the goal of a run is and how far it has come. -/
structure Progress where
  identity : Identity
  policy : RunPolicy
  policy_state : Dict
  verified_progress : Dict
  goal_status : String

def progress (r : RunRecord) : Progress where
  identity := r.identity
  policy := r.policy
  policy_state := r.policy_state
  verified_progress := r.verified_progress
  goal_status := r.goal_status

theorem transitioned_progress (r : RunRecord) (status : CoreRunStatus)
    (binding : Option RunBinding) (outcome : Option AdapterOutcome) (reason now : String) :
    (r.transitioned status binding outcome reason now).progress = r.progress := by
  unfold transitioned
  cases status <;> cases binding <;> cases outcome <;> rfl

theorem transitioned_reason (r : RunRecord) {status : CoreRunStatus}
    (hstatus : status ∈ CoreRunStatus.terminal) (binding : Option RunBinding)
    (outcome : Option AdapterOutcome) {reason : String} (hreason : reason ≠ "") (now : String) :
    (r.transitioned status binding outcome reason now).reason = reason := by
  unfold transitioned
  dsimp only
  rw [if_pos hstatus, if_neg hreason]
  cases outcome <;> dsimp only <;> split <;> rfl

theorem policyUpdated_progress {r r' : RunRecord} {args : PolicyUpdate} {event_at now : String}
    (hargs : args.policy_state = none) (h : r.policyUpdated args event_at now = .ok r') :
    r'.progress = r.progress ∧ r'.ending = r.ending := by
  simp only [policyUpdated] at h
  split at h
  · cases h
  · split at h
    · cases h
    · cases h
      rw [hargs]
      exact ⟨rfl, rfl⟩

end RunRecord

namespace CoreEngine

open Effect
open RegistryFile (safeText)

variable {E : ObserveEnv} {ρ : Type} {engine : Engine ρ} {id : String} {r : RunRecord} {s : Core}

/-! ## How a drift ends a run -/

/-- The run has ended so. -/
structure Ended (e : CoreRunStatus × String) (r : RunRecord) : Prop where
  status : r.status = e.1
  reason : r.reason = e.2
  goal_status : r.goal_status = "DRIFT"

theorem live_transitions (hlive : r.status ∉ CoreRunStatus.terminal) {status : CoreRunStatus}
    (h : status ∈ [CoreRunStatus.CANCELLED, .FAIL]) :
    status ∈ r.status.transitions ∧ status ≠ r.status := by
  simp only [List.mem_cons, List.not_mem_nil, or_false] at h
  cases hr : r.status with
  | QUEUED => rcases h with rfl | rfl <;> decide
  | RUNNING => rcases h with rfl | rfl <;> decide
  | PASS | FAIL | BLOCKED | TIMEOUT | CANCELLED => exact absurd (by rw [hr]; decide) hlive

/-- The transition of a run that drifts, after its timer is cleared. -/
theorem Stands.clear_end (h : Stands id r s) (hlive : r.status ∉ CoreRunStatus.terminal)
    (hdrift : r.goal_status = "DRIFT") {status : CoreRunStatus}
    (hstatus : status ∈ [CoreRunStatus.CANCELLED, .FAIL]) (binding : Option RunBinding)
    {reason : String} (hreason : reason ≠ "") :
    ∃ r', RunRegistry.last id (eval (do
        clear_runtime_deadline id
        CoreEngine.transition E id status binding none reason) s).1.log = some r' ∧
      Ended (status, reason) r' := by
  have hcleared : Stands id r { s with timers := s.timers.filter (· ≠ id) } := h.congr rfl
  obtain ⟨hnext, hne⟩ := live_transitions hlive hstatus
  have hterm : status ∈ CoreRunStatus.terminal := by
    simp only [List.mem_cons, List.not_mem_nil, or_false] at hstatus
    rcases hstatus with rfl | rfl <;> decide
  obtain ⟨r', heval, hident, hr', heq⟩ := hcleared.transition (E := E) hnext hne binding none reason
  refine ⟨r', ?_, hr', ?_, ?_⟩
  · unfold clear_runtime_deadline
    rw [eval_bind_ok (eval_modify _ s), heval]
    exact RunRegistry.last_append_identity h.last hident
  · rw [heq]
    exact r.transitioned_reason hterm binding none hreason _
  · rw [heq]
    exact (congrArg RunRecord.Progress.goal_status (r.transitioned_progress ..)).trans hdrift

/-- The worker of a run that drifts is asked to stop. -/
theorem Stands.end_drift (h : Stands id r s) (hlive : r.status ∉ CoreRunStatus.terminal)
    (hdrift : r.goal_status = "DRIFT") {maximum : Int}
    (hmaximum : int_of (some r.policy.max_context_resets.json) = .ok maximum) :
    (∃ e r', E.abort.ending = some e ∧
      RunRegistry.last id (eval (CoreEngine.end_for_policy E id "LOCAL_LLM_GOAL_DRIFT") s).1.log = some r' ∧
      Ended e r') ∨
    (E.abort.ending = none ∧ ∃ r',
      Stands id r' (eval (CoreEngine.end_for_policy E id "LOCAL_LLM_GOAL_DRIFT") s).1 ∧
      Escalated r r') := by
  obtain ⟨r₁, s₁, heval, hstands, hescalated⟩ :=
    h.escalate (E := E) hmaximum "LOCAL_LLM_GOAL_DRIFT"
  have hlive₁ : r₁.status ∉ CoreRunStatus.terminal := by rwa [hescalated.status]
  have hasked : Stands id r₁ { s₁ with aborts := s₁.aborts ++ [id] } := hstands.congr rfl
  have hasks := eval_cancel_worker E id s₁
  unfold CoreEngine.end_for_policy CoreEngine.abort_and_end
  rw [eval_bind_ok h.require, eval_bind_ok heval]
  cases habort : E.abort with
  | raised =>
    rw [habort] at hasks
    rw [eval_bind_error hasks]
    exact .inr ⟨rfl, r₁, hasked, hescalated⟩
  | failed =>
    rw [habort] at hasks
    obtain ⟨r', hlast, hended⟩ := hasked.clear_end (E := E) hlive₁ (hescalated.goal_status hdrift)
      (show .FAIL ∈ [CoreRunStatus.CANCELLED, .FAIL] by decide) none
      (show "POLICY_ABORT_FAILED" ≠ "" by decide)
    rw [eval_bind_ok hasks]
    exact .inl ⟨_, r', rfl, hlast, hended⟩
  | confirmed binding =>
    rw [habort] at hasks
    obtain ⟨r', hlast, hended⟩ := hasked.clear_end (E := E) hlive₁ (hescalated.goal_status hdrift)
      (show .CANCELLED ∈ [CoreRunStatus.CANCELLED, .FAIL] by decide) (some binding)
      (show "LOCAL_LLM_GOAL_DRIFT" ≠ "" by decide)
    rw [eval_bind_ok hasks]
    exact .inl ⟨_, r', rfl, hlast, hended⟩

/-! ## A checkpoint of a live run -/

/-- A run whose goal is where the tracker says. -/
structure Live (engine : Engine ρ) (id : String) (contract : GoalContract) (t : Tracker)
    (r : RunRecord) (s : Core) : Prop where
  stands : Stands id r s
  live : r.status ∉ CoreRunStatus.terminal
  contract : r.goal_contract = contract
  tracks : Tracks engine.H t r

section Step

variable {contract : GoalContract} {t : Tracker} {checkpoint : Dict} {c : Checkpoint}

/-- A checkpoint is taken as the tracker says: the run is ended by it, or goes on from the next
tracker. -/
theorem Live.observe (h : Live engine id contract t r s) (hhex : HexDigest engine.H)
    (hsha : Function.Injective engine.H.sha256)
    (hchecked : normalized_checkpoint engine r checkpoint = .ok (contract, c))
    (hsafe : safeText c.goal_id = true) :
    (2 ≤ (t.next engine.H contract c).drifts ∧ ∃ e r', E.abort.ending = some e ∧
      RunRegistry.last id (eval (observe_progress_checkpoint E engine id checkpoint) s).1.log =
        some r' ∧ Ended e r') ∨
    (¬ (2 ≤ (t.next engine.H contract c).drifts ∧ E.abort.ending.isSome = true) ∧
      ∃ r', Live engine id contract (t.next engine.H contract c) r'
        (eval (observe_progress_checkpoint E engine id checkpoint) s).1 ∧
        r'.goal_status = (t.next engine.H contract c).goal_status) := by
  obtain ⟨judgement, hjudge, hfollows⟩ := judge_tracked hsha h.tracks hchecked
  have hgoal : safeText judgement.normalized.goal_id = true := by rwa [hfollows.normalized]
  by_cases hdrifts : t.Drifts engine.H contract c
  · -- a drift: one more than before
    obtain ⟨e, hevent⟩ := Option.isSome_iff_exists.mp (hfollows.event_code.mpr hdrifts)
    have hcount : (t.next engine.H contract c).drifts = t.drifts + 1 := if_pos hdrifts
    obtain ⟨r₁, heval, hguarded, hstatus, -, hstands, -⟩ :=
      h.stands.observe_drift (E := E) h.live hhex hjudge hevent hfollows.drift_count
    have hcast : ((t.next engine.H contract c).drifts : Int) = (t.drifts : Int) + 1 := by
      rw [hcount]
      rfl
    have htracks : Tracks engine.H (t.next engine.H contract c) r₁ :=
      h.tracks.next hfollows (hcast ▸ hguarded)
    have hlive₁ : r₁.status ∉ CoreRunStatus.terminal := by
      rw [hguarded.status]
      exact h.live
    have hcontract₁ : r₁.goal_contract = contract :=
      (congrArg RunRecord.Identity.goal_contract hguarded.identity).trans h.contract
    have hstands₁ := hstands hgoal
    rw [heval]
    by_cases hagain : 2 ≤ t.drifts + 1
    · have hdrift : r₁.goal_status = "DRIFT" := by
        rw [hstatus, if_neg (by omega)]
      obtain ⟨maximum, hmaximum⟩ := htracks.max_context_resets
      rw [if_pos (by omega), eval_bind_ok (eval_bind_ok hstands₁.require)]
      rcases hstands₁.end_drift (E := E) hlive₁ hdrift hmaximum with
        ⟨e, r', hending, hlast, hended⟩ | ⟨hending, r', hstands', hescalated⟩
      · exact .inl ⟨by omega, e, r', hending, hlast, hended⟩
      · refine .inr ⟨fun hboth => ?_, r', ⟨hstands', ?_, ?_, ?_⟩, ?_⟩
        · rw [hending] at hboth
          cases hboth.2
        · rwa [hescalated.status]
        · exact (congrArg RunRecord.Identity.goal_contract hescalated.identity).trans hcontract₁
        · exact htracks.congr hescalated.verified_progress hescalated.policy_state hescalated.policy
        · rw [hescalated.goal_status hdrift, Tracker.goal_status, hcount, if_neg (by omega),
            if_neg (by omega)]
    · rw [if_neg (by omega), hstands₁.require]
      refine .inr ⟨fun hboth => ?_, r₁, ⟨hstands₁, hlive₁, hcontract₁, htracks⟩, ?_⟩
      · omega
      · have hfirst : t.drifts = 0 := by omega
        rw [hstatus, Tracker.goal_status, hcount, hfirst]
        rfl
  · -- a step towards the goal
    have hevent : judgement.event_code = none := by
      cases hcode : judgement.event_code with
      | none => rfl
      | some e => exact absurd (hfollows.event_code.mp (by rw [hcode]; rfl)) hdrifts
    have hcount : (t.next engine.H contract c).drifts = 0 := if_neg hdrifts
    obtain ⟨r₁, heval, hguarded, hstatus, -, hstands, -⟩ :=
      h.stands.record_judgement (E := E) hhex hjudge 0 "NORMAL" (by decide) false
        none (fun _ h => by cases h)
    have hobserve : eval (observe_progress_checkpoint E engine id checkpoint) s =
        ({ s with log := s.log ++ [r₁] }, .ok r₁) := by
      unfold observe_progress_checkpoint
      rw [eval_bind_ok h.stands.require, if_neg h.live, hjudge]
      dsimp only
      rw [hevent]
      exact heval
    have hcast : ((t.next engine.H contract c).drifts : Int) = 0 := by
      rw [hcount]
      rfl
    rw [hobserve]
    refine .inr ⟨fun hboth => ?_, r₁, ⟨hstands hgoal, ?_, ?_, ?_⟩, ?_⟩
    · omega
    · rw [hguarded.status]
      exact h.live
    · exact (congrArg RunRecord.Identity.goal_contract hguarded.identity).trans h.contract
    · exact h.tracks.next hfollows (hcast ▸ hguarded)
    · rw [hstatus, Tracker.goal_status, hcount]
      rfl

/-- A checkpoint of a run that has ended is left out. -/
theorem observe_ended (hlast : RunRegistry.last id s.log = some r)
    (hterm : r.status ∈ CoreRunStatus.terminal) (checkpoint : Dict) :
    (eval (observe_progress_checkpoint E engine id checkpoint) s).1 = s := by
  unfold observe_progress_checkpoint
  cases hrequire : RunRegistry.require s.log id with
  | error e => rw [eval_bind_error (eval_require_error hrequire)]
  | ok r' =>
    obtain rfl := Option.some.inj (hlast.symm.trans (RunRegistry.require_ok hrequire))
    rw [eval_bind_ok (eval_require hrequire), if_pos hterm]
    rfl

end Step

/-! ## The checkpoints of a run -/

/-- What another mutation makes of the last record of a run. -/
theorem progress_run {log : Log} {m : Mutation} (hm : m.LeavesGoal = true)
    (hr : RunRegistry.last id log = some r) :
    ∃ r', RunRegistry.last id (m.run log) = some r' ∧ r'.progress = r.progress ∧
      (r'.ending = r.ending ∨ r'.status ∈ r.status.transitions ∨
        r.status = .FAIL ∧ r.reason = "OPENCLAW_ERROR") := by
  rcases m.run_cases log with hrun | ⟨q, hrun, happ⟩
  · rw [hrun]
    exact ⟨r, hr, rfl, .inl rfl⟩
  rw [hrun]
  by_cases hid : q.core_run_id = id
  · subst hid
    refine ⟨q, RunRegistry.last_append_self log q, ?_⟩
    have hold : ∀ {id : String} {old : RunRecord}, RunRegistry.last id log = some old →
        q.identity = old.identity → old = r := by
      intro id old hold hident
      exact Option.some.inj ((Mutation.last_of_identity hold hident).symm.trans hr)
    cases happ with
    | create hnew _ =>
      obtain ⟨hmem, hid⟩ := RunRegistry.last_some hr
      exact absurd hid (hnew r hmem)
    | @transition _ status binding outcome reason now old hlast hstatus =>
      obtain rfl := hold hlast (old.transitioned_identity status binding outcome reason now)
      refine ⟨old.transitioned_progress .., .inr (.inl ?_)⟩
      rwa [RunRecord.transitioned_status]
    | reconcile_abort_observation hlast hstatus hreason =>
      obtain rfl := hold hlast rfl
      exact ⟨rfl, .inr (.inr ⟨hstatus, hreason⟩)⟩
    | update_goal_state => cases hm
    | update_policy hlast hupd =>
      obtain ⟨hprogress, hending⟩ :=
        RunRecord.policyUpdated_progress (Option.isNone_iff_eq_none.mp hm) hupd
      obtain rfl := hold hlast (congrArg RunRecord.Progress.identity hprogress)
      exact ⟨hprogress, .inl hending⟩
  · rw [RunRegistry.last_append_ne _ hid]
    exact ⟨r, hr, rfl, .inl rfl⟩

/-- The mutation ends no run that is live. -/
def LeavesLive (id : String) (log : Log) (m : Mutation) : Prop :=
  ∀ r r', RunRegistry.last id log = some r → RunRegistry.last id (m.run log) = some r' →
    r.status ∉ CoreRunStatus.terminal → r'.status ∉ CoreRunStatus.terminal

variable (engine id) in
/-- Valid checkpoints of the run are observed, each with what its worker answers if it is asked to stop.
Between them are mutations that leave the goal of the run, and do not end it. -/
inductive Observes : Core → List (Aborted × Checkpoint) → Core → Prop
  | refl (s : Core) : Observes s [] s
  | aside {s s' : Core} {m : Mutation} {cs : List (Aborted × Checkpoint)}
      (hm : m.LeavesGoal = true) (hsafe : m.Safe) (hlive : LeavesLive id s.log m)
      (h : Observes { s with log := m.run s.log } cs s') : Observes s cs s'
  | observe {s s' : Core} {E : ObserveEnv} {checkpoint : Dict} {r : RunRecord}
      {contract : GoalContract} {c : Checkpoint} {cs : List (Aborted × Checkpoint)}
      (hlast : RunRegistry.last id s.log = some r)
      (hchecked : normalized_checkpoint engine r checkpoint = .ok (contract, c))
      (hsafe : safeText c.goal_id = true)
      (h : Observes (eval (observe_progress_checkpoint E engine id checkpoint) s).1 cs s') :
      Observes s ((E.abort, c) :: cs) s'

/-- The record says what the tracker says. -/
def Shown (out : Tracker × Option (CoreRunStatus × String)) (observed : Prop) (r : RunRecord) : Prop :=
  match out.2 with
  | some e => Ended e r
  | none => r.status ∉ CoreRunStatus.terminal ∧ drift_count_of r = .ok (out.1.drifts : Int) ∧
      (observed → r.goal_status = out.1.goal_status)

section Trace

variable {contract : GoalContract} {t : Tracker} {s' : Core} {cs : List (Aborted × Checkpoint)}

theorem Aborted.ending_cases {abort : Aborted} {e : CoreRunStatus × String}
    (h : abort.ending = some e) : e.1 ∈ CoreRunStatus.terminal ∧ e.2 ≠ "OPENCLAW_ERROR" := by
  cases abort with
  | confirmed binding =>
    obtain rfl := Option.some.inj h
    exact ⟨by decide, by decide⟩
  | failed =>
    obtain rfl := Option.some.inj h
    exact ⟨by decide, by decide⟩
  | raised => cases h

/-- A run that has ended stays so. -/
theorem Observes.ended (h : Observes engine id s cs s') {e : CoreRunStatus × String}
    (hterm : e.1 ∈ CoreRunStatus.terminal) (hreason : e.2 ≠ "OPENCLAW_ERROR") {r : RunRecord}
    (hlast : RunRegistry.last id s.log = some r) (hr : Ended e r) :
    ∃ r', RunRegistry.last id s'.log = some r' ∧ Ended e r' := by
  induction h generalizing r with
  | refl s => exact ⟨r, hlast, hr⟩
  | aside hm _ _ _ ih =>
    obtain ⟨r', hlast', hprogress, hcases⟩ := progress_run hm hlast
    refine ih hlast' ?_
    have hgoal : r'.goal_status = "DRIFT" :=
      (congrArg RunRecord.Progress.goal_status hprogress).trans hr.goal_status
    rcases hcases with hending | hnext | ⟨-, herror⟩
    · exact ⟨(congrArg RunRecord.Ending.status hending).trans hr.status,
        (congrArg RunRecord.Ending.reason hending).trans hr.reason, hgoal⟩
    · rw [hr.status, CoreRunStatus.transitions_of_terminal hterm] at hnext
      cases hnext
    · exact absurd (hr.reason.symm.trans herror) hreason
  | observe _ _ _ _ ih =>
    rw [observe_ended hlast (by rw [hr.status]; exact hterm)] at ih
    exact ih hlast hr

theorem Live.aside {m : Mutation} (h : Live engine id contract t r s) (hm : m.LeavesGoal = true)
    (hsafe : m.Safe) (hlive : LeavesLive id s.log m) :
    ∃ r', Live engine id contract t r' { s with log := m.run s.log } ∧
      r'.goal_status = r.goal_status := by
  obtain ⟨r', hlast, hprogress, -⟩ := progress_run hm h.stands.last
  refine ⟨r', ⟨⟨hsafe.run h.stands.safe, hlast⟩, hlive r r' h.stands.last hlast h.live, ?_, ?_⟩,
    congrArg RunRecord.Progress.goal_status hprogress⟩
  · exact (congrArg RunRecord.Identity.goal_contract
      (congrArg RunRecord.Progress.identity hprogress)).trans h.contract
  · exact h.tracks.congr (congrArg RunRecord.Progress.verified_progress hprogress)
      (congrArg RunRecord.Progress.policy_state hprogress)
      (congrArg RunRecord.Progress.policy hprogress)

theorem judged_contract (hcontract : engine.normalize_goal_contract (some (goal_input contract)) =
      .ok contract) (hr : r.goal_contract = contract) {checkpoint : Dict} {contract' : GoalContract}
    {c : Checkpoint} (h : normalized_checkpoint engine r checkpoint = .ok (contract', c)) :
    contract' = contract := by
  obtain ⟨contract'', hok, h⟩ := bind_eq_ok.mp h
  obtain ⟨normalized, -, h⟩ := bind_eq_ok.mp h
  obtain ⟨rfl, rfl⟩ := Prod.mk.inj (pure_eq_ok.mp h)
  rw [hr, hcontract] at hok
  exact (Except.ok.inj hok).symm

/-- The records of a run follow the tracker. -/
theorem Observes.shown (h : Observes engine id s cs s') (hhex : HexDigest engine.H)
    (hsha : Function.Injective engine.H.sha256)
    (hcontract : engine.normalize_goal_contract (some (goal_input contract)) = .ok contract)
    {t : Tracker} {r : RunRecord} (observed : Prop) (hlive : Live engine id contract t r s)
    (hstatus : observed → r.goal_status = t.goal_status) :
    ∃ r', RunRegistry.last id s'.log = some r' ∧
      Shown (t.follow engine.H contract cs) (observed ∨ cs ≠ []) r' := by
  induction h generalizing t r observed with
  | refl s =>
    obtain ⟨goal_state, hgoal, hcount, -⟩ := hlive.tracks.goal_state
    refine ⟨r, hlive.stands.last, hlive.live, ?_, fun hobserved => ?_⟩
    · exact (bind_of_ok hgoal).trans hcount
    · exact hstatus (hobserved.resolve_right (not_not.mpr rfl))
  | aside hm hsafe hleaves _ ih =>
    obtain ⟨r', hlive', hsame⟩ := hlive.aside hm hsafe hleaves
    exact ih observed hlive' fun hobserved => hsame.trans (hstatus hobserved)
  | @observe s s' E checkpoint r₀ contract' c cs hlast hchecked hsafe hrest ih =>
    obtain rfl := Option.some.inj (hlast.symm.trans hlive.stands.last)
    obtain rfl := judged_contract hcontract hlive.contract hchecked
    unfold Tracker.follow
    dsimp only
    rcases hlive.observe (E := E) hhex hsha hchecked hsafe with
      ⟨hagain, e, r', hending, hlast', hended⟩ | ⟨hgoes, r', hlive', hstatus'⟩
    · obtain ⟨hterm, hreason⟩ := Aborted.ending_cases hending
      obtain ⟨r'', hlast'', hended'⟩ := hrest.ended hterm hreason hlast' hended
      refine ⟨r'', hlast'', ?_⟩
      rw [if_pos ⟨hagain, by rw [hending]; rfl⟩, hending]
      exact hended'
    · rw [if_neg hgoes]
      obtain ⟨r'', hlast'', hshown⟩ := ih True hlive' fun _ => hstatus'
      refine ⟨r'', hlast'', ?_⟩
      unfold Shown at hshown ⊢
      split at hshown
      · exact hshown
      · exact ⟨hshown.1, hshown.2.1, fun _ => hshown.2.2 (.inl trivial)⟩

end Trace

/-! ## From the first record of a run -/

/-- No checkpoint of the run has been observed; it has this number of drifts from the run before it. -/
structure Fresh (drifts : Nat) (r : RunRecord) : Prop where
  verified : r.verified_progress = Verified.empty.toDict
  goal_state : ∃ goal_state, goal_state_of r = .ok goal_state ∧
    int_of (goal_state.get? "drift_count") = .ok (drifts : Int) ∧
    goal_state.get? "last_checkpoint_signature" = none
  max_context_resets : ∃ maximum, int_of (some r.policy.max_context_resets.json) = .ok maximum

theorem empty_toDict : Verified.empty.toDict = CoreEngine.progress [] [] [] [] := by
  unfold Verified.toDict Verified.empty
  dsimp only
  rw [Finset.sort_empty]

/-- A new run. -/
theorem fresh_created (args : CreateArgs) (maximum : Int)
    (h : int_of (some (args.policy.getD "max_context_resets" (.int 0)).json) = .ok maximum)
    (id now : String) : Fresh 0 (args.record id now) where
  verified := by
    rw [empty_toDict]
    rfl
  goal_state := ⟨Dict.empty, rfl, rfl, rfl⟩
  max_context_resets := ⟨maximum, h⟩

/-- A run with fresh context is told the drifts of the run before it. -/
theorem Fresh.inherit {drifts drifts' : Nat} {r r' : RunRecord} (h : Fresh drifts r)
    (hchanged : GoalChanged { GoalUpdate.none with
      goal_state := some (Dict.empty.set "drift_count" (.int drifts')) } r r') :
    Fresh drifts' r' where
  verified := hchanged.verified_progress.trans h.verified
  goal_state := ⟨_, goal_state_of_set hchanged.policy_state, rfl, rfl⟩
  max_context_resets := by
    rw [hchanged.policy]
    exact h.max_context_resets

theorem Fresh.tracks {drifts : Nat} {r : RunRecord} (h : Fresh drifts r) (H : Hashlib) :
    Tracks H (Tracker.start drifts) r := by
  obtain ⟨goal_state, hgoal, hcount, hsignature⟩ := h.goal_state
  exact ⟨h.verified, ⟨goal_state, hgoal, hcount, hsignature⟩, (fun _ hmark => by cases hmark),
    h.max_context_resets⟩

namespace Sample

open RunRegistry (sampleArgs SafeDict)

/-- A digest that tells all texts apart: a character is as many letters as its number. -/
def unary : Hashlib :=
  ⟨fun s => String.ofList (s.toList.flatMap fun c => List.replicate c.toNat 'a' ++ ['b']),
    fun _ _ => []⟩

theorem unary_cons {n m : Nat} {xs ys : List Char}
    (h : List.replicate n 'a' ++ 'b' :: xs = List.replicate m 'a' ++ 'b' :: ys) :
    n = m ∧ xs = ys := by
  induction n generalizing m with
  | zero =>
    cases m with
    | zero => exact ⟨rfl, (List.cons.inj h).2⟩
    | succ m => exact absurd (List.cons.inj h).1 (by decide)
  | succ n ih =>
    cases m with
    | zero => exact absurd (List.cons.inj h).1 (by decide)
    | succ m =>
      obtain ⟨hn, hxs⟩ := ih (List.cons.inj h).2
      exact ⟨congrArg Nat.succ hn, hxs⟩

theorem unary_injective : Function.Injective unary.sha256 := by
  intro s t h
  have h := String.ofList_injective h
  refine String.toList_injective ?_
  generalize s.toList = xs at h ⊢
  generalize t.toList = ys at h ⊢
  induction xs generalizing ys with
  | nil =>
    cases ys with
    | nil => rfl
    | cons y ys => exact absurd h (by simp)
  | cons x xs ih =>
    cases ys with
    | nil => exact absurd h (by simp)
    | cons y ys =>
      rw [List.flatMap_cons, List.flatMap_cons, List.append_assoc, List.append_assoc] at h
      obtain ⟨hchar, hrest⟩ := unary_cons h
      rw [Char.toNat_inj.mp hchar, ih ys hrest]

theorem unary_hex : HexDigest unary := by
  intro t
  have hall : (['a', 'b'].all fun c => c != '\u0085' && c != '\u2028' && c != '\u2029') = true := by
    decide
  show ((String.ofList _).toList).all _ = true
  rw [String.toList_ofList]
  refine List.all_eq_true.mpr fun c hc => List.all_eq_true.mp hall c ?_
  obtain ⟨d, -, hd⟩ := List.mem_flatMap.mp hc
  rcases List.mem_append.mp hd with hd | hd
  · rw [List.eq_of_mem_replicate hd]
    exact List.mem_cons_self
  · rw [List.mem_singleton.mp hd]
    exact List.mem_cons_of_mem _ (List.mem_singleton_self _)

def told : Engine Unit :=
  { unbound with
    H := unary
    normalize_goal_contract := normalize_goal_contract (fun _ => false) unary }

/-- The contract of the sample as it is normalized. -/
def own : GoalContract :=
  { sampleArgs.goal_contract with goal_id := goal_id_of unary sampleArgs.goal_contract }

/-- A run that is QUEUED. -/
def start : RunRecord := { sampleArgs with goal_contract := own }.record "core-1" "t0"

def started : Core := ⟨[start], [], []⟩

/-- A checkpoint that names another goal. -/
def other : Checkpoint := ⟨"other", "UNSPECIFIED", [], [], "NONE", [], [], []⟩

def other_checkpoint : Dict := Dict.empty.set "goal_id" (.str "other")

theorem own_normalized :
    normalize_goal_contract (fun _ => false) unary (some (goal_input sampleArgs.goal_contract)) =
      .ok own := by
  have hfields : has_contract_fields (goal_input sampleArgs.goal_contract) = true := by
    decide +kernel
  have hcanonical : canonical_contract (fun _ => false) (goal_input sampleArgs.goal_contract) =
      .ok { sampleArgs.goal_contract with goal_id := "" } := by decide +kernel
  unfold normalize_goal_contract
  dsimp only
  rw [Option.getD_some, hfields, if_neg (by decide), bind_of_ok hcanonical]
  rfl

theorem other_strays : other.goal_id ≠ own.goal_id := by
  intro h
  have h := congrArg String.toList h
  have hown : own.goal_id.toList = "goal-".toList ++ _ := String.toList_append ..
  rw [hown] at h
  exact absurd (List.cons.inj h).1 (by decide)

/-- Two drifts, and what the worker answers when it is asked to stop. -/
def two_drifts (abort : Aborted) : List (Aborted × Checkpoint) := [(abort, other), (abort, other)]

theorem follow_two_drifts (abort : Aborted) (h : abort.ending.isSome = true) :
    ((Tracker.start 0).follow unary own (two_drifts abort)).2 = abort.ending := by
  have hdrifts : ∀ t : Tracker, t.Drifts unary own other := fun _ => .inl (.inl other_strays)
  have hnext : ∀ t : Tracker, (t.next unary own other).drifts = t.drifts + 1 := by
    intro t
    unfold Tracker.next
    dsimp only
    rw [if_pos (hdrifts t)]
  unfold two_drifts Tracker.follow
  dsimp only
  rw [if_neg (by rw [hnext]; exact fun h => absurd h.1 (by decide))]
  unfold Tracker.follow
  dsimp only
  rw [if_pos ⟨by rw [hnext, hnext]; exact le_rfl, h⟩]

theorem own_safe : SafeDict own.as_dict :=
  safe_with_goal_id (g := sampleArgs.goal_contract) (by decide +kernel)
    (safe_goal_id unary_hex sampleArgs.goal_contract)

theorem stands_start : Stands "core-1" start started := by
  have hargs : RunRegistry.SafeCreate { sampleArgs with goal_contract := own } := by
    constructor
    case goal_contract => exact own_safe
    case approved_paths => exact fun _ h => by cases h
    case parent_core_run_id => exact fun _ h => by cases h
    all_goals decide +kernel
  refine ⟨fun q hq => ?_, rfl⟩
  rw [List.mem_singleton.mp hq]
  exact RunRegistry.safe_record hargs (by decide +kernel) (by decide +kernel)

theorem start_fresh : Fresh 0 start :=
  fresh_created { sampleArgs with goal_contract := own } 0 rfl "core-1" "t0"

/-- The checkpoint is valid for every record of the run. -/
theorem other_checked {r : RunRecord} (h : r.goal_contract = own) :
    normalized_checkpoint told r other_checkpoint = .ok (own, other) := by
  have hother : normalize_progress_checkpoint other_checkpoint own = .ok other := by
    have hsame : normalize_progress_checkpoint other_checkpoint sampleArgs.goal_contract =
        .ok other := by decide +kernel
    exact hsame
  unfold normalized_checkpoint
  rw [h]
  have hagain : told.normalize_goal_contract (some (goal_input own)) = .ok own :=
    normalized_again own_normalized
  rw [bind_of_ok hagain, bind_of_ok hother]
  rfl

/-- A run that drifts twice. -/
theorem two_drifts_observed (abort : Aborted) :
    ∃ s', Observes told "core-1" started (two_drifts abort) s' := by
  have hsafe : safeText other.goal_id = true := by decide +kernel
  have hlive : Live told "core-1" own (Tracker.start 0) start started :=
    ⟨stands_start, by decide, rfl, start_fresh.tracks unary⟩
  obtain ⟨r₁, hlast₁, hcontract₁⟩ : ∃ r₁, RunRegistry.last "core-1"
      (eval (observe_progress_checkpoint (observe_env abort) told "core-1" other_checkpoint)
        started).1.log = some r₁ ∧ r₁.goal_contract = own := by
    rcases hlive.observe (E := observe_env abort) unary_hex unary_injective (other_checked rfl) hsafe
      with ⟨hagain, -⟩ | ⟨-, r₁, hlive₁, -⟩
    · have hdrifts : (Tracker.start 0).Drifts unary own other := .inl (.inl other_strays)
      unfold Tracker.next at hagain
      dsimp only at hagain
      exact absurd hagain (by rw [show told.H = unary from rfl, if_pos hdrifts]; decide)
    · exact ⟨r₁, hlive₁.stands.last, hlive₁.contract⟩
  exact ⟨_, .observe (E := observe_env abort) rfl (other_checked rfl) hsafe
    (.observe (E := observe_env abort) hlast₁ (other_checked hcontract₁) hsafe (.refl _))⟩

def told_binding : RunBinding := ⟨"core-1", "run-1", "executor", "session-1", none, "key-1", .CANCELLED⟩

end Sample

end CoreEngine

end Plachem
