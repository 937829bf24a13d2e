import PlachemMonitor.Engine.Told

/-!
# Outcomes whose checkpoint is rejected

An outcome can carry a checkpoint that is no mapping, that is invalid for the goal contract, or that
names another goal or a scope that is not allowed (`Rejected`). `wait` and `_finalize_local_execution`
judge the checkpoint if it is a mapping; `reconcile_external_completion` does not
(`goal_checks_iff`).
-/

namespace Plachem

namespace CoreEngine

open Effect
open RegistryFile (safeText)
open RunRegistry (last)

variable {ρ : Type}

section Rejected

variable (engine : Engine ρ) (r : RunRecord) (o : AdapterOutcome)

/-- The checkpoint that the outcome carries is no mapping. `null` is no checkpoint. -/
def Unmapped (o : AdapterOutcome) : Prop :=
  progress_checkpoint_of o = none ∧
    ∃ v ∈ o.result.bind fun result => result.value? "progress_checkpoint", v ≠ .null

/-- It is invalid for the goal contract. -/
def Invalid : Prop :=
  ∃ checkpoint message, progress_checkpoint_of o = some checkpoint ∧
    normalized_checkpoint engine r checkpoint = .error message

/-- It names another goal, or a scope that is not allowed. -/
def Strays : Prop :=
  ∃ checkpoint contract normalized, progress_checkpoint_of o = some checkpoint ∧
    normalized_checkpoint engine r checkpoint = .ok (contract, normalized) ∧
    Astray contract normalized

def Rejected : Prop := Unmapped o ∨ Invalid engine r o ∨ Strays engine r o

/-- It strays, the run has drifted before, and the goal that it names is a line. -/
def StraysAgain : Prop :=
  ∃ checkpoint contract normalized count, progress_checkpoint_of o = some checkpoint ∧
    normalized_checkpoint engine r checkpoint = .ok (contract, normalized) ∧
    Astray contract normalized ∧ safeText normalized.goal_id = true ∧
    drift_count_of r = .ok count ∧ 2 ≤ count + 1

end Rejected

section Cases

variable {engine : Engine ρ} {r r' : RunRecord} {o : AdapterOutcome}

theorem Unmapped.not_invalid (h : Unmapped o) : ¬ Invalid engine r o := by
  rintro ⟨checkpoint, message, hcheckpoint, -⟩
  rw [h.1] at hcheckpoint
  cases hcheckpoint

theorem Unmapped.not_strays (h : Unmapped o) : ¬ Strays engine r o := by
  rintro ⟨checkpoint, contract, normalized, hcheckpoint, -⟩
  rw [h.1] at hcheckpoint
  cases hcheckpoint

theorem Invalid.not_strays (h : Invalid engine r o) : ¬ Strays engine r o := by
  obtain ⟨checkpoint, message, hcheckpoint, herror⟩ := h
  rintro ⟨checkpoint', contract, normalized, hcheckpoint', hok, -⟩
  rw [hcheckpoint] at hcheckpoint'
  obtain rfl := Option.some.inj hcheckpoint'
  rw [herror] at hok
  cases hok

theorem StraysAgain.strays (h : StraysAgain engine r o) : Strays engine r o := by
  obtain ⟨checkpoint, contract, normalized, count, hcheckpoint, hok, hastray, -⟩ := h
  exact ⟨checkpoint, contract, normalized, hcheckpoint, hok, hastray⟩

theorem Alike.normalized_checkpoint (h : Alike r r') (checkpoint : Dict) :
    CoreEngine.normalized_checkpoint engine r' checkpoint =
      CoreEngine.normalized_checkpoint engine r checkpoint := by
  have hcontract : r'.goal_contract = r.goal_contract :=
    congrArg RunRecord.Identity.goal_contract h.identity
  unfold CoreEngine.normalized_checkpoint
  rw [hcontract]

theorem Alike.drift_count_of (h : Alike r r') :
    CoreEngine.drift_count_of r' = CoreEngine.drift_count_of r := by
  unfold CoreEngine.drift_count_of goal_state_of
  rw [h.policy_state]

theorem Alike.invalid (h : Alike r r') : Invalid engine r' o ↔ Invalid engine r o := by
  unfold Invalid
  simp only [h.normalized_checkpoint]

theorem Alike.strays (h : Alike r r') : Strays engine r' o ↔ Strays engine r o := by
  unfold Strays
  simp only [h.normalized_checkpoint]

theorem Alike.straysAgain (h : Alike r r') : StraysAgain engine r' o ↔ StraysAgain engine r o := by
  unfold StraysAgain
  simp only [h.normalized_checkpoint, h.drift_count_of]

theorem Alike.rejected (h : Alike r r') : Rejected engine r' o ↔ Rejected engine r o := by
  unfold Rejected
  rw [h.invalid, h.strays]

end Cases

/-- The status of a run that is RUNNING when an outcome is recorded as it is. -/
def landed (status : CoreRunStatus) : CoreRunStatus :=
  if status ∈ CoreRunStatus.terminal then status else .RUNNING

section Apply

variable {E : ObserveEnv} {engine : Engine ρ} {id : String} {r : RunRecord} {o : AdapterOutcome}
  {s : Core}

theorem apply_unmapped (h : Stands id r s) (hrunning : r.status = .RUNNING)
    (hstatus : o.status ≠ .RUNNING) (htimeout : o.status ≠ .TIMEOUT) (ho : Unmapped o) :
    status_of id (eval (apply_adapter_outcome E engine id o) s).1 = some (landed o.status) := by
  unfold apply_adapter_outcome
  rw [if_neg hstatus, if_neg htimeout, ho.1]
  exact h.finish_outcome hrunning hstatus

theorem apply_mapped {checkpoint : Dict} (hstatus : o.status ≠ .RUNNING)
    (htimeout : o.status ≠ .TIMEOUT) (ho : progress_checkpoint_of o = some checkpoint) :
    apply_adapter_outcome E engine id o = apply_checkpoint E engine id o checkpoint := by
  unfold apply_adapter_outcome
  rw [if_neg hstatus, if_neg htimeout, ho]

theorem apply_when_invalid (h : Stands id r s) (hrunning : r.status = .RUNNING)
    (hstatus : o.status ≠ .RUNNING) (htimeout : o.status ≠ .TIMEOUT) (ho : Invalid engine r o) :
    status_of id (eval (apply_adapter_outcome E engine id o) s).1 = some .BLOCKED := by
  obtain ⟨checkpoint, message, hcheckpoint, herror⟩ := ho
  rw [apply_mapped hstatus htimeout hcheckpoint]
  exact h.apply_invalid hrunning herror o

/-- A checkpoint that strays guards the run, or ends it. -/
theorem apply_when_strays (h : Stands id r s) (hrunning : r.status = .RUNNING) (hr : Formed r)
    (hhex : HexDigest engine.H) (hstatus : o.status ≠ .RUNNING) (htimeout : o.status ≠ .TIMEOUT)
    (ho : Strays engine r o) :
    (StraysAgain engine r o →
      status_of id (eval (apply_adapter_outcome E engine id o) s).1 = some E.abort.ends) ∧
    (¬ StraysAgain engine r o →
      status_of id (eval (apply_adapter_outcome E engine id o) s).1 = some .RUNNING) := by
  obtain ⟨checkpoint, contract, normalized, hcheckpoint, hchecked, hastray⟩ := ho
  obtain ⟨judgement, hjudge, hjudged⟩ := judge_checked hchecked hr
  obtain ⟨count, hcount, -⟩ := hr.drift_count
  obtain ⟨maximum, hmaximum⟩ := hr.max_context_resets
  have hdrift : int_of (judgement.goal_state.get? "drift_count") = .ok count :=
    hjudged.drift_count.trans hcount
  have hevent := hjudged.astray hastray
  rw [apply_mapped hstatus htimeout hcheckpoint]
  constructor
  · rintro ⟨checkpoint', contract', normalized', count', hcheckpoint', hchecked', -, hgoal, hcount',
      hagain⟩
    obtain rfl := Option.some.inj (hcheckpoint.symm.trans hcheckpoint')
    obtain ⟨rfl, rfl⟩ := Prod.mk.inj (Except.ok.inj (hchecked.symm.trans hchecked'))
    obtain rfl := Except.ok.inj (hcount.symm.trans hcount')
    exact h.apply_next_drift hrunning hhex hjudge hevent hdrift hagain
      (by rw [hjudged.normalized_eq]; exact hgoal) hmaximum o
  · intro hnot
    cases hgoal : safeText normalized.goal_id with
    | false =>
      exact (h.apply_broken hrunning hhex hjudge hdrift (by rw [hjudged.normalized_eq]; exact hgoal)
        o).2
    | true =>
      have hfirst : count + 1 < 2 := by
        by_contra hagain
        exact hnot ⟨checkpoint, contract, normalized, count, hcheckpoint, hchecked, hastray, hgoal,
          hcount, not_lt.mp hagain⟩
      obtain ⟨r', s', heval, hstands, hguarded⟩ := h.apply_first_drift (E := E) hrunning hhex
        hjudge hevent hdrift hfirst (by rw [hjudged.normalized_eq]; exact hgoal) o
      rw [heval, hstands.status_of, hguarded.status, hrunning]

/-- An outcome that says RUNNING is no outcome. -/
theorem apply_running (h : Stands id r s) (hrunning : r.status = .RUNNING)
    (hstatus : o.status = .RUNNING) :
    status_of id (eval (apply_adapter_outcome E engine id o) s).1 = some .RUNNING := by
  unfold apply_adapter_outcome
  rw [if_pos hstatus, h.require, h.status_of, hrunning]

/-- PASS is recorded only of an outcome whose checkpoint is no mapping. -/
theorem apply_not_pass (h : Stands id r s) (hrunning : r.status = .RUNNING) (hr : Formed r)
    (hhex : HexDigest engine.H) (ho : Rejected engine r o)
    (hnot : ¬ (o.status = .PASS ∧ Unmapped o)) :
    status_of id (eval (apply_adapter_outcome E engine id o) s).1 ≠ some .PASS := by
  have hends : E.abort.ends ≠ .PASS := by
    cases E.abort with
    | confirmed binding => exact fun h => by cases h
    | failed => decide
    | raised => decide
  by_cases hstatus : o.status = .RUNNING
  · rw [apply_running h hrunning hstatus]
    decide
  by_cases htimeout : o.status = .TIMEOUT
  · rw [h.apply_timeout hrunning htimeout]
    split <;> decide
  rcases ho with ho | ho | ho
  · rw [apply_unmapped h hrunning hstatus htimeout ho, landed]
    split
    · exact fun h => hnot ⟨Option.some.inj h, ho⟩
    · decide
  · rw [apply_when_invalid h hrunning hstatus htimeout ho]
    decide
  · obtain ⟨hagain, hfirst⟩ := apply_when_strays (E := E) h hrunning hr hhex hstatus htimeout ho
    by_cases hdrifts : StraysAgain engine r o
    · rw [hagain hdrifts]
      exact fun h => hends (Option.some.inj h)
    · rw [hfirst hdrifts]
      decide

end Apply

/-! ## The paths that apply an outcome -/

inductive Applying where
  | wait
  /-- `_finalize_local_execution` -/
  | finalize
  | reconcile
  deriving DecidableEq

section Paths

variable (E : ObserveEnv) (engine : Engine ρ) (id : String) (r : RunRecord) (o : AdapterOutcome)

/-- The path does not record PASS for the outcome, whatever the clock says and whether a cancellation
is asked for, and `reconcile_external_completion` leaves the status that a `wait` leaves which is told
the outcome in time. -/
def Enforced (s : Core) : Applying → Prop
  | .wait => ∀ timeout_seconds collection guarded polls, Collection.answer collection = .outcome o →
      (∀ poll ∈ polls, Poll.answer poll = .outcome o) →
      status_of id (eval (wait E engine id timeout_seconds collection guarded polls) s).1 ≠
        some .PASS
  | .finalize => ∀ collection, Collection.answer collection = .outcome o →
      status_of id (eval (finalize_local_execution E engine id (profile_for_record r) collection)
        s).1 ≠ some .PASS
  | .reconcile =>
      status_of id (eval (reconcile_external_completion E id (.outcome o)) s).1 ≠ some .PASS ∧
      ∀ timeout_seconds collection poll, 0 < timeout_seconds → Poll.answer poll = .outcome o →
        InTime (profile_for_record r) poll →
        status_of id (eval (reconcile_external_completion E id (.outcome o)) s).1 =
          status_of id (eval (wait E engine id timeout_seconds collection false [poll]) s).1

/-- The status that `reconcile_external_completion` takes from the outcome is the one that the checks
leave. -/
def Agrees : Prop :=
  match o.status with
  | .RUNNING => True
  | .PASS => False
  | .QUEUED => ¬ Invalid engine r o ∧ ¬ (StraysAgain engine r o ∧ E.abort.ends ≠ .RUNNING)
  | .TIMEOUT => o.reason = "OPENCLAW_TERMINAL_TIMEOUT" ∨
      (o.reason ≠ "OPENCLAW_TIMEOUT" ∧ E.abort.ends ≠ .RUNNING)
  | status => Unmapped o ∨ (Invalid engine r o ∧ status = .BLOCKED) ∨
      (StraysAgain engine r o ∧ E.abort.ends = status)

/-- The path checks the goal of the outcome. -/
def Checked : Applying → Prop
  | .wait | .finalize => ¬ (o.status = .PASS ∧ Unmapped o)
  | .reconcile => Agrees E engine r o

end Paths

section Checked

variable {E : ObserveEnv} {engine : Engine ρ} {id : String} {r : RunRecord} {o : AdapterOutcome}
  {s : Core}

theorem told_not_pass (hrunning : r.status = .RUNNING) (hr : Formed r) (hhex : HexDigest engine.H)
    (ho : Rejected engine r o) (hnot : ¬ (o.status = .PASS ∧ Unmapped o)) {idle : Prop} {t : Core}
    (h : Told E engine id o r idle t) : status_of id t ≠ some .PASS := by
  cases h with
  | applied hstands halike =>
    exact apply_not_pass hstands (halike.status.trans hrunning) (hr.of_alike halike) hhex
      (halike.rejected.mpr ho) hnot
  | ended hstatus =>
    rw [hstatus]
    cases E.abort with
    | confirmed binding => exact fun h => by cases h
    | failed => decide
    | raised => decide
  | left _ hstands halike =>
    rw [hstands.status_of, halike.status, hrunning]
    decide

variable (engine) in
/-- A terminal outcome that is no window is applied when it is collected in time. -/
theorem finalize_in_time (h : Stands id r s) (hrunning : r.status = .RUNNING)
    (hterm : o.status ∈ CoreRunStatus.terminal) (hwindow : ¬ Window o) :
    ∃ r' t, Stands id r' t ∧ Alike r r' ∧
      (eval (finalize_local_execution E engine id (profile_for_record r) ⟨0, .outcome o, 0⟩) s).1 =
        (eval (apply_adapter_outcome E engine id o) t).1 := by
  have hlive : r.status ∉ CoreRunStatus.terminal := by
    rw [hrunning]
    decide
  have hpositive : 0 < (profile_for_record r).max_runtime :=
    (execution_budget_pos r).trans_le (profile_local r).2
  obtain ⟨r₁, s₁, hnote, hstands₁, halike₁⟩ :=
    h.note_exhausted (E := E) (profile_for_record r)
  obtain ⟨r₂, s₂, hruntime, hstands₂, halike₂, -⟩ :=
    hstands₁.record_runtime (E := E) (runtime_seconds r₁ 0)
  have hzero : runtime_seconds r₁ 0 ≤ 0 := (runtime_seconds_le r₁ 0).trans_eq (max_self 0)
  refine ⟨r₂, s₂, hstands₂, halike₁.trans halike₂, ?_⟩
  unfold finalize_local_execution
  rw [eval_bind_ok h.require, if_neg hlive, eval_bind_ok hnote, eval_bind_ok hstands₁.require]
  dsimp only
  rw [if_neg (by linarith)]
  have hcollected : eval (collected (.outcome o)) s₁ = (s₁, .ok o) := rfl
  rw [eval_bind_ok hcollected, eval_bind_ok hstands₁.require, eval_bind_ok hruntime,
    if_neg (by linarith), if_pos ⟨hterm, hwindow⟩]

/-- `reconcile_external_completion` records the outcome as it is. -/
theorem reconcile_status (h : Stands id r s) (hrunning : r.status = .RUNNING) :
    status_of id (eval (reconcile_external_completion E id (.outcome o)) s).1 =
      some (landed o.status) := by
  have hlive : r.status ∉ CoreRunStatus.terminal := by
    rw [hrunning]
    decide
  unfold reconcile_external_completion reconcile_apply landed
  rw [eval_bind_ok h.require, if_neg hlive]
  dsimp only
  rw [eval_bind_ok h.require, if_neg hlive]
  by_cases hterm : o.status ∈ CoreRunStatus.terminal
  · obtain ⟨r', s', heval, hstatus, hlast⟩ := h.clear_transition (E := E) hrunning hterm none
      (some o) o.reason
    rw [if_neg (not_not.mpr hterm), heval, if_pos hterm, status_of, hlast, Option.map_some, hstatus]
  · rw [if_pos hterm, if_neg hterm]
    exact h.status_of.trans (congrArg some hrunning)

/-- A poll that is answered at once. -/
theorem inTime_zero (r : RunRecord) (answer : Waited) :
    InTime (profile_for_record r) ⟨0, answer, 0, false⟩ := by
  have hpositive := execution_budget_pos r
  exact ⟨by rwa [max_self], by rwa [max_self], rfl⟩

/-- The statuses that the two calls leave agree as `Agrees` says. -/
theorem agrees_iff (h : Stands id r s) (hrunning : r.status = .RUNNING) (hr : Formed r)
    (hhex : HexDigest engine.H) (ho : Rejected engine r o) (hpass : o.status ≠ .PASS)
    {timeout_seconds : ℚ} (hpos : 0 < timeout_seconds) (collection : Collection) {poll : Poll}
    (hpoll : poll.answer = .outcome o) (htime : InTime (profile_for_record r) poll) :
    some (landed o.status) =
        status_of id (eval (wait E engine id timeout_seconds collection false [poll]) s).1 ↔
      Agrees E engine r o := by
  obtain ⟨r', t, hstands, halike, hwait, hwindow⟩ :=
    wait_in_time (E := E) engine h hrunning hpos collection hpoll htime
  have hrunning' := halike.status.trans hrunning
  have hr' := hr.of_alike halike
  by_cases hover : Window o
  · rw [hwindow hover, hstands.status_of, hrunning']
    unfold Agrees
    rw [hover.1, hover.2]
    refine iff_of_false (by decide) ?_
    rintro (hreason | ⟨hreason, -⟩)
    · exact absurd hreason (by decide)
    · exact hreason rfl
  rw [hwait hover]
  by_cases hstatus : o.status = .RUNNING
  · rw [apply_running hstands hrunning' hstatus]
    unfold Agrees
    rw [hstatus]
    exact iff_of_true rfl trivial
  by_cases htimeout : o.status = .TIMEOUT
  · have hreason : o.reason ≠ "OPENCLAW_TIMEOUT" := fun hreason => hover ⟨htimeout, hreason⟩
    rw [hstands.apply_timeout hrunning' htimeout]
    unfold Agrees
    rw [htimeout]
    by_cases hends : o.reason = "OPENCLAW_TERMINAL_TIMEOUT" ∨ E.abort.ends ≠ .RUNNING
    · rw [if_pos hends]
      exact iff_of_true rfl (hends.imp_right fun h => ⟨hreason, h⟩)
    · rw [if_neg hends]
      exact iff_of_false (by decide) fun h => hends (h.imp_right And.right)
  -- the status that the checks leave, by what is wrong with the checkpoint
  rcases ho with ho | ho | ho
  · rw [apply_unmapped hstands hrunning' hstatus htimeout ho]
    refine iff_of_true rfl ?_
    unfold Agrees
    cases hst : o.status with
    | QUEUED => exact ⟨ho.not_invalid, fun h => ho.not_strays h.1.strays⟩
    | RUNNING => exact absurd hst hstatus
    | TIMEOUT => exact absurd hst htimeout
    | PASS => exact absurd hst hpass
    | FAIL | BLOCKED | CANCELLED => exact .inl ho
  · rw [apply_when_invalid hstands hrunning' hstatus htimeout (halike.invalid.mpr ho)]
    unfold Agrees
    cases hst : o.status with
    | QUEUED => exact iff_of_false (by decide) fun h => h.1 ho
    | RUNNING => exact absurd hst hstatus
    | TIMEOUT => exact absurd hst htimeout
    | PASS => exact absurd hst hpass
    | BLOCKED => exact iff_of_true rfl (.inr (.inl ⟨ho, rfl⟩))
    | FAIL | CANCELLED =>
      refine iff_of_false (by decide) ?_
      rintro (h | ⟨-, h⟩ | ⟨h, -⟩)
      · exact h.not_invalid ho
      · cases h
      · exact ho.not_strays h.strays
  · obtain ⟨hagain, hfirst⟩ := apply_when_strays (E := E) hstands hrunning' hr' hhex hstatus
      htimeout (halike.strays.mpr ho)
    rw [halike.straysAgain] at hagain hfirst
    by_cases hdrifts : StraysAgain engine r o
    · rw [hagain hdrifts]
      unfold Agrees
      cases hst : o.status with
      | QUEUED =>
        show some CoreRunStatus.RUNNING = _ ↔ _
        rw [Option.some_inj]
        refine ⟨fun h => ⟨fun hinvalid => hinvalid.not_strays ho, fun h' => h'.2 h.symm⟩, fun h => ?_⟩
        by_contra hne
        exact h.2 ⟨hdrifts, fun h' => hne h'.symm⟩
      | RUNNING => exact absurd hst hstatus
      | TIMEOUT => exact absurd hst htimeout
      | PASS => exact absurd hst hpass
      | FAIL | BLOCKED | CANCELLED =>
        refine Option.some_inj.trans ⟨fun h => .inr (.inr ⟨hdrifts, h.symm⟩), ?_⟩
        rintro (h | ⟨h, -⟩ | ⟨-, h⟩)
        · exact absurd ho h.not_strays
        · exact absurd ho h.not_strays
        · exact h.symm
    · rw [hfirst hdrifts]
      unfold Agrees
      cases hst : o.status with
      | QUEUED => exact iff_of_true rfl ⟨fun h => h.not_strays ho, fun h => hdrifts h.1⟩
      | RUNNING => exact absurd hst hstatus
      | TIMEOUT => exact absurd hst htimeout
      | PASS => exact absurd hst hpass
      | FAIL | BLOCKED | CANCELLED =>
        refine iff_of_false (by decide) ?_
        rintro (h | ⟨h, -⟩ | ⟨h, -⟩)
        · exact h.not_strays ho
        · exact h.not_strays ho
        · exact hdrifts h

/-- The goal of an outcome is checked on the paths of `wait` and `_finalize_local_execution` just if the
outcome is not PASS with a checkpoint that is no mapping, and on that of
`reconcile_external_completion` just if the outcome has the status that the checks leave. -/
theorem goal_checks_iff (h : Stands id r s) (hrunning : r.status = .RUNNING) (hr : Formed r)
    (hhex : HexDigest engine.H) (ho : Rejected engine r o) (path : Applying) :
    Enforced E engine id r o s path ↔ Checked E engine r o path := by
  have hbad : ∀ {r' : RunRecord} {t : Core}, Stands id r' t → Alike r r' →
      o.status = .PASS ∧ Unmapped o →
      status_of id (eval (apply_adapter_outcome E engine id o) t).1 = some .PASS := by
    intro r' t hstands halike hpass
    rw [apply_unmapped hstands (halike.status.trans hrunning) (by rw [hpass.1]; decide)
      (by rw [hpass.1]; decide) hpass.2, hpass.1]
    rfl
  have hopen : o.status = .PASS → ¬ Window o := by
    intro hpass hwindow
    exact absurd (hpass.symm.trans hwindow.1) (by decide)
  cases path with
  | wait =>
    constructor
    · intro henforced hpass
      obtain ⟨r', t, hstands, halike, hwait, -⟩ := wait_in_time (E := E) engine h
        hrunning zero_lt_one ⟨0, .outcome o, 0⟩ rfl (inTime_zero r (.outcome o))
      refine henforced 1 ⟨0, .outcome o, 0⟩ false [⟨0, .outcome o, 0, false⟩] rfl ?_ ?_
      · exact List.forall_mem_singleton.mpr rfl
      · rw [hwait (hopen hpass.1)]
        exact hbad hstands halike hpass
    · intro hnot timeout_seconds collection guarded polls hcollect hpolls
      exact told_not_pass hrunning hr hhex ho hnot (wait_told h hrunning hr hcollect hpolls)
  | finalize =>
    constructor
    · intro henforced hpass
      obtain ⟨r', t, hstands, halike, hfinal⟩ := finalize_in_time (E := E) engine h
        hrunning (by rw [hpass.1]; decide) (hopen hpass.1)
      refine henforced ⟨0, .outcome o, 0⟩ rfl ?_
      rw [hfinal]
      exact hbad hstands halike hpass
    · intro hnot collection hcollect
      exact told_not_pass hrunning hr hhex ho hnot
        (show Told E engine id o r False _ from h.told_finalize hrunning hr _ hcollect)
  | reconcile =>
    unfold Enforced
    rw [reconcile_status h hrunning]
    by_cases hpass : o.status = .PASS
    · refine iff_of_false ?_ ?_
      · rintro ⟨hnot, -⟩
        rw [hpass] at hnot
        exact hnot rfl
      · show ¬ Agrees E engine r o
        unfold Agrees
        rw [hpass]
        exact not_false
    · have hlanded : some (landed o.status) ≠ some CoreRunStatus.PASS := by
        intro hl
        have hl := Option.some.inj hl
        unfold landed at hl
        split at hl
        · exact hpass hl
        · cases hl
      constructor
      · rintro ⟨-, hsame⟩
        refine (agrees_iff h hrunning hr hhex ho hpass zero_lt_one ⟨0, .outcome o, 0⟩ rfl
          (inTime_zero r (.outcome o))).mp ?_
        exact hsame 1 _ _ zero_lt_one rfl (inTime_zero r (.outcome o))
      · intro hagrees
        refine ⟨hlanded, fun timeout_seconds collection poll hpos hpoll htime => ?_⟩
        exact (agrees_iff h hrunning hr hhex ho hpass hpos collection hpoll htime).mpr hagrees

end Checked

/-! ## A checkpoint that names another goal -/

namespace Sample

def hexed : Engine Unit := { unbound with H := ⟨fun _ => "ab", fun _ _ => []⟩ }

/-- PASS with a checkpoint that names another goal. -/
def strayed : AdapterOutcome :=
  { made_up .PASS "" with
    result := some (Dict.empty.set "progress_checkpoint"
      (.ofDict (Dict.empty.set "goal_id" (.str "other")))) }

theorem stands_running : Stands "core-1" running core := .of_readable readable_core last_core

theorem hexed_hex : HexDigest hexed.H := by
  have hsafe : safeText "ab" = true := by decide +kernel
  exact fun _ => hsafe

theorem running_formed : Formed running where
  drift_count := ⟨0, rfl, le_rfl⟩
  verified_progress _ := ⟨_, verified_with_progress [] [] [] [] _⟩
  max_context_resets := ⟨0, rfl⟩

theorem strayed_strays : Strays hexed running strayed := by
  refine ⟨Dict.empty.set "goal_id" (.str "other"), RunRegistry.sampleArgs.goal_contract,
    ⟨"other", "UNSPECIFIED", [], [], "NONE", [], [], []⟩, rfl, by decide +kernel, .inl ?_⟩
  decide +kernel

end Sample

/-- `reconcile_external_completion` records PASS of an outcome whose checkpoint names another goal. -/
theorem goal_unchecked : ∃ path : Applying, Stands "core-1" Sample.running Sample.core ∧
    Sample.running.status = .RUNNING ∧ Formed Sample.running ∧
    Rejected Sample.hexed Sample.running Sample.strayed ∧
    ¬ Enforced (Sample.observe_env .failed) Sample.hexed "core-1" Sample.running Sample.strayed
      Sample.core path := by
  refine ⟨.reconcile, Sample.stands_running, rfl, Sample.running_formed,
    .inr (.inr Sample.strayed_strays), ?_⟩
  rintro ⟨hnot, -⟩
  refine hnot ?_
  rw [reconcile_status Sample.stands_running rfl]
  rfl

/-- `wait` checks it. -/
theorem goal_checks_sample :
    Enforced (Sample.observe_env .failed) Sample.hexed "core-1" Sample.running Sample.strayed
      Sample.core .wait := by
  refine (goal_checks_iff Sample.stands_running rfl Sample.running_formed Sample.hexed_hex
    (.inr (.inr Sample.strayed_strays)) .wait).mpr ?_
  rintro ⟨-, hunmapped⟩
  exact hunmapped.not_strays Sample.strayed_strays

end CoreEngine

end Plachem
