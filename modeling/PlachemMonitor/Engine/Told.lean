import PlachemMonitor.Engine.Drift

/-!
# Calls that are told one outcome

A call of `wait` on a run that is RUNNING, if all that the adapter answers to it is one outcome, applies
the outcome, or the policy ends the run because its budget is over, or the run is left as it is
(`wait_told`). It is left only if the call has no time, a cancellation is asked for, or the outcome is
a window that is over (`Idle`).
-/

namespace Plachem

namespace CoreEngine

open Effect
open RegistryFile (safeText)
open RunRegistry (last)

variable {ρ : Type}

/-- What becomes of a run whose record is `r`. -/
inductive Told (E : ObserveEnv) (engine : Engine ρ) (id : String) (outcome : AdapterOutcome)
    (r : RunRecord) (idle : Prop) : Core → Prop where
  | applied {r' : RunRecord} {t : Core} (stands : Stands id r' t) (alike : Alike r r') :
      Told E engine id outcome r idle (eval (apply_adapter_outcome E engine id outcome) t).1
  | ended {t : Core} (status : status_of id t = some E.abort.ends) :
      Told E engine id outcome r idle t
  | left {r' : RunRecord} {t : Core} (why : idle) (stands : Stands id r' t) (alike : Alike r r') :
      Told E engine id outcome r idle t

variable {E : ObserveEnv} {engine : Engine ρ} {id : String} {outcome : AdapterOutcome}
  {r : RunRecord} {idle : Prop} {s : Core}

theorem Told.of_alike {r' : RunRecord} (halike : Alike r r') {t : Core}
    (h : Told E engine id outcome r' idle t) : Told E engine id outcome r idle t := by
  cases h with
  | applied hstands halike' => exact .applied hstands (halike.trans halike')
  | ended hstatus => exact .ended hstatus
  | left hidle hstands halike' => exact .left hidle hstands (halike.trans halike')

theorem Told.mono {idle' : Prop} (hidle : idle → idle') {t : Core}
    (h : Told E engine id outcome r idle t) : Told E engine id outcome r idle' t := by
  cases h with
  | applied hstands halike => exact .applied hstands halike
  | ended hstatus => exact .ended hstatus
  | left h hstands halike => exact .left (hidle h) hstands halike

/-- The budget of the run is over. -/
theorem Stands.told_cancel (h : Stands id r s) (hrunning : r.status = .RUNNING) (hr : Formed r) :
    Told E engine id outcome r idle
      (eval (CoreEngine.cancel_for_policy E id "RUNTIME_LIMIT" none) s).1 := by
  obtain ⟨maximum, hmaximum⟩ := hr.max_context_resets
  obtain ⟨s', out, heval, hstatus, -⟩ := h.cancel_for_policy (E := E) hrunning hmaximum
  rw [heval]
  exact .ended hstatus

/-- The event of a run whose execution budget is over. -/
theorem Stands.note_exhausted (h : Stands id r s) (profile : RuntimeModelProfile) :
    ∃ r' s', eval (CoreEngine.note_exhausted E id profile r) s = (s', .ok ()) ∧ Stands id r' s' ∧
      Alike r r' := by
  unfold CoreEngine.note_exhausted
  split
  · have hkeys : safeText "execution_budget" = true ∧
        safeText "finalization_recovery_budget" = true := by decide +kernel
    have hargs : RunRegistry.SafePolicyUpdate { PolicyUpdate.none with
        event_code := some "EXECUTION_BUDGET_EXHAUSTED"
        event_details := some (Dict.ofList [
          ("execution_budget", .float (E.round profile.execution_budget)),
          ("finalization_recovery_budget", .float (E.round profile.finalization_recovery_budget))]
          (by simp))
        policy_status := some "GUARDED" } := by
      constructor
      case event_code => rintro t ⟨⟩; decide +kernel
      case policy_status => rintro t ⟨⟩; decide +kernel
      case event_details =>
        rintro d ⟨⟩
        simp only [RunRegistry.safeDict_ofList, List.forall_mem_cons, List.not_mem_nil,
          false_imp_iff, implies_true, RunRegistry.safe_float, hkeys, true_and]
      all_goals exact fun _ h => by cases h
    obtain ⟨out, r', s', heval, hstands, halike, -⟩ :=
      h.update_policy (E := E) hargs rfl rfl rfl
    exact ⟨r', s', eval_bind_ok heval, hstands, halike⟩
  · exact ⟨r, s, rfl, h, .refl r⟩

theorem Stands.told_finalize (h : Stands id r s) (hrunning : r.status = .RUNNING) (hr : Formed r)
    (profile : RuntimeModelProfile) {collection : Collection}
    (hanswer : collection.answer = .outcome outcome) :
    Told E engine id outcome r idle
      (eval (finalize_local_execution E engine id profile collection) s).1 := by
  have hlive : r.status ∉ CoreRunStatus.terminal := by
    rw [hrunning]
    decide
  obtain ⟨r₁, s₁, hnote, hstands₁, halike₁⟩ := h.note_exhausted (E := E) profile
  obtain ⟨r₂, s₂, hruntime, hstands₂, halike₂⟩ :=
    hstands₁.record_runtime (E := E) (runtime_seconds r₁ collection.reading)
  have halike := halike₁.trans halike₂.1
  unfold finalize_local_execution
  rw [eval_bind_ok h.require, if_neg hlive, eval_bind_ok hnote, eval_bind_ok hstands₁.require]
  dsimp only
  split
  · exact (hstands₁.told_cancel (halike₁.status.trans hrunning) (hr.of_alike halike₁)).of_alike halike₁
  · have hcollected : eval (collected collection.answer) s₁ = (s₁, .ok outcome) := by
      rw [hanswer]
      rfl
    rw [eval_bind_ok hcollected, eval_bind_ok hstands₁.require, eval_bind_ok hruntime]
    have hcancel : Told E engine id outcome r idle
        (eval (CoreEngine.cancel_for_policy E id "RUNTIME_LIMIT" none) s₂).1 :=
      (hstands₂.told_cancel (halike.status.trans hrunning) (hr.of_alike halike)).of_alike halike
    split
    · exact hcancel
    split
    · exact .applied hstands₂ halike
    · exact hcancel

/-- The outcome says that the window of a poll is over. -/
def Window (outcome : AdapterOutcome) : Prop :=
  outcome.status = .TIMEOUT ∧ outcome.reason = "OPENCLAW_TIMEOUT"

/-- How a turn of the loop in `wait` ends. -/
inductive Turned (E : ObserveEnv) (engine : Engine ρ) (id : String) (outcome : AdapterOutcome)
    (r : RunRecord) (guarded : Bool) : Core × Except ObserveError Turn → Prop where
  | observed {r' : RunRecord} {t : Core} (window : ¬ Window outcome) (stands : Stands id r' t)
      (alike : Alike r r') : Turned E engine id outcome r guarded (t, .ok (.observed outcome))
  | again {r' : RunRecord} {t : Core} (window : Window outcome) (stands : Stands id r' t)
      (alike : Alike r r') : Turned E engine id outcome r guarded (t, .ok .again)
  | returned {t : Core} {q : RunRecord}
      (told : Told E engine id outcome r (guarded = true ∨ Window outcome) t) :
      Turned E engine id outcome r guarded (t, .ok (.returned q))
  | raised {t : Core} {e : ObserveError}
      (told : Told E engine id outcome r (guarded = true ∨ Window outcome) t) :
      Turned E engine id outcome r guarded (t, .error e)

/-- A turn that returns what a call does. -/
theorem turned_returned {x : Act RunRecord} {guarded : Bool}
    (h : Told E engine id outcome r (guarded = true ∨ Window outcome) (eval x s).1) :
    Turned E engine id outcome r guarded (eval (Turn.returned <$> x) s) := by
  cases hx : eval x s with
  | mk t out =>
    rw [hx] at h
    cases out with
    | ok q =>
      have heval : eval (Turn.returned <$> x) s = (t, .ok (.returned q)) := by
        rw [← bind_pure_comp]
        exact eval_bind_ok hx
      rw [heval]
      exact .returned h
    | error e =>
      have heval : eval (Turn.returned <$> x) s = (t, .error e) := by
        rw [← bind_pure_comp]
        exact eval_bind_error hx
      rw [heval]
      exact .raised h

variable (engine) in
/-- A turn that is told the outcome. -/
theorem Stands.turned (h : Stands id r s) (hrunning : r.status = .RUNNING) (hr : Formed r)
    {profile : RuntimeModelProfile} (hlocal : profile.runtime_class = .LOCAL) (requested_wait : ℚ)
    {collection : Collection} (hcollect : collection.answer = .outcome outcome) {poll : Poll}
    (hpoll : poll.answer = .outcome outcome) :
    Turned E engine id outcome r poll.guarded
      (eval (wait_turn E engine id profile requested_wait collection poll) s) := by
  obtain ⟨r₁, s₁, hbefore, hstands₁, halike₁, -⟩ :=
    h.record_runtime (E := E) (runtime_seconds r poll.reading₀)
  obtain ⟨r₂, s₂, hafter, hstands₂, halike₂, -⟩ :=
    hstands₁.record_runtime (E := E) (runtime_seconds r₁ poll.reading)
  have halike := halike₁.trans halike₂
  have hpolled : eval (polled E id poll.answer) s₁ = (s₁, .ok outcome) := by
    rw [hpoll]
    rfl
  have hrunning₂ := halike.status.trans hrunning
  have hr₂ := hr.of_alike halike
  have hleft : ∀ {why : Prop}, why →
      Told E engine id outcome r why (eval (CoreEngine.require id) s₂).1 := by
    intro why hwhy
    rw [hstands₂.require]
    exact .left hwhy hstands₂ halike
  unfold wait_turn
  rw [eval_bind_ok h.require, eval_bind_ok hbefore]
  refine eval_ite (fun _ => turned_returned ?_) fun _ => ?_
  · exact (hstands₁.told_cancel (halike₁.status.trans hrunning) (hr.of_alike halike₁)).of_alike halike₁
  refine eval_ite (fun _ => turned_returned ?_) fun _ => ?_
  · exact (hstands₁.told_finalize (halike₁.status.trans hrunning) (hr.of_alike halike₁) profile
      hcollect).of_alike halike₁
  rw [eval_bind_ok hpolled, eval_bind_ok hstands₁.require, eval_bind_ok hafter]
  refine eval_ite (fun hguarded => turned_returned (hleft (.inl hguarded))) fun _ => ?_
  refine eval_ite (fun _ => turned_returned ?_) fun _ => ?_
  · exact (hstands₂.told_finalize hrunning₂ hr₂ profile hcollect).of_alike halike
  refine eval_ite (fun _ => turned_returned ?_) fun _ => ?_
  · exact (hstands₂.told_cancel hrunning₂ hr₂).of_alike halike
  refine eval_ite (fun hstatus => ?_) fun hstatus => ?_
  · exact .observed (fun hwindow => hstatus hwindow.1) hstands₂ halike
  have htimeout := not_not.mp hstatus
  refine eval_ite (fun hmanaged => turned_returned (hleft (.inr ⟨htimeout, hmanaged.2⟩))) fun _ => ?_
  refine eval_ite (fun hcloud => absurd hlocal hcloud) fun _ => ?_
  refine eval_ite (fun hreason => ?_) fun hreason => ?_
  · exact .observed (fun hwindow => hreason hwindow.2) hstands₂ halike
  have hwindow : Window outcome := ⟨htimeout, not_not.mp hreason⟩
  refine eval_ite (fun _ => turned_returned (hleft (.inr hwindow))) fun _ => ?_
  exact .again hwindow hstands₂ halike

/-- A call of `wait` that leaves the run as it is. -/
def Idle (outcome : AdapterOutcome) (timeout_seconds : ℚ) (guarded : Bool) (polls : List Poll) : Prop :=
  timeout_seconds ≤ 0 ∨ guarded = true ∨ polls = [] ∨ (∃ poll ∈ polls, poll.guarded = true) ∨
    Window outcome

/-- The last section of `wait`. -/
theorem Stands.told_apply (h : Stands id r s) (hrunning : r.status = .RUNNING) (guarded : Bool) :
    Told E engine id outcome r (guarded = true)
      (eval (wait_apply E engine id guarded outcome) s).1 := by
  have hlive : r.status ∉ CoreRunStatus.terminal := by
    rw [hrunning]
    decide
  unfold wait_apply
  rw [eval_bind_ok h.require, if_neg hlive]
  split
  · rename_i hguarded
    exact .left hguarded h (.refl r)
  · exact .applied h (.refl r)

theorem Stands.told_loop {profile : RuntimeModelProfile} (hlocal : profile.runtime_class = .LOCAL)
    {requested_wait : ℚ} {collection : Collection} (hcollect : collection.answer = .outcome outcome)
    {guarded : Bool} {polls : List Poll} (hpolls : ∀ poll ∈ polls, poll.answer = .outcome outcome)
    {r : RunRecord} {s : Core} (h : Stands id r s) (hrunning : r.status = .RUNNING) (hr : Formed r) :
    Told E engine id outcome r
      (guarded = true ∨ polls = [] ∨ (∃ poll ∈ polls, poll.guarded = true) ∨ Window outcome)
      (eval (wait_loop E engine id profile requested_wait collection guarded polls) s).1 := by
  induction polls generalizing r s with
  | nil => exact .left (.inr (.inl rfl)) h (.refl r)
  | cons poll polls ih =>
    rw [List.forall_mem_cons] at hpolls
    have hturn := h.turned (E := E) engine hrunning hr hlocal requested_wait hcollect hpolls.1
    have hwhy : poll.guarded = true ∨ Window outcome → guarded = true ∨ poll :: polls = [] ∨
        (∃ p ∈ poll :: polls, p.guarded = true) ∨ Window outcome := by
      rintro (hguarded | hwindow)
      · exact .inr (.inr (.inl ⟨poll, List.mem_cons_self, hguarded⟩))
      · exact .inr (.inr (.inr hwindow))
    cases hx : eval (wait_turn E engine id profile requested_wait collection poll) s with
    | mk t out =>
      rw [hx] at hturn
      unfold wait_loop
      cases hturn with
      | observed hwindow hstands halike =>
        rw [eval_bind_ok hx]
        exact ((hstands.told_apply (halike.status.trans hrunning) guarded).mono .inl).of_alike halike
      | again hwindow hstands halike =>
        rw [eval_bind_ok hx]
        refine ((ih hpolls.2 hstands (halike.status.trans hrunning) (hr.of_alike halike)).mono ?_).of_alike
          halike
        exact fun _ => .inr (.inr (.inr hwindow))
      | returned htold =>
        rw [eval_bind_ok hx]
        exact htold.mono hwhy
      | raised htold =>
        rw [eval_bind_error hx]
        exact htold.mono hwhy

/-- `wait`, if all that the adapter answers is one outcome. -/
theorem wait_told (h : Stands id r s) (hrunning : r.status = .RUNNING) (hr : Formed r)
    {timeout_seconds : ℚ} {collection : Collection} (hcollect : collection.answer = .outcome outcome)
    {guarded : Bool} {polls : List Poll} (hpolls : ∀ poll ∈ polls, poll.answer = .outcome outcome) :
    Told E engine id outcome r (Idle outcome timeout_seconds guarded polls)
      (eval (wait E engine id timeout_seconds collection guarded polls) s).1 := by
  have hlive : r.status ∉ CoreRunStatus.terminal := by
    rw [hrunning]
    decide
  unfold wait
  rw [eval_bind_ok h.require, if_neg hlive]
  split
  · rename_i htime
    exact .left (.inl htime) h (.refl r)
  · exact (Stands.told_loop (profile_local r).1 hcollect hpolls h hrunning hr).mono .inr

/-- The poll is answered while the budget of the run lasts, and no cancellation is asked for. -/
structure InTime (profile : RuntimeModelProfile) (poll : Poll) : Prop where
  before : max 0 poll.reading₀ < profile.execution_budget
  after : max 0 poll.reading < profile.execution_budget
  unguarded : poll.guarded = false

variable (engine) in
/-- A turn that is told the outcome in time. -/
theorem Stands.turn_in_time (h : Stands id r s) {profile : RuntimeModelProfile}
    (hlocal : profile.runtime_class = .LOCAL)
    (hbudget : profile.execution_budget ≤ profile.max_runtime) (requested_wait : ℚ)
    (collection : Collection) {poll : Poll} (hpoll : poll.answer = .outcome outcome)
    (htime : InTime profile poll) :
    ∃ r' t turn, eval (wait_turn E engine id profile requested_wait collection poll) s =
        (t, .ok turn) ∧ Stands id r' t ∧ Alike r r' ∧
      (¬ Window outcome → turn = .observed outcome) ∧
      (Window outcome → ∀ o, turn ≠ .observed o) := by
  obtain ⟨r₁, s₁, hbefore, hstands₁, halike₁, -⟩ :=
    h.record_runtime (E := E) (runtime_seconds r poll.reading₀)
  obtain ⟨r₂, s₂, hafter, hstands₂, halike₂, -⟩ :=
    hstands₁.record_runtime (E := E) (runtime_seconds r₁ poll.reading)
  have halike := halike₁.trans halike₂
  have hpolled : eval (polled E id poll.answer) s₁ = (s₁, .ok outcome) := by
    rw [hpoll]
    rfl
  have hreading₀ := (runtime_seconds_le r poll.reading₀).trans_lt htime.before
  have hreading := (runtime_seconds_le r₁ poll.reading).trans_lt htime.after
  have hreturned : eval (Turn.returned <$> CoreEngine.require id) s₂ = (s₂, .ok (.returned r₂)) := by
    rw [← bind_pure_comp]
    exact eval_bind_ok hstands₂.require
  unfold wait_turn
  rw [eval_bind_ok h.require, eval_bind_ok hbefore]
  dsimp only
  rw [if_neg (fun hover => by linarith [hover.2]), if_neg (fun hover => by linarith [hover.2.2]),
    eval_bind_ok hpolled, eval_bind_ok hstands₁.require, eval_bind_ok hafter,
    if_neg (by rw [htime.unguarded]; decide), if_neg (fun hover => by linarith [hover.2.2.1]),
    if_neg (fun hover => by linarith [hover.2.1])]
  by_cases hwindow : Window outcome
  · obtain ⟨hstatus, hreason⟩ := hwindow
    have hno : ∀ o, Turn.returned r₂ ≠ .observed o := fun o h => by cases h
    have hleft : ∃ r' t turn, eval (Turn.returned <$> CoreEngine.require id) s₂ = (t, .ok turn) ∧
        Stands id r' t ∧ Alike r r' ∧ (¬ Window outcome → turn = .observed outcome) ∧
        (Window outcome → ∀ o, turn ≠ .observed o) :=
      ⟨r₂, s₂, _, hreturned, hstands₂, halike, fun h => absurd ⟨hstatus, hreason⟩ h, fun _ => hno⟩
    rw [if_neg (not_not.mpr hstatus)]
    by_cases hmanaged : r.watchdog_managed = true ∧ outcome.reason = "OPENCLAW_TIMEOUT"
    · rw [if_pos hmanaged]
      exact hleft
    rw [if_neg hmanaged, if_neg (not_not.mpr hlocal), if_neg (not_not.mpr hreason)]
    split
    · exact hleft
    · exact ⟨r₂, s₂, .again, rfl, hstands₂, halike, fun h => absurd ⟨hstatus, hreason⟩ h,
        fun _ o h => by cases h⟩
  · refine ⟨r₂, s₂, .observed outcome, ?_, hstands₂, halike, fun _ => rfl, fun h => absurd h hwindow⟩
    by_cases hstatus : outcome.status = .TIMEOUT
    · have hreason : outcome.reason ≠ "OPENCLAW_TIMEOUT" := fun h => hwindow ⟨hstatus, h⟩
      rw [if_neg (not_not.mpr hstatus), if_neg (fun h => hreason h.2), if_neg (not_not.mpr hlocal),
        if_pos hreason]
      rfl
    · rw [if_pos hstatus]
      rfl

variable (engine) in
/-- A call of `wait` that is told the outcome in time applies it. A window leaves the run as it is. -/
theorem wait_in_time (h : Stands id r s) (hrunning : r.status = .RUNNING) {timeout_seconds : ℚ}
    (hpos : 0 < timeout_seconds) (collection : Collection) {poll : Poll}
    (hpoll : poll.answer = .outcome outcome) (htime : InTime (profile_for_record r) poll) :
    ∃ r' t, Stands id r' t ∧ Alike r r' ∧
      (¬ Window outcome → (eval (wait E engine id timeout_seconds collection false [poll]) s).1 =
        (eval (apply_adapter_outcome E engine id outcome) t).1) ∧
      (Window outcome →
        (eval (wait E engine id timeout_seconds collection false [poll]) s).1 = t) := by
  have hlive : r.status ∉ CoreRunStatus.terminal := by
    rw [hrunning]
    decide
  obtain ⟨hlocal, hbudget⟩ := profile_local r
  obtain ⟨r', t, turn, heval, hstands, halike, hobserved, hwindow⟩ :=
    h.turn_in_time (E := E) engine hlocal hbudget timeout_seconds collection hpoll htime
  have hlive' : r'.status ∉ CoreRunStatus.terminal := by
    rw [halike.status]
    exact hlive
  have hwait : eval (wait E engine id timeout_seconds collection false [poll]) s =
      eval (wait_loop E engine id (profile_for_record r) timeout_seconds collection false [poll]) s := by
    unfold wait
    rw [eval_bind_ok h.require, if_neg hlive, if_neg (not_le.mpr hpos)]
  refine ⟨r', t, hstands, halike, fun hnot => ?_, fun hw => ?_⟩
  · rw [hwait, wait_loop, eval_bind_ok heval, hobserved hnot]
    unfold wait_apply
    rw [eval_bind_ok hstands.require, if_neg hlive']
    rfl
  · rw [hwait, wait_loop, eval_bind_ok heval]
    cases turn with
    | returned q => rfl
    | observed o => exact absurd rfl (hwindow hw o)
    | again => rfl

end CoreEngine

end Plachem
