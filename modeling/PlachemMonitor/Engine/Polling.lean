import PlachemMonitor.Engine.Checks

/-!
# Outcomes that are polled again

The adapter saves the outcome of a worker and answers every later `wait` with it. Each call of
`CoreEngine.wait` on a run that is still RUNNING applies it once more. The first that applies it ends
the run, or leaves it where later calls change nothing (`Stands.apply_settles`), but for a checkpoint
that is the first drift of the run: the next call counts it as the second one and ends the run
(`Stands.second_poll_ends`). So the number of calls does not matter just if the outcome is no first
drift (`polling_iff`).
-/

namespace Plachem

namespace CoreEngine

open Effect
open RegistryFile (safeText)
open RunRegistry (last)

variable {ρ : Type}

/-! ## The first drift of a run -/

section Drifting

variable (engine : Engine ρ) (r : RunRecord) (o : AdapterOutcome)

/-- The checkpoint adds nothing to what is verified, and says what the last one in scope said. -/
def Repeats (normalized : Checkpoint) : Prop :=
  ∃ verified goal_state, verified_with r.verified_progress normalized = .ok verified ∧
    Dict.Eqv verified r.verified_progress ∧ goal_state_of r = .ok goal_state ∧
    goal_state.get? "last_checkpoint_signature" =
      some (.str (signature engine.H normalized verified))

/-- The outcome carries a valid checkpoint that strays or repeats the last one, and the run has not
drifted since its last step. -/
def DriftsFirst : Prop :=
  o.status ≠ .TIMEOUT ∧ ∃ checkpoint contract normalized count,
    progress_checkpoint_of o = some checkpoint ∧
    normalized_checkpoint engine r checkpoint = .ok (contract, normalized) ∧
    safeText normalized.goal_id = true ∧ (Astray contract normalized ∨ Repeats engine r normalized) ∧
    drift_count_of r = .ok count ∧ count + 1 < 2

end Drifting

section Judging

variable {engine : Engine ρ} {r r' : RunRecord} {o : AdapterOutcome} {checkpoint : Dict}
  {contract : GoalContract} {normalized : Checkpoint} {judgement : Judgement}

/-- A checkpoint is an event just if it strays or repeats the last one. -/
theorem judged_event (hchecked : normalized_checkpoint engine r checkpoint = .ok (contract, normalized))
    (hjudge : judge engine r checkpoint = .ok judgement) (hevent : judgement.event_code.isSome = true) :
    Astray contract normalized ∨ Repeats engine r normalized := by
  obtain ⟨contract', hcontract, hchecked⟩ := bind_eq_ok.mp hchecked
  obtain ⟨normalized', hnormalized, hchecked⟩ := bind_eq_ok.mp hchecked
  obtain ⟨rfl, rfl⟩ := Prod.mk.inj (pure_eq_ok.mp hchecked)
  unfold judge at hjudge
  rw [hcontract] at hjudge
  obtain ⟨contract, hmapped, hjudge⟩ := bind_eq_ok.mp hjudge
  obtain rfl : contract' = contract := Except.ok.inj hmapped
  rw [hnormalized] at hjudge
  obtain ⟨normalized, hmapped', hjudge⟩ := bind_eq_ok.mp hjudge
  obtain rfl : normalized' = normalized := Except.ok.inj hmapped'
  obtain ⟨goal_state, hgoal, hjudge⟩ := bind_eq_ok.mp hjudge
  obtain ⟨verified, hverified, hjudge⟩ := bind_eq_ok.mp hjudge
  by_cases hgoal_id : normalized'.goal_id ≠ contract'.goal_id
  · exact .inl (.inl hgoal_id)
  rw [if_neg hgoal_id] at hjudge
  by_cases hscope : expands contract' normalized'.scope_delta = true
  · exact .inl (.inr hscope)
  rw [if_neg hscope] at hjudge
  obtain rfl := pure_eq_ok.mp hjudge
  dsimp only at hevent
  split at hevent
  · rename_i hsame
    exact .inr ⟨verified, goal_state, hverified, hsame.1, hgoal, hsame.2⟩
  · cases hevent

theorem Judged.event (hjudged : Judged engine r contract normalized judgement)
    (h : Astray contract normalized ∨ Repeats engine r normalized) :
    judgement.event_code.isSome = true := by
  by_cases hastray : Astray contract normalized
  · exact hjudged.astray hastray
  · obtain ⟨verified, goal_state, hverified, hsame, hgoal, hsigned⟩ := h.resolve_left hastray
    obtain rfl := Except.ok.inj (hverified.symm.trans hjudged.verified)
    exact hjudged.repeated hastray hsame ⟨goal_state, hgoal, hsigned⟩

theorem Alike.repeats (h : Alike r r') : Repeats engine r' normalized ↔ Repeats engine r normalized := by
  unfold Repeats goal_state_of
  rw [h.policy_state, h.verified_progress]

theorem Alike.driftsFirst (h : Alike r r') : DriftsFirst engine r' o ↔ DriftsFirst engine r o := by
  unfold DriftsFirst
  simp only [h.normalized_checkpoint, h.drift_count_of, h.repeats]

theorem Guarded.of_alike {count : Int} {r'' : RunRecord} (h : Guarded judgement count r r')
    (halike : Alike r' r'') : Guarded judgement count r r'' where
  identity := halike.identity.trans h.identity
  ending := halike.ending.trans h.ending
  policy := halike.policy.trans h.policy
  verified_progress := halike.verified_progress.trans h.verified_progress
  goal_state := by
    obtain ⟨goal_state, hgoal, hparts⟩ := h.goal_state
    refine ⟨goal_state, ?_, hparts⟩
    unfold goal_state_of at hgoal ⊢
    rw [halike.policy_state]
    exact hgoal

end Judging

/-! ## Runs that calls of `wait` leave as they are -/

/-- The run has ended, or its registry cannot be read. -/
def Settled (id : String) (s : Core) : Prop :=
  Broken id s ∨ ∃ status ∈ CoreRunStatus.terminal, status_of id s = some status

section Applied

variable {E : ObserveEnv} {engine : Engine ρ} {id : String} {r : RunRecord} {o : AdapterOutcome}
  {s : Core}

variable (E engine) in
theorem Settled.wait (h : Settled id s) (timeout_seconds : ℚ) (collection : Collection)
    (guarded : Bool) (polls : List Poll) :
    (eval (CoreEngine.wait E engine id timeout_seconds collection guarded polls) s).1 = s := by
  unfold CoreEngine.wait
  cases hrequire : RunRegistry.require s.log id with
  | error e => rw [eval_bind_error (eval_require_error hrequire)]
  | ok r =>
    rw [eval_bind_ok (eval_require hrequire)]
    rcases h with ⟨e, herror⟩ | ⟨status, hterm, hstatus⟩
    · rw [hrequire] at herror
      cases herror
    · have hlast := (RunRegistry.require_ok hrequire)
      rw [status_of, hlast] at hstatus
      obtain rfl := Option.some.inj hstatus
      rw [if_pos hterm]
      rfl

theorem Aborted.ends_terminal {abort : Aborted} (h : abort ≠ .raised) :
    abort.ends ∈ CoreRunStatus.terminal := by
  cases abort with
  | confirmed binding => exact List.mem_of_elem_eq_true rfl
  | failed => decide
  | raised => exact absurd rfl h

/-- An outcome that is no first drift settles the run. -/
theorem Stands.apply_settles (h : Stands id r s) (hrunning : r.status = .RUNNING) (hr : Formed r)
    (hhex : HexDigest engine.H) (hterm : o.status ∈ CoreRunStatus.terminal) (habort : E.abort ≠ .raised)
    (hfirst : ¬ DriftsFirst engine r o) :
    Settled id (eval (apply_adapter_outcome E engine id o) s).1 := by
  have hends := Aborted.ends_terminal habort
  have hstatus : o.status ≠ .RUNNING := by
    intro hstatus
    rw [hstatus] at hterm
    revert hterm
    decide
  by_cases htimeout : o.status = .TIMEOUT
  · have hasked : o.reason = "OPENCLAW_TERMINAL_TIMEOUT" ∨ E.abort.ends ≠ .RUNNING := by
      refine .inr fun hrun => ?_
      rw [hrun] at hends
      revert hends
      decide
    refine .inr ⟨.TIMEOUT, by decide, ?_⟩
    rw [h.apply_timeout hrunning htimeout, if_pos hasked]
  have hfinished : ∀ {t : Core},
      CoreEngine.status_of id t =
        some (if o.status ∈ CoreRunStatus.terminal then o.status else .RUNNING) → Settled id t := by
    intro t ht
    rw [if_pos hterm] at ht
    exact .inr ⟨o.status, hterm, ht⟩
  cases hcheckpoint : progress_checkpoint_of o with
  | none =>
    unfold apply_adapter_outcome
    rw [if_neg hstatus, if_neg htimeout, hcheckpoint]
    exact hfinished (h.finish_outcome hrunning hstatus)
  | some checkpoint =>
    rw [apply_mapped hstatus htimeout hcheckpoint]
    cases hchecked : normalized_checkpoint engine r checkpoint with
    | error message => exact .inr ⟨.BLOCKED, by decide, h.apply_invalid hrunning hchecked o⟩
    | ok parts =>
      obtain ⟨contract, normalized⟩ := parts
      obtain ⟨judgement, hjudge, hjudged⟩ := judge_checked hchecked hr
      obtain ⟨count, hcount, -⟩ := hr.drift_count
      obtain ⟨maximum, hmaximum⟩ := hr.max_context_resets
      have hdrift : int_of (judgement.goal_state.get? "drift_count") = .ok count :=
        hjudged.drift_count.trans hcount
      have hnormalized : judgement.normalized.goal_id = normalized.goal_id :=
        congrArg Checkpoint.goal_id hjudged.normalized_eq
      cases hgoal : safeText normalized.goal_id with
      | false =>
        exact .inl (h.apply_broken hrunning hhex hjudge hdrift (hnormalized ▸ hgoal) o).1
      | true =>
        cases hevent : judgement.event_code with
        | none =>
          exact hfinished (h.apply_step hrunning hhex hjudge hevent (hnormalized ▸ hgoal) hstatus)
        | some e =>
          have hsome : judgement.event_code.isSome = true := by
            rw [hevent]
            rfl
          have hnext : 2 ≤ count + 1 := by
            by_contra hnot
            exact hfirst ⟨htimeout, checkpoint, contract, normalized, count, hcheckpoint, hchecked,
              hgoal, judged_event hchecked hjudge hsome, hcount, not_le.mp hnot⟩
          exact .inr ⟨_, hends, h.apply_next_drift hrunning hhex hjudge hsome hdrift hnext
            (hnormalized ▸ hgoal) hmaximum o⟩

end Applied

/-! ## Calls -/

/-- A call of `wait`, with what it is told. -/
structure WaitCall where
  env : ObserveEnv
  timeout_seconds : ℚ
  collection : Collection
  /-- A cancellation is asked for. -/
  guarded : Bool
  polls : List Poll

namespace WaitCall

def run (engine : Engine ρ) (id : String) (s : Core) (call : WaitCall) : Core :=
  (eval (wait call.env engine id call.timeout_seconds call.collection call.guarded call.polls) s).1

/-- All that the adapter answers to the call is the outcome. -/
structure Replays (o : AdapterOutcome) (call : WaitCall) : Prop where
  collection : call.collection.answer = .outcome o
  polls : ∀ poll ∈ call.polls, poll.answer = .outcome o

/-- The call has time and no cancellation is asked for, and the abort of the worker raises nothing that
the engine does not catch. -/
structure Takes (o : AdapterOutcome) (call : WaitCall) : Prop extends Replays o call where
  busy : ¬ Idle o call.timeout_seconds call.guarded call.polls
  abort : call.env.abort ≠ .raised

/-- A call that is answered at once. -/
def prompt (E : ObserveEnv) (o : AdapterOutcome) : WaitCall :=
  ⟨E, 1, ⟨0, .outcome o, 0⟩, false, [⟨0, .outcome o, 0, false⟩]⟩

theorem prompt_replays (E : ObserveEnv) (o : AdapterOutcome) : Replays o (prompt E o) where
  collection := rfl
  polls := List.forall_mem_singleton.mpr rfl

theorem prompt_takes {E : ObserveEnv} {o : AdapterOutcome} (hwindow : ¬ Window o)
    (habort : E.abort ≠ .raised) : Takes o (prompt E o) where
  toReplays := prompt_replays E o
  busy := by
    rintro (h | h | h | ⟨poll, hpoll, h⟩ | h)
    · exact absurd h (not_le.mpr zero_lt_one)
    · cases h
    · cases h
    · obtain rfl := List.mem_singleton.mp hpoll
      cases h
    · exact hwindow h
  abort := habort

end WaitCall

open WaitCall (Replays Takes prompt)

/-- After the first call that takes the outcome, further calls leave the record of the run as it is. -/
def PollsOnce (engine : Engine ρ) (id : String) (o : AdapterOutcome) (s : Core) : Prop :=
  ∀ call calls, Takes o call → (∀ later ∈ calls, Replays o later) →
    last id ((call :: calls).foldl (WaitCall.run engine id) s).log =
      last id (call.run engine id s).log

section Calls

variable {E : ObserveEnv} {engine : Engine ρ} {id : String} {r : RunRecord} {o : AdapterOutcome}
  {s : Core}

theorem Settled.run (h : Settled id s) (call : WaitCall) : call.run engine id s = s :=
  Settled.wait call.env engine h _ _ _ _

theorem Settled.run_all (h : Settled id s) (calls : List WaitCall) :
    calls.foldl (WaitCall.run engine id) s = s := by
  induction calls with
  | nil => rfl
  | cons call calls ih => rw [List.foldl_cons, h.run, ih]

/-- The first call that takes the outcome. -/
theorem Stands.take_settles (h : Stands id r s) (hrunning : r.status = .RUNNING) (hr : Formed r)
    (hhex : HexDigest engine.H) (hterm : o.status ∈ CoreRunStatus.terminal)
    (hfirst : ¬ DriftsFirst engine r o) {call : WaitCall} (hcall : Takes o call) :
    Settled id (call.run engine id s) := by
  have htold : Told call.env engine id o r (Idle o call.timeout_seconds call.guarded call.polls)
      (eval (wait call.env engine id call.timeout_seconds call.collection call.guarded
        call.polls) s).1 := wait_told h hrunning hr hcall.collection hcall.polls
  unfold WaitCall.run
  generalize (eval (wait call.env engine id call.timeout_seconds call.collection call.guarded
    call.polls) s).1 = t at htold ⊢
  cases htold with
  | applied hstands halike =>
    exact hstands.apply_settles (halike.status.trans hrunning) (hr.of_alike halike) hhex hterm
      hcall.abort (mt halike.driftsFirst.mp hfirst)
  | ended hstatus => exact .inr ⟨_, Aborted.ends_terminal hcall.abort, hstatus⟩
  | left hidle => exact absurd hidle hcall.busy

variable (engine) in
/-- A call that is answered at once applies the outcome. -/
theorem Stands.prompt_applies (h : Stands id r s) (hrunning : r.status = .RUNNING)
    (hwindow : ¬ Window o) (E : ObserveEnv) :
    ∃ r' t, Stands id r' t ∧ Alike r r' ∧
      (prompt E o).run engine id s = (eval (apply_adapter_outcome E engine id o) t).1 := by
  obtain ⟨r', t, hstands, halike, hwait, -⟩ := wait_in_time (E := E) engine h hrunning zero_lt_one
    ⟨0, .outcome o, 0⟩ rfl (inTime_zero r (.outcome o))
  exact ⟨r', t, hstands, halike, hwait hwindow⟩

/-- The first call counts a drift and the second one counts it again. -/
theorem Stands.second_poll_ends (h : Stands id r s) (hrunning : r.status = .RUNNING) (hr : Formed r)
    (hhex : HexDigest engine.H) (hstatus : o.status ≠ .RUNNING) (hfirst : DriftsFirst engine r o)
    (E E' : ObserveEnv) :
    CoreEngine.status_of id ((prompt E o).run engine id s) = some .RUNNING ∧
      CoreEngine.status_of id ([prompt E o, prompt E' o].foldl (WaitCall.run engine id) s) =
        some E'.abort.ends := by
  have hwindow : ¬ Window o := fun hwindow => hfirst.1 hwindow.1
  obtain ⟨r₁, s₁, hstands₁, halike₁, hrun₁⟩ := h.prompt_applies engine hrunning hwindow E
  have hrunning₁ := halike₁.status.trans hrunning
  have hr₁ := hr.of_alike halike₁
  obtain ⟨htimeout, checkpoint, contract, normalized, count, hcheckpoint, hchecked, hgoal, hdrifts,
    hcount, hless⟩ := halike₁.driftsFirst.mpr hfirst
  obtain ⟨judgement, hjudge, hjudged⟩ := judge_checked hchecked hr₁
  have hgoal₁ : safeText judgement.normalized.goal_id = true := by rw [hjudged.normalized_eq]; exact hgoal
  obtain ⟨count', hcount', hnonneg⟩ := hr₁.drift_count
  obtain rfl := Except.ok.inj (hcount.symm.trans hcount')
  obtain ⟨r₂, s₂, heval, hstands₂, hguarded⟩ := hstands₁.apply_first_drift (E := E) hrunning₁ hhex
    hjudge (hjudged.event hdrifts) (hjudged.drift_count.trans hcount) hless hgoal₁ o
  have hrunning₂ : r₂.status = .RUNNING := hguarded.status.trans hrunning₁
  rw [apply_mapped hstatus htimeout hcheckpoint, heval] at hrun₁
  rw [List.foldl_cons, List.foldl_cons, List.foldl_nil, hrun₁]
  refine ⟨hstands₂.status_of.trans (congrArg some hrunning₂), ?_⟩
  -- the second call finds the run guarded, with the same checkpoint to judge
  obtain ⟨r₃, s₃, hstands₃, halike₃, hrun₃⟩ := hstands₂.prompt_applies engine hrunning₂ hwindow E'
  have hguarded₃ := hguarded.of_alike halike₃
  have hrunning₃ := halike₃.status.trans hrunning₂
  have hr₃ : Formed r₃ := hguarded₃.formed hr₁ (by omega) hjudged
  obtain ⟨judgement', hjudge', hjudged', hevent'⟩ := hguarded₃.judge_again hr₃ hchecked hjudged
  obtain ⟨maximum, hmaximum⟩ := hr₃.max_context_resets
  have hdrift' : int_of (judgement'.goal_state.get? "drift_count") = .ok (count + 1) :=
    hjudged'.drift_count.trans hguarded₃.drift_count
  have hgoal₃ : safeText judgement'.normalized.goal_id = true := by rw [hjudged'.normalized_eq]; exact hgoal
  rw [hrun₃, apply_mapped hstatus htimeout hcheckpoint]
  exact hstands₃.apply_next_drift hrunning₃ hhex hjudge' hevent' hdrift' (by omega) hgoal₃ hmaximum o

/-- The number of calls of `wait` does not matter just if the outcome is no first drift. -/
theorem polling_iff (h : Stands id r s) (hrunning : r.status = .RUNNING) (hr : Formed r)
    (hhex : HexDigest engine.H) (hterm : o.status ∈ CoreRunStatus.terminal) :
    PollsOnce engine id o s ↔ ¬ DriftsFirst engine r o := by
  constructor
  · intro honce hfirst
    have hstatus : o.status ≠ .RUNNING := by
      intro hstatus
      rw [hstatus] at hterm
      revert hterm
      decide
    have hwindow : ¬ Window o := fun hwindow => hfirst.1 hwindow.1
    obtain ⟨hrun₁, hrun₂⟩ := h.second_poll_ends hrunning hr hhex hstatus hfirst
      (Sample.observe_env .failed) (Sample.observe_env .failed)
    have hsame := honce (prompt (Sample.observe_env .failed) o)
      [prompt (Sample.observe_env .failed) o] (WaitCall.prompt_takes hwindow fun h => by cases h)
      (List.forall_mem_singleton.mpr (WaitCall.prompt_replays _ o))
    have hstatuses := congrArg (Option.map RunRecord.status) hsame
    have hends : some CoreRunStatus.FAIL = some CoreRunStatus.RUNNING :=
      hrun₂.symm.trans (hstatuses.trans hrun₁)
    cases hends
  · intro hfirst call calls hcall _
    have hsettled := h.take_settles hrunning hr hhex hterm hfirst hcall
    rw [List.foldl_cons, hsettled.run_all]

end Calls

/-! ## A run that is polled twice -/

namespace Sample

/-- The binding of the worker that is asked to stop. -/
def stopped : RunBinding :=
  ⟨"core-1", "run-1", "main", "agent:main:core-1", none, "key-1", .CANCELLED⟩

theorem strayed_first : DriftsFirst hexed running strayed := by
  refine ⟨by decide, Dict.empty.set "goal_id" (.str "other"), RunRegistry.sampleArgs.goal_contract,
    ⟨"other", "UNSPECIFIED", [], [], "NONE", [], [], []⟩, 0, rfl, by decide +kernel,
    by decide +kernel, .inl (.inl ?_), rfl, by decide⟩
  decide +kernel

end Sample

/-- The worker ends with PASS and a checkpoint that names another goal. The first call of `wait` leaves
the run RUNNING, the second one cancels it. -/
theorem polled_twice : Stands "core-1" Sample.running Sample.core ∧ Sample.running.status = .RUNNING ∧
    ¬ PollsOnce Sample.hexed "core-1" Sample.strayed Sample.core ∧
    status_of "core-1" ([prompt (Sample.observe_env (.confirmed Sample.stopped)) Sample.strayed,
        prompt (Sample.observe_env (.confirmed Sample.stopped)) Sample.strayed].foldl
      (WaitCall.run Sample.hexed "core-1") Sample.core) = some .CANCELLED := by
  have hwindow : ¬ Window Sample.strayed := by
    rintro ⟨hstatus, -⟩
    revert hstatus
    decide
  obtain ⟨hfirst, hsecond⟩ := Sample.stands_running.second_poll_ends rfl Sample.running_formed
    Sample.hexed_hex (by decide) Sample.strayed_first
    (Sample.observe_env (.confirmed Sample.stopped)) (Sample.observe_env (.confirmed Sample.stopped))
  refine ⟨Sample.stands_running, rfl, fun honce => ?_, hsecond⟩
  have hsame := honce (prompt (Sample.observe_env (.confirmed Sample.stopped)) Sample.strayed)
    [prompt (Sample.observe_env (.confirmed Sample.stopped)) Sample.strayed]
    (WaitCall.prompt_takes hwindow fun h => by cases h)
    (List.forall_mem_singleton.mpr (WaitCall.prompt_replays _ _))
  have hstatuses := congrArg (Option.map RunRecord.status) hsame
  have hends : some CoreRunStatus.CANCELLED = some CoreRunStatus.RUNNING :=
    hsecond.symm.trans (hstatuses.trans hfirst)
  cases hends

/-- An outcome without a checkpoint. -/
theorem polling_sample :
    PollsOnce Sample.hexed "core-1" (made_up .PASS "OPENCLAW_COMPLETED") Sample.core := by
  refine (polling_iff Sample.stands_running rfl Sample.running_formed Sample.hexed_hex
    (by decide)).mpr ?_
  rintro ⟨-, checkpoint, contract, normalized, count, hcheckpoint, -⟩
  cases hcheckpoint

end CoreEngine

end Plachem
