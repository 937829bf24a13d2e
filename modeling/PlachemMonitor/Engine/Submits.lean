import PlachemMonitor.Engine.Admission
import PlachemMonitor.Registry.Identity
import PlachemMonitor.Registry.Lifecycle

/-!
# One submission for each run

`RunRegistry.create` gives an id back only to the request that it was created for, which it knows by
its hash, and a run that is QUEUED goes to the gate again. So what keeps a second submission out is
that none leaves its run QUEUED.

* `Submitted.Answers`: `adapter.submit` returns a binding, or raises `AdapterError` or `TimeoutError`.
* `Past`: a run that was submitted is past QUEUED, or the registry can be read no more.
* `at_most_once`: one submission for each run; and a dispatch under an id or a key that was taken up
  for another request raises.
-/

namespace Plachem

namespace RunRegistry

/-- `create` returns the last record of the run, in a registry that can be read. -/
theorem create_last {log log' : Log} {args : CreateArgs} {fresh now : String} {r : RunRecord}
    {created : Bool} (h : create log args fresh now = .ok ((r, created), log')) :
    (∀ q ∈ log, readable q = true) ∧ last (args.actual_id fresh) log' = some r := by
  have h₀ := h
  obtain ⟨o, ho, h⟩ := bind_eq_ok.mp h
  refine ⟨get_readable ho, ?_⟩
  have hlast := get_ok ho
  cases o with
  | some existing =>
    dsimp only at h
    split at h
    · cases h
    · cases h
      exact hlast.symm
  | none =>
    rcases create_ok h₀ with ⟨-, -, hmem, hid, -⟩ | ⟨-, rfl, rfl, -⟩
    · exact absurd hid (last_eq_none.mp hlast.symm r hmem)
    · exact last_append_self log (args.record (args.actual_id fresh) now)

end RunRegistry

namespace CoreEngine

open AuthBroker (tableHash_injective)
open RunRegistry (last readable)

/-! ## Runs that are past QUEUED -/

/-- No dispatch finds the run QUEUED. -/
def Past (id : String) (log : Log) : Prop :=
  (∃ r ∈ log, readable r = false) ∨ ∃ r, last id log = some r ∧ r.status ≠ .QUEUED

section Past

variable {log : Log} {id : String} {r : RunRecord}

theorem mem_run (m : Mutation) (h : r ∈ log) : r ∈ m.run log := by
  rcases m.run_cases log with hrun | ⟨q, hrun, -⟩
  · rwa [hrun]
  · rw [hrun]
    exact List.mem_append_left _ h

theorem queued_notMem_transitions (status : CoreRunStatus) : .QUEUED ∉ status.transitions := by
  cases status <;> decide

/-- No mutation makes a run QUEUED again, or the registry readable. -/
theorem past_run (m : Mutation) (h : Past id log) : Past id (m.run log) := by
  rcases h with ⟨q, hq, hunsafe⟩ | ⟨q, hlast, hstatus⟩
  · exact .inl ⟨q, mem_run m hq, hunsafe⟩
  · obtain ⟨q', hlast', hcases⟩ := RunRegistry.last_run m hlast
    refine .inr ⟨q', hlast', ?_⟩
    rcases hcases with ⟨hsame, -⟩ | hnext | ⟨-, hcancelled⟩
    · rwa [hsame]
    · intro hqueued
      rw [hqueued] at hnext
      exact queued_notMem_transitions _ hnext
    · rw [hcancelled]
      decide

/-- A run that is QUEUED is not past it. -/
theorem not_past (hsafe : ∀ q ∈ log, readable q = true) (hlast : last id log = some r)
    (hqueued : r.status = .QUEUED) : ¬ Past id log := by
  rintro (⟨q, hq, hunsafe⟩ | ⟨q, hlast', hstatus⟩)
  · rw [hsafe q hq] at hunsafe
    cases hunsafe
  · rw [hlast, Option.some.injEq] at hlast'
    rw [← hlast'] at hstatus
    exact hstatus hqueued

/-- The transition of a run that is QUEUED takes it past that. -/
theorem past_transition (hlast : last id log = some r) (hqueued : r.status = .QUEUED)
    {status : CoreRunStatus} (hstatus : status ∈ CoreRunStatus.QUEUED.transitions)
    (binding : Option RunBinding) (reason now : String) :
    Past id ((Mutation.transition id status binding none reason now).run log) := by
  by_cases hsafe : ∀ q ∈ log, readable q = true
  · have hne : status ≠ .QUEUED := by
      rintro rfl
      exact queued_notMem_transitions _ hstatus
    have happly := RunRegistry.transition_of_last hsafe hlast (hqueued ▸ hstatus) (hqueued ▸ hne)
      binding none reason now
    rw [Mutation.run_of_apply (m := .transition id status binding none reason now) happly]
    refine .inr ⟨r.transitioned status binding none reason now, ?_, ?_⟩
    · exact RunRegistry.last_append_identity hlast (RunRecord.transitioned_identity ..)
    · rwa [RunRecord.transitioned_status]
  · push Not at hsafe
    obtain ⟨q, hq, hunsafe⟩ := hsafe
    exact .inl ⟨q, mem_run _ hq, by simpa using hunsafe⟩

end Past

/-! ## What a dispatch does -/

/-- The submission ends as those of the transports do: with a binding, or with one of the errors
that a dispatch catches. -/
def Submitted.Answers : Submitted → Prop
  | .accepted _ => True
  | .rejected _ => True
  | .raised => False

variable {ρ : Type} {engine : Engine ρ}

section Dispatch

variable {s s' : EngineState ρ} {env : DispatchEnv} {args : DispatchArgs}
  {out : Except DispatchError RunRecord} {contract : GoalContract} {record : RunRecord}

theorem finish_log (s : EngineState ρ) (id : String) (status : CoreRunStatus)
    (binding : Option RunBinding) (reason now : String) :
    (finish s id status binding reason now).1.log =
      (Mutation.transition id status binding none reason now).run s.log := by
  cases h : RunRegistry.transition s.log id status binding none reason now with
  | ok p =>
    obtain ⟨r, log'⟩ := p
    rw [Mutation.run_of_apply (m := .transition id status binding none reason now) h]
    simp only [finish, h]
  | error e => simp only [finish, Mutation.run, Mutation.apply, h]

theorem finish_sent (s : EngineState ρ) (id : String) (status : CoreRunStatus)
    (binding : Option RunBinding) (reason now : String) :
    (finish s id status binding reason now).1.sent = s.sent := by
  unfold finish
  split <;> rfl

/-- After an answer the run is RUNNING or has failed. -/
theorem submit_ends {sub : Submission} (hanswer : env.submitted.Answers)
    (h : submit env args sub s = (s', out)) : s'.sent = s.sent ++ [sub] ∧
      ∃ status ∈ CoreRunStatus.QUEUED.transitions, ∃ binding reason,
        s'.log = (Mutation.transition sub.core_run_id status binding none reason
          env.decided_now).run s.log := by
  have finished : ∀ {status : CoreRunStatus} {binding : Option RunBinding} {reason : String},
      status ∈ CoreRunStatus.QUEUED.transitions →
      finish { s with sent := s.sent ++ [sub] } sub.core_run_id status binding reason
        env.decided_now = (s', out) → s'.sent = s.sent ++ [sub] ∧
      ∃ status ∈ CoreRunStatus.QUEUED.transitions, ∃ binding reason,
        s'.log = (Mutation.transition sub.core_run_id status binding none reason
          env.decided_now).run s.log := by
    intro status binding reason hstatus h
    have hsent := finish_sent { s with sent := s.sent ++ [sub] } sub.core_run_id status binding
      reason env.decided_now
    have hlog := finish_log { s with sent := s.sent ++ [sub] } sub.core_run_id status binding
      reason env.decided_now
    rw [h] at hsent hlog
    exact ⟨hsent, status, hstatus, binding, reason, hlog⟩
  unfold submit at h
  dsimp only at h
  split at h
  · rename_i hraised
    rw [hraised] at hanswer
    exact hanswer.elim
  · exact finished (by decide) h
  · split at h
    · exact finished (by decide) h
    · exact finished (by decide) h

/-- The gate ends the run, or lets it stand, or submits it. -/
theorem gate_ends (hanswer : env.submitted.Answers)
    (h : gate engine env args contract record s = (s', out)) :
    (s'.sent = s.sent ∧ (s'.log = s.log ∨ ∃ reason, s'.log = (Mutation.transition
        (args.actual_id env.uuid) .BLOCKED none none reason env.decided_now).run s.log)) ∨
      s'.sent = s.sent ++ [submission env args contract record] ∧
        ∃ status ∈ CoreRunStatus.QUEUED.transitions, ∃ binding reason,
          s'.log = (Mutation.transition (args.actual_id env.uuid) status binding none reason
            env.decided_now).run s.log := by
  have blocked : ∀ {t : EngineState ρ} {reason : String}, t.log = s.log → t.sent = s.sent →
      finish t (args.actual_id env.uuid) .BLOCKED none reason env.decided_now = (s', out) →
      s'.sent = s.sent ∧ (s'.log = s.log ∨ ∃ reason, s'.log = (Mutation.transition
        (args.actual_id env.uuid) .BLOCKED none none reason env.decided_now).run s.log) := by
    intro t reason htlog htsent h
    have hsent := finish_sent t (args.actual_id env.uuid) .BLOCKED none reason env.decided_now
    have hlog := finish_log t (args.actual_id env.uuid) .BLOCKED none reason env.decided_now
    rw [h] at hsent hlog
    exact ⟨hsent.trans htsent, .inr ⟨reason, by rw [hlog, htlog]⟩⟩
  unfold gate at h
  dsimp only at h
  split at h
  · split at h
    · exact .inl (blocked rfl rfl h)
    · exact .inr (submit_ends hanswer h)
  split at h
  · rename_i w resolver _
    exact .inr (submit_ends (s := { s with auth := w, resolver := resolver }) hanswer h)
  · rename_i w resolver code _
    exact .inl (blocked (t := { s with auth := w, resolver := resolver }) rfl rfl h)
  · cases h
    exact .inl ⟨rfl, .inl rfl⟩

/-- A dispatch raises before it takes the run up; or the run is there and past QUEUED; or it goes to
the gate. -/
theorem dispatch_cases (h : dispatch engine env args s = (s', out)) :
    (s' = s ∧ ∃ e, out = .error e) ∨
      ∃ approved contract policy record created log,
        checked engine env args = .ok (approved, contract, policy) ∧
        RunRegistry.create s.log (createArgs engine args env.uuid approved contract policy) ""
          env.created_now = .ok ((record, created), log) ∧
        (s' = s ∧ log = s.log ∨ record.status = .QUEUED ∧
          gate engine env args contract record { s with log := log } = (s', out)) := by
  unfold dispatch at h
  split at h
  · cases h
    exact .inl ⟨rfl, _, rfl⟩
  rename_i approved contract policy hchecked
  split at h
  · cases h
    exact .inl ⟨rfl, _, rfl⟩
  rename_i record created log hcreate
  refine .inr ⟨approved, contract, policy, record, created, log, hchecked, hcreate, ?_⟩
  rcases RunRegistry.create_ok hcreate with ⟨rfl, hlog, -⟩ | ⟨rfl, -, hrecord, -⟩
  · split at h
    · cases h
      exact .inl ⟨rfl, hlog⟩
    · rename_i hqueued
      exact .inr ⟨by simpa using hqueued, h⟩
  · rw [if_neg (by simp)] at h
    refine .inr ⟨?_, h⟩
    rw [hrecord]
    rfl

theorem create_run {log log' : Log} {args : CreateArgs} {fresh now : String}
    {out : RunRecord × Bool} (h : RunRegistry.create log args fresh now = .ok (out, log')) :
    (Mutation.create args fresh now).run log = log' := by
  rw [Mutation.run, Mutation.apply, h]
  rfl

/-- The registry is only changed by its mutators. -/
theorem dispatch_log {P : Log → Prop} (hrun : ∀ (log : Log) (m : Mutation), P log → P (m.run log))
    (hanswer : env.submitted.Answers) (h : dispatch engine env args s = (s', out))
    (hP : P s.log) : P s'.log := by
  rcases dispatch_cases h with ⟨rfl, -⟩ |
    ⟨approved, contract, policy, record, created, log, -, hcreate, hgate⟩
  · exact hP
  rcases hgate with ⟨rfl, -⟩ | ⟨-, hgate⟩
  · exact hP
  have hcreated : P log := by
    rw [← create_run hcreate]
    exact hrun _ _ hP
  rcases gate_ends hanswer hgate with ⟨-, hlog | ⟨reason, hlog⟩⟩ |
    ⟨-, status, -, binding, reason, hlog⟩
  · rwa [hlog]
  · rw [hlog]
    exact hrun _ _ hcreated
  · rw [hlog]
    exact hrun _ _ hcreated

/-- A submission is of a run that was QUEUED, and takes it past that. -/
theorem dispatch_sent (hanswer : env.submitted.Answers)
    (h : dispatch engine env args s = (s', out)) : s'.sent = s.sent ∨
      ∃ sub, s'.sent = s.sent ++ [sub] ∧ ¬ Past sub.core_run_id s.log ∧
        Past sub.core_run_id s'.log := by
  rcases dispatch_cases h with ⟨rfl, -⟩ |
    ⟨approved, contract, policy, record, created, log, -, hcreate, hgate⟩
  · exact .inl rfl
  rcases hgate with ⟨rfl, -⟩ | ⟨hqueued, hgate⟩
  · exact .inl rfl
  obtain ⟨hsafe, hlast⟩ := RunRegistry.create_last hcreate
  rw [actual_id_createArgs] at hlast
  rcases gate_ends hanswer hgate with ⟨hsent, -⟩ | ⟨hsent, status, hstatus, binding, reason, hlog⟩
  · exact .inl hsent
  refine .inr ⟨submission env args contract record, hsent, ?_, ?_⟩
  · -- the run was QUEUED before, or was not there
    rcases RunRegistry.create_ok hcreate with ⟨-, hsame, -⟩ | ⟨-, -, -, hnew, -⟩
    · rw [hsame] at hlast
      exact not_past hsafe hlast hqueued
    · rintro (⟨q, hq, hunsafe⟩ | ⟨q, hold, -⟩)
      · rw [hsafe q hq] at hunsafe
        cases hunsafe
      · rw [actual_id_createArgs] at hnew
        obtain ⟨hmem, hid⟩ := RunRegistry.last_some hold
        exact hnew q hmem hid
  · rw [hlog]
    exact past_transition hlast hqueued hstatus binding reason _

end Dispatch

/-! ## Requests -/

/-- The dispatches are for the same work: the same agent, message, goal, action, workspace and
project. -/
structure SameRequest (engine : Engine ρ) (args args' : DispatchArgs) : Prop where
  agent_id : args'.agent_id = args.agent_id
  message : args'.message = args.message
  goal : (engine.normalize_goal_contract args'.goal_contract).map GoalContract.goal_id =
    (engine.normalize_goal_contract args.goal_contract).map GoalContract.goal_id
  action : args'.action = args.action
  workspace_id : args'.workspace_id = args.workspace_id
  project_id : args'.project_id = args.project_id

/-- Requests with one hash are for the same work. -/
theorem request_hash_inj {H : Hashlib} (hsha : Function.Injective H.sha256) {args args' : DispatchArgs}
    {goal_id goal_id' : String} (h : request_hash H args' goal_id' = request_hash H args goal_id) :
    args'.agent_id = args.agent_id ∧ args'.message = args.message ∧ goal_id' = goal_id ∧
      args'.action = args.action ∧ args'.workspace_id = args.workspace_id ∧
      args'.project_id = args.project_id := by
  have heqv := Json.dumps_inj (Dict.wf _) (Dict.wf _) (String.ofList_injective (hsha h))
  have part := fun k => Json.getMember_of_eqv (Dict.wf _) (Dict.wf _) heqv k
  refine ⟨?_, ?_, ?_, ?_, ?_, ?_⟩
  · simpa [Dict.ofList, Json.getMember, Json.sortKeys, Value.str] using part "agent_id"
  · simpa [Dict.ofList, Json.getMember, Json.sortKeys, Value.str] using part "message"
  · simpa [Dict.ofList, Json.getMember, Json.sortKeys, Value.str] using part "goal_id"
  · simpa [Dict.ofList, Json.getMember, Json.sortKeys, Value.str] using part "action"
  · simpa [Dict.ofList, Json.getMember, Json.sortKeys, Value.str] using part "workspace_id"
  · simpa [Dict.ofList, Json.getMember, Json.sortKeys, Value.str] using part "project_id"

/-- The dispatch is the one that the registry creates the run for. -/
def TakesUp (engine : Engine ρ) (env : DispatchEnv) (args : DispatchArgs) (s : EngineState ρ) : Prop :=
  ∃ approved contract policy record log, checked engine env args = .ok (approved, contract, policy) ∧
    RunRegistry.create s.log (createArgs engine args env.uuid approved contract policy) ""
      env.created_now = .ok ((record, true), log)

/-- The registry has a record of the run that the dispatch asks for. -/
def Known (engine : Engine ρ) (env : DispatchEnv) (args : DispatchArgs) (log : Log) : Prop :=
  ∃ approved contract policy, checked engine env args = .ok (approved, contract, policy) ∧
    ∃ q ∈ log, RunRegistry.Requested (createArgs engine args env.uuid approved contract policy) "" q

section Requests

variable {s s' : EngineState ρ} {env env' : DispatchEnv} {args args' : DispatchArgs}
  {out : Except DispatchError RunRecord}

theorem known_run (log : Log) (m : Mutation) (h : Known engine env args log) :
    Known engine env args (m.run log) := by
  obtain ⟨approved, contract, policy, hchecked, q, hq, hrequested⟩ := h
  exact ⟨approved, contract, policy, hchecked, q, mem_run m hq, hrequested⟩

/-- A run that was taken up is in the registry. -/
theorem known_of_takesUp (hanswer : env.submitted.Answers) (htakes : TakesUp engine env args s)
    (h : dispatch engine env args s = (s', out)) : Known engine env args s'.log := by
  obtain ⟨approved, contract, policy, record, log, hchecked, hcreate⟩ := htakes
  have hcreated : Known engine env args log := by
    rcases RunRegistry.create_ok hcreate with ⟨hfalse, -⟩ | ⟨-, rfl, rfl, -⟩
    · cases hfalse
    · exact ⟨approved, contract, policy, hchecked, _, List.mem_append_right _ (List.mem_singleton_self _),
        rfl, rfl, rfl⟩
  have hqueued : record.status = .QUEUED := by
    rcases RunRegistry.create_ok hcreate with ⟨hfalse, -⟩ | ⟨-, -, rfl, -⟩
    · cases hfalse
    · rfl
  have hgate : gate engine env args contract record { s with log := log } = (s', out) := by
    rw [← h, dispatch, hchecked]
    simp only [hcreate]
    rw [if_neg (by simp)]
  rcases gate_ends hanswer hgate with ⟨-, hlog | ⟨reason, hlog⟩⟩ |
    ⟨-, status, -, binding, reason, hlog⟩
  · rwa [hlog]
  · rw [hlog]
    exact known_run _ _ hcreated
  · rw [hlog]
    exact known_run _ _ hcreated

/-- A dispatch for other work, under an id or a key that is taken, raises and changes nothing. -/
theorem dispatch_conflict (hsha : Function.Injective engine.H.sha256)
    (hnamed : RunRegistry.WellNamed s.log) (hknown : Known engine env args s.log)
    (htaken : args'.actual_id env'.uuid = args.actual_id env.uuid ∨
      args'.key env'.uuid = args.key env.uuid)
    (hother : ¬ SameRequest engine args args') :
    ∃ e, dispatch engine env' args' s = (s, .error e) := by
  obtain ⟨approved, contract, policy, hchecked, q, hq, hid, hkey, hhash⟩ := hknown
  rw [actual_id_createArgs] at hid
  cases hcall : dispatch engine env' args' s with
  | mk s' out =>
  rcases dispatch_cases hcall with ⟨rfl, e, rfl⟩ |
    ⟨approved', contract', policy', record, created, log, hchecked', hcreate, -⟩
  · exact ⟨e, rfl⟩
  · have htaken' : q.core_run_id =
          (createArgs engine args' env'.uuid approved' contract' policy').actual_id "" ∨
        q.idempotency_key =
          (createArgs engine args' env'.uuid approved' contract' policy').idempotency_key := by
      rw [actual_id_createArgs, hid, hkey]
      exact htaken.imp Eq.symm Eq.symm
    by_cases hrequested : RunRegistry.Requested
      (createArgs engine args' env'.uuid approved' contract' policy') "" q
    · -- one hash, so the same work
      obtain ⟨hagent, hmessage, hgoal, haction, hworkspace, hproject⟩ :=
        request_hash_inj hsha (hrequested.2.2.symm.trans hhash)
      refine absurd ⟨hagent, hmessage, ?_, haction, hworkspace, hproject⟩ hother
      rw [checked_contract hchecked, checked_contract hchecked']
      exact congrArg Except.ok hgoal
    · obtain ⟨⟨e, herror⟩, -⟩ :=
        RunRegistry.create_of_taken env'.created_now hnamed hq htaken' hrequested
      rw [herror] at hcreate
      cases hcreate

end Requests

/-! ## Every run -/

/-- Each submission of the step is answered. -/
def Answered (_ : EngineState ρ) (label : Label ρ) : Prop :=
  ∀ env args, label = .dispatch env args → env.submitted.Answers

/-- What every step keeps of the registry. -/
theorem log_step {P : Log → Prop} (hrun : ∀ (log : Log) (m : Mutation), P log → P (m.run log))
    {s s' : EngineState ρ} {label : Label ρ} (hanswer : Answered s label)
    (hstep : (system engine).step s label = some s') (hP : P s.log) : P s'.log := by
  cases hstep
  cases label with
  | dispatch env args => exact dispatch_log hrun (hanswer env args rfl) rfl hP
  | auth call => exact hP
  | registry m => exact hrun _ _ hP
  | resolver state => exact hP

/-- Of every run there is at most one submission, and none of a run that may still be dispatched. -/
structure Once (s : EngineState ρ) : Prop where
  named : RunRegistry.WellNamed s.log
  past : ∀ sub ∈ s.sent, Past sub.core_run_id s.log
  nodup : (s.sent.map Submission.core_run_id).Nodup

theorem once : (system engine).InductiveIf Answered Once where
  init := by
    rintro s ⟨hlog, -, hsent⟩
    refine ⟨?_, ?_, ?_⟩
    · rw [hlog]
      exact .nil
    · rw [hsent]
      exact fun sub hsub => absurd hsub List.not_mem_nil
    · rw [hsent]
      exact List.nodup_nil
  step := by
    rintro s label s' ⟨hnamed, hpast, hnodup⟩ hanswer hstep
    have hnamed' := log_step (P := RunRegistry.WellNamed) (fun _ m h => RunRegistry.wellNamed_run h m)
      hanswer hstep hnamed
    have hpast' : ∀ sub ∈ s.sent, Past sub.core_run_id s'.log :=
      fun sub hsub => log_step (fun _ m h => past_run m h) hanswer hstep (hpast sub hsub)
    have kept : s'.sent = s.sent → Once s' := by
      intro hsent
      refine ⟨hnamed', ?_, ?_⟩ <;> rw [hsent]
      · exact hpast'
      · exact hnodup
    cases label with
    | auth | registry | resolver =>
      cases hstep
      exact kept rfl
    | dispatch env args =>
      have hcall : dispatch engine env args s = (s', (dispatch engine env args s).2) :=
        Prod.ext (Option.some.inj hstep) rfl
      rcases dispatch_sent (hanswer env args rfl) hcall with hsent | ⟨sub, hsent, hnot, hnew⟩
      · exact kept hsent
      · refine ⟨hnamed', ?_, ?_⟩
        · rw [hsent]
          intro other hother
          rcases List.mem_append.mp hother with hother | hother
          · exact hpast' other hother
          · rw [List.mem_singleton.mp hother]
            exact hnew
        · rw [hsent, List.map_append, List.nodup_append]
          refine ⟨hnodup, List.nodup_singleton _, ?_⟩
          intro id hid id' hid' heq
          obtain ⟨other, hother, rfl⟩ := List.mem_map.mp hid
          rw [List.map_singleton, List.mem_singleton] at hid'
          rw [hid'] at heq
          exact hnot (heq ▸ hpast other hother)

/-- In every run there is at most one submission for each run id. And after a dispatch that a run was
created for, a dispatch under its id or its key that is for another agent, message, goal, action,
workspace or project raises and changes nothing. -/
theorem at_most_once (hsha : Function.Injective engine.H.sha256) {s : EngineState ρ}
    (hs : (system engine).ReachableIf Answered s) :
    (s.sent.map Submission.core_run_id).Nodup ∧
      ∀ env args, env.submitted.Answers → TakesUp engine env args s →
        ∀ labels s', (system engine).Steps Answered (dispatch engine env args s).1 labels s' →
          ∀ env' args', args'.actual_id env'.uuid = args.actual_id env.uuid ∨
              args'.key env'.uuid = args.key env.uuid →
            ¬ SameRequest engine args args' →
            ∃ e, dispatch engine env' args' s' = (s', .error e) := by
  refine ⟨(once.reachable hs).nodup, ?_⟩
  intro env args hanswer htakes labels s' hsteps env' args' htaken hother
  have hreach : (system engine).ReachableIf Answered (dispatch engine env args s).1 := by
    refine hs.next (a := .dispatch env args) ?_ rfl
    rintro env₁ args₁ heq
    cases heq
    exact hanswer
  have hnamed : RunRegistry.WellNamed s'.log :=
    hsteps.inv (fun _ _ _ hP hG hstep =>
      log_step (P := RunRegistry.WellNamed) (fun _ m h => RunRegistry.wellNamed_run h m) hG hstep hP)
      (once.reachable hreach).named
  have hknown : Known engine env args s'.log :=
    hsteps.inv (fun _ _ _ hP hG hstep => log_step known_run hG hstep hP)
      (known_of_takesUp hanswer htakes rfl)
  exact dispatch_conflict hsha hnamed hknown htaken hother

/-! ## A run that is dispatched again -/

namespace Sample

/-- An engine that asks for no grants. -/
def open_engine : Engine Unit := { gated none with auth_required := false }

def binding : RunBinding := ⟨"run-1", "oc-1", "hermes", "agent:hermes", none, "key-1", .RUNNING⟩

def accepting : DispatchEnv := { env with submitted := .accepted binding }

/-- The state after a dispatch of the run. -/
def submitted : EngineState Unit := (dispatch open_engine accepting args init).1

end Sample

/-- A dispatch of the run with another message raises. -/
theorem at_most_once_sample :
    (Sample.submitted.sent.map Submission.core_run_id).Nodup ∧ Sample.submitted.sent ≠ [] ∧
      ∃ e, dispatch Sample.open_engine Sample.accepting { Sample.args with message := "stop" }
        Sample.submitted = (Sample.submitted, .error e) := by
  have hinj : Function.Injective Sample.open_engine.H.sha256 :=
    tableHash_injective (by decide +kernel) (by decide +kernel)
  have hinit : (system Sample.open_engine).ReachableIf Answered Sample.init :=
    ⟨Sample.init, [], ⟨rfl, rfl, rfl⟩, .refl _⟩
  have hanswer : Sample.accepting.submitted.Answers := trivial
  have hreach : (system Sample.open_engine).ReachableIf Answered Sample.submitted := by
    refine hinit.next (a := .dispatch Sample.accepting Sample.args) ?_ rfl
    rintro env args heq
    cases heq
    exact hanswer
  have htakes : TakesUp Sample.open_engine Sample.accepting Sample.args Sample.init :=
    ⟨[], Sample.contract, Dict.empty, _, _, rfl, rfl⟩
  refine ⟨(at_most_once hinj hreach).1, by decide +kernel, ?_⟩
  refine (at_most_once hinj hinit).2 Sample.accepting Sample.args hanswer htakes [] Sample.submitted
    (.refl _) Sample.accepting { Sample.args with message := "stop" } (.inl rfl) ?_
  intro hsame
  exact absurd hsame.message (by decide)

end CoreEngine

end Plachem
