import PlachemMonitor.Engine.Dispatch

/-!
# Admission control

* `authorize_ok`: an authorization that does not raise has consumed a grant for the scope of the
  run, whatever the authorizer does.
* `admission`: so with `auth_required` a run is submitted only if its dispatch has consumed a grant
  for exactly this submission. What the other dispatches leave behind is `Refused`.
-/

namespace Plachem

namespace CoreEngine

open AuthBroker
open RunRegistry (last)

variable {ρ : Type} {engine : Engine ρ}

/-- The contract that a grant for the submission has. -/
def Submission.task_contract (H : Hashlib) (sub : Submission) : Dict :=
  (execution_auth_scope H sub.agent_id sub.message sub.core_run_id sub.idempotency_key
    sub.goal_contract.as_dict sub.action "" "").task_contract

/-- A scope for the agent, the action and the contract. -/
structure ScopeFor (agent_id action : String) (task_contract : Dict) (scope : AuthScope) : Prop where
  agent_id : scope.agent_id = agent_id
  action : scope.action = action
  task_contract : Dict.Eqv scope.task_contract task_contract

/-- In the world of `w`, perhaps after one more grant has been issued, the broker has accepted a
grant for the agent, the action and the contract. -/
structure Accepted (engine : Engine ρ) (broker : Broker) (env : DispatchEnv) (agent_id action : String)
    (task_contract : Dict) (run_id : String) (w w' : AuthWorld) : Prop where
  intro ::
  accepted : ∃ w₀ token scope c, (w₀ = w ∨ ∃ args,
      w₀ = (AuthCall.issue broker env.issue_env args).run engine.H w) ∧
    (AuthBroker.verify_and_consume engine.H broker env.consume_env w₀.store token scope run_id
      env.consume_now).2 = .ok c ∧
    w' = (AuthCall.verify_and_consume broker env.consume_env token scope run_id
      env.consume_now).run engine.H w₀ ∧
    ScopeFor agent_id action task_contract scope

theorem scopeFor_self (scope : AuthScope) :
    ScopeFor scope.agent_id scope.action scope.task_contract scope := ⟨rfl, rfl, rfl⟩

section Authorize

variable {broker : Broker} {env : DispatchEnv} {args : DispatchArgs} {scope : AuthScope}
  {actual_id : String} {w w' : AuthWorld} {resolver resolver' : ρ}

theorem resolve_ok {authorizer : GrantAuthorizer ρ}
    (h : resolve engine authorizer broker env scope actual_id w resolver =
      ((w', resolver'), .ok ())) :
    Accepted engine broker env scope.agent_id scope.action scope.task_contract actual_id w w' := by
  unfold resolve at h
  split at h
  · cases h
  rename_i admission _
  split at h
  · cases h
  rename_i w₁ grant hissue
  dsimp only at h
  split at h
  · cases h
  rename_i hscope
  push Not at hscope
  split at h
  · cases h
  rename_i w₂ c hconsume
  obtain rfl : w₂ = w' := (Prod.mk.inj (Prod.mk.inj h).1).1
  obtain ⟨hw₁, -⟩ := Prod.mk.inj hissue
  obtain ⟨hw₂, hok⟩ := Prod.mk.inj hconsume
  exact ⟨w₁, _, _, c, .inr ⟨_, hw₁.symm⟩, hok, hw₂.symm, hscope.1, hscope.2.1, hscope.2.2⟩

/-- An authorization that does not raise has consumed a grant for the scope. -/
theorem authorize_ok
    (h : authorize engine broker env args scope actual_id w resolver = ((w', resolver'), .ok ())) :
    Accepted engine broker env scope.agent_id scope.action scope.task_contract actual_id w w' := by
  have direct : ∀ {token : Option String},
      (let out := verify_and_consume engine broker env.consume_env w token scope actual_id
        env.consume_now
       ((out.1, resolver), out.2.map fun _ => ())) = ((w', resolver'), .ok ()) →
      Accepted engine broker env scope.agent_id scope.action scope.task_contract actual_id w w' := by
    intro token h
    obtain ⟨hw, hout⟩ := Prod.mk.inj h
    obtain ⟨c, hok, -⟩ := map_eq_ok.mp hout
    exact ⟨w, token, scope, c, .inl rfl, hok, (Prod.mk.inj hw).1.symm, scopeFor_self scope⟩
  unfold authorize at h
  split at h
  · cases h
  split at h
  · exact resolve_ok h
  · exact direct h

end Authorize

/-! ## What a dispatch leaves -/

section Finish

variable {s s' : EngineState ρ} {out : Except DispatchError RunRecord} {id reason now : String}
  {status : CoreRunStatus} {binding : Option RunBinding}

/-- A last transition raises, finds the status there, or appends the record that it returns. -/
theorem finish_cases (h : finish s id status binding reason now = (s', out)) :
    (s' = s ∧ ∃ e, out = .error (.registry e)) ∨
      (s' = s ∧ ∃ r, out = .ok r ∧ last id s.log = some r ∧ r.status = status) ∨
      ∃ old r, last id s.log = some old ∧ r = old.transitioned status binding none reason now ∧
        s' = { s with log := s.log ++ [r] } ∧ out = .ok r := by
  unfold finish at h
  split at h
  · rename_i r log htrans
    cases h
    obtain ⟨old, hold, htrans⟩ := bind_eq_ok.mp htrans
    have hlast := RunRegistry.require_ok hold
    split at htrans
    · rename_i hstatus
      cases htrans
      exact .inr (.inl ⟨rfl, _, rfl, hlast, hstatus.symm⟩)
    · split at htrans
      · cases htrans
      · cases htrans
        exact .inr (.inr ⟨old, _, hlast, rfl, rfl, rfl⟩)
  · cases h
    exact .inl ⟨rfl, _, rfl⟩

end Finish

/-- The record of a run that was refused. -/
structure Blocked (id : String) (r : RunRecord) : Prop where
  core_run_id : r.core_run_id = id
  status : r.status = .BLOCKED
  reason : ∃ code, r.reason = "AUTH_" ++ code

/-- The record of a run that is new in the log. -/
structure Created (log : Log) (id : String) (r : RunRecord) : Prop where
  core_run_id : r.core_run_id = id
  status : r.status = .QUEUED
  new : ∀ q ∈ log, q.core_run_id ≠ id

/-- The log after a dispatch that sends nothing: untouched, or the run is BLOCKED; or the dispatch
raises another error than an `AuthBrokerError` and leaves the run that it has created. -/
inductive Refused (log : Log) (id : String) (out : Except DispatchError RunRecord) : Log → Prop
  | untouched : Refused log id out log
  | blocked {r : RunRecord} (hr : Blocked id r) (hout : out = .ok r) :
      Refused log id out (log ++ [r])
  | created_blocked {q r : RunRecord} (hq : Created log id q) (hr : Blocked id r)
      (hout : out = .ok r) : Refused log id out (log ++ [q] ++ [r])
  | raised {q : RunRecord} {e : DispatchError} (hq : Created log id q) (hout : out = .error e)
      (hne : ∀ code, e ≠ .auth (.broker code)) : Refused log id out (log ++ [q])

theorem blocked_transitioned {log : Log} {id : String} {old : RunRecord} (code now : String)
    (h : last id log = some old) :
    Blocked id (old.transitioned .BLOCKED none none ("AUTH_" ++ code) now) where
  core_run_id := by
    have hident := old.transitioned_identity .BLOCKED none none ("AUTH_" ++ code) now
    rw [← (RunRegistry.last_some h).2]
    exact congrArg RunRecord.Identity.core_run_id hident
  status := RunRecord.transitioned_status ..
  reason := by
    refine ⟨code, ?_⟩
    have hne : "AUTH_" ++ code ≠ "" := by simp
    simp [RunRecord.transitioned, CoreRunStatus.terminal, hne]

section Gate

variable {s s' : EngineState ρ} {out : Except DispatchError RunRecord} {env : DispatchEnv}
  {args : DispatchArgs} {contract : GoalContract} {record : RunRecord}

/-- What `adapter.submit` is called with. -/
def submission (env : DispatchEnv) (args : DispatchArgs) (contract : GoalContract)
    (record : RunRecord) : Submission :=
  ⟨args.actual_id env.uuid, args.agent_id, args.message, args.key env.uuid, args.session_key,
    record.approved_paths, args.action, contract⟩

theorem submit_sent {sub : Submission} (h : submit env args sub s = (s', out)) :
    s'.sent = s.sent ++ [sub] ∧ s'.auth = s.auth := by
  have finished : ∀ {status : CoreRunStatus} {binding : Option RunBinding} {reason now : String},
      finish { s with sent := s.sent ++ [sub] } sub.core_run_id status binding reason now =
        (s', out) → s'.sent = s.sent ++ [sub] ∧ s'.auth = s.auth := by
    intro status binding reason now h
    rcases finish_cases h with ⟨rfl, -⟩ | ⟨rfl, -⟩ | ⟨old, r, -, -, rfl, -⟩ <;> exact ⟨rfl, rfl⟩
  unfold submit at h
  dsimp only at h
  split at h
  · cases h
    exact ⟨rfl, rfl⟩
  · exact finished h
  · split at h <;> exact finished h

/-- The gate: it submits after the broker has accepted a grant, or ends the run, or raises. -/
theorem gate_cases (hauth : engine.auth_required = true)
    (h : gate engine env args contract record s = (s', out)) :
    (s'.sent = s.sent ∧ ∃ s₁ : EngineState ρ, s₁.log = s.log ∧ s₁.sent = s.sent ∧
      ((s' = s₁ ∧ ∃ e, out = .error e ∧ ∀ code, e ≠ .auth (.broker code)) ∨
        ∃ code, finish s₁ (args.actual_id env.uuid) .BLOCKED none ("AUTH_" ++ code)
          env.decided_now = (s', out))) ∨
      s'.sent = s.sent ++ [submission env args contract record] ∧
        ∃ broker ∈ engine.auth_broker, Accepted engine broker env args.agent_id args.action
          ((submission env args contract record).task_contract engine.H)
          (args.actual_id env.uuid) s.auth s'.auth := by
  have blocked : ∀ {t : EngineState ρ} {code : String}, t.log = s.log → t.sent = s.sent →
      finish t (args.actual_id env.uuid) .BLOCKED none ("AUTH_" ++ code) env.decided_now =
        (s', out) → s'.sent = s.sent ∧ ∃ s₁ : EngineState ρ, s₁.log = s.log ∧ s₁.sent = s.sent ∧
      ((s' = s₁ ∧ ∃ e, out = .error e ∧ ∀ code, e ≠ .auth (.broker code)) ∨
        ∃ code, finish s₁ (args.actual_id env.uuid) .BLOCKED none ("AUTH_" ++ code)
          env.decided_now = (s', out)) := by
    intro t code hlog hsent h
    refine ⟨?_, t, hlog, hsent, .inr ⟨code, h⟩⟩
    rcases finish_cases h with ⟨rfl, -⟩ | ⟨rfl, -⟩ | ⟨old, r, -, -, rfl, -⟩ <;> exact hsent
  unfold gate at h
  dsimp only at h
  split at h
  · rw [if_pos hauth] at h
    exact .inl (blocked (t := s) rfl rfl (show finish s _ _ _ ("AUTH_" ++ "BROKER_UNAVAILABLE") _ = _ from h))
  rename_i broker hbroker
  split at h
  · rename_i w resolver hok
    obtain ⟨hsent, hworld⟩ := submit_sent h
    refine .inr ⟨hsent, broker, hbroker, ?_⟩
    rw [hworld]
    exact authorize_ok hok
  · rename_i w resolver code _
    exact .inl (blocked (t := { s with auth := w, resolver := resolver }) rfl rfl h)
  · rename_i w resolver e hne _
    cases h
    refine .inl ⟨rfl, { s with auth := w, resolver := resolver }, rfl, rfl, .inl ⟨rfl, _, rfl, ?_⟩⟩
    rintro code heq
    cases heq
    exact hne code rfl

end Gate

/-! ## Admission -/

/-- In the dispatch the broker has accepted a grant with the agent, the action and the contract of
the submission, and this grant was issued for them. -/
structure Admitted (engine : Engine ρ) (env : DispatchEnv) (sub : Submission) (w w' : AuthWorld) :
    Prop where
  intro ::
  admitted : ∃ broker ∈ engine.auth_broker, ∃ w₀ token scope c,
    (w₀ = w ∨ ∃ args, w₀ = (AuthCall.issue broker env.issue_env args).run engine.H w) ∧
    (AuthBroker.verify_and_consume engine.H broker env.consume_env w₀.store token scope
      sub.core_run_id env.consume_now).2 = .ok c ∧
    w' = (AuthCall.verify_and_consume broker env.consume_env token scope sub.core_run_id
      env.consume_now).run engine.H w₀ ∧
    (∃ g ∈ w₀.store.grants, g.grant_id = c.grant_id ∧ g.agent_id = sub.agent_id ∧
      g.action = sub.action) ∧
    ScopeFor sub.agent_id sub.action (sub.task_contract engine.H) scope ∧
    ∃ i ∈ w₀.issued, i.1.grant_id = c.grant_id ∧ token = some i.1.token ∧
      bound i.2.agent_id = .ok sub.agent_id ∧ bound i.2.action = .ok sub.action ∧
      Dict.Eqv i.2.task_contract (sub.task_contract engine.H)

/-- The grant that was accepted was issued for the submission. -/
theorem Accepted.admitted (hsha : Function.Injective engine.H.sha256) {broker : Broker}
    (hbroker : broker ∈ engine.auth_broker) {env : DispatchEnv} {sub : Submission} {w w' : AuthWorld}
    (hI : AuthInv engine.H w) (h : Accepted engine broker env sub.agent_id sub.action
      (sub.task_contract engine.H) sub.core_run_id w w') : Admitted engine env sub w w' := by
  obtain ⟨w₀, token, scope, c, hw₀, hok, hw', hscope⟩ := h
  have hI₀ : AuthInv engine.H w₀ := by
    rcases hw₀ with rfl | ⟨args, rfl⟩
    · exact hI
    · exact authInv_run hI _
  cases hcall : AuthBroker.verify_and_consume engine.H broker env.consume_env w₀.store token scope
      sub.core_run_id env.consume_now with
  | mk db' out =>
    rw [hcall] at hok
    obtain rfl : out = .ok c := hok
    rcases consume_cases hcall with ⟨-, e, he⟩ | ⟨g, c', hok, hc⟩
    · cases he
    cases hok
    obtain ⟨i, hi, g', hg', hid, hgid, htoken, -, -, -, hagent, haction, -, -, hdigest⟩ :=
      authorized_of_consumption hsha hI₀ hc
    have hcid : c.grant_id = g.grant_id := by rw [hc.result]
    -- one digest, so one contract
    have hcontract : Dict.Eqv i.2.task_contract scope.task_contract := by
      have hd := hc.task_digest
      exact (digest_inj hsha (hdigest ▸ hd) hd).2.2.2.2
    exact ⟨broker, hbroker, w₀, token, scope, c, hw₀, by rw [hcall], hw',
      ⟨g, hc.mem, hcid.symm, hc.agent_id.trans hscope.agent_id, hc.action.trans hscope.action⟩,
      hscope, i, hi, hid, htoken, hscope.agent_id ▸ hagent, hscope.action ▸ haction,
      hcontract.trans hscope.task_contract⟩

/-! ## Every reachable state -/

/-- Worlds that differ by calls of the brokers. -/
def AuthSteps (H : Hashlib) (w w' : AuthWorld) : Prop :=
  ∃ calls, (authStore H).Steps (fun _ _ => True) w calls w'

theorem AuthSteps.refl (H : Hashlib) (w : AuthWorld) : AuthSteps H w w := ⟨[], .refl w⟩

theorem AuthSteps.call {H : Hashlib} {w w₁ w' : AuthWorld} {c : AuthCall}
    (hcall : c.run H w = w₁) (h : AuthSteps H w₁ w') : AuthSteps H w w' := by
  obtain ⟨calls, hsteps⟩ := h
  exact ⟨c :: calls, .cons trivial (congrArg some hcall) hsteps⟩

theorem AuthSteps.inv {H : Hashlib} {w w' : AuthWorld} (h : AuthSteps H w w') (hI : AuthInv H w) :
    AuthInv H w' := by
  obtain ⟨calls, hsteps⟩ := h
  exact hsteps.inv (authInv H).step hI

section Steps

variable {broker : Broker} {env : DispatchEnv} {args : DispatchArgs} {scope : AuthScope}
  {actual_id : String} {w : AuthWorld} {resolver : ρ}

theorem resolve_steps (authorizer : GrantAuthorizer ρ) :
    AuthSteps engine.H w
      (resolve engine authorizer broker env scope actual_id w resolver).1.1 := by
  unfold resolve
  split
  · exact .refl _ _
  split
  · rename_i h
    exact .call (Prod.mk.inj h).1 (.refl _ _)
  rename_i w₁ grant hissue
  refine .call (Prod.mk.inj hissue).1 ?_
  dsimp only
  split
  · exact .refl _ _
  split
  · rename_i h
    exact .call (Prod.mk.inj h).1 (.refl _ _)
  · rename_i h
    exact .call (Prod.mk.inj h).1 (.refl _ _)

theorem authorize_steps :
    AuthSteps engine.H w (authorize engine broker env args scope actual_id w resolver).1.1 := by
  unfold authorize
  split
  · exact .refl _ _
  split
  · exact resolve_steps _
  · exact AuthSteps.call (c := .verify_and_consume broker env.consume_env _ scope actual_id
      env.consume_now) rfl (.refl _ _)

end Steps

theorem finish_auth {s : EngineState ρ} {id reason now : String} {status : CoreRunStatus}
    {binding : Option RunBinding} : (finish s id status binding reason now).1.auth = s.auth := by
  unfold finish
  split <;> rfl

theorem dispatch_steps (env : DispatchEnv) (args : DispatchArgs) (s : EngineState ρ) :
    AuthSteps engine.H s.auth (dispatch engine env args s).1.auth := by
  have submitted : ∀ (sub : Submission) (t : EngineState ρ),
      (submit env args sub t).1.auth = t.auth := fun sub t => (submit_sent rfl).2
  unfold dispatch
  split
  · exact .refl _ _
  split
  · exact .refl _ _
  split
  · exact .refl _ _
  unfold gate
  dsimp only
  split
  · split
    · rw [finish_auth]
      exact .refl _ _
    · rw [submitted]
      exact .refl _ _
  rename_i broker _
  have hsteps : ∀ {scope : AuthScope} {id : String} {w : AuthWorld} {r : ρ}
      {out : Except AuthError Unit},
      authorize engine broker env args scope id s.auth s.resolver = ((w, r), out) →
        AuthSteps engine.H s.auth w := by
    intro scope id w r out h
    have hauth : AuthSteps engine.H s.auth
        (authorize engine broker env args scope id s.auth s.resolver).1.1 := authorize_steps
    rwa [h] at hauth
  split
  · rename_i h
    rw [submitted]
    exact hsteps h
  · rename_i h
    rw [finish_auth]
    exact hsteps h
  · rename_i h
    exact hsteps h

theorem authInv_reachable {s : EngineState ρ} (h : (system engine).Reachable s) :
    AuthInv engine.H s.auth := by
  have hinv : (system engine).InductiveIf (fun _ _ => True) fun s => AuthInv engine.H s.auth := by
    refine ⟨?_, ?_⟩
    · rintro s ⟨-, hauth, -⟩
      rw [hauth]
      exact (authInv engine.H).init _ rfl
    · rintro s label s' hI - hstep
      cases hstep
      cases label with
      | dispatch env args => exact (dispatch_steps env args s).inv hI
      | auth call => exact authInv_run hI call
      | registry | resolver => exact hI
  exact hinv.reachable h

/-! ## Admission control -/

/-- What a run of the gate leaves, for the run that was created or found. -/
theorem refused_of_gate {s t s' : EngineState ρ} {id : String} {env : DispatchEnv}
    {out : Except DispatchError RunRecord} {record : RunRecord}
    (hlog : t.log = s.log ∨ t.log = s.log ++ [record] ∧ Created s.log id record)
    (h : (s' = t ∧ ∃ e, out = .error e ∧ ∀ code, e ≠ .auth (.broker code)) ∨
      ∃ code, finish t id .BLOCKED none ("AUTH_" ++ code) env.decided_now = (s', out)) :
    Refused s.log id out s'.log := by
  -- the run is as it was found, or as it was created
  have raised : ∀ {e : DispatchError}, out = .error e → (∀ code, e ≠ .auth (.broker code)) →
      Refused s.log id out t.log := by
    intro e hout hne
    rcases hlog with hlog | ⟨hlog, hcreated⟩
    · rw [hlog]
      exact .untouched
    · rw [hlog]
      exact .raised hcreated hout hne
  rcases h with ⟨rfl, e, hout, hne⟩ | ⟨code, h⟩
  · exact raised hout hne
  rcases finish_cases h with ⟨rfl, e, hout⟩ | ⟨rfl, r, hout, hlast, hstatus⟩ |
    ⟨old, r, hlast, rfl, rfl, hout⟩
  · exact raised hout fun code => by simp
  · -- a run that was just created is not BLOCKED
    rcases hlog with hlog | ⟨hlog, hcreated⟩
    · rw [hlog]
      exact .untouched
    · rw [hlog, ← hcreated.core_run_id, RunRegistry.last_append_self] at hlast
      obtain rfl := Option.some.inj hlast
      rw [hcreated.status] at hstatus
      cases hstatus
  · have hblocked := blocked_transitioned code env.decided_now hlast
    rcases hlog with hlog | ⟨hlog, hcreated⟩
    · rw [hlog]
      exact .blocked hblocked hout
    · rw [hlog]
      exact .created_blocked hcreated hblocked hout

theorem checked_contract {env : DispatchEnv} {args : DispatchArgs} {approved : List String}
    {contract : GoalContract} {policy : Dict}
    (h : checked engine env args = .ok (approved, contract, policy)) :
    engine.normalize_goal_contract args.goal_contract = .ok contract := by
  obtain ⟨_, -, h⟩ := bind_eq_ok.mp h
  obtain ⟨_, -, h⟩ := bind_eq_ok.mp h
  split at h
  · cases h
  split at h
  · cases h
  obtain ⟨contract', hcontract, h⟩ := bind_eq_ok.mp h
  obtain ⟨policy', -, h⟩ := bind_eq_ok.mp h
  cases h
  exact hcontract

theorem actual_id_ne_empty (args : DispatchArgs) (uuid : String) : args.actual_id uuid ≠ "" := by
  unfold DispatchArgs.actual_id
  split
  · rename_i id hid
    simpa using (Option.filter_eq_some_iff.mp hid).2
  · simp

theorem actual_id_createArgs (args : DispatchArgs) (uuid : String) (approved : List String)
    (contract : GoalContract) (policy : Dict) :
    (createArgs engine args uuid approved contract policy).actual_id "" = args.actual_id uuid :=
  if_neg (actual_id_ne_empty args uuid)

/-- With `auth_required`, a dispatch sends nothing and leaves what `Refused` says, or it submits
the run, for which it has consumed a grant. -/
theorem admission (engine : Engine ρ) (hauth : engine.auth_required = true)
    (hsha : Function.Injective engine.H.sha256) {s : EngineState ρ}
    (hs : (system engine).Reachable s) (env : DispatchEnv) (args : DispatchArgs)
    {s' : EngineState ρ} {out : Except DispatchError RunRecord}
    (h : dispatch engine env args s = (s', out)) :
    s'.sent = s.sent ∧ Refused s.log (args.actual_id env.uuid) out s'.log ∨
      ∃ contract record, s'.sent = s.sent ++ [submission env args contract record] ∧
        engine.normalize_goal_contract args.goal_contract = .ok contract ∧
        Admitted engine env (submission env args contract record) s.auth s'.auth := by
  unfold dispatch at h
  split at h
  · cases h
    exact .inl ⟨rfl, .untouched⟩
  rename_i approved contract policy hchecked
  have hcontract := checked_contract hchecked
  split at h
  · cases h
    exact .inl ⟨rfl, .untouched⟩
  rename_i record created log hcreate
  split at h
  · cases h
    exact .inl ⟨rfl, .untouched⟩
  have hlog : log = s.log ∨ log = s.log ++ [record] ∧
      Created s.log (args.actual_id env.uuid) record := by
    rcases RunRegistry.create_ok hcreate with ⟨-, hlog, -⟩ | ⟨-, hlog, rfl, hnew, -⟩
    · exact .inl hlog
    · rw [actual_id_createArgs] at hlog hnew ⊢
      exact .inr ⟨hlog, rfl, rfl, hnew⟩
  rcases gate_cases hauth h with ⟨hsent, t, htlog, htsent, hout⟩ | ⟨hsent, broker, hbroker, hacc⟩
  · refine .inl ⟨hsent, refused_of_gate (t := t) (by rw [htlog]; exact hlog) hout⟩
  · refine .inr ⟨contract, record, hsent, hcontract, ?_⟩
    exact Accepted.admitted hsha hbroker (authInv_reachable hs) hacc

/-! ## A dispatch that is refused -/

namespace Sample

def contract : GoalContract := ⟨"goal", "", [], [], "", []⟩

def args : DispatchArgs where
  agent_id := "hermes"
  message := "go"
  timeout_positive := true
  core_run_id := some "run-1"
  idempotency_key := some "key-1"
  goal_contract := none
  session_key := none
  parent_core_run_id := none
  context_reset_count := 0
  watchdog_managed := false
  auth_token := some "t"
  action := "execute"
  workspace_id := ""
  project_id := "p"
  task_runtime_class := ""
  approved_paths := none

def env : DispatchEnv where
  uuid := "u"
  now_ms := 1
  issue_env := ⟨"e1", 1, false⟩
  issue_now := 1
  token := "t1"
  grant_id := "g1"
  consume_env := ⟨"e2", 1, false⟩
  consume_now := 1
  created_now := "now"
  decided_now := "now"
  submitted := .raised

def hash : Hashlib where
  sha256 := tableHash [(String.ofList ((Dict.ofList [("agent_id", .str "hermes"),
    ("message", .str "go"), ("goal_id", .str "goal"), ("action", .str "execute"),
    ("workspace_id", .str ""), ("project_id", .str "p")] (by simp)).dumps false),
    "27e93b25f23888cab4e988acf816d95bf36746a6f679bd5cf13d14589ef21c8c")]
  hmac _ _ := []

def gated (auth_broker : Option Broker) : Engine Unit where
  H := hash
  require _ := .ok ()
  normalize_goal_contract _ := .ok contract
  task_runtime_policy _ := .ok Dict.empty
  auth_broker := auth_broker
  auth_required := true
  grant_authorizer := none

def init : EngineState Unit := ⟨[], ⟨AuthStore.empty, [], []⟩, (), []⟩

end Sample

/-- The binding `""` is no text that a scope can have: the broker raises `ValueError`, and the run
that was just created stays QUEUED. -/
theorem not_blocked_or_untouched :
    let engine := Sample.gated (some AuthBroker.Sample.broker)
    let s' := (dispatch engine Sample.env Sample.args Sample.init).1
    (system engine).init Sample.init ∧ engine.auth_required = true ∧
      s'.sent = Sample.init.sent ∧ s'.log ≠ Sample.init.log ∧
      ¬ ∃ r, last "run-1" s'.log = some r ∧ Blocked "run-1" r := by
  intro engine s'
  have hqueued : (last "run-1" s'.log).map RunRecord.status = some .QUEUED := by decide +kernel
  have hsent : s'.sent = Sample.init.sent := by decide +kernel
  refine ⟨⟨rfl, rfl, rfl⟩, rfl, hsent, ?_, ?_⟩
  · intro hlog
    rw [hlog] at hqueued
    cases hqueued
  · rintro ⟨r, hr, hblocked⟩
    rw [hr, Option.map_some, hblocked.status] at hqueued
    cases hqueued

/-- Without a broker the run ends BLOCKED. -/
theorem admission_sample :
    let engine := Sample.gated none
    let r := dispatch engine Sample.env Sample.args Sample.init
    r.1.sent = [] ∧ Refused [] "run-1" r.2 r.1.log := by
  intro engine r
  have hinj : Function.Injective engine.H.sha256 :=
    tableHash_injective (by decide +kernel) (by decide +kernel)
  have hsent : r.1.sent = [] := by decide +kernel
  rcases admission engine rfl hinj (Machine.reachable_init ⟨rfl, rfl, rfl⟩) Sample.env Sample.args
    (show dispatch engine Sample.env Sample.args Sample.init = (r.1, r.2) from rfl) with h | ⟨contract, record, h, -⟩
  · exact h
  · rw [hsent] at h
    cases h

end CoreEngine

end Plachem
