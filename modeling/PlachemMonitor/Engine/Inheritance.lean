import PlachemMonitor.Engine.FreshContext
import PlachemMonitor.Recovery.Calls

/-!
# Inherited goal contracts

A child of a run is dispatched with the goal contract on the record of the run, without the id of its
goal, and the dispatch normalizes it again. That gives the contract itself: the records of the child, its
submission and the scope that is authorized for it all have the contract of the run
(`contract_inherited`).
-/

namespace Plachem

namespace RecoveryLayer

open AuthBroker
open CoreEngine (DispatchArgs contract_fields normalize_goal_contract goal_input)

/-- The fields of the contract that are there, in the order of the loop. -/
def projected (contract : Dict) : Dict :=
  contract_fields.foldl (fun projected key =>
    match contract.value? key with
    | some value => projected.set key value
    | none => projected) Dict.empty

/-- `recovery_goal_contract` -/
def recovery_goal_contract (source : RunRecord) : Option Dict :=
  let contract := source.goal_contract.as_dict
  if contract = Dict.empty then none
  else if projected contract = Dict.empty then none
  else some (projected contract)

/-- The arguments of the dispatch of a child, with its message. -/
def recovery_args (kind : Kind) (source : RunRecord) (message uuid key_uuid : String) :
    DispatchArgs where
  agent_id := source.agent_id
  message := message
  timeout_positive := true
  core_run_id := some (kind.child_id source uuid)
  idempotency_key := some (kind.idempotency_key source key_uuid)
  goal_contract := recovery_goal_contract source
  session_key := none
  parent_core_run_id := none
  context_reset_count := 0
  watchdog_managed := decide (kind = .watchdog)
  auth_token := none
  action := "dispatch"
  workspace_id := "command-center"
  project_id := "fast-gateway"
  task_runtime_class := "STANDARD"
  approved_paths :=
    match kind with
    | .recovery _ => none
    | .watchdog => some source.approved_paths

/-- The scope that a grant is registered for, before the child is dispatched. -/
def registered_scope (secret_text : List Char → Bool) (H : Hashlib) (kind : Kind) (source : RunRecord)
    (message uuid key_uuid : String) : Except String AuthScope := do
  let normalized ← normalize_goal_contract secret_text H (recovery_goal_contract source)
  pure (execution_auth_scope H source.agent_id message (kind.child_id source uuid)
    (kind.idempotency_key source key_uuid) normalized.as_dict "dispatch" "command-center"
    "fast-gateway")

/-- The projection leaves out the id of the goal, and nothing else. -/
theorem recovery_goal_contract_eq (source : RunRecord) :
    recovery_goal_contract source = some (goal_input source.goal_contract) := by
  have hproj : projected source.goal_contract.as_dict = goal_input source.goal_contract := rfl
  have hcontract : source.goal_contract.as_dict ≠ Dict.empty := fun h => by
    have := congrArg (fun d : Dict => d.members.length) h
    simp [GoalContract.as_dict, Dict.ofList, Dict.empty] at this
  have hinput : goal_input source.goal_contract ≠ Dict.empty := fun h => by
    have := congrArg (fun d : Dict => d.members.length) h
    simp [goal_input, Dict.ofList, Dict.empty] at this
  unfold recovery_goal_contract
  dsimp only
  rw [if_neg hcontract, hproj, if_neg hinput]

end RecoveryLayer

namespace CoreEngine

open AuthBroker
open RunRegistry (last)
open RecoveryLayer (Kind recovery_goal_contract recovery_goal_contract_eq recovery_args
  registered_scope)

variable {ρ : Type} {engine : Engine ρ} {env : DispatchEnv} {args : DispatchArgs} {c : GoalContract}

/-- The scope that a dispatch with the contract is authorized for. -/
def dispatch_scope (H : Hashlib) (env : DispatchEnv) (args : DispatchArgs) (c : GoalContract) :
    AuthScope :=
  execution_auth_scope H args.agent_id args.message (args.actual_id env.uuid) (args.key env.uuid)
    c.as_dict args.action args.workspace_id args.project_id

/-- The records have the contract, or are of runs that were in the registry before. -/
def Filed (c : GoalContract) (before log : Log) : Prop :=
  ∀ r ∈ log, r.goal_contract = c ∨ ∃ q ∈ before, q.core_run_id = r.core_run_id

/-- A dispatch carries the contract: in the records of the run that it creates, in what it submits, and
in the scope that it has consumed a grant for. -/
structure Carries (engine : Engine ρ) (env : DispatchEnv) (args : DispatchArgs) (c : GoalContract)
    (s s' : EngineState ρ) : Prop where
  records : Filed c s.log s'.log
  sent : s'.sent = s.sent ∨ ∃ sub, s'.sent = s.sent ++ [sub] ∧ sub.goal_contract = c
  authorized : engine.auth_required = true → s'.sent ≠ s.sent →
    ∃ broker ∈ engine.auth_broker, Accepted engine broker env args.agent_id args.action
      (dispatch_scope engine.H env args c).task_contract (args.actual_id env.uuid) s.auth s'.auth

theorem filed_self (c : GoalContract) (log : Log) : Filed c log log :=
  fun r hr => .inr ⟨r, hr, rfl⟩

section Steps

variable {before : Log} {s s' : EngineState ρ} {out : Except DispatchError RunRecord}

/-- A last transition gives the run a record with the contract that it has. -/
theorem filed_finish {id reason now : String} {status : CoreRunStatus} {binding : Option RunBinding}
    (h : finish s id status binding reason now = (s', out)) (hfiled : Filed c before s.log) :
    Filed c before s'.log := by
  rcases finish_cases h with ⟨rfl, -⟩ | ⟨rfl, -⟩ | ⟨old, r, hlast, rfl, rfl, -⟩
  · exact hfiled
  · exact hfiled
  · intro r hr
    rcases List.mem_append.mp hr with hr | hr
    · exact hfiled r hr
    · obtain rfl := List.mem_singleton.mp hr
      have hident := old.transitioned_identity status binding none reason now
      rw [same_contract hident, show RunRecord.core_run_id _ = old.core_run_id from
        congrArg RunRecord.Identity.core_run_id hident]
      exact hfiled old (RunRegistry.last_some hlast).1

theorem filed_submit {sub : Submission} (h : submit env args sub s = (s', out))
    (hfiled : Filed c before s.log) : Filed c before s'.log := by
  unfold submit at h
  dsimp only at h
  split at h
  · cases h
    exact hfiled
  · exact filed_finish h hfiled
  · split at h
    · exact filed_finish h hfiled
    · exact filed_finish h hfiled

/-- The gate submits with the contract, or does not submit. -/
theorem gate_files {record : RunRecord} (h : gate engine env args c record s = (s', out))
    (hfiled : Filed c before s.log) : Filed c before s'.log ∧
      (s'.sent = s.sent ∨ s'.sent = s.sent ++ [submission env args c record]) := by
  have hfinished : ∀ {t : EngineState ρ} {id reason now : String}, t.log = s.log → t.sent = s.sent →
      finish t id .BLOCKED none reason now = (s', out) → Filed c before s'.log ∧
      (s'.sent = s.sent ∨ s'.sent = s.sent ++ [submission env args c record]) := by
    intro t id reason now hlog hsent h
    have hsent' := finish_sent t id .BLOCKED none reason now
    rw [h] at hsent'
    exact ⟨filed_finish h (hlog ▸ hfiled), .inl (hsent'.trans hsent)⟩
  unfold gate at h
  dsimp only at h
  split at h
  · split at h
    · exact hfinished rfl rfl h
    · exact ⟨filed_submit h hfiled, .inr (submit_sent h).1⟩
  split at h
  · rename_i w resolver _
    exact ⟨filed_submit h hfiled, .inr (submit_sent h).1⟩
  · rename_i w resolver code _
    exact hfinished (t := { s with auth := w, resolver := resolver }) rfl rfl h
  · cases h
    exact ⟨hfiled, .inl rfl⟩

end Steps

/-- A dispatch carries the contract that its argument is normalized to. -/
theorem dispatch_carries (hcontract : engine.normalize_goal_contract args.goal_contract = .ok c)
    (s : EngineState ρ) : Carries engine env args c s (dispatch engine env args s).1 := by
  cases h : dispatch engine env args s with
  | mk s' out =>
    have hsame : Carries engine env args c s s :=
      ⟨filed_self c s.log, .inl rfl, fun _ hsent => absurd rfl hsent⟩
    rcases dispatch_cases h with ⟨rfl, -⟩ |
      ⟨approved, contract, policy, record, created, log, hchecked, hcreate, hgate⟩
    · exact hsame
    rcases hgate with ⟨rfl, -⟩ | ⟨-, hgate⟩
    · exact hsame
    obtain rfl := Except.ok.inj ((checked_contract hchecked).symm.trans hcontract)
    have hfiled : Filed contract s.log log := by
      rcases RunRegistry.create_ok hcreate with ⟨-, rfl, -⟩ | ⟨-, rfl, rfl, -⟩
      · exact filed_self contract s.log
      · intro r hr
        rcases List.mem_append.mp hr with hr | hr
        · exact filed_self contract s.log r hr
        · obtain rfl := List.mem_singleton.mp hr
          exact .inl rfl
    obtain ⟨hfiled', hsent⟩ := gate_files hgate hfiled
    refine ⟨hfiled', hsent.imp_right fun h => ⟨_, h, rfl⟩, fun hauth hne => ?_⟩
    rcases gate_cases hauth hgate with ⟨hsame, -⟩ | ⟨-, broker, hbroker, haccepted⟩
    · exact absurd hsame hne
    · exact ⟨broker, hbroker, haccepted⟩

/-- The arguments of a dispatch are for a child of the run, by the recovery layer or in a fresh
context. -/
inductive ChildOf (engine : Engine ρ) (source : RunRecord) : DispatchArgs → Prop
  | recovery (kind : Kind) (message uuid key_uuid : String) :
      ChildOf engine source (recovery_args kind source message uuid key_uuid)
  | fresh_context (env : ContextEnv) (id : String) (completed : List String)
      (timeout_positive : Bool) :
      ChildOf engine source (child_args env id source completed timeout_positive)

theorem ChildOf.goal_contract {source : RunRecord} (h : ChildOf engine source args) :
    args.goal_contract = some (goal_input source.goal_contract) := by
  cases h with
  | recovery => exact recovery_goal_contract_eq source
  | fresh_context => rfl

theorem actual_id_recovery (kind : Kind) (source : RunRecord) (message uuid key_uuid fresh : String) :
    (recovery_args kind source message uuid key_uuid).actual_id fresh = kind.child_id source uuid := by
  have hne : kind.child_id source uuid ≠ "" := by
    cases kind <;> simp [Kind.child_id]
  unfold DispatchArgs.actual_id recovery_args
  dsimp only
  rw [filter_nonempty hne]

theorem key_recovery (kind : Kind) (source : RunRecord) (message uuid key_uuid fresh : String) :
    (recovery_args kind source message uuid key_uuid).key fresh =
      kind.idempotency_key source key_uuid := by
  have hne : kind.idempotency_key source key_uuid ≠ "" := by
    cases kind <;> simp [Kind.idempotency_key, RecoveryLayer.recovery_key]
  unfold DispatchArgs.key recovery_args
  dsimp only
  rw [filter_nonempty hne]

/-- Normalized, the projection of a normalized contract is the contract itself; so the children of a run
carry the contract of the run, and the recovery layer registers a grant for the scope that the dispatch
authorizes. -/
theorem contract_inherited {secret_text : List Char → Bool} {value : Option Dict}
    (hengine : engine.normalize_goal_contract = normalize_goal_contract secret_text engine.H)
    (h : normalize_goal_contract secret_text engine.H value = .ok c) :
    normalize_goal_contract secret_text engine.H (some (goal_input c)) = .ok c ∧
    ∀ source : RunRecord, source.goal_contract = c →
      recovery_goal_contract source = some (goal_input c) ∧
      (∀ kind message uuid key_uuid env,
        registered_scope secret_text engine.H kind source message uuid key_uuid =
          .ok (dispatch_scope engine.H env (recovery_args kind source message uuid key_uuid) c)) ∧
      ∀ args, ChildOf engine source args → ∀ env (s : EngineState ρ),
        Carries engine env args c s (dispatch engine env args s).1 := by
  have hagain := normalized_again h
  refine ⟨hagain, ?_⟩
  rintro source rfl
  have hproj := recovery_goal_contract_eq source
  refine ⟨hproj, ?_, ?_⟩
  · intro kind message uuid key_uuid env
    unfold registered_scope
    rw [hproj]
    have hid := actual_id_recovery kind source message uuid key_uuid env.uuid
    have hkey := key_recovery kind source message uuid key_uuid env.uuid
    refine (bind_of_ok hagain).trans ?_
    unfold dispatch_scope
    rw [hid, hkey]
    rfl
  · intro args hchild env s
    refine dispatch_carries ?_ s
    rw [hchild.goal_contract, hengine]
    exact hagain

/-- A run with a normalized contract, and its child by the recovery layer. -/
theorem contract_inherited_sample :
    normalize_goal_contract (fun _ => false) Sample.digest (some (goal_input Sample.filed)) =
        .ok Sample.filed ∧
      recovery_goal_contract Sample.queued = some (goal_input Sample.filed) ∧
      ∀ env s, Carries Sample.contracted env
        (recovery_args (.recovery 0) Sample.queued "go on" "1" "2") Sample.filed s
        (dispatch Sample.contracted env
          (recovery_args (.recovery 0) Sample.queued "go on" "1" "2") s).1 := by
  have hnormalized : normalize_goal_contract (fun _ => false) Sample.contracted.H
      (some (goal_input RunRegistry.sampleArgs.goal_contract)) = .ok Sample.filed :=
    Sample.contract_normalized
  obtain ⟨hagain, hchildren⟩ := contract_inherited rfl hnormalized
  obtain ⟨hproj, -, hcarries⟩ := hchildren Sample.queued rfl
  exact ⟨hagain, hproj, hcarries _ (.recovery ..)⟩

end CoreEngine

end Plachem
