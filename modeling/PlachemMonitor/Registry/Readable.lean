import PlachemMonitor.Registry.Mutation

/-!
# Line-safe writes

A registry stays readable as long as no text that is written to it has a line break in the sense
of `str.splitlines` (`readable_of_safe_run`).
-/

namespace Plachem

namespace RunRegistry

open RegistryFile (safeText)

/-- Every text in the value is line safe, keys included. -/
def SafeValue (v : Value) : Prop := v.json.allStrings safeText = true

def SafeDict (d : Dict) : Prop := SafeValue (.ofDict d)

instance (v : Value) : Decidable (SafeValue v) := inferInstanceAs (Decidable (_ = _))

instance (d : Dict) : Decidable (SafeDict d) := inferInstanceAs (Decidable (_ = _))

@[simp] theorem safe_null : SafeValue .null := rfl

@[simp] theorem safe_bool (b : Bool) : SafeValue (.bool b) := rfl

@[simp] theorem safe_int (n : Int) : SafeValue (.int n) := rfl

@[simp] theorem safe_float (t : FloatText) : SafeValue (.float t) := rfl

@[simp] theorem safe_str (s : String) : SafeValue (.str s) ↔ safeText s = true := Iff.rfl

@[simp] theorem safe_ofDict (d : Dict) : SafeValue (.ofDict d) ↔ SafeDict d := Iff.rfl

@[simp] theorem safe_ofOption {α : Type} (f : α → Value) (o : Option α) :
    SafeValue (.ofOption f o) ↔ ∀ x ∈ o, SafeValue (f x) := by
  cases o <;> simp [Value.ofOption]

@[simp] theorem safe_strs (ss : List String) :
    SafeValue (.strs ss) ↔ ∀ s ∈ ss, safeText s = true := by
  simp [SafeValue, Value.strs, Json.allStrings, Json.allStringsElems_iff]

@[simp] theorem safe_list (vs : List Value) : SafeValue (.list vs) ↔ ∀ v ∈ vs, SafeValue v := by
  simp [SafeValue, Value.list, Json.allStrings, Json.allStringsElems_iff]

theorem safeDict_ofList {ms : List (String × Value)} (h : (ms.map Prod.fst).Nodup) :
    SafeDict (Dict.ofList ms h) ↔ ∀ m ∈ ms, safeText m.1 = true ∧ SafeValue m.2 :=
  RegistryFile.lineSafe_ofList h

theorem safeDict_set {d : Dict} {key : String} {v : Value} (hd : SafeDict d)
    (hkey : safeText key = true) (hv : SafeValue v) : SafeDict (d.set key v) := by
  have hmembers : ∀ m ∈ d.members, safeText m.1 = true ∧ Json.allStrings safeText m.2 = true :=
    Json.allStringsMembers_iff.mp hd
  refine Json.allStringsMembers_iff.mpr fun m hm => ?_
  rcases Json.mem_setMember hm with rfl | hm
  · exact ⟨hkey, hv⟩
  · exact hmembers m hm

def SafePolicy (p : RunPolicy) : Prop :=
  ∀ v ∈ [p.runtime_class, p.task_class, p.model_profile, p.policy_profile, p.max_runtime,
    p.execution_budget, p.finalization_recovery_budget, p.max_retries, p.max_tool_calls,
    p.context_policy, p.fallback_policy, p.max_context_resets], SafeValue v

/-- Every text in the record is line safe. -/
structure SafeRecord (r : RunRecord) : Prop where
  core_run_id : safeText r.core_run_id = true
  agent_id : safeText r.agent_id = true
  idempotency_key : safeText r.idempotency_key = true
  request_hash : safeText r.request_hash = true
  created_at : safeText r.created_at = true
  updated_at : safeText r.updated_at = true
  started_at : ∀ t ∈ r.started_at, safeText t = true
  completed_at : ∀ t ∈ r.completed_at, safeText t = true
  reason : safeText r.reason = true
  result : ∀ d ∈ r.result, SafeDict d
  raw_response : ∀ t ∈ r.raw_response, safeText t = true
  rejected_result : ∀ d ∈ r.rejected_result, SafeDict d
  format_error : safeText r.format_error = true
  format_recovery_rejection : safeText r.format_recovery_rejection = true
  openclaw_binding : ∀ b ∈ r.openclaw_binding, SafeDict b.toDict
  policy : SafePolicy r.policy
  tool_call_metric : safeText r.tool_call_metric = true
  policy_status : safeText r.policy_status = true
  policy_events : ∀ e ∈ r.policy_events, SafeDict e.toDict
  cancel_reason : safeText r.cancel_reason = true
  policy_state : SafeDict r.policy_state
  goal_contract : SafeDict r.goal_contract.as_dict
  goal_status : safeText r.goal_status = true
  progress_checkpoint : ∀ d ∈ r.progress_checkpoint, SafeDict d
  verified_progress : SafeDict r.verified_progress
  parent_core_run_id : ∀ t ∈ r.parent_core_run_id, safeText t = true
  approved_paths : ∀ t ∈ r.approved_paths, safeText t = true
  escalation_reason : safeText r.escalation_reason = true
  escalation_package : ∀ d ∈ r.escalation_package, SafeDict d

theorem safeText_status (s : CoreRunStatus) : safeText s.value = true := by
  cases s <;> decide +kernel

theorem readable_of_safe {r : RunRecord} (h : SafeRecord r) : readable r = true := by
  refine (readable_iff r).mpr ?_
  show ∀ m ∈ r.items, SafeValue m.2
  have hp := h.policy
  simp only [SafePolicy, List.forall_mem_cons] at hp
  simp only [RunRecord.items, List.forall_mem_cons, List.not_mem_nil, false_imp_iff, implies_true,
    safe_str, safe_ofOption, safe_ofDict, safe_int, safe_float, safe_bool, safe_list, safe_strs,
    List.forall_mem_map, safeText_status, hp, and_true, true_and, h.core_run_id,
    h.agent_id, h.idempotency_key, h.request_hash, h.created_at, h.updated_at, h.reason,
    h.format_error, h.format_recovery_rejection, h.tool_call_metric, h.policy_status,
    h.cancel_reason, h.policy_state, h.goal_contract, h.goal_status, h.verified_progress,
    h.escalation_reason]
  exact ⟨h.started_at, h.completed_at, h.result, h.raw_response, h.rejected_result,
    h.openclaw_binding, h.policy_events, h.progress_checkpoint, h.parent_core_run_id,
    h.approved_paths, h.escalation_package⟩

/-- A record that can be read is line safe. -/
theorem safe_of_readable {r : RunRecord} (h : readable r = true) : SafeRecord r := by
  have hitems : ∀ m ∈ r.items, SafeValue m.2 := (readable_iff r).mp h
  simp only [RunRecord.items, List.forall_mem_cons, List.not_mem_nil, false_imp_iff, implies_true,
    safe_str, safe_ofOption, safe_ofDict, safe_int, safe_float, safe_bool, safe_list, safe_strs,
    List.forall_mem_map, safeText_status, and_true, true_and] at hitems
  obtain ⟨core_run_id, agent_id, idempotency_key, request_hash, created_at, updated_at, started_at,
    completed_at, reason, result, raw_response, rejected_result, format_error,
    format_recovery_rejection, openclaw_binding, p₁, p₂, p₃, p₄, p₅, p₆, p₇, p₈, p₉, p₁₀, p₁₁,
    tool_call_metric, policy_status, policy_events, cancel_reason, policy_state, goal_contract,
    goal_status, progress_checkpoint, verified_progress, p₁₂, parent_core_run_id, approved_paths,
    escalation_reason, escalation_package⟩ := hitems
  have policy : SafePolicy r.policy := by
    simp only [SafePolicy, List.forall_mem_cons]
    exact ⟨p₁, p₂, p₃, p₄, p₅, p₆, p₇, p₈, p₉, p₁₀, p₁₁, p₁₂, by simp⟩
  constructor <;> assumption

/-! ## What the mutators write -/

structure SafeOutcome (o : AdapterOutcome) : Prop where
  reason : safeText o.reason = true
  result : ∀ d ∈ o.result, SafeDict d
  format_error : safeText o.format_error = true
  format_recovery_rejection : safeText o.format_recovery_rejection = true
  raw_response : ∀ t ∈ o.raw_response, safeText t = true
  rejected_result : ∀ d ∈ o.rejected_result, SafeDict d

theorem safe_transitioned {r : RunRecord} (h : SafeRecord r) (status : CoreRunStatus)
    {binding : Option RunBinding} {outcome : Option AdapterOutcome} {reason now : String}
    (hbinding : ∀ b ∈ binding, SafeDict b.recorded.toDict)
    (houtcome : ∀ o ∈ outcome, SafeOutcome o) (hreason : safeText reason = true)
    (hnow : safeText now = true) :
    SafeRecord (r.transitioned status binding outcome reason now) := by
  have hempty : safeText "" = true := by decide +kernel
  have hsome : ∀ t ∈ some now, safeText t = true := by simpa using hnow
  have hcancelled : safeText "CANCELLED" = true := by decide +kernel
  unfold RunRecord.transitioned
  extract_lets r₁ r₂ r₃ r₄ r₅
  have h₁ : SafeRecord r₁ := { h with updated_at := hnow }
  have h₂ : SafeRecord r₂ := by
    unfold r₂
    split
    · exact { h₁ with started_at := hsome }
    · exact h₁
  have h₃ : SafeRecord r₃ := by
    unfold r₃
    cases binding with
    | none => exact h₂
    | some b => exact { h₂ with openclaw_binding := by simpa using hbinding b rfl }
  have h₄ : SafeRecord r₄ := by
    refine { h₃ with completed_at := hsome, reason := ?_, result := ?_ }
    · show safeText (if reason = "" then _ else reason) = true
      split
      · cases outcome with
        | none => exact hempty
        | some o => exact (houtcome o rfl).reason
      · exact hreason
    · intro d hd
      obtain ⟨o, ho, hd⟩ := Option.bind_eq_some_iff.mp hd
      exact (houtcome o ho).result d hd
  have h₅ : SafeRecord r₅ := by
    unfold r₅
    cases outcome with
    | none => exact h₄
    | some o =>
      have ho := houtcome o rfl
      exact { h₄ with
        format_error := ho.format_error
        format_recovery_rejection := ho.format_recovery_rejection
        raw_response := ho.raw_response
        rejected_result := ho.rejected_result }
  split
  · split
    · exact { h₅ with cancel_reason := h₅.reason, policy_status := hcancelled }
    · exact h₅
  · exact h₃

theorem safe_reconciled {r : RunRecord} (h : SafeRecord r) {now : String}
    (hnow : safeText now = true) : SafeRecord (r.reconciled now) := by
  have hcancel : safeText "USER_CANCEL" = true := by decide +kernel
  have hcancelled : safeText "CANCELLED" = true := by decide +kernel
  have hsome : ∀ t ∈ some now, safeText t = true := by simpa using hnow
  exact { h with
    updated_at := hnow
    completed_at := hsome
    reason := hcancel
    cancel_reason := hcancel
    policy_status := hcancelled }

structure SafeCreate (args : CreateArgs) : Prop where
  agent_id : safeText args.agent_id = true
  idempotency_key : safeText args.idempotency_key = true
  request_hash : safeText args.request_hash = true
  policy : SafeDict args.policy
  goal_contract : SafeDict args.goal_contract.as_dict
  parent_core_run_id : ∀ t ∈ args.parent_core_run_id, safeText t = true
  approved_paths : ∀ paths ∈ args.approved_paths, ∀ t ∈ paths, safeText t = true

theorem safe_getD {d : Dict} {default : Value} (hd : SafeDict d) (h : SafeValue default)
    (key : String) : SafeValue (d.getD key default) := by
  unfold Dict.getD
  split
  · exact h
  · rename_i v hv
    obtain ⟨m, hm, rfl⟩ := Option.map_eq_some_iff.mp hv
    exact (Json.allStringsMembers_iff.mp hd m (List.mem_of_find?_eq_some hm)).2

theorem safe_record {args : CreateArgs} (h : SafeCreate args) {id now : String}
    (hid : safeText id = true) (hnow : safeText now = true) : SafeRecord (args.record id now) := by
  have hempty : safeText "" = true := by decide +kernel
  have hpolicy : SafePolicy (args.record id now).policy := by
    simp only [SafePolicy, CreateArgs.record, List.forall_mem_cons]
    have text : ∀ s ∈ ["UNKNOWN", "STANDARD", "MANUAL", "NONE"], SafeValue (.str s) := by
      decide +kernel
    have unknown := text "UNKNOWN" (by simp)
    exact ⟨safe_getD h.policy unknown _, safe_getD h.policy (text "STANDARD" (by simp)) _,
      safe_getD h.policy safe_null _, safe_getD h.policy unknown _,
      safe_getD h.policy safe_null _, safe_getD h.policy safe_null _,
      safe_getD h.policy safe_null _, safe_getD h.policy safe_null _,
      safe_getD h.policy safe_null _, safe_getD h.policy (text "MANUAL" (by simp)) _,
      safe_getD h.policy (text "NONE" (by simp)) _, safe_getD h.policy (safe_int 0) _, by simp⟩
  constructor
  case core_run_id => exact hid
  case agent_id => exact h.agent_id
  case idempotency_key => exact h.idempotency_key
  case request_hash => exact h.request_hash
  case created_at | updated_at => exact hnow
  case reason | format_error | format_recovery_rejection | cancel_reason | escalation_reason =>
    exact hempty
  case policy => exact hpolicy
  case goal_contract => exact h.goal_contract
  case parent_core_run_id => exact h.parent_core_run_id
  case approved_paths =>
    intro t ht
    cases hpaths : args.approved_paths with
    | none =>
      simp only [CreateArgs.record, hpaths] at ht
      cases ht
    | some paths =>
      simp only [CreateArgs.record, hpaths] at ht
      exact h.approved_paths paths hpaths t ht
  case tool_call_metric | policy_status | goal_status | policy_state | verified_progress =>
    simp only [CreateArgs.record]
    decide +kernel
  all_goals
    intro _ ht
    cases ht

structure SafeGoal (args : GoalUpdate) : Prop where
  checkpoint : ∀ d ∈ args.checkpoint, SafeDict d
  verified_progress : ∀ d ∈ args.verified_progress, SafeDict d
  goal_state : ∀ d ∈ args.goal_state, SafeDict d
  event_code : ∀ t ∈ args.event_code, safeText t = true
  event_details : ∀ d ∈ args.event_details, SafeDict d
  escalation_reason : ∀ t ∈ args.escalation_reason, safeText t = true
  escalation_package : ∀ d ∈ args.escalation_package, SafeDict d

theorem safe_newEvents {code : Option String} {event_at : String} {details : Option Dict}
    (hcode : ∀ t ∈ code, safeText t = true) (hat : safeText event_at = true)
    (hdetails : ∀ d ∈ details, SafeDict d) :
    ∀ e ∈ RunRecord.newEvents code event_at details, SafeDict e.toDict := by
  have hkeys : safeText "code" = true ∧ safeText "at" = true ∧ safeText "details" = true := by
    decide +kernel
  intro e he
  cases code with
  | none => cases he
  | some c =>
    obtain rfl := List.mem_singleton.mp he
    have hd : SafeDict (details.getD Dict.empty) := by
      cases details with
      | none => exact rfl
      | some d => exact hdetails d rfl
    simp [PolicyEvent.toDict, safeDict_ofList, hkeys, hat, hd, hcode c rfl]

theorem safe_orElse {α : Type} {P : α → Prop} {a b : Option α} (ha : ∀ x ∈ a, P x)
    (hb : ∀ x ∈ b, P x) : ∀ x ∈ (a <|> b), P x := by
  cases a with
  | none => exact hb
  | some y => exact ha

theorem safe_getOption {α : Type} {P : α → Prop} {a : Option α} {b : α} (ha : ∀ x ∈ a, P x)
    (hb : P b) : P (a.getD b) := by
  cases a with
  | none => exact hb
  | some y => exact ha y rfl

theorem safe_goalUpdated {r r' : RunRecord} (h : SafeRecord r) {args : GoalUpdate}
    {event_at now : String} (hargs : SafeGoal args) (hat : safeText event_at = true)
    (hnow : safeText now = true) (hr' : r.goalUpdated args event_at now = .ok r') :
    SafeRecord r' := by
  have hgoal : safeText "goal" = true ∧ safeText "GUARDED" = true ∧
      ∀ s ∈ ["NORMAL", "GUARDED", "DRIFT"], safeText s = true := by decide +kernel
  simp only [RunRecord.goalUpdated] at hr'
  split at hr'
  · cases hr'
  rename_i hstatus
  simp only [ne_eq, not_true_eq_false, ↓reduceIte] at hr'
  cases hr'
  push Not at hstatus
  exact { h with
    updated_at := hnow
    progress_checkpoint := safe_orElse hargs.checkpoint h.progress_checkpoint
    verified_progress := safe_getOption hargs.verified_progress h.verified_progress
    policy_state := by
      dsimp only
      split
      · exact h.policy_state
      · rename_i goal hg
        exact safeDict_set h.policy_state hgoal.1 (hargs.goal_state goal hg)
    goal_status := safe_getOption (fun s hs => hgoal.2.2 s (hstatus s hs)) h.goal_status
    policy_events := by
      intro e he
      rcases List.mem_append.mp he with he | he
      · exact h.policy_events e he
      · exact safe_newEvents (fun t ht => hargs.event_code t (Option.mem_filter_iff.mp ht).1) hat
          hargs.event_details e he
    policy_status := by
      dsimp only
      split
      · exact hgoal.2.1
      · exact h.policy_status
    escalation_reason := safe_getOption hargs.escalation_reason h.escalation_reason
    escalation_package := safe_orElse hargs.escalation_package h.escalation_package }

structure SafePolicyUpdate (args : PolicyUpdate) : Prop where
  policy_state : ∀ d ∈ args.policy_state, SafeDict d
  event_code : ∀ t ∈ args.event_code, safeText t = true
  event_details : ∀ d ∈ args.event_details, SafeDict d
  cancel_reason : ∀ t ∈ args.cancel_reason, safeText t = true
  policy_status : ∀ t ∈ args.policy_status, safeText t = true

theorem safe_policyUpdated {r r' : RunRecord} (h : SafeRecord r) {args : PolicyUpdate}
    {event_at now : String} (hargs : SafePolicyUpdate args) (hat : safeText event_at = true)
    (hnow : safeText now = true) (hr' : r.policyUpdated args event_at now = .ok r') :
    SafeRecord r' := by
  have htext : safeText "GUARDED" = true ∧
      ∀ s ∈ ["SUPPORTED", "UNSUPPORTED"], safeText s = true := by decide +kernel
  simp only [RunRecord.policyUpdated] at hr'
  split at hr'
  · cases hr'
  rename_i hmetric
  split at hr'
  · cases hr'
  cases hr'
  push Not at hmetric
  exact { h with
    updated_at := hnow
    tool_call_metric := safe_getOption (fun s hs => htext.2 s (hmetric s hs)) h.tool_call_metric
    policy_state := safe_getOption hargs.policy_state h.policy_state
    policy_events := by
      intro e he
      rcases List.mem_append.mp he with he | he
      · exact h.policy_events e he
      · exact safe_newEvents hargs.event_code hat hargs.event_details e he
    policy_status := by
      dsimp only
      split
      · exact safe_getOption (fun t ht => hargs.policy_status t (Option.mem_filter_iff.mp ht).1)
          htext.1
      · exact safe_getOption hargs.policy_status h.policy_status
    cancel_reason := safe_getOption hargs.cancel_reason h.cancel_reason }

end RunRegistry

/-! ## Logs -/

namespace Mutation

open RegistryFile (safeText)
open RunRegistry

/-- Every text that the mutation brings is line safe. -/
def Safe : Mutation → Prop
  | create args fresh now =>
    SafeCreate args ∧ safeText (args.actual_id fresh) = true ∧ safeText now = true
  | transition _ _ binding outcome reason now =>
    (∀ b ∈ binding, SafeDict b.recorded.toDict) ∧ (∀ o ∈ outcome, SafeOutcome o) ∧
      safeText reason = true ∧ safeText now = true
  | reconcile_abort_observation _ now => safeText now = true
  | update_goal_state _ args event_at now =>
    SafeGoal args ∧ safeText event_at = true ∧ safeText now = true
  | update_policy _ args event_at now =>
    SafePolicyUpdate args ∧ safeText event_at = true ∧ safeText now = true

/-- A line-safe mutation appends a line-safe record to a log of such records. -/
theorem Safe.appends {log : Log} (hlog : ∀ r ∈ log, SafeRecord r) {m : Mutation} (hm : m.Safe)
    {r : RunRecord} (h : m.Appends log r) : SafeRecord r := by
  have safe_last : ∀ {id : String} {old : RunRecord}, last id log = some old → SafeRecord old :=
    fun hlast => hlog _ (last_some hlast).1
  cases h with
  | create => exact safe_record hm.1 hm.2.1 hm.2.2
  | transition hlast _ =>
    exact safe_transitioned (safe_last hlast) _ hm.1 hm.2.1 hm.2.2.1 hm.2.2.2
  | reconcile_abort_observation hlast _ _ => exact safe_reconciled (safe_last hlast) hm
  | update_goal_state hlast h => exact safe_goalUpdated (safe_last hlast) hm.1 hm.2.1 hm.2.2 h
  | update_policy hlast h => exact safe_policyUpdated (safe_last hlast) hm.1 hm.2.1 hm.2.2 h

theorem Safe.run {log : Log} (hlog : ∀ r ∈ log, SafeRecord r) {m : Mutation} (hm : m.Safe) :
    ∀ r ∈ m.run log, SafeRecord r := by
  intro r hr
  rcases m.run_cases log with hrun | ⟨q, hrun, happ⟩
  · rw [hrun] at hr
    exact hlog r hr
  · rw [hrun] at hr
    rcases List.mem_append.mp hr with hr | hr
    · exact hlog r hr
    · rw [List.mem_singleton.mp hr]
      exact hm.appends hlog happ

end Mutation

/-- The registry stays readable under line-safe mutations, and its file reads back as the log. -/
theorem readable_of_safe_run {log : Log} {ms : List Mutation}
    (h : registry.Steps (fun _ m => m.Safe) [] ms log) :
    (∀ r ∈ log, RunRegistry.readable r = true) ∧
      RegistryFile.records (RunRegistry.file log) = .ok (log.map fun r => r.toDict.sorted) := by
  have hsafe : ∀ r ∈ log, RunRegistry.SafeRecord r := by
    refine h.inv (I := fun log => ∀ r ∈ log, RunRegistry.SafeRecord r) ?_ (by simp)
    rintro log m log' hI hm hstep
    cases hstep
    exact hm.run hI
  have hreadable : ∀ r ∈ log, RunRegistry.readable r = true := fun r hr =>
    RunRegistry.readable_of_safe (hsafe r hr)
  refine ⟨hreadable, ?_⟩
  rw [RunRegistry.records_file, RunRegistry.records_of_readable hreadable]
  rfl

open RunRegistry in
/-- A run that is created reads back. -/
theorem readable_of_safe_run_sample : ∃ log, registry.Steps (fun _ m => m.Safe) []
    [.create sampleArgs "core-1" "t0"] log ∧
      RegistryFile.records (file log) = .ok (log.map fun r => r.toDict.sorted) := by
  have hcreate : SafeCreate sampleArgs := by
    constructor <;> decide +kernel
  have hsteps : registry.Steps (fun _ m => m.Safe) [] [.create sampleArgs "core-1" "t0"]
      ((Mutation.create sampleArgs "core-1" "t0").run []) :=
    .single ⟨hcreate, by decide +kernel, by decide +kernel⟩ rfl
  exact ⟨_, hsteps, (readable_of_safe_run hsteps).2⟩

end Plachem
