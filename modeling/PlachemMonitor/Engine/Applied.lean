import PlachemMonitor.Engine.Windows

/-!
# Outcomes that are applied

What the calls of `Engine.Observation` do to a run whose record is `r` in a registry that can be read
(`Stands`), up to the application of an outcome. Every lemma says which record is the last one then,
as far as the next statement looks at it.
-/

namespace Plachem

namespace CoreEngine

open Effect
open RegistryFile (safeText)
open RunRegistry (last SafeRecord SafeGoal SafePolicy SafePolicyUpdate SafeDict SafeValue)

/-! ## Line-safe goals -/

theorem safeText_code {t : List Char} (h : safe_code t = true) : safeText (String.ofList t) = true := by
  have hchar : ∀ c, codeChar c = true → (c != '\u0085' && c != '\u2028' && c != '\u2029') = true := by
    intro c hc
    have h1 : c ≠ '\u0085' := by rintro rfl; revert hc; decide
    have h2 : c ≠ '\u2028' := by rintro rfl; revert hc; decide
    have h3 : c ≠ '\u2029' := by rintro rfl; revert hc; decide
    simp [h1, h2, h3]
  cases t with
  | nil => cases h
  | cons c cs =>
    simp only [safe_code, Bool.and_eq_true] at h
    rw [safeText, String.toList_ofList, List.all_cons, Bool.and_eq_true]
    refine ⟨hchar c ?_, List.all_eq_true.mpr fun d hd => hchar d (List.all_eq_true.mp h.2 d hd)⟩
    rw [codeChar, h.1.1, Bool.true_or]

theorem normalized_code_ok {v : Json} {field s : String} (h : normalized_code v field = .ok s) :
    safeText s = true := by
  unfold normalized_code at h
  split at h
  · dsimp only at h
    split at h
    · rename_i hcode
      rw [← Except.ok.inj h]
      exact safeText_code hcode
    · cases h
  · cases h

theorem mapM_ok {α β ε : Type} {f : α → Except ε β} {xs : List α} {ys : List β}
    (h : xs.mapM f = .ok ys) : ∀ y ∈ ys, ∃ x ∈ xs, f x = .ok y := by
  induction xs generalizing ys with
  | nil =>
    cases h
    exact fun y hy => absurd hy List.not_mem_nil
  | cons x xs ih =>
    rw [List.mapM_cons] at h
    obtain ⟨y, hy, h⟩ := bind_eq_ok.mp h
    obtain ⟨ys', hys, h⟩ := bind_eq_ok.mp h
    cases h
    intro z hz
    rcases List.mem_cons.mp hz with rfl | hz
    · exact ⟨x, List.mem_cons_self, hy⟩
    · obtain ⟨w, hw, hfw⟩ := ih hys z hz
      exact ⟨w, List.mem_cons_of_mem _ hw, hfw⟩

theorem code_list_ok {value : Dict} {field : String} {codes : List String}
    (h : code_list_of value field = .ok codes) : ∀ c ∈ codes, safeText c = true := by
  unfold code_list_of at h
  split at h
  · split at h
    · unfold normalized_code_list at h
      split at h
      · obtain ⟨all, hall, rfl⟩ := map_eq_ok.mp h
        intro c hc
        obtain ⟨x, -, hx⟩ := mapM_ok hall c (List.mem_eraseDups.mp hc)
        exact normalized_code_ok hx
      · cases h
    · rw [← Except.ok.inj h]
      exact fun c hc => absurd hc List.not_mem_nil
  · rw [← Except.ok.inj h]
    exact fun c hc => absurd hc List.not_mem_nil

/-- The codes of a checkpoint. -/
structure SafeCodes (c : Checkpoint) : Prop where
  current_step : safeText c.current_step = true
  completed_conditions : ∀ t ∈ c.completed_conditions, safeText t = true
  remaining_conditions : ∀ t ∈ c.remaining_conditions, safeText t = true
  blocking_reason : safeText c.blocking_reason = true
  artifact_delta : ∀ t ∈ c.artifact_delta, safeText t = true
  scope_delta : ∀ t ∈ c.scope_delta, safeText t = true
  evidence_delta : ∀ t ∈ c.evidence_delta, safeText t = true

/-- All of a checkpoint but the id of its goal is codes. -/
theorem safe_checkpoint {value : Dict} {contract : GoalContract} {c : Checkpoint}
    (h : normalize_progress_checkpoint value contract = .ok c) : SafeCodes c := by
  unfold normalize_progress_checkpoint at h
  split at h
  · cases h
  obtain ⟨goal_id, -, h⟩ := bind_eq_ok.mp h
  obtain ⟨completed, hcompleted, h⟩ := bind_eq_ok.mp h
  obtain ⟨remaining, hremaining, h⟩ := bind_eq_ok.mp h
  obtain ⟨artifacts, hartifacts, h⟩ := bind_eq_ok.mp h
  obtain ⟨scopes, hscopes, h⟩ := bind_eq_ok.mp h
  obtain ⟨evidence, hevidence, h⟩ := bind_eq_ok.mp h
  obtain ⟨_, -, h⟩ := bind_eq_ok.mp h
  obtain ⟨_, -, h⟩ := bind_eq_ok.mp h
  obtain ⟨current_step, hstep, h⟩ := bind_eq_ok.mp h
  obtain ⟨blocking_reason, hblocking, h⟩ := bind_eq_ok.mp h
  obtain rfl := pure_eq_ok.mp h
  exact ⟨normalized_code_ok hstep, code_list_ok hcompleted, code_list_ok hremaining,
    normalized_code_ok hblocking, code_list_ok hartifacts, code_list_ok hscopes,
    code_list_ok hevidence⟩

theorem texts_of_safe {v : Option Json} {texts : List String} (h : texts_of v = .ok texts)
    (hv : ∀ j ∈ v, j.allStrings safeText = true) : ∀ t ∈ texts, safeText t = true := by
  unfold texts_of at h
  split at h
  · rw [← Except.ok.inj h]
    exact fun t ht => absurd ht List.not_mem_nil
  · rename_i xs
    have hxs : ∀ x ∈ xs, x.allStrings safeText = true :=
      Json.allStringsElems_iff.mp (hv (.arr xs) rfl)
    intro t ht
    obtain ⟨x, hx, hok⟩ := mapM_ok h t ht
    have hsafe := hxs x hx
    split at hok
    · rw [← Except.ok.inj hok]
      exact hsafe
    · cases hok
  · cases h

theorem safe_merged {previous new : List String} (hprevious : ∀ t ∈ previous, safeText t = true)
    (hnew : ∀ t ∈ new, safeText t = true) : ∀ t ∈ merged previous new, safeText t = true := by
  intro t ht
  rw [merged, List.mem_insertionSort, List.mem_dedup, List.mem_append] at ht
  exact ht.elim (hprevious t) (hnew t)

theorem safe_get? {d : Dict} {key : String} (h : SafeDict d) :
    ∀ j ∈ d.get? key, j.allStrings safeText = true := by
  intro j hj
  obtain ⟨m, hm, rfl⟩ := Option.map_eq_some_iff.mp hj
  exact (Json.allStringsMembers_iff.mp h m (List.mem_of_find?_eq_some hm)).2

theorem safe_verified {previous verified : Dict} {c : Checkpoint} (hprevious : SafeDict previous)
    (hc : SafeCodes c) (h : verified_with previous c = .ok verified) : SafeDict verified := by
  have hkeys : ∀ k ∈ ["completed_conditions", "artifacts", "evidence", "scope"],
      safeText k = true := by decide +kernel
  obtain ⟨completed, hcompleted, h⟩ := bind_eq_ok.mp h
  obtain ⟨artifacts, hartifacts, h⟩ := bind_eq_ok.mp h
  obtain ⟨evidence, hevidence, h⟩ := bind_eq_ok.mp h
  obtain ⟨scope, hscope, h⟩ := bind_eq_ok.mp h
  obtain rfl := pure_eq_ok.mp h
  simp only [List.forall_mem_cons, List.not_mem_nil, false_imp_iff, implies_true, and_true] at hkeys
  simp only [RunRegistry.safeDict_ofList, List.forall_mem_cons, List.not_mem_nil, false_imp_iff,
    implies_true, RunRegistry.safe_strs, hkeys, true_and, and_true]
  exact ⟨safe_merged (texts_of_safe hcompleted (safe_get? hprevious)) hc.completed_conditions,
    safe_merged (texts_of_safe hartifacts (safe_get? hprevious)) hc.artifact_delta,
    safe_merged (texts_of_safe hevidence (safe_get? hprevious)) hc.evidence_delta,
    safe_merged (texts_of_safe hscope (safe_get? hprevious)) hc.scope_delta⟩

theorem json_of_dict? {v : Value} {d : Dict} (h : v.dict? = some d) : v.json = d.json := by
  unfold Value.dict? at h
  split at h
  · rw [← Option.some.inj h]
    rfl
  · cases h

theorem get?_of_value? {d : Dict} {key : String} {v : Value} (h : d.value? key = some v) :
    d.get? key = some v.json := by
  rw [← Dict.value?_json, h]
  rfl

theorem safe_goal_state {r : RunRecord} {goal : Dict} (hr : SafeDict r.policy_state)
    (h : goal_state_of r = .ok goal) : SafeDict goal := by
  unfold goal_state_of at h
  split at h
  · rw [← Except.ok.inj h]
    exact rfl
  · rename_i v hv
    split at h
    · rename_i goal' hdict
      rw [← Except.ok.inj h]
      have hsafe := safe_get? hr v.json (get?_of_value? hv)
      rwa [json_of_dict? hdict] at hsafe
    · split at h
      · cases h
      · rw [← Except.ok.inj h]
        exact rfl

theorem safe_set {d : Dict} {key : String} {v : Value} (hd : SafeDict d) (hv : SafeValue v)
    (hkey : key ∈ ["goal", "last_checkpoint_signature", "drift_count", "openclaw_completed"]) :
    SafeDict (d.set key v) := by
  have hkeys : ∀ k ∈ ["goal", "last_checkpoint_signature", "drift_count", "openclaw_completed"],
      safeText k = true := by decide +kernel
  exact RunRegistry.safeDict_set hd (hkeys key hkey) hv

theorem safe_toDict {c : Checkpoint} (hc : SafeCodes c) (hgoal : safeText c.goal_id = true) :
    SafeDict c.toDict := by
  have hkeys : ∀ k ∈ checkpoint_fields, safeText k = true := by decide +kernel
  simp only [checkpoint_fields, List.forall_mem_cons, List.not_mem_nil, false_imp_iff, implies_true,
    and_true] at hkeys
  simp only [Checkpoint.toDict, RunRegistry.safeDict_ofList, List.forall_mem_cons, List.not_mem_nil,
    false_imp_iff, implies_true, RunRegistry.safe_strs, RunRegistry.safe_str, hkeys, true_and, and_true]
  exact ⟨hgoal, hc.current_step, hc.completed_conditions, hc.remaining_conditions,
    hc.blocking_reason, hc.artifact_delta, hc.scope_delta, hc.evidence_delta⟩

/-- `hexdigest` is a text without line breaks. -/
def HexDigest (H : Hashlib) : Prop := ∀ t, safeText (H.sha256 t) = true

variable {ρ : Type} {engine : Engine ρ}

/-- What is judged of a record without line breaks has none, the id of the goal apart. -/
theorem safe_judge (hhex : HexDigest engine.H) {r : RunRecord} {checkpoint : Dict}
    {judgement : Judgement} (hr : SafeRecord r) (h : judge engine r checkpoint = .ok judgement) :
    SafeCodes judgement.normalized ∧ SafeDict judgement.verified ∧ SafeDict judgement.goal_state := by
  obtain ⟨contract, -, h⟩ := bind_eq_ok.mp h
  obtain ⟨normalized, hnormalized, h⟩ := bind_eq_ok.mp h
  obtain ⟨goal_state, hgoal, h⟩ := bind_eq_ok.mp h
  obtain ⟨verified, hverified, h⟩ := bind_eq_ok.mp h
  have hcodes : SafeCodes normalized := by
    cases hn : normalize_progress_checkpoint checkpoint contract with
    | error e =>
      rw [hn] at hnormalized
      cases hnormalized
    | ok c =>
      rw [hn] at hnormalized
      cases hnormalized
      exact safe_checkpoint hn
  have hstate := safe_goal_state hr.policy_state hgoal
  have hsafe := safe_verified hr.verified_progress hcodes hverified
  split at h
  · rw [← pure_eq_ok.mp h]
    exact ⟨hcodes, hsafe, hstate⟩
  · split at h
    · rw [← pure_eq_ok.mp h]
      exact ⟨hcodes, hsafe, hstate⟩
    · rw [← pure_eq_ok.mp h]
      exact ⟨hcodes, hsafe, safe_set hstate (hhex _) (by simp)⟩

theorem eval_mutate_ok {m : Log → Except RegistryError (RunRecord × Log)} {s : Core} {log : Log}
    {r : RunRecord} (h : m s.log = .ok (r, log)) :
    eval (mutate m) s = ({ s with log := log }, .ok r) := by
  unfold mutate
  rw [eval_bind_ok (eval_get s), h]
  rfl

theorem eval_mutate_error {m : Log → Except RegistryError (RunRecord × Log)} {s : Core}
    {e : RegistryError} (h : m s.log = .error e) :
    eval (mutate m) s = (s, .error (.registry e)) := by
  unfold mutate
  rw [eval_bind_ok (eval_get s), h]
  rfl

/-! ## A run that stands in the registry -/

/-- The registry can be read, and the last record of the run is `r`. -/
structure Stands (id : String) (r : RunRecord) (s : Core) : Prop where
  safe : ∀ q ∈ s.log, SafeRecord q
  last : last id s.log = some r

/-- Registry and run, as far as the statements after an update of the policy look at them. -/
structure Alike (r r' : RunRecord) : Prop where
  identity : r'.identity = r.identity
  ending : r'.ending = r.ending
  policy : r'.policy = r.policy
  policy_state : r'.policy_state = r.policy_state
  verified_progress : r'.verified_progress = r.verified_progress
  started_at : r'.started_at = r.started_at

namespace Alike

theorem refl (r : RunRecord) : Alike r r := ⟨rfl, rfl, rfl, rfl, rfl, rfl⟩

theorem trans {r r' r'' : RunRecord} (h : Alike r r') (h' : Alike r' r'') : Alike r r'' :=
  ⟨h'.identity.trans h.identity, h'.ending.trans h.ending, h'.policy.trans h.policy,
    h'.policy_state.trans h.policy_state, h'.verified_progress.trans h.verified_progress,
    h'.started_at.trans h.started_at⟩

variable {r r' : RunRecord}

theorem status (h : Alike r r') : r'.status = r.status := congrArg RunRecord.Ending.status h.ending

/-- A checkpoint is judged alike. -/
theorem judge (h : Alike r r') (checkpoint : Dict) :
    CoreEngine.judge engine r' checkpoint = CoreEngine.judge engine r checkpoint := by
  have hcontract : r'.goal_contract = r.goal_contract :=
    congrArg RunRecord.Identity.goal_contract h.identity
  unfold CoreEngine.judge goal_state_of
  rw [hcontract, h.policy_state, h.verified_progress]

end Alike

/-- The timers and the aborts are those of before. -/
def SameHands (s s' : Core) : Prop := s'.timers = s.timers ∧ s'.aborts = s.aborts

theorem SameHands.trans {s s' s'' : Core} (h : SameHands s s') (h' : SameHands s' s'') :
    SameHands s s'' := ⟨h'.1.trans h.1, h'.2.trans h.2⟩

namespace Stands

variable {E : ObserveEnv} {id : String} {r r' : RunRecord} {s : Core}

theorem readable (h : Stands id r s) : ∀ q ∈ s.log, RunRegistry.readable q = true :=
  fun q hq => RunRegistry.readable_of_safe (h.safe q hq)

theorem of_readable (hsafe : ∀ q ∈ s.log, RunRegistry.readable q = true)
    (hlast : RunRegistry.last id s.log = some r) : Stands id r s :=
  ⟨fun q hq => RunRegistry.safe_of_readable (hsafe q hq), hlast⟩

theorem record (h : Stands id r s) : SafeRecord r := h.safe r (RunRegistry.last_some h.last).1

theorem registry_require (h : Stands id r s) : RunRegistry.require s.log id = .ok r :=
  RunRegistry.require_of_last h.readable h.last

theorem require (h : Stands id r s) : eval (CoreEngine.require id) s = (s, .ok r) :=
  eval_require h.registry_require

/-- A record of the run that can be read. -/
theorem append (h : Stands id r s) (hsafe : SafeRecord r') (hident : r'.identity = r.identity) :
    Stands id r' { s with log := s.log ++ [r'] } where
  safe q hq := by
    rcases List.mem_append.mp hq with hq | hq
    · exact h.safe q hq
    · rwa [List.mem_singleton.mp hq]
  last := RunRegistry.last_append_identity h.last hident

/-- The rest of the state does not matter. -/
theorem congr {s' : Core} (h : Stands id r s) (hlog : s'.log = s.log) : Stands id r s' := by
  refine ⟨?_, ?_⟩ <;> rw [hlog]
  · exact h.safe
  · exact h.last

/-- A transition is appended. -/
theorem transition (h : Stands id r s) {status : CoreRunStatus}
    (hstatus : status ∈ r.status.transitions) (hne : status ≠ r.status) (binding : Option RunBinding)
    (outcome : Option AdapterOutcome) (reason : String) :
    ∃ r', eval (CoreEngine.transition E id status binding outcome reason) s =
        ({ s with log := s.log ++ [r'] }, .ok r') ∧ r'.identity = r.identity ∧ r'.status = status ∧
      r' = r.transitioned status binding outcome reason (E.now s.log.length) := by
  have happly := RunRegistry.transition_of_last h.readable h.last hstatus hne binding outcome reason
    (E.now s.log.length)
  refine ⟨_, ?_, RunRecord.transitioned_identity .., RunRecord.transitioned_status .., rfl⟩
  exact eval_mutate_ok happly

/-- An update of the policy leaves the run as it is, for what comes after it. -/
theorem update_policy (h : Stands id r s) {args : PolicyUpdate} (hargs : SafePolicyUpdate args)
    (hstate : args.policy_state = none) (hmetric : args.tool_call_metric = none)
    (hcount : args.tool_call_count = none) :
    ∃ out r' s', eval (CoreEngine.update_policy E id args) s = (s', .ok out) ∧
      Stands id r' s' ∧ Alike r r' ∧ SameHands s s' := by
  have hupdated : ∃ r', r.policyUpdated args (E.event_at s.log.length) (E.now s.log.length) =
      .ok r' ∧ Alike r r' := by
    unfold RunRecord.policyUpdated
    simp only [hstate, hmetric, hcount]
    exact ⟨_, rfl, rfl, rfl, rfl, rfl, rfl, rfl⟩
  obtain ⟨r', hr', halike⟩ := hupdated
  have hsafe : SafeRecord r' :=
    RunRegistry.safe_policyUpdated h.record hargs (E.safe_event_at _) (E.safe_now _) hr'
  have hcall : RunRegistry.update_policy s.log id args (E.event_at s.log.length)
      (E.now s.log.length) =
        if r.changed r' then .ok (r', s.log ++ [r']) else .ok (r', s.log) := by
    rw [RunRegistry.update_policy, bind_of_ok h.registry_require, bind_of_ok hr']
    rfl
  split at hcall
  · exact ⟨r', r', _, eval_mutate_ok hcall, h.append hsafe halike.identity, halike, rfl, rfl⟩
  · exact ⟨r', r, _, eval_mutate_ok hcall, h.congr rfl, .refl r, rfl, rfl⟩

/-- The runtime of the run is recorded. -/
theorem record_runtime (h : Stands id r s) (seconds : ℚ) :
    ∃ r' s', eval (CoreEngine.record_runtime E id seconds) s = (s', .ok ()) ∧ Stands id r' s' ∧
      Alike r r' ∧ SameHands s s' := by
  have hargs : SafePolicyUpdate { PolicyUpdate.none with
      runtime_seconds := some (E.round (max 0 seconds)) } := by
    constructor <;> exact fun _ h => by cases h
  obtain ⟨out, r', s', heval, hstands, halike, hsame⟩ := h.update_policy hargs rfl rfl rfl
  refine ⟨r', s', ?_, hstands, halike, hsame⟩
  unfold CoreEngine.record_runtime
  exact eval_bind_ok heval

end Stands

/-- What `update_goal_state` makes of a run. -/
structure GoalChanged (args : GoalUpdate) (r r' : RunRecord) : Prop where
  identity : r'.identity = r.identity
  ending : r'.ending = r.ending
  policy : r'.policy = r.policy
  policy_state : r'.policy_state = match args.goal_state with
    | none => r.policy_state
    | some goal => r.policy_state.set "goal" (.ofDict goal)
  verified_progress : r'.verified_progress = args.verified_progress.getD r.verified_progress
  progress_checkpoint : r'.progress_checkpoint = (args.checkpoint <|> r.progress_checkpoint)
  goal_status : r'.goal_status = args.goal_status.getD r.goal_status

theorem GoalChanged.status {args : GoalUpdate} {r r' : RunRecord} (h : GoalChanged args r r') :
    r'.status = r.status := congrArg RunRecord.Ending.status h.ending

/-- An update of the goal is appended. -/
theorem Stands.update_goal_state {E : ObserveEnv} {id : String} {r : RunRecord} {s : Core}
    (h : Stands id r s) (args : GoalUpdate)
    (hstatus : ∀ g ∈ args.goal_status, g ∈ ["NORMAL", "GUARDED", "DRIFT"]) :
    ∃ r', eval (CoreEngine.update_goal_state E id args) s =
        ({ s with log := s.log ++ [r'] }, .ok r') ∧ GoalChanged args r r' ∧
      RunRegistry.last id (s.log ++ [r']) = some r' ∧
      (SafeGoal args → Stands id r' { s with log := s.log ++ [r'] }) := by
  have hupdated : ∃ r', r.goalUpdated args (E.event_at s.log.length) (E.now s.log.length) =
      .ok r' ∧ GoalChanged args r r' := by
    unfold RunRecord.goalUpdated
    rw [if_neg (by push Not; exact hstatus)]
    simp only [ne_eq, not_true_eq_false, ↓reduceIte]
    exact ⟨_, rfl, ⟨rfl, rfl, rfl, rfl, rfl, rfl, rfl⟩⟩
  obtain ⟨r', hr', hchanged⟩ := hupdated
  have hcall : RunRegistry.update_goal_state s.log id args (E.event_at s.log.length)
      (E.now s.log.length) = .ok (r', s.log ++ [r']) := by
    rw [RunRegistry.update_goal_state, bind_of_ok h.registry_require, bind_of_ok hr']
    rfl
  refine ⟨r', eval_mutate_ok hcall, hchanged,
    RunRegistry.last_append_identity h.last hchanged.identity, fun hargs => ?_⟩
  exact h.append (RunRegistry.safe_goalUpdated h.record hargs (E.safe_event_at _) (E.safe_now _)
    hr') hchanged.identity

/-! ## The end of a run by the policy -/

theorem safe_list_or {v : Option Value} {default : List Value} (hv : ∀ x ∈ v, SafeValue x)
    (hdefault : ∀ x ∈ default, SafeValue x) : SafeValue (.list (list_or v default)) := by
  rw [RunRegistry.safe_list]
  unfold list_or
  split
  · rename_i x xs hlist
    obtain ⟨w, hw, hlist⟩ := Option.bind_eq_some_iff.mp hlist
    have hsafe := hv w hw
    unfold Value.list? at hlist
    split at hlist
    · rename_i elems hwf
      intro y hy
      rw [← Option.some.inj hlist] at hy
      obtain ⟨j, hj, rfl⟩ := List.mem_pmap.mp hy
      exact Json.allStringsElems_iff.mp hsafe j hj
    · cases hlist
  · exact hdefault

theorem safe_value? {d : Dict} {key : String} (h : SafeDict d) : ∀ v ∈ d.value? key, SafeValue v :=
  fun v hv => safe_get? h v.json (get?_of_value? hv)

theorem safe_contract {g : GoalContract} (h : SafeDict g.as_dict) :
    safeText g.primary_objective = true ∧ (∀ t ∈ g.allowed_scope, safeText t = true) ∧
      (∀ t ∈ g.forbidden_scope, safeText t = true) ∧
      ∀ t ∈ g.completion_conditions, safeText t = true := by
  simp only [GoalContract.as_dict, RunRegistry.safeDict_ofList, List.forall_mem_cons,
    List.not_mem_nil, false_imp_iff, implies_true, RunRegistry.safe_strs, RunRegistry.safe_str] at h
  exact ⟨h.2.1.2, h.2.2.1.2, h.2.2.2.1.2, h.2.2.2.2.2.1.2⟩

theorem safe_escalation_package {r : RunRecord} (h : SafeRecord r) {reason : String}
    (hreason : safeText reason = true) : SafeDict (escalation_package r reason) := by
  have hkeys : ∀ k ∈ ["goal_contract", "verified_progress", "original_goal",
      "verified_completed_work", "remaining_work", "known_blocker", "allowed_scope",
      "forbidden_scope", "relevant_evidence", "source_agent", "source_runtime_class",
      "failure_reason"], safeText k = true := by decide +kernel
  obtain ⟨hobjective, hallowed, hforbidden, hconditions⟩ := safe_contract h.goal_contract
  have hcheckpoint : SafeDict (r.progress_checkpoint.getD Dict.empty) := by
    cases hcp : r.progress_checkpoint with
    | none => exact rfl
    | some d => exact h.progress_checkpoint d hcp
  have hpolicy := h.policy
  simp only [SafePolicy, List.forall_mem_cons] at hpolicy
  simp only [List.forall_mem_cons, List.not_mem_nil, false_imp_iff, implies_true, and_true] at hkeys
  have hempty : ∀ x ∈ ([] : List Value), SafeValue x := fun x hx => absurd hx List.not_mem_nil
  simp only [escalation_package, RunRegistry.safeDict_ofList, List.forall_mem_cons,
    List.not_mem_nil, false_imp_iff, implies_true, RunRegistry.safe_strs, RunRegistry.safe_str,
    RunRegistry.safe_ofDict, hkeys, hreason, true_and, and_true]
  refine ⟨h.goal_contract, h.verified_progress, hobjective, ?_, ?_, hallowed, hforbidden, ?_,
    h.agent_id, hpolicy.1⟩
  · exact safe_list_or (safe_value? h.verified_progress) hempty
  · refine safe_list_or (safe_value? hcheckpoint) ?_
    rw [List.forall_mem_map]
    exact hconditions
  · exact safe_list_or (safe_value? h.verified_progress) hempty

/-- The status of the last record of a run. -/
def status_of (id : String) (s : Core) : Option CoreRunStatus :=
  (last id s.log).map RunRecord.status

/-- The status of a run that the policy ends; the exception of an abort leaves it RUNNING. -/
def Aborted.ends : Aborted → CoreRunStatus
  | .confirmed _ => .CANCELLED
  | .failed => .FAIL
  | .raised => .RUNNING

/-- What `cancel_worker` comes to. -/
def Aborted.answer : Aborted → Except ObserveError (Option RunBinding)
  | .confirmed binding => .ok (some binding)
  | .failed => .ok none
  | .raised => .error .adapter

theorem eval_cancel_worker (E : ObserveEnv) (id : String) (s : Core) :
    eval (cancel_worker E id) s = ({ s with aborts := s.aborts ++ [id] }, E.abort.answer) := by
  unfold cancel_worker
  rw [eval_bind_ok (eval_modify _ s)]
  cases E.abort with
  | confirmed binding => rfl
  | failed => rfl
  | raised => rfl

/-- The program ends the run by an abort, as the policy does. -/
def EndsByPolicy (E : ObserveEnv) (id : String) (x : Act RunRecord) (s : Core) : Prop :=
  ∃ s' out, eval x s = (s', out) ∧ status_of id s' = some E.abort.ends ∧
    ((∃ r', out = .ok r' ∧ r'.status = E.abort.ends ∧ r'.status ∈ CoreRunStatus.terminal) ∨
      out = .error .adapter ∧ E.abort.ends = .RUNNING)

theorem EndsByPolicy.after {E : ObserveEnv} {id : String} {s : Core} {α : Type} {x : Act α}
    {f : α → Act RunRecord} {s' : Core} {a : α} (hx : eval x s = (s', .ok a))
    (h : EndsByPolicy E id (f a) s') : EndsByPolicy E id (x >>= f) s := by
  obtain ⟨t, out, heval, hends⟩ := h
  exact ⟨t, out, (eval_bind_ok hx).trans heval, hends⟩

/-- What an escalation makes of a run. -/
structure Escalated (r r' : RunRecord) : Prop where
  identity : r'.identity = r.identity
  ending : r'.ending = r.ending
  policy : r'.policy = r.policy
  policy_state : r'.policy_state = r.policy_state
  verified_progress : r'.verified_progress = r.verified_progress
  goal_status : r.goal_status = "DRIFT" → r'.goal_status = "DRIFT"

theorem Escalated.refl (r : RunRecord) : Escalated r r :=
  ⟨rfl, rfl, rfl, rfl, rfl, fun h => h⟩

theorem Escalated.status {r r' : RunRecord} (h : Escalated r r') : r'.status = r.status :=
  congrArg RunRecord.Ending.status h.ending

namespace Stands

variable {E : ObserveEnv} {id : String} {r : RunRecord} {s : Core}

theorem status_of (h : Stands id r s) : CoreEngine.status_of id s = some r.status := by
  rw [CoreEngine.status_of, h.last]
  rfl

/-- The transition of a run that is RUNNING, after its timer is cleared. -/
theorem clear_transition (h : Stands id r s) (hrunning : r.status = .RUNNING)
    {status : CoreRunStatus} (hstatus : status ∈ CoreRunStatus.terminal)
    (binding : Option RunBinding) (outcome : Option AdapterOutcome) (reason : String) :
    ∃ r' s', eval (do
        clear_runtime_deadline id
        CoreEngine.transition E id status binding outcome reason) s = (s', .ok r') ∧
      r'.status = status ∧ RunRegistry.last id s'.log = some r' := by
  have hcleared : Stands id r { s with timers := s.timers.filter (· ≠ id) } := h.congr rfl
  have hne : status ≠ r.status := by
    rw [hrunning]
    rintro rfl
    revert hstatus
    decide
  obtain ⟨r', heval, hident, hr', -⟩ := hcleared.transition (E := E) (hrunning ▸ hstatus) hne
    binding outcome reason
  refine ⟨r', { s with timers := s.timers.filter (· ≠ id), log := s.log ++ [r'] }, ?_, hr',
    RunRegistry.last_append_identity h.last hident⟩
  rw [← heval]
  exact eval_bind_ok (eval_modify _ s)

/-- The worker is asked to stop, and the run ends. -/
theorem abort_and_end (h : Stands id r s) (hrunning : r.status = .RUNNING) (reason : String) :
    EndsByPolicy E id (CoreEngine.abort_and_end E id reason) s := by
  have hasked : Stands id r { s with aborts := s.aborts ++ [id] } := h.congr rfl
  have hasks := eval_cancel_worker E id s
  unfold EndsByPolicy CoreEngine.abort_and_end
  cases habort : E.abort with
  | raised =>
    rw [habort] at hasks
    refine ⟨{ s with aborts := s.aborts ++ [id] }, .error .adapter, ?_, ?_, .inr ⟨rfl, rfl⟩⟩
    · exact eval_bind_error hasks
    · rw [hasked.status_of, hrunning]
      rfl
  | failed =>
    rw [habort] at hasks
    obtain ⟨r', s', heval, hr', hlast⟩ := hasked.clear_transition (E := E) hrunning
      (show .FAIL ∈ CoreRunStatus.terminal by decide) none none "POLICY_ABORT_FAILED"
    refine ⟨s', .ok r', ?_, ?_, .inl ⟨r', rfl, hr', by rw [hr']; decide⟩⟩
    · rw [← heval]
      exact eval_bind_ok hasks
    · rw [CoreEngine.status_of, hlast, Option.map_some, hr']
      rfl
  | confirmed binding =>
    rw [habort] at hasks
    obtain ⟨r', s', heval, hr', hlast⟩ := hasked.clear_transition (E := E) hrunning
      (show .CANCELLED ∈ CoreRunStatus.terminal by decide) (some binding) none reason
    refine ⟨s', .ok r', ?_, ?_, .inl ⟨r', rfl, hr', by rw [hr']; decide⟩⟩
    · rw [← heval]
      exact eval_bind_ok hasks
    · rw [CoreEngine.status_of, hlast, Option.map_some, hr']
      rfl

/-- The escalation of a run that drifts leaves all but the record of it. -/
theorem escalate (h : Stands id r s) {maximum : Int}
    (hmaximum : int_of (some r.policy.max_context_resets.json) = .ok maximum) (reason : String) :
    ∃ r' s', eval (CoreEngine.escalate E id reason r) s = (s', .ok ()) ∧ Stands id r' s' ∧
      Escalated r r' := by
  unfold CoreEngine.escalate
  split
  · rename_i hreason
    rw [hmaximum]
    dsimp only
    split
    · have hgoal : SafeGoal { GoalUpdate.none with
          event_code := some "ESCALATION_REQUIRED"
          goal_status := some "DRIFT"
          escalation_reason := some reason
          escalation_package := some (escalation_package r reason) } := by
        have hsafe : safeText reason = true := by
          rw [hreason]
          decide +kernel
        constructor
        case event_code =>
          rintro t ⟨⟩
          decide +kernel
        case escalation_reason =>
          rintro t ⟨⟩
          exact hsafe
        case escalation_package =>
          rintro d ⟨⟩
          exact safe_escalation_package h.record hsafe
        all_goals exact fun _ h => by cases h
      obtain ⟨r', heval, hchanged, -, hstands⟩ := h.update_goal_state (E := E) { GoalUpdate.none with
          event_code := some "ESCALATION_REQUIRED"
          goal_status := some "DRIFT"
          escalation_reason := some reason
          escalation_package := some (escalation_package r reason) } (by rintro g ⟨⟩; decide)
      exact ⟨r', _, eval_bind_ok heval, hstands hgoal, hchanged.identity, hchanged.ending,
        hchanged.policy, hchanged.policy_state, hchanged.verified_progress, fun _ => hchanged.goal_status⟩
    · exact ⟨r, s, rfl, h, .refl r⟩
  · exact ⟨r, s, rfl, h, .refl r⟩

/-- The policy ends the run. -/
theorem end_for_policy (h : Stands id r s) (hrunning : r.status = .RUNNING) (maximum : Int)
    (hmaximum : int_of (some r.policy.max_context_resets.json) = .ok maximum) (reason : String) :
    EndsByPolicy E id (CoreEngine.end_for_policy E id reason) s := by
  obtain ⟨r', s', heval, hstands, hescalated⟩ := h.escalate (E := E) hmaximum reason
  unfold CoreEngine.end_for_policy
  refine .after h.require (.after heval ?_)
  exact hstands.abort_and_end (hescalated.status.trans hrunning) reason

theorem cancel_for_policy (h : Stands id r s) (hrunning : r.status = .RUNNING) {maximum : Int}
    (hmaximum : int_of (some r.policy.max_context_resets.json) = .ok maximum) :
    EndsByPolicy E id (CoreEngine.cancel_for_policy E id "RUNTIME_LIMIT" none) s := by
  have hargs : SafePolicyUpdate { PolicyUpdate.none with
      event_code := some "RUNTIME_LIMIT"
      cancel_reason := some (policy_reason "RUNTIME_LIMIT")
      policy_status := some "GUARDED" } := by
    constructor
    case event_code => rintro t ⟨⟩; decide +kernel
    case cancel_reason => rintro t ⟨⟩; decide +kernel
    case policy_status => rintro t ⟨⟩; decide +kernel
    all_goals exact fun _ h => by cases h
  obtain ⟨out, r', s', heval, hstands, halike, -⟩ :=
    h.update_policy (E := E) hargs rfl rfl rfl
  unfold CoreEngine.cancel_for_policy
  refine .after (eval_bind_ok heval) ?_
  refine hstands.end_for_policy (halike.status.trans hrunning) maximum ?_ _
  rw [halike.policy]
  exact hmaximum

end Stands

end CoreEngine

end Plachem
