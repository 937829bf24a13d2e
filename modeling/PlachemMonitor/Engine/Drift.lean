import PlachemMonitor.Engine.Applied

/-!
# Drift

How a run that is RUNNING takes an outcome with a checkpoint. A checkpoint is invalid, or it drifts,
or it is a step towards the goal; a run that has not drifted yet is only guarded
(`Stands.apply_first_drift`), the next drift ends it (`Stands.apply_next_drift`).

The parts of a record that the judgement looks at are as the engine writes them (`Formed`). That holds
of every new run and is kept by all updates.
-/

namespace Plachem

namespace CoreEngine

open Effect
open RegistryFile (safeText)
open RunRegistry (last SafeRecord SafeGoal SafePolicyUpdate SafeDict SafeValue)

/-- How often the run has drifted since its last step. -/
def drift_count_of (record : RunRecord) : Except ObserveError Int := do
  let goal_state ← goal_state_of record
  int_of (goal_state.get? "drift_count")

/-- The goal of the record is as the engine writes it. -/
structure Formed (r : RunRecord) : Prop where
  drift_count : ∃ count, drift_count_of r = .ok count ∧ 0 ≤ count
  verified_progress : ∀ normalized, ∃ verified,
    verified_with r.verified_progress normalized = .ok verified
  max_context_resets : ∃ maximum, int_of (some r.policy.max_context_resets.json) = .ok maximum

theorem Formed.of_alike {r r' : RunRecord} (h : Formed r) (halike : Alike r r') : Formed r' := by
  refine ⟨?_, ?_, ?_⟩
  · unfold drift_count_of goal_state_of
    rw [halike.policy_state]
    exact h.drift_count
  · rw [halike.verified_progress]
    exact h.verified_progress
  · rw [halike.policy]
    exact h.max_context_resets

/-! ## Checkpoints as they are judged -/

variable {ρ : Type}

section Checked

variable (engine : Engine ρ)

/-- The goal contract and the checkpoint as they are normalized. -/
def normalized_checkpoint (record : RunRecord) (checkpoint : Dict) : Except String (GoalContract × Checkpoint) := do
  let contract ← engine.normalize_goal_contract (some (goal_input record.goal_contract))
  let normalized ← normalize_progress_checkpoint checkpoint contract
  pure (contract, normalized)

/-- The checkpoint names another goal, or a scope that is not allowed. -/
def Astray (contract : GoalContract) (normalized : Checkpoint) : Prop :=
  normalized.goal_id ≠ contract.goal_id ∨ expands contract normalized.scope_delta = true

end Checked

variable {engine : Engine ρ} {r : RunRecord} {checkpoint : Dict} {contract : GoalContract}
  {normalized : Checkpoint}

theorem judge_invalid {message : String} (h : normalized_checkpoint engine r checkpoint = .error message) :
    judge engine r checkpoint = .error (.value message) := by
  unfold normalized_checkpoint at h
  unfold judge
  cases hcontract : engine.normalize_goal_contract (some (goal_input r.goal_contract)) with
  | error e =>
    rw [hcontract] at h
    cases h
    rfl
  | ok contract =>
    rw [hcontract] at h
    cases hn : normalize_progress_checkpoint checkpoint contract with
    | error e =>
      have h : (normalize_progress_checkpoint checkpoint contract >>= fun normalized =>
        pure (contract, normalized)) = .error message := h
      rw [hn] at h
      cases h
      show ((normalize_progress_checkpoint checkpoint contract).mapError ObserveError.value >>= _) = _
      rw [hn]
      rfl
    | ok normalized =>
      have h : (normalize_progress_checkpoint checkpoint contract >>= fun normalized =>
        pure (contract, normalized)) = .error message := h
      rw [hn] at h
      cases h

/-- What is judged of a checkpoint that is valid. -/
structure Judged (engine : Engine ρ) (r : RunRecord) (contract : GoalContract)
    (normalized : Checkpoint) (judgement : Judgement) : Prop where
  normalized_eq : judgement.normalized = normalized
  verified : verified_with r.verified_progress normalized = .ok judgement.verified
  drift_count : int_of (judgement.goal_state.get? "drift_count") = drift_count_of r
  astray : Astray contract normalized → judgement.event_code.isSome = true
  signed : ¬ Astray contract normalized →
    judgement.goal_state.get? "last_checkpoint_signature" =
      some (.str (signature engine.H normalized judgement.verified))
  repeated : ¬ Astray contract normalized → Dict.Eqv judgement.verified r.verified_progress →
    (∃ goal_state, goal_state_of r = .ok goal_state ∧
      goal_state.get? "last_checkpoint_signature" =
        some (.str (signature engine.H normalized judgement.verified))) →
    judgement.event_code.isSome = true

theorem judge_checked (hchecked : normalized_checkpoint engine r checkpoint = .ok (contract, normalized))
    (hr : Formed r) :
    ∃ judgement, judge engine r checkpoint = .ok judgement ∧
      Judged engine r contract normalized judgement := by
  obtain ⟨contract', hcontract, hchecked⟩ := bind_eq_ok.mp hchecked
  obtain ⟨normalized', hnormalized, hchecked⟩ := bind_eq_ok.mp hchecked
  obtain ⟨rfl, rfl⟩ := Prod.mk.inj (pure_eq_ok.mp hchecked)
  obtain ⟨count, hcount, -⟩ := hr.drift_count
  obtain ⟨goal_state, hgoal, -⟩ := bind_eq_ok.mp hcount
  obtain ⟨verified, hverified⟩ := hr.verified_progress normalized'
  have hdrift : drift_count_of r = int_of (goal_state.get? "drift_count") := bind_of_ok hgoal
  unfold judge
  rw [hcontract]
  show ∃ judgement, ((normalize_progress_checkpoint checkpoint contract').mapError
    ObserveError.value >>= _) = _ ∧ _
  rw [hnormalized]
  show ∃ judgement, (goal_state_of r >>= _) = _ ∧ _
  rw [bind_of_ok hgoal, bind_of_ok hverified]
  split
  · rename_i hgoal_id
    refine ⟨_, rfl, rfl, hverified, hdrift.symm, fun _ => rfl, fun h => ?_, fun h => ?_⟩
    · exact absurd (.inl hgoal_id) h
    · exact absurd (.inl hgoal_id) h
  split
  · rename_i hscope
    refine ⟨_, rfl, rfl, hverified, hdrift.symm, fun _ => rfl, fun h => ?_, fun h => ?_⟩
    · exact absurd (.inr hscope) h
    · exact absurd (.inr hscope) h
  · rename_i hgoal_id hscope
    refine ⟨_, rfl, rfl, hverified, ?_, fun h => absurd h ?_, fun _ => ?_, ?_⟩
    · rw [hdrift, Dict.get?_set_ne _ _ (by decide)]
    · exact not_or.mpr ⟨hgoal_id, hscope⟩
    · rw [Dict.get?_set_self]
      rfl
    · rintro - heqv ⟨goal_state', hgoal', hsigned⟩
      obtain rfl : goal_state = goal_state' := Except.ok.inj (hgoal.symm.trans hgoal')
      dsimp only
      rw [if_pos ⟨heqv, hsigned⟩]
      rfl

/-! ## A checkpoint that is judged again -/

theorem merged_congr {previous new previous' new' : List String}
    (h : ∀ t, t ∈ previous ++ new ↔ t ∈ previous' ++ new') :
    merged previous new = merged previous' new' := by
  have hperm : (previous ++ new).dedup.Perm (previous' ++ new').dedup := by
    rw [List.perm_ext_iff_of_nodup (List.nodup_dedup _) (List.nodup_dedup _)]
    intro t
    rw [List.mem_dedup, List.mem_dedup]
    exact h t
  refine List.Perm.eq_of_pairwise' (r := (· ≤ ·)) (List.pairwise_insertionSort _ _)
    (List.pairwise_insertionSort _ _) ?_
  exact (List.perm_insertionSort _ _).trans (hperm.trans (List.perm_insertionSort _ _).symm)

theorem mem_merged {previous new : List String} {t : String} :
    t ∈ merged previous new ↔ t ∈ previous ∨ t ∈ new := by
  rw [merged, List.mem_insertionSort, List.mem_dedup, List.mem_append]

theorem merged_again (previous new : List String) :
    merged (merged previous new) new = merged previous new := by
  refine merged_congr fun t => ?_
  rw [List.mem_append, List.mem_append, mem_merged, or_assoc, or_self]

theorem texts_of_strs (texts : List String) : texts_of (some (Value.strs texts).json) = .ok texts := by
  show (texts.map Json.str).mapM _ = _
  induction texts with
  | nil => rfl
  | cons t texts ih =>
    rw [List.map_cons, List.mapM_cons, ih]
    rfl

/-- The verified progress as the engine writes it. -/
def progress (completed artifacts evidence scope : List String) : Dict :=
  Dict.ofList [
    ("completed_conditions", .strs completed),
    ("artifacts", .strs artifacts),
    ("evidence", .strs evidence),
    ("scope", .strs scope)] (by simp)

theorem verified_with_progress (completed artifacts evidence scope : List String)
    (normalized : Checkpoint) :
    verified_with (progress completed artifacts evidence scope) normalized =
      .ok (progress (merged completed normalized.completed_conditions)
        (merged artifacts normalized.artifact_delta) (merged evidence normalized.evidence_delta)
        (merged scope normalized.scope_delta)) := by
  have hcompleted : texts_of ((progress completed artifacts evidence scope).get?
      "completed_conditions") = .ok completed := texts_of_strs completed
  have hartifacts : texts_of ((progress completed artifacts evidence scope).get? "artifacts") =
      .ok artifacts := texts_of_strs artifacts
  have hevidence : texts_of ((progress completed artifacts evidence scope).get? "evidence") =
      .ok evidence := texts_of_strs evidence
  have hscope : texts_of ((progress completed artifacts evidence scope).get? "scope") =
      .ok scope := texts_of_strs scope
  unfold verified_with
  rw [bind_of_ok hcompleted, bind_of_ok hartifacts, bind_of_ok hevidence, bind_of_ok hscope]
  rfl

theorem verified_progress_eq {previous verified : Dict}
    (h : verified_with previous normalized = .ok verified) :
    ∃ completed artifacts evidence scope, verified =
      progress (merged completed normalized.completed_conditions)
        (merged artifacts normalized.artifact_delta) (merged evidence normalized.evidence_delta)
        (merged scope normalized.scope_delta) := by
  obtain ⟨completed, -, h⟩ := bind_eq_ok.mp h
  obtain ⟨artifacts, -, h⟩ := bind_eq_ok.mp h
  obtain ⟨evidence, -, h⟩ := bind_eq_ok.mp h
  obtain ⟨scope, -, h⟩ := bind_eq_ok.mp h
  exact ⟨completed, artifacts, evidence, scope, (pure_eq_ok.mp h).symm⟩

/-- A checkpoint that is verified again adds nothing. -/
theorem verified_again {previous verified : Dict}
    (h : verified_with previous normalized = .ok verified) :
    verified_with verified normalized = .ok verified := by
  obtain ⟨completed, artifacts, evidence, scope, rfl⟩ := verified_progress_eq h
  rw [verified_with_progress, merged_again, merged_again, merged_again, merged_again]

theorem goal_state_of_set {d goal_state : Dict} (h : r.policy_state = d.set "goal" (.ofDict goal_state)) :
    goal_state_of r = .ok goal_state := by
  unfold goal_state_of
  rw [h, Dict.value?_set_self]
  rfl

/-- What the updates after a drift leave of a run. -/
structure Guarded (judgement : Judgement) (count : Int) (r r' : RunRecord) : Prop where
  identity : r'.identity = r.identity
  ending : r'.ending = r.ending
  policy : r'.policy = r.policy
  verified_progress : r'.verified_progress = judgement.verified
  goal_state : ∃ goal_state, goal_state_of r' = .ok goal_state ∧
    goal_state.get? "drift_count" = some (.int count) ∧
    goal_state.get? "last_checkpoint_signature" =
      judgement.goal_state.get? "last_checkpoint_signature"

namespace Guarded

variable {judgement : Judgement} {count : Int} {r' : RunRecord}

theorem status (h : Guarded judgement count r r') : r'.status = r.status :=
  congrArg RunRecord.Ending.status h.ending

theorem drift_count (h : Guarded judgement count r r') : drift_count_of r' = .ok count := by
  obtain ⟨goal_state, hgoal, hcount, -⟩ := h.goal_state
  unfold drift_count_of
  rw [bind_of_ok hgoal, hcount]
  rfl

theorem normalized_checkpoint (h : Guarded judgement count r r') (checkpoint : Dict) :
    CoreEngine.normalized_checkpoint engine r' checkpoint =
      CoreEngine.normalized_checkpoint engine r checkpoint := by
  have hcontract : r'.goal_contract = r.goal_contract :=
    congrArg RunRecord.Identity.goal_contract h.identity
  unfold CoreEngine.normalized_checkpoint
  rw [hcontract]

theorem formed (h : Guarded judgement count r r') (hr : Formed r) (hcount : 0 ≤ count)
    (hjudged : Judged engine r contract normalized judgement) : Formed r' := by
  refine ⟨⟨count, h.drift_count, hcount⟩, fun normalized' => ?_, ?_⟩
  · obtain ⟨completed, artifacts, evidence, scope, hverified⟩ :=
      verified_progress_eq hjudged.verified
    rw [h.verified_progress, hverified]
    exact ⟨_, verified_with_progress _ _ _ _ _⟩
  · rw [h.policy]
    exact hr.max_context_resets

/-- A checkpoint that drifts does so again. -/
theorem judge_again (h : Guarded judgement count r r') (hr' : Formed r')
    (hchecked : CoreEngine.normalized_checkpoint engine r checkpoint = .ok (contract, normalized))
    (hjudged : Judged engine r contract normalized judgement) :
    ∃ judgement', judge engine r' checkpoint = .ok judgement' ∧
      Judged engine r' contract normalized judgement' ∧ judgement'.event_code.isSome = true := by
  rw [← h.normalized_checkpoint] at hchecked
  obtain ⟨judgement', hjudge, hjudged'⟩ := judge_checked hchecked hr'
  refine ⟨judgement', hjudge, hjudged', ?_⟩
  by_cases hastray : Astray contract normalized
  · exact hjudged'.astray hastray
  · have hverified : judgement'.verified = judgement.verified := by
      have hagain := hjudged'.verified
      rw [h.verified_progress, verified_again hjudged.verified] at hagain
      exact (Except.ok.inj hagain).symm
    obtain ⟨goal_state, hgoal, -, hsignature⟩ := h.goal_state
    refine hjudged'.repeated hastray ?_ ⟨goal_state, hgoal, ?_⟩
    · rw [hverified, h.verified_progress]
      exact Json.Eqv.refl _
    · rw [hsignature, hjudged.signed hastray, hverified]

end Guarded

/-! ## A checkpoint of a run that is RUNNING -/

theorem judge_event_code {judgement : Judgement} (h : judge engine r checkpoint = .ok judgement) :
    ∀ e ∈ judgement.event_code,
      e ∈ ["OBJECTIVE_REPLACEMENT", "SCOPE_EXPANSION", "NO_PROGRESS"] := by
  obtain ⟨contract, -, h⟩ := bind_eq_ok.mp h
  obtain ⟨normalized, -, h⟩ := bind_eq_ok.mp h
  obtain ⟨goal_state, -, h⟩ := bind_eq_ok.mp h
  obtain ⟨verified, -, h⟩ := bind_eq_ok.mp h
  split at h
  · obtain rfl := pure_eq_ok.mp h
    rintro e ⟨⟩
    decide
  · split at h
    · obtain rfl := pure_eq_ok.mp h
      rintro e ⟨⟩
      decide
    · obtain rfl := pure_eq_ok.mp h
      dsimp only
      split
      · rintro e ⟨⟩
        decide
      · rintro e ⟨⟩

theorem safe_checkpoint_update (hhex : HexDigest engine.H) (hr : SafeRecord r)
    {judgement : Judgement} (hjudge : judge engine r checkpoint = .ok judgement)
    (hgoal : safeText judgement.normalized.goal_id = true) (count : Int) (goal_status : String)
    (ready : Bool) {event_code : Option String}
    (hevent : ∀ e ∈ event_code, e ∈ ["OBJECTIVE_REPLACEMENT", "SCOPE_EXPANSION", "NO_PROGRESS"]) :
    SafeGoal (checkpoint_update judgement count goal_status ready event_code) := by
  obtain ⟨hcodes, hverified, hstate⟩ := safe_judge hhex hr hjudge
  have htexts : ∀ t ∈ ["OBJECTIVE_REPLACEMENT", "SCOPE_EXPANSION", "NO_PROGRESS"],
      safeText t = true := by decide +kernel
  have hdetails : SafeDict (Dict.ofList [("occurrence", .int count)] (by simp)) := by
    have hkey : safeText "occurrence" = true := by decide +kernel
    rw [RunRegistry.safeDict_ofList, List.forall_mem_singleton]
    exact ⟨hkey, RunRegistry.safe_int _⟩
  constructor
  case checkpoint =>
    rintro d ⟨⟩
    exact safe_toDict hcodes hgoal
  case verified_progress =>
    rintro d ⟨⟩
    exact hverified
  case goal_state =>
    rintro d ⟨⟩
    exact safe_set hstate (RunRegistry.safe_int _) (by simp)
  case event_code => exact fun t ht => htexts t (hevent t ht)
  case event_details =>
    intro d hd
    obtain ⟨e, -, rfl⟩ := Option.map_eq_some_iff.mp hd
    exact hdetails
  case escalation_reason => exact fun _ h => by cases h
  case escalation_package => exact fun _ h => by cases h

/-- The registry cannot be read. -/
def Broken (id : String) (s : Core) : Prop := ∃ e, RunRegistry.require s.log id = .error e

theorem Broken.require {id : String} {s : Core} (h : Broken id s) :
    ∃ e, eval (CoreEngine.require id) s = (s, .error (.registry e)) := by
  obtain ⟨e, he⟩ := h
  exact ⟨e, eval_require_error he⟩

theorem broken_of_mem {id : String} {s : Core} (hr : r ∈ s.log) (hbroken : ¬ SafeRecord r) :
    Broken id s := by
  cases hrequire : RunRegistry.require s.log id with
  | error e => exact ⟨e, hrequire⟩
  | ok r' =>
    obtain ⟨_, hget, -⟩ := bind_eq_ok.mp hrequire
    exact absurd (RunRegistry.safe_of_readable (RunRegistry.get_readable hget r hr)) hbroken

theorem Broken.update_goal_state {E : ObserveEnv} {id : String} {s : Core} (h : Broken id s)
    (args : GoalUpdate) :
    ∃ e, eval (CoreEngine.update_goal_state E id args) s = (s, .error (.registry e)) := by
  obtain ⟨e, he⟩ := h
  exact ⟨e, eval_mutate_error (by rw [RunRegistry.update_goal_state, he]; rfl)⟩

theorem Broken.finish_outcome {E : ObserveEnv} {id : String} {s : Core} (h : Broken id s)
    (outcome : AdapterOutcome) :
    ∃ e, eval (CoreEngine.finish_outcome E id outcome) s =
      ({ s with timers := s.timers.filter (· ≠ id) }, .error (.registry e)) := by
  obtain ⟨e, he⟩ := h
  refine ⟨e, ?_⟩
  unfold CoreEngine.finish_outcome clear_runtime_deadline
  rw [eval_bind_ok (eval_modify _ s)]
  exact eval_mutate_error (by rw [RunRegistry.transition, he]; rfl)

section Observed

variable {x : Act RunRecord} {s s' : Core}

/-- `except ValueError` around the observation. -/
theorem eval_observed_ok (h : eval x s = (s', .ok r)) :
    eval (tryCatch (some <$> x) fun e => if e.is_value then pure none else throw e) s =
      (s', .ok (some r)) := by
  refine eval_catch_ok ?_
  rw [← bind_pure_comp]
  exact eval_bind_ok h

theorem eval_observed_value {e : ObserveError} (h : eval x s = (s', .error e))
    (he : e.is_value = true) :
    eval (tryCatch (some <$> x) fun e => if e.is_value then pure none else throw e) s =
      (s', .ok none) := by
  rw [eval_catch_error (show eval (some <$> x) s = (s', .error e) from ?_)]
  · rw [if_pos he]
    rfl
  · rw [← bind_pure_comp]
    exact eval_bind_error h

theorem eval_observed_error {e : ObserveError} (h : eval x s = (s', .error e))
    (he : e.is_value = false) :
    eval (tryCatch (some <$> x) fun e => if e.is_value then pure none else throw e) s =
      (s', .error e) := by
  rw [eval_catch_error (show eval (some <$> x) s = (s', .error e) from ?_)]
  · rw [he]
    rfl
  · rw [← bind_pure_comp]
    exact eval_bind_error h

end Observed

theorem mem_toDict_goal_id (c : Checkpoint) (h : SafeDict c.toDict) : safeText c.goal_id = true := by
  have hget : c.toDict.get? "goal_id" = some (.str c.goal_id) := rfl
  exact safe_get? h _ hget

namespace Stands

variable {E : ObserveEnv} {id : String} {s : Core} {judgement : Judgement} {count : Int}

/-- The update that records a judgement. -/
theorem record_judgement (h : Stands id r s) (hhex : HexDigest engine.H)
    (hjudge : judge engine r checkpoint = .ok judgement) (count : Int) (goal_status : String)
    (hstatus : goal_status ∈ ["NORMAL", "GUARDED", "DRIFT"]) (ready : Bool)
    (event_code : Option String)
    (hevent : ∀ e ∈ event_code, e ∈ ["OBJECTIVE_REPLACEMENT", "SCOPE_EXPANSION", "NO_PROGRESS"]) :
    ∃ r', eval (CoreEngine.update_goal_state E id
        (checkpoint_update judgement count goal_status ready event_code)) s =
          ({ s with log := s.log ++ [r'] }, .ok r') ∧
      Guarded judgement count r r' ∧ r'.goal_status = goal_status ∧
      RunRegistry.last id (s.log ++ [r']) = some r' ∧
      (safeText judgement.normalized.goal_id = true → Stands id r' { s with log := s.log ++ [r'] }) ∧
      (safeText judgement.normalized.goal_id = false → Broken id { s with log := s.log ++ [r'] }) := by
  obtain ⟨r', heval, hchanged, hlast, hstands⟩ := h.update_goal_state (E := E)
    (checkpoint_update judgement count goal_status ready event_code)
    (by rintro g ⟨⟩; exact hstatus)
  refine ⟨r', heval, ⟨hchanged.identity, hchanged.ending, hchanged.policy,
    hchanged.verified_progress, ?_⟩, hchanged.goal_status, hlast, fun hgoal => ?_, fun hgoal => ?_⟩
  · refine ⟨_, goal_state_of_set hchanged.policy_state, ?_, ?_⟩
    · rw [Dict.get?_set_self]
      rfl
    · exact Dict.get?_set_ne _ _ (by decide)
  · exact hstands (safe_checkpoint_update hhex h.record hjudge hgoal count goal_status ready hevent)
  · refine broken_of_mem (r := r') (List.mem_append_right _ (List.mem_singleton_self _)) fun hsafe => ?_
    have hgoal' := mem_toDict_goal_id _ (hsafe.progress_checkpoint _ hchanged.progress_checkpoint)
    rw [hgoal] at hgoal'
    cases hgoal'

/-- A checkpoint that drifts is recorded; what comes then is said by the number of drifts. -/
theorem observe_drift (h : Stands id r s) (hlive : r.status ∉ CoreRunStatus.terminal)
    (hhex : HexDigest engine.H) (hjudge : judge engine r checkpoint = .ok judgement) {e : String}
    (hevent : judgement.event_code = some e)
    (hcount : int_of (judgement.goal_state.get? "drift_count") = .ok count) :
    ∃ r', eval (observe_progress_checkpoint E engine id checkpoint) s =
        eval (if 2 ≤ count + 1 then do
            discard <| CoreEngine.require id
            CoreEngine.cancel_for_policy E id e (some "LOCAL_LLM_GOAL_DRIFT")
          else CoreEngine.require id) { s with log := s.log ++ [r'] } ∧
      Guarded judgement (count + 1) r r' ∧
      r'.goal_status = (if count + 1 = 1 then "GUARDED" else "DRIFT") ∧
      RunRegistry.last id (s.log ++ [r']) = some r' ∧
      (safeText judgement.normalized.goal_id = true → Stands id r' { s with log := s.log ++ [r'] }) ∧
      (safeText judgement.normalized.goal_id = false → Broken id { s with log := s.log ++ [r'] }) := by
  have hguarded : (if count + 1 = 1 then "GUARDED" else "DRIFT") ∈ ["GUARDED", "DRIFT"] := by
    split <;> decide
  obtain ⟨r', heval, hrecorded, hstatus, hlast, hstands, hbroken⟩ :=
    h.record_judgement (E := E) hhex hjudge (count + 1)
      (if count + 1 = 1 then "GUARDED" else "DRIFT") (List.mem_cons_of_mem _ hguarded) true (some e)
      (by rw [← hevent]; exact judge_event_code hjudge)
  refine ⟨r', ?_, hrecorded, hstatus, hlast, hstands, hbroken⟩
  unfold observe_progress_checkpoint
  rw [eval_bind_ok h.require, if_neg hlive, hjudge]
  dsimp only
  rw [hevent]
  dsimp only
  rw [hcount]
  exact eval_bind_ok (eval_bind_ok heval)

/-- An invalid checkpoint blocks the run. -/
theorem apply_invalid (h : Stands id r s) (hrunning : r.status = .RUNNING) {message : String}
    (hchecked : normalized_checkpoint engine r checkpoint = .error message)
    (outcome : AdapterOutcome) :
    CoreEngine.status_of id (eval (apply_checkpoint E engine id outcome checkpoint) s).1 =
      some .BLOCKED := by
  have hlive : r.status ∉ CoreRunStatus.terminal := by
    rw [hrunning]
    decide
  have hobserve : eval (observe_progress_checkpoint E engine id checkpoint) s =
      (s, .error (.value message)) := by
    unfold observe_progress_checkpoint
    rw [eval_bind_ok h.require, if_neg hlive, judge_invalid hchecked]
    rfl
  have hgoal : SafeGoal { GoalUpdate.none with
      event_code := some "GOAL_CHECKPOINT_INVALID"
      goal_status := some "DRIFT" } := by
    constructor
    case event_code => rintro t ⟨⟩; decide +kernel
    all_goals exact fun _ h => by cases h
  obtain ⟨r₁, heval, hchanged, -, hstands⟩ := h.update_goal_state (E := E)
    { GoalUpdate.none with
      event_code := some "GOAL_CHECKPOINT_INVALID"
      goal_status := some "DRIFT" } (by rintro g ⟨⟩; decide)
  obtain ⟨r₂, s', hclear, hstatus, hlast⟩ := (hstands hgoal).clear_transition (E := E)
    (hchanged.status.trans hrunning) (show .BLOCKED ∈ CoreRunStatus.terminal by decide) none none
    "GOAL_CHECKPOINT_INVALID"
  unfold apply_checkpoint
  rw [eval_bind_ok (eval_observed_value hobserve rfl)]
  dsimp only
  rw [eval_bind_ok (eval_bind_ok heval), hclear, CoreEngine.status_of, hlast, Option.map_some, hstatus]

/-- A goal id that is no line breaks the registry. -/
theorem apply_broken (h : Stands id r s) (hrunning : r.status = .RUNNING)
    (hhex : HexDigest engine.H) (hjudge : judge engine r checkpoint = .ok judgement)
    (hcount : int_of (judgement.goal_state.get? "drift_count") = .ok count)
    (hgoal : safeText judgement.normalized.goal_id = false) (outcome : AdapterOutcome) :
    Broken id (eval (apply_checkpoint E engine id outcome checkpoint) s).1 ∧
      CoreEngine.status_of id (eval (apply_checkpoint E engine id outcome checkpoint) s).1 =
        some .RUNNING := by
  have hlive : r.status ∉ CoreRunStatus.terminal := by
    rw [hrunning]
    decide
  cases hevent : judgement.event_code with
  | some e =>
    obtain ⟨r', heval, hguarded, -, hlast, -, hbroken⟩ :=
      h.observe_drift (E := E) hlive hhex hjudge hevent hcount
    have hs' := hbroken hgoal
    obtain ⟨error, hrequire⟩ := hs'.require
    have hobserve : eval (observe_progress_checkpoint E engine id checkpoint) s =
        ({ s with log := s.log ++ [r'] }, .error (.registry error)) := by
      rw [heval]
      split
      · exact eval_bind_error (eval_bind_error hrequire)
      · exact hrequire
    obtain ⟨error', hupdate⟩ := hs'.update_goal_state (E := E) { GoalUpdate.none with
      event_code := some "GOAL_CHECKPOINT_INVALID"
      goal_status := some "DRIFT" }
    have hresult : eval (apply_checkpoint E engine id outcome checkpoint) s =
        ({ s with log := s.log ++ [r'] }, .error (.registry error')) := by
      unfold apply_checkpoint
      rw [eval_bind_ok (eval_observed_value hobserve rfl)]
      exact eval_bind_error (eval_bind_error hupdate)
    rw [hresult]
    refine ⟨hs', ?_⟩
    rw [CoreEngine.status_of, hlast, Option.map_some, hguarded.status, hrunning]
  | none =>
    obtain ⟨r', heval, hguarded, hstatus, hlast, -, hbroken⟩ :=
      h.record_judgement (E := E) hhex hjudge 0 "NORMAL" (by decide) false
        none (fun _ h => by cases h)
    have hs' := hbroken hgoal
    have hobserve : eval (observe_progress_checkpoint E engine id checkpoint) s =
        ({ s with log := s.log ++ [r'] }, .ok r') := by
      unfold observe_progress_checkpoint
      rw [eval_bind_ok h.require, if_neg hlive, hjudge]
      dsimp only
      rw [hevent]
      exact heval
    have hrunning' : r'.status = .RUNNING := hguarded.status.trans hrunning
    obtain ⟨error, hfinish⟩ := hs'.finish_outcome (E := E) outcome
    have hresult : eval (apply_checkpoint E engine id outcome checkpoint) s =
        ({ s with log := s.log ++ [r'], timers := s.timers.filter (· ≠ id) },
          .error (.registry error)) := by
      unfold apply_checkpoint
      rw [eval_bind_ok (eval_observed_ok hobserve)]
      dsimp only
      rw [hrunning', hstatus, if_neg (by decide), if_neg (by decide)]
      exact hfinish
    rw [hresult]
    refine ⟨hs', ?_⟩
    rw [CoreEngine.status_of, hlast, Option.map_some, hrunning']

/-- A checkpoint that drifts for the first time guards the run, which goes on. -/
theorem apply_first_drift (h : Stands id r s) (hrunning : r.status = .RUNNING)
    (hhex : HexDigest engine.H) (hjudge : judge engine r checkpoint = .ok judgement)
    (hevent : judgement.event_code.isSome = true)
    (hcount : int_of (judgement.goal_state.get? "drift_count") = .ok count) (hfirst : count + 1 < 2)
    (hgoal : safeText judgement.normalized.goal_id = true) (outcome : AdapterOutcome) :
    ∃ r' s', eval (apply_checkpoint E engine id outcome checkpoint) s = (s', .ok r') ∧
      Stands id r' s' ∧ Guarded judgement (count + 1) r r' := by
  have hlive : r.status ∉ CoreRunStatus.terminal := by
    rw [hrunning]
    decide
  obtain ⟨e, hevent⟩ := Option.isSome_iff_exists.mp hevent
  obtain ⟨r₁, heval, hguarded, hstatus, -, hstands, -⟩ :=
    h.observe_drift (E := E) hlive hhex hjudge hevent hcount
  have hstands₁ := hstands hgoal
  have hguards : r₁.goal_status ∈ ["GUARDED", "DRIFT"] := by
    rw [hstatus]
    split <;> decide
  rw [if_neg (not_le.mpr hfirst), hstands₁.require] at heval
  obtain ⟨goal_state, hstate, hdrift, hsignature⟩ := hguarded.goal_state
  have hsafe : SafeGoal { GoalUpdate.none with
      goal_state := some (goal_state.set "openclaw_completed" (.bool true)) } := by
    constructor
    case goal_state =>
      rintro d ⟨⟩
      exact safe_set (safe_goal_state hstands₁.record.policy_state hstate) (RunRegistry.safe_bool _)
        (by simp)
    all_goals exact fun _ h => by cases h
  obtain ⟨r₂, hupdate, hchanged, -, hstands₂⟩ := hstands₁.update_goal_state (E := E)
    { GoalUpdate.none with
      goal_state := some (goal_state.set "openclaw_completed" (.bool true)) }
    (fun _ h => by cases h)
  have hlast : Stands id r₂ { s with
      log := s.log ++ [r₁] ++ [r₂], timers := s.timers.filter (· ≠ id) } :=
    (hstands₂ hsafe).congr rfl
  refine ⟨r₂, _, ?_, hlast, ?_⟩
  · unfold apply_checkpoint
    rw [eval_bind_ok (eval_observed_ok heval)]
    dsimp only
    rw [hguarded.status, hrunning, if_neg (by decide), if_pos hguards, hstate]
    dsimp only
    rw [eval_bind_ok (eval_bind_ok hupdate)]
    unfold clear_runtime_deadline
    exact (eval_bind_ok (eval_modify _ _)).trans hlast.require
  · refine ⟨hchanged.identity.trans hguarded.identity, hchanged.ending.trans hguarded.ending,
      hchanged.policy.trans hguarded.policy,
      hchanged.verified_progress.trans hguarded.verified_progress,
      _, goal_state_of_set hchanged.policy_state, ?_, ?_⟩
    · rw [Dict.get?_set_ne _ _ (by decide), hdrift]
    · rw [Dict.get?_set_ne _ _ (by decide), hsignature]

/-- The next drift ends it, as far as the worker can be asked to stop. -/
theorem apply_next_drift (h : Stands id r s) (hrunning : r.status = .RUNNING)
    (hhex : HexDigest engine.H) (hjudge : judge engine r checkpoint = .ok judgement)
    (hevent : judgement.event_code.isSome = true)
    (hcount : int_of (judgement.goal_state.get? "drift_count") = .ok count) (hnext : 2 ≤ count + 1)
    (hgoal : safeText judgement.normalized.goal_id = true) {maximum : Int}
    (hmaximum : int_of (some r.policy.max_context_resets.json) = .ok maximum)
    (outcome : AdapterOutcome) :
    CoreEngine.status_of id (eval (apply_checkpoint E engine id outcome checkpoint) s).1 =
      some E.abort.ends := by
  have hlive : r.status ∉ CoreRunStatus.terminal := by
    rw [hrunning]
    decide
  obtain ⟨e, hevent⟩ := Option.isSome_iff_exists.mp hevent
  obtain ⟨r₁, heval, hguarded, -, -, hstands, -⟩ :=
    h.observe_drift (E := E) hlive hhex hjudge hevent hcount
  have hstands₁ := hstands hgoal
  obtain ⟨s', out, hend, hstatus, hout⟩ := hstands₁.end_for_policy (E := E)
    (hguarded.status.trans hrunning) maximum (by rw [hguarded.policy]; exact hmaximum)
    "LOCAL_LLM_GOAL_DRIFT"
  rw [if_pos hnext, eval_bind_ok (eval_bind_ok hstands₁.require)] at heval
  have hobserve : eval (observe_progress_checkpoint E engine id checkpoint) s = (s', out) :=
    heval.trans hend
  unfold apply_checkpoint
  rcases hout with ⟨r', rfl, -, hterm⟩ | ⟨rfl, -⟩
  · rw [eval_bind_ok (eval_observed_ok hobserve)]
    dsimp only
    rw [if_pos hterm]
    exact hstatus
  · rw [eval_bind_error (eval_observed_error hobserve rfl)]
    exact hstatus

/-- The outcome is recorded. An outcome that is no end is refused. -/
theorem finish_outcome (h : Stands id r s) (hrunning : r.status = .RUNNING)
    {outcome : AdapterOutcome} (houtcome : outcome.status ≠ .RUNNING) :
    CoreEngine.status_of id (eval (CoreEngine.finish_outcome E id outcome) s).1 =
      some (if outcome.status ∈ CoreRunStatus.terminal then outcome.status else .RUNNING) := by
  unfold CoreEngine.finish_outcome
  by_cases hterm : outcome.status ∈ CoreRunStatus.terminal
  · obtain ⟨r', s', heval, hstatus, hlast⟩ := h.clear_transition (E := E) hrunning hterm none
      (some outcome) ""
    rw [heval, if_pos hterm, CoreEngine.status_of, hlast, Option.map_some, hstatus]
  · have hqueued : outcome.status = .QUEUED := by
      cases hst : outcome.status with
      | QUEUED => rfl
      | RUNNING => exact absurd hst houtcome
      | PASS | FAIL | BLOCKED | TIMEOUT | CANCELLED => exact absurd (by rw [hst]; decide) hterm
    have hcleared : Stands id r { s with timers := s.timers.filter (· ≠ id) } := h.congr rfl
    have hrefused : ∃ e, RunRegistry.transition s.log id .QUEUED none (some outcome) ""
        (E.now s.log.length) = .error e := by
      rw [RunRegistry.transition, bind_of_ok h.registry_require, hrunning]
      exact ⟨_, rfl⟩
    obtain ⟨e, he⟩ := hrefused
    unfold clear_runtime_deadline
    rw [eval_bind_ok (eval_modify _ s), hqueued, if_neg (by decide)]
    unfold CoreEngine.transition
    rw [eval_mutate_error (e := e) he, hcleared.status_of, hrunning]

/-- A step towards the goal lets the outcome stand. -/
theorem apply_step (h : Stands id r s) (hrunning : r.status = .RUNNING)
    (hhex : HexDigest engine.H) (hjudge : judge engine r checkpoint = .ok judgement)
    (hevent : judgement.event_code = none) (hgoal : safeText judgement.normalized.goal_id = true)
    {outcome : AdapterOutcome} (houtcome : outcome.status ≠ .RUNNING) :
    CoreEngine.status_of id (eval (apply_checkpoint E engine id outcome checkpoint) s).1 =
      some (if outcome.status ∈ CoreRunStatus.terminal then outcome.status else .RUNNING) := by
  have hlive : r.status ∉ CoreRunStatus.terminal := by
    rw [hrunning]
    decide
  obtain ⟨r', heval, hguarded, hstatus, -, hstands, -⟩ :=
    h.record_judgement (E := E) hhex hjudge 0 "NORMAL" (by decide) false
      none (fun _ h => by cases h)
  have hobserve : eval (observe_progress_checkpoint E engine id checkpoint) s =
      ({ s with log := s.log ++ [r'] }, .ok r') := by
    unfold observe_progress_checkpoint
    rw [eval_bind_ok h.require, if_neg hlive, hjudge]
    dsimp only
    rw [hevent]
    exact heval
  have hrunning' : r'.status = .RUNNING := hguarded.status.trans hrunning
  unfold apply_checkpoint
  rw [eval_bind_ok (eval_observed_ok hobserve)]
  dsimp only
  rw [hrunning', hstatus, if_neg (by decide), if_neg (by decide)]
  exact (hstands hgoal).finish_outcome hrunning' houtcome

/-- A timeout that is no window ends the run, as far as the worker can be asked to stop. -/
theorem apply_timeout (h : Stands id r s) (hrunning : r.status = .RUNNING)
    {outcome : AdapterOutcome} (houtcome : outcome.status = .TIMEOUT) :
    CoreEngine.status_of id (eval (apply_adapter_outcome E engine id outcome) s).1 =
      some (if outcome.reason = "OPENCLAW_TERMINAL_TIMEOUT" ∨ E.abort.ends ≠ .RUNNING
        then .TIMEOUT else .RUNNING) := by
  have hend : ∀ {r' : RunRecord} {t : Core}, Stands id r' t → r'.status = .RUNNING →
      CoreEngine.status_of id (eval (do
        clear_runtime_deadline id
        CoreEngine.transition E id .TIMEOUT none (some outcome) "") t).1 = some .TIMEOUT := by
    intro r' t ht hr'
    obtain ⟨r'', s', heval, hstatus, hlast⟩ := ht.clear_transition (E := E) hr'
      (show .TIMEOUT ∈ CoreRunStatus.terminal by decide) none (some outcome) ""
    rw [heval, CoreEngine.status_of, hlast, Option.map_some, hstatus]
  have hasked : Stands id r { s with aborts := s.aborts ++ [id] } := h.congr rfl
  have hasks := eval_cancel_worker E id s
  unfold apply_adapter_outcome
  rw [houtcome, if_neg (by decide), if_pos rfl]
  by_cases hreason : outcome.reason = "OPENCLAW_TERMINAL_TIMEOUT"
  · rw [if_neg (not_not.mpr hreason), if_pos (Or.inl hreason)]
    exact hend h hrunning
  · rw [if_pos hreason]
    cases habort : E.abort with
    | raised =>
      rw [habort] at hasks
      have hnot : ¬ (outcome.reason = "OPENCLAW_TERMINAL_TIMEOUT" ∨
          Aborted.raised.ends ≠ CoreRunStatus.RUNNING) := not_or.mpr ⟨hreason, not_not.mpr rfl⟩
      rw [if_neg hnot, eval_bind_error hasks, hasked.status_of, hrunning]
    | failed =>
      rw [habort] at hasks
      have hpos : outcome.reason = "OPENCLAW_TERMINAL_TIMEOUT" ∨
          Aborted.failed.ends ≠ CoreRunStatus.RUNNING := .inr (by decide)
      have hargs : SafePolicyUpdate { PolicyUpdate.none with
          event_code := some "TIMEOUT_ABORT_FAILED"
          cancel_reason := some "TIMEOUT_ABORT_FAILED"
          policy_status := some "GUARDED" } := by
        constructor
        case event_code => rintro t ⟨⟩; decide +kernel
        case cancel_reason => rintro t ⟨⟩; decide +kernel
        case policy_status => rintro t ⟨⟩; decide +kernel
        all_goals exact fun _ h => by cases h
      obtain ⟨out, r', s', heval, hstands, halike, -⟩ :=
        hasked.update_policy (E := E) hargs rfl rfl rfl
      rw [if_pos hpos, eval_bind_ok hasks, if_pos Option.isNone_none, eval_bind_ok (eval_bind_ok heval)]
      exact hend hstands (halike.status.trans hrunning)
    | confirmed binding =>
      rw [habort] at hasks
      have hpos : outcome.reason = "OPENCLAW_TERMINAL_TIMEOUT" ∨
          (Aborted.confirmed binding).ends ≠ CoreRunStatus.RUNNING := .inr fun h => by cases h
      rw [if_pos hpos, eval_bind_ok hasks, if_neg (by simp)]
      exact hend hasked hrunning

end Stands

end CoreEngine

end Plachem
