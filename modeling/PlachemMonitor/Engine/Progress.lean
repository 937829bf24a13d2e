import PlachemMonitor.Engine.Contracts
import PlachemMonitor.Engine.Drift

/-!
# Verified progress

What `observe_progress_checkpoint` records as verified over a run of the registry (`observing`): the
checkpoints come between any other mutations, none of which says what is verified.

The union with what was verified before is recorded whatever the checkpoint is judged to be. So the
progress stays inside the goal contract (`Within`) as long as no checkpoint strays that would add to it
(`progress_within`).
-/

namespace Plachem

namespace Mutation

/-- The mutation neither makes a run nor says what is verified. -/
def IsPlain : Mutation → Bool
  | create .. => false
  | update_goal_state _ args _ _ => args.verified_progress.isNone
  | transition .. | reconcile_abort_observation .. | update_policy .. => true

/-- The mutation records this as what is verified of the run. -/
def Verifies (id : String) (verified : Dict) : Mutation → Prop
  | update_goal_state id' args _ _ => id' = id ∧ args.verified_progress = some verified
  | _ => False

end Mutation

theorem RunRecord.transitioned_verified (r : RunRecord) (status : CoreRunStatus)
    (binding : Option RunBinding) (outcome : Option AdapterOutcome) (reason now : String) :
    (r.transitioned status binding outcome reason now).verified_progress = r.verified_progress := by
  unfold transitioned
  cases status <;> cases binding <;> cases outcome <;> rfl

theorem RunRecord.goalUpdated_verified {r r' : RunRecord} {args : GoalUpdate} {event_at now : String}
    (h : r.goalUpdated args event_at now = .ok r') :
    r'.verified_progress = args.verified_progress.getD r.verified_progress := by
  simp only [goalUpdated] at h
  split at h
  · cases h
  · simp only [ne_eq, not_true_eq_false, ↓reduceIte] at h
    cases h
    rfl

theorem RunRecord.policyUpdated_verified {r r' : RunRecord} {args : PolicyUpdate}
    {event_at now : String} (h : r.policyUpdated args event_at now = .ok r') :
    r'.verified_progress = r.verified_progress := by
  simp only [policyUpdated] at h
  split at h
  · cases h
  · split at h
    · cases h
    · cases h
      rfl

namespace RunRegistry

/-- The runs of the two logs are the same, and their last records are related. -/
def Related (R : String → RunRecord → RunRecord → Prop) (log log' : Log) : Prop :=
  ∀ id, Option.Rel (R id) (last id log) (last id log')

/-- The record names the run as before, and what is verified of it is as before, or else `verified` of
the run `id`. -/
def Moved (id : String) (verified : Dict) (id' : String) (r r' : RunRecord) : Prop :=
  r'.identity = r.identity ∧ (r'.verified_progress = r.verified_progress ∨
    id' = id ∧ r'.verified_progress = verified)

theorem Related.refl {R : String → RunRecord → RunRecord → Prop} (hR : ∀ id r, R id r r) (log : Log) :
    Related R log log := by
  intro id
  cases last id log with
  | none => exact .none
  | some r => exact .some (hR id r)

theorem Moved.refl (id : String) (verified : Dict) (id' : String) (r : RunRecord) :
    Moved id verified id' r r := ⟨rfl, .inl rfl⟩

/-- An appended record relates the last records of its run. -/
theorem Related.append {R : String → RunRecord → RunRecord → Prop} {log log' : Log} {old r : RunRecord}
    (h : Related R log log') (hlast : last r.core_run_id log' = some old)
    (hr : ∀ q, R r.core_run_id q old → R r.core_run_id q r) : Related R log (log' ++ [r]) := by
  intro id
  by_cases hid : r.core_run_id = id
  · subst hid
    have hold := h r.core_run_id
    rw [hlast] at hold
    rw [last_append_self]
    cases hq : last r.core_run_id log with
    | none =>
      rw [hq] at hold
      cases hold
    | some q =>
      rw [hq] at hold
      cases hold with
      | some hold => exact .some (hr q hold)
  · rw [last_append_ne _ hid]
    exact h id

/-- What a mutation that is plain, or that records `verified`, makes of a run. -/
theorem Related.moved {id : String} {verified : Dict} {log log' : Log} {m : Mutation}
    (h : Related (Moved id verified) log log') (hm : m.IsPlain = true ∨ m.Verifies id verified) :
    Related (Moved id verified) log (m.run log') := by
  rcases m.run_cases log' with hrun | ⟨r, hrun, happ⟩
  · rwa [hrun]
  · rw [hrun]
    -- the record is one of the run that the mutation is about, with the progress that it says
    have hold : ∃ old, last r.core_run_id log' = some old ∧ r.identity = old.identity ∧
        (r.verified_progress = old.verified_progress ∨
          r.core_run_id = id ∧ r.verified_progress = verified) := by
      cases happ with
      | create => exact (hm.elim (fun h => by cases h) False.elim)
      | @transition _ status binding outcome reason now old hlast _ =>
        have hident := old.transitioned_identity status binding outcome reason now
        exact ⟨_, Mutation.last_of_identity hlast hident, hident,
          .inl (RunRecord.transitioned_verified ..)⟩
      | reconcile_abort_observation hlast _ _ =>
        exact ⟨_, Mutation.last_of_identity hlast rfl, rfl, .inl rfl⟩
      | update_policy hlast hupd =>
        obtain ⟨hident, -⟩ := RunRecord.policyUpdated_ok hupd
        exact ⟨_, Mutation.last_of_identity hlast hident, hident,
          .inl (RunRecord.policyUpdated_verified hupd)⟩
      | @update_goal_state id' args _ _ old _ hlast hupd =>
        obtain ⟨hident, -⟩ := RunRecord.goalUpdated_ok hupd
        have hverified := RunRecord.goalUpdated_verified hupd
        refine ⟨_, Mutation.last_of_identity hlast hident, hident, ?_⟩
        rcases hm with hplain | ⟨rfl, hmust⟩
        · rw [Option.isNone_iff_eq_none.mp hplain] at hverified
          exact .inl hverified
        · rw [hmust] at hverified
          have hid : r.core_run_id = old.core_run_id :=
            congrArg RunRecord.Identity.core_run_id hident
          exact .inr ⟨hid.trans (last_some hlast).2, hverified⟩
    obtain ⟨old, hlast, hident, hverified⟩ := hold
    refine h.append hlast fun q hq => ⟨hident.trans hq.1, ?_⟩
    rcases hverified with hsame | hmust
    · exact hq.2.imp hsame.trans fun h => ⟨h.1, hsame.trans h.2⟩
    · exact .inr hmust

end RunRegistry

namespace CoreEngine

open Effect
open RunRegistry (last Related Moved)

variable {E : ObserveEnv} {ρ : Type} {engine : Engine ρ}

/-! ## What a call says of the progress -/

section Keeps

variable {id : String} {verified : Dict} {log : Log}

theorem keeps_moved {m : Nat → Mutation} {f : Log → Except RegistryError (RunRecord × Log)}
    (hm : ∀ k, (m k).IsPlain = true ∨ (m k).Verifies id verified)
    (hf : ∀ log, f log = (m log.length).apply log) :
    Keeps (fun s : Core => Related (Moved id verified) log s.log) (mutate f) :=
  keeps_mutate hf fun _ k hs => hs.moved (hm k)

theorem moved_update_goal_state {id' : String} {args : GoalUpdate}
    (hargs : args.verified_progress = none ∨ id' = id ∧ args.verified_progress = some verified) :
    Keeps (fun s : Core => Related (Moved id verified) log s.log)
      (update_goal_state E id' args) := by
  refine keeps_moved (m := fun k => .update_goal_state id' args (E.event_at k) (E.now k))
    (fun _ => ?_) fun _ => rfl
  refine hargs.imp (fun h => ?_) fun h => h
  show args.verified_progress.isNone = true
  rw [h]
  rfl

theorem moved_transition (status : CoreRunStatus) (binding : Option RunBinding)
    (outcome : Option AdapterOutcome) (reason : String) :
    Keeps (fun s : Core => Related (Moved id verified) log s.log)
      (transition E id status binding outcome reason) :=
  keeps_moved (m := fun k => .transition id status binding outcome reason (E.now k))
    (fun _ => .inl rfl) fun _ => rfl

theorem moved_end_for_policy (reason : String) :
    Keeps (fun s : Core => Related (Moved id verified) log s.log) (end_for_policy E id reason) := by
  have hclear : Keeps (fun s : Core => Related (Moved id verified) log s.log)
      (clear_runtime_deadline id) := keeps_clear fun _ _ hs => hs
  have hcancel : Keeps (fun s : Core => Related (Moved id verified) log s.log)
      (cancel_worker E id) := by
    intro s hs
    rw [eval_cancel_worker]
    exact hs
  refine keeps_require.bind fun record => Keeps.bind ?_ fun _ => hcancel.bind fun binding => ?_
  · unfold escalate
    split
    · split
      · exact .throw _
      · split
        · exact (moved_update_goal_state (.inl rfl)).map _
        · exact .pure _
    · exact .pure _
  · cases binding with
    | none => exact hclear.bind fun _ => moved_transition _ _ _ _
    | some binding => exact hclear.bind fun _ => moved_transition _ _ _ _

end Keeps

/-- A checkpoint leaves the log as it is, or what is verified of the live run is then what is judged. -/
theorem observe_moved (E : ObserveEnv) (engine : Engine ρ) (id : String) (checkpoint : Dict) (s : Core) :
    (eval (observe_progress_checkpoint E engine id checkpoint) s).1.log = s.log ∨
      ∃ r judgement, RunRegistry.require s.log id = .ok r ∧ r.status ∉ CoreRunStatus.terminal ∧
        judge engine r checkpoint = .ok judgement ∧
        Related (Moved id judgement.verified) s.log
          (eval (observe_progress_checkpoint E engine id checkpoint) s).1.log := by
  unfold observe_progress_checkpoint
  cases hrequire : RunRegistry.require s.log id with
  | error e =>
    rw [eval_bind_error (eval_require_error hrequire)]
    exact .inl rfl
  | ok r =>
    rw [eval_bind_ok (eval_require hrequire)]
    by_cases hlive : r.status ∈ CoreRunStatus.terminal
    · rw [if_pos hlive]
      exact .inl rfl
    rw [if_neg hlive]
    cases hjudge : judge engine r checkpoint with
    | error e => exact .inl rfl
    | ok judgement =>
      refine .inr ⟨r, judgement, rfl, hlive, hjudge, ?_⟩
      have hstart : Related (Moved id judgement.verified) s.log s.log :=
        .refl (fun _ _ => Moved.refl ..) _
      have hrecord : ∀ count goal_status ready event_code,
          Keeps (fun t : Core => Related (Moved id judgement.verified) s.log t.log)
            (update_goal_state E id
              (checkpoint_update judgement count goal_status ready event_code)) :=
        fun _ _ _ _ => moved_update_goal_state (.inr ⟨rfl, rfl⟩)
      dsimp only
      cases judgement.event_code with
      | none => exact hrecord _ _ _ _ s hstart
      | some e =>
        dsimp only
        cases int_of (judgement.goal_state.get? "drift_count") with
        | error e => exact hstart
        | ok count =>
          refine ((hrecord _ _ _ _).map _).bind (fun _ => ?_) s hstart
          split
          · exact (keeps_require.map _).bind fun _ => moved_end_for_policy _
          · exact keeps_require

/-! ## The run of the registry -/

/-- A call to the engine: a checkpoint, the creation of a run, or another mutation. -/
inductive ProgressCall where
  | observe (E : ObserveEnv) (id : String) (checkpoint : Dict)
  | create (goal_contract : Option Dict) (args : CreateArgs) (fresh now : String)
  | mutate (m : Mutation)

/-- The texts that are verified of a part of the progress. -/
def verified_part (r : RunRecord) (field : String) : List String :=
  match texts_of (r.verified_progress.get? field) with
  | .ok texts => texts
  | .error _ => []

variable (engine) in
/-- The registry under the calls. A run is created with its contract as it is normalized. -/
def observing : Machine Core ProgressCall where
  init s := s.log = []
  step s
    | .observe E id checkpoint =>
      some (eval (observe_progress_checkpoint E engine id checkpoint) s).1
    | .create goal_contract args fresh now =>
      match engine.normalize_goal_contract goal_contract with
      | .ok contract =>
        let m := Mutation.create { args with goal_contract := contract } fresh now
        some { s with log := m.run s.log }
      | .error _ => none
    | .mutate m => if m.IsPlain then some { s with log := m.run s.log } else none

/-- What the record of a run says after a call that is made in `s`: no part of the verified progress
has lost a text, its scopes are those of the contract, and a condition is new in it only after a
checkpoint of the own goal. -/
structure Within (s : Core) (call : ProgressCall) (r' : RunRecord) : Prop where
  grown : ∀ r, last r'.core_run_id s.log = some r →
    ∀ field ∈ ["completed_conditions", "artifacts", "evidence", "scope"],
      ∀ t ∈ verified_part r field, t ∈ verified_part r' field
  scope : ∀ t ∈ verified_part r' "scope",
    t ∈ r'.goal_contract.allowed_scope ∧ t ∉ r'.goal_contract.forbidden_scope
  completed : ∀ t ∈ verified_part r' "completed_conditions",
    (∃ r, last r'.core_run_id s.log = some r ∧ t ∈ verified_part r "completed_conditions") ∨
    ∃ E checkpoint normalized, call = .observe E r'.core_run_id checkpoint ∧
      normalize_progress_checkpoint checkpoint r'.goal_contract = .ok normalized ∧
      normalized.goal_id = r'.goal_contract.goal_id ∧ t ∈ normalized.completed_conditions

/-- A checkpoint of a live run stays inside its contract: its scopes do, and if it names another goal
its conditions are verified already. -/
def Contained (s : Core) : ProgressCall → Prop
  | .observe _ id checkpoint => ∀ r, RunRegistry.require s.log id = .ok r →
      r.status ∉ CoreRunStatus.terminal → ∀ normalized,
        normalize_progress_checkpoint checkpoint r.goal_contract = .ok normalized →
        expands r.goal_contract normalized.scope_delta = false ∧
          (normalized.goal_id = r.goal_contract.goal_id ∨
            ∀ t ∈ normalized.completed_conditions, t ∈ verified_part r "completed_conditions")
  | .create .. | .mutate _ => True

/-! ## The invariant -/

/-- The progress is as the engine writes it, with the scopes of the contract, which is normalized. -/
structure Whole (engine : Engine ρ) (r : RunRecord) : Prop where
  contract : engine.normalize_goal_contract (some (goal_input r.goal_contract)) = .ok r.goal_contract
  progress : ∃ completed artifacts evidence scope,
    r.verified_progress = progress completed artifacts evidence scope
  scope : ∀ t ∈ verified_part r "scope",
    t ∈ r.goal_contract.allowed_scope ∧ t ∉ r.goal_contract.forbidden_scope

def AllWhole (engine : Engine ρ) (s : Core) : Prop :=
  ∀ id r, last id s.log = some r → Whole engine r

/-- The parts of a verified progress. -/
theorem verified_part_progress {r : RunRecord} {completed artifacts evidence scope : List String}
    (h : r.verified_progress = progress completed artifacts evidence scope) :
    verified_part r "completed_conditions" = completed ∧ verified_part r "artifacts" = artifacts ∧
      verified_part r "evidence" = evidence ∧ verified_part r "scope" = scope := by
  have hparts : ∀ {field : String} {texts : List String},
      texts_of ((progress completed artifacts evidence scope).get? field) = .ok texts →
        verified_part r field = texts := by
    intro field texts htexts
    unfold verified_part
    rw [h, htexts]
  exact ⟨hparts (texts_of_strs completed), hparts (texts_of_strs artifacts),
    hparts (texts_of_strs evidence), hparts (texts_of_strs scope)⟩

theorem verified_part_congr {r r' : RunRecord} (h : r'.verified_progress = r.verified_progress)
    (field : String) : verified_part r' field = verified_part r field := by
  unfold verified_part
  rw [h]

section Same

variable {s : Core} {call : ProgressCall} {id : String} {q r' : RunRecord}

theorem same_contract (hident : r'.identity = q.identity) : r'.goal_contract = q.goal_contract :=
  congrArg RunRecord.Identity.goal_contract hident

theorem same_id (hlast : last id s.log = some q) (hident : r'.identity = q.identity) :
    last r'.core_run_id s.log = some q := Mutation.last_of_identity hlast hident

/-- A record whose progress is that of before. -/
theorem Whole.same (h : Whole engine q) (hident : r'.identity = q.identity)
    (hverified : r'.verified_progress = q.verified_progress) : Whole engine r' := by
  have hcontract := same_contract hident
  refine ⟨?_, ?_, ?_⟩
  · rw [hcontract]
    exact h.contract
  · rw [hverified]
    exact h.progress
  · rw [verified_part_congr hverified, hcontract]
    exact h.scope

theorem Within.same (hlast : last id s.log = some q) (h : Whole engine q)
    (hident : r'.identity = q.identity) (hverified : r'.verified_progress = q.verified_progress) :
    Within s call r' := by
  have hlast' := same_id hlast hident
  refine ⟨fun r hr field _ t ht => ?_, (h.same hident hverified).scope, fun t ht => ?_⟩
  · obtain rfl := Option.some.inj (hr.symm.trans hlast')
    rwa [verified_part_congr hverified]
  · rw [verified_part_congr hverified] at ht
    exact .inl ⟨q, hlast', ht⟩

end Same

theorem judge_verified {r : RunRecord} {checkpoint : Dict} {judgement : Judgement}
    (hcontract : engine.normalize_goal_contract (some (goal_input r.goal_contract)) =
      .ok r.goal_contract)
    (h : judge engine r checkpoint = .ok judgement) :
    normalize_progress_checkpoint checkpoint r.goal_contract = .ok judgement.normalized ∧
      verified_with r.verified_progress judgement.normalized = .ok judgement.verified := by
  unfold judge at h
  rw [hcontract] at h
  obtain ⟨contract, hok, h⟩ := bind_eq_ok.mp h
  obtain rfl := Except.ok.inj hok
  obtain ⟨normalized, hnormalized, h⟩ := bind_eq_ok.mp h
  obtain ⟨goal_state, -, h⟩ := bind_eq_ok.mp h
  obtain ⟨verified, hverified, h⟩ := bind_eq_ok.mp h
  have hchecked : normalize_progress_checkpoint checkpoint r.goal_contract = .ok normalized := by
    cases hn : normalize_progress_checkpoint checkpoint r.goal_contract with
    | error e =>
      rw [hn] at hnormalized
      cases hnormalized
    | ok c =>
      rw [hn] at hnormalized
      cases hnormalized
      rfl
  split at h
  · obtain rfl := pure_eq_ok.mp h
    exact ⟨hchecked, hverified⟩
  · split at h
    · obtain rfl := pure_eq_ok.mp h
      exact ⟨hchecked, hverified⟩
    · obtain rfl := pure_eq_ok.mp h
      exact ⟨hchecked, hverified⟩

theorem expands_false {contract : GoalContract} {scope_delta : List String}
    (h : expands contract scope_delta = false) :
    ∀ t ∈ scope_delta, t ∈ contract.allowed_scope ∧ t ∉ contract.forbidden_scope := by
  intro t ht
  have hnot := List.any_eq_false.mp h t ht
  rw [decide_eq_true_eq, not_or, not_not] at hnot
  exact ⟨hnot.2, hnot.1⟩

/-- The record of a checkpoint that is contained. -/
theorem within_judged {s : Core} {id : String} {checkpoint : Dict} {r r' : RunRecord}
    {judgement : Judgement} (hlast : last id s.log = some r) (hr : Whole engine r)
    (hident : r'.identity = r.identity)
    (hnormalized : normalize_progress_checkpoint checkpoint r.goal_contract = .ok judgement.normalized)
    (hverified : verified_with r.verified_progress judgement.normalized = .ok judgement.verified)
    (hscope : expands r.goal_contract judgement.normalized.scope_delta = false)
    (hown : judgement.normalized.goal_id = r.goal_contract.goal_id ∨
      ∀ t ∈ judgement.normalized.completed_conditions, t ∈ verified_part r "completed_conditions")
    (h : r'.verified_progress = judgement.verified) :
    Whole engine r' ∧ Within s (.observe E id checkpoint) r' := by
  obtain ⟨completed, artifacts, evidence, scope, hprogress⟩ := hr.progress
  rw [hprogress, verified_with_progress] at hverified
  rw [← Except.ok.inj hverified] at h
  obtain ⟨hcompleted, hartifacts, hevidence, hscopes⟩ := verified_part_progress hprogress
  obtain ⟨hcompleted', hartifacts', hevidence', hscopes'⟩ := verified_part_progress h
  have hcontract := same_contract hident
  have hlast' := same_id hlast hident
  have hid : r'.core_run_id = id :=
    (congrArg RunRecord.Identity.core_run_id hident).trans (RunRegistry.last_some hlast).2
  have hin : ∀ t ∈ verified_part r' "scope",
      t ∈ r'.goal_contract.allowed_scope ∧ t ∉ r'.goal_contract.forbidden_scope := by
    intro t ht
    rw [hscopes', mem_merged, ← hscopes] at ht
    rw [hcontract]
    exact ht.elim (hr.scope t) (expands_false hscope t)
  refine ⟨⟨?_, ⟨_, _, _, _, h⟩, hin⟩, ⟨fun q hq field hfield t ht => ?_, hin, fun t ht => ?_⟩⟩
  · rw [hcontract]
    exact hr.contract
  · obtain rfl := Option.some.inj (hq.symm.trans hlast')
    simp only [List.mem_cons, List.not_mem_nil, or_false] at hfield
    rcases hfield with rfl | rfl | rfl | rfl
    · rw [hcompleted] at ht
      rw [hcompleted', mem_merged]
      exact .inl ht
    · rw [hartifacts] at ht
      rw [hartifacts', mem_merged]
      exact .inl ht
    · rw [hevidence] at ht
      rw [hevidence', mem_merged]
      exact .inl ht
    · rw [hscopes] at ht
      rw [hscopes', mem_merged]
      exact .inl ht
  · rw [hcompleted', mem_merged, ← hcompleted] at ht
    rcases ht with ht | ht
    · exact .inl ⟨r, hlast', ht⟩
    · rcases hown with hown | hold
      · refine .inr ⟨E, checkpoint, judgement.normalized, by rw [hid], ?_, ?_, ht⟩
        · rwa [hcontract]
        · rwa [hcontract]
      · exact .inl ⟨r, hlast', hold t ht⟩

/-- A plain mutation leaves what is verified. -/
theorem within_plain {s s' : Core} {call : ProgressCall} {m : Mutation} (hs : AllWhole engine s)
    (hm : m.IsPlain = true) (hrun : s'.log = m.run s.log) {id : String} {r' : RunRecord}
    (hlast : last id s'.log = some r') : Whole engine r' ∧ Within s call r' := by
  have hrelated : ∀ verified, Related (Moved id verified) s.log s'.log := by
    intro verified
    rw [hrun]
    exact Related.moved (.refl (fun _ _ => Moved.refl ..) _) (.inl hm)
  cases hq : last id s.log with
  | none =>
    have hrel := hrelated Dict.empty id
    rw [hq, hlast] at hrel
    cases hrel
  | some q =>
    have hrel := hrelated q.verified_progress id
    rw [hq, hlast] at hrel
    cases hrel with
    | some hmoved =>
      have hverified : r'.verified_progress = q.verified_progress :=
        hmoved.2.elim (fun h => h) And.right
      exact ⟨(hs id q hq).same hmoved.1 hverified, .same hq (hs id q hq) hmoved.1 hverified⟩

/-- A new run has nothing verified. -/
theorem within_create {s s' : Core} (args : CreateArgs) {fresh now : String} {call : ProgressCall}
    (hs : AllWhole engine s)
    (hagain : engine.normalize_goal_contract (some (goal_input args.goal_contract)) =
      .ok args.goal_contract)
    (hrun : s'.log = (Mutation.create args fresh now).run s.log) {id : String} {r' : RunRecord}
    (hlast : last id s'.log = some r') : Whole engine r' ∧ Within s call r' := by
  have hold : ∀ {q : RunRecord}, last id s.log = some q → Whole engine q ∧ Within s call q :=
    fun {q} hq => ⟨hs id q hq, .same hq (hs id q hq) rfl rfl⟩
  rcases Mutation.run_cases s.log (.create args fresh now) with hsame | ⟨r, happend, happ⟩
  · rw [hrun, hsame] at hlast
    exact hold hlast
  rw [hrun, happend] at hlast
  by_cases hid : r.core_run_id = id
  · subst hid
    rw [RunRegistry.last_append_self] at hlast
    obtain rfl := Option.some.inj hlast
    cases happ with
    | create hnew hkey =>
      have hprogress : (args.record (args.actual_id fresh) now).verified_progress =
          progress [] [] [] [] := rfl
      obtain ⟨hcompleted, -, -, hscopes⟩ := verified_part_progress hprogress
      have hscope : ∀ t ∈ verified_part (args.record (args.actual_id fresh) now) "scope",
          t ∈ args.goal_contract.allowed_scope ∧ t ∉ args.goal_contract.forbidden_scope := by
        rw [hscopes]
        exact fun t ht => absurd ht List.not_mem_nil
      refine ⟨⟨hagain, ⟨[], [], [], [], hprogress⟩, hscope⟩, ⟨fun q hq => ?_, hscope, ?_⟩⟩
      · have hnone : last (args.actual_id fresh) s.log = none := RunRegistry.last_eq_none.mpr hnew
        have hq : last (args.actual_id fresh) s.log = some q := hq
        rw [hnone] at hq
        cases hq
      · rw [hcompleted]
        exact fun t ht => absurd ht List.not_mem_nil
  · rw [RunRegistry.last_append_ne _ hid] at hlast
    exact hold hlast

/-- What a contained call keeps, and what it makes of a run. -/
theorem step_within {secret_text : List Char → Bool}
    (hengine : engine.normalize_goal_contract = normalize_goal_contract secret_text engine.H)
    {s s' : Core} {call : ProgressCall} (hs : AllWhole engine s) (hcall : Contained s call)
    (hstep : (observing engine).step s call = some s') {id : String} {r' : RunRecord}
    (hlast : last id s'.log = some r') : Whole engine r' ∧ Within s call r' := by
  cases call with
  | mutate m =>
    by_cases hm : m.IsPlain = true
    · have hstep : (if m.IsPlain = true then some { s with log := m.run s.log } else none) =
        some s' := hstep
      rw [if_pos hm] at hstep
      obtain rfl := Option.some.inj hstep
      exact within_plain hs hm rfl hlast
    · have hstep : (if m.IsPlain = true then some { s with log := m.run s.log } else none) =
        some s' := hstep
      rw [if_neg hm] at hstep
      cases hstep
  | create goal_contract args fresh now =>
    unfold observing at hstep
    dsimp only at hstep
    cases hcontract : engine.normalize_goal_contract goal_contract with
    | error e =>
      rw [hcontract] at hstep
      cases hstep
    | ok contract =>
      rw [hcontract] at hstep
      obtain rfl := Option.some.inj hstep
      refine within_create { args with goal_contract := contract } hs ?_ rfl hlast
      rw [hengine] at hcontract ⊢
      exact normalized_again hcontract
  | observe E id₀ checkpoint =>
    obtain rfl := Option.some.inj hstep
    have hold : ∀ {q : RunRecord}, last id s.log = some q → r'.identity = q.identity →
        r'.verified_progress = q.verified_progress →
        Whole engine r' ∧ Within s (.observe E id₀ checkpoint) r' :=
      fun {q} hq hident hverified =>
        ⟨(hs id q hq).same hident hverified, .same hq (hs id q hq) hident hverified⟩
    rcases observe_moved E engine id₀ checkpoint s with
      hsame | ⟨r, judgement, hrequire, hlive, hjudge, hrelated⟩
    · rw [hsame] at hlast
      exact hold hlast rfl rfl
    · have hrel := hrelated id
      rw [hlast] at hrel
      cases hq : last id s.log with
      | none =>
        rw [hq] at hrel
        cases hrel
      | some q =>
        rw [hq] at hrel
        cases hrel with
        | some hmoved =>
          obtain ⟨hident, hverified | ⟨rfl, hverified⟩⟩ := hmoved
          · exact hold hq hident hverified
          · obtain rfl := Option.some.inj (hq.symm.trans (RunRegistry.require_ok hrequire))
            have hr := hs id q hq
            obtain ⟨hnormalized, hunion⟩ := judge_verified hr.contract hjudge
            obtain ⟨hscope, hown⟩ := hcall q hrequire hlive _ hnormalized
            exact within_judged hq hr hident hnormalized hunion hscope hown hverified

/-- In every run whose checkpoints are contained, what is verified of every run stays inside its
contract, in every state that the run reaches. -/
theorem progress_within {secret_text : List Char → Bool}
    (hengine : engine.normalize_goal_contract = normalize_goal_contract secret_text engine.H)
    {s₀ s s' : Core} {calls : List ProgressCall} {call : ProgressCall}
    (hinit : (observing engine).init s₀) (h : (observing engine).Steps Contained s₀ calls s)
    (hcall : Contained s call) (hstep : (observing engine).step s call = some s') {id : String}
    {r' : RunRecord} (hlast : last id s'.log = some r') : Within s call r' := by
  have hwhole : AllWhole engine s := by
    refine h.inv (I := AllWhole engine) ?_ fun id r hr => ?_
    · exact fun t call t' ht hcall hstep id r hr => (step_within hengine ht hcall hstep hr).1
    · have hnone : last id s₀.log = none := RunRegistry.last_eq_none.mpr fun q hq => by
        rw [hinit] at hq
        cases hq
      rw [hnone] at hr
      cases hr
  exact (step_within hengine hwhole hcall hstep hlast).2

/-! ## A checkpoint that strays -/

namespace Sample

open RunRegistry (sampleArgs)

def digest : Hashlib := ⟨fun _ => "ab", fun _ _ => []⟩

def contracted : Engine Unit :=
  { unbound with
    H := digest
    normalize_goal_contract := normalize_goal_contract (fun _ => false) digest }

def filed : GoalContract := { sampleArgs.goal_contract with goal_id := "goal-ab" }

/-- A run that is QUEUED, with a normalized contract. -/
def queued : RunRecord := { sampleArgs with goal_contract := filed }.record "core-1" "t0"

def empty : Core := ⟨[], [], []⟩

def created : Core := ⟨[queued], [], []⟩

def creation : ProgressCall :=
  .create (some (goal_input sampleArgs.goal_contract)) sampleArgs "" "t0"

/-- A checkpoint with this goal id and this scope. -/
def checkpoint (goal_id scope : String) : Dict :=
  (Dict.empty.set "goal_id" (.str goal_id)).set "scope_delta" (.strs [scope])

theorem contract_normalized :
    contracted.normalize_goal_contract (some (goal_input sampleArgs.goal_contract)) = .ok filed := by
  decide +kernel

theorem creation_step : (observing contracted).step empty creation = some created := by
  unfold creation observing
  dsimp only
  rw [contract_normalized]
  rfl

theorem stands_queued : Stands "core-1" queued created := by
  refine .of_readable (fun q hq => (RunRegistry.readable_iff q).mpr ?_) rfl
  revert q
  decide +kernel

/-- What the checkpoints of the sample come to. -/
def judged (goal_id scope : String) (event_code : Option String) (goal_state : Dict) : Judgement where
  normalized := ⟨goal_id, "UNSPECIFIED", [], [], "NONE", [], [scope], []⟩
  verified := progress [] [] [] [scope]
  goal_state := goal_state
  event_code := event_code

theorem judge_other : judge contracted queued (checkpoint "other" "B") =
    .ok (judged "other" "B" (some "OBJECTIVE_REPLACEMENT") Dict.empty) := by
  decide +kernel

end Sample

/-- A scope that is forbidden is verified after a checkpoint that names another goal. -/
theorem progress_strays : ∃ s s' call r', (observing Sample.contracted).Reachable s ∧
    (observing Sample.contracted).step s call = some s' ∧ last "core-1" s'.log = some r' ∧
    ¬ Within s call r' := by
  have hlive : Sample.queued.status ∉ CoreRunStatus.terminal := by decide
  have hhex : HexDigest Sample.contracted.H := by
    have hsafe : RegistryFile.safeText "ab" = true := by decide +kernel
    exact fun _ => hsafe
  obtain ⟨r', heval, hguarded, -, hlast, hstands, -⟩ := Sample.stands_queued.observe_drift
    (E := Sample.observe_env .failed) hlive hhex Sample.judge_other rfl
    (show int_of _ = .ok 0 from rfl)
  have hstands' := hstands (by decide +kernel)
  rw [if_neg (by decide), hstands'.require] at heval
  refine ⟨Sample.created, { Sample.created with log := Sample.created.log ++ [r'] },
    .observe (Sample.observe_env .failed) "core-1" (Sample.checkpoint "other" "B"), r', ?_, ?_, hlast,
    fun hwithin => ?_⟩
  · exact ⟨Sample.empty, [Sample.creation], rfl, .single trivial Sample.creation_step⟩
  · exact congrArg (fun out => some out.1) heval
  · obtain ⟨-, -, -, hscopes⟩ := verified_part_progress hguarded.verified_progress
    have hcontract : r'.goal_contract = Sample.filed := same_contract hguarded.identity
    have hin := hwithin.scope "B" (by rw [hscopes]; exact List.mem_singleton_self _)
    rw [hcontract] at hin
    exact hin.2 (by decide)

/-- A checkpoint of the own goal with a scope of the contract. -/
theorem progress_within_sample :
    ∃ r', last "core-1" (eval (observe_progress_checkpoint (Sample.observe_env .failed)
        Sample.contracted "core-1" (Sample.checkpoint "goal-ab" "A")) Sample.created).1.log = some r' ∧
      Within Sample.created
        (.observe (Sample.observe_env .failed) "core-1" (Sample.checkpoint "goal-ab" "A")) r' := by
  have hcreated : (observing Sample.contracted).Steps Contained Sample.empty [Sample.creation]
      Sample.created := .single trivial Sample.creation_step
  have hcontained : Contained Sample.created
      (.observe (Sample.observe_env .failed) "core-1" (Sample.checkpoint "goal-ab" "A")) := by
    intro r hr _ normalized hnormalized
    obtain rfl := Except.ok.inj (Sample.stands_queued.registry_require.symm.trans hr)
    have hchecked : normalize_progress_checkpoint (Sample.checkpoint "goal-ab" "A")
        Sample.queued.goal_contract =
        .ok ⟨"goal-ab", "UNSPECIFIED", [], [], "NONE", [], ["A"], []⟩ := by decide +kernel
    obtain rfl := Except.ok.inj (hchecked.symm.trans hnormalized)
    exact ⟨by decide, .inl rfl⟩
  have hrecorded : (last "core-1" (eval (observe_progress_checkpoint (Sample.observe_env .failed)
      Sample.contracted "core-1" (Sample.checkpoint "goal-ab" "A")) Sample.created).1.log).isSome =
      true := by decide +kernel
  obtain ⟨r', hlast⟩ := Option.isSome_iff_exists.mp hrecorded
  refine ⟨r', hlast, ?_⟩
  exact progress_within
    (show Sample.contracted.normalize_goal_contract =
      normalize_goal_contract (fun _ => false) Sample.contracted.H from rfl)
    (show (observing Sample.contracted).init Sample.empty from rfl) hcreated hcontained rfl hlast

end CoreEngine

end Plachem
