import PlachemMonitor.Recovery.Steps
import PlachemMonitor.Registry.Readable

/-!
# How a recovery call goes on

On a readable registry no access raises, and each step of a call is determined by the records that
it reads and by the answers of the outside.
-/

namespace Plachem

namespace RunRegistry

theorem latest_none {p : RunRecord → Bool} {log : Log} (h : ∀ r ∈ log, p r = false) :
    RegistryFile.latest p log = none := by
  rw [RegistryFile.latest_eq, List.getLast?_eq_none_iff, List.filter_eq_nil_iff]
  simpa using h

/-- A run under a new id and a new key is appended. -/
theorem create_new {log : Log} (hread : ∀ r ∈ log, readable r = true) {args : CreateArgs}
    {fresh : String} (hid : last (args.actual_id fresh) log = none)
    (hkey : ∀ r ∈ log, r.idempotency_key ≠ args.idempotency_key) (now : String) :
    create log args fresh now = .ok ((args.record (args.actual_id fresh) now, true),
      log ++ [args.record (args.actual_id fresh) now]) := by
  have hget : get_by_idempotency log args.idempotency_key = .ok none := by
    rw [get_by_idempotency, records_of_readable hread]
    exact congrArg _ (latest_none fun r hr => by simpa [hasKey] using hkey r hr)
  simp only [create]
  rw [bind_of_ok (get_of_readable hread _), hid]
  dsimp only
  rw [bind_of_ok hget]
  rfl

/-- An update of the goal state is appended. -/
theorem update_goal_state_of_last {log : Log} (hread : ∀ r ∈ log, readable r = true) {id : String}
    {r r' : RunRecord} (hlast : last id log = some r) {args : GoalUpdate} {event_at now : String}
    (h : r.goalUpdated args event_at now = .ok r') :
    update_goal_state log id args event_at now = .ok (r', log ++ [r']) := by
  rw [update_goal_state, bind_of_ok (require_of_last hread hlast), bind_of_ok h]
  rfl

end RunRegistry

namespace RecoveryLayer

open RunRegistry (last readable)

variable {layer : Layer}

namespace Frame

variable {answer : Answer} {log : Log}

theorem step_attempt_recovery (hread : ∀ r ∈ log, readable r = true) {id : String}
    {source : RunRecord} (hlast : last id log = some source) :
    (attempt_recovery id).step layer answer log = .next log (executions source) := by
  simp only [Frame.step]
  rw [RunRegistry.get_of_readable hread, hlast]

theorem step_executions (hread : ∀ r ∈ log, readable r = true) {source : RunRecord}
    (h : (evaluate_recovery source
      (max_execution_attempts (shown log) source.core_run_id)).eligible = true) :
    (executions source).step layer answer log = .next log (dispatches source) := by
  simp only [Frame.step]
  rw [RunRegistry.recent_of_readable hread (by decide)]
  exact if_pos h

theorem step_dispatches (hread : ∀ r ∈ log, readable r = true) {source : RunRecord} {n : Nat}
    (hcount : count_existing_dispatches (shown log) source.core_run_id = n)
    (h : n < layer.max_dispatch_attempts) :
    (dispatches source).step layer answer log = .next log (create (.recovery n) source) := by
  subst hcount
  simp only [Frame.step]
  rw [RunRegistry.recent_of_readable hread (by decide)]
  exact if_neg (Nat.not_le_of_lt h)

theorem step_recover_watchdog_cancelled (hread : ∀ r ∈ log, readable r = true) {id : String}
    {source : RunRecord} (hlast : last id log = some source)
    (hmanaged : source.watchdog_managed = true)
    (hmark : (marks source).watchdog_recovery_source_run_id = none) (hdirect : isDirect id = true)
    (hstatus : source.status = .CANCELLED) :
    (recover_watchdog_cancelled id).step layer answer log = .next log (existing source) := by
  simp only [Frame.step]
  rw [RunRegistry.get_of_readable hread, hlast]
  simp [hmanaged, hmark, hdirect, hstatus]

theorem step_existing (hread : ∀ r ∈ log, readable r = true) {source : RunRecord}
    (h : count_watchdog_children (shown log) source.core_run_id = 0) :
    (existing source).step layer answer log = .next log (create .watchdog source) := by
  simp only [Frame.step]
  rw [RunRegistry.recent_of_readable hread (by decide)]
  exact if_neg (by rw [← shown, h]; decide)

theorem step_create (hread : ∀ r ∈ log, readable r = true) {kind : Kind} {source : RunRecord}
    (hid : last (kind.child_id source answer.uuid) log = none)
    (hkey : ∀ r ∈ log, r.idempotency_key ≠ kind.idempotency_key source answer.key_uuid) :
    (create kind source).step layer answer log =
      ⟨log ++ [(createArgs kind source answer).record (kind.child_id source answer.uuid)
          answer.now],
        [authorize kind source (kind.child_id source answer.uuid)],
        some ⟨kind, source.core_run_id, kind.child_id source answer.uuid⟩, none⟩ := by
  have hactual := actual_id_createArgs kind source answer
  have hcreate := @RunRegistry.create_new log hread (createArgs kind source answer) ""
    (by rwa [hactual]) hkey answer.now
  rw [hactual] at hcreate
  simp only [Frame.step]
  rw [hcreate]
  simp

theorem step_authorize {kind : Kind} {source : RunRecord} {child_id : String}
    (h : answer.denied = none) :
    (authorize kind source child_id).step layer answer log =
      ⟨log, [submit kind source child_id], none, some child_id⟩ := by
  simp only [Frame.step]
  rw [h]

/-- A submission that fails ends the run. -/
theorem step_submit (hread : ∀ r ∈ log, readable r = true) {kind : Kind} {source child : RunRecord}
    {child_id reason : String} (h : answer.submitted = .error reason)
    (hlast : last child_id log = some child) (hqueued : child.status = .QUEUED) :
    (submit kind source child_id).step layer answer log =
      .next (log ++ [child.transitioned .FAIL none none reason answer.now])
        (observe kind source child_id (child.transitioned .FAIL none none reason answer.now)) := by
  simp only [Frame.step]
  rw [h]
  dsimp only
  rw [RunRegistry.transition_of_last hread hlast (by rw [hqueued]; decide) (by simp [hqueued])]

/-- A harness that handles the record recovers it before it is marked. -/
theorem step_observe_some {kind : Kind} {source dispatched : RunRecord} {child_id : String}
    {restored : List String} (h : answer.restored = some restored)
    (hhandles : handles_recovery restored dispatched = true) :
    (observe kind source child_id dispatched).step layer answer log =
      ⟨log, [attempt_recovery dispatched.core_run_id, account kind source child_id dispatched],
        none, none⟩ := by
  simp only [Frame.step]
  rw [h]
  exact if_pos hhandles

theorem step_observe_none {kind : Kind} {source dispatched : RunRecord} {child_id : String}
    (h : answer.restored = none) :
    (observe kind source child_id dispatched).step layer answer log =
      .next log (account kind source child_id dispatched) := by
  simp only [Frame.step]
  rw [h]

theorem step_account (hread : ∀ r ∈ log, readable r = true) {n : Nat}
    {source dispatched child marked : RunRecord} {child_id : String}
    (hlast : last child_id log = some child)
    (hmarked : child.goalUpdated (accounting layer (.recovery n) source dispatched)
      answer.event_at answer.now = .ok marked)
    (hstarted : is_pre_execution_block dispatched.status dispatched.reason = false) :
    (account (.recovery n) source child_id dispatched).step layer answer log =
      .next (log ++ [marked]) (execution_started n source child_id) := by
  simp only [Frame.step]
  rw [RunRegistry.update_goal_state_of_last hread hlast hmarked]
  simp [hstarted]

end Frame

/-- A step of the system is the step of the frame that runs. -/
theorem reachable_step {G : State → Label → Prop} {s s' : State}
    (h : (system layer).ReachableIf G s) (t : Nat) (answer : Answer) {f : Frame} {out : Outcome}
    (htop : Stacks.top s.threads t = some f) (hG : G s (.step t answer))
    (hstep : f.step layer answer s.log = out)
    (hs' : ⟨out.log, Stacks.advance s.threads t out.frames, s.children ++ out.created.toList,
      s.passed ++ out.passed.toList⟩ = s') : (system layer).ReachableIf G s' := by
  refine h.next (a := .step t answer) hG ?_
  simp only [system, htop, hstep, hs']

theorem step_observed {s : State} {record : RunRecord} {restored : List String}
    (hmem : record ∈ s.log) (h : handles_recovery restored record = true) :
    (system layer).step s (.observed record restored) =
      some { s with threads := Stacks.spawn s.threads (.attempt_recovery record.core_run_id) } := by
  simp only [system, if_pos (And.intro hmem h)]

/-- A mutation that writes no goal state is possible. -/
theorem step_foreign {s : State} {m : Mutation} {r : RunRecord} {log : Log}
    (hwritten : written m = none) (h : m.apply s.log = .ok (r, log)) :
    (system layer).step s (.foreign m) = some { s with log := log } := by
  have hcopies : Copies s.log m := by simp [Copies, hwritten]
  simp only [system, if_pos hcopies, Mutation.run_of_apply h]

/-! ## Runs of a failed run -/

/-- The limits that a layer has by default. -/
def Layer.default : Layer where
  max_attempts := MAX_RECOVERY_ATTEMPTS.toNat
  max_dispatch_attempts := MAX_RECOVERY_DISPATCH_ATTEMPTS
  one_le_attempts := by decide
  one_le_dispatches := by decide

namespace Sample

open RunRegistry

/-- The run that the calls recover. -/
def failed : RunRecord :=
  (sampleArgs.record "core-1" "t0").transitioned .FAIL none none "OPENCLAW_ERROR" "t1"

/-- The authorization passes, and the submission fails at once. -/
def answer (uuid : String) : Answer where
  uuid := uuid
  key_uuid := uuid
  request_hash := "hash-2"
  policy := Dict.empty
  goal_contract := sampleArgs.goal_contract
  prior_evidence := Dict.empty
  denied := none
  submitted := .error "TRANSPORT_FAILURE"
  restored := none
  event_at := "t2"
  now := "t2"

/-- The records of its first child: created, not submitted, marked. -/
def created : RunRecord :=
  (createArgs (.recovery 0) failed (answer "a")).record "core-1-rec-a" "t2"

def rejected : RunRecord := created.transitioned .FAIL none none "TRANSPORT_FAILURE" "t2"

def marked : RunRecord :=
  match rejected.goalUpdated (accounting .default (.recovery 0) failed rejected) "t2" "t2" with
  | .ok record => record
  | .error _ => rejected

theorem goalUpdated_rejected : rejected.goalUpdated
    (accounting .default (.recovery 0) failed rejected) "t2" "t2" = .ok marked := rfl

/-- The registry after a call that has marked the child. -/
def log : Log := sampleLog ++ [created] ++ [rejected] ++ [marked]

theorem safe_rejected : SafeRecord created ∧ SafeRecord rejected := by
  have hargs : SafeCreate (createArgs (.recovery 0) failed (answer "a")) := by
    constructor <;> decide +kernel
  have hcreated : SafeRecord created := safe_record hargs (by decide +kernel) (by decide +kernel)
  exact ⟨hcreated,
    safe_transitioned hcreated _ (by simp) (by simp) (by decide +kernel) (by decide +kernel)⟩

theorem safe_marked : SafeRecord marked := by
  have hgoal : SafeGoal (accounting .default (.recovery 0) failed rejected) := by
    constructor <;> decide +kernel
  exact safe_goalUpdated safe_rejected.2 hgoal (by decide +kernel) (by decide +kernel)
    goalUpdated_rejected

theorem readable_log : ∀ r ∈ log, readable r = true := by
  intro r hr
  simp only [log, List.mem_append, List.mem_singleton] at hr
  obtain ((hr | rfl) | rfl) | rfl := hr
  · exact RunRegistry.readable_sampleLog r hr
  · exact RunRegistry.readable_of_safe safe_rejected.1
  · exact RunRegistry.readable_of_safe safe_rejected.2
  · exact RunRegistry.readable_of_safe safe_marked

theorem readable_prefix {log' : Log} (h : log' <+: log) : ∀ r ∈ log', readable r = true :=
  fun r hr => readable_log r (h.subset hr)

/-- The failed run is there before any call begins. -/
theorem reachable_failed {G : State → Label → Prop}
    (hG : ∀ s m, written m = none → G s (.foreign m)) :
    (system layer).ReachableIf G ⟨sampleLog, [], [], []⟩ := by
  have hinit : (system layer).ReachableIf G ⟨[], [], [], []⟩ := ⟨_, [], rfl, .refl _⟩
  have hcreated : (system layer).ReachableIf G ⟨sampleLog.take 1, [], [], []⟩ :=
    hinit.next (a := .foreign (.create sampleArgs "" "t0")) (hG _ _ rfl) (step_foreign rfl rfl)
  have hread : ∀ r ∈ sampleLog.take 1, readable r = true :=
    readable_prefix ⟨sampleLog.drop 1 ++ [created] ++ [rejected] ++ [marked], rfl⟩
  have hlast : last "core-1" (sampleLog.take 1) = some (sampleArgs.record "core-1" "t0") := rfl
  have hfail := RunRegistry.transition_of_last hread hlast (show .FAIL ∈ _ by decide) (by decide)
    none none "OPENCLAW_ERROR" "t1"
  exact hcreated.next (a := .foreign (.transition "core-1" .FAIL none none "OPENCLAW_ERROR" "t1"))
    (hG _ _ rfl) (step_foreign rfl hfail)

/-- Steps that meet every condition: new ids, no marks, and no record handed on while there are
children. -/
def Calm (s : State) : Label → Prop
  | .foreign m => written m = none
  | .observed _ _ => s.children = []
  | .step t answer => answer.restored = none ∧
      (∀ kind source, Stacks.top s.threads t = some (.create kind source) →
        last (kind.child_id source answer.uuid) s.log = none) ∧
      ∀ kind source child_id dispatched,
        Stacks.top s.threads t ≠ some (.account kind source child_id dispatched)
  | _ => False

theorem calm_step {s : State} {t : Nat} {uuid : String} {f : Frame}
    (htop : Stacks.top s.threads t = some f)
    (hcreate : ∀ kind source, f = .create kind source →
      last (kind.child_id source uuid) s.log = none)
    (haccount : ∀ kind source child_id dispatched, f ≠ .account kind source child_id dispatched) :
    Calm s (.step t (answer uuid)) := by
  refine ⟨rfl, fun kind source h => ?_, fun kind source child_id dispatched h => ?_⟩
  · exact hcreate kind source (Option.some.inj (htop.symm.trans h))
  · exact haccount kind source child_id dispatched (Option.some.inj (htop.symm.trans h))

/-- A call of the harness whose child has passed. -/
theorem reachable_passed : (system .default).ReachableIf Calm
    ⟨sampleLog ++ [created], [[.submit (.recovery 0) failed "core-1-rec-a"]],
      [⟨.recovery 0, "core-1", "core-1-rec-a"⟩], ["core-1-rec-a"]⟩ := by
  have hread : ∀ r ∈ sampleLog, readable r = true := readable_sampleLog
  have hnew : last ((Kind.recovery 0).child_id failed "a") sampleLog = none := by decide +kernel
  have h₀ : (system .default).ReachableIf Calm ⟨sampleLog, [], [], []⟩ :=
    reachable_failed fun _ _ hwritten => hwritten
  have h₁ : (system .default).ReachableIf Calm
      ⟨sampleLog, [[.attempt_recovery "core-1"]], [], []⟩ :=
    h₀.next (a := .observed failed []) rfl
      (step_observed (List.mem_cons_of_mem _ (List.mem_singleton_self _)) (by decide +kernel))
  have h₂ : (system .default).ReachableIf Calm ⟨sampleLog, [[.executions failed]], [], []⟩ :=
    reachable_step h₁ 0 (answer "a") rfl (calm_step rfl (by simp) (by simp))
      (Frame.step_attempt_recovery hread rfl) rfl
  have h₃ : (system .default).ReachableIf Calm ⟨sampleLog, [[.dispatches failed]], [], []⟩ :=
    reachable_step h₂ 0 (answer "a") rfl (calm_step rfl (by simp) (by simp))
      (Frame.step_executions hread (by decide +kernel)) rfl
  have h₄ : (system .default).ReachableIf Calm
      ⟨sampleLog, [[.create (.recovery 0) failed]], [], []⟩ :=
    reachable_step h₃ 0 (answer "a") rfl (calm_step rfl (by simp) (by simp))
      (Frame.step_dispatches hread (n := 0) (by decide +kernel) (by decide)) rfl
  have h₅ : (system .default).ReachableIf Calm
      ⟨sampleLog ++ [created], [[.authorize (.recovery 0) failed "core-1-rec-a"]],
        [⟨.recovery 0, "core-1", "core-1-rec-a"⟩], []⟩ :=
    reachable_step h₄ 0 (answer "a") rfl
      (calm_step rfl (by rintro _ _ ⟨⟩; exact hnew) (by simp))
      (Frame.step_create hread hnew (by decide +kernel)) rfl
  exact reachable_step h₅ 0 (answer "a") rfl (calm_step rfl (by simp) (by simp))
    (Frame.step_authorize rfl) rfl

end Sample

end RecoveryLayer

end Plachem
