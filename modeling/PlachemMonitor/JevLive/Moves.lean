import PlachemMonitor.JevLive.System

/-!
# The moves of a recovery

`Recovery.Moves` has a constructor for each thing that a step of `_recover_live` can do (`step_moves`);
what a recovery keeps on its way is proved by cases on it.

* `Recovery.Sound`: what a recovery has made sure of (`Moves.sound`).
-/

namespace Plachem

namespace JevLive

namespace Recovery

/-- The stage after an exception. -/
def failure (r : Recovery) (e : LiveError) : Stage :=
  .failing r.stage.phase e.describe.1 (String.ofList (e.describe.2.toList.take 240))

/-- The recovery after its abort was sent. -/
def sent (r : Recovery) (a : Abort) : Recovery := { r with aborted := some a }

/-- The recovery after it has looked for the source again. -/
def looked (r : Recovery) (after : Context) : Recovery :=
  { r with aborted := r.aborted.map fun (a : Abort) => { a with after := some after } }

/-- What a step does: the record that it appends, and the recovery, unless it is over. -/
inductive Moves (cfg : Config) (r : Recovery) : Option Dict → Option Recovery → Prop
  | failed (e : LiveError) (h : guarded r.stage = true) :
    Moves cfg r none (some { r with stage := r.failure e })
  | same (h : r.stage = .precheck) : Moves cfg r none (some { r with stage := .checked })
  | changed {seen : Observation} {ctx : Context} {snapshot : Snapshot} (h : r.stage = .precheck)
    (hseen : make_snapshot cfg seen = .ok (ctx, snapshot)) :
    Moves cfg r none (some { r with stage := .rejudging ctx snapshot })
  | dropped {ctx : Context} {snapshot : Snapshot} (decision : Decision) (now : FloatText)
    (h : r.stage = .rejudging ctx snapshot) :
    Moves cfg r (some (recheck_record r.job now decision snapshot)) (some { r with
      stage := .closing "PRECHECK" "STALE_REEVALUATED_NO_ACTION"
        [("fresh_choice", .str decision.choice)] })
  | rejudged {ctx : Context} {snapshot : Snapshot} (decision : Decision) (now : FloatText)
    (h : r.stage = .rejudging ctx snapshot) (hchoice : decision.choice = "SALVAGE")
    (hallowed : snapshot.scope.auto_recovery_allowed = true) :
    Moves cfg r (some (recheck_record r.job now decision snapshot)) (some { r with
      stage := .checked
      window_key := ctx.session_key
      snapshot := snapshot
      ctx := { ctx with session_key := r.job.session_key }
      decision := decision
      rejudged := true })
  | inactive (reason : String) (h : r.stage = .checked) :
    Moves cfg r none (some { r with
      stage := .closing "PRECHECK" "STALE_REEVALUATED_NO_ACTION"
        [("fresh_choice", .str r.decision.choice), ("reason", .str reason)] })
  | placed (path : String) (file : Option (List Char)) (h : r.stage = .checked) :
    Moves cfg r none (some { r with file := file, stage := .handoff path })
  | reused {path : String} (now : FloatText) (h : r.stage = .handoff path)
    (hvalid : r.file.any validate = true) :
    Moves cfg r (some (r.phase now "A_HANDOFF" "REUSED"
      [("handoff_path", .str path), ("writer", .str "code")]))
      (some { r with stage := .terminate path })
  | preparing {path : String} (now : FloatText) (h : r.stage = .handoff path) :
    Moves cfg r (some (r.phase now "A_HANDOFF" "STARTED"
      [("handoff_path", .str path), ("writer", .str "code")]))
      (some { r with stage := .writing path })
  | written {path : String} (content : List Char) (now : FloatText) (h : r.stage = .writing path)
    (hvalid : validate content = true) :
    Moves cfg r (some (r.phase now "A_HANDOFF" "COMPLETE"
      [("handoff_path", .str path), ("writer", .str "code")]))
      (some { r with file := some content, stage := .terminate path })
  | entered {path : String} (now : FloatText) (h : r.stage = .terminate path) :
    Moves cfg r (some (r.phase now "B_TERMINATE" "STARTED" [])) (some { r with stage := .reading path })
  | skipped {path : String} (reason : String) (now : FloatText) (h : r.stage = .reading path) :
    Moves cfg r (some (r.phase now "B_TERMINATE" "SKIPPED_NO_ACTIVE_TASK"
      [("reason", .str reason), ("abort_attempted", .bool false), ("abort_confirmed", .bool false)]))
      (some { r with stage := r.unrestarted path false })
  | read {path : String} {reads : Except LiveError Reads} {fresh : Context} {run_id : String}
    (h : r.stage = .reading path) (hreads : session_context cfg reads = .ok fresh)
    (hactive : (source_task_active cfg fresh).1 = true)
    (hrun : fresh.run_id.filter (· ≠ "") = some run_id) :
    Moves cfg r none (some { r with stage := .aborting path reads fresh run_id })
  | confirmed {path : String} {reads : Except LiveError Reads} {fresh : Context} {run_id : String}
    (reply : Reply) (effective : Bool) (now : FloatText) (h : r.stage = .aborting path reads fresh run_id)
    (hreply : reply.confirmed = true) :
    Moves cfg r (some (r.phase now "B_TERMINATE" "COMPLETE"
      [("abort_attempted", .bool true), ("abort_confirmed", .bool true)]))
      (some { r.sent ⟨run_id, reads, fresh, reply, effective, none⟩ with stage := .restart path })
  | unconfirmed {path : String} {reads : Except LiveError Reads} {fresh : Context} {run_id : String}
    (reply : Reply) (effective : Bool) (h : r.stage = .aborting path reads fresh run_id)
    (hreply : reply.confirmed = false) :
    Moves cfg r none
      (some { r.sent ⟨run_id, reads, fresh, reply, effective, none⟩ with stage := .unconfirmed path })
  | broken {path : String} {reads : Except LiveError Reads} {fresh : Context} {run_id : String}
    (e : LiveError) (effective : Bool) (h : r.stage = .aborting path reads fresh run_id) :
    Moves cfg r none
      (some { r.sent ⟨run_id, reads, fresh, .raised e, effective, none⟩ with stage := r.failure e })
  | alive {path : String} (after : Context) (h : r.stage = .unconfirmed path) :
    Moves cfg r none
      (some { r.looked after with stage := r.failure (.runtime "SOURCE_ABORT_FAILED") })
  | gone {path : String} {after : Context} (reason : String) (now : FloatText)
    (h : r.stage = .unconfirmed path) (hgone : (source_task_active cfg after).1 = false) :
    Moves cfg r (some (r.phase now "B_TERMINATE" "SOURCE_TERMINATED_ABORT_UNCONFIRMED"
      [("reason", .str reason), ("abort_attempted", .bool true), ("abort_confirmed", .bool false)]))
      (some { r.looked after with stage := r.unrestarted path true })
  | started {path : String} (target_key : String) (now : FloatText) (h : r.stage = .restart path) :
    Moves cfg r (some (r.phase now "C_RESTART" "STARTED" [("target_session_key", .str target_key)]))
      (some { r with restarted := true, stage := .turning path target_key })
  | turned {path target_key : String} (turn : Turn) (now : FloatText)
    (h : r.stage = .turning path target_key) :
    Moves cfg r (some (r.phase now "C_RESTART" "COMPLETE"
      [("target_session_key", .str target_key), ("target_session_id", .ofOption .str turn.session_id)]))
      (some { r with stage := .acking path target_key turn })
  | acked {path target_key : String} {turn : Turn} (now : FloatText)
    (h : r.stage = .acking path target_key turn) :
    Moves cfg r (some (r.phase now "D_ACK" "IMPLICIT_BY_RECOVERY_TURN"
      [("target_session_key", .str target_key), ("target_session_id", .ofOption .str turn.session_id)]))
      (some { r with stage := .completing path target_key turn })
  | completed {path target_key : String} {turn : Turn} (extra : List (String × Value)) (now : FloatText)
    (h : r.stage = .completing path target_key turn) (hextra : ∀ m ∈ extra, m.1 ≠ "type") :
    Moves cfg r (some (r.phase now "E_COMPLETE" (final_status turn)
      [("target_session_key", .str target_key), ("target_session_id", .ofOption .str turn.session_id)]))
      (some { r with stage := .closing "E_COMPLETE" (final_status turn) extra })
  | closed {phase status : String} {extra : List (String × Value)} (now : FloatText)
    (h : r.stage = .closing phase status extra) :
    Moves cfg r (some (outcome_record r.job now status extra))
      (some { r with outcome := some status, stage := .finishing })
  | errored {phase error detail : String} (now : FloatText) (h : r.stage = .failing phase error detail) :
    Moves cfg r (some (outcome_record r.job now "RECOVERY_ERROR"
      [("phase", .str phase), ("error", .str error), ("error_detail", .str detail)]))
      (some { r with outcome := some "RECOVERY_ERROR", stage := .finishing })
  | over (h : r.stage = .finishing) : Moves cfg r none none

section Step

variable {cfg : Config} {r : Recovery} {answer : Answer} {record : Option Dict} {next : Option Recovery}

theorem check_moves (h : r.check cfg answer = some (record, next)) : Moves cfg r record next := by
  unfold check at h
  split at h
  · split at h
    · rename_i hstage
      split at h
      · cases h
        exact .failed _ (by rw [hstage]; rfl)
      · rename_i hseen
        split at h
        · cases h
          exact .same hstage
        · cases h
          exact .changed hstage hseen
    · cases h
  · split at h
    · rename_i hstage
      dsimp only at h
      split at h
      · cases h
        exact .dropped _ _ hstage
      · rename_i hnot
        simp only [not_or, not_not, Bool.not_eq_true', Bool.not_eq_false] at hnot
        cases h
        exact .rejudged _ _ hstage hnot.1 (by simpa using hnot.2)
    · cases h
  · split at h
    · rename_i hstage
      split at h
      · cases h
        exact .placed _ _ hstage
      · cases h
        exact .inactive _ hstage
    · cases h
  · cases h

theorem prepare_moves (h : r.prepare cfg answer = some (record, next)) : Moves cfg r record next := by
  unfold prepare at h
  split at h
  · split at h
    · rename_i hstage
      split at h
      · rename_i hvalid
        cases h
        exact .reused _ hstage hvalid
      · cases h
        exact .preparing _ hstage
    · cases h
  · rename_i reads now
    split at h
    · rename_i path hstage
      have hwrite : ∀ content : List Char, some (if validate content then
            { r with file := some content }.log (r.phase now "A_HANDOFF" "COMPLETE"
              [("handoff_path", .str path), ("writer", .str "code")]) (.terminate path)
          else r.fail (.value "RECOVERY_HANDOFF.md missing required non-empty sections")) =
            some (record, next) → Moves cfg r record next := by
        intro content heq
        split at heq
        · rename_i hvalid
          cases heq
          exact .written content _ hstage hvalid
        · cases heq
          exact .failed _ (by rw [hstage]; rfl)
      dsimp only at h
      split at h
      · exact hwrite _ h
      · exact hwrite _ h
      · cases h
        exact .failed _ (by rw [hstage]; rfl)
    · cases h
  · cases h

theorem terminate_moves (h : r.terminate cfg answer = some (record, next)) :
    Moves cfg r record next := by
  unfold terminate at h
  split at h
  · split at h
    · rename_i hstage
      cases h
      exact .entered _ hstage
    · cases h
  · split at h
    · rename_i hstage
      split at h
      · cases h
        exact .failed _ (by rw [hstage]; rfl)
      · rename_i hreads
        split at h
        · cases h
          exact .skipped _ _ hstage
        · rename_i hactive
          split at h
          · cases h
            exact .failed _ (by rw [hstage]; rfl)
          · rename_i hrun
            cases h
            exact .read hstage hreads (by rw [hactive]) hrun
    · rename_i hstage
      split at h
      · cases h
        exact .failed _ (by rw [hstage]; rfl)
      · dsimp only at h
        split at h
        · cases h
          exact .alive _ hstage
        · rename_i hgone
          cases h
          exact .gone _ _ hstage (by rw [hgone])
    · cases h
  · split at h
    · rename_i hstage
      dsimp only at h
      split at h
      · cases h
        exact .broken _ _ hstage
      · split at h
        · rename_i hreply
          cases h
          exact .confirmed _ _ _ hstage hreply
        · rename_i hreply
          cases h
          exact .unconfirmed _ _ hstage (by simpa using hreply)
    · cases h
  · cases h

theorem resume_moves {records : List Dict} (h : r.resume records answer = some (record, next)) :
    Moves cfg r record next := by
  unfold resume at h
  split at h
  · split at h
    · rename_i hstage
      split at h
      · cases h
        exact .failed _ (by rw [hstage]; rfl)
      · cases h
        exact .started _ _ hstage
    · rename_i hstage
      cases h
      exact .acked _ hstage
    · rename_i hstage
      cases h
      exact .completed _ _ hstage (by simp)
    · cases h
  · split at h
    · rename_i hstage
      cases h
      exact .turned _ _ hstage
    · cases h
  · cases h

theorem finish_moves (h : r.finish answer = some (record, next)) : Moves cfg r record next := by
  unfold finish at h
  split at h
  · split at h
    · rename_i hstage
      cases h
      exact .closed _ hstage
    · rename_i hstage
      cases h
      exact .errored _ hstage
    · rename_i hstage
      cases h
      exact .over hstage
    · cases h
  · cases h

theorem step_moves {records : List Dict} (h : r.step cfg records answer = some (record, next)) :
    Moves cfg r record next := by
  unfold step at h
  split at h
  · split at h
    · rename_i hguarded
      cases h
      exact .failed _ hguarded
    · cases h
  · rcases Option.or_eq_some_iff.mp h with h | ⟨-, h⟩
    · exact check_moves h
    rcases Option.or_eq_some_iff.mp h with h | ⟨-, h⟩
    · exact prepare_moves h
    rcases Option.or_eq_some_iff.mp h with h | ⟨-, h⟩
    · exact terminate_moves h
    rcases Option.or_eq_some_iff.mp h with h | ⟨-, h⟩
    · exact resume_moves h
    · exact finish_moves h

end Step

/-! ## What a recovery has made sure of -/

/-- The session is no handoff, no recovery and none of the main agent. -/
structure Eligible (cfg : Config) (job : Job) (window_key : String) : Prop where
  role : session_role job.session_key = .task
  window : session_role window_key = .task
  agent : cfg.lower job.agent_id ≠ "main"

/-- There is a handoff that `HandoffWriter.validate` accepts. -/
def HandedOff (r : Recovery) : Prop := ∃ content, r.file = some content ∧ validate content = true

/-- The run was read as that of a task at work. -/
def Found (cfg : Config) (reads : Except LiveError Reads) (fresh : Context) (run_id : String) : Prop :=
  session_context cfg reads = .ok fresh ∧ (source_task_active cfg fresh).1 = true ∧
    fresh.run_id.filter (· ≠ "") = some run_id

def Unsent (r : Recovery) : Prop := r.aborted = none ∧ r.restarted = false

/-- The abort was confirmed by its reply. -/
def Confirmed (r : Recovery) : Prop := ∃ a, r.aborted = some a ∧ a.reply.confirmed = true

/-- The reply did not confirm the abort, but then the source was not at work any more. -/
def Vanished (cfg : Config) (r : Recovery) : Prop :=
  ∃ a after, r.aborted = some a ∧ a.reply.confirmed = false ∧ a.after = some after ∧
    (source_task_active cfg after).1 = false

/-- How a recovery ends without an exception. -/
def Settled (cfg : Config) (r : Recovery) (status : String) : Prop :=
  status = "STALE_REEVALUATED_NO_ACTION" ∧ r.restarted = false ∧ (r.aborted = none ∨ r.Vanished cfg) ∨
    r.restarted = true

def StageSound (cfg : Config) (r : Recovery) : Stage → Prop
  | .precheck | .checked | .handoff _ | .writing _ => r.Unsent
  | .rejudging ctx snapshot => r.Unsent ∧ snapshot.scope = risk_scope cfg ctx
  | .terminate _ | .reading _ => r.Unsent ∧ r.HandedOff
  | .aborting _ reads fresh run_id => r.Unsent ∧ r.HandedOff ∧ Found cfg reads fresh run_id
  | .unconfirmed _ => r.restarted = false ∧ ∃ a, r.aborted = some a ∧ a.reply.confirmed = false
  | .restart _ => r.Confirmed
  | .turning .. | .acking .. | .completing .. => r.restarted = true
  | .closing _ status extra => r.Settled cfg status ∧ ∀ m ∈ extra, m.1 ≠ "type"
  | .failing .. => True
  | .finishing => ∃ status, r.outcome = some status ∧ (status = "RECOVERY_ERROR" ∨ r.Settled cfg status)

structure Sound (cfg : Config) (r : Recovery) : Prop where
  eligible : Eligible cfg r.job r.window_key
  choice : r.decision.choice = "SALVAGE"
  confident : r.rejudged = false → (salvage_is_confident cfg.floats r.decision).1 = true
  abort : ∀ a, r.aborted = some a → r.HandedOff ∧ Found cfg a.reads a.fresh a.run_id
  restarted : r.restarted = true → r.Confirmed
  stage : r.StageSound cfg r.stage

section Sound

variable {cfg : Config} {r : Recovery}

/-- No session of a handoff or a recovery is in scope. -/
theorem allowed_role {ctx : Context} (h : (risk_scope cfg ctx).auto_recovery_allowed = true) :
    session_role ctx.session_key = .task := by
  simp only [risk_scope, PROTECTED_TAGS, List.any_cons, List.any_nil, Bool.and_eq_true,
    Bool.not_eq_true', Bool.or_eq_false_iff] at h
  obtain ⟨⟨⟨⟨-, -, -, hhandoff, hrecovery, -⟩, -⟩, -⟩, -⟩ := h
  simp [session_role, hhandoff, hrecovery]

/-- A recovery starts from a decision to recover. -/
theorem sound_claimed {c : Call} {j : Judgment} (h : Salvage cfg c.job j) : (c.recovery j).Sound cfg where
  eligible :=
    { role := by
        show session_role c.job.session_key = .task
        have hhandoff := h.looked.role
        have hrecovery := h.role
        cases hrole : session_role c.job.session_key <;> simp_all
      window := allowed_role (h.looked.scope ▸ h.allowed)
      agent := h.agent }
  choice := h.choice
  confident _ := h.confident
  abort _ ha := nomatch ha
  restarted hr := nomatch hr
  stage := ⟨rfl, rfl⟩

/-- The abort is sent, with a handoff there and no other abort before it. -/
theorem Sound.sent (h : r.Sound cfg) {path : String} {reads : Except LiveError Reads} {fresh : Context}
    {run_id : String} (hstage : r.StageSound cfg (.aborting path reads fresh run_id)) {reply : Reply}
    {effective : Bool} {stage : Stage}
    (hnext : StageSound cfg (r.sent ⟨run_id, reads, fresh, reply, effective, none⟩) stage) :
    Sound cfg { r.sent ⟨run_id, reads, fresh, reply, effective, none⟩ with stage := stage } :=
  { h with
    abort := by
      intro a ha
      obtain rfl := Option.some.inj ha
      exact hstage.2
    restarted := fun hr => absurd hr (by simp [Recovery.sent, hstage.1.2])
    stage := hnext }

theorem Sound.looked (h : r.Sound cfg) (hrestarted : r.restarted = false) {after : Context}
    {stage : Stage} (hnext : StageSound cfg (r.looked after) stage) :
    Sound cfg { r.looked after with stage := stage } :=
  { h with
    abort := by
      intro a ha
      obtain ⟨b, hb, rfl⟩ := Option.map_eq_some_iff.mp ha
      exact h.abort b hb
    restarted := fun hr => absurd hr (by simp [Recovery.looked, hrestarted])
    stage := hnext }

/-- What a step leaves is as sound. -/
theorem Moves.sound {record : Option Dict} {r' : Recovery} (hmove : Moves cfg r record (some r'))
    (h : r.Sound cfg) : r'.Sound cfg := by
  have hstage := h.stage
  cases hmove with
  | failed e hguarded => exact { h with stage := trivial }
  | same heq =>
    rw [heq] at hstage
    exact { h with stage := hstage }
  | changed heq hseen =>
    rw [heq] at hstage
    obtain ⟨_, -, hseen⟩ := bind_eq_ok.mp hseen
    split at hseen
    · cases hseen
    cases hseen
    exact { h with stage := ⟨hstage, rfl⟩ }
  | dropped decision now heq =>
    rw [heq] at hstage
    exact { h with stage := ⟨.inl ⟨rfl, hstage.1.2, .inl hstage.1.1⟩, by simp⟩ }
  | rejudged decision now heq hchoice hallowed =>
    rw [heq] at hstage
    exact
      { eligible := { h.eligible with window := allowed_role (hstage.2 ▸ hallowed) }
        choice := hchoice
        confident := by simp
        abort := h.abort
        restarted := h.restarted
        stage := hstage.1 }
  | inactive reason heq =>
    rw [heq] at hstage
    exact { h with stage := ⟨.inl ⟨rfl, hstage.2, .inl hstage.1⟩, by simp⟩ }
  | placed path file heq =>
    rw [heq] at hstage
    exact
      { h with
        abort := fun a ha => absurd ha (by simp [hstage.1])
        stage := hstage }
  | reused now heq hvalid =>
    rw [heq] at hstage
    obtain ⟨content, hfile, hvalid⟩ := (Option.any_eq_true ..).mp hvalid
    exact { h with stage := ⟨hstage, content, hfile, hvalid⟩ }
  | preparing now heq =>
    rw [heq] at hstage
    exact { h with stage := hstage }
  | written content now heq hvalid =>
    rw [heq] at hstage
    exact
      { h with
        abort := fun a ha => absurd ha (by simp [hstage.1])
        stage := ⟨hstage, content, rfl, hvalid⟩ }
  | entered now heq =>
    rw [heq] at hstage
    exact { h with stage := hstage }
  | skipped reason now heq =>
    rw [heq] at hstage
    exact { h with stage := ⟨.inl ⟨rfl, hstage.1.2, .inl hstage.1.1⟩, by simp⟩ }
  | read heq hreads hactive hrun =>
    rw [heq] at hstage
    exact { h with stage := ⟨hstage.1, hstage.2, hreads, hactive, hrun⟩ }
  | confirmed reply effective now heq hreply =>
    rw [heq] at hstage
    exact h.sent hstage ⟨_, rfl, hreply⟩
  | unconfirmed reply effective heq hreply =>
    rw [heq] at hstage
    exact h.sent hstage ⟨hstage.1.2, _, rfl, hreply⟩
  | broken e effective heq =>
    rw [heq] at hstage
    exact h.sent hstage trivial
  | alive after heq =>
    rw [heq] at hstage
    exact h.looked hstage.1 trivial
  | gone reason now heq hgone =>
    rw [heq] at hstage
    obtain ⟨hrestarted, a, ha, hreply⟩ := hstage
    refine h.looked hrestarted ⟨.inl ⟨rfl, hrestarted, .inr ?_⟩, by simp⟩
    exact ⟨{ a with after := some _ }, _, by rw [Recovery.looked, ha, Option.map_some], hreply, rfl, hgone⟩
  | started target_key now heq =>
    rw [heq] at hstage
    exact { h with restarted := fun _ => hstage, stage := rfl }
  | turned turn now heq =>
    rw [heq] at hstage
    exact { h with stage := hstage }
  | acked now heq =>
    rw [heq] at hstage
    exact { h with stage := hstage }
  | completed extra now heq hextra =>
    rw [heq] at hstage
    exact { h with stage := ⟨.inr hstage, hextra⟩ }
  | closed now heq =>
    rw [heq] at hstage
    exact { h with stage := ⟨_, rfl, .inr hstage.1⟩ }
  | errored now heq => exact { h with stage := ⟨_, rfl, .inl rfl⟩ }

end Sound

theorem Moves.job {cfg : Config} {r r' : Recovery} {record : Option Dict}
    (h : Moves cfg r record (some r')) : r'.job = r.job := by
  cases h <;> rfl

end Recovery

/-! ## The machine -/

section Machine

variable {cfg : Config} {w w' : Live}

theorem Nudge.step_plain {t : Nudge} {answer : NudgeAnswer} {record : Option Dict} {next : Option Nudge}
    (h : t.step cfg answer = some (record, next)) : ∀ x ∈ record.toList, Plain x := by
  have houtcome : ∀ turn current reasons now, Plain (t.outcome turn current reasons now) := by
    intro turn current reasons now
    refine Plain.extend (Plain.extend ⟨"live_nudge_outcome", ?_, by simp⟩ ?_) (by simp)
    · simp [Dict.get?_ofList, Value.str]
    · simp [Nudge.fields, nudge_fields]
  have herror : ∀ e now, Plain (t.error e now) := by
    intro e now
    refine Plain.extend (Plain.extend ⟨"live_nudge_error", ?_, by simp⟩ ?_) (by simp)
    · simp [Dict.get?_ofList, Value.str]
    · simp [Nudge.fields, nudge_fields]
  unfold Nudge.step at h
  split at h
  · split at h
    · cases h
      simp
    · cases h
  · split at h
    · dsimp only at h
      split at h
      · cases h
        simpa using houtcome _ _ _ _
      · cases h
        simpa using herror _ _
    · cases h
      simpa using herror _ _
    · cases h

@[simp] theorem mem_discard {names : List String} {s t : String} :
    s ∈ discard names t ↔ s ∈ names ∧ s ≠ t := by
  simp [discard]

@[simp] theorem mem_add {names : List String} {s t : String} : s ∈ add names t ↔ s = t ∨ s ∈ names := by
  by_cases h : s = t <;> simp [add, h]

namespace Live

theorem call_cases {n : Nat} {payload : Dict} (h : step cfg w (.call n payload) = some w') :
    ∃ job, job_of cfg payload = some job ∧
      w' = { w with calls := Function.update w.calls n (some ⟨job, .observing⟩) } := by
  rw [step] at h
  split at h
  · obtain ⟨job, hjob, heq⟩ := Option.map_eq_some_iff.mp h
    exact ⟨job, hjob, heq.symm⟩
  · cases h

theorem evaluate_cases {n : Nat} {answer : CallAnswer} (h : step cfg w (.evaluate n answer) = some w') :
    ∃ c effect next, w.calls n = some c ∧ c.step cfg w.shared answer = some (effect, next) ∧
      w' = { w.apply n c.job.session_id effect with
        calls := Function.update w.calls n (next.call c.job) } := by
  rw [step] at h
  obtain ⟨c, hc, h⟩ := Option.bind_eq_some_iff.mp h
  obtain ⟨⟨effect, next⟩, hstep, heq⟩ := Option.map_eq_some_iff.mp h
  exact ⟨c, effect, next, hc, hstep, heq.symm⟩

theorem recover_cases {n : Nat} {answer : Answer} (h : step cfg w (.recover n answer) = some w') :
    ∃ r record next, w.recoveries n = some r ∧
      r.step cfg w.shared.records answer = some (record, next) ∧
      w' = { w with
        shared.records := w.shared.records ++ record.toList
        shared.inflight :=
          if next.isSome then w.shared.inflight else discard w.shared.inflight r.job.session_id
        recoveries := Function.update w.recoveries n next } := by
  rw [step] at h
  obtain ⟨r, hr, h⟩ := Option.bind_eq_some_iff.mp h
  obtain ⟨⟨record, next⟩, hstep, heq⟩ := Option.map_eq_some_iff.mp h
  exact ⟨r, record, next, hr, hstep, heq.symm⟩

theorem nudge_cases {n : Nat} {answer : NudgeAnswer} (h : step cfg w (.nudge n answer) = some w') :
    ∃ t record next, w.nudges n = some t ∧ t.step cfg answer = some (record, next) ∧
      w' = { w with
        shared.records := w.shared.records ++ record.toList
        shared.nudge_inflight :=
          if next.isSome then w.shared.nudge_inflight
          else discard w.shared.nudge_inflight t.job.session_id
        nudges := Function.update w.nudges n next } := by
  rw [step] at h
  obtain ⟨t, ht, h⟩ := Option.bind_eq_some_iff.mp h
  obtain ⟨⟨record, next⟩, hstep, heq⟩ := Option.map_eq_some_iff.mp h
  exact ⟨t, record, next, ht, hstep, heq.symm⟩

theorem records_apply (n : Nat) (session_id : String) (effect : Effect) :
    ∃ added, (w.apply n session_id effect).shared.records = w.shared.records ++ added := by
  cases effect with
  | append record => exact ⟨[record], rfl⟩
  | dispatch record nudge => exact ⟨[record], rfl⟩
  | _ => exact ⟨[], (List.append_nil _).symm⟩

/-- The history only grows. -/
theorem records_grow {a : Label} (h : step cfg w a = some w') :
    ∃ added, w'.shared.records = w.shared.records ++ added := by
  cases a with
  | call n payload =>
    obtain ⟨_, -, rfl⟩ := call_cases h
    exact ⟨[], (List.append_nil _).symm⟩
  | evaluate n answer =>
    obtain ⟨c, effect, next, -, -, rfl⟩ := evaluate_cases h
    exact records_apply n c.job.session_id effect
  | recover n answer =>
    obtain ⟨_, record, _, -, -, rfl⟩ := recover_cases h
    exact ⟨record.toList, rfl⟩
  | nudge n answer =>
    obtain ⟨_, record, _, -, -, rfl⟩ := nudge_cases h
    exact ⟨record.toList, rfl⟩
  | restart =>
    obtain rfl := Option.some.inj h
    exact ⟨[], (List.append_nil _).symm⟩

/-- What every state of the machine keeps. -/
structure Sound (cfg : Config) (w : Live) : Prop where
  calls : ∀ n c, w.calls n = some c → c.stage.Sound cfg c.job w.shared.records
  recoveries : ∀ n r, w.recoveries n = some r → r.Sound cfg
  inflight : ∀ n r, w.recoveries n = some r → r.job.session_id ∈ w.shared.inflight
  one : ∀ n m r r', w.recoveries n = some r → w.recoveries m = some r' →
    r.job.session_id = r'.job.session_id → n = m

/-- What an effect leaves of the threads of recoveries. -/
theorem apply_recoveries {n : Nat} {session_id : String} {effect : Effect}
    (h : ∀ r, effect ≠ .claim r) :
    (w.apply n session_id effect).recoveries = w.recoveries ∧
      (w.apply n session_id effect).shared.inflight = w.shared.inflight := by
  cases effect with
  | claim r => exact absurd rfl (h r)
  | _ => exact ⟨rfl, rfl⟩

theorem Sound.calls_next {n : Nat} {c : Call} {next : Next} {records : List Dict} (h : w.Sound cfg)
    (hnext : next.Sound cfg c.job w.shared.records) (hrecords : w.shared.records <+: records) :
    ∀ m d, Function.update w.calls n (next.call c.job) m = some d →
      d.stage.Sound cfg d.job records := by
  intro m d hd
  by_cases hm : m = n
  · subst hm
    rw [Function.update_self] at hd
    cases next with
    | more stage =>
      obtain rfl := Option.some.inj hd
      exact CallStage.Sound.mono hnext hrecords
    | done result => cases hd
  · rw [Function.update_of_ne hm] at hd
    exact (h.calls m d hd).mono hrecords

theorem Sound.claim {n : Nat} {c : Call} {j : Judgment} {calls : Nat → Option Call} (h : w.Sound cfg)
    (hj : Salvage cfg c.job j) (hnot : c.job.session_id ∉ w.shared.inflight)
    (hcalls : ∀ m d, calls m = some d → d.stage.Sound cfg d.job w.shared.records) :
    Sound cfg { w.apply n c.job.session_id (.claim (c.recovery j)) with calls := calls } where
  calls := hcalls
  recoveries m r hr := by
    dsimp only [apply] at hr
    by_cases hm : m = n
    · subst hm
      rw [Function.update_self] at hr
      obtain rfl := Option.some.inj hr
      exact Recovery.sound_claimed hj
    · rw [Function.update_of_ne hm] at hr
      exact h.recoveries m r hr
  inflight m r hr := by
    dsimp only [apply] at hr ⊢
    by_cases hm : m = n
    · subst hm
      rw [Function.update_self] at hr
      obtain rfl := Option.some.inj hr
      exact mem_add.mpr (.inl rfl)
    · rw [Function.update_of_ne hm] at hr
      exact mem_add.mpr (.inr (h.inflight m r hr))
  one m k r r' hr hr' hsame := by
    dsimp only [apply] at hr hr'
    by_cases hm : m = n
    · by_cases hk : k = n
      · rw [hm, hk]
      · subst hm
        rw [Function.update_self] at hr
        rw [Function.update_of_ne hk] at hr'
        obtain rfl := Option.some.inj hr
        exact absurd (hsame ▸ h.inflight k r' hr') hnot
    · rw [Function.update_of_ne hm] at hr
      by_cases hk : k = n
      · subst hk
        rw [Function.update_self] at hr'
        obtain rfl := Option.some.inj hr'
        exact absurd (hsame ▸ h.inflight m r hr) hnot
      · rw [Function.update_of_ne hk] at hr'
        exact h.one m k r r' hr hr' hsame

theorem Sound.recover {n : Nat} {r : Recovery} {record : Option Dict} {next : Option Recovery}
    (h : w.Sound cfg) (hr : w.recoveries n = some r) (hmove : r.Moves cfg record next) :
    Sound cfg { w with
      shared.records := w.shared.records ++ record.toList
      shared.inflight :=
        if next.isSome then w.shared.inflight else discard w.shared.inflight r.job.session_id
      recoveries := Function.update w.recoveries n next } where
  calls m c hc := (h.calls m c hc).mono (List.prefix_append ..)
  recoveries m q hq := by
    dsimp only at hq
    by_cases hm : m = n
    · subst hm
      rw [Function.update_self] at hq
      subst hq
      exact hmove.sound (h.recoveries m r hr)
    · rw [Function.update_of_ne hm] at hq
      exact h.recoveries m q hq
  inflight m q hq := by
    dsimp only at hq ⊢
    by_cases hm : m = n
    · subst hm
      rw [Function.update_self] at hq
      subst hq
      rw [hmove.job]
      exact h.inflight m r hr
    · rw [Function.update_of_ne hm] at hq
      split
      · exact h.inflight m q hq
      · exact mem_discard.mpr ⟨h.inflight m q hq, fun hsame => hm (h.one m n q r hq hr hsame)⟩
  one m k q q' hq hq' hsame := by
    dsimp only at hq hq'
    have hjob : ∀ i p, Function.update w.recoveries n next i = some p →
        ∃ p₀, w.recoveries i = some p₀ ∧ p.job = p₀.job := by
      intro i p hp
      by_cases hi : i = n
      · subst hi
        rw [Function.update_self] at hp
        subst hp
        exact ⟨r, hr, hmove.job⟩
      · rw [Function.update_of_ne hi] at hp
        exact ⟨p, hp, rfl⟩
    obtain ⟨p, hp, hpjob⟩ := hjob m q hq
    obtain ⟨p', hp', hpjob'⟩ := hjob k q' hq'
    exact h.one m k p p' hp hp' (by rw [← hpjob, ← hpjob', hsame])

theorem sound_step {a : Label} (h : w.Sound cfg) (hstep : step cfg w a = some w') : w'.Sound cfg := by
  cases a with
  | call n payload =>
    obtain ⟨job, -, rfl⟩ := call_cases hstep
    refine { h with calls := fun m c hc => ?_ }
    dsimp only at hc
    by_cases hm : m = n
    · subst hm
      rw [Function.update_self] at hc
      obtain rfl := Option.some.inj hc
      trivial
    · rw [Function.update_of_ne hm] at hc
      exact h.calls m c hc
  | evaluate n answer =>
    obtain ⟨c, effect, next, hc, hcall, rfl⟩ := evaluate_cases hstep
    obtain ⟨heffect, hnext⟩ := Call.step_sound (h.calls n c hc) hcall
    obtain ⟨added, hadded⟩ := records_apply (w := w) n c.job.session_id effect
    have hprefix : w.shared.records <+: (w.apply n c.job.session_id effect).shared.records :=
      hadded ▸ List.prefix_append ..
    have hcalls := h.calls_next (n := n) hnext hprefix
    by_cases hclaim : ∃ r, effect = .claim r
    · obtain ⟨r, rfl⟩ := hclaim
      obtain ⟨j, read, hstage, rfl, hnot⟩ := heffect
      have hsalvage := h.calls n c hc
      rw [hstage] at hsalvage
      exact h.claim hsalvage.1 hnot hcalls
    · obtain ⟨hrecoveries, hinflight⟩ := @apply_recoveries w n c.job.session_id effect
        (not_exists.mp hclaim)
      exact
        { calls := hcalls
          recoveries := by rw [hrecoveries]; exact h.recoveries
          inflight := by rw [hrecoveries, hinflight]; exact h.inflight
          one := by rw [hrecoveries]; exact h.one }
  | recover n answer =>
    obtain ⟨r, record, next, hr, hmove, rfl⟩ := recover_cases hstep
    exact h.recover hr (Recovery.step_moves hmove)
  | nudge n answer =>
    obtain ⟨t, record, next, -, -, rfl⟩ := nudge_cases hstep
    exact { h with calls := fun m c hc => (h.calls m c hc).mono (List.prefix_append ..) }
  | restart =>
    obtain rfl := Option.some.inj hstep
    exact ⟨by simp, by simp, by simp, by simp⟩

theorem sound : (live cfg).InductiveIf (fun _ _ => True) (Sound cfg) where
  init := by
    rintro w rfl
    exact ⟨by simp [start], by simp [start], by simp [start], by simp [start]⟩
  step _ _ _ h _ hstep := sound_step h hstep

end Live

end Machine

end JevLive

end Plachem
