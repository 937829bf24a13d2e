import PlachemMonitor.Recovery.Calls

/-!
# What a recovery call can do

`FrameStep` lists the steps of a call with everything that it knows when it takes them, and
`Frame.step_cases` says that there are no others. What follows for all calls is collected in
`Sound`: the registry is reachable, the sources that calls hold are records of it, and children are
runs that were new.
-/

namespace Plachem

namespace RecoveryLayer

open RunRegistry (last get recent latestRecords)

/-- The records that the layer looks through. -/
def shown (log : Log) : List RunRecord := (latestRecords log).reverse.take 200

theorem mem_shown {log : Log} {r : RunRecord} : r ∈ shown log ↔ RunRegistry.Shown 200 log r :=
  Iff.rfl

variable {layer : Layer}

/-- The steps of a call. -/
inductive FrameStep (layer : Layer) (answer : Answer) (log : Log) : Frame → Outcome → Prop
  | done (f : Frame) : FrameStep layer answer log f (.done log)
  | attempt_recovery {id : String} {source : RunRecord} (hsource : last id log = some source) :
      FrameStep layer answer log (.attempt_recovery id) (.next log (.executions source))
  | executions {source : RunRecord}
      (heligible : (evaluate_recovery source
        (max_execution_attempts (shown log) source.core_run_id)).eligible = true) :
      FrameStep layer answer log (.executions source) (.next log (.dispatches source))
  | dispatches {source : RunRecord}
      (hlt : count_existing_dispatches (shown log) source.core_run_id <
        layer.max_dispatch_attempts) :
      FrameStep layer answer log (.dispatches source)
        (.next log (.create (.recovery (count_existing_dispatches (shown log) source.core_run_id))
          source))
  | requeue {id : String} {source : RunRecord} (hsource : last id log = some source)
      (hdirect : isDirect id = false) :
      FrameStep layer answer log (.recover_watchdog_cancelled id)
        (.done ((Mutation.update_goal_state id (requeue source answer.prior_evidence)
          answer.event_at answer.now).run log))
  | recover_watchdog_cancelled {id : String} {source : RunRecord}
      (hsource : last id log = some source) (hmanaged : source.watchdog_managed = true)
      (hmark : (marks source).watchdog_recovery_source_run_id = none) :
      FrameStep layer answer log (.recover_watchdog_cancelled id) (.next log (.existing source))
  | existing {source : RunRecord}
      (hnone : count_watchdog_children (shown log) source.core_run_id = 0) :
      FrameStep layer answer log (.existing source) (.next log (.create .watchdog source))
  | created {kind : Kind} {source : RunRecord}
      (hid : ∀ q ∈ log, q.core_run_id ≠ kind.child_id source answer.uuid)
      (hkey : ∀ q ∈ log, q.idempotency_key ≠ kind.idempotency_key source answer.key_uuid)
      (hrun : (Mutation.create (createArgs kind source answer) "" answer.now).run log =
        log ++ [(createArgs kind source answer).record (kind.child_id source answer.uuid)
          answer.now]) :
      FrameStep layer answer log (.create kind source)
        ⟨log ++ [(createArgs kind source answer).record (kind.child_id source answer.uuid)
            answer.now],
          [.authorize kind source (kind.child_id source answer.uuid)],
          some ⟨kind, source.core_run_id, kind.child_id source answer.uuid⟩, none⟩
  | found {kind : Kind} {source r : RunRecord} {next : Frame} (hr : r ∈ log)
      (hid : r.core_run_id = kind.child_id source answer.uuid)
      (hkey : r.idempotency_key = kind.idempotency_key source answer.key_uuid)
      (hnext : next = .observe kind source (kind.child_id source answer.uuid) r ∨
        next = .authorize kind source (kind.child_id source answer.uuid)) :
      FrameStep layer answer log (.create kind source) (.next log next)
  | denied {kind : Kind} {source r : RunRecord} {child_id code : String} {log' : Log}
      (happly : (Mutation.transition child_id .BLOCKED none none ("AUTH_" ++ code) answer.now).apply
        log = .ok (r, log')) :
      FrameStep layer answer log (.authorize kind source child_id)
        (.next log' (.observe kind source child_id r))
  | passed {kind : Kind} {source : RunRecord} {child_id : String} :
      FrameStep layer answer log (.authorize kind source child_id)
        ⟨log, [.submit kind source child_id], none, some child_id⟩
  | submitted {kind : Kind} {source r : RunRecord} {child_id reason : String} {log' : Log}
      {status : CoreRunStatus} {binding : Option RunBinding}
      (hstatus : status = .RUNNING ∨ status = .FAIL)
      (happly : (Mutation.transition child_id status binding none reason answer.now).apply log =
        .ok (r, log')) :
      FrameStep layer answer log (.submit kind source child_id)
        (.next log' (.observe kind source child_id r))
  | recovered {kind : Kind} {source dispatched : RunRecord} {child_id : String}
      {restored : List String} (hrestored : answer.restored = some restored)
      (hhandles : handles_recovery restored dispatched = true) :
      FrameStep layer answer log (.observe kind source child_id dispatched)
        ⟨log, [.attempt_recovery dispatched.core_run_id,
          .account kind source child_id dispatched], none, none⟩
  | observe {kind : Kind} {source dispatched : RunRecord} {child_id : String} :
      FrameStep layer answer log (.observe kind source child_id dispatched)
        (.next log (.account kind source child_id dispatched))
  | account {kind : Kind} {source dispatched r : RunRecord} {child_id : String} {log' : Log}
      {left : List Frame}
      (happly : (Mutation.update_goal_state child_id (accounting layer kind source dispatched)
        answer.event_at answer.now).apply log = .ok (r, log'))
      (hleft : left = [] ∨ ∃ n, kind = .recovery n ∧ left = [.execution_started n source child_id] ∧
        is_pre_execution_block dispatched.status dispatched.reason = false) :
      FrameStep layer answer log (.account kind source child_id dispatched)
        ⟨log', left, none, none⟩
  | execution_started {n : Nat} {source : RunRecord} {child_id : String} :
      FrameStep layer answer log (.execution_started n source child_id)
        (.done ((Mutation.update_goal_state child_id (startedAccounting n source) answer.event_at
          answer.now).run log))

theorem actual_id_createArgs (kind : Kind) (source : RunRecord) (answer : Answer) :
    (createArgs kind source answer).actual_id "" = kind.child_id source answer.uuid := by
  have hne : kind.child_id source answer.uuid ≠ "" := by
    cases kind <;> simp [Kind.child_id]
  simp [CreateArgs.actual_id, createArgs, hne]

theorem Frame.step_cases (answer : Answer) (log : Log) (f : Frame) :
    FrameStep layer answer log f (f.step layer answer log) := by
  cases f with
  | attempt_recovery id =>
    simp only [Frame.step]
    split
    · rename_i source hget
      exact .attempt_recovery (RunRegistry.get_ok hget).symm
    · exact .done _
  | executions source =>
    simp only [Frame.step]
    split
    · rename_i records hrecent
      obtain rfl := RunRegistry.recent_ok hrecent
      split
      · rename_i heligible
        exact .executions heligible
      · exact .done _
    · exact .done _
  | dispatches source =>
    simp only [Frame.step]
    split
    · rename_i records hrecent
      obtain rfl := RunRegistry.recent_ok hrecent
      split
      · exact .done _
      · rename_i hlt
        exact .dispatches (Nat.lt_of_not_le hlt)
    · exact .done _
  | recover_watchdog_cancelled id =>
    simp only [Frame.step]
    split
    swap
    · exact .done _
    rename_i source hget
    have hsource := (RunRegistry.get_ok hget).symm
    split
    · exact .done _
    rename_i hmanaged
    split
    · exact .done _
    rename_i hmark
    split
    · rename_i hdirect
      exact .requeue hsource hdirect
    split
    · exact .done _
    · exact .recover_watchdog_cancelled hsource (by simpa using hmanaged) (by simpa using hmark)
  | existing source =>
    simp only [Frame.step]
    split
    · rename_i records hrecent
      obtain rfl := RunRegistry.recent_ok hrecent
      split
      · exact .done _
      · rename_i hlt
        exact .existing (Nat.eq_zero_of_not_pos hlt)
    · exact .done _
  | create kind source =>
    simp only [Frame.step]
    split
    swap
    · exact .done _
    rename_i r created log' hcreate
    have hactual := actual_id_createArgs kind source answer
    rcases RunRegistry.create_ok hcreate with
      ⟨rfl, rfl, hr, hid, hkey, -⟩ | ⟨rfl, rfl, rfl, hid, hkey⟩
    · rw [hactual] at hid
      split
      · exact .found hr hid hkey (.inl rfl)
      · exact .found hr hid hkey (.inr rfl)
    · rw [hactual] at hid
      rw [if_neg (by simp), if_pos rfl, hactual]
      refine .created hid hkey ?_
      rw [Mutation.run, Mutation.apply, hcreate, hactual]
      rfl
  | authorize kind source child_id =>
    simp only [Frame.step]
    split
    · split
      · rename_i happly
        exact .denied happly
      · exact .done _
    · exact .passed
  | submit kind source child_id =>
    simp only [Frame.step]
    split
    · rename_i happly
      refine .submitted ?_ happly
      cases answer.submitted with
      | ok => exact .inl rfl
      | error => exact .inr rfl
    · exact .done _
  | observe kind source child_id dispatched =>
    simp only [Frame.step]
    split
    · rename_i hrestored
      split
      · rename_i hhandles
        exact .recovered hrestored hhandles
      · exact .observe
    · exact .observe
  | account kind source child_id dispatched =>
    simp only [Frame.step]
    split
    · rename_i happly
      split
      · split
        · exact .account happly (.inl rfl)
        · rename_i hblock
          exact .account happly (.inr ⟨_, rfl, rfl, by simpa using hblock⟩)
      · exact .account happly (.inl rfl)
    · exact .done _
  | execution_started n source child_id => exact .execution_started

/-! ## What a step appends -/

/-- The marks that an update of a child leaves. -/
def accountedMarks (kind : Kind) (source dispatched : RunRecord) : Marks :=
  marksOf (match kind with
    | .recovery n => recoveryGoal source.core_run_id (n + 1)
        (!is_pre_execution_block dispatched.status dispatched.reason)
    | .watchdog => watchdogGoal source.core_run_id)

/-- What the record that a step appends says of marks: the run is a new child, the marks stay, or
the call marks its child. -/
inductive Marking (log : Log) (answer : Answer) : Frame → RunRecord → Prop
  | new {kind : Kind} {source r : RunRecord} (hnone : last r.core_run_id log = none)
      (hid : r.core_run_id = kind.child_id source answer.uuid) (hmarks : marks r = Marks.none) :
      Marking log answer (.create kind source) r
  | same {f : Frame} {old r : RunRecord} (hlast : last r.core_run_id log = some old)
      (hmarks : marks r = marks old) : Marking log answer f r
  | account {kind : Kind} {source dispatched r : RunRecord}
      (hmarks : marks r = accountedMarks kind source dispatched) :
      Marking log answer (.account kind source r.core_run_id dispatched) r
  | execution_started {n : Nat} {source r : RunRecord}
      (hmarks : marks r = marksOf (recoveryGoal source.core_run_id (n + 1) true)) :
      Marking log answer (.execution_started n source r.core_run_id) r

theorem id_of_goal_append {log : Log} {id event_at now : String} {args : GoalUpdate}
    {r : RunRecord} (h : (Mutation.update_goal_state id args event_at now).Appends log r) :
    r.core_run_id = id := by
  cases h with
  | update_goal_state hlast h =>
    obtain ⟨hident, -⟩ := RunRecord.goalUpdated_ok h
    exact (congrArg RunRecord.Identity.core_run_id hident).trans (RunRegistry.last_some hlast).2

theorem marking_of_unwritten {log : Log} {answer : Answer} {f : Frame} {m : Mutation}
    {r : RunRecord} (h : m.Appends log r) (hold : last r.core_run_id log ≠ none)
    (hwritten : written m = none) : Marking log answer f r := by
  rcases marks_appended h with ⟨hnone, -⟩ | ⟨old, hlast, ⟨-, hmarks⟩ | ⟨goal, hgoal, -⟩⟩
  · exact absurd hnone hold
  · exact .same hlast hmarks
  · rw [hwritten] at hgoal
    cases hgoal

/-- Only `create` appends a record of a new run. -/
theorem last_of_transition {log : Log} {id reason now : String} {status : CoreRunStatus}
    {binding : Option RunBinding} {outcome : Option AdapterOutcome} {r : RunRecord}
    (h : (Mutation.transition id status binding outcome reason now).Appends log r) :
    last r.core_run_id log ≠ none := by
  cases h with
  | transition hlast _ =>
    rw [Mutation.last_of_identity hlast (RunRecord.transitioned_identity ..)]
    exact Option.some_ne_none _

theorem last_of_goal {log : Log} {id event_at now : String} {args : GoalUpdate} {r : RunRecord}
    (h : (Mutation.update_goal_state id args event_at now).Appends log r) :
    last r.core_run_id log ≠ none := by
  cases h with
  | update_goal_state hlast h =>
    rw [Mutation.last_of_identity hlast (RunRecord.goalUpdated_ok h).1]
    exact Option.some_ne_none _

theorem marks_of_goal_append {log : Log} {id event_at now : String} {args : GoalUpdate}
    {goal : Dict} {r : RunRecord}
    (h : (Mutation.update_goal_state id args event_at now).Appends log r)
    (hgoal : args.goal_state = some goal) : marks r = marksOf goal := by
  cases h with
  | update_goal_state hlast h =>
    obtain ⟨-, -, hstate⟩ := RunRecord.goalUpdated_ok h
    rw [hgoal] at hstate
    exact marks_of_goal hstate

/-- A step leaves the log as it is, or appends one record by a mutation. -/
theorem FrameStep.log_cases {answer : Answer} {log : Log} {f : Frame} {out : Outcome}
    (h : FrameStep layer answer log f out) : out.log = log ∨
      ∃ (m : Mutation) (r : RunRecord), m.Appends log r ∧ m.run log = out.log ∧ out.log = log ++ [r] ∧
        Marking log answer f r := by
  have mutated : ∀ {m : Mutation} {r : RunRecord} {log' : Log}, m.apply log = .ok (r, log') →
      (m.Appends log r → Marking log answer f r) → log' = log ∨
        ∃ (m : Mutation) (r : RunRecord), m.Appends log r ∧ m.run log = log' ∧ log' = log ++ [r] ∧
          Marking log answer f r := by
    intro m r log' happly hmarking
    rcases Mutation.apply_cases happly with hlog | ⟨hlog, happ⟩
    · exact .inl hlog
    · exact .inr ⟨m, r, happ, Mutation.run_of_apply happly, hlog, hmarking happ⟩
  have ran : ∀ {m : Mutation}, (∀ r, m.Appends log r → Marking log answer f r) →
      m.run log = log ∨ ∃ (m' : Mutation) (r : RunRecord), m'.Appends log r ∧
        m'.run log = m.run log ∧ m.run log = log ++ [r] ∧ Marking log answer f r := by
    intro m hmarking
    rcases m.run_cases log with hrun | ⟨r, hrun, happ⟩
    · exact .inl hrun
    · exact .inr ⟨m, r, happ, rfl, hrun, hmarking r happ⟩
  cases h with
  | done | attempt_recovery | executions | dispatches | recover_watchdog_cancelled | existing
  | found | passed | recovered | observe => exact .inl rfl
  | requeue hsource hdirect =>
    exact ran fun r happ => marking_of_unwritten happ (last_of_goal happ) rfl
  | @created kind source hid hkey hrun =>
    have hactual := actual_id_createArgs kind source answer
    have happ : (Mutation.create (createArgs kind source answer) "" answer.now).Appends log
        ((createArgs kind source answer).record
          ((createArgs kind source answer).actual_id "") answer.now) :=
      .create (hactual ▸ hid) hkey
    rw [hactual] at happ
    exact .inr ⟨_, _, happ, hrun, rfl, .new (RunRegistry.last_eq_none.mpr hid) rfl
      (marks_record ..)⟩
  | denied happly =>
    exact mutated happly fun happ => marking_of_unwritten happ (last_of_transition happ) rfl
  | submitted hstatus happly =>
    exact mutated happly fun happ => marking_of_unwritten happ (last_of_transition happ) rfl
  | @account kind source dispatched r child_id log' left happly hleft =>
    refine mutated happly fun happ => ?_
    obtain rfl := id_of_goal_append happ
    refine .account (marks_of_goal_append happ ?_)
    cases kind <;> rfl
  | @execution_started n source child_id =>
    refine ran fun r happ => ?_
    obtain rfl := id_of_goal_append happ
    exact .execution_started (marks_of_goal_append happ rfl)

/-! ## The steps of the system -/

/-- The steps of all calls, and of the rest of the program. -/
inductive StateStep (layer : Layer) (s : State) : Label → State → Prop
  | attempt_recovery (id : String) :
      StateStep layer s (.attempt_recovery id)
        { s with threads := Stacks.spawn s.threads (.attempt_recovery id) }
  | recover_watchdog_cancelled (id : String) :
      StateStep layer s (.recover_watchdog_cancelled id)
        { s with threads := Stacks.spawn s.threads (.recover_watchdog_cancelled id) }
  | observed {record : RunRecord} {restored : List String} (hmem : record ∈ s.log)
      (hhandles : handles_recovery restored record = true) :
      StateStep layer s (.observed record restored)
        { s with threads := Stacks.spawn s.threads (.attempt_recovery record.core_run_id) }
  | step {t : Nat} {answer : Answer} {f : Frame} {out : Outcome}
      (htop : Stacks.top s.threads t = some f) (hstep : FrameStep layer answer s.log f out) :
      StateStep layer s (.step t answer)
        ⟨out.log, Stacks.advance s.threads t out.frames, s.children ++ out.created.toList,
          s.passed ++ out.passed.toList⟩
  | abort {t : Nat} {f : Frame} (htop : Stacks.top s.threads t = some f) :
      StateStep layer s (.abort t) { s with threads := Stacks.advance s.threads t [] }
  | foreign {m : Mutation} (hcopies : Copies s.log m) :
      StateStep layer s (.foreign m) { s with log := m.run s.log }

theorem step_cases {s s' : State} {label : Label} (h : (system layer).step s label = some s') :
    StateStep layer s label s' := by
  cases label with
  | attempt_recovery id =>
    cases h
    exact .attempt_recovery id
  | recover_watchdog_cancelled id =>
    cases h
    exact .recover_watchdog_cancelled id
  | observed record restored =>
    simp only [system] at h
    split at h
    · rename_i hc
      cases h
      exact .observed hc.1 hc.2
    · cases h
  | step t answer =>
    simp only [system] at h
    split at h
    · rename_i f htop
      cases h
      exact .step htop (f.step_cases answer s.log)
    · cases h
  | abort t =>
    simp only [system] at h
    split at h
    · rename_i f htop
      cases h
      exact .abort htop
    · cases h
  | foreign m =>
    simp only [system] at h
    split at h
    · rename_i hc
      cases h
      exact .foreign hc
    · cases h

/-- The log stays, or one record is appended by a mutation. -/
theorem StateStep.log_cases {s s' : State} {label : Label} (h : StateStep layer s label s') :
    s'.log = s.log ∨ ∃ (m : Mutation) (r : RunRecord), m.Appends s.log r ∧
      m.run s.log = s'.log ∧ s'.log = s.log ++ [r] := by
  cases h with
  | attempt_recovery | recover_watchdog_cancelled | observed | abort => exact .inl rfl
  | step htop hstep =>
    rcases hstep.log_cases with hlog | ⟨m, r, happ, hrun, hlog, -⟩
    · exact .inl hlog
    · exact .inr ⟨m, r, happ, hrun, hlog⟩
  | @foreign m hcopies =>
    rcases m.run_cases s.log with hrun | ⟨r, hrun, happ⟩
    · exact .inl hrun
    · exact .inr ⟨m, r, happ, rfl, hrun⟩

theorem StateStep.log_mono {s s' : State} {label : Label} (h : StateStep layer s label s') :
    ∀ r ∈ s.log, r ∈ s'.log := by
  intro r hr
  rcases h.log_cases with hlog | ⟨m, q, -, -, hlog⟩
  · rwa [hlog]
  · rw [hlog]
    exact List.mem_append_left _ hr

/-! ## What every run keeps -/

/-- The record that a call holds of its source. -/
def Frame.source : Frame → Option RunRecord
  | attempt_recovery _ | recover_watchdog_cancelled _ => none
  | executions source | dispatches source | existing source | create _ source
  | authorize _ source _ | submit _ source _ | observe _ source _ _ | account _ source _ _
  | execution_started _ source _ => some source

/-- The child has a record, under the key that its parent gives it, and its parent has one. -/
structure Registered (layer : Layer) (log : Log) (c : Child) : Prop where
  parent : ∃ q ∈ log, q.core_run_id = c.parent
  run : ∃ r ∈ log, r.core_run_id = c.run_id
  key : ∀ n, c.kind = .recovery n → n < layer.max_dispatch_attempts ∧
    ∃ q ∈ log, q.core_run_id = c.parent ∧
      ∃ r ∈ log, r.core_run_id = c.run_id ∧ r.idempotency_key = recovery_key q (n + 1)

theorem Registered.mono {log log' : Log} {c : Child} (h : Registered layer log c)
    (hmono : ∀ r ∈ log, r ∈ log') : Registered layer log' c where
  parent := h.parent.imp fun q hq => ⟨hmono q hq.1, hq.2⟩
  run := h.run.imp fun r hr => ⟨hmono r hr.1, hr.2⟩
  key n hn := by
    obtain ⟨hlt, q, hq, hid, r, hr, hkey⟩ := h.key n hn
    exact ⟨hlt, q, hmono q hq, hid, r, hmono r hr, hkey⟩

structure Sound (layer : Layer) (s : State) : Prop where
  reachable : registry.Reachable s.log
  sources : ∀ f ∈ Stacks.frames s.threads, ∀ source ∈ f.source, source ∈ s.log
  limits : ∀ n source, Frame.create (.recovery n) source ∈ Stacks.frames s.threads →
    n < layer.max_dispatch_attempts
  children : ∀ c ∈ s.children, Registered layer s.log c
  ids : (s.children.map Child.run_id).Nodup

/-- The frames that a step leaves hold the source of the frame, or one that they have read. -/
theorem FrameStep.source {answer : Answer} {log : Log} {f : Frame} {out : Outcome}
    (h : FrameStep layer answer log f out) (hf : ∀ source ∈ f.source, source ∈ log) :
    ∀ g ∈ out.frames, ∀ source ∈ g.source, source ∈ log := by
  cases h with
  | done | requeue | execution_started => exact fun g hg => nomatch hg
  | attempt_recovery hsource | recover_watchdog_cancelled hsource =>
    intro g hg source hs
    obtain rfl := List.mem_singleton.mp hg
    obtain rfl := Option.mem_some_iff.mp hs
    exact (RunRegistry.last_some hsource).1
  | executions | dispatches | existing | created | denied | passed | submitted | observe =>
    intro g hg source hs
    obtain rfl := List.mem_singleton.mp hg
    exact hf source hs
  | found hr hid hkey hnext =>
    intro g hg source hs
    obtain rfl := List.mem_singleton.mp hg
    rcases hnext with rfl | rfl <;> exact hf source hs
  | recovered =>
    intro g hg source hs
    rcases List.mem_cons.mp hg with rfl | hg
    · cases hs
    · obtain rfl := List.mem_singleton.mp hg
      exact hf source hs
  | account happly hleft =>
    intro g hg source hs
    rcases hleft with rfl | ⟨n, rfl, rfl, -⟩
    · cases hg
    · obtain rfl := List.mem_singleton.mp hg
      exact hf source hs

theorem sound_step {s s' : State} {label : Label} (hI : Sound layer s)
    (h : StateStep layer s label s') : Sound layer s' := by
  have hmono := h.log_mono
  have hreach : registry.Reachable s'.log := by
    rcases h.log_cases with hlog | ⟨m, r, -, hrun, -⟩
    · rw [hlog]
      exact hI.reachable
    · exact hI.reachable.next (a := m) trivial (congrArg some hrun)
  have hchildren : ∀ c ∈ s.children, Registered layer s'.log c :=
    fun c hc => (hI.children c hc).mono hmono
  -- a frame that is new when a call begins holds no source
  have spawned : ∀ {f : Frame}, f.source = none → (∀ n source, f ≠ .create n source) →
      Sound layer { s with threads := Stacks.spawn s.threads f } := by
    intro f hf hne
    refine ⟨hI.reachable, fun g hg source hs => ?_, fun n source hg => ?_, hI.children, hI.ids⟩
    · rw [Stacks.frames_spawn] at hg
      rcases List.mem_append.mp hg with hg | hg
      · exact hI.sources g hg source hs
      · obtain rfl := List.mem_singleton.mp hg
        rw [hf] at hs
        cases hs
    · rw [Stacks.frames_spawn] at hg
      rcases List.mem_append.mp hg with hg | hg
      · exact hI.limits n source hg
      · exact absurd (List.mem_singleton.mp hg).symm (hne _ _)
  cases h with
  | attempt_recovery | recover_watchdog_cancelled | observed => exact spawned rfl (by simp)
  | abort htop =>
    refine ⟨hI.reachable, fun g hg => ?_, fun n source hg => ?_, hI.children, hI.ids⟩
    · exact hI.sources g ((Stacks.mem_frames_advance htop hg).resolve_left (by simp))
    · exact hI.limits n source ((Stacks.mem_frames_advance htop hg).resolve_left (by simp))
  | foreign =>
    exact ⟨hreach, fun g hg source hs => hmono _ (hI.sources g hg source hs), hI.limits,
      hchildren, hI.ids⟩
  | @step t answer f out htop hstep =>
    have hf := Stacks.mem_of_top htop
    have hsources : ∀ g ∈ Stacks.frames (Stacks.advance s.threads t out.frames),
        ∀ source ∈ g.source, source ∈ out.log := by
      intro g hg source hs
      rcases Stacks.mem_frames_advance htop hg with hg | hg
      · exact hmono _ (hstep.source (hI.sources f hf) g hg source hs)
      · exact hmono _ (hI.sources g hg source hs)
    refine ⟨hreach, hsources, fun n source hg => ?_, ?_, ?_⟩
    · -- only `dispatches` leaves such a frame
      rcases Stacks.mem_frames_advance htop hg with hg | hg
      swap
      · exact hI.limits n source hg
      cases hstep with
      | dispatches hlt =>
        obtain ⟨hk, rfl⟩ : _ ∧ _ := by simpa [Outcome.next] using hg
        cases hk
        exact hlt
      | found hr hid hkey hnext => rcases hnext with rfl | rfl <;> simp [Outcome.next] at hg
      | account happly hleft => rcases hleft with rfl | ⟨_, rfl, rfl, -⟩ <;> simp at hg
      | _ => simp [Outcome.next, Outcome.done] at hg
    · intro c hc
      rcases List.mem_append.mp hc with hc | hc
      · exact hchildren c hc
      · cases hstep with
        | @created kind source hid hkey hrun =>
          obtain rfl := List.mem_singleton.mp hc
          have hsource : source ∈ s.log := hI.sources _ hf source rfl
          refine ⟨⟨source, List.mem_append_left _ hsource, rfl⟩,
            ⟨_, List.mem_append_right _ (List.mem_singleton_self _), rfl⟩, ?_⟩
          rintro n rfl
          exact ⟨hI.limits n source hf, source, List.mem_append_left _ hsource, rfl, _,
            List.mem_append_right _ (List.mem_singleton_self _), rfl, rfl⟩
        | _ => cases hc
    · cases hstep with
      | @created kind source hid hkey hrun =>
        -- the id of a new child has no record, and every child has one
        rw [List.map_append, List.nodup_append_comm]
        refine List.nodup_cons.mpr ⟨fun hmem => ?_, hI.ids⟩
        obtain ⟨c, hc, hcid⟩ := List.mem_map.mp hmem
        obtain ⟨r, hr, hrid⟩ := (hI.children c hc).run
        exact hid r hr (hrid.trans hcid)
      | _ => simpa [Outcome.next, Outcome.done] using hI.ids

theorem sound (layer : Layer) : (system layer).InductiveIf (fun _ _ => True) (Sound layer) where
  init := by
    rintro s rfl
    exact ⟨Machine.reachable_init rfl, by simp [Stacks.frames], by simp [Stacks.frames], by simp,
      by simp⟩
  step _ _ _ hI _ hstep := sound_step hI (step_cases hstep)

end RecoveryLayer

end Plachem
