import PlachemMonitor.Recovery.Ownership

/-!
# What marks tell

In undisturbed runs a mark names a child of its source, and a child that is marked without an
execution attempt has not passed the authorization, and does not pass it any more (`Marked`).
-/

namespace Plachem

namespace RecoveryLayer

open RunRegistry (last)

variable {layer : Layer}

/-- The child was dispatched by `attempt_recovery` on the run. -/
def Child.isOf (p : String) (c : Child) : Bool :=
  match c.kind with
  | .recovery _ => c.parent == p
  | .watchdog => false

structure Marked (s : State) : Prop where
  /-- A child is not marked before its call marks it. -/
  early : ∀ f ∈ Stacks.frames s.threads, f.unaccounted = true → ∀ x, f.childId = some x →
    ∀ r ∈ s.log, r.core_run_id = x → marks r = Marks.none
  /-- A child that is to be authorized has not passed. -/
  gate : ∀ kind source x, Frame.authorize kind source x ∈ Stacks.frames s.threads → x ∉ s.passed
  /-- The record of a child that has passed says that its execution has started. -/
  started : ∀ kind source x d, Frame.observe kind source x d ∈ Stacks.frames s.threads ∨
    Frame.account kind source x d ∈ Stacks.frames s.threads → x ∈ s.passed →
      is_pre_execution_block d.status d.reason = false
  /-- The second update of a child repeats the marks of the first. -/
  repeated : ∀ n source x, Frame.execution_started n source x ∈ Stacks.frames s.threads →
    ∀ r, last x s.log = some r → marks r = marksOf (recoveryGoal source.core_run_id (n + 1) true)
  sound : ∀ r ∈ s.log, ∀ p, isChildOf p r = true →
    ∃ c ∈ s.children, c.isOf p = true ∧ c.run_id = r.core_run_id
  settled : ∀ r ∈ s.log, is_recovery_child r = true →
    (marks r).recovery_execution_attempt < 1 → r.core_run_id ∉ s.passed
  known : ∀ x ∈ s.passed, ∃ r ∈ s.log, r.core_run_id = x

/-! ## What the marks of a child are -/

theorem textAt_ofList (ms : List (String × Value)) (h : (ms.map Prod.fst).Nodup) (key : String)
    (source : String) (hfind : (ms.find? fun m => m.1 == key).map Prod.snd = some (.str source)) :
    textAt (Dict.ofList ms h) key = if source = "" then none else some source := by
  obtain ⟨m, hm, hv⟩ := Option.map_eq_some_iff.mp hfind
  rw [textAt, Dict.get?_ofList, hm, Option.map_some, hv]
  rfl

theorem marks_recoveryGoal (source : String) (n : Nat) (started : Bool) :
    marksOf (recoveryGoal source n started) =
      ⟨if source = "" then none else some source, if started then 1 else 0, none⟩ := by
  rw [marksOf, Marks.mk.injEq]
  refine ⟨textAt_ofList _ _ _ _ rfl, ?_, ?_⟩
  · rw [intAt, recoveryGoal, Dict.get?_ofList]
    rfl
  · rw [textAt, recoveryGoal, Dict.get?_ofList]
    rfl

theorem marks_watchdogGoal (source : String) :
    marksOf (watchdogGoal source) = ⟨none, 0, if source = "" then none else some source⟩ := by
  rw [marksOf, Marks.mk.injEq]
  refine ⟨?_, ?_, textAt_ofList _ _ _ _ rfl⟩
  · rw [textAt, watchdogGoal, Dict.get?_ofList]
    rfl
  · rw [intAt, watchdogGoal, Dict.get?_ofList]
    rfl

theorem isChildOf_iff {p : String} {r : RunRecord} :
    isChildOf p r = true ↔ (marks r).recovery_source_run_id = some p := by
  rw [isChildOf, beq_iff_eq]

theorem isChildOf_none {p : String} {r : RunRecord} (h : marks r = Marks.none) :
    isChildOf p r = false := by
  rw [isChildOf, h]
  rfl

/-- A record that is marked as a child of `p` by the update of a call is of a call on `p`. -/
theorem accountedMarks_source {kind : Kind} {source dispatched : RunRecord} {p : String}
    (h : (accountedMarks kind source dispatched).recovery_source_run_id = some p) :
    (∃ n, kind = .recovery n) ∧ source.core_run_id = p ∧
      (accountedMarks kind source dispatched).recovery_execution_attempt =
        if is_pre_execution_block dispatched.status dispatched.reason then 0 else 1 := by
  cases kind with
  | recovery n =>
    rw [accountedMarks, marks_recoveryGoal] at h ⊢
    dsimp only at h ⊢
    split at h
    · cases h
    · refine ⟨⟨n, rfl⟩, Option.some.inj h, ?_⟩
      cases is_pre_execution_block dispatched.status dispatched.reason <;> rfl
  | watchdog =>
    rw [accountedMarks, marks_watchdogGoal] at h
    cases h

/-! ## Step lemmas -/

section Step

variable {s s' : State} {label : Label}

theorem Sound.last_child (hS : Sound layer s) (hO : Owned s) {f : Frame} {x : String}
    (hf : f ∈ Stacks.frames s.threads) (hx : f.childId = some x) : last x s.log ≠ none := by
  obtain ⟨c, hc, rfl⟩ := Option.map_eq_some_iff.mp hx
  obtain ⟨r, hr, hid⟩ := (hS.children c (hO.children f hf c hc)).run
  exact fun hnone => RunRegistry.last_eq_none.mp hnone r hr hid

/-- A record of the new log is one of the old log, or is what the step appended. -/
theorem mem_log_cases (h : StateStep layer s label s') (hu : Undisturbed s label) {r : RunRecord}
    (hr : r ∈ s'.log) : r ∈ s.log ∨ s'.log = s.log ++ [r] ∧ Appended s label r := by
  rcases h.appended hu with hlog | ⟨q, hlog, happ⟩
  · exact .inl (by rwa [hlog] at hr)
  · rw [hlog] at hr
    rcases List.mem_append.mp hr with hr | hr
    · exact .inl hr
    · obtain rfl := List.mem_singleton.mp hr
      exact .inr ⟨hlog, happ⟩

/-- What a frame that is left says of the child that it holds. -/
theorem FrameStep.unaccounted {t : Nat} {answer : Answer} {f g : Frame} {out : Outcome}
    (h : FrameStep layer answer s.log f out) (htop : Stacks.top s.threads t = some f)
    (hu : Undisturbed s (.step t answer)) (hg : g ∈ out.frames) (hun : g.unaccounted = true) :
    f.unaccounted = true ∧ f.childId = g.childId ∧
      (∀ kind source x d, f ≠ .account kind source x d) ∨
    ∃ kind source, f = .create kind source ∧
      g = .authorize kind source (kind.child_id source answer.uuid) ∧
      ∀ q ∈ s.log, q.core_run_id ≠ kind.child_id source answer.uuid := by
  cases h with
  | done | requeue | execution_started => cases hg
  | attempt_recovery | executions | dispatches | recover_watchdog_cancelled | existing =>
    obtain rfl := List.mem_singleton.mp hg
    cases hun
  | denied | passed | submitted | observe =>
    obtain rfl := List.mem_singleton.mp hg
    exact .inl ⟨rfl, rfl, by simp⟩
  | created hid =>
    obtain rfl := List.mem_singleton.mp hg
    exact .inr ⟨_, _, rfl, rfl, hid⟩
  | found hr hid hkey hnext =>
    exact absurd hid (RunRegistry.last_eq_none.mp (hu _ _ htop) _ hr)
  | recovered =>
    rcases List.mem_cons.mp hg with rfl | hg
    · cases hun
    · obtain rfl := List.mem_singleton.mp hg
      exact .inl ⟨rfl, rfl, by simp⟩
  | account happly hleft =>
    rcases hleft with rfl | ⟨n, rfl, rfl, -⟩
    · cases hg
    · obtain rfl := List.mem_singleton.mp hg
      cases hun

/-- A record that a step appends to a child that is not marked yet has no marks, unless this is the
step that marks it. -/
theorem Appended.unmarked (hI : Marked s) {f : Frame}
    {r : RunRecord} (happ : Appended s label r) (hf : f ∈ Stacks.frames s.threads)
    (hun : f.unaccounted = true) (hx : f.childId = some r.core_run_id)
    (hne : ∀ t answer g, label = .step t answer → Stacks.top s.threads t = some g →
      g.childId = some r.core_run_id → f = g ∧ ∀ kind source x d, g ≠ .account kind source x d) :
    marks r = Marks.none := by
  cases happ with
  | new _ hmarks => exact hmarks
  | same hlast hmarks =>
    obtain ⟨hmem, hid⟩ := RunRegistry.last_some hlast
    rw [hmarks]
    exact hI.early f hf hun _ hx _ hmem hid
  | account htop hmarks => exact absurd rfl ((hne _ _ _ rfl htop rfl).2 _ _ _ _)
  | execution_started htop hmarks =>
    obtain ⟨rfl, -⟩ := hne _ _ _ rfl htop rfl
    cases hun

theorem early_step (hO : Owned s) (hI : Marked s)
    (h : StateStep layer s label s') (hu : Undisturbed s label) :
    ∀ f ∈ Stacks.frames s'.threads, f.unaccounted = true → ∀ x, f.childId = some x →
      ∀ r ∈ s'.log, r.core_run_id = x → marks r = Marks.none := by
  intro f hf hun x hx r hr hrx
  subst hrx
  have hlog := mem_log_cases h hu hr
  -- the frame was there, and no other frame holds the child
  have old : f ∈ Stacks.frames s.threads → (∀ t answer g, label = .step t answer →
      Stacks.top s.threads t = some g → g.childId = some r.core_run_id →
        f = g ∧ ∀ kind source x d, g ≠ .account kind source x d) → marks r = Marks.none := by
    intro hf hne
    rcases hlog with hr | ⟨-, happ⟩
    · exact hI.early f hf hun _ hx r hr rfl
    · exact happ.unmarked hI hf hun hx hne
  cases h with
  | attempt_recovery | recover_watchdog_cancelled | observed =>
    rw [Stacks.frames_spawn] at hf
    rcases List.mem_append.mp hf with hf | hf
    · exact old hf (by simp)
    · obtain rfl := List.mem_singleton.mp hf
      cases hun
  | foreign => exact old hf (by simp)
  | abort htop => exact old ((Stacks.mem_frames_advance htop hf).resolve_left (by simp)) (by simp)
  | @step t answer g out htop hstep =>
    have hg := Stacks.mem_of_top htop
    by_cases hleft : f ∈ out.frames
    · rcases hstep.unaccounted htop hu hleft hun with ⟨hun', hid, hne⟩ | ⟨kind, source, rfl, rfl, hnew⟩
      · rcases hlog with hr | ⟨-, happ⟩
        · exact hI.early g hg hun' _ (hid.trans hx) r hr rfl
        · refine happ.unmarked hI hg hun' (hid.trans hx) ?_
          rintro t' answer' g' ⟨⟩ htop' -
          obtain rfl := Option.some.inj (htop.symm.trans htop')
          exact ⟨rfl, hne⟩
      · -- the child is new
        obtain hid : kind.child_id source answer.uuid = r.core_run_id := Option.some.inj hx
        rcases hlog with hr | ⟨-, happ⟩
        · exact absurd hid.symm (hnew r hr)
        · have hnone : last r.core_run_id s.log = none :=
            RunRegistry.last_eq_none.mpr (hid ▸ hnew)
          cases happ with
          | new _ hmarks => exact hmarks
          | same hlast _ =>
            rw [hnone] at hlast
            cases hlast
          | account htop' => cases htop.symm.trans htop'
          | execution_started htop' => cases htop.symm.trans htop'
    · refine old ((Stacks.mem_frames_advance htop hf).resolve_left hleft) ?_
      rintro t' answer' g' ⟨⟩ htop' hgx
      exact absurd (hO.others htop' hgx hf hx) hleft

/-- A run passes in a step that authorizes it. -/
theorem passed_cases (h : StateStep layer s label s') {x : String} (hx : x ∈ s'.passed) :
    x ∈ s.passed ∨ ∃ t answer kind source, label = .step t answer ∧
      Stacks.top s.threads t = some (.authorize kind source x) ∧ s'.log = s.log := by
  cases h with
  | attempt_recovery | recover_watchdog_cancelled | observed | abort | foreign => exact .inl hx
  | @step t answer f out htop hstep =>
    rcases List.mem_append.mp hx with hx | hx
    · exact .inl hx
    · cases hstep with
      | passed =>
        obtain rfl := List.mem_singleton.mp hx
        exact .inr ⟨t, answer, _, _, rfl, htop, rfl⟩
      | _ => cases hx

/-- A frame after a step was there before and did not run, or was left by the frame that ran. -/
theorem frame_cases (h : StateStep layer s label s') {f : Frame}
    (hf : f ∈ Stacks.frames s'.threads) :
    (f ∈ Stacks.frames s.threads ∧ ∀ t answer g, label = .step t answer →
      Stacks.top s.threads t = some g → ∀ x, g.childId = some x → Owned s → f.childId ≠ some x) ∨
    f.child = none ∧ f.source = none ∨
    ∃ t answer g out, label = .step t answer ∧ Stacks.top s.threads t = some g ∧
      FrameStep layer answer s.log g out ∧ f ∈ out.frames ∧ s'.log = out.log ∧
      s'.passed = s.passed ++ out.passed.toList ∧
      s'.children = s.children ++ out.created.toList := by
  cases h with
  | attempt_recovery | recover_watchdog_cancelled | observed =>
    rw [Stacks.frames_spawn] at hf
    rcases List.mem_append.mp hf with hf | hf
    · exact .inl ⟨hf, by simp⟩
    · obtain rfl := List.mem_singleton.mp hf
      exact .inr (.inl ⟨rfl, rfl⟩)
  | foreign => exact .inl ⟨hf, by simp⟩
  | abort htop =>
    exact .inl ⟨(Stacks.mem_frames_advance htop hf).resolve_left (by simp), by simp⟩
  | @step t answer g out htop hstep =>
    by_cases hleft : f ∈ out.frames
    · exact .inr (.inr ⟨t, answer, g, out, rfl, htop, hstep, hleft, rfl, rfl, rfl⟩)
    · refine .inl ⟨(Stacks.mem_frames_advance htop hf).resolve_left hleft, ?_⟩
      rintro t' answer' g' ⟨⟩ htop' x hgx hO hfx
      exact hleft (hO.others htop' hgx hf hfx)

theorem gate_step (hO : Owned s) (hI : Marked s) (h : StateStep layer s label s')
    (hu : Undisturbed s label) :
    ∀ kind source x, Frame.authorize kind source x ∈ Stacks.frames s'.threads →
      x ∉ s'.passed := by
  intro kind source x hf hx
  rcases frame_cases h hf with ⟨hf, hothers⟩ | ⟨hnone, -⟩ | ⟨t, answer, g, out, rfl, htop, hstep, hleft, -, hpassed, -⟩
  · rcases passed_cases h hx with hx | ⟨t, answer, kind', source', hlabel, htop, -⟩
    · exact hI.gate kind source x hf hx
    · exact hothers t answer _ hlabel htop x rfl hO rfl
  · cases hnone
  · rcases hstep.unaccounted htop hu hleft rfl with ⟨hun, hid, -⟩ | ⟨kind', source', rfl, heq, hnew⟩
    · -- no frame that holds a child is followed by `authorize`
      cases hstep with
      | found hr hid' hkey hnext =>
        exact absurd hid' (RunRegistry.last_eq_none.mp (hu _ _ htop) _ hr)
      | created => cases hun
      | account happly hleft' => rcases hleft' with rfl | ⟨_, rfl, rfl, -⟩ <;> simp at hleft
      | _ => simp [Outcome.next, Outcome.done] at hleft
    · obtain ⟨rfl, rfl, rfl⟩ : kind = kind' ∧ source = source' ∧ x = _ := by simpa using heq
      have hold : kind.child_id source answer.uuid ∈ s.passed := by
        rcases passed_cases h hx with hx | ⟨t', answer', _, _, hlabel, htop', -⟩
        · exact hx
        · cases hlabel
          cases htop.symm.trans htop'
      obtain ⟨r, hr, hid⟩ := hI.known _ hold
      exact hnew r hr hid

theorem status_of_transition {log log' : Log} {id reason now : String} {status : CoreRunStatus}
    {binding : Option RunBinding} {outcome : Option AdapterOutcome} {r : RunRecord}
    (h : (Mutation.transition id status binding outcome reason now).apply log = .ok (r, log')) :
    r.status = status := by
  obtain ⟨old, -, h⟩ := bind_eq_ok.mp h
  split at h
  · rename_i heq
    cases h
    exact heq.symm
  · split at h
    · cases h
    · cases h
      exact RunRecord.transitioned_status ..

theorem started_step (hO : Owned s) (hI : Marked s) (h : StateStep layer s label s')
    (hu : Undisturbed s label) :
    ∀ kind source x d, Frame.observe kind source x d ∈ Stacks.frames s'.threads ∨
      Frame.account kind source x d ∈ Stacks.frames s'.threads → x ∈ s'.passed →
        is_pre_execution_block d.status d.reason = false := by
  intro kind source x d hf hx
  obtain ⟨f, hf, hfx⟩ : ∃ f ∈ Stacks.frames s'.threads,
      f = .observe kind source x d ∨ f = .account kind source x d :=
    hf.elim (fun h => ⟨_, h, .inl rfl⟩) fun h => ⟨_, h, .inr rfl⟩
  have hid : f.childId = some x := by rcases hfx with rfl | rfl <;> rfl
  rcases frame_cases h hf with ⟨hf, hothers⟩ | ⟨hnone, -⟩ | ⟨t, answer, g, out, rfl, htop, hstep, hleft, -, hpassed, -⟩
  · rcases passed_cases h hx with hx | ⟨t, answer, kind', source', hlabel, htop, -⟩
    · refine hI.started kind source x d ?_ hx
      rcases hfx with rfl | rfl
      · exact .inl hf
      · exact .inr hf
    · exact absurd hid (hothers t answer _ hlabel htop x rfl hO)
  · rw [Frame.childId, hnone] at hid
    cases hid
  · have hg := Stacks.mem_of_top htop
    cases hstep with
    | denied happly =>
      obtain rfl := List.mem_singleton.mp hleft
      rcases hfx with hfx | hfx <;> cases hfx
      refine absurd ?_ (hI.gate _ _ _ hg)
      simpa [hpassed, Outcome.next] using hx
    | submitted hstatus happly =>
      obtain rfl := List.mem_singleton.mp hleft
      rcases hfx with hfx | hfx <;> cases hfx
      have hstat := status_of_transition happly
      rcases hstatus with rfl | rfl <;> simp [is_pre_execution_block, hstat]
    | observe =>
      obtain rfl := List.mem_singleton.mp hleft
      rcases hfx with hfx | hfx <;> cases hfx
      exact hI.started _ _ _ _ (.inl hg) (by simpa [hpassed, Outcome.next] using hx)
    | recovered =>
      rcases List.mem_cons.mp hleft with rfl | hleft
      · rcases hfx with hfx | hfx <;> cases hfx
      · obtain rfl := List.mem_singleton.mp hleft
        rcases hfx with hfx | hfx <;> cases hfx
        exact hI.started _ _ _ _ (.inl hg) (by simpa [hpassed] using hx)
    | found hr hid' hkey hnext =>
      exact absurd hid' (RunRegistry.last_eq_none.mp (hu _ _ htop) _ hr)
    | account happly hleft' =>
      rcases hleft' with rfl | ⟨_, rfl, rfl, -⟩
      · cases hleft
      · obtain rfl := List.mem_singleton.mp hleft
        rcases hfx with hfx | hfx <;> cases hfx
    | done | requeue | execution_started => cases hleft
    | attempt_recovery | executions | dispatches | recover_watchdog_cancelled | existing | created
    | passed =>
      obtain rfl := List.mem_singleton.mp hleft
      rcases hfx with hfx | hfx <;> cases hfx

/-- `update_goal_state` always appends. -/
theorem apply_goal {log log' : Log} {id event_at now : String} {args : GoalUpdate} {r : RunRecord}
    (h : (Mutation.update_goal_state id args event_at now).apply log = .ok (r, log')) :
    log' = log ++ [r] ∧ (Mutation.update_goal_state id args event_at now).Appends log r := by
  obtain ⟨old, hold, h⟩ := bind_eq_ok.mp h
  obtain ⟨r', hr', h⟩ := bind_eq_ok.mp h
  cases h
  exact ⟨rfl, .update_goal_state (RunRegistry.require_ok hold) hr'⟩

theorem repeated_step (hS : Sound layer s) (hO : Owned s) (hI : Marked s)
    (h : StateStep layer s label s') (hu : Undisturbed s label) :
    ∀ n source x, Frame.execution_started n source x ∈ Stacks.frames s'.threads →
      ∀ r, last x s'.log = some r →
        marks r = marksOf (recoveryGoal source.core_run_id (n + 1) true) := by
  intro n source x hf r hr
  rcases frame_cases h hf with ⟨hf, hothers⟩ | ⟨hnone, -⟩ | ⟨t, answer, g, out, rfl, htop, hstep, hleft, hlog, -⟩
  · rcases h.appended hu with hlog | ⟨q, hlog, happ⟩
    · rw [hlog] at hr
      exact hI.repeated n source x hf r hr
    · rw [hlog] at hr
      by_cases hq : q.core_run_id = x
      · subst hq
        obtain rfl : q = r := by simpa using hr
        cases happ with
        | new hnone _ => exact absurd hnone (hS.last_child hO hf rfl)
        | same hlast hmarks =>
          rw [hmarks]
          exact hI.repeated n source _ hf _ hlast
        | account htop _ => exact absurd rfl (hothers _ _ _ rfl htop _ rfl hO)
        | execution_started htop _ => exact absurd rfl (hothers _ _ _ rfl htop _ rfl hO)
      · rw [RunRegistry.last_append_ne _ hq] at hr
        exact hI.repeated n source x hf r hr
  · cases hnone
  · cases hstep with
    | account happly hleft' =>
      rcases hleft' with rfl | ⟨n', rfl, rfl, hblock⟩
      · cases hleft
      · cases List.mem_singleton.mp hleft
        obtain ⟨rfl, happ⟩ := apply_goal happly
        rw [hlog, ← id_of_goal_append happ, RunRegistry.last_append_self] at hr
        obtain rfl := Option.some.inj hr
        rw [marks_of_goal_append happ rfl, hblock]
        rfl
    | found hr hid' hkey hnext =>
      exact absurd hid' (RunRegistry.last_eq_none.mp (hu _ _ htop) _ hr)
    | recovered => simp at hleft
    | done | requeue | execution_started => cases hleft
    | _ => cases List.mem_singleton.mp hleft

theorem sound_marks_step (hO : Owned s) (hI : Marked s) (h : StateStep layer s label s')
    (hu : Undisturbed s label) :
    ∀ r ∈ s'.log, ∀ p, isChildOf p r = true →
      ∃ c ∈ s'.children, c.isOf p = true ∧ c.run_id = r.core_run_id := by
  have hmono : ∀ c ∈ s.children, c ∈ s'.children := by
    intro c hc
    cases h with
    | step => exact List.mem_append_left _ hc
    | _ => exact hc
  intro r hr p hp
  have hold : ∃ c ∈ s.children, c.isOf p = true ∧ c.run_id = r.core_run_id := by
    rcases mem_log_cases h hu hr with hr | ⟨-, happ⟩
    · exact hI.sound r hr p hp
    cases happ with
    | new _ hmarks =>
      rw [isChildOf_none hmarks] at hp
      cases hp
    | same hlast hmarks =>
      obtain ⟨hmem, hid⟩ := RunRegistry.last_some hlast
      rw [isChildOf, hmarks] at hp
      rw [← hid]
      exact hI.sound _ hmem p hp
    | account htop hmarks =>
      rw [isChildOf_iff, hmarks] at hp
      obtain ⟨⟨n, rfl⟩, rfl, -⟩ := accountedMarks_source hp
      exact ⟨_, hO.children _ (Stacks.mem_of_top htop) _ rfl, by simp [Child.isOf], rfl⟩
    | execution_started htop hmarks =>
      rw [isChildOf_iff, hmarks, marks_recoveryGoal] at hp
      dsimp only at hp
      split at hp
      · cases hp
      · obtain rfl := Option.some.inj hp
        exact ⟨_, hO.children _ (Stacks.mem_of_top htop) _ rfl, by simp [Child.isOf], rfl⟩
  obtain ⟨c, hc, h'⟩ := hold
  exact ⟨c, hmono c hc, h'⟩

theorem settled_step (hI : Marked s) (h : StateStep layer s label s') (hu : Undisturbed s label) :
    ∀ r ∈ s'.log, is_recovery_child r = true →
      (marks r).recovery_execution_attempt < 1 → r.core_run_id ∉ s'.passed := by
  intro r hr hchild hexec hx
  rcases passed_cases h hx with hx | ⟨t, answer, kind, source, -, htop, hlog⟩
  swap
  · -- the child that passes now is not marked
    rw [hlog] at hr
    have hnone := hI.early _ (Stacks.mem_of_top htop) rfl _ rfl r hr rfl
    rw [is_recovery_child, hnone] at hchild
    cases hchild
  rcases mem_log_cases h hu hr with hr | ⟨-, happ⟩
  · exact hI.settled r hr hchild hexec hx
  obtain ⟨p, hp⟩ := Option.isSome_iff_exists.mp hchild
  cases happ with
  | new _ hmarks =>
    rw [hmarks] at hp
    cases hp
  | same hlast hmarks =>
    obtain ⟨hmem, hid⟩ := RunRegistry.last_some hlast
    rw [hmarks] at hexec
    rw [is_recovery_child, hmarks] at hchild
    exact hI.settled _ hmem hchild hexec (hid ▸ hx)
  | account htop hmarks =>
    rw [hmarks] at hp hexec
    obtain ⟨-, -, hattempt⟩ := accountedMarks_source hp
    have hblock := hI.started _ _ _ _ (.inr (Stacks.mem_of_top htop)) hx
    rw [hattempt, hblock] at hexec
    simp at hexec
  | execution_started htop hmarks =>
    rw [hmarks, marks_recoveryGoal] at hexec
    simp at hexec

theorem known_step (hS : Sound layer s) (hO : Owned s) (hI : Marked s)
    (h : StateStep layer s label s') : ∀ x ∈ s'.passed, ∃ r ∈ s'.log, r.core_run_id = x := by
  intro x hx
  rcases passed_cases h hx with hx | ⟨t, answer, kind, source, -, htop, -⟩
  · obtain ⟨r, hr, hid⟩ := hI.known x hx
    exact ⟨r, h.log_mono r hr, hid⟩
  · obtain ⟨r, hr, hid⟩ := (hS.children _ (hO.children _ (Stacks.mem_of_top htop) _ rfl)).run
    exact ⟨r, h.log_mono r hr, hid⟩

theorem marked_step (hS : Sound layer s) (hO : Owned s) (hI : Marked s)
    (h : StateStep layer s label s') (hu : Undisturbed s label) : Marked s' where
  early := early_step hO hI h hu
  gate := gate_step hO hI h hu
  started := started_step hO hI h hu
  repeated := repeated_step hS hO hI h hu
  sound := sound_marks_step hO hI h hu
  settled := settled_step hI h hu
  known := known_step hS hO hI h

end Step

end RecoveryLayer

end Plachem
