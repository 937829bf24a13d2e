import PlachemMonitor.Recovery.Bounded
import PlachemMonitor.Registry.Lifecycle

/-!
# Recovery chains

The harness does not hand on the record of a recovery child, but it knows a child by its marks, and
those are written when the dispatch has come back. `Unchained` is the condition that no child is
handed on before: then no child is recovered (`no_chain`).
-/

namespace Plachem

namespace RecoveryLayer

open RunRegistry (last)

variable {layer : Layer}

/-- `attempt_recovery` has created the run. -/
def IsChild (s : State) (id : String) : Prop :=
  ∃ c ∈ s.children, c.kind ≠ .watchdog ∧ c.run_id = id

/-- The harness does not hand on a record of a recovery child that recovery is for. -/
def Withholds (s : State) (restored : List String) (record : RunRecord) : Prop :=
  handles_recovery restored record = true → IsChild s record.core_run_id → ¬ Recoverable record

/-- Only the harness calls `attempt_recovery`. -/
def Wired (_ : State) (label : Label) : Prop := ∀ id, label ≠ .attempt_recovery id

/-- And it withholds the children, when a dispatch has come back and when an observer calls. -/
def Unchained (s : State) : Label → Prop
  | .attempt_recovery _ => False
  | .observed record restored => Withholds s restored record
  | .step t answer => ∀ kind source child_id dispatched restored,
      Stacks.top s.threads t = some (.observe kind source child_id dispatched) →
        answer.restored = some restored → Withholds s restored dispatched
  | _ => True

/-! ## The invariant -/

structure Unlinked (s : State) : Prop where
  /-- A call begins for a run that has failed, a child for a reason that recovery is not for. -/
  failed : ∀ id, Frame.attempt_recovery id ∈ Stacks.frames s.threads →
    ∃ r ∈ s.log, r.core_run_id = id ∧ r.status = .FAIL ∧ (IsChild s id → ¬ Recoverable r)
  observed : ∀ kind source child_id dispatched,
    Frame.observe kind source child_id dispatched ∈ Stacks.frames s.threads → dispatched ∈ s.log
  /-- So no call on a child comes to its dispatch. -/
  recovers : ∀ f ∈ Stacks.frames s.threads, ∀ p, f.recovers = some p → IsChild s p →
    (∃ id, f = .attempt_recovery id) ∨ ∃ source, f = .executions source ∧ ¬ Recoverable source
  parents : ∀ c ∈ s.children, c.kind ≠ .watchdog → ¬ IsChild s c.parent

section Step

variable {s s' : State} {label : Label}

/-- A run that is there does not become a child. -/
theorem IsChild.of_step (h : StateStep layer s label s') {r : RunRecord} (hr : r ∈ s.log)
    (hc : IsChild s' r.core_run_id) : IsChild s r.core_run_id := by
  obtain ⟨c, hmem, hkind, hid⟩ := hc
  rcases children_cases h with hsame | ⟨kind, source, child_id, _, -, hnew, hfresh, -⟩
  · exact ⟨c, hsame ▸ hmem, hkind, hid⟩
  · rw [hnew] at hmem
    rcases List.mem_append.mp hmem with hmem | hmem
    · exact ⟨c, hmem, hkind, hid⟩
    · rw [List.mem_singleton.mp hmem] at hid
      exact absurd hid.symm (hfresh r hr)

theorem failed_step (hI : Unlinked s) (h : StateStep layer s label s') (hu : Unchained s label) :
    ∀ id, Frame.attempt_recovery id ∈ Stacks.frames s'.threads →
      ∃ r ∈ s'.log, r.core_run_id = id ∧ r.status = .FAIL ∧ (IsChild s' id → ¬ Recoverable r) := by
  intro id hf
  -- a record that is handed on
  have handed : ∀ {r : RunRecord} {restored : List String}, r ∈ s.log →
      handles_recovery restored r = true → Withholds s restored r →
      ∃ q ∈ s'.log, q.core_run_id = r.core_run_id ∧ q.status = .FAIL ∧
        (IsChild s' r.core_run_id → ¬ Recoverable q) := by
    intro r restored hr hhandles hwith
    refine ⟨r, h.log_mono r hr, rfl, ?_, fun hc => hwith hhandles (hc.of_step h hr)⟩
    simp only [handles_recovery, Bool.and_eq_true, decide_eq_true_eq] at hhandles
    exact hhandles.1.1
  have old : Frame.attempt_recovery id ∈ Stacks.frames s.threads →
      ∃ r ∈ s'.log, r.core_run_id = id ∧ r.status = .FAIL ∧ (IsChild s' id → ¬ Recoverable r) := by
    intro hf
    obtain ⟨r, hr, rfl, hfail, hrec⟩ := hI.failed id hf
    exact ⟨r, h.log_mono r hr, rfl, hfail, fun hc => hrec (hc.of_step h hr)⟩
  cases h with
  | attempt_recovery => exact hu.elim
  | recover_watchdog_cancelled =>
    rw [Stacks.frames_spawn] at hf
    exact old ((List.mem_append.mp hf).resolve_right (by simp))
  | observed hmem hhandles =>
    rw [Stacks.frames_spawn] at hf
    rcases List.mem_append.mp hf with hf | hf
    · exact old hf
    · cases List.mem_singleton.mp hf
      exact handed hmem hhandles hu
  | foreign => exact old hf
  | abort htop => exact old ((Stacks.mem_frames_advance htop hf).resolve_left (by simp))
  | step htop hstep =>
    rcases Stacks.mem_frames_advance htop hf with hleft | hf
    swap
    · exact old hf
    cases hstep with
    | recovered hrestored hhandles =>
      obtain rfl : id = _ := by simpa using hleft
      exact handed (hI.observed _ _ _ _ (Stacks.mem_of_top htop)) hhandles
        (hu _ _ _ _ _ htop hrestored)
    | found hr hid hkey hnext => rcases hnext with rfl | rfl <;> simp [Outcome.next] at hleft
    | account happly hleft' => rcases hleft' with rfl | ⟨_, rfl, rfl, -⟩ <;> simp at hleft
    | _ => simp [Outcome.next, Outcome.done] at hleft

/-- The record that `transition` returns is in the log. -/
theorem mem_of_transition {log log' : Log} {id reason now : String} {status : CoreRunStatus}
    {binding : Option RunBinding} {outcome : Option AdapterOutcome} {r : RunRecord}
    (h : (Mutation.transition id status binding outcome reason now).apply log = .ok (r, log')) :
    r ∈ log' := by
  obtain ⟨old, hold, h⟩ := bind_eq_ok.mp h
  split at h
  · cases h
    exact (RunRegistry.last_some (RunRegistry.require_ok hold)).1
  · split at h
    · cases h
    · cases h
      exact List.mem_append_right _ (List.mem_singleton_self _)

theorem observed_step (hI : Unlinked s) (h : StateStep layer s label s') :
    ∀ kind source child_id dispatched,
      Frame.observe kind source child_id dispatched ∈ Stacks.frames s'.threads →
        dispatched ∈ s'.log := by
  intro kind source child_id dispatched hf
  rcases frame_cases h hf with ⟨hf, -⟩ | ⟨hnone, -⟩ | ⟨t, answer, g, out, -, -, hstep, hleft, hlog, -⟩
  · exact h.log_mono _ (hI.observed _ _ _ _ hf)
  · cases hnone
  · rw [hlog]
    cases hstep with
    | denied happly | submitted hstatus happly =>
      cases List.mem_singleton.mp hleft
      exact mem_of_transition happly
    | found hr hid hkey hnext =>
      rcases hnext with rfl | rfl
      · cases List.mem_singleton.mp hleft
        exact hr
      · simp [Outcome.next] at hleft
    | account happly hleft' => rcases hleft' with rfl | ⟨_, rfl, rfl, -⟩ <;> simp at hleft
    | _ => simp [Outcome.next, Outcome.done] at hleft

/-- The frames that a step leaves recover the run of the frame, but for a new call. -/
theorem FrameStep.recovers {answer : Answer} {log : Log} {f g : Frame} {out : Outcome} {p : String}
    (h : FrameStep layer answer log f out) (hg : g ∈ out.frames) (hp : g.recovers = some p) :
    (∃ id, g = .attempt_recovery id) ∨ f.recovers = some p := by
  cases h with
  | done | requeue | execution_started => cases hg
  | attempt_recovery hsource =>
    obtain rfl := List.mem_singleton.mp hg
    rw [← (RunRegistry.last_some hsource).2]
    exact .inr hp
  | executions | dispatches | created | denied | passed | submitted | observe =>
    obtain rfl := List.mem_singleton.mp hg
    exact .inr hp
  | recover_watchdog_cancelled | existing =>
    obtain rfl := List.mem_singleton.mp hg
    cases hp
  | found hr hid hkey hnext =>
    obtain rfl := List.mem_singleton.mp hg
    rcases hnext with rfl | rfl <;> exact .inr hp
  | recovered =>
    rcases List.mem_cons.mp hg with rfl | hg
    · exact .inl ⟨_, rfl⟩
    · obtain rfl := List.mem_singleton.mp hg
      exact .inr hp
  | account happly hleft =>
    rcases hleft with rfl | ⟨n, rfl, rfl, -⟩
    · cases hg
    · obtain rfl := List.mem_singleton.mp hg
      exact .inr hp

/-- The run of a call is named by the call, or by the record that it holds. -/
theorem Frame.recovers_cases {f : Frame} {p : String} (h : f.recovers = some p) :
    f = .attempt_recovery p ∨ ∃ source, f.source = some source ∧ source.core_run_id = p := by
  cases f with
  | attempt_recovery id => exact .inl (congrArg _ (Option.some.inj h))
  | recover_watchdog_cancelled | existing => cases h
  | executions source | dispatches source | execution_started _ source _ =>
    exact .inr ⟨source, rfl, Option.some.inj h⟩
  | create kind source | authorize kind source _ | submit kind source _ | observe kind source _ _
  | account kind source _ _ =>
    cases kind with
    | recovery n => exact .inr ⟨source, rfl, Option.some.inj h⟩
    | watchdog => exact (Option.some_ne_none p h.symm).elim

/-- A run that has failed for a reason that recovery is not for does not become recoverable. -/
theorem not_recoverable_last {log : Log} (h : registry.Reachable log) {r source : RunRecord}
    (hr : r ∈ log) (hfail : r.status = .FAIL) (hnot : ¬ Recoverable r)
    (hsource : last r.core_run_id log = some source) : ¬ Recoverable source := by
  obtain ⟨r', hr', hstatus⟩ := RunRegistry.last_of_failed h hr hfail
  obtain rfl : source = r' := Option.some.inj (hsource.symm.trans hr')
  rintro ⟨hs, hclass⟩
  rcases hstatus with ⟨-, hreason⟩ | hcancelled
  · exact hnot ⟨hfail, hreason ▸ hclass⟩
  · rw [hs] at hcancelled
    cases hcancelled

theorem recovers_step (hS : Sound layer s) (hI : Unlinked s) (h : StateStep layer s label s') :
    ∀ f ∈ Stacks.frames s'.threads, ∀ p, f.recovers = some p → IsChild s' p →
      (∃ id, f = .attempt_recovery id) ∨
        ∃ source, f = .executions source ∧ ¬ Recoverable source := by
  intro f hf p hp hc
  have hchild : ∀ g ∈ Stacks.frames s.threads, g.recovers = some p → IsChild s p := by
    intro g hg hgp
    rcases Frame.recovers_cases hgp with rfl | ⟨source, hsource, rfl⟩
    · obtain ⟨r, hr, rfl, -⟩ := hI.failed p hg
      exact hc.of_step h hr
    · exact hc.of_step h (hS.sources g hg source hsource)
  rcases frame_cases h hf with ⟨hf, -⟩ | ⟨-, hnone⟩ | ⟨t, answer, g, out, -, htop, hstep, hleft, -⟩
  · exact hI.recovers f hf p hp (hchild f hf hp)
  · rcases Frame.recovers_cases hp with rfl | ⟨source, hsource, -⟩
    · exact .inl ⟨p, rfl⟩
    · rw [hnone] at hsource
      cases hsource
  · have hg := Stacks.mem_of_top htop
    rcases hstep.recovers hleft hp with hnew | hgp
    · exact .inl hnew
    rcases hI.recovers g hg p hgp (hchild g hg hgp) with ⟨id, rfl⟩ | ⟨source, rfl, hnot⟩
    · -- the source that the call reads has failed as the record said
      obtain rfl : id = p := Option.some.inj hgp
      obtain ⟨r, hr, rfl, hfail, hrec⟩ := hI.failed id hg
      cases hstep with
      | done => cases hleft
      | attempt_recovery hsource =>
        obtain rfl := List.mem_singleton.mp hleft
        have hnot := hrec (hchild _ hg hgp)
        exact .inr ⟨_, rfl, not_recoverable_last hS.reachable hr hfail hnot hsource⟩
    · -- it is not eligible
      cases hstep with
      | done => cases hleft
      | executions heligible => exact absurd (eligible_iff.mp heligible).2.1 hnot

theorem parents_step (hS : Sound layer s) (hI : Unlinked s) (h : StateStep layer s label s') :
    ∀ c ∈ s'.children, c.kind ≠ .watchdog → ¬ IsChild s' c.parent := by
  intro c hc hkind hchild
  have old : c ∈ s.children → False := by
    intro hc
    obtain ⟨q, hq, hid⟩ := (hS.children c hc).parent
    rw [← hid] at hchild
    exact hI.parents c hc hkind (hid ▸ hchild.of_step h hq)
  rcases children_cases h with hsame | ⟨kind, source, child_id, _, hf, hnew, -⟩
  · exact old (hsame ▸ hc)
  · rw [hnew] at hc
    rcases List.mem_append.mp hc with hc | hc
    · exact old hc
    · obtain rfl := List.mem_singleton.mp hc
      cases kind with
      | watchdog => exact hkind rfl
      | recovery n =>
        have hparent := hchild.of_step h (hS.sources _ hf source rfl)
        rcases hI.recovers _ hf _ rfl hparent with ⟨_, hf'⟩ | ⟨_, hf', -⟩ <;> cases hf'

end Step

theorem unlinked (layer : Layer) :
    (system layer).InductiveIf Unchained fun s => Sound layer s ∧ Unlinked s where
  init := by
    rintro s rfl
    refine ⟨(sound layer).init _ rfl, ?_⟩
    constructor <;> simp [Stacks.frames]
  step s label s' hI hu hstep := by
    have h := step_cases hstep
    exact ⟨sound_step hI.1 h, failed_step hI.2 h hu, observed_step hI.2 h,
      recovers_step hI.1 hI.2 h, parents_step hI.1 hI.2 h⟩

/-- In every run of the wired harness that withholds the children until they are marked, no run
that `attempt_recovery` has created is the source of another one. -/
theorem no_chain (layer : Layer) {s : State} (h : (system layer).ReachableIf Unchained s) :
    ∀ c ∈ s.children, c.kind ≠ .watchdog → ∀ c' ∈ s.children, c'.kind ≠ .watchdog →
      c.parent ≠ c'.run_id := by
  intro c hc hkind c' hc' hkind' heq
  exact ((unlinked layer).reachable h).2.parents c hc hkind ⟨c', hc', hkind', heq.symm⟩

/-! ## A child that fails while it is dispatched -/

section Sample

open Sample RunRegistry

theorem unchained_of_calm {s : State} {label : Label} (h : Calm s label) : Unchained s label := by
  cases label with
  | attempt_recovery => exact h.elim
  | recover_watchdog_cancelled | abort | foreign => trivial
  | observed record restored =>
    rintro - ⟨c, hc, -⟩
    rw [show s.children = [] from h] at hc
    cases hc
  | step t answer =>
    rintro kind source child_id dispatched restored - hrestored
    rw [h.1] at hrestored
    cases hrestored

/-- The child that the harness has dispatched for the failed run is not the source of itself. -/
theorem no_chain_sample : ∃ s c, (system .default).Reachable s ∧ c ∈ s.children ∧
    c.kind = .recovery 0 ∧ c.parent ≠ c.run_id := by
  have h := reachable_passed
  refine ⟨_, _, h.mono (fun _ _ _ => trivial), List.mem_singleton_self _, rfl, ?_⟩
  exact no_chain .default (h.mono fun _ _ => unchained_of_calm) _ (List.mem_singleton_self _)
    (by decide) _ (List.mem_singleton_self _) (by decide)

/-- The submission fails at once, and the harness recovers the child before it is marked. -/
theorem exists_chain : ∃ s, (system .default).ReachableIf Wired s ∧
    ∃ c ∈ s.children, c.kind ≠ .watchdog ∧ ∃ c' ∈ s.children, c'.kind ≠ .watchdog ∧
      c.parent = c'.run_id := by
  have wired : ∀ {s : State} {label : Label}, Calm s label → Wired s label := by
    intro s label h id heq
    rw [heq] at h
    exact h
  have hstep : ∀ {s : State} {t : Nat} {answer : Answer}, Wired s (.step t answer) :=
    fun _ h => nomatch h
  have hcreated : ∀ r ∈ sampleLog ++ [created], readable r = true :=
    readable_prefix ⟨[rejected, marked], by simp [log]⟩
  have h₁ : (system .default).ReachableIf Wired
      ⟨sampleLog ++ [created] ++ [rejected],
        [[.observe (.recovery 0) failed "core-1-rec-a" rejected]],
        [⟨.recovery 0, "core-1", "core-1-rec-a"⟩], ["core-1-rec-a"]⟩ :=
    reachable_step (reachable_passed.mono fun _ _ => wired) 0 (answer "a") rfl hstep
      (Frame.step_submit hcreated rfl rfl rfl) rfl
  have h₂ : (system .default).ReachableIf Wired
      ⟨sampleLog ++ [created] ++ [rejected],
        [[.attempt_recovery "core-1-rec-a",
          .account (.recovery 0) failed "core-1-rec-a" rejected]],
        [⟨.recovery 0, "core-1", "core-1-rec-a"⟩], ["core-1-rec-a"]⟩ :=
    reachable_step h₁ 0 { answer "a" with restored := some [] } rfl hstep
      (Frame.step_observe_some rfl (by decide +kernel)) rfl
  have hread : ∀ r ∈ sampleLog ++ [created] ++ [rejected], readable r = true :=
    readable_prefix ⟨[marked], rfl⟩
  have h₃ := reachable_step (reachable_step h₂ 0 (answer "b") rfl hstep
    (Frame.step_attempt_recovery hread rfl) rfl) 0 (answer "b") rfl hstep
    (Frame.step_executions hread (by decide +kernel)) rfl
  have hnew : last ((Kind.recovery 0).child_id rejected (answer "b").uuid)
      (sampleLog ++ [created] ++ [rejected]) = none := by decide +kernel
  have h₄ := reachable_step (reachable_step h₃ 0 (answer "b") rfl hstep
    (Frame.step_dispatches hread (n := 0) (by decide +kernel) (by decide)) rfl) 0 (answer "b") rfl
    hstep (Frame.step_create hread hnew (by decide +kernel)) rfl
  exact ⟨_, h₄, ⟨.recovery 0, "core-1-rec-a", "core-1-rec-a-rec-b"⟩, by decide +kernel, by decide,
    ⟨.recovery 0, "core-1", "core-1-rec-a"⟩, by decide +kernel, by decide, rfl⟩

end Sample

end RecoveryLayer

end Plachem
