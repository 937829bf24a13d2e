import PlachemMonitor.Recovery.Bounded

/-!
# Watchdog recovery

The ids and keys of watchdog children are random, so only the marks that
`recover_watchdog_cancelled` finds in the newest 200 runs keep it from a second child. `Watched` is
the condition that it finds them: then a run has at most one watchdog child, and no watchdog child
is recovered (`bounded_watchdog`).
-/

namespace Plachem

namespace RecoveryLayer

open RunRegistry (last)

variable {layer : Layer}

/-- The children that calls of `recover_watchdog_cancelled` on the run have created. -/
def watchdogChildren (s : State) (p : String) : List Child :=
  s.children.filter fun c => decide (c.kind = .watchdog ∧ c.parent = p)

theorem mem_watchdogChildren {s : State} {p : String} {c : Child} :
    c ∈ watchdogChildren s p ↔ c ∈ s.children ∧ c.kind = .watchdog ∧ c.parent = p := by
  rw [watchdogChildren, List.mem_filter, decide_eq_true_iff]

/-- The call has found no child of the run, and is to create one. -/
def Frame.creates (p : String) : Frame → Bool
  | create .watchdog source => source.core_run_id == p
  | _ => false

/-- A call finds every child there is, and no other call is about to create one; and a call on a
watchdog child finds it marked. -/
def Watched (s : State) : Label → Prop
  | .step t _ =>
    (∀ source, Stacks.top s.threads t = some (.existing source) →
      (∀ c ∈ watchdogChildren s source.core_run_id, ∃ r ∈ shown s.log, r.core_run_id = c.run_id ∧
        (marks r).watchdog_recovery_source_run_id = some source.core_run_id) ∧
      ∀ f ∈ Stacks.frames s.threads, f.creates source.core_run_id = false) ∧
    ∀ id, Stacks.top s.threads t = some (.recover_watchdog_cancelled id) →
      ∀ c ∈ s.children, c.kind = .watchdog → c.run_id = id →
        ∀ r, last id s.log = some r → (marks r).watchdog_recovery_source_run_id ≠ none
  | _ => True

/-! ## One child -/

/-- The calls that are about to create a child of the run. -/
def creating (s : State) (p : String) : Nat := (Stacks.frames s.threads).countP (Frame.creates p)

theorem countP_advance {threads : List (List Frame)} {t : Nat} {f : Frame} (P : Frame → Bool)
    (left : List Frame) (h : Stacks.top threads t = some f) :
    (Stacks.frames (Stacks.advance threads t left)).countP P + (if P f then 1 else 0) =
      (Stacks.frames threads).countP P + left.countP P := by
  obtain ⟨before, after, hframes, hframes'⟩ := Stacks.frames_advance left h
  rw [hframes, hframes']
  simp only [List.countP_append, List.countP_cons]
  omega

/-- A step leaves no call that is about to create a watchdog child, unless the call has found
none. -/
theorem FrameStep.creates {answer : Answer} {log : Log} {f : Frame} {out : Outcome} {p : String}
    (h : FrameStep layer answer log f out) : out.frames.countP (Frame.creates p) = 0 ∨
      ∃ source, f = .existing source ∧ out = .next log (.create .watchdog source) ∧
        count_watchdog_children (shown log) source.core_run_id = 0 := by
  cases h with
  | existing hnone => exact .inr ⟨_, rfl, rfl, hnone⟩
  | found hr hid hkey hnext => rcases hnext with rfl | rfl <;> exact .inl rfl
  | account happly hleft => rcases hleft with rfl | ⟨n, rfl, rfl, -⟩ <;> exact .inl rfl
  | _ => exact .inl rfl

section Step

variable {s s' : State} {label : Label}

theorem watchdogChildren_append {c : Child} (h : s'.children = s.children ++ [c]) (p : String) :
    watchdogChildren s' p =
      watchdogChildren s p ++ if c.kind = .watchdog ∧ c.parent = p then [c] else [] := by
  rw [watchdogChildren, h, List.filter_append, watchdogChildren]
  by_cases hc : c.kind = .watchdog ∧ c.parent = p
  · rw [if_pos hc, List.filter_singleton, decide_eq_true hc]
    rfl
  · rw [if_neg hc, List.filter_singleton, decide_eq_false hc]
    rfl

/-- There is at most one child, counting the one that a call is about to create. -/
theorem one_step (hI : ∀ p, creating s p + (watchdogChildren s p).length ≤ 1)
    (h : StateStep layer s label s') (hu : Watched s label) (p : String) :
    creating s' p + (watchdogChildren s' p).length ≤ 1 := by
  have hold := hI p
  have spawned : ∀ {f : Frame}, f.creates p = false →
      (Stacks.frames (Stacks.spawn s.threads f)).countP (Frame.creates p) = creating s p := by
    intro f hf
    rw [Stacks.frames_spawn, List.countP_append, List.countP_singleton, hf]
    rfl
  cases h with
  | attempt_recovery | recover_watchdog_cancelled | observed =>
    rw [creating, spawned rfl]
    exact hold
  | foreign => exact hold
  | abort htop =>
    have hcount := countP_advance (Frame.creates p) [] htop
    simp only [List.countP_nil] at hcount
    simp only [creating, watchdogChildren] at hold ⊢
    omega
  | @step t answer f out htop hstep =>
    have hcount := countP_advance (Frame.creates p) out.frames htop
    cases hcreated : out.created with
    | none =>
      have hchildren : watchdogChildren ⟨out.log, Stacks.advance s.threads t out.frames,
          s.children ++ (none : Option Child).toList, s.passed ++ out.passed.toList⟩ p =
          watchdogChildren s p := by
        rw [watchdogChildren, Option.toList_none, List.append_nil, watchdogChildren]
      rw [hchildren]
      simp only [creating] at hold ⊢
      rcases hstep.creates (p := p) with hnone | ⟨source, rfl, rfl, hnone⟩
      · omega
      · by_cases hp : source.core_run_id = p
        · -- the count has found no child, so there is none, and no other call creates one
          obtain ⟨hmarked, hothers⟩ := hu.1 source htop
          rw [hp] at hmarked hothers hnone
          have hempty : watchdogChildren s p = [] := by
            refine List.eq_nil_iff_forall_not_mem.mpr fun c hc => ?_
            obtain ⟨r, hr, -, hmark⟩ := hmarked c hc
            rw [count_watchdog_children, List.countP_eq_zero] at hnone
            exact hnone r hr (beq_iff_eq.mpr hmark)
          have hzero : (Stacks.frames s.threads).countP (Frame.creates p) = 0 := by
            refine List.countP_eq_zero.mpr fun f hf => ?_
            rw [hothers f hf]
            exact Bool.false_ne_true
          have hone : [Frame.create .watchdog source].countP (Frame.creates p) ≤ 1 :=
            List.countP_le_length
          rw [hempty, List.length_nil]
          simp only [Outcome.next] at hcount ⊢
          omega
        · have hzero : [Frame.create .watchdog source].countP (Frame.creates p) = 0 := by
            simp [Frame.creates, hp]
          simp only [Outcome.next] at hcount ⊢
          omega
    | some c =>
      -- the call that created the child is no longer about to create one
      have hzero : out.frames.countP (Frame.creates p) = 0 := by
        rcases hstep.creates (p := p) with hnone | ⟨source, -, rfl, -⟩
        · exact hnone
        · cases hcreated
      cases hstep with
      | @created kind source hid hkey hrun =>
        obtain rfl := Option.some.inj hcreated
        rw [watchdogChildren_append rfl]
        dsimp only at hcount hzero
        simp only [creating] at hold ⊢
        split
        · rename_i hc
          obtain ⟨rfl, rfl⟩ := hc
          have hcreates : (Frame.create .watchdog source).creates source.core_run_id = true :=
            beq_self_eq_true _
          rw [hcreates, if_pos rfl] at hcount
          rw [List.length_append, List.length_singleton]
          omega
        · rw [List.append_nil]
          omega
      | _ => cases hcreated

/-! ## One generation -/

/-- The run is not a watchdog child. -/
def NotWatchdog (s : State) (id : String) : Prop :=
  ∀ c ∈ s.children, c.kind = .watchdog → c.run_id ≠ id

/-- The source that a call has accepted. -/
def Frame.accepted : Frame → Option RunRecord
  | dispatches source | existing source | create _ source => some source
  | _ => none

structure OneGeneration (s : State) : Prop where
  managed : ∀ c ∈ s.children, c.kind = .watchdog →
    ∃ r ∈ s.log, r.core_run_id = c.run_id ∧ r.watchdog_managed = true
  accepted : ∀ f ∈ Stacks.frames s.threads, ∀ source ∈ f.accepted,
    NotWatchdog s source.core_run_id
  parents : ∀ c ∈ s.children, NotWatchdog s c.parent

theorem Frame.source_of_accepted {f : Frame} {source : RunRecord} (h : f.accepted = some source) :
    f.source = some source := by
  cases f <;> first | exact h | cases h

/-- A run that is there does not become a watchdog child. -/
theorem NotWatchdog.of_step (h : StateStep layer s label s') {r : RunRecord} (hr : r ∈ s.log)
    (hn : NotWatchdog s r.core_run_id) : NotWatchdog s' r.core_run_id := by
  intro c hc hkind
  rcases children_cases h with hsame | ⟨kind, source, child_id, _, -, hnew, hfresh, -⟩
  · exact hn c (hsame ▸ hc) hkind
  · rw [hnew] at hc
    rcases List.mem_append.mp hc with hc | hc
    · exact hn c hc hkind
    · rw [List.mem_singleton.mp hc]
      exact (hfresh r hr).symm

/-- A run that is not managed is not a watchdog child. -/
theorem OneGeneration.notWatchdog (hS : Sound layer s) (hI : OneGeneration s) {source : RunRecord}
    (hsource : source ∈ s.log) (hmanaged : source.watchdog_managed = false) :
    NotWatchdog s source.core_run_id := by
  intro c hc hkind hid
  obtain ⟨r, hr, hrid, hrmanaged⟩ := hI.managed c hc hkind
  have hident := (RunRegistry.wellNamed hS.reachable).identity r hr source hsource (hrid.trans hid)
  have hsame : r.watchdog_managed = source.watchdog_managed :=
    congrArg RunRecord.Identity.watchdog_managed hident
  rw [hrmanaged, hmanaged] at hsame
  cases hsame

theorem accepted_step (hS : Sound layer s) (hI : OneGeneration s)
    (h : StateStep layer s label s') (hu : Watched s label) :
    ∀ f ∈ Stacks.frames s'.threads, ∀ source ∈ f.accepted, NotWatchdog s' source.core_run_id := by
  intro f hf source hsource
  rcases frame_cases h hf with ⟨hf, -⟩ | ⟨-, hnone⟩ | ⟨t, answer, g, out, rfl, htop, hstep, hleft, -⟩
  · exact (hI.accepted f hf source hsource).of_step h
      (hS.sources f hf source (Frame.source_of_accepted hsource))
  · rw [Frame.source_of_accepted hsource] at hnone
    cases hnone
  · have hg := Stacks.mem_of_top htop
    cases hstep with
    | executions heligible =>
      obtain rfl := List.mem_singleton.mp hleft
      obtain rfl := Option.some.inj hsource
      have hmem := hS.sources _ hg _ rfl
      exact (hI.notWatchdog hS hmem (eligible_iff.mp heligible).1).of_step h hmem
    | recover_watchdog_cancelled hlast hmanaged hmark =>
      obtain rfl := List.mem_singleton.mp hleft
      obtain rfl := Option.some.inj hsource
      obtain ⟨hmem, hid⟩ := RunRegistry.last_some hlast
      refine NotWatchdog.of_step h hmem fun c hc hkind hcid => ?_
      exact hu.2 _ htop c hc hkind (hcid.trans hid) _ hlast hmark
    | dispatches | existing =>
      obtain rfl := List.mem_singleton.mp hleft
      obtain rfl := Option.some.inj hsource
      exact (hI.accepted _ hg _ rfl).of_step h (hS.sources _ hg _ rfl)
    | done | requeue | execution_started => cases hleft
    | found hr hid hkey hnext =>
      obtain rfl := List.mem_singleton.mp hleft
      rcases hnext with rfl | rfl <;> cases hsource
    | account happly hleft' =>
      rcases hleft' with rfl | ⟨_, rfl, rfl, -⟩
      · cases hleft
      · obtain rfl := List.mem_singleton.mp hleft
        cases hsource
    | recovered =>
      rcases List.mem_cons.mp hleft with rfl | hleft
      · cases hsource
      · obtain rfl := List.mem_singleton.mp hleft
        cases hsource
    | attempt_recovery | created | denied | passed | submitted | observe =>
      obtain rfl := List.mem_singleton.mp hleft
      cases hsource

theorem managed_step (hI : OneGeneration s) (h : StateStep layer s label s') :
    ∀ c ∈ s'.children, c.kind = .watchdog →
      ∃ r ∈ s'.log, r.core_run_id = c.run_id ∧ r.watchdog_managed = true := by
  intro c hc hkind
  have old : c ∈ s.children → ∃ r ∈ s'.log, r.core_run_id = c.run_id ∧
      r.watchdog_managed = true := fun hc =>
    (hI.managed c hc hkind).imp fun r hr => ⟨h.log_mono r hr.1, hr.2⟩
  cases h with
  | attempt_recovery | recover_watchdog_cancelled | observed | abort | foreign => exact old hc
  | step htop hstep =>
    rcases List.mem_append.mp hc with hc | hc
    · exact old hc
    · cases hstep with
      | created hid hkey hrun =>
        obtain rfl := List.mem_singleton.mp hc
        obtain rfl : _ = Kind.watchdog := hkind
        exact ⟨_, List.mem_append_right _ (List.mem_singleton_self _), rfl, rfl⟩
      | _ => cases hc

theorem generation_step (hS : Sound layer s) (hI : OneGeneration s)
    (h : StateStep layer s label s') (hu : Watched s label) : OneGeneration s' := by
  refine ⟨managed_step hI h, accepted_step hS hI h hu, fun c hc => ?_⟩
  have old : c ∈ s.children → NotWatchdog s' c.parent := by
    intro hc
    obtain ⟨q, hq, hid⟩ := (hS.children c hc).parent
    rw [← hid]
    exact NotWatchdog.of_step h hq (hid ▸ hI.parents c hc)
  rcases children_cases h with hsame | ⟨kind, source, child_id, _, hf, hnew, -⟩
  · exact old (hsame ▸ hc)
  · rw [hnew] at hc
    rcases List.mem_append.mp hc with hc | hc
    · exact old hc
    · rw [List.mem_singleton.mp hc]
      exact (hI.accepted _ hf source rfl).of_step h (hS.sources _ hf source rfl)

end Step

structure WatchdogInv (layer : Layer) (s : State) : Prop where
  sound : Sound layer s
  one : ∀ p, creating s p + (watchdogChildren s p).length ≤ 1
  generation : OneGeneration s

theorem watchdogInv (layer : Layer) : (system layer).InductiveIf Watched (WatchdogInv layer) where
  init := by
    rintro s rfl
    refine ⟨(sound layer).init _ rfl, fun p => Nat.zero_le 1, ?_⟩
    constructor <;> simp [Stacks.frames]
  step s label s' hI hu hstep := by
    have h := step_cases hstep
    exact ⟨sound_step hI.sound h, one_step hI.one h hu, generation_step hI.sound hI.generation h hu⟩

/-- In every run in which the calls find the children there are, a run has at most one watchdog
child, and no watchdog child is the source of another child. -/
theorem bounded_watchdog (layer : Layer) {s : State} (h : (system layer).ReachableIf Watched s) :
    (∀ p, (watchdogChildren s p).length ≤ 1) ∧
      ∀ c ∈ s.children, c.kind = .watchdog → ∀ c' ∈ s.children, c'.parent ≠ c.run_id := by
  have hI := (watchdogInv layer).reachable h
  refine ⟨fun p => (Nat.le_add_left _ _).trans (hI.one p), fun c hc hkind c' hc' heq => ?_⟩
  exact hI.generation.parents c' hc' c hc hkind heq.symm

/-! ## Two calls on one run -/

namespace Sample

open RunRegistry

def managedArgs : CreateArgs :=
  { sampleArgs with core_run_id := some "direct-1", watchdog_managed := true }

/-- A direct run that the watchdog has cancelled. -/
def cancelled : RunRecord :=
  (managedArgs.record "direct-1" "t0").transitioned .CANCELLED none none "USER_CANCEL" "t1"

def cancelledLog : Log := [managedArgs.record "direct-1" "t0", cancelled]

/-- The child that a call creates under the generated id. -/
def watchdogChild (uuid : String) : RunRecord :=
  (createArgs .watchdog cancelled (answer uuid)).record (Kind.watchdog.child_id cancelled uuid) "t2"

theorem readable_cancelledLog : ∀ r ∈ cancelledLog ++ [watchdogChild "a"], readable r = true := by
  have hargs : SafeCreate managedArgs := by constructor <;> decide +kernel
  have hcreated : SafeRecord (managedArgs.record "direct-1" "t0") :=
    safe_record hargs (by decide +kernel) (by decide +kernel)
  have hcancelled : SafeRecord cancelled :=
    safe_transitioned hcreated _ (by simp) (by simp) (by decide +kernel) (by decide +kernel)
  have hchildArgs : SafeCreate (createArgs .watchdog cancelled (answer "a")) := by
    constructor <;> decide +kernel
  have hchild : SafeRecord (watchdogChild "a") :=
    safe_record hchildArgs (by decide +kernel) (by decide +kernel)
  intro r hr
  simp only [cancelledLog, List.mem_append, List.mem_cons, List.not_mem_nil, or_false] at hr
  obtain (rfl | rfl) | rfl := hr
  · exact readable_of_safe hcreated
  · exact readable_of_safe hcancelled
  · exact readable_of_safe hchild

theorem reachable_cancelled {G : State → Label → Prop}
    (hG : ∀ s m, G s (.foreign m)) :
    (system layer).ReachableIf G ⟨cancelledLog, [], [], []⟩ := by
  have hinit : (system layer).ReachableIf G ⟨[], [], [], []⟩ := ⟨_, [], rfl, .refl _⟩
  have hcreated : (system layer).ReachableIf G ⟨cancelledLog.take 1, [], [], []⟩ :=
    hinit.next (a := .foreign (.create managedArgs "" "t0")) (hG _ _) (step_foreign rfl rfl)
  have hread : ∀ r ∈ cancelledLog.take 1, readable r = true :=
    fun r hr => readable_cancelledLog r (List.mem_append_left _ (List.mem_of_mem_take hr))
  have hlast : last "direct-1" (cancelledLog.take 1) = some (managedArgs.record "direct-1" "t0") :=
    rfl
  have hcancel := transition_of_last hread hlast (show .CANCELLED ∈ _ by decide) (by decide)
    none none "USER_CANCEL" "t1"
  exact hcreated.next (a := .foreign (.transition "direct-1" .CANCELLED none none "USER_CANCEL" "t1"))
    (hG _ _) (step_foreign rfl hcancel)

end Sample

section Sample

open Sample RunRegistry

/-- One call creates its child, and the run has no other. -/
theorem bounded_watchdog_sample : ∃ s, (system .default).ReachableIf Watched s ∧
    (watchdogChildren s "direct-1").length = 1 ∧ (watchdogChildren s "direct-1").length ≤ 1 := by
  have hread : ∀ r ∈ cancelledLog, readable r = true :=
    fun r hr => readable_cancelledLog r (List.mem_append_left _ hr)
  have hnew : last (Kind.watchdog.child_id cancelled (answer "a").uuid) cancelledLog = none := by
    decide +kernel
  have h₀ : (system .default).ReachableIf Watched ⟨cancelledLog, [], [], []⟩ :=
    reachable_cancelled fun _ _ => trivial
  have h₁ : (system .default).ReachableIf Watched
      ⟨cancelledLog, [[.recover_watchdog_cancelled "direct-1"]], [], []⟩ :=
    h₀.next (a := .recover_watchdog_cancelled "direct-1") trivial rfl
  have h₂ : (system .default).ReachableIf Watched
      ⟨cancelledLog, [[.existing cancelled]], [], []⟩ :=
    reachable_step h₁ 0 (answer "a") rfl ⟨fun _ h => (nomatch h), fun _ _ _ hc => (nomatch hc)⟩
      (Frame.step_recover_watchdog_cancelled hread rfl rfl (by decide +kernel) (by decide +kernel)
        rfl) rfl
  have h₃ : (system .default).ReachableIf Watched
      ⟨cancelledLog, [[.create .watchdog cancelled]], [], []⟩ := by
    refine reachable_step h₂ 0 (answer "a") rfl ⟨fun source _ => ⟨fun c hc => (nomatch hc), ?_⟩,
      fun _ h => (nomatch h)⟩ (Frame.step_existing hread (by decide +kernel)) rfl
    intro f hf
    rw [List.mem_singleton.mp hf]
    rfl
  have h₄ := reachable_step h₃ 0 (answer "a") rfl
    ⟨fun _ h => (nomatch h), fun _ h => (nomatch h)⟩ (Frame.step_create hread hnew (by decide +kernel)) rfl
  exact ⟨_, h₄, rfl, (bounded_watchdog .default h₄).1 "direct-1"⟩

/-- Two calls find no child, and each creates one. -/
theorem not_bounded_watchdog : ∃ s, (system .default).Reachable s ∧
    ¬ (watchdogChildren s "direct-1").length ≤ 1 := by
  have hread : ∀ r ∈ cancelledLog, readable r = true :=
    fun r hr => readable_cancelledLog r (List.mem_append_left _ hr)
  have hnew : last (Kind.watchdog.child_id cancelled (answer "a").uuid) cancelledLog = none := by
    decide +kernel
  have h₀ : (system .default).Reachable ⟨cancelledLog, [], [], []⟩ :=
    reachable_cancelled fun _ _ => trivial
  have h₁ : (system .default).Reachable ⟨cancelledLog,
      [[.recover_watchdog_cancelled "direct-1"], [.recover_watchdog_cancelled "direct-1"]], [], []⟩ :=
    (h₀.next (a := .recover_watchdog_cancelled "direct-1") trivial rfl).next
      (a := .recover_watchdog_cancelled "direct-1") trivial rfl
  have hmark : (marks cancelled).watchdog_recovery_source_run_id = none := by decide +kernel
  have hdirect : isDirect "direct-1" = true := by decide +kernel
  have h₂ : (system .default).Reachable
      ⟨cancelledLog, [[.existing cancelled], [.existing cancelled]], [], []⟩ :=
    reachable_step (reachable_step h₁ 0 (answer "a") rfl trivial
      (Frame.step_recover_watchdog_cancelled hread rfl rfl hmark hdirect rfl) rfl) 1 (answer "b") rfl
      trivial (Frame.step_recover_watchdog_cancelled hread rfl rfl hmark hdirect rfl) rfl
  have hcount : count_watchdog_children (shown cancelledLog) cancelled.core_run_id = 0 := by
    decide +kernel
  have h₃ : (system .default).Reachable
      ⟨cancelledLog, [[.create .watchdog cancelled], [.create .watchdog cancelled]], [], []⟩ :=
    reachable_step (reachable_step h₂ 0 (answer "a") rfl trivial
      (Frame.step_existing hread hcount) rfl) 1 (answer "b") rfl trivial
      (Frame.step_existing hread hcount) rfl
  have h₄ : (system .default).Reachable ⟨cancelledLog ++ [watchdogChild "a"],
      [[.authorize .watchdog cancelled "direct-a"], [.create .watchdog cancelled]],
      [⟨.watchdog, "direct-1", "direct-a"⟩], []⟩ :=
    reachable_step h₃ 0 (answer "a") rfl trivial
      (Frame.step_create hread hnew (by decide +kernel)) rfl
  have hsecond : last (Kind.watchdog.child_id cancelled (answer "b").uuid)
      (cancelledLog ++ [watchdogChild "a"]) = none := by decide +kernel
  have h₅ := reachable_step h₄ 1 (answer "b") rfl trivial
    (Frame.step_create readable_cancelledLog hsecond (by decide +kernel)) rfl
  exact ⟨_, h₅, by decide +kernel⟩

end Sample

end RecoveryLayer

end Plachem
