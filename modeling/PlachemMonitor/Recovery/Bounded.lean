import PlachemMonitor.Recovery.Marking
import PlachemMonitor.Recovery.Progress

/-!
# Bounded recovery

`attempt_recovery` counts the children of a run in the newest 200 runs, and only after their calls
have marked them. What bounds their number in every run of the system is the key of the child,
which is derived from the count (`length_childrenOf_le`).

That only one child passes the authorization also needs that the execution attempts and the
dispatches are counted on the same children. They are read in two steps: `Serial` is the condition
that no call marks the execution of a child between them. Then all children of a run but the newest
are marked as blocked (`Counted`).
-/

namespace Plachem

namespace RecoveryLayer

open RunRegistry (last WellNamed)

variable {layer : Layer}

/-- The children that calls of `attempt_recovery` on the run have created. -/
def childrenOf (s : State) (p : String) : List Child := s.children.filter (Child.isOf p)

/-- Those of them that have passed the authorization. -/
def passedChildren (s : State) (p : String) : List Child :=
  (childrenOf s p).filter fun c => decide (c.run_id ∈ s.passed)

/-- The number of dispatches that the call of the child had counted. -/
def Child.index (c : Child) : Nat :=
  match c.kind with
  | .recovery n => n
  | .watchdog => 0

theorem isOf_iff {p : String} {c : Child} :
    c.isOf p = true ↔ c.kind = .recovery c.index ∧ c.parent = p := by
  unfold Child.isOf Child.index
  cases c.kind <;> simp

theorem mem_childrenOf {s : State} {p : String} {c : Child} :
    c ∈ childrenOf s p ↔ c ∈ s.children ∧ c.kind = .recovery c.index ∧ c.parent = p := by
  rw [childrenOf, List.mem_filter, isOf_iff]

theorem recovery_key_inj {source : RunRecord} {m n : Nat}
    (h : recovery_key source m = recovery_key source n) : m = n := by
  have hdigits : Nat.toDigits 10 m = Nat.toDigits 10 n :=
    String.ofList_injective ((String.append_right_inj _).mp h)
  rw [← Nat.ofDigitChars_ten_toDigits (n := m), hdigits, Nat.ofDigitChars_ten_toDigits]

/-- Records of one run give their children the same keys. -/
theorem recovery_key_congr {log : Log} (h : WellNamed log) {q q' : RunRecord} (hq : q ∈ log)
    (hq' : q' ∈ log) (hid : q.core_run_id = q'.core_run_id) (n : Nat) :
    recovery_key q n = recovery_key q' n := by
  have hkey := congrArg RunRecord.Identity.idempotency_key (h.identity q hq q' hq' hid)
  have hkey : q.idempotency_key = q'.idempotency_key := hkey
  rw [recovery_key, recovery_key, hkey, hid]

/-- Children of one run with one index are one child. -/
theorem child_of_index {s : State} (hS : Sound layer s) {p : String} {c c' : Child}
    (hc : c ∈ childrenOf s p) (hc' : c' ∈ childrenOf s p) (h : c.index = c'.index) : c = c' := by
  obtain ⟨hmem, hkind, rfl⟩ := mem_childrenOf.mp hc
  obtain ⟨hmem', hkind', hparent⟩ := mem_childrenOf.mp hc'
  obtain ⟨-, q, hq, hqid, r, hr, hrid, hkey⟩ := (hS.children c hmem).key _ hkind
  obtain ⟨-, q', hq', hqid', r', hr', hrid', hkey'⟩ := (hS.children c' hmem').key _ hkind'
  have hnamed := RunRegistry.wellNamed hS.reachable
  have hsame := recovery_key_congr hnamed hq hq' (by rw [hqid, hqid', hparent]) (c.index + 1)
  have hrun := hnamed.key r hr r' hr' (by rw [hkey, hkey', hsame, h])
  exact List.inj_on_of_nodup_map hS.ids hmem hmem' (by rw [← hrid, ← hrid', hrun])

/-- There are never more children than the layer may dispatch. -/
theorem length_childrenOf_le {s : State} (hS : Sound layer s) (p : String) :
    (childrenOf s p).length ≤ layer.max_dispatch_attempts := by
  have hnodup : ((childrenOf s p).map Child.index).Nodup :=
    (hS.ids.of_map.filter _).map_on fun c hc c' hc' h => child_of_index hS hc hc' h
  have hsub : (childrenOf s p).map Child.index ⊆ List.range layer.max_dispatch_attempts := by
    intro n hn
    obtain ⟨c, hc, rfl⟩ := List.mem_map.mp hn
    obtain ⟨hmem, hkind, -⟩ := mem_childrenOf.mp hc
    exact List.mem_range.mpr ((hS.children c hmem).key _ hkind).1
  have hle := (List.subperm_of_subset hnodup hsub).length_le
  rwa [List.length_map, List.length_range] at hle

/-! ## The parent -/

/-- The run that a call of `attempt_recovery` recovers. -/
def Frame.recovers : Frame → Option String
  | attempt_recovery id => some id
  | executions source | dispatches source => some source.core_run_id
  | recover_watchdog_cancelled _ | existing _ => none
  | create kind source | authorize kind source _ | submit kind source _ | observe kind source _ _
  | account kind source _ _ =>
    match kind with
    | .recovery _ => some source.core_run_id
    | .watchdog => none
  | execution_started _ source _ => some source.core_run_id

/-- The id of a child is the one that its call has generated. -/
def Named (s : State) : Prop :=
  ∀ f ∈ Stacks.frames s.threads, ∀ c ∈ f.child, ∀ source ∈ f.source,
    ∃ uuid, c.run_id = c.kind.child_id source uuid

theorem FrameStep.named {answer : Answer} {log : Log} {f : Frame} {out : Outcome}
    (h : FrameStep layer answer log f out)
    (hf : ∀ c ∈ f.child, ∀ source ∈ f.source, ∃ uuid, c.run_id = c.kind.child_id source uuid) :
    ∀ g ∈ out.frames, ∀ c ∈ g.child, ∀ source ∈ g.source,
      ∃ uuid, c.run_id = c.kind.child_id source uuid := by
  cases h with
  | done | requeue | execution_started => exact fun g hg => nomatch hg
  | attempt_recovery | executions | dispatches | recover_watchdog_cancelled | existing =>
    intro g hg c hc
    obtain rfl := List.mem_singleton.mp hg
    cases hc
  | denied | passed | submitted | observe =>
    intro g hg
    obtain rfl := List.mem_singleton.mp hg
    exact hf
  | created =>
    intro g hg c hc source hs
    obtain rfl := List.mem_singleton.mp hg
    cases hc
    cases hs
    exact ⟨answer.uuid, rfl⟩
  | found hr hid hkey hnext =>
    intro g hg c hc source hs
    obtain rfl := List.mem_singleton.mp hg
    rcases hnext with rfl | rfl <;> cases hc <;> cases hs <;> exact ⟨answer.uuid, rfl⟩
  | recovered =>
    intro g hg c hc
    rcases List.mem_cons.mp hg with rfl | hg
    · cases hc
    · obtain rfl := List.mem_singleton.mp hg
      exact hf c hc
  | account happly hleft =>
    intro g hg
    rcases hleft with rfl | ⟨n, rfl, rfl, -⟩
    · cases hg
    · obtain rfl := List.mem_singleton.mp hg
      exact hf

theorem named_step {s s' : State} {label : Label} (hI : Named s)
    (h : StateStep layer s label s') : Named s' := by
  intro f hf
  rcases frame_cases h hf with ⟨hf, -⟩ | ⟨hnone, -⟩ | ⟨t, answer, g, out, rfl, htop, hstep, hleft, -, -⟩
  · exact hI f hf
  · intro c hc
    rw [hnone] at hc
    cases hc
  · exact hstep.named (hI g (Stacks.mem_of_top htop)) f hleft

theorem child_id_ne (n : Nat) (source : RunRecord) (uuid : String) :
    (Kind.recovery n).child_id source uuid ≠ source.core_run_id := by
  intro h
  have hlen := congrArg String.length h
  simp only [Kind.child_id, String.length_append] at hlen
  have : "-rec-".length = 5 := by decide
  omega

/-- The child that a call holds is not the run that it recovers. -/
theorem Named.child_ne {s : State} (hN : Named s) {f : Frame} (hf : f ∈ Stacks.frames s.threads)
    {c : Child} {source : RunRecord} {n : Nat} (hc : f.child = some c) (hs : f.source = some source)
    (hkind : c.kind = .recovery n) : c.run_id ≠ source.core_run_id := by
  obtain ⟨uuid, hid⟩ := hN f hf c hc source hs
  rw [hid, hkind]
  exact child_id_ne n source uuid

/-- A mutation of another run leaves the records of a run as they are. -/
theorem history_run {log : Log} {m : Mutation} {p : String} (h : target m ≠ p) :
    RunRegistry.history p (m.run log) = RunRegistry.history p log := by
  rcases m.run_cases log with hrun | ⟨r, hrun, happ⟩
  · rw [hrun]
  · rw [hrun, RunRegistry.history_append, if_neg (by rwa [target_of_appends happ]), List.append_nil]

/-- A step of `attempt_recovery` appends nothing to the run that it recovers. -/
theorem FrameStep.parent {s : State} (hN : Named s) {t : Nat} {answer : Answer} {f : Frame}
    {out : Outcome} {p : String} (h : FrameStep layer answer s.log f out)
    (htop : Stacks.top s.threads t = some f) (hp : f.recovers = some p) :
    RunRegistry.history p out.log = RunRegistry.history p s.log := by
  have hf := Stacks.mem_of_top htop
  -- the kind of a call that recovers `p` is `recovery`, and its source is `p`
  have kind : ∀ {kind : Kind} {source : RunRecord}, (match kind with
      | .recovery _ => some source.core_run_id
      | .watchdog => none) = some p → ∃ n, kind = .recovery n ∧ source.core_run_id = p := by
    intro kind source h
    cases kind with
    | recovery n => exact ⟨n, rfl, Option.some.inj h⟩
    | watchdog => cases h
  cases h with
  | done | attempt_recovery | executions | dispatches | found | passed | recovered | observe => rfl
  | requeue | recover_watchdog_cancelled | existing => cases hp
  | @created k source hid hkey hrun =>
    obtain ⟨n, rfl, rfl⟩ := kind hp
    dsimp only
    rw [← hrun]
    refine history_run ?_
    rw [target, actual_id_createArgs]
    exact child_id_ne n source _
  | denied happly | submitted hstatus happly =>
    obtain ⟨n, rfl, rfl⟩ := kind hp
    rw [Outcome.next, ← Mutation.run_of_apply happly]
    exact history_run (hN.child_ne hf rfl rfl rfl)
  | account happly hleft =>
    obtain ⟨n, rfl, rfl⟩ := kind hp
    dsimp only
    rw [← Mutation.run_of_apply happly]
    exact history_run (hN.child_ne hf rfl rfl rfl)
  | execution_started =>
    cases hp
    exact history_run (hN.child_ne hf rfl rfl rfl)

/-! ## The count -/

/-- No call marks the execution of a child between the two counts of a call on its parent. -/
def Serial (s : State) (label : Label) : Prop :=
  Undisturbed s label ∧ ∀ t answer n source x d, label = .step t answer →
    Stacks.top s.threads t = some (.account (.recovery n) source x d) →
    is_pre_execution_block d.status d.reason = false →
    ∀ q, Frame.dispatches q ∈ Stacks.frames s.threads → q.core_run_id ≠ source.core_run_id

/-- The child is marked as blocked before its execution. -/
def Settled (log : Log) (c : Child) : Prop :=
  ∃ r ∈ log, r.core_run_id = c.run_id ∧ isChildOf c.parent r = true ∧
    (marks r).recovery_execution_attempt < 1

theorem Settled.mono {log log' : Log} {c : Child} (h : Settled log c)
    (hmono : ∀ r ∈ log, r ∈ log') : Settled log' c :=
  h.imp fun r hr => ⟨hmono r hr.1, hr.2⟩

structure Counted (s : State) : Prop where
  /-- Between the counts: no child that is shown has an execution attempt. -/
  seen : ∀ source, Frame.dispatches source ∈ Stacks.frames s.threads →
    ∀ r ∈ shown s.log, isChildOf source.core_run_id r = true →
      (marks r).recovery_execution_attempt < 1
  /-- After them: a count of all children says that all are settled. -/
  counted : ∀ n source, Frame.create (.recovery n) source ∈ Stacks.frames s.threads →
    n ≤ (childrenOf s source.core_run_id).length ∧
      (n = (childrenOf s source.core_run_id).length →
        ∀ c ∈ childrenOf s source.core_run_id, Settled s.log c)
  indices : ∀ p, (childrenOf s p).map Child.index = List.range (childrenOf s p).length
  settled : ∀ p, ∀ c ∈ (childrenOf s p).dropLast, Settled s.log c

section Step

variable {s s' : State} {label : Label}

/-- A step creates no child, or the child of the call that runs. -/
theorem children_cases (h : StateStep layer s label s') : s'.children = s.children ∨
    ∃ kind source child_id key_uuid, Frame.create kind source ∈ Stacks.frames s.threads ∧
      s'.children = s.children ++ [⟨kind, source.core_run_id, child_id⟩] ∧
      (∀ q ∈ s.log, q.core_run_id ≠ child_id) ∧
      ∀ q ∈ s.log, q.idempotency_key ≠ kind.idempotency_key source key_uuid := by
  cases h with
  | attempt_recovery | recover_watchdog_cancelled | observed | abort | foreign => exact .inl rfl
  | step htop hstep =>
    cases hstep with
    | created hid hkey hrun =>
      exact .inr ⟨_, _, _, _, Stacks.mem_of_top htop, rfl, hid, hkey⟩
    | _ => exact .inl (List.append_nil _)

theorem childrenOf_append {c : Child} (h : s'.children = s.children ++ [c]) (p : String) :
    childrenOf s' p = childrenOf s p ++ if c.isOf p then [c] else [] := by
  rw [childrenOf, h, List.filter_append, childrenOf, List.filter_singleton]
  cases c.isOf p <;> rfl

theorem childrenOf_same (h : s'.children = s.children) (p : String) :
    childrenOf s' p = childrenOf s p := by
  rw [childrenOf, h, childrenOf]

theorem seen_step (hS : Sound layer s) (hO : Owned s) (hM : Marked s) (hI : Counted s)
    (h : StateStep layer s label s') (hu : Serial s label) :
    ∀ source, Frame.dispatches source ∈ Stacks.frames s'.threads →
      ∀ r ∈ shown s'.log, isChildOf source.core_run_id r = true →
        (marks r).recovery_execution_attempt < 1 := by
  intro source hf r hr hchild
  rcases frame_cases h hf with ⟨hf, -⟩ | ⟨-, hnone⟩ | ⟨t, answer, g, out, rfl, htop, hstep, hleft, hlog, -⟩
  · rcases h.appended hu.1 with hlog | ⟨q, hlog, happ⟩
    · rw [hlog] at hr
      exact hI.seen source hf r hr hchild
    rw [hlog] at hr
    rcases RunRegistry.shown_append hr with ⟨rfl, hold⟩ | hr
    swap
    · exact hI.seen source hf r hr hchild
    -- a record that takes the place of one that was shown
    cases happ with
    | new _ hmarks =>
      rw [isChildOf_none hmarks] at hchild
      cases hchild
    | same hlast hmarks =>
      rw [isChildOf, hmarks] at hchild
      rw [hmarks]
      exact hI.seen source hf _ (hold _ hlast) hchild
    | account htop hmarks =>
      rw [isChildOf_iff, hmarks] at hchild
      obtain ⟨⟨n, rfl⟩, hid, hattempt⟩ := accountedMarks_source hchild
      rw [hmarks, hattempt]
      split
      · decide
      · rename_i hblock
        exact absurd hid.symm
          (hu.2 _ _ _ _ _ _ rfl htop (by simpa using hblock) source hf)
    | execution_started htop hmarks =>
      -- the first update has marked the child with the same attempt
      have hg := Stacks.mem_of_top htop
      cases hlast : last r.core_run_id s.log with
      | none => exact absurd hlast (hS.last_child hO hg rfl)
      | some old =>
        have hsame : marks r = marks old := by
          rw [hmarks, hM.repeated _ _ _ hg old hlast]
        rw [isChildOf, hsame] at hchild
        rw [hsame]
        exact hI.seen source hf _ (hold old hlast) hchild
  · cases hnone
  · cases hstep with
    | executions heligible =>
      cases List.mem_singleton.mp hleft
      rw [hlog] at hr
      exact lt_of_le_of_lt (le_max_execution_attempts hr hchild) (eligible_iff.mp heligible).2.2
    | account happly hleft' => rcases hleft' with rfl | ⟨_, rfl, rfl, -⟩ <;> simp at hleft
    | found hr' hid hkey hnext => rcases hnext with rfl | rfl <;> simp [Outcome.next] at hleft
    | _ => simp [Outcome.next, Outcome.done] at hleft

/-- The marked runs that are shown are children, and a count of all children has seen them all. -/
theorem count_children (hM : Marked s) (p : String) :
    count_existing_dispatches (shown s.log) p ≤ (childrenOf s p).length ∧
      (count_existing_dispatches (shown s.log) p = (childrenOf s p).length →
        ∀ c ∈ childrenOf s p, ∃ r ∈ shown s.log, isChildOf p r = true ∧
          r.core_run_id = c.run_id) := by
  have hnodup : (((shown s.log).filter (isChildOf p)).map RunRecord.core_run_id).Nodup := by
    have hlatest := RunRegistry.nodup_latestRecords s.log
    rw [← List.nodup_reverse, ← List.map_reverse] at hlatest
    exact hlatest.sublist ((List.filter_sublist.trans (List.take_sublist _ _)).map _)
  have hsub : ((shown s.log).filter (isChildOf p)).map RunRecord.core_run_id ⊆
      (childrenOf s p).map Child.run_id := by
    intro x hx
    obtain ⟨r, hr, rfl⟩ := List.mem_map.mp hx
    obtain ⟨hr, hchild⟩ := List.mem_filter.mp hr
    obtain ⟨c, hc, hof, hid⟩ := hM.sound r (mem_shown.mp hr).mem p hchild
    exact List.mem_map.mpr ⟨c, List.mem_filter.mpr ⟨hc, hof⟩, hid⟩
  have hsubperm := List.subperm_of_subset hnodup hsub
  have hcount : count_existing_dispatches (shown s.log) p =
      (((shown s.log).filter (isChildOf p)).map RunRecord.core_run_id).length := by
    rw [count_existing_dispatches, List.countP_eq_length_filter, List.length_map]
  refine ⟨?_, fun heq c hc => ?_⟩
  · rw [hcount]
    simpa using hsubperm.length_le
  · have hperm := hsubperm.perm_of_length_le (by rw [← hcount, heq, List.length_map])
    obtain ⟨r, hr, hid⟩ := List.mem_map.mp (hperm.symm.subset (List.mem_map_of_mem hc))
    obtain ⟨hr, hchild⟩ := List.mem_filter.mp hr
    exact ⟨r, hr, hchild, hid⟩

theorem counted_step (hM : Marked s) (hI : Counted s) (h : StateStep layer s label s') :
    ∀ n source, Frame.create (.recovery n) source ∈ Stacks.frames s'.threads →
      n ≤ (childrenOf s' source.core_run_id).length ∧
        (n = (childrenOf s' source.core_run_id).length →
          ∀ c ∈ childrenOf s' source.core_run_id, Settled s'.log c) := by
  intro n source hf
  rcases frame_cases h hf with ⟨hf, -⟩ | ⟨-, hnone⟩ | ⟨t, answer, g, out, rfl, htop, hstep, hleft, -, -, hnew⟩
  · obtain ⟨hle, hall⟩ := hI.counted n source hf
    have hsame : childrenOf s' source.core_run_id = childrenOf s source.core_run_id →
        n ≤ (childrenOf s' source.core_run_id).length ∧
          (n = (childrenOf s' source.core_run_id).length →
            ∀ c ∈ childrenOf s' source.core_run_id, Settled s'.log c) := by
      intro heq
      rw [heq]
      exact ⟨hle, fun hn c hc => (hall hn c hc).mono h.log_mono⟩
    rcases children_cases h with hc | ⟨kind, source', child_id, _, -, hc, -⟩
    · exact hsame (childrenOf_same hc _)
    · -- with one child more, the count is too small
      have happ := childrenOf_append hc source.core_run_id
      split at happ
      · rw [happ, List.length_append, List.length_singleton]
        exact ⟨by omega, fun hn => absurd hn (by omega)⟩
      · exact hsame (by rw [happ, List.append_nil])
  · cases hnone
  · cases hstep with
    | dispatches hlt =>
      cases List.mem_singleton.mp hleft
      obtain ⟨hle, hall⟩ := count_children hM source.core_run_id
      rw [childrenOf_same (hnew.trans (List.append_nil _))]
      refine ⟨hle, fun hn c hc => ?_⟩
      obtain ⟨r, hr, hchild, hid⟩ := hall hn c hc
      have hseen := hI.seen source (Stacks.mem_of_top htop) r hr hchild
      refine ⟨r, h.log_mono r (mem_shown.mp hr).mem, hid, ?_, hseen⟩
      rwa [(mem_childrenOf.mp hc).2.2]
    | account happly hleft' => rcases hleft' with rfl | ⟨_, rfl, rfl, -⟩ <;> simp at hleft
    | found hr' hid hkey hnext => rcases hnext with rfl | rfl <;> simp [Outcome.next] at hleft
    | _ => simp [Outcome.next, Outcome.done] at hleft

/-- A child that is created has the next index, and all others are settled. -/
theorem created_index (hS : Sound layer s) (hI : Counted s) {n : Nat} {source : RunRecord}
    {key_uuid : String} (hf : Frame.create (.recovery n) source ∈ Stacks.frames s.threads)
    (hkey : ∀ q ∈ s.log,
      q.idempotency_key ≠ (Kind.recovery n).idempotency_key source key_uuid) :
    n = (childrenOf s source.core_run_id).length := by
  obtain ⟨hle, -⟩ := hI.counted n source hf
  refine hle.eq_or_lt.resolve_right fun hlt => ?_
  -- the index of an earlier child: its key is taken
  have hmem : n ∈ (childrenOf s source.core_run_id).map Child.index := by
    rw [hI.indices]
    exact List.mem_range.mpr hlt
  obtain ⟨c, hc, rfl⟩ := List.mem_map.mp hmem
  obtain ⟨hmem, hkind, hparent⟩ := mem_childrenOf.mp hc
  obtain ⟨-, q, hq, hqid, r, hr, -, hrkey⟩ := (hS.children c hmem).key _ hkind
  refine hkey r hr ?_
  rw [hrkey]
  exact recovery_key_congr (RunRegistry.wellNamed hS.reachable) hq (hS.sources _ hf source rfl)
    (hqid.trans hparent) _

theorem counted_inv_step (hS : Sound layer s) (hO : Owned s) (hM : Marked s) (hI : Counted s)
    (h : StateStep layer s label s') (hu : Serial s label) : Counted s' := by
  refine ⟨seen_step hS hO hM hI h hu, counted_step hM hI h, fun p => ?_, fun p c hc => ?_⟩
  · rcases children_cases h with hc | ⟨kind, source, child_id, _, hf, hc, -, hkey⟩
    · rw [childrenOf_same hc]
      exact hI.indices p
    · rw [childrenOf_append hc]
      split
      · rename_i hof
        obtain ⟨hkind, rfl⟩ := isOf_iff.mp hof
        dsimp only at hkind
        rw [hkind] at hf hkey
        have hn := created_index hS hI hf hkey
        rw [List.map_append, hI.indices, List.length_append, List.length_singleton,
          List.range_succ, List.map_singleton, hn]
      · rw [List.append_nil]
        exact hI.indices p
  · rcases children_cases h with heq | ⟨kind, source, child_id, _, hf, heq, -, hkey⟩
    · rw [childrenOf_same heq] at hc
      exact (hI.settled p c hc).mono h.log_mono
    · rw [childrenOf_append heq] at hc
      split at hc
      · rename_i hof
        obtain ⟨hkind, rfl⟩ := isOf_iff.mp hof
        dsimp only at hkind
        rw [hkind] at hf hkey
        rw [List.dropLast_concat] at hc
        exact ((hI.counted _ source hf).2 (created_index hS hI hf hkey) c hc).mono h.log_mono
      · rw [List.append_nil] at hc
        exact (hI.settled p c hc).mono h.log_mono

end Step

/-- Everything that holds of the runs whose steps are serial. -/
structure BoundedInv (layer : Layer) (s : State) : Prop where
  sound : Sound layer s
  owned : Owned s
  marked : Marked s
  counted : Counted s

theorem boundedInv (layer : Layer) : (system layer).InductiveIf Serial (BoundedInv layer) where
  init := by
    rintro s rfl
    refine ⟨(sound layer).init _ rfl, ⟨by simp [Stacks.frames], by simp [Stacks.frames]⟩, ?_, ?_⟩
    · constructor <;> simp [Stacks.frames]
    · constructor <;> simp [Stacks.frames, childrenOf]
  step s label s' hI hu hstep := by
    have h := step_cases hstep
    exact ⟨sound_step hI.sound h, owned_step hI.sound hI.owned h hu.1,
      marked_step hI.sound hI.owned hI.marked h hu.1,
      counted_inv_step hI.sound hI.owned hI.marked hI.counted h hu⟩

/-- At most the newest child of a run has passed the authorization. -/
theorem length_passedChildren_le {s : State} (hI : BoundedInv layer s) (p : String) :
    (passedChildren s p).length ≤ 1 := by
  have hblocked : (childrenOf s p).dropLast.filter (fun c => decide (c.run_id ∈ s.passed)) = [] := by
    refine List.filter_eq_nil_iff.mpr fun c hc => ?_
    obtain ⟨r, hr, hid, hchild, hexec⟩ := hI.counted.settled p c hc
    have hmarked : is_recovery_child r = true := by
      rw [is_recovery_child, isChildOf_iff.mp hchild]
      rfl
    simpa [hid] using hI.marked.settled r hr hmarked hexec
  rcases List.eq_nil_or_concat' (childrenOf s p) with hnil | ⟨cs, c, hcs⟩
  · rw [passedChildren, hnil]
    exact Nat.zero_le 1
  · rw [hcs, List.dropLast_concat] at hblocked
    rw [passedChildren, hcs, List.filter_append, hblocked, List.nil_append]
    exact List.length_filter_le _ [c]

/-- In every run of the system at most `max_dispatch_attempts` children of a run are created, and
the calls append nothing to the run itself. If the steps are serial, at most
`MAX_RECOVERY_ATTEMPTS` of the children pass the authorization. -/
theorem bounded_recovery (layer : Layer) :
    (∀ s, (system layer).Reachable s → ∀ p,
      (childrenOf s p).length ≤ layer.max_dispatch_attempts ∧
      ∀ t answer f s', Stacks.top s.threads t = some f → f.recovers = some p →
        (system layer).step s (.step t answer) = some s' →
          RunRegistry.history p s'.log = RunRegistry.history p s.log) ∧
    ∀ s, (system layer).ReachableIf Serial s → ∀ p,
      ((passedChildren s p).length : Int) ≤ MAX_RECOVERY_ATTEMPTS := by
  refine ⟨fun s hs p => ?_, fun s hs p => ?_⟩
  · have hinv : (system layer).InductiveIf (fun _ _ => True) fun s => Sound layer s ∧ Named s := by
      refine (sound layer).and ?_ fun s label s' _ hN _ hstep => named_step hN (step_cases hstep)
      rintro s rfl
      simp [Named, Stacks.frames]
    obtain ⟨hS, hN⟩ := hinv.reachable hs
    refine ⟨length_childrenOf_le hS p, fun t answer f s' htop hp hstep => ?_⟩
    cases step_cases hstep with
    | step htop' hframe =>
      obtain rfl := Option.some.inj (htop.symm.trans htop')
      exact hframe.parent hN htop hp
  · have hle := length_passedChildren_le ((boundedInv layer).reachable hs) p
    rw [MAX_RECOVERY_ATTEMPTS]
    omega

/-! ## Two calls on one run -/

section Sample

open Sample RunRegistry

theorem serial_of_calm {s : State} {label : Label} (h : Calm s label) : Serial s label := by
  cases label with
  | attempt_recovery | recover_watchdog_cancelled | abort => exact h.elim
  | observed => exact ⟨trivial, fun _ _ _ _ _ _ h => nomatch h⟩
  | foreign m => exact ⟨by simp [Undisturbed, Keeps, show written m = none from h], fun _ _ _ _ _ _ h => nomatch h⟩
  | step t answer =>
    obtain ⟨-, hcreate, haccount⟩ := h
    exact ⟨hcreate, fun t' answer' n source x d hlabel htop => by
      cases hlabel
      exact absurd htop (haccount _ _ _ _)⟩

/-- The one child that has passed is all that may pass. -/
theorem bounded_recovery_sample : ∃ s, (system .default).Reachable s ∧
    (passedChildren s "core-1").length = 1 ∧
    ((passedChildren s "core-1").length : Int) ≤ MAX_RECOVERY_ATTEMPTS ∧
    (childrenOf s "core-1").length ≤ 3 := by
  have hreach := reachable_passed.mono (fun _ _ _ => trivial)
  obtain ⟨hall, hserial⟩ := bounded_recovery .default
  exact ⟨_, hreach, rfl, hserial _ (reachable_passed.mono fun _ _ => serial_of_calm) "core-1",
    (hall _ hreach "core-1").1⟩

/-- Two calls find no execution attempt. The first dispatches its child and marks it, so the second
counts one dispatch and dispatches another. -/
theorem not_bounded_recovery : ∃ s, (system .default).Reachable s ∧
    ¬ ((passedChildren s "core-1").length : Int) ≤ MAX_RECOVERY_ATTEMPTS := by
  have hread : ∀ r ∈ sampleLog, readable r = true := readable_sampleLog
  have hnew : last ((Kind.recovery 0).child_id failed (answer "a").uuid) sampleLog = none := by
    decide +kernel
  have h₀ : (system .default).Reachable ⟨sampleLog, [], [], []⟩ :=
    reachable_failed fun _ _ _ => trivial
  have h₁ : (system .default).Reachable
      ⟨sampleLog, [[.attempt_recovery "core-1"], [.attempt_recovery "core-1"]], [], []⟩ :=
    (h₀.next (a := .attempt_recovery "core-1") trivial rfl).next
      (a := .attempt_recovery "core-1") trivial rfl
  have h₂ : (system .default).Reachable
      ⟨sampleLog, [[.executions failed], [.executions failed]], [], []⟩ :=
    reachable_step (reachable_step h₁ 0 (answer "a") rfl trivial
      (Frame.step_attempt_recovery hread rfl) rfl) 1 (answer "b") rfl trivial
      (Frame.step_attempt_recovery hread rfl) rfl
  have heligible : (evaluate_recovery failed
      (max_execution_attempts (shown sampleLog) failed.core_run_id)).eligible = true := by
    decide +kernel
  have h₃ : (system .default).Reachable
      ⟨sampleLog, [[.dispatches failed], [.dispatches failed]], [], []⟩ :=
    reachable_step (reachable_step h₂ 0 (answer "a") rfl trivial
      (Frame.step_executions hread heligible) rfl) 1 (answer "b") rfl trivial
      (Frame.step_executions hread heligible) rfl
  -- the first call dispatches and marks
  have h₄ : (system .default).Reachable
      ⟨sampleLog ++ [created],
        [[.authorize (.recovery 0) failed "core-1-rec-a"], [.dispatches failed]],
        [⟨.recovery 0, "core-1", "core-1-rec-a"⟩], []⟩ :=
    reachable_step (reachable_step h₃ 0 (answer "a") rfl trivial
      (Frame.step_dispatches hread (n := 0) (by decide +kernel) (by decide)) rfl) 0 (answer "a") rfl
      trivial (Frame.step_create hread hnew (by decide +kernel)) rfl
  have hcreated : ∀ r ∈ sampleLog ++ [created], readable r = true :=
    readable_prefix ⟨[rejected, marked], by simp [log]⟩
  have h₅ : (system .default).Reachable
      ⟨sampleLog ++ [created] ++ [rejected],
        [[.observe (.recovery 0) failed "core-1-rec-a" rejected], [.dispatches failed]],
        [⟨.recovery 0, "core-1", "core-1-rec-a"⟩], ["core-1-rec-a"]⟩ :=
    reachable_step (reachable_step h₄ 0 (answer "a") rfl trivial (Frame.step_authorize rfl) rfl) 0
      (answer "a") rfl trivial (Frame.step_submit hcreated rfl rfl rfl) rfl
  have hrejected : ∀ r ∈ sampleLog ++ [created] ++ [rejected], readable r = true :=
    readable_prefix ⟨[marked], rfl⟩
  have h₆ : (system .default).Reachable
      ⟨log, [[.execution_started 0 failed "core-1-rec-a"], [.dispatches failed]],
        [⟨.recovery 0, "core-1", "core-1-rec-a"⟩], ["core-1-rec-a"]⟩ :=
    reachable_step (reachable_step h₅ 0 (answer "a") rfl trivial (Frame.step_observe_none rfl) rfl) 0
      (answer "a") rfl trivial
      (Frame.step_account hrejected rfl goalUpdated_rejected rfl) rfl
  -- the second counts one dispatch
  have hsecond : last ((Kind.recovery 1).child_id failed (answer "b").uuid) log = none := by
    decide +kernel
  have h₇ := reachable_step (reachable_step h₆ 1 (answer "b") rfl trivial
    (Frame.step_dispatches readable_log (n := 1) (by decide +kernel) (by decide)) rfl) 1 (answer "b")
    rfl trivial (Frame.step_create readable_log hsecond (by decide +kernel)) rfl
  refine ⟨_, reachable_step h₇ 1 (answer "b") rfl trivial (Frame.step_authorize rfl) rfl, ?_⟩
  decide +kernel

end Sample

end RecoveryLayer

end Plachem
