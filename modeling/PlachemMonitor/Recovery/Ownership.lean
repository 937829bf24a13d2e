import PlachemMonitor.Recovery.Steps

/-!
# Whose child a run is

While the generated ids are new and no other write changes marks (`Undisturbed`), each child belongs
to the call that created it: no two frames hold one child, and only its call marks it. `Marked`
says what the marks in the registry then tell about the children.
-/

namespace Plachem

namespace RecoveryLayer

open RunRegistry (last)

variable {layer : Layer}

/-- The child that a call dispatches. -/
def Frame.child : Frame → Option Child
  | attempt_recovery _ | executions _ | dispatches _ | recover_watchdog_cancelled _ | existing _
  | create _ _ => none
  | authorize kind source child_id | submit kind source child_id | observe kind source child_id _
  | account kind source child_id _ => some ⟨kind, source.core_run_id, child_id⟩
  | execution_started n source child_id => some ⟨.recovery n, source.core_run_id, child_id⟩

def Frame.childId (f : Frame) : Option String := f.child.map Child.run_id

/-- The call has not marked its child yet. -/
def Frame.unaccounted : Frame → Bool
  | authorize _ _ _ | submit _ _ _ | observe _ _ _ _ | account _ _ _ _ => true
  | _ => false

/-! ## The condition -/

/-- The mutation writes no marks other than those of the last record of the run. -/
def Keeps (log : Log) (m : Mutation) : Prop :=
  ∀ goal ∈ written m, ∀ r, last (target m) log = some r → marksOf goal = marks r

/-- Generated ids are new, and the rest of the program keeps marks. -/
def Undisturbed (s : State) : Label → Prop
  | .step t answer => ∀ kind source, Stacks.top s.threads t = some (.create kind source) →
      last (kind.child_id source answer.uuid) s.log = none
  | .foreign m => Keeps s.log m
  | _ => True

theorem target_of_appends {log : Log} {m : Mutation} {r : RunRecord} (h : m.Appends log r) :
    r.core_run_id = target m := by
  cases h with
  | create => rfl
  | transition hlast _ =>
    exact (congrArg RunRecord.Identity.core_run_id (RunRecord.transitioned_identity ..)).trans
      (RunRegistry.last_some hlast).2
  | reconcile_abort_observation hlast _ _ => exact (RunRegistry.last_some hlast).2
  | update_goal_state hlast h =>
    obtain ⟨hident, -⟩ := RunRecord.goalUpdated_ok h
    exact (congrArg RunRecord.Identity.core_run_id hident).trans (RunRegistry.last_some hlast).2
  | update_policy hlast h =>
    obtain ⟨hident, -⟩ := RunRecord.policyUpdated_ok h
    exact (congrArg RunRecord.Identity.core_run_id hident).trans (RunRegistry.last_some hlast).2

/-- What an undisturbed step appends. -/
inductive Appended (s : State) : Label → RunRecord → Prop
  | new {label : Label} {r : RunRecord} (hnone : last r.core_run_id s.log = none)
      (hmarks : marks r = Marks.none) : Appended s label r
  | same {label : Label} {old r : RunRecord} (hlast : last r.core_run_id s.log = some old)
      (hmarks : marks r = marks old) : Appended s label r
  | account {t : Nat} {answer : Answer} {kind : Kind} {source dispatched r : RunRecord}
      (htop : Stacks.top s.threads t = some (.account kind source r.core_run_id dispatched))
      (hmarks : marks r = accountedMarks kind source dispatched) :
      Appended s (.step t answer) r
  | execution_started {t : Nat} {answer : Answer} {n : Nat} {source r : RunRecord}
      (htop : Stacks.top s.threads t = some (.execution_started n source r.core_run_id))
      (hmarks : marks r = marksOf (recoveryGoal source.core_run_id (n + 1) true)) :
      Appended s (.step t answer) r

theorem StateStep.appended {s s' : State} {label : Label} (h : StateStep layer s label s')
    (hu : Undisturbed s label) :
    s'.log = s.log ∨ ∃ r, s'.log = s.log ++ [r] ∧ Appended s label r := by
  cases h with
  | attempt_recovery | recover_watchdog_cancelled | observed | abort => exact .inl rfl
  | step htop hstep =>
    rcases hstep.log_cases with hlog | ⟨m, r, -, -, hlog, hmarking⟩
    · exact .inl hlog
    · refine .inr ⟨r, hlog, ?_⟩
      cases hmarking with
      | new hnone _ hmarks => exact .new hnone hmarks
      | same hlast hmarks => exact .same hlast hmarks
      | account hmarks => exact .account htop hmarks
      | execution_started hmarks => exact .execution_started htop hmarks
  | @foreign m hcopies =>
    rcases m.run_cases s.log with hrun | ⟨r, hrun, happ⟩
    · exact .inl hrun
    · refine .inr ⟨r, hrun, ?_⟩
      rcases marks_appended happ with ⟨hnone, hmarks⟩ | ⟨old, hlast, ⟨-, hmarks⟩ | ⟨goal, hgoal, hmarks⟩⟩
      · exact .new hnone hmarks
      · exact .same hlast hmarks
      · refine .same hlast (hmarks.trans (hu goal hgoal old ?_))
        rwa [← target_of_appends happ]

/-! ## One frame for each child -/

structure Owned (s : State) : Prop where
  unique : ((Stacks.frames s.threads).filterMap Frame.childId).Nodup
  children : ∀ f ∈ Stacks.frames s.threads, ∀ c ∈ f.child, c ∈ s.children

/-- The frames that an undisturbed step leaves hold the child of the frame, no child, or a new
one. -/
theorem FrameStep.childIds {s : State} {t : Nat} {answer : Answer} {f : Frame} {out : Outcome}
    (h : FrameStep layer answer s.log f out) (htop : Stacks.top s.threads t = some f)
    (hu : Undisturbed s (.step t answer)) :
    out.frames.filterMap Frame.childId = [] ∨
    out.frames.filterMap Frame.childId = f.childId.toList ∨
    ∃ kind source, f = .create kind source ∧
      (∀ q ∈ s.log, q.core_run_id ≠ kind.child_id source answer.uuid) ∧
      out.frames.filterMap Frame.childId = [kind.child_id source answer.uuid] := by
  cases h with
  | done | requeue | execution_started | attempt_recovery | executions | dispatches
  | recover_watchdog_cancelled | existing => exact .inl rfl
  | denied | passed | submitted | recovered | observe => exact .inr (.inl rfl)
  | created hid hkey hrun => exact .inr (.inr ⟨_, _, rfl, hid, rfl⟩)
  | found hr hid hkey hnext =>
    have hnone := hu _ _ htop
    exact absurd hid (RunRegistry.last_eq_none.mp hnone _ hr)
  | account happly hleft =>
    rcases hleft with rfl | ⟨n, rfl, rfl, -⟩
    · exact .inl rfl
    · exact .inr (.inl rfl)

/-- So do the frames themselves. -/
theorem FrameStep.child {s : State} {t : Nat} {answer : Answer} {f : Frame} {out : Outcome}
    (h : FrameStep layer answer s.log f out) (htop : Stacks.top s.threads t = some f)
    (hu : Undisturbed s (.step t answer)) :
    ∀ g ∈ out.frames, ∀ c ∈ g.child, c ∈ f.child ∨ c ∈ out.created := by
  cases h with
  | done | requeue | execution_started => exact fun g hg => nomatch hg
  | attempt_recovery | executions | dispatches | recover_watchdog_cancelled | existing =>
    intro g hg c hc
    obtain rfl := List.mem_singleton.mp hg
    cases hc
  | denied | passed | submitted | observe =>
    intro g hg c hc
    obtain rfl := List.mem_singleton.mp hg
    exact .inl hc
  | created =>
    intro g hg c hc
    obtain rfl := List.mem_singleton.mp hg
    exact .inr hc
  | found hr hid hkey hnext =>
    have hnone := hu _ _ htop
    exact absurd hid (RunRegistry.last_eq_none.mp hnone _ hr)
  | recovered =>
    intro g hg c hc
    rcases List.mem_cons.mp hg with rfl | hg
    · cases hc
    · obtain rfl := List.mem_singleton.mp hg
      exact .inl hc
  | account happly hleft =>
    intro g hg c hc
    rcases hleft with rfl | ⟨n, rfl, rfl, -⟩
    · cases hg
    · obtain rfl := List.mem_singleton.mp hg
      exact .inl hc

theorem childId_of_spawned {f : Frame} (hf : f.child = none) (threads : List (List Frame)) :
    (Stacks.frames (Stacks.spawn threads f)).filterMap Frame.childId =
      (Stacks.frames threads).filterMap Frame.childId := by
  rw [Stacks.frames_spawn, List.filterMap_append]
  simp [Frame.childId, hf]

theorem owned_step {s s' : State} {label : Label} (hS : Sound layer s) (hI : Owned s)
    (h : StateStep layer s label s') (hu : Undisturbed s label) : Owned s' := by
  have spawned : ∀ {f : Frame}, f.child = none →
      Owned { s with threads := Stacks.spawn s.threads f } := by
    intro f hf
    refine ⟨by rw [childId_of_spawned hf]; exact hI.unique, fun g hg c hc => ?_⟩
    rw [Stacks.frames_spawn] at hg
    rcases List.mem_append.mp hg with hg | hg
    · exact hI.children g hg c hc
    · obtain rfl := List.mem_singleton.mp hg
      rw [hf] at hc
      cases hc
  cases h with
  | attempt_recovery | recover_watchdog_cancelled | observed => exact spawned rfl
  | foreign => exact ⟨hI.unique, hI.children⟩
  | @abort t f htop =>
    obtain ⟨before, after, hframes, hframes'⟩ := Stacks.frames_advance [] htop
    refine ⟨?_, fun g hg => hI.children g ((Stacks.mem_frames_advance htop hg).resolve_left (by simp))⟩
    have hnodup := hI.unique
    rw [hframes] at hnodup
    refine hnodup.sublist ?_
    rw [hframes', List.append_nil]
    exact ((List.Sublist.refl before).append (List.sublist_cons_self f after)).filterMap _
  | @step t answer f out htop hstep =>
    obtain ⟨before, after, hframes, hframes'⟩ := Stacks.frames_advance out.frames htop
    have hnodup := hI.unique
    rw [hframes, List.filterMap_append, List.filterMap_cons] at hnodup
    refine ⟨?_, fun g hg c hc => ?_⟩
    · rw [hframes', List.filterMap_append, List.filterMap_append]
      rcases hstep.childIds htop hu with hids | hids | ⟨kind, source, rfl, hnew, hids⟩
      · rw [hids, List.append_nil]
        refine hnodup.sublist ((List.Sublist.refl _).append ?_)
        cases f.childId with
        | none => exact .refl _
        | some x => exact List.sublist_cons_self x _
      · rw [hids, List.append_assoc]
        cases hf : f.childId with
        | none => simpa [hf] using hnodup
        | some x => simpa [hf] using hnodup
      · -- the new id has no record, and every child has one
        rw [hids]
        have hfresh : kind.child_id source answer.uuid ∉
            (Stacks.frames s.threads).filterMap Frame.childId := by
          intro hmem
          obtain ⟨g, hg, hgid⟩ := List.mem_filterMap.mp hmem
          obtain ⟨c, hc, hcid⟩ := Option.map_eq_some_iff.mp hgid
          obtain ⟨r, hr, hrid⟩ := (hS.children c (hI.children g hg c hc)).run
          exact hnew r hr (hrid.trans hcid)
        rw [hframes, List.filterMap_append, List.filterMap_cons] at hfresh
        rw [List.append_assoc, List.singleton_append, List.nodup_middle]
        exact List.nodup_cons.mpr ⟨hfresh, hnodup⟩
    · rcases Stacks.mem_frames_advance htop hg with hg | hg
      · rcases hstep.child htop hu g hg c hc with hc | hc
        · exact List.mem_append_left _ (hI.children f (Stacks.mem_of_top htop) c hc)
        · exact List.mem_append_right _ (Option.mem_toList.mpr hc)
      · exact List.mem_append_left _ (hI.children g hg c hc)

/-- When a frame that holds a child runs, no other frame holds it. -/
theorem Owned.others {s : State} (hI : Owned s) {t : Nat} {f g : Frame} {left : List Frame}
    {x : String} (htop : Stacks.top s.threads t = some f) (hf : f.childId = some x)
    (hg : g ∈ Stacks.frames (Stacks.advance s.threads t left)) (hgx : g.childId = some x) :
    g ∈ left := by
  obtain ⟨before, after, hframes, hframes'⟩ := Stacks.frames_advance left htop
  have hnodup := hI.unique
  rw [hframes, List.filterMap_append, List.filterMap_cons, hf] at hnodup
  have hnotin := (List.nodup_cons.mp (List.nodup_middle.mp hnodup)).1
  rw [hframes', List.mem_append, List.mem_append] at hg
  rcases hg with (hg | hg) | hg
  · exact absurd (List.mem_append_left _ (List.mem_filterMap.mpr ⟨g, hg, hgx⟩)) hnotin
  · exact hg
  · exact absurd (List.mem_append_right _ (List.mem_filterMap.mpr ⟨g, hg, hgx⟩)) hnotin

end RecoveryLayer

end Plachem
