import PlachemMonitor.Orchestration.Finalization

/-!
# Workflows that can do nothing more

A workflow is settled if none of its runs is active and none of its units can still be claimed. Its
summary is terminal exactly if each unit without a run depends directly on a unit that has failed
(`settled_terminal`): a unit further down waits for a dependency that never starts, and so does one
below a unit whose claim has led to no run.
-/

namespace Plachem

namespace Orchestration

variable {cfg : Config} {w : World} {db : DB} {u : ExecutionUnit} {p t c : String}

/-- Nothing of the workflow can run any more. -/
structure Settled (db : DB) (units : List ExecutionUnit) : Prop where
  idle : ∀ u ∈ units, ∀ r ∈ u.core_run_id, db.status r ∉ active.map some
  claimed : ∀ u ∈ units, db.readiness u = .READY → u.dispatch_claimed_at.isSome = true

/-- A unit that has no run depends directly on one that has failed. -/
def DB.Cut (db : DB) (u : ExecutionUnit) : Prop :=
  u.core_run_id = none → ∃ d ∈ u.depends_on_execution_ids, db.Lost d

instance : Decidable (db.Cut u) :=
  inferInstanceAs (Decidable (_ → _))

theorem parent_status_terminal_iff {cs : List Child} :
    (parent_status cs).terminal = true ↔ ∀ c ∈ cs, c.pending = false := by
  refine ⟨parent_status_terminal, fun h => ?_⟩
  have hidle : cs.any Child.pending = false := List.any_eq_false.mpr fun c hc => by simp [h c hc]
  simp only [parent_status, hidle]
  split
  · contradiction
  · split
    · rfl
    · split <;> rfl

theorem lost_iff (hformed : Formed db) (hu : u ∈ db.units) {d : String}
    (hd : d ∈ u.depends_on_execution_ids) :
    dependency_detail db.reads d ∈ [.FAILURE, .NOT_FOUND, .UNKNOWN] ↔ db.Lost d := by
  refine ⟨fun h => ?_, fun h => by simp [hformed.lost h]⟩
  obtain ⟨q, hq, hid, -⟩ := hformed.depends_on u hu d hd
  exact @lost_of_dependency d db.reads hformed (.refl db) ⟨q, hq, hid⟩ h

/-- A unit of a settled workflow is pending unless it is cut off or has a run. -/
theorem settled_pending (hformed : Formed db) (hu : u ∈ db.units)
    (hidle : ∀ r ∈ u.core_run_id, db.status r ∉ active.map some) :
    (child db.summary_reads u).pending = false ↔ db.Cut u := by
  cases hr : u.run_id with
  | none =>
    have hnone := (hformed.not_bound hu).mp hr
    have hstatus : (child db.summary_reads u).run_status = .NOT_STARTED := by
      simp [child, child_status, hr]
    have hready : (child db.summary_reads u).readiness = .BLOCKED ↔ ∃ d ∈ u.depends_on_execution_ids,
        db.Lost d :=
      (evaluate_blocked hr).trans (exists_congr fun d => and_congr_right fun hd =>
        lost_iff hformed hu hd)
    have hcut : db.Cut u ↔ ∃ d ∈ u.depends_on_execution_ids, db.Lost d :=
      ⟨fun h => h hnone, fun h _ => h⟩
    rw [hcut, ← hready]
    simp [Child.pending, hstatus]
  | some r =>
    obtain ⟨rfl, hbound⟩ := hformed.run_id hu hr
    have hblocked : (child db.summary_reads u).readiness = .BLOCKED := evaluate_run hr
    obtain ⟨run, hrun, hid⟩ := hformed.run u hu (by rw [hbound]; rfl)
    have hs : db.status (core_run_id_for u.execution_id) = some run.status :=
      DB.status_eq_some.mpr ⟨run, hrun, hid, rfl⟩
    have hstatus : (child db.summary_reads u).run_status = .run run.status := by
      simp [child, child_status, hr, DB.summary_reads, hs]
    have hinactive : run.status ∉ active := by
      intro hactive
      exact hidle _ hbound (hs ▸ List.mem_map_of_mem hactive)
    refine ⟨fun _ hnone => ?_, fun _ => by simp [Child.pending, hstatus, hblocked, hinactive]⟩
    rw [hbound] at hnone
    cases hnone

/-- A settled workflow has a terminal summary exactly if each of its units that has no run depends
directly on a failed one. -/
theorem settled_terminal (h : (orchestrators cfg).Reachable w) (hne : w.db.workflow p t c ≠ [])
    (hsettled : Settled w.db (w.db.workflow p t c)) :
    (∃ s, w.db.summary p t c = some s ∧ s.terminal = true) ↔
      ∀ u ∈ w.db.workflow p t c, w.db.Cut u := by
  have hformed := ((inductive_sound _).reachable h).now
  have hsummary : w.db.summary p t c =
      some (parent_status ((w.db.workflow p t c).map (child w.db.summary_reads))) := by
    rw [DB.summary, workflow_summary, if_neg hne]
  have hunit : ∀ u ∈ w.db.workflow p t c, (child w.db.summary_reads u).pending = false ↔ w.db.Cut u :=
    fun u hu => settled_pending hformed (mem_workflow.mp hu).1 (hsettled.idle u hu)
  have hterm : (∃ s, w.db.summary p t c = some s ∧ s.terminal = true) ↔
      ∀ q ∈ (w.db.workflow p t c).map (child w.db.summary_reads), q.pending = false := by
    rw [← parent_status_terminal_iff, hsummary]
    constructor
    · rintro ⟨s, hs, hterm⟩
      rwa [Option.some.inj hs]
    · exact fun hterm => ⟨_, rfl, hterm⟩
  rw [hterm, List.forall_mem_map]
  exact forall₂_congr hunit

namespace Sample

/-- Of three units in a row, the first has failed. -/
def failed : World :=
  after (compile [unitA, unitB, unit "C" ["B"]] :: dispatch "k" "A" "first" .FAIL)

/-- Of two units in a row, the first has failed. -/
def ended : World :=
  after (compile [unitA, unitB] :: dispatch "k" "A" "first" .FAIL)

end Sample

open Sample in
/-- The third unit waits for the second, which never starts: the summary is RUNNING, for good. -/
theorem settled_running : (orchestrators config).Reachable failed ∧
    failed.db.workflow "p" "t" "c" ≠ [] ∧ Settled failed.db (failed.db.workflow "p" "t" "c") ∧
    failed.db.summary "p" "t" "c" = some .RUNNING :=
  ⟨reachable_after _, by decide +kernel, ⟨by decide +kernel, by decide +kernel⟩,
    by decide +kernel⟩

open Sample in
/-- With two units the summary is terminal. -/
theorem settled_terminal_sample : ∃ s, ended.db.summary "p" "t" "c" = some s ∧ s.terminal = true :=
  (settled_terminal (reachable_after _) (by decide +kernel) ⟨by decide +kernel, by decide +kernel⟩).mpr
    (by decide +kernel)

end Orchestration

end Plachem
