import Mathlib.Data.List.Chain
import PlachemMonitor.Registry.Mutation

/-!
# The life of a run

* `history_path`: in every reachable log, the records of a run start `QUEUED` and follow
  `_TRANSITIONS`, with one more edge for the reconciliation of an aborted run.
* `lifecycle`: and a mutation of a run that ended changes none of the fields that say how, the
  reconciliation apart.
-/

namespace Plachem

namespace RunRegistry

/-- The status stays, follows `_TRANSITIONS`, or leaves the failure of an aborted run. -/
def StatusStep (r r' : RunRecord) : Prop :=
  r'.status = r.status ∨ r'.status ∈ r.status.transitions ∨
    r.status = .FAIL ∧ r.reason = "OPENCLAW_ERROR" ∧ r'.status = .CANCELLED

/-- The records of a run tell its life from the beginning. -/
structure LifecyclePath (rs : List RunRecord) : Prop where
  starts : ∀ r ∈ rs.head?, r.status = .QUEUED
  steps : rs.IsChain StatusStep

theorem LifecyclePath.nil : LifecyclePath [] := ⟨by simp, .nil⟩

/-- A path goes on by a step of its last record. -/
theorem LifecyclePath.snoc {rs : List RunRecord} {old r : RunRecord} (h : LifecyclePath rs)
    (hlast : rs.getLast? = some old) (hstep : StatusStep old r) : LifecyclePath (rs ++ [r]) := by
  refine ⟨?_, ?_⟩
  · cases rs with
    | nil => simp at hlast
    | cons q qs => exact h.starts
  · rw [List.isChain_append]
    refine ⟨h.steps, .singleton r, fun x hx y hy => ?_⟩
    rw [hlast] at hx
    obtain rfl : old = x := by simpa using hx
    obtain rfl : r = y := by simpa using hy
    exact hstep

theorem statusStep_of_appends {log : Log} {m : Mutation} {r old : RunRecord}
    (h : m.Appends log r) (hlast : last r.core_run_id log = some old) :
    r.status = old.status ∧ r.ending = old.ending ∨ r.status ∈ old.status.transitions ∨
      m.Reconciles old ∧ r.status = .CANCELLED := by
  rcases h.record_cases with ⟨hnone, -⟩ | ⟨old', hlast', -, hcases⟩
  · rw [hlast] at hnone
    cases hnone
  · obtain rfl : old = old' := Option.some.inj (hlast.symm.trans hlast')
    rcases hcases with hend | hrest
    · exact .inl ⟨congrArg RunRecord.Ending.status hend, hend⟩
    · exact .inr hrest

/-- Every run of a reachable log has a life that starts `QUEUED`. -/
theorem history_path {log : Log} (h : registry.Reachable log) (id : String) :
    LifecyclePath (history id log) := by
  have hinv : registry.InductiveIf (fun _ _ => True) fun log =>
      ∀ id, LifecyclePath (history id log) := by
    refine ⟨?_, ?_⟩
    · rintro log rfl id
      exact .nil
    · rintro log m log' hI - hstep id
      cases hstep
      rcases m.run_cases log with hrun | ⟨r, hrun, happ⟩
      · rw [hrun]
        exact hI id
      rw [hrun, history_append]
      split
      swap
      · simpa using hI id
      rename_i hid
      subst hid
      cases hlast : last r.core_run_id log with
      | none =>
        -- the first record of the run
        rcases happ.record_cases with ⟨-, hq, -⟩ | ⟨old, hold, -⟩
        · rw [last_eq, List.getLast?_eq_none_iff] at hlast
          rw [hlast]
          exact ⟨by simpa using hq, .singleton r⟩
        · rw [hlast] at hold
          cases hold
      | some old =>
        refine (hI _).snoc (by rw [← last_eq, hlast]) ?_
        rcases statusStep_of_appends happ hlast with ⟨hs, -⟩ | hs | ⟨⟨hf, hr, -⟩, hc⟩
        · exact .inl hs
        · exact .inr (.inl hs)
        · exact .inr (.inr ⟨hf, hr, hc⟩)
  exact hinv.reachable h id

/-- A record that names the run as its last record does is its last one. -/
theorem last_append_identity {log : Log} {id : String} {old r : RunRecord}
    (hlast : last id log = some old) (hident : r.identity = old.identity) :
    last id (log ++ [r]) = some r := by
  have hid : r.core_run_id = id :=
    (congrArg RunRecord.Identity.core_run_id hident).trans (last_some hlast).2
  rw [← hid]
  exact last_append_self log r

/-- What a mutation makes of the last record of a run. -/
theorem last_run {log : Log} (m : Mutation) {id : String} {r : RunRecord}
    (hlast : last id log = some r) : ∃ r', last id (m.run log) = some r' ∧
      (r'.status = r.status ∧ r'.ending = r.ending ∨ r'.status ∈ r.status.transitions ∨
        m.Reconciles r ∧ r'.status = .CANCELLED) := by
  rcases m.run_cases log with hrun | ⟨r', hrun, happ⟩
  · exact ⟨r, by rw [hrun, hlast], .inl ⟨rfl, rfl⟩⟩
  · by_cases hid : r'.core_run_id = id
    · subst hid
      exact ⟨r', by rw [hrun, last_append_self], statusStep_of_appends happ hlast⟩
    · exact ⟨r, by rw [hrun, last_append_ne _ hid, hlast], .inl ⟨rfl, rfl⟩⟩

/-- A run that has failed stays failed for its reason, or is cancelled. -/
theorem last_of_failed {log : Log} (h : registry.Reachable log) {r : RunRecord} (hr : r ∈ log)
    (hfail : r.status = .FAIL) : ∃ r', last r.core_run_id log = some r' ∧
      (r'.status = .FAIL ∧ r'.reason = r.reason ∨ r'.status = .CANCELLED) := by
  have hinv : registry.InductiveIf (fun _ _ => True) fun log => ∀ r ∈ log, r.status = .FAIL →
      ∃ r', last r.core_run_id log = some r' ∧
        (r'.status = .FAIL ∧ r'.reason = r.reason ∨ r'.status = .CANCELLED) := by
    refine ⟨?_, ?_⟩
    · rintro log rfl r hr
      cases hr
    · rintro log m log' hI - hstep r hr hfail
      cases hstep
      by_cases hold : r ∈ log
      · obtain ⟨q, hq, hstatus⟩ := hI r hold hfail
        obtain ⟨q', hq', hcases⟩ := last_run m hq
        refine ⟨q', hq', ?_⟩
        have hterm : q.status ∈ CoreRunStatus.terminal := by
          rcases hstatus with ⟨hs, -⟩ | hs <;> rw [hs] <;> decide
        rcases hcases with ⟨hs, hend⟩ | hs | ⟨-, hs⟩
        · have hreason : q'.reason = q.reason := congrArg RunRecord.Ending.reason hend
          rwa [hs, hreason]
        · rw [CoreRunStatus.transitions_of_terminal hterm] at hs
          cases hs
        · exact .inr hs
      · -- the record that was appended
        rcases m.run_cases log with hrun | ⟨q, hrun, -⟩
        · rw [hrun] at hr
          exact absurd hr hold
        · rw [hrun] at hr ⊢
          obtain rfl : r = q := by
            rcases List.mem_append.mp hr with hr | hr
            · exact absurd hr hold
            · exact List.mem_singleton.mp hr
          exact ⟨r, last_append_self _ _, .inl ⟨hfail, rfl⟩⟩
  exact hinv.reachable h r hr hfail

/-- The life of every run, and what a mutation may do to it. -/
theorem lifecycle {log : Log} (h : registry.Reachable log) :
    (∀ id, LifecyclePath (history id log)) ∧
      ∀ (m : Mutation) id r, last id log = some r → ∃ r', last id (m.run log) = some r' ∧
        (r'.status = r.status ∨ r'.status ∈ r.status.transitions ∨
          m.Reconciles r ∧ r'.status = .CANCELLED) ∧
        (r.status ∈ CoreRunStatus.terminal → ¬ m.Reconciles r → r'.ending = r.ending) := by
  refine ⟨history_path h, fun m id r hlast => ?_⟩
  obtain ⟨r', hr', hcases⟩ := last_run m hlast
  refine ⟨r', hr', hcases.imp And.left fun h => h, fun hterm hrec => ?_⟩
  rcases hcases with ⟨-, hend⟩ | hstatus | ⟨hrec', -⟩
  · exact hend
  · rw [CoreRunStatus.transitions_of_terminal hterm] at hstatus
    cases hstatus
  · exact absurd hrec' hrec

/-- The failed run keeps its ending under an update of its goal state, and its life goes from
`QUEUED` to `FAIL`. -/
theorem lifecycle_sampleLog : LifecyclePath (history "core-1" sampleLog) ∧
    ∃ r', last "core-1" ((Mutation.update_goal_state "core-1" .none "" "t2").run sampleLog) =
      some r' ∧ r'.ending = sampleLog[1].ending := by
  obtain ⟨hpath, hstep⟩ := lifecycle reachable_sampleLog
  obtain ⟨r', hr', -, hend⟩ := hstep (.update_goal_state "core-1" .none "" "t2") "core-1"
    sampleLog[1] (by decide +kernel)
  exact ⟨hpath "core-1", r', hr', hend (by decide +kernel) fun h => nomatch h.2.2⟩

end RunRegistry

end Plachem
