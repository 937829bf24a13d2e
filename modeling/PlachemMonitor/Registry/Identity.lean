import PlachemMonitor.Registry.Mutation

/-!
# What names a run

`create` looks for the run id and for the idempotency key by two scans of the log, and every other
mutator copies a whole record. So no two runs of a reachable log share a key, and the fields that
name a run are the same in all of its records (`wellNamed`). `create_identity` is what this makes
of `create`: an id or a key that is taken gives back the run it was created for, or an error.
-/

namespace Plachem

namespace RunRegistry

/-- Keys name runs, and the records of a run agree on what names it. -/
structure WellNamed (log : Log) : Prop where
  key : ∀ r ∈ log, ∀ r' ∈ log, r.idempotency_key = r'.idempotency_key →
    r.core_run_id = r'.core_run_id
  identity : ∀ r ∈ log, ∀ r' ∈ log, r.core_run_id = r'.core_run_id → r.identity = r'.identity

theorem WellNamed.nil : WellNamed [] := ⟨by simp, by simp⟩

/-- A record under a new id and a new key keeps the log well named. -/
theorem WellNamed.append_new {log : Log} {r : RunRecord} (h : WellNamed log)
    (hid : ∀ q ∈ log, q.core_run_id ≠ r.core_run_id)
    (hkey : ∀ q ∈ log, q.idempotency_key ≠ r.idempotency_key) : WellNamed (log ++ [r]) := by
  refine ⟨fun a ha b hb hab => ?_, fun a ha b hb hab => ?_⟩ <;>
    simp only [List.mem_append, List.mem_singleton] at ha hb <;>
    rcases ha with ha | rfl <;> rcases hb with hb | rfl
  · exact h.key a ha b hb hab
  · exact absurd hab (hkey a ha)
  · exact absurd hab.symm (hkey b hb)
  · rfl
  · exact h.identity a ha b hb hab
  · exact absurd hab (hid a ha)
  · exact absurd hab.symm (hid b hb)
  · rfl

/-- So does a record that names its run as an earlier one does. -/
theorem WellNamed.append_same {log : Log} {old r : RunRecord} (h : WellNamed log)
    (hold : old ∈ log) (hident : r.identity = old.identity) : WellNamed (log ++ [r]) := by
  have hid : r.core_run_id = old.core_run_id := congrArg RunRecord.Identity.core_run_id hident
  have hkey : r.idempotency_key = old.idempotency_key :=
    congrArg RunRecord.Identity.idempotency_key hident
  -- every record of the longer log names its run as a record of the log does
  have named : ∀ a ∈ log ++ [r], ∃ a' ∈ log, a.identity = a'.identity ∧
      a.core_run_id = a'.core_run_id ∧ a.idempotency_key = a'.idempotency_key := by
    intro a ha
    rcases List.mem_append.mp ha with ha | ha
    · exact ⟨a, ha, rfl, rfl, rfl⟩
    · rw [List.mem_singleton.mp ha]
      exact ⟨old, hold, hident, hid, hkey⟩
  refine ⟨fun a ha b hb hab => ?_, fun a ha b hb hab => ?_⟩ <;>
    obtain ⟨a', ha', ha₁, ha₂, ha₃⟩ := named a ha <;>
    obtain ⟨b', hb', hb₁, hb₂, hb₃⟩ := named b hb
  · rw [ha₂, hb₂]
    exact h.key a' ha' b' hb' (by rw [← ha₃, ← hb₃, hab])
  · rw [ha₁, hb₁]
    exact h.identity a' ha' b' hb' (by rw [← ha₂, ← hb₂, hab])

theorem wellNamed_run {log : Log} (h : WellNamed log) (m : Mutation) : WellNamed (m.run log) := by
  rcases m.run_cases log with hrun | ⟨r, hrun, happ⟩
  · rwa [hrun]
  rw [hrun]
  rcases happ.record_cases with ⟨hnone, -, hkey⟩ | ⟨old, hold, hident, -⟩
  · exact h.append_new (last_eq_none.mp hnone) hkey
  · exact h.append_same (last_some hold).1 hident

/-- Every reachable log is well named. -/
theorem wellNamed {log : Log} (h : registry.Reachable log) : WellNamed log := by
  have hinv : registry.InductiveIf (fun _ _ => True) WellNamed := by
    refine ⟨?_, ?_⟩
    · rintro log rfl
      exact .nil
    · rintro log m log' hI - hstep
      cases hstep
      exact wellNamed_run hI m
  exact hinv.reachable h

/-- `create` raises, and the log stays as it is. -/
def CreateRaises (log : Log) (args : CreateArgs) (fresh now : String) : Prop :=
  (∃ e, create log args fresh now = .error e) ∧ (Mutation.create args fresh now).run log = log

/-- The run is the one that `create` asks for. -/
def Requested (args : CreateArgs) (fresh : String) (r : RunRecord) : Prop :=
  r.core_run_id = args.actual_id fresh ∧ r.idempotency_key = args.idempotency_key ∧
    r.request_hash = args.request_hash

/-- In a well-named log, a taken id or key is the requested run's, or `create` raises. -/
theorem create_of_taken {log : Log} (now : String) (h : WellNamed log) {args : CreateArgs}
    {fresh : String} {q : RunRecord} (hq : q ∈ log)
    (htaken : q.core_run_id = args.actual_id fresh ∨ q.idempotency_key = args.idempotency_key)
    (hother : ¬ Requested args fresh q) : CreateRaises log args fresh now := by
  cases hc : create log args fresh now with
  | error e => exact ⟨⟨e, hc⟩, by simp [Mutation.run, Mutation.apply, hc, Except.map]⟩
  | ok p =>
    obtain ⟨⟨r, created⟩, log'⟩ := p
    rcases create_ok hc with ⟨-, -, hr, hid, hkey, hhash⟩ | ⟨-, -, -, hid, hkey⟩
    · -- the record found is of the same run as `q`, so `q` is what was asked for
      have hsame : q.core_run_id = r.core_run_id := by
        rcases htaken with ht | ht
        · rw [ht, hid]
        · exact h.key q hq r hr (by rw [ht, hkey])
      have hident := h.identity q hq r hr hsame
      have hk := congrArg RunRecord.Identity.idempotency_key hident
      have hh := congrArg RunRecord.Identity.request_hash hident
      exact absurd ⟨hsame.trans hid, hk.trans hkey, hh.trans hhash⟩ hother
    · rcases htaken with ht | ht
      · exact absurd ht (hid q hq)
      · exact absurd ht (hkey q hq)

/-- Run ids and idempotency keys name runs in every reachable log, and `create` keeps to them. -/
theorem create_identity {log : Log} (h : registry.Reachable log) :
    WellNamed log ∧ ∀ args fresh now,
      (∀ r log', create log args fresh now = .ok ((r, false), log') →
        log' = log ∧ r ∈ log ∧ Requested args fresh r) ∧
      (∀ r log', create log args fresh now = .ok ((r, true), log') → log' = log ++ [r] ∧
        ∀ q ∈ log, q.core_run_id ≠ r.core_run_id ∧ q.idempotency_key ≠ r.idempotency_key) ∧
      ∀ q ∈ log, q.core_run_id = args.actual_id fresh ∨
          q.idempotency_key = args.idempotency_key →
        ¬ Requested args fresh q → CreateRaises log args fresh now := by
  refine ⟨wellNamed h, fun args fresh now => ⟨fun r log' hc => ?_, fun r log' hc => ?_,
    fun q hq ht ho => create_of_taken _ (wellNamed h) hq ht ho⟩⟩
  · rcases create_ok hc with ⟨-, hlog, hr, hid, hkey, hhash⟩ | ⟨hfalse, -⟩
    · exact ⟨hlog, hr, hid, hkey, hhash⟩
    · cases hfalse
  · rcases create_ok hc with ⟨hfalse, -⟩ | ⟨-, hlog, rfl, hid, hkey⟩
    · cases hfalse
    · exact ⟨hlog, fun q hq => ⟨hid q hq, hkey q hq⟩⟩

/-- Asked again for its first run, the log gives it back; a second run under its key it refuses. -/
theorem create_identity_sampleLog :
    (∃ r, create sampleLog sampleArgs "" "t2" = .ok ((r, false), sampleLog) ∧
      Requested sampleArgs "" r) ∧
    CreateRaises sampleLog { sampleArgs with core_run_id := some "core-2" } "" "t2" := by
  obtain ⟨-, hcreate⟩ := create_identity reachable_sampleLog
  have hok : create sampleLog sampleArgs "" "t2" = .ok ((sampleLog[1], false), sampleLog) :=
    create_existing readable_sampleLog rfl rfl rfl "t2"
  refine ⟨⟨sampleLog[1], hok, ?_⟩, ?_⟩
  · exact ((hcreate sampleArgs "" "t2").1 sampleLog[1] sampleLog hok).2.2
  · exact (hcreate { sampleArgs with core_run_id := some "core-2" } "" "t2").2.2 sampleLog[0]
      (List.getElem_mem _) (.inr rfl) fun h => absurd h.1 (by decide)

end RunRegistry

end Plachem
