import PlachemMonitor.Registry.Identity

/-!
# The newest runs

`recent` shows the last records of the runs that were created last. `Shown limit log r` says that
`r` is one of them: a run that is no longer shown is not shown again (`shown_append`). `active` lists each
run that is still running once, and what the log says is what its file reads back as (`file_refines`).
-/

namespace Plachem

namespace RunRegistry

/-- `r` is among the records that `recent` returns. -/
def Shown (limit : Nat) (log : Log) (r : RunRecord) : Prop :=
  r ∈ (latestRecords log).reverse.take limit

theorem recent_ok {log : Log} {limit : Nat} {rs : List RunRecord}
    (h : recent log limit = .ok rs) : rs = (latestRecords log).reverse.take limit := by
  unfold recent at h
  split at h
  · split at h
    · rename_i records hrecords
      obtain ⟨rfl, -⟩ := records_ok hrecords
      exact (Except.ok.inj h).symm
    · cases h
  · cases h

theorem recent_of_readable {log : Log} (h : ∀ r ∈ log, readable r = true) {limit : Nat}
    (hlimit : 1 ≤ limit ∧ limit ≤ 200) :
    recent log limit = .ok ((latestRecords log).reverse.take limit) := by
  rw [recent, if_pos hlimit, records_of_readable h]

theorem latestRecords_append (log : Log) (r : RunRecord) :
    latestRecords (log ++ [r]) = upsert (latestRecords log) r := by
  rw [latestRecords, List.foldl_append]
  rfl

/-- A new run goes to the end. -/
theorem upsert_new {rs : List RunRecord} {r : RunRecord}
    (h : ∀ q ∈ rs, q.core_run_id ≠ r.core_run_id) : upsert rs r = rs ++ [r] := by
  induction rs with
  | nil => rfl
  | cons q qs ih =>
    rw [upsert, if_neg (h q List.mem_cons_self), ih fun q' hq' => h q' (List.mem_cons_of_mem _ hq')]
    rfl

/-- A run that is there keeps its place. -/
theorem upsert_old {rs : List RunRecord} {q r : RunRecord} (hq : q ∈ rs)
    (hid : q.core_run_id = r.core_run_id) (hnodup : (rs.map RunRecord.core_run_id).Nodup) :
    upsert rs r = rs.map fun q => if q.core_run_id = r.core_run_id then r else q := by
  induction rs with
  | nil => cases hq
  | cons a as ih =>
    rw [List.map_cons, List.nodup_cons] at hnodup
    rw [upsert, List.map_cons]
    by_cases ha : a.core_run_id = r.core_run_id
    · rw [if_pos ha, if_pos ha]
      congr 1
      -- no other record has this id
      have hrest : ∀ b ∈ as, (if b.core_run_id = r.core_run_id then r else b) = b := by
        intro b hb
        refine if_neg fun hbr => hnodup.1 ?_
        rw [ha, ← hbr]
        exact List.mem_map_of_mem hb
      rw [List.map_congr_left hrest, List.map_id']
    · rw [if_neg ha, if_neg ha]
      rcases List.mem_cons.mp hq with rfl | hq
      · exact absurd hid ha
      · rw [ih hq hnodup.2]

theorem mem_latestRecords_upsert {rs : List RunRecord} {r q : RunRecord}
    (hnodup : (rs.map RunRecord.core_run_id).Nodup) :
    q ∈ upsert rs r ↔ q = r ∨ q ∈ rs ∧ q.core_run_id ≠ r.core_run_id := by
  by_cases h : ∃ p ∈ rs, p.core_run_id = r.core_run_id
  · obtain ⟨p, hp, hid⟩ := h
    rw [upsert_old hp hid hnodup, List.mem_map]
    constructor
    · rintro ⟨b, hb, rfl⟩
      split
      · exact .inl rfl
      · rename_i hne
        exact .inr ⟨hb, hne⟩
    · rintro (rfl | ⟨hq, hne⟩)
      · exact ⟨p, hp, if_pos hid⟩
      · exact ⟨q, hq, if_neg hne⟩
  · push Not at h
    rw [upsert_new h, List.mem_append, List.mem_singleton]
    exact ⟨fun hq => hq.elim (fun hq => .inr ⟨hq, h q hq⟩) .inl,
      fun hq => hq.elim .inr fun hq => .inl hq.1⟩

theorem keys_upsert {rs : List RunRecord} {r : RunRecord}
    (hnodup : (rs.map RunRecord.core_run_id).Nodup) :
    ((upsert rs r).map RunRecord.core_run_id).Nodup := by
  by_cases h : ∃ p ∈ rs, p.core_run_id = r.core_run_id
  · obtain ⟨p, hp, hid⟩ := h
    rw [upsert_old hp hid hnodup, List.map_map]
    have hsame : ∀ b ∈ rs, (RunRecord.core_run_id ∘ fun q =>
        if q.core_run_id = r.core_run_id then r else q) b = b.core_run_id := by
      intro b _
      simp only [Function.comp_apply]
      split
      · rename_i hb
        exact hb.symm
      · rfl
    rwa [List.map_congr_left hsame]
  · push Not at h
    rw [upsert_new h, List.map_append, List.nodup_append_comm]
    refine List.nodup_cons.mpr ⟨fun hmem => ?_, hnodup⟩
    obtain ⟨q, hq, hid⟩ := List.mem_map.mp hmem
    exact h q hq hid

theorem nodup_latestRecords (log : Log) :
    ((latestRecords log).map RunRecord.core_run_id).Nodup := by
  induction log using List.reverseRecOn with
  | nil => exact .nil
  | append_singleton log r ih =>
    rw [latestRecords_append]
    exact keys_upsert ih

/-- The latest records are the last records of the runs. -/
theorem mem_latestRecords {log : Log} {r : RunRecord} :
    r ∈ latestRecords log ↔ last r.core_run_id log = some r := by
  induction log using List.reverseRecOn generalizing r with
  | nil => exact ⟨fun h => (nomatch h), fun h => (nomatch (last_some h).1)⟩
  | append_singleton log q ih =>
    rw [latestRecords_append, mem_latestRecords_upsert (nodup_latestRecords log), ih]
    by_cases hid : q.core_run_id = r.core_run_id
    · rw [← hid, last_append_self]
      simp [eq_comm]
    · rw [last_append_ne log hid]
      constructor
      · rintro (rfl | ⟨h, -⟩)
        · exact absurd rfl hid
        · exact h
      · exact fun h => .inr ⟨h, fun heq => hid heq.symm⟩

theorem active_ok {log : Log} {r : RunRecord} : (∃ rs, active log = .ok rs ∧ r ∈ rs) ↔
    (∀ q ∈ log, readable q = true) ∧ last r.core_run_id log = some r ∧ r.status = .RUNNING := by
  constructor
  · rintro ⟨rs, h, hr⟩
    unfold active at h
    split at h
    · rename_i records hrecords
      obtain ⟨rfl, hreadable⟩ := records_ok hrecords
      obtain rfl := Except.ok.inj h
      obtain ⟨hr, hstatus⟩ := List.mem_filter.mp hr
      exact ⟨hreadable, mem_latestRecords.mp hr, beq_iff_eq.mp hstatus⟩
    · cases h
  · rintro ⟨hreadable, hlast, hstatus⟩
    refine ⟨_, by rw [active, records_of_readable hreadable], ?_⟩
    exact List.mem_filter.mpr ⟨mem_latestRecords.mpr hlast, beq_iff_eq.mpr hstatus⟩

/-- The file that a log is appended to record by record reads back as the log: all its records, the last
one of each run and the runs that are still running, or the error at the first record that cannot be read
back. -/
theorem file_refines (log : Log) :
    let text := log.foldl (fun text r => RegistryFile.append text r.toDict) none
    RegistryFile.records text = (records log).map (List.map fun r => r.toDict.sorted) ∧
    (∀ id, RegistryFile.get text id =
      ((records log).map (last id)).map (Option.map fun r => r.toDict.sorted)) ∧
    ∀ r, (∃ rs, active log = .ok rs ∧ r ∈ rs) ↔
      (∃ rs, RegistryFile.records text = .ok rs) ∧ last r.core_run_id log = some r ∧ r.status = .RUNNING := by
  have htext : log.foldl (fun text r => RegistryFile.append text r.toDict) none = file log := by
    rw [file, RegistryFile.written, List.foldl_map]
  dsimp only
  rw [htext]
  refine ⟨records_file log, get_file log, fun r => active_ok.trans (and_congr_left fun _ => ?_)⟩
  rw [records_file]
  constructor
  · intro hreadable
    exact ⟨_, by rw [records_of_readable hreadable]; rfl⟩
  · rintro ⟨rs, hrs⟩
    cases hrecords : records log with
    | ok rs' => exact (records_ok hrecords).2
    | error e =>
      rw [hrecords] at hrs
      cases hrs

theorem Shown.last {limit : Nat} {log : Log} {r : RunRecord} (h : Shown limit log r) :
    last r.core_run_id log = some r :=
  mem_latestRecords.mp (List.mem_reverse.mp (List.mem_of_mem_take h))

theorem Shown.mem {limit : Nat} {log : Log} {r : RunRecord} (h : Shown limit log r) : r ∈ log :=
  (last_some h.last).1

/-- What is shown after one more record: that record, of a run that is new or was shown, and
records that were shown. -/
theorem shown_append {limit : Nat} {log : Log} {q r : RunRecord}
    (h : Shown limit (log ++ [q]) r) :
    r = q ∧ (∀ old, RunRegistry.last q.core_run_id log = some old → Shown limit log old) ∨
      Shown limit log r := by
  rw [Shown, latestRecords_append] at h
  by_cases hq : ∃ p ∈ latestRecords log, p.core_run_id = q.core_run_id
  · obtain ⟨p, hp, hid⟩ := hq
    rw [upsert_old hp hid (nodup_latestRecords log), ← List.map_reverse, ← List.map_take,
      List.mem_map] at h
    obtain ⟨b, hb, rfl⟩ := h
    split
    · rename_i hbq
      refine .inl ⟨rfl, fun old hold => ?_⟩
      obtain rfl : old = b := by
        have hb' := Shown.last hb
        rw [hbq, hold] at hb'
        exact Option.some.inj hb'
      exact hb
    · exact .inr hb
  · push Not at hq
    rw [upsert_new hq, List.reverse_append, List.reverse_singleton, List.singleton_append] at h
    cases limit with
    | zero => cases h
    | succ n =>
      rw [List.take_succ_cons] at h
      rcases List.mem_cons.mp h with rfl | h
      · refine .inl ⟨rfl, fun old hold => ?_⟩
        -- the run is new
        obtain ⟨-, hid⟩ := last_some hold
        refine absurd hid (hq old (mem_latestRecords.mpr ?_))
        rwa [hid]
      · exact .inr ((List.take_subset_take_left _ (Nat.le_succ n)) h)

end RunRegistry

end Plachem
