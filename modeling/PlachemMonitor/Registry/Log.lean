import PlachemMonitor.Registry.Record

/-!
# The registry log

The log of typed records, and what the readers of `RunRegistry` return for it. The text of the
file is `RunRegistry.file log`, and the readers here are those of the file:

* `records_file`: `RunRegistry._records` on the file gives the records of the log, or the same
  corruption error.
* `get_file`: so does `RunRegistry.get`.

The mutators read under the same lock, so a log with a record that is not line safe stays as it
is: every reader raises on it.
-/

namespace Plachem

/-- The records in the order in which they were appended. -/
abbrev Log := List RunRecord

/-- What the methods of `RunRegistry` raise. -/
inductive RegistryError where
  | corruption (error : RegistryFile.CorruptionError)
  | value (message : String)
  deriving DecidableEq

namespace RunRegistry

open RegistryFile (CorruptionError latest)

/-- The text of the registry file. -/
def file (log : Log) : RegistryFile.File := RegistryFile.written (log.map RunRecord.toDict)

def readable (record : RunRecord) : Bool := RegistryFile.lineSafe record.toDict

/-- `RunRegistry._records` -/
def records (log : Log) : Except CorruptionError Log :=
  let good := log.takeWhile readable
  if good.length = log.length then .ok log
  else .error ⟨"MALFORMED_RUN_REGISTRY", good.length + 1, good.map fun r => r.toDict.sorted⟩

def hasId (core_run_id : String) (record : RunRecord) : Bool := record.core_run_id == core_run_id

def hasKey (key : String) (record : RunRecord) : Bool := record.idempotency_key == key

/-- The records of a run, in order. -/
def history (core_run_id : String) (log : Log) : List RunRecord := log.filter (hasId core_run_id)

/-- The last record of a run. -/
def last (core_run_id : String) (log : Log) : Option RunRecord := latest (hasId core_run_id) log

/-- `RunRegistry.get` -/
def get (log : Log) (core_run_id : String) : Except RegistryError (Option RunRecord) :=
  match records log with
  | .ok records => .ok (last core_run_id records)
  | .error e => .error (.corruption e)

/-- `RunRegistry.get_by_idempotency` -/
def get_by_idempotency (log : Log) (key : String) : Except RegistryError (Option RunRecord) :=
  match records log with
  | .ok records => .ok (latest (hasKey key) records)
  | .error e => .error (.corruption e)

/-- `latest[run_id] = record`: a run keeps the place of its first record. -/
def upsert : List RunRecord → RunRecord → List RunRecord
  | [], record => [record]
  | r :: rs, record =>
    if r.core_run_id = record.core_run_id then record :: rs else r :: upsert rs record

/-- The last record of each run, in the order in which the runs were created. -/
def latestRecords (log : Log) : List RunRecord := log.foldl upsert []

/-- `RunRegistry.recent` -/
def recent (log : Log) (limit : Nat) : Except RegistryError (List RunRecord) :=
  if 1 ≤ limit ∧ limit ≤ 200 then
    match records log with
    | .ok records => .ok ((latestRecords records).reverse.take limit)
    | .error e => .error (.corruption e)
  else .error (.value "INVALID_LIMIT")

/-- `RunRegistry.active` -/
def active (log : Log) : Except RegistryError (List RunRecord) :=
  match records log with
  | .ok records => .ok ((latestRecords records).filter fun r => r.status == .RUNNING)
  | .error e => .error (.corruption e)

/-! ## The log and the file -/

/-- The keys of a record are line safe, so a record is if its values are. -/
theorem readable_iff (r : RunRecord) :
    readable r = true ↔ ∀ m ∈ r.items, m.2.json.allStrings RegistryFile.safeText = true := by
  have hkeys : ∀ m ∈ r.items, RegistryFile.safeText m.1 = true := by
    have hall : (r.items.map Prod.fst).all RegistryFile.safeText = true := by
      simp only [RunRecord.items, List.map_cons, List.map_nil]
      decide +kernel
    intro m hm
    exact List.all_eq_true.mp hall m.1 (List.mem_map_of_mem hm)
  rw [readable, RunRecord.toDict, RegistryFile.lineSafe_ofList]
  exact ⟨fun h m hm => (h m hm).2, fun h m hm => ⟨hkeys m hm, h m hm⟩⟩

theorem file_append (log : Log) (record : RunRecord) :
    file (log ++ [record]) = RegistryFile.append (file log) record.toDict := by
  simp [file, RegistryFile.written]

theorem records_ok {log log' : Log} (h : records log = .ok log') :
    log' = log ∧ ∀ r ∈ log, readable r = true := by
  simp only [records] at h
  split at h
  · rename_i hlen
    cases h
    refine ⟨rfl, fun r hr => ?_⟩
    have hall : log.takeWhile readable = log :=
      (List.takeWhile_sublist _).eq_of_length hlen
    rw [← hall] at hr
    exact List.mem_takeWhile_imp hr
  · cases h

theorem records_of_readable {log : Log} (h : ∀ r ∈ log, readable r = true) :
    records log = .ok log := by
  rw [records, List.takeWhile_eq_self_iff.mpr h]
  simp

/-- The file gives back the records of the log, or the error that the log gives. -/
theorem records_file (log : Log) :
    RegistryFile.records (file log) = (records log).map (List.map fun r => r.toDict.sorted) := by
  by_cases h : ∀ r ∈ log, readable r = true
  · have hsafe : ∀ d ∈ log.map RunRecord.toDict, RegistryFile.lineSafe d = true := by
      simpa [readable] using h
    rw [records_of_readable h, file, RegistryFile.records_written hsafe]
    simp [Except.map]
  · have hunsafe : ¬ ∀ d ∈ log.map RunRecord.toDict, RegistryFile.lineSafe d = true := by
      simpa [readable] using h
    obtain ⟨good, bad, rest, hlog, hgood, hbad, herr⟩ := RegistryFile.records_unsafe hunsafe
    obtain ⟨good', tail, rfl, rfl, htail⟩ := List.map_eq_append_iff.mp hlog
    obtain ⟨bad', rest', rfl, rfl, rfl⟩ := List.map_eq_cons_iff.mp htail
    have htake : (good' ++ bad' :: rest').takeWhile readable = good' := by
      rw [List.takeWhile_append_of_pos (by simpa [readable] using hgood),
        List.takeWhile_cons_of_neg (by simp [readable, hbad]), List.append_nil]
    rw [file, herr, records, htake]
    simp [Except.map, Function.comp_def]

theorem hasId_toDict (id : String) (r : RunRecord) :
    RegistryFile.hasId id r.toDict = hasId id r := by
  rw [RegistryFile.hasId, RunRecord.get?_core_run_id, hasId, Bool.eq_iff_iff]
  simp

/-- `get` of the file is `get` of the log. -/
theorem get_file (log : Log) (id : String) :
    RegistryFile.get (file log) id =
      ((records log).map (last id)).map (Option.map fun r => r.toDict.sorted) := by
  rw [RegistryFile.get, records_file]
  cases records log with
  | error e => rfl
  | ok rs =>
    have hid : (RegistryFile.hasId id ∘ fun r : RunRecord => r.toDict.sorted) = hasId id := by
      funext r
      rw [Function.comp_apply, RegistryFile.hasId_sorted, hasId_toDict]
    have hfilter : (rs.map fun r => r.toDict.sorted).filter (RegistryFile.hasId id) =
        (rs.filter (hasId id)).map fun r => r.toDict.sorted := by
      rw [List.filter_map, hid]
    simp only [Except.map, last, RegistryFile.latest_eq, hfilter, List.getLast?_map]

/-! ## The last record of a run -/

theorem last_eq (id : String) (log : Log) : last id log = (history id log).getLast? :=
  RegistryFile.latest_eq _ _

theorem history_append (id : String) (log : Log) (r : RunRecord) :
    history id (log ++ [r]) = history id log ++ if r.core_run_id = id then [r] else [] := by
  rw [history, List.filter_append, history]
  by_cases h : r.core_run_id = id <;> simp [hasId, h]

@[simp] theorem last_append_self (log : Log) (r : RunRecord) :
    last r.core_run_id (log ++ [r]) = some r := by
  simp [last_eq, history_append]

@[simp] theorem last_append_ne {id : String} {r : RunRecord} (log : Log) (h : r.core_run_id ≠ id) :
    last id (log ++ [r]) = last id log := by
  simp [last_eq, history_append, h]

theorem last_some {id : String} {log : Log} {r : RunRecord} (h : last id log = some r) :
    r ∈ log ∧ r.core_run_id = id := by
  rw [last_eq] at h
  have := List.mem_of_getLast? h
  simpa [history, hasId] using this

theorem last_eq_none {id : String} {log : Log} :
    last id log = none ↔ ∀ r ∈ log, r.core_run_id ≠ id := by
  rw [last_eq, List.getLast?_eq_none_iff, history, List.filter_eq_nil_iff]
  simp [hasId]

/-- A run that has a record has a last one. -/
theorem exists_last {log : Log} {r : RunRecord} (h : r ∈ log) :
    ∃ r', last r.core_run_id log = some r' := by
  cases hl : last r.core_run_id log with
  | none => exact absurd rfl (last_eq_none.mp hl r h)
  | some r' => exact ⟨r', rfl⟩

theorem get_ok {log : Log} {id : String} {o : Option RunRecord} (h : get log id = .ok o) :
    o = last id log := by
  unfold get at h
  split at h
  · rename_i rs hrs
    obtain ⟨rfl, -⟩ := records_ok hrs
    exact (Except.ok.inj h).symm
  · cases h

theorem get_readable {log : Log} {id : String} {o : Option RunRecord} (h : get log id = .ok o) :
    ∀ r ∈ log, readable r = true := by
  unfold get at h
  split at h
  · rename_i rs hrs
    exact (records_ok hrs).2
  · cases h

theorem get_of_readable {log : Log} (h : ∀ r ∈ log, readable r = true) (id : String) :
    get log id = .ok (last id log) := by
  rw [get, records_of_readable h]

theorem get_by_idempotency_none {log : Log} {key : String}
    (h : get_by_idempotency log key = .ok none) : ∀ r ∈ log, r.idempotency_key ≠ key := by
  unfold get_by_idempotency at h
  split at h
  · rename_i rs hrs
    obtain ⟨rfl, -⟩ := records_ok hrs
    have hnone := Except.ok.inj h
    rw [RegistryFile.latest_eq, List.getLast?_eq_none_iff, List.filter_eq_nil_iff] at hnone
    simpa [hasKey] using hnone
  · cases h

theorem get_by_idempotency_some {log : Log} {key : String} {r : RunRecord}
    (h : get_by_idempotency log key = .ok (some r)) : r ∈ log ∧ r.idempotency_key = key := by
  unfold get_by_idempotency at h
  split at h
  · rename_i rs hrs
    obtain ⟨rfl, -⟩ := records_ok hrs
    have hsome := Except.ok.inj h
    rw [RegistryFile.latest_eq] at hsome
    have := List.mem_of_getLast? hsome
    simpa [hasKey] using this
  · cases h

end RunRegistry

end Plachem
