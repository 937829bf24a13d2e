import PlachemMonitor.Json.Scan
import PlachemMonitor.Registry.Record
import PlachemMonitor.Spec.Result
import PlachemMonitor.Spec.Table

/-!
# The stores of the adapter

`SQLiteRunBindingStore` keeps two rows for a core run: the preparation, which is written before the
worker is started and never again, and the binding, whose status `wait` and `cancel` move on.
`ValidationStateStore` keeps what a result is verified with; an entry that is there is never
rewritten.
-/

namespace Plachem

/-- What a method of the adapter raises. -/
inductive AdapterError where
  | gateway_contract (message : String)
  | session_binding (message : String)
  | idempotency_conflict (message : String)
  /-- `TransportError`, `TimeoutError`, or an RPC that the Gateway rejects. -/
  | rpc
  | value (message : String)
  deriving DecidableEq

/-- The session as it was before the worker was started. -/
structure RunPreparation where
  core_run_id : String
  agent_id : String
  session_key : String
  idempotency_key : String
  watermark_seq : Option Int
  watermark_message_id : Option String
  captured_at_ms : Int
  history_was_empty : Bool
  deriving DecidableEq

/-- `SQLiteRunBindingStore` -/
structure RunBindingStore where
  bindings : Table RunBinding RunBinding.core_run_id
  preparations : Table RunPreparation RunPreparation.core_run_id
  deriving DecidableEq

namespace RunBindingStore

def empty : RunBindingStore := ⟨.empty, .empty⟩

def get (s : RunBindingStore) (core_run_id : String) : Option RunBinding := s.bindings.find core_run_id

/-- Another run has the binding's `openclaw_run_id` or its `idempotency_key`. -/
def taken (s : RunBindingStore) (binding : RunBinding) : Bool :=
  s.bindings.rows.any fun q => q.core_run_id != binding.core_run_id &&
    (q.openclaw_run_id == binding.openclaw_run_id || q.idempotency_key == binding.idempotency_key)

def put (s : RunBindingStore) (binding : RunBinding) : Except AdapterError RunBindingStore :=
  if s.taken binding then .error (.idempotency_conflict "run or idempotency binding conflicts")
  else .ok
    { s with
      bindings := s.bindings.upsert binding (fun q => { binding with core_run_id := q.core_run_id })
        fun _ => rfl }

def get_preparation (s : RunBindingStore) (core_run_id : String) : Option RunPreparation :=
  s.preparations.find core_run_id

/-- `INSERT .. ON CONFLICT(core_run_id) DO NOTHING`, and what is there then is read back. -/
def put_preparation (s : RunBindingStore) (preparation : RunPreparation) :
    Except AdapterError RunBindingStore :=
  let conflict := AdapterError.idempotency_conflict "run preparation conflicts"
  if s.preparations.rows.any fun q => q.core_run_id != preparation.core_run_id &&
      q.idempotency_key == preparation.idempotency_key then .error conflict
  else
    match s.preparations.insert preparation with
    | some preparations => .ok { s with preparations := preparations }
    | none => if s.get_preparation preparation.core_run_id = some preparation then .ok s
      else .error conflict

variable {s s' : RunBindingStore}

theorem put_preparations {binding : RunBinding} (h : s.put binding = .ok s') :
    s'.preparations = s.preparations := by
  unfold put at h
  split at h
  · cases h
  · cases h
    rfl

/-- A binding that is put is there afterwards, and nothing else is changed. -/
theorem get_put {binding : RunBinding} (h : s.put binding = .ok s') (id : String) :
    s'.get id = if binding.core_run_id = id then some binding else s.get id := by
  unfold put at h
  split at h
  · cases h
  · cases h
    unfold get
    dsimp only
    rw [Table.find_upsert]
    split
    · rename_i hid
      cases hfind : s.bindings.find id with
      | none => rfl
      | some q =>
        have hq := (Table.find_some hfind).2
        simp [hq, ← hid]
    · rfl

/-- A preparation that is put is there afterwards; one that was there stays. -/
theorem get_put_preparation {preparation : RunPreparation}
    (h : s.put_preparation preparation = .ok s') (id : String) :
    s'.get_preparation id =
        (if preparation.core_run_id = id then some preparation else s.get_preparation id) ∧
      s'.bindings = s.bindings := by
  unfold put_preparation at h
  split at h
  · cases h
  · split at h
    · rename_i t hinsert
      cases h
      exact ⟨Table.find_insert hinsert id, rfl⟩
    · split at h
      · rename_i hsame
        cases h
        refine ⟨?_, rfl⟩
        split
        · rename_i hid
          rw [← hid, hsame]
        · rfl
      · cases h

/-- What is put over a stored preparation is that preparation. -/
theorem put_preparation_same {preparation old : RunPreparation}
    (h : s.put_preparation preparation = .ok s')
    (hold : s.get_preparation preparation.core_run_id = some old) : old = preparation := by
  unfold put_preparation at h
  split at h
  · cases h
  · split at h
    · rename_i hinsert
      obtain ⟨hmem, hkey⟩ := Table.find_some hold
      exact absurd (List.mem_map.mpr ⟨old, hmem, hkey⟩) (Table.insert_eq_some hinsert).2
    · split at h
      · rename_i hsame
        exact Option.some.inj (hold.symm.trans hsame)
      · cases h

end RunBindingStore

/-! ## What results are verified with -/

/-- The outcome as it is saved: `sort_keys` orders the members of its results. -/
def AdapterOutcome.sorted (o : AdapterOutcome) : AdapterOutcome :=
  { o with result := o.result.map Dict.sorted, rejected_result := o.rejected_result.map Dict.sorted }

/-- `ValidationStateStore`, with one map for each kind. -/
structure ValidationState where
  context : String → Option Dict
  result_input : String → Option Dict
  outcome : String → Option AdapterOutcome

namespace ValidationState

def empty : ValidationState := ⟨fun _ => none, fun _ => none, fun _ => none⟩

/-- `ValidationStateStore.put`: an entry that is there stays, and has to be the one that is put. -/
def put {α : Type} [DecidableEq α] (entries : String → Option α) (run_id : String) (value : α) :
    Except AdapterError (String → Option α) :=
  match entries run_id with
  | none => .ok fun id => if id = run_id then some value else entries id
  | some previous =>
    if previous = value then .ok entries else .error (.value "VALIDATION_STATE_CONFLICT")

variable {α : Type} [DecidableEq α] {entries entries' : String → Option α} {run_id : String} {value : α}

theorem put_self (h : put entries run_id value = .ok entries') : entries' run_id = some value := by
  unfold put at h
  split at h
  · cases h
    exact if_pos rfl
  · rename_i hprevious
    split at h
    · rename_i hsame
      cases h
      rw [hprevious, hsame]
    · cases h

/-- An entry is never rewritten. -/
theorem put_keeps (h : put entries run_id value = .ok entries') {id : String} {previous : α}
    (hid : entries id = some previous) : entries' id = some previous := by
  unfold put at h
  split at h
  · rename_i hnone
    cases h
    have hne : id ≠ run_id := by
      rintro rfl
      rw [hnone] at hid
      cases hid
    exact (if_neg hne).trans hid
  · split at h
    · cases h
      exact hid
    · cases h

end ValidationState

end Plachem
