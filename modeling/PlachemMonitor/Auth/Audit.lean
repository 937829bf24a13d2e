import PlachemMonitor.Auth.OneUse
import PlachemMonitor.Spec.HashChain

/-!
# The audit of the broker

`verify_audit` on the rows of `auth_audit`, whatever values the columns hold: SQLite stores a value of
any type in most of them.

* `audit_sound`: after any calls, the audit that brokers of one set of secrets have written is
  accepted.
* `accepted_iff_prefix`, `tampering_rejected_iff`: a table whose signed bodies are those of an accepted
  one is accepted exactly if it is the accepted one without some of its last rows. The end of the chain
  is stored nowhere else, so that rows are missing there is not seen.
-/

namespace Plachem

namespace AuthBroker

/-! ## Rows as they are stored -/

/-- A value of SQLite. -/
inductive SqlValue where
  | null
  | integer (n : Int)
  | real (t : FloatText)
  | text (s : String)
  | blob (b : Bytes)
  deriving DecidableEq

namespace SqlValue

def ofOption : Option String → SqlValue
  | some s => .text s
  | none => .null

/-- The value in `json.dumps`; a `bytes` is a `TypeError`. -/
def json : SqlValue → Option Json
  | null => some .null
  | integer n => some (.int n)
  | real t => some (.float t)
  | text s => some (.str s)
  | blob _ => none

/-- `bytes(value)` -/
def bytes : SqlValue → Except AuthError Bytes
  | blob b => .ok b
  | integer n => if 0 ≤ n then .ok (List.replicate n.toNat 0) else .error (.value "negative count")
  | _ => .error .type

theorem json_inj {a b : SqlValue} {v : Json} (ha : a.json = some v) (hb : b.json = some v) : a = b := by
  cases a <;> cases b <;> simp_all [json] <;> grind

end SqlValue

/-- The columns that `_audit_body` hashes. -/
structure AuditBody where
  event_id : SqlValue
  grant_id : SqlValue
  event_type : SqlValue
  outcome : SqlValue
  error_code : SqlValue
  run_id : SqlValue
  agent_id : SqlValue
  action : SqlValue
  workspace_id : SqlValue
  project_id : SqlValue
  task_digest : SqlValue
  occurred_at_ms : SqlValue
  prev_hash : SqlValue
  key_id : SqlValue
  details_json : SqlValue
  deriving DecidableEq

/-- A row of `auth_audit`. -/
structure StoredRow where
  seq : Int
  body : AuditBody
  event_hash : SqlValue
  event_mac : SqlValue
  deriving DecidableEq

/-- The row that `_audit` inserts, as it is read back. -/
def AuditRow.stored (row : AuditRow) : StoredRow where
  seq := row.seq
  body :=
    { event_id := .text row.event_id
      grant_id := .ofOption row.grant_id
      event_type := .text row.event_type
      outcome := .text row.outcome
      error_code := .ofOption row.error_code
      run_id := .ofOption row.run_id
      agent_id := .text row.agent_id
      action := .text row.action
      workspace_id := .text row.workspace_id
      project_id := .text row.project_id
      task_digest := .text row.task_digest
      occurred_at_ms := .integer row.occurred_at_ms
      prev_hash := .text row.prev_hash
      key_id := .text row.key_id
      details_json := .text row.details_json }
  event_hash := .text row.event_hash
  event_mac := .blob row.event_mac

namespace AuditBody

/-- The columns under their names. -/
def columns (b : AuditBody) : List (String × SqlValue) :=
  [("event_id", b.event_id), ("grant_id", b.grant_id), ("event_type", b.event_type),
    ("outcome", b.outcome), ("error_code", b.error_code), ("run_id", b.run_id),
    ("agent_id", b.agent_id), ("action", b.action), ("workspace_id", b.workspace_id),
    ("project_id", b.project_id), ("task_digest", b.task_digest),
    ("occurred_at_ms", b.occurred_at_ms), ("prev_hash", b.prev_hash), ("key_id", b.key_id),
    ("details_json", b.details_json)]

/-- `{k: row[k] for k in fields}` -/
def members : List (String × SqlValue) → Option (List (String × Json))
  | [] => some []
  | (k, v) :: cs => v.json.bind fun j => (members cs).map ((k, j) :: ·)

/-- `_audit_body` -/
def text (b : AuditBody) : Except AuthError String :=
  match members b.columns with
  | some ms => .ok (String.ofList ((Json.obj ms).dumps true))
  | none => .error .type

end AuditBody

/-! ## The check -/

/-- `secrets.get(row["key_id"])`; an id that is no text is a `TypeError`. -/
def stored_secret (broker : Broker) : SqlValue → Except AuthError Bytes
  | .text id => secret broker id
  | _ => .error .type

/-- `hmac.compare_digest(event_hash, row["event_hash"])` -/
def compare_stored (a : String) : SqlValue → Except AuthError Bool
  | .text b => compare_digest a b
  | _ => .error .type

/-- What a check of the chain raises. -/
def integrity_failed : AuthError := error "AUDIT_INTEGRITY_FAILED"

/-- The loop of `verify_audit`. -/
def verify_rows (H : Hashlib) (broker : Broker) : Nat → String → List StoredRow →
    Except AuthError Unit
  | _, _, [] => .ok ()
  | expected_seq, previous, row :: rows => do
    if row.seq ≠ expected_seq ∨ row.body.prev_hash ≠ .text previous then throw integrity_failed
    let body ← row.body.text
    let event_hash := H.sha256 body
    if !(← compare_stored event_hash row.event_hash) then throw integrity_failed
    let key ← stored_secret broker row.body.key_id
    if H.hmac key body ≠ (← row.event_mac.bytes) then throw integrity_failed
    verify_rows H broker (expected_seq + 1) event_hash rows

/-- `ORDER BY seq` -/
def by_seq (table : List StoredRow) : List StoredRow :=
  table.mergeSort fun a b => decide (a.seq ≤ b.seq)

/-- `SQLiteAuthBroker.verify_audit` -/
def verify_audit (H : Hashlib) (broker : Broker) (table : List StoredRow) : Except AuthError Unit :=
  verify_rows H broker 1 genesis (by_seq table)

/-! ## Bodies and their texts -/

namespace SqlValue

theorem sortKeys_json {v : SqlValue} {j : Json} (h : v.json = some j) : j.sortKeys = j ∧ j.wf = true := by
  cases v <;> simp only [json, reduceCtorEq, Option.some.injEq] at h <;> subst h <;> exact ⟨rfl, rfl⟩

end SqlValue

namespace AuditBody

theorem members_cons {k : String} {v : SqlValue} {cs : List (String × SqlValue)}
    {ms : List (String × Json)} (h : members ((k, v) :: cs) = some ms) :
    ∃ j js, v.json = some j ∧ members cs = some js ∧ ms = (k, j) :: js := by
  obtain ⟨j, hj, hrest⟩ := Option.bind_eq_some_iff.mp h
  obtain ⟨js, hjs, rfl⟩ := Option.map_eq_some_iff.mp hrest
  exact ⟨j, js, hj, hjs, rfl⟩

theorem members_keys {cs : List (String × SqlValue)} {ms : List (String × Json)}
    (h : members cs = some ms) : ms.map Prod.fst = cs.map Prod.fst := by
  induction cs generalizing ms with
  | nil =>
    cases h
    rfl
  | cons c cs ih =>
    obtain ⟨j, js, -, hjs, rfl⟩ := members_cons h
    simp [ih hjs]

theorem members_wf {cs : List (String × SqlValue)} {ms : List (String × Json)}
    (h : members cs = some ms) : ∀ m ∈ ms, m.2.sortKeys = m.2 ∧ m.2.wf = true := by
  induction cs generalizing ms with
  | nil =>
    cases h
    exact fun _ => nofun
  | cons c cs ih =>
    obtain ⟨j, js, hj, hjs, rfl⟩ := members_cons h
    intro m hm
    rcases List.mem_cons.mp hm with rfl | hm
    · exact SqlValue.sortKeys_json hj
    · exact ih hjs m hm

/-- Columns of the same names with the same members are the same. -/
theorem columns_of_members {cs ds : List (String × SqlValue)} {ms : List (String × Json)}
    (hkeys : cs.map Prod.fst = ds.map Prod.fst) (hc : members cs = some ms)
    (hd : members ds = some ms) : cs = ds := by
  induction cs generalizing ds ms with
  | nil =>
    rw [List.map_nil, eq_comm, List.map_eq_nil_iff] at hkeys
    exact hkeys.symm
  | cons c cs ih =>
    cases ds with
    | nil => simp at hkeys
    | cons d ds =>
      simp only [List.map_cons, List.cons.injEq] at hkeys
      obtain ⟨j, js, hj, hjs, rfl⟩ := members_cons hc
      obtain ⟨j', js', hj', hjs', hms⟩ := members_cons hd
      simp only [List.cons.injEq, Prod.mk.injEq] at hms
      obtain ⟨⟨hk, rfl⟩, rfl⟩ := hms
      rw [ih hkeys.2 hjs hjs', Prod.ext hk (SqlValue.json_inj hj hj')]

/-- Members under the same keys, in order, are the same if the keys find the same. -/
theorem eq_of_getMember {ms ns : List (String × Json)} (hkeys : ms.map Prod.fst = ns.map Prod.fst)
    (hnodup : (ms.map Prod.fst).Nodup) (h : ∀ k, Json.getMember ms k = Json.getMember ns k) :
    ms = ns := by
  have hnodup' := hkeys ▸ hnodup
  refine List.ext_getElem (by simpa using congrArg List.length hkeys) fun i hi hi' => ?_
  have hkey : ms[i].1 = ns[i].1 := by
    have := List.getElem_of_eq hkeys (by simpa using hi)
    simpa using this
  have hfound := (Json.getMember_eq_some hnodup (k := ms[i].1) (v := ms[i].2)).mpr (List.getElem_mem hi)
  have hfound' := (Json.getMember_eq_some hnodup' (k := ns[i].1) (v := ns[i].2)).mpr
    (List.getElem_mem hi')
  rw [h, hkey, hfound'] at hfound
  exact Prod.ext hkey (Option.some.inj hfound).symm

theorem columns_nodup (b : AuditBody) : (b.columns.map Prod.fst).Nodup := by
  simp [columns]

theorem columns_inj {a b : AuditBody} (h : a.columns = b.columns) : a = b := by
  cases a
  cases b
  simpa [columns] using h

theorem text_eq_ok {b : AuditBody} {t : String} (h : b.text = .ok t) :
    ∃ ms, members b.columns = some ms ∧ t = String.ofList ((Json.obj ms).dumps true) := by
  unfold text at h
  cases hms : members b.columns with
  | none =>
    rw [hms] at h
    cases h
  | some ms =>
    rw [hms] at h
    exact ⟨ms, rfl, (Except.ok.inj h).symm⟩

/-- A text is that of one body. -/
theorem text_inj {a b : AuditBody} {t : String} (ha : a.text = .ok t) (hb : b.text = .ok t) :
    a = b := by
  obtain ⟨ms, hms, rfl⟩ := text_eq_ok ha
  obtain ⟨ns, hns, htext⟩ := text_eq_ok hb
  have hkeys : ms.map Prod.fst = ns.map Prod.fst := (members_keys hms).trans (members_keys hns).symm
  have hwf : ∀ {cs : List (String × SqlValue)} {js : List (String × Json)}, members cs = some js →
      (cs.map Prod.fst).Nodup → (Json.obj js).wf = true := by
    intro cs js hjs hcs
    rw [Json.wf, Bool.and_eq_true, decide_eq_true_eq, members_keys hjs, Json.wfMembers_iff]
    exact ⟨hcs, fun m hm => (members_wf hjs m hm).2⟩
  have heqv := Json.dumps_inj (hwf hms a.columns_nodup) (hwf hns b.columns_nodup)
    (String.ofList_injective htext)
  have hfind : ∀ k, Json.getMember ms k = Json.getMember ns k := by
    intro k
    have hmap : ∀ {cs : List (String × SqlValue)} {js : List (String × Json)}, members cs = some js →
        (Json.getMember js k).map Json.sortKeys = Json.getMember js k := by
      intro cs js hjs
      cases hk : Json.getMember js k with
      | none => rfl
      | some v =>
        obtain ⟨m, hm, rfl⟩ := Option.map_eq_some_iff.mp hk
        rw [Option.map_some, (members_wf hjs m (List.mem_of_find?_eq_some hm)).1]
    rw [← hmap hms, ← hmap hns]
    exact Json.getMember_of_eqv (hwf hms a.columns_nodup) (hwf hns b.columns_nodup) heqv k
  have hsame := eq_of_getMember hkeys (members_keys hms ▸ a.columns_nodup) hfind
  subst hsame
  exact columns_inj (columns_of_members ((members_keys hms).symm.trans (members_keys hns)) hms hns)

/-- The hash of a body; a body without a text has none. -/
def hash (H : Hashlib) (b : AuditBody) : SqlValue ⊕ AuditBody :=
  match b.text with
  | .ok t => .inl (.text (H.sha256 t))
  | .error _ => .inr b

theorem hash_injective {H : Hashlib} (hsha : Function.Injective H.sha256) :
    Function.Injective (hash H) := by
  intro a b h
  unfold hash at h
  cases ha : a.text with
  | ok t =>
    cases hb : b.text with
    | ok u =>
      simp only [ha, hb, Sum.inl.injEq, SqlValue.text.injEq] at h
      exact text_inj ha (hsha h ▸ hb)
    | error e => simp [ha, hb] at h
  | error e =>
    cases hb : b.text with
    | ok u => simp [ha, hb] at h
    | error e' => simpa [ha, hb] using h

theorem hash_ne {H : Hashlib} {g : String} (hg : ∀ s, H.sha256 s ≠ g) (b : AuditBody) :
    hash H b ≠ .inl (.text g) := by
  unfold hash
  split
  · rename_i t _
    simpa using hg t
  · simp

end AuditBody

/-- What is hashed of a row can be read from its columns. -/
theorem AuditRow.stored_text (row : AuditRow) : row.stored.body.text = .ok (audit_body row) := by
  have hmembers : AuditBody.members row.stored.body.columns =
      some ([("event_id", Value.str row.event_id),
        ("grant_id", .ofOption .str row.grant_id), ("event_type", .str row.event_type),
        ("outcome", .str row.outcome), ("error_code", .ofOption .str row.error_code),
        ("run_id", .ofOption .str row.run_id), ("agent_id", .str row.agent_id),
        ("action", .str row.action), ("workspace_id", .str row.workspace_id),
        ("project_id", .str row.project_id), ("task_digest", .str row.task_digest),
        ("occurred_at_ms", .int row.occurred_at_ms), ("prev_hash", .str row.prev_hash),
        ("key_id", .str row.key_id), ("details_json", .str row.details_json)].map
          fun m => (m.1, m.2.json)) := by
    obtain ⟨seq, event_id, grant_id, event_type, outcome, error_code, run_id⟩ := row
    cases grant_id <;> cases error_code <;> cases run_id <;> rfl
  rw [AuditBody.text, hmembers]
  rfl

/-! ## The rows that the check accepts -/

/-- The row has a text, and its MAC is one of that text under the key it names. -/
def StoredRow.Authentic (H : Hashlib) (broker : Broker) (row : StoredRow) : Prop :=
  ∃ t key, row.body.text = .ok t ∧ stored_secret broker row.body.key_id = .ok key ∧
    row.event_mac.bytes = .ok (H.hmac key t)

/-- The row carries the hash of its text. -/
def StoredRow.Hashed (H : Hashlib) (row : StoredRow) : Prop :=
  ∃ t, row.body.text = .ok t ∧ compare_stored (H.sha256 t) row.event_hash = .ok true

/-- The rows that are accepted from `expected_seq` and `previous` on. -/
structure Accepted (H : Hashlib) (broker : Broker) (expected_seq : Nat) (previous : String)
    (rows : List StoredRow) : Prop where
  seqs : rows.map StoredRow.seq = (List.range' expected_seq rows.length).map Int.ofNat
  linked : Linked (fun b => .inl b.prev_hash) (AuditBody.hash H) (.inl (.text previous))
    (rows.map StoredRow.body)
  hashed : ∀ row ∈ rows, row.Hashed H
  authentic : ∀ row ∈ rows, row.Authentic H broker

section Accepted

variable {H : Hashlib} {broker : Broker} {expected_seq : Nat} {previous : String} {row : StoredRow}
  {rows : List StoredRow}

theorem AuditBody.hash_of_text {b : AuditBody} {t : String} (h : b.text = .ok t) :
    b.hash H = .inl (.text (H.sha256 t)) := by
  rw [AuditBody.hash, h]

/-- One turn of the loop. -/
theorem verify_rows_cons : verify_rows H broker expected_seq previous (row :: rows) = .ok () ↔
    row.seq = expected_seq ∧ row.body.prev_hash = .text previous ∧ row.Authentic H broker ∧
      ∃ t, row.body.text = .ok t ∧ compare_stored (H.sha256 t) row.event_hash = .ok true ∧
        verify_rows H broker (expected_seq + 1) (H.sha256 t) rows = .ok () := by
  constructor
  · intro h
    rw [verify_rows] at h
    split at h
    · cases h
    rename_i hplace
    simp only [not_or, not_not] at hplace
    obtain ⟨t, ht, h⟩ := bind_eq_ok.mp h
    obtain ⟨same, hsame, h⟩ := bind_eq_ok.mp h
    cases same with
    | false => cases h
    | true =>
      obtain ⟨key, hkey, h⟩ := bind_eq_ok.mp h
      obtain ⟨mac, hmac, h⟩ := bind_eq_ok.mp h
      split at h
      · cases h
      rename_i heq
      rw [not_not] at heq
      exact ⟨hplace.1, hplace.2, ⟨t, key, ht, hkey, heq ▸ hmac⟩, t, ht, hsame, h⟩
  · rintro ⟨hseq, hprev, ⟨t, key, ht, hkey, hmac⟩, t', ht', hhash, hrest⟩
    obtain rfl := Except.ok.inj (ht.symm.trans ht')
    rw [verify_rows, if_neg (by simp [hseq, hprev])]
    simp [ht, hhash, hkey, hmac, hrest, bind, Except.bind]

theorem accepted_cons : Accepted H broker expected_seq previous (row :: rows) ↔
    row.seq = expected_seq ∧ row.body.prev_hash = .text previous ∧ row.Authentic H broker ∧
      ∃ t, row.body.text = .ok t ∧ compare_stored (H.sha256 t) row.event_hash = .ok true ∧
        Accepted H broker (expected_seq + 1) (H.sha256 t) rows := by
  constructor
  · rintro ⟨hseqs, hlinked, hhashed, hauth⟩
    obtain ⟨t, ht, hhash⟩ := hhashed row List.mem_cons_self
    obtain ⟨hprev, hlinked⟩ := hlinked
    rw [AuditBody.hash_of_text ht] at hlinked
    simp only [List.map_cons, List.length_cons, List.range'_succ, List.cons.injEq] at hseqs
    exact ⟨hseqs.1, Sum.inl.inj hprev, hauth row List.mem_cons_self, t, ht, hhash, hseqs.2, hlinked,
      fun r hr => hhashed r (List.mem_cons_of_mem _ hr), fun r hr => hauth r (List.mem_cons_of_mem _ hr)⟩
  · rintro ⟨hseq, hprev, hrow, t, ht, hhash, hseqs, hlinked, hhashed, hauth⟩
    refine ⟨?_, ⟨congrArg _ hprev, ?_⟩, ?_, ?_⟩
    · simp [List.range'_succ, hseq, hseqs]
    · rwa [AuditBody.hash_of_text ht]
    · exact List.forall_mem_cons.mpr ⟨⟨t, ht, hhash⟩, hhashed⟩
    · exact List.forall_mem_cons.mpr ⟨hrow, hauth⟩

theorem verify_rows_eq_ok : verify_rows H broker expected_seq previous rows = .ok () ↔
    Accepted H broker expected_seq previous rows := by
  induction rows generalizing expected_seq previous with
  | nil => exact ⟨fun _ => ⟨rfl, trivial, by simp, by simp⟩, fun _ => rfl⟩
  | cons row rows ih =>
    rw [verify_rows_cons, accepted_cons]
    simp only [ih]

/-- One more row is accepted at its place, after the hash of the last one. -/
theorem Accepted.snoc (h : Accepted H broker expected_seq previous rows)
    (hseq : row.seq = (expected_seq + rows.length : Nat)) (hhashed : row.Hashed H)
    (hauth : row.Authentic H broker)
    (hprev : .inl row.body.prev_hash =
      Linked.last (AuditBody.hash H) (.inl (.text previous)) (rows.map StoredRow.body)) :
    Accepted H broker expected_seq previous (rows ++ [row]) where
  seqs := by
    rw [List.map_append, h.seqs, List.length_append, List.length_singleton, List.range'_concat,
      List.map_append]
    simp [hseq]
  linked := by
    rw [List.map_append]
    exact Linked.snoc_iff.mpr ⟨h.linked, hprev⟩
  hashed r hr := by
    rcases List.mem_append.mp hr with hr | hr
    · exact h.hashed r hr
    · exact List.mem_singleton.mp hr ▸ hhashed
  authentic r hr := by
    rcases List.mem_append.mp hr with hr | hr
    · exact h.authentic r hr
    · exact List.mem_singleton.mp hr ▸ hauth

theorem Accepted.of_append {rows' : List StoredRow}
    (h : Accepted H broker expected_seq previous (rows ++ rows')) :
    Accepted H broker expected_seq previous rows where
  seqs := by
    have hseqs := congrArg (List.take rows.length) h.seqs
    rwa [List.map_append, List.take_left' (by simp), ← List.map_take, List.length_append,
      List.take_range'_of_length_ge (Nat.le_add_right _ _)] at hseqs
  linked := by
    have hlinked := h.linked
    rw [List.map_append] at hlinked
    exact (Linked.append_iff.mp hlinked).1
  hashed r hr := h.hashed r (List.mem_append_left _ hr)
  authentic r hr := h.authentic r (List.mem_append_left _ hr)

/-- The rows stand in order. -/
theorem Accepted.by_seq (h : Accepted H broker expected_seq previous rows) : by_seq rows = rows := by
  have hsorted : (rows.map StoredRow.seq).Pairwise (· ≤ ·) := by
    rw [h.seqs, List.pairwise_map]
    refine List.Pairwise.imp ?_ List.pairwise_lt_range'
    intro a b hab
    exact Int.ofNat_le.mpr hab.le
  refine List.mergeSort_of_pairwise (List.pairwise_map.mp hsorted |>.imp ?_)
  intro a b hab
  exact decide_eq_true hab

end Accepted

/-! ## What the broker writes -/

section Sound

variable {H : Hashlib} {broker v : Broker} {env : TxEnv} {db db' : AuthStore}

theorem secret_eq_ok {key_id : String} {key : Bytes} :
    secret broker key_id = .ok key ↔ broker.secrets key_id = some key := by
  unfold secret
  cases broker.secrets key_id <;> simp

/-- What `audit` appends. -/
structure Appended (H : Hashlib) (broker : Broker) (db : AuthStore) (row : AuditRow) : Prop where
  seq : row.seq = db.audit.length + 1
  prev_hash : row.prev_hash = (db.audit.getLast?.map AuditRow.event_hash).getD genesis
  event_hash : row.event_hash = H.sha256 (audit_body row)
  event_mac : ∃ key, broker.secrets broker.key_id = some key ∧ row.key_id = broker.key_id ∧
    row.event_mac = H.hmac key (audit_body row)

theorem audit_appends {event : AuditEvent} (h : audit H broker env db event = .ok db') :
    ∃ row, Appended H broker db row ∧ db'.audit = db.audit ++ [row] := by
  simp only [audit] at h
  split at h
  · cases h
  split at h
  · cases h
  obtain ⟨key, hkey, h⟩ := bind_eq_ok.mp h
  split at h
  · cases h
  · cases h
    exact ⟨_, ⟨rfl, rfl, rfl, key, secret_eq_ok.mp hkey, rfl, rfl⟩, rfl⟩

/-- A transaction leaves the audit as it was, or one row longer. -/
def AuditStep (H : Hashlib) (broker : Broker) (db db' : AuthStore) : Prop :=
  db'.audit = db.audit ∨ ∃ row, Appended H broker db row ∧ db'.audit = db.audit ++ [row]

theorem auditStep_transaction {α : Type}
    {body : AuthStore → Except AuthError (AuthStore × Except AuthError α)}
    {out : Except AuthError α} (hbody : body db = .ok (db', out) → AuditStep H broker db db')
    (h : transaction env db body = (db', out)) : AuditStep H broker db db' := by
  rcases transaction_cases h with ⟨rfl, -⟩ | h
  · exact .inl rfl
  · exact hbody h

/-- The last thing that a body does is to audit. -/
theorem auditStep_audit {α : Type} {db₀ : AuthStore} {event : AuditEvent} {out out' : Except AuthError α}
    (hdb : db.audit = db₀.audit)
    (h : (do let db ← audit H broker env db event
             pure (db, out) : Except AuthError (AuthStore × Except AuthError α)) = .ok (db', out')) :
    AuditStep H broker db₀ db' := by
  obtain ⟨db₁, haudit, h⟩ := bind_eq_ok.mp h
  cases h
  obtain ⟨row, hrow, heq⟩ := audit_appends haudit
  rw [hdb] at heq
  refine .inr ⟨row, ⟨?_, ?_, hrow.event_hash, hrow.event_mac⟩, heq⟩
  · rw [hrow.seq, hdb]
  · rw [hrow.prev_hash, hdb]

theorem insert_audit {g : Grant} (h : db.insert g = some db') : db'.audit = db.audit := by
  unfold AuthStore.insert at h
  split at h
  · cases h
    rfl
  · cases h

theorem auditStep_issue {args : IssueArgs} {out : Except AuthError IssuedGrant}
    (h : issue H broker env db args = (db', out)) : AuditStep H broker db db' := by
  unfold issue at h
  split at h
  · cases h
    exact .inl rfl
  dsimp only at h
  split at h
  · cases h
    exact .inl rfl
  split at h
  · cases h
    exact .inl rfl
  refine auditStep_transaction (fun hbody => ?_) h
  obtain ⟨agent_id, -, hbody⟩ := bind_eq_ok.mp hbody
  obtain ⟨action, -, hbody⟩ := bind_eq_ok.mp hbody
  obtain ⟨workspace_id, -, hbody⟩ := bind_eq_ok.mp hbody
  obtain ⟨project_id, -, hbody⟩ := bind_eq_ok.mp hbody
  obtain ⟨created_by, -, hbody⟩ := bind_eq_ok.mp hbody
  split at hbody
  · cases hbody
  rename_i db₁ hinsert
  obtain ⟨row, -, hinsert⟩ := Option.bind_eq_some_iff.mp hinsert
  exact auditStep_audit (insert_audit hinsert) hbody

theorem auditStep_consume {token : Option String} {scope : AuthScope} {run_id : String} {now : Int}
    {out : Except AuthError ConsumedGrant}
    (h : verify_and_consume H broker env db token scope run_id now = (db', out)) :
    AuditStep H broker db db' := by
  unfold verify_and_consume at h
  split at h
  · cases h
    exact .inl rfl
  split at h
  · exact auditStep_transaction (auditStep_audit rfl) h
  refine auditStep_transaction (fun hbody => ?_) h
  simp only [consume_body] at hbody
  split at hbody
  · exact auditStep_audit rfl hbody
  obtain ⟨mac, -, hbody⟩ := bind_eq_ok.mp hbody
  split at hbody
  · exact auditStep_audit rfl hbody
  obtain ⟨code, -, hbody⟩ := bind_eq_ok.mp hbody
  obtain ⟨code', -, hbody⟩ := bind_eq_ok.mp hbody
  split at hbody
  · exact auditStep_audit rfl hbody
  obtain ⟨run, -, hbody⟩ := bind_eq_ok.mp hbody
  split at hbody
  · cases hbody
  · exact auditStep_audit (by rfl) hbody

theorem auditStep_revoke {grant_id revoked_by : String} {now : Int} {out : Except AuthError Unit}
    (h : revoke H broker env db grant_id revoked_by now = (db', out)) :
    AuditStep H broker db db' := by
  unfold revoke at h
  refine auditStep_transaction (fun hbody => ?_) h
  obtain ⟨id, -, hbody⟩ := bind_eq_ok.mp hbody
  split at hbody
  · cases hbody
  dsimp only at hbody
  split at hbody
  · cases hbody
  split at hbody
  · exact auditStep_audit rfl hbody
  split at hbody
  · cases hbody
  obtain ⟨reason, -, hbody⟩ := bind_eq_ok.mp hbody
  exact auditStep_audit (by rfl) hbody

/-- The broker that makes the call. -/
def AuthCall.caller : AuthCall → Broker
  | .issue broker .. => broker
  | .verify_and_consume broker .. => broker
  | .revoke broker .. => broker

theorem auditStep_run (H : Hashlib) (w : AuthWorld) (call : AuthCall) :
    AuditStep H call.caller w.store (call.run H w).store := by
  cases call with
  | issue broker env args =>
    cases h : AuthBroker.issue H broker env w.store args with
    | mk db' out =>
      simp only [AuthCall.run, AuthCall.caller, h]
      exact auditStep_issue h
  | verify_and_consume broker env token scope run_id now =>
    cases h : AuthBroker.verify_and_consume H broker env w.store token scope run_id now with
    | mk db' out =>
      simp only [AuthCall.run, AuthCall.caller, h]
      exact auditStep_consume h
  | revoke broker env grant_id revoked_by now =>
    cases h : AuthBroker.revoke H broker env w.store grant_id revoked_by now with
    | mk db' out =>
      simp only [AuthCall.run, AuthCall.caller, h]
      exact auditStep_revoke h

/-- The verifier resolves the key that the broker of the call signs with. -/
def AuthCall.ResolvedBy (v : Broker) (call : AuthCall) : Prop :=
  ∀ key, call.caller.secrets call.caller.key_id = some key →
    v.secrets call.caller.key_id = some key

/-- The verifier accepts the audit, and the stored hash of its last row links the next one. -/
structure Audited (H : Hashlib) (v : Broker) (db : AuthStore) : Prop where
  accepted : Accepted H v 1 genesis (db.audit.map AuditRow.stored)
  hashed : ∀ row ∈ db.audit, row.event_hash = H.sha256 (audit_body row)

theorem Audited.append (hascii : ∀ s, Ascii (H.sha256 s)) (h : Audited H v db) {row : AuditRow}
    (hrow : Appended H broker db row)
    (hkey : ∀ key, broker.secrets broker.key_id = some key → v.secrets broker.key_id = some key)
    (hdb : db'.audit = db.audit ++ [row]) : Audited H v db' where
  accepted := by
    rw [hdb, List.map_append, List.map_singleton]
    refine h.accepted.snoc ?_ ⟨_, row.stored_text, ?_⟩ ?_ ?_
    · rw [List.length_map]
      simp only [AuditRow.stored, hrow.seq]
      omega
    · rw [AuditRow.stored, compare_stored, hrow.event_hash]
      exact compare_digest_self (hascii _)
    · obtain ⟨key, hsecret, hid, hmac⟩ := hrow.event_mac
      refine ⟨_, key, row.stored_text, ?_, congrArg _ hmac⟩
      change secret v row.key_id = _
      rw [hid]
      exact secret_eq_ok.mpr (hkey key hsecret)
    · change Sum.inl (SqlValue.text row.prev_hash) = _
      rw [hrow.prev_hash, Linked.last, List.getLast?_map, List.getLast?_map]
      cases hlast : db.audit.getLast? with
      | none => rfl
      | some r =>
        have hr := h.hashed r (List.mem_of_getLast? hlast)
        simp [AuditBody.hash_of_text r.stored_text, hr]
  hashed r hr := by
    rw [hdb] at hr
    rcases List.mem_append.mp hr with hr | hr
    · exact h.hashed r hr
    · exact List.mem_singleton.mp hr ▸ hrow.event_hash

theorem audited (hascii : ∀ s, Ascii (H.sha256 s)) :
    (authStore H).InductiveIf (fun _ call => call.ResolvedBy v) fun w => Audited H v w.store where
  init := by
    rintro w rfl
    exact ⟨verify_rows_eq_ok.mp rfl, by simp [AuthStore.empty]⟩
  step := by
    rintro w call w' hI hkey hstep
    cases hstep
    rcases auditStep_run H w call with heq | ⟨row, hrow, heq⟩
    · exact ⟨heq ▸ hI.accepted, heq ▸ hI.hashed⟩
    · exact hI.append hascii hrow hkey heq

/-- Whatever brokers have called, a verifier that resolves their keys accepts the audit. -/
theorem audit_sound (hascii : ∀ s, Ascii (H.sha256 s)) {w : AuthWorld}
    (h : (authStore H).ReachableIf (fun _ call => call.ResolvedBy v) w) :
    verify_audit H v (w.store.audit.map AuditRow.stored) = .ok () := by
  have haccepted := ((audited hascii).reachable h).accepted
  rw [verify_audit, haccepted.by_seq]
  exact verify_rows_eq_ok.mpr haccepted

end Sound

namespace Sample

/-- The digests of the sample run, and the empty text for any other text. -/
def asciiHash : Hashlib where
  sha256 s := ((digests.find? fun d => d.1 == s).map Prod.snd).getD ""
  hmac := hash.hmac

theorem asciiHash_ascii (s : String) : Ascii (asciiHash.sha256 s) := by
  have htable : ∀ d ∈ digests, Ascii d.2 := by
    unfold Ascii
    decide +kernel
  unfold asciiHash
  dsimp only
  cases hfind : digests.find? fun d => d.1 == s with
  | none => rfl
  | some d => exact htable d (List.mem_of_find?_eq_some hfind)

/-- A grant is issued and consumed. -/
def auditedWorld : AuthWorld :=
  AuthCall.run asciiHash (AuthCall.run asciiHash ⟨AuthStore.empty, [], []⟩ (.issue broker issueEnv args))
    (.verify_and_consume broker consumeEnv (some "t") scope "run-1" 2)

end Sample

/-- The broker of the sample run accepts what it has audited. -/
theorem audit_sound_sample : verify_audit Sample.asciiHash Sample.broker
    (Sample.auditedWorld.store.audit.map AuditRow.stored) = .ok () := by
  refine audit_sound Sample.asciiHash_ascii ?_
  refine ⟨_, _, rfl, .cons ?_ rfl (.cons ?_ rfl (.refl _))⟩
  · exact fun key h => h
  · exact fun key h => h

/-! ## Tampering -/

/-- The last rows of the table are missing. -/
def Truncated (table edited : List StoredRow) : Prop :=
  ∃ row rows, by_seq table = by_seq edited ++ row :: rows

section Tampering

variable {H : Hashlib} {broker : Broker} {table edited : List StoredRow}

/-- A stored hash that passes the comparison is that text. -/
theorem compare_stored_true {a : String} {v : SqlValue} (h : compare_stored a v = .ok true) :
    v = .text a := by
  cases v with
  | text b => exact congrArg _ (compare_digest_true h).symm
  | _ => cases h

/-- No `HMAC` is what `bytes(n)` gives. -/
def NoZeroMac (H : Hashlib) : Prop := ∀ key s n, H.hmac key s ≠ List.replicate n 0

theorem bytes_mac (hzero : NoZeroMac H) {v : SqlValue} {key : Bytes} {t : String}
    (h : v.bytes = .ok (H.hmac key t)) : v = .blob (H.hmac key t) := by
  cases v with
  | blob b => exact congrArg _ (Except.ok.inj h)
  | integer n =>
    rw [SqlValue.bytes] at h
    split at h
    · exact absurd (Except.ok.inj h).symm (hzero key t _)
    · cases h
  | null | real | text => cases h

/-- The body of an accepted row tells its hash and its MAC. -/
theorem columns_of_body (hzero : NoZeroMac H) {a b : StoredRow} (ha : a.Hashed H)
    (ha' : a.Authentic H broker) (hb : b.Hashed H) (hb' : b.Authentic H broker)
    (hbody : a.body = b.body) : a.event_hash = b.event_hash ∧ a.event_mac = b.event_mac := by
  obtain ⟨t, ht, hhash⟩ := ha
  obtain ⟨t', key, ht', hkey, hmac⟩ := ha'
  obtain ⟨u, hu, hhash'⟩ := hb
  obtain ⟨u', key', hu', hkey', hmac'⟩ := hb'
  rw [hbody] at ht ht' hkey
  obtain rfl := Except.ok.inj (ht.symm.trans ht')
  obtain rfl := Except.ok.inj (ht.symm.trans hu)
  obtain rfl := Except.ok.inj (ht.symm.trans hu')
  obtain rfl := Except.ok.inj (hkey.symm.trans hkey')
  constructor
  · rw [compare_stored_true hhash, compare_stored_true hhash']
  · rw [bytes_mac hzero hmac, bytes_mac hzero hmac']

/-- Rows that are accepted from one place on are those of their bodies. -/
theorem Accepted.prefix_of_bodies (hzero : NoZeroMac H) {expected_seq : Nat} {p q : String}
    {rows rows' : List StoredRow} (h : Accepted H broker expected_seq p rows)
    (h' : Accepted H broker expected_seq q rows')
    (hbodies : rows'.map StoredRow.body <+: rows.map StoredRow.body) : rows' <+: rows := by
  induction rows' generalizing expected_seq p q rows with
  | nil => exact List.nil_prefix
  | cons row' rows' ih =>
    cases rows with
    | nil => simp at hbodies
    | cons row rows =>
      rw [List.map_cons, List.map_cons, List.cons_prefix_cons] at hbodies
      obtain ⟨hbody, hrest⟩ := hbodies
      have hcols := columns_of_body hzero (h'.hashed row' List.mem_cons_self)
        (h'.authentic row' List.mem_cons_self) (h.hashed row List.mem_cons_self)
        (h.authentic row List.mem_cons_self) hbody
      obtain ⟨hseq, -, -, t, -, -, htail⟩ := accepted_cons.mp h
      obtain ⟨hseq', -, -, t', -, -, htail'⟩ := accepted_cons.mp h'
      have hrow : row' = row := by
        cases row
        cases row'
        simp_all
      exact List.cons_prefix_cons.mpr ⟨hrow, ih htail htail' hrest⟩

/-- Edits without a new signed body are accepted exactly if they leave out last rows at most. -/
theorem accepted_iff_prefix (hsha : Function.Injective H.sha256)
    (hgenesis : ∀ s, H.sha256 s ≠ genesis) (hzero : NoZeroMac H)
    (htable : verify_audit H broker table = .ok ())
    (hforge : ∀ row ∈ edited, row.Authentic H broker → row.body ∈ table.map StoredRow.body) :
    verify_audit H broker edited = .ok () ↔ by_seq edited <+: by_seq table := by
  have hbase := verify_rows_eq_ok.mp htable
  constructor
  · intro h
    have hedit := verify_rows_eq_ok.mp h
    refine hbase.prefix_of_bodies hzero hedit ?_
    refine Linked.prefix_of_subset (AuditBody.hash_injective hsha) (AuditBody.hash_ne hgenesis)
      hbase.linked hedit.linked fun b hb => ?_
    obtain ⟨row, hrow, rfl⟩ := List.mem_map.mp hb
    have hbody := hforge row (List.mem_mergeSort.mp hrow) (hedit.authentic row hrow)
    obtain ⟨r, hr, heq⟩ := List.mem_map.mp hbody
    exact List.mem_map.mpr ⟨r, List.mem_mergeSort.mpr hr, heq⟩
  · rintro ⟨rest, hrest⟩
    refine verify_rows_eq_ok.mpr ?_
    rw [← hrest] at hbase
    exact hbase.of_append

/-- Tampering is seen exactly if it is not the removal of last rows. -/
theorem tampering_rejected_iff (hsha : Function.Injective H.sha256)
    (hgenesis : ∀ s, H.sha256 s ≠ genesis) (hzero : NoZeroMac H)
    (htable : verify_audit H broker table = .ok ())
    (hforge : ∀ row ∈ edited, row.Authentic H broker → row.body ∈ table.map StoredRow.body) :
    (by_seq edited ≠ by_seq table → verify_audit H broker edited ≠ .ok ()) ↔
      ¬ Truncated table edited := by
  rw [ne_eq (verify_audit H broker edited), accepted_iff_prefix hsha hgenesis hzero htable hforge]
  constructor
  · rintro h ⟨row, rows, heq⟩
    refine h (fun hsame => ?_) ⟨row :: rows, heq.symm⟩
    simp [hsame] at heq
  · rintro h hne ⟨rest, hrest⟩
    cases rest with
    | nil => exact hne (by simpa using hrest)
    | cons row rows => exact h ⟨row, rows, hrest.symm⟩

end Tampering

namespace Sample

def auditDigests : List (String × String) :=
  [(audit_body issuedRow, issuedRow.event_hash), (audit_body consumedRow, consumedRow.event_hash)]

/-- The bodies of the two rows have their digests and MACs. -/
def auditHash : Hashlib where
  sha256 := tableHash auditDigests
  hmac _ s :=
    if s = audit_body issuedRow then issuedRow.event_mac
    else if s = audit_body consumedRow then consumedRow.event_mac
    else [1]

theorem auditHash_injective : Function.Injective auditHash.sha256 := by
  have hhashes : auditDigests.map Prod.snd = [issuedRow.event_hash, consumedRow.event_hash] := rfl
  have hplain : ∀ t ∈ [issuedRow.event_hash, consumedRow.event_hash], t.toList.head? ≠ some '~' := by
    decide +kernel
  unfold auditHash
  dsimp only
  refine tableHash_injective ?_ fun d hd => hplain d.2 ?_
  · rw [hhashes]
    decide +kernel
  · rw [← hhashes]
    exact List.mem_map_of_mem hd

theorem auditHash_ne_genesis (s : String) : auditHash.sha256 s ≠ genesis := by
  have hne : issuedRow.event_hash ≠ genesis ∧ consumedRow.event_hash ≠ genesis ∧
      genesis.toList.head? ≠ some '~' := by decide +kernel
  unfold auditHash tableHash
  dsimp only
  cases hfind : auditDigests.find? fun d => d.1 == s with
  | none =>
    intro h
    exact hne.2.2 (by rw [← h]; simp)
  | some d =>
    have hd := List.mem_of_find?_eq_some hfind
    simp only [auditDigests, List.mem_cons, List.not_mem_nil, or_false] at hd
    rcases hd with rfl | rfl
    · exact hne.1
    · exact hne.2.1

theorem auditHash_nonzero : NoZeroMac auditHash := by
  intro key s n
  have hfirst : ∀ m : Bytes, m.head?.any (· ≠ 0) = true → m ≠ List.replicate n 0 := by
    rintro m hm rfl
    cases n <;> simp [List.replicate_succ] at hm
  unfold auditHash
  dsimp only
  split
  · exact hfirst _ rfl
  split
  · exact hfirst _ rfl
  · exact hfirst _ rfl

theorem bodies_ne : audit_body issuedRow ≠ audit_body consumedRow := by
  intro h
  exact absurd (event_id_of_audit_body h) (by decide)

theorem auditHash_issued : auditHash.sha256 (audit_body issuedRow) = issuedRow.event_hash := by
  unfold auditHash auditDigests
  dsimp only
  exact tableHash_head ..

theorem auditHash_consumed : auditHash.sha256 (audit_body consumedRow) = consumedRow.event_hash := by
  unfold auditHash auditDigests
  simp [tableHash, bodies_ne]

/-- The consumption of the grant is audited after its issue. -/
def auditTable : List StoredRow := [issuedRow.stored, consumedRow.stored]

theorem stored_hashed {row : AuditRow} (h : auditHash.sha256 (audit_body row) = row.event_hash)
    (hascii : Ascii row.event_hash) : row.stored.Hashed auditHash := by
  refine ⟨_, row.stored_text, ?_⟩
  rw [h]
  exact compare_digest_self hascii

theorem stored_authentic {row : AuditRow} (hid : row.key_id = "k1")
    (h : ∀ key, auditHash.hmac key (audit_body row) = row.event_mac) :
    row.stored.Authentic auditHash broker := by
  refine ⟨_, List.replicate 32 107, row.stored_text, ?_, congrArg _ (h _).symm⟩
  change secret broker row.key_id = _
  rw [hid]
  rfl

theorem accepted_issued : Accepted auditHash broker 1 genesis [issuedRow.stored] := by
  have hempty : Accepted auditHash broker 1 genesis [] := verify_rows_eq_ok.mp rfl
  refine hempty.snoc rfl (stored_hashed auditHash_issued ?_) (stored_authentic rfl ?_) rfl
  · unfold Ascii
    decide +kernel
  · intro key
    unfold auditHash
    dsimp only
    rw [if_pos rfl]

theorem accepted_table : Accepted auditHash broker 1 genesis auditTable := by
  refine Accepted.snoc accepted_issued rfl (stored_hashed auditHash_consumed ?_)
    (stored_authentic rfl ?_) ?_
  · unfold Ascii
    decide +kernel
  · intro key
    unfold auditHash
    dsimp only
    rw [if_neg bodies_ne.symm, if_pos rfl]
  · rw [List.map_singleton, Linked.last, List.getLast?_singleton, Option.map_some, Option.getD_some,
      AuditBody.hash_of_text issuedRow.stored_text, auditHash_issued]
    rfl

end Sample

/-- The row of the consumption is removed, and the check passes. -/
theorem truncation_accepted : ∃ (H : Hashlib) (broker : Broker) (table edited : List StoredRow),
    Function.Injective H.sha256 ∧ (∀ s, H.sha256 s ≠ genesis) ∧ NoZeroMac H ∧
      verify_audit H broker table = .ok () ∧ edited ⊆ table ∧ by_seq edited ≠ by_seq table ∧
      verify_audit H broker edited = .ok () := by
  refine ⟨Sample.auditHash, Sample.broker, Sample.auditTable, [Sample.issuedRow.stored],
    Sample.auditHash_injective, Sample.auditHash_ne_genesis, Sample.auditHash_nonzero, ?_, ?_, ?_, ?_⟩
  · rw [verify_audit, Accepted.by_seq Sample.accepted_table]
    exact verify_rows_eq_ok.mpr Sample.accepted_table
  · simp [Sample.auditTable]
  · rw [Accepted.by_seq Sample.accepted_table, Accepted.by_seq Sample.accepted_issued]
    simp [Sample.auditTable]
  · rw [verify_audit, Accepted.by_seq Sample.accepted_issued]
    exact verify_rows_eq_ok.mpr Sample.accepted_issued

/-- The row of the issue is removed, and the check fails. -/
theorem deletion_rejected :
    verify_audit Sample.auditHash Sample.broker [Sample.consumedRow.stored] ≠ .ok () := by
  have htable := Accepted.by_seq Sample.accepted_table
  have hone : by_seq [Sample.consumedRow.stored] = [Sample.consumedRow.stored] :=
    List.mergeSort_singleton _
  have haccepted : verify_audit Sample.auditHash Sample.broker Sample.auditTable = .ok () := by
    rw [verify_audit, htable]
    exact verify_rows_eq_ok.mpr Sample.accepted_table
  refine (tampering_rejected_iff Sample.auditHash_injective Sample.auditHash_ne_genesis
    Sample.auditHash_nonzero haccepted ?_).mpr ?_ ?_
  · simp [Sample.auditTable]
  · rintro ⟨row, rows, heq⟩
    rw [htable, hone] at heq
    have hseq := congrArg (fun l => l.head?.map StoredRow.seq) heq
    simp [Sample.auditTable, AuditRow.stored, Sample.issuedRow, Sample.consumedRow] at hseq
  · rw [htable, hone]
    simp [Sample.auditTable]

end AuthBroker

end Plachem
