import PlachemMonitor.Auth.Digest

/-!
# The grant broker

`SQLiteAuthBroker.issue`, `verify_and_consume` and `revoke` on the two tables of the store. Each
is one immediate transaction: `transaction` commits what its body returns, and rolls back when the
body raises. Generated tokens and ids and the clock readings are arguments.

The constraints of `auth_grants` are fields of `Grant` and `AuthStore`: a row that breaks a
`CHECK`, or a table that breaks a `UNIQUE`, cannot be built.
-/

namespace Plachem

namespace AuthBroker

/-! ## The tables -/

/-- A row of `auth_grants`. -/
structure Grant where
  grant_id : String
  token_id : String
  token_mac : Bytes
  key_id : String
  task_digest : String
  agent_id : String
  action : String
  workspace_id : String
  project_id : String
  issued_at_ms : Int
  expires_at_ms : Int
  revoked_at_ms : Option Int
  consumed_at_ms : Option Int
  consumed_run_id : Option String
  created_by : String
  /-- `CHECK(expires_at_ms > issued_at_ms)` -/
  expires_after : issued_at_ms < expires_at_ms
  /-- `CHECK((consumed_at_ms IS NULL) = (consumed_run_id IS NULL))` -/
  consumed_both : consumed_at_ms.isNone = consumed_run_id.isNone
  deriving DecidableEq

/-- A row of `auth_audit`. -/
structure AuditRow where
  seq : Nat
  event_id : String
  grant_id : Option String
  event_type : String
  outcome : String
  error_code : Option String
  run_id : Option String
  agent_id : String
  action : String
  workspace_id : String
  project_id : String
  task_digest : String
  occurred_at_ms : Int
  prev_hash : String
  event_hash : String
  key_id : String
  event_mac : Bytes
  details_json : String
  deriving DecidableEq

/-- The store, with the unique columns of `auth_grants`. -/
structure AuthStore where
  grants : List Grant
  audit : List AuditRow
  unique_grant_id : (grants.map Grant.grant_id).Nodup
  unique_token_id : (grants.map Grant.token_id).Nodup
  unique_token_mac : (grants.map Grant.token_mac).Nodup

/-- The store that `_initialize` creates. -/
def AuthStore.empty : AuthStore := ⟨[], [], .nil, .nil, .nil⟩

namespace AuthStore

/-- `INSERT INTO auth_grants`; `none` is an `IntegrityError`. -/
def insert (db : AuthStore) (g : Grant) : Option AuthStore :=
  if h : g.grant_id ∉ db.grants.map Grant.grant_id ∧ g.token_id ∉ db.grants.map Grant.token_id ∧
      g.token_mac ∉ db.grants.map Grant.token_mac then
    some
      { db with
        grants := db.grants ++ [g]
        unique_grant_id := by
          rw [List.map_append, List.nodup_append_comm]
          exact List.nodup_cons.mpr ⟨h.1, db.unique_grant_id⟩
        unique_token_id := by
          rw [List.map_append, List.nodup_append_comm]
          exact List.nodup_cons.mpr ⟨h.2.1, db.unique_token_id⟩
        unique_token_mac := by
          rw [List.map_append, List.nodup_append_comm]
          exact List.nodup_cons.mpr ⟨h.2.2, db.unique_token_mac⟩ }
  else none

/-- `UPDATE auth_grants SET .. WHERE ..` of columns that are not unique. -/
def update (db : AuthStore) (cond : Grant → Bool) (f : Grant → Grant)
    (hid : ∀ g, (f g).grant_id = g.grant_id) (htoken : ∀ g, (f g).token_id = g.token_id)
    (hmac : ∀ g, (f g).token_mac = g.token_mac) : AuthStore :=
  have same : ∀ {α : Type} (col : Grant → α), (∀ g, col (f g) = col g) →
      (db.grants.map fun g => if cond g then f g else g).map col = db.grants.map col := by
    intro α col hcol
    rw [List.map_map]
    refine List.map_congr_left fun g _ => ?_
    simp only [Function.comp_apply]
    split
    · exact hcol g
    · rfl
  { db with
    grants := db.grants.map fun g => if cond g then f g else g
    unique_grant_id := by
      rw [same Grant.grant_id hid]
      exact db.unique_grant_id
    unique_token_id := by
      rw [same Grant.token_id htoken]
      exact db.unique_token_id
    unique_token_mac := by
      rw [same Grant.token_mac hmac]
      exact db.unique_token_mac }

end AuthStore

/-- `rowcount` of an `UPDATE` with this condition. -/
def rowcount (db : AuthStore) (cond : Grant → Bool) : Nat := db.grants.countP cond

/-! ## Transactions -/

/-- A broker: its key and what its secret reference knows. -/
structure Broker where
  key_id : String
  secrets : String → Option Bytes

/-- What the outside adds to a transaction: the id and the time of its audit row, and whether the
store stays locked through all retries. -/
structure TxEnv where
  event_id : String
  occurred_at_ms : Int
  busy : Bool

structure IssuedGrant where
  grant_id : String
  token : String
  token_id : String
  task_digest : String
  expires_at_ms : Int
  deriving DecidableEq

structure ConsumedGrant where
  grant_id : String
  run_id : String
  agent_id : String
  action : String
  workspace_id : String
  project_id : String
  task_digest : String
  deriving DecidableEq

/-- `with self._transaction() as db`: the body raises and is rolled back, or it returns, is
committed, and leaves what the method then returns or raises. -/
def transaction {α : Type} (env : TxEnv) (db : AuthStore)
    (body : AuthStore → Except AuthError (AuthStore × Except AuthError α)) :
    AuthStore × Except AuthError α :=
  if env.busy then (db, .error (error "STORE_BUSY"))
  else
    match body db with
    | .error e => (db, .error e)
    | .ok committed => committed

/-- `self.secrets.get(key_id)` -/
def secret (broker : Broker) (key_id : String) : Except AuthError Bytes :=
  match broker.secrets key_id with
  | none => .error (error "AUTH_REQUIRED")
  | some key => .ok key

/-- `hmac.compare_digest` on texts. -/
def compare_digest (a b : String) : Except AuthError Bool :=
  if a.toList.all (fun c => c.toNat < 128) ∧ b.toList.all (fun c => c.toNat < 128) then
    .ok (decide (a = b))
  else .error .type

/-- `_IDENTITY` -/
def isIdentity (value : String) : Bool :=
  match value.toList with
  | [] => false
  | c :: cs => c.isAlphanum && decide (cs.length ≤ 127) &&
      cs.all fun c => c.isAlphanum || c ∈ ['_', '.', ':', '@', '/', '-']

variable (H : Hashlib)

/-- `_identity_digest` -/
def identity_digest (value : String) : Except AuthError String :=
  if isIdentity value then .ok ("id-v1:" ++ H.sha256 value) else .error (.value "INVALID_IDENTITY")

/-- `_token_mac` -/
def token_mac (broker : Broker) (token key_id : String) : Except AuthError Bytes := do
  let key ← secret broker key_id
  pure (H.hmac key token)

/-- `"0" * 64` -/
def genesis : String := String.ofList (List.replicate 64 '0')

/-- The text of an audit row that is hashed and signed. -/
def audit_body (row : AuditRow) : String :=
  String.ofList ((Dict.ofList [("event_id", .str row.event_id),
    ("grant_id", .ofOption .str row.grant_id), ("event_type", .str row.event_type),
    ("outcome", .str row.outcome), ("error_code", .ofOption .str row.error_code),
    ("run_id", .ofOption .str row.run_id), ("agent_id", .str row.agent_id),
    ("action", .str row.action), ("workspace_id", .str row.workspace_id),
    ("project_id", .str row.project_id), ("task_digest", .str row.task_digest),
    ("occurred_at_ms", .int row.occurred_at_ms), ("prev_hash", .str row.prev_hash),
    ("key_id", .str row.key_id), ("details_json", .str row.details_json)] (by simp)).dumps true)

/-- What a method tells `_audit`. -/
structure AuditEvent where
  grant_id : Option String
  event_type : String
  outcome : String
  error : Option String
  run_id : Option String
  scope : AuthScope
  digest : String
  details : List (String × String)

/-- `_audit` -/
def audit (broker : Broker) (env : TxEnv) (db : AuthStore) (event : AuditEvent) :
    Except AuthError AuthStore := do
  if ∃ d ∈ event.details, d.1 ∉ ["reason", "key_id", "schema_version"] then
    throw (.value "UNSAFE_AUDIT_DETAILS")
  -- `FOREIGN KEY(grant_id) REFERENCES auth_grants(grant_id)`
  if ∃ id ∈ event.grant_id, id ∉ db.grants.map Grant.grant_id then throw .integrity
  let unsigned : AuditRow :=
    { seq := db.audit.length + 1
      event_id := env.event_id
      grant_id := event.grant_id
      event_type := event.event_type
      outcome := event.outcome
      error_code := event.error
      run_id := event.run_id
      agent_id := event.scope.agent_id
      action := event.scope.action
      workspace_id := event.scope.workspace_id
      project_id := event.scope.project_id
      task_digest := event.digest
      occurred_at_ms := env.occurred_at_ms
      prev_hash := (db.audit.getLast?.map AuditRow.event_hash).getD genesis
      event_hash := ""
      key_id := broker.key_id
      event_mac := []
      details_json :=
        String.ofList ((Json.obj (event.details.map fun d => (d.1, .str d.2))).dumps true) }
  let body := audit_body unsigned
  let key ← secret broker broker.key_id
  let row := { unsigned with event_hash := H.sha256 body, event_mac := H.hmac key body }
  if row.event_id ∈ db.audit.map AuditRow.event_id ∨
      row.event_hash ∈ db.audit.map AuditRow.event_hash then
    throw .integrity
  pure { db with audit := db.audit ++ [row] }

/-! ## The methods -/

/-- The arguments of `issue`, with the generated token and grant id. `ttl_ms` is
`int(ttl_seconds * 1000)`: floats are not computed here. -/
structure IssueArgs where
  scope : AuthScope
  ttl_positive : Bool
  ttl_ms : Int
  created_by : String
  now : Int
  token : String
  grant_id : String

/-- `SQLiteAuthBroker.issue` -/
def issue (broker : Broker) (env : TxEnv) (db : AuthStore) (args : IssueArgs) :
    AuthStore × Except AuthError IssuedGrant :=
  if args.ttl_positive = false then (db, .error (.value "INVALID_TTL"))
  else
    let token_id := H.sha256 args.token
    match token_mac H broker args.token broker.key_id with
    | .error e => (db, .error e)
    | .ok mac =>
      match canonical_task_digest H args.scope with
      | .error e => (db, .error e)
      | .ok digest =>
        let expires := args.now + args.ttl_ms
        transaction env db fun db => do
          let agent_id ← bound args.scope.agent_id
          let action ← bound args.scope.action
          let workspace_id ← bound args.scope.workspace_id
          let project_id ← bound args.scope.project_id
          let created_by ← identity_digest H args.created_by
          let row : Option Grant :=
            if h : args.now < expires then
              some
                { grant_id := args.grant_id, token_id := token_id, token_mac := mac,
                  key_id := broker.key_id, task_digest := digest, agent_id := agent_id,
                  action := action, workspace_id := workspace_id, project_id := project_id,
                  issued_at_ms := args.now, expires_at_ms := expires, revoked_at_ms := none,
                  consumed_at_ms := none, consumed_run_id := none, created_by := created_by,
                  expires_after := h, consumed_both := rfl }
            else none
          match row.bind db.insert with
          | none => throw (error "CONFLICT")
          | some db =>
            let db ← audit H broker env db
              ⟨some args.grant_id, "ISSUED", "ALLOW", none, none, args.scope, digest,
                [("key_id", broker.key_id)]⟩
            pure (db, .ok ⟨args.grant_id, args.token, token_id, digest, expires⟩)

/-- `_deny_reason` -/
def deny_reason (row : Grant) (scope : AuthScope) (digest : String) (now : Int) :
    Except AuthError (Option String) := do
  if row.revoked_at_ms.isSome then pure (some "REVOKED")
  else if row.consumed_at_ms.isSome then pure (some "ALREADY_CONSUMED")
  else if row.expires_at_ms ≤ now then pure (some "EXPIRED")
  else
    -- `any` stops at the first binding that differs
    if !(← compare_digest row.agent_id scope.agent_id) then pure (some "BINDING_MISMATCH")
    else if !(← compare_digest row.action scope.action) then pure (some "BINDING_MISMATCH")
    else if !(← compare_digest row.workspace_id scope.workspace_id) then
      pure (some "BINDING_MISMATCH")
    else if !(← compare_digest row.project_id scope.project_id) then
      pure (some "BINDING_MISMATCH")
    else if !(← compare_digest row.task_digest digest) then pure (some "TASK_DIGEST_MISMATCH")
    else pure none

/-- The same-run exception of `verify_and_consume` to what `_deny_reason` says. -/
def replay_code (row : Grant) (code : Option String) (digest run_id : String) :
    Except AuthError (Option String) := do
  if code = some "ALREADY_CONSUMED" then
    let run ← bound run_id
    if row.consumed_run_id = some run then
      if !(← compare_digest row.task_digest digest) then pure (some "TASK_MISMATCH")
      else pure none
    else pure code
  else pure code

/-- The row may be consumed now: the `WHERE` of the conditional `UPDATE`. -/
def consumable (grant_id : String) (now : Int) (g : Grant) : Bool :=
  g.grant_id == grant_id && g.consumed_at_ms.isNone && g.revoked_at_ms.isNone &&
    decide (now < g.expires_at_ms)

def Grant.consume (now : Int) (run : String) (g : Grant) : Grant :=
  { g with consumed_at_ms := some now, consumed_run_id := some run, consumed_both := rfl }

/-- The transaction of `verify_and_consume` for a token that is not empty. -/
def consume_body (broker : Broker) (env : TxEnv) (token : String) (scope : AuthScope)
    (expected_digest run_id : String) (now : Int) (db : AuthStore) :
    Except AuthError (AuthStore × Except AuthError ConsumedGrant) := do
  let deny (grant_id : Option String) (code : String) :
      Except AuthError (AuthStore × Except AuthError ConsumedGrant) := do
    let db ← audit H broker env db
      ⟨grant_id, "CONSUME", "DENY", some code, some run_id, scope, expected_digest,
        [("reason", code)]⟩
    pure (db, .error (error code))
  match db.grants.find? fun g => g.token_id == H.sha256 token with
  | none => deny none "INVALID_TOKEN"
  | some row =>
    let mac ← token_mac H broker token row.key_id
    if row.token_mac ≠ mac then deny (some row.grant_id) "INVALID_TOKEN"
    else
      let code ← deny_reason row scope expected_digest now
      let code ← replay_code row code expected_digest run_id
      match code with
      | some code => deny (some row.grant_id) code
      | none =>
        let run ← bound run_id
        if rowcount db (consumable row.grant_id now) ≠ 1 then throw (error "CONFLICT")
        else
          let db := db.update (consumable row.grant_id now) (Grant.consume now run)
            (fun _ => rfl) (fun _ => rfl) (fun _ => rfl)
          let db ← audit H broker env db
            ⟨some row.grant_id, "CONSUME", "ALLOW", none, some run_id, scope, expected_digest, []⟩
          pure (db, .ok ⟨row.grant_id, run_id, scope.agent_id, scope.action, scope.workspace_id,
            scope.project_id, expected_digest⟩)

/-- `SQLiteAuthBroker.verify_and_consume` -/
def verify_and_consume (broker : Broker) (env : TxEnv) (db : AuthStore) (token : Option String)
    (scope : AuthScope) (run_id : String) (now : Int) :
    AuthStore × Except AuthError ConsumedGrant :=
  match canonical_task_digest H scope with
  | .error e => (db, .error e)
  | .ok expected_digest =>
    -- `if not token`
    match token.filter (· ≠ "") with
    | none =>
      transaction env db fun db => do
        let db ← audit H broker env db
          ⟨none, "CONSUME", "DENY", some "AUTH_REQUIRED", some run_id, scope, expected_digest,
            [("reason", "AUTH_REQUIRED")]⟩
        pure (db, .error (error "AUTH_REQUIRED"))
    | some token =>
      transaction env db (consume_body H broker env token scope expected_digest run_id now)

/-- The row may be revoked: the `WHERE` of the conditional `UPDATE`. -/
def revocable (grant_id : String) (g : Grant) : Bool :=
  g.grant_id == grant_id && g.revoked_at_ms.isNone && g.consumed_at_ms.isNone

def Grant.revoke (now : Int) (g : Grant) : Grant := { g with revoked_at_ms := some now }

/-- `SQLiteAuthBroker.revoke` -/
def revoke (broker : Broker) (env : TxEnv) (db : AuthStore) (grant_id revoked_by : String)
    (now : Int) : AuthStore × Except AuthError Unit :=
  transaction env db fun db => do
    let id ← bound grant_id
    match db.grants.find? fun g => g.grant_id == id with
    | none => throw (error "NOT_FOUND")
    | some row =>
      let scope : AuthScope :=
        ⟨row.agent_id, row.action, row.workspace_id, row.project_id, Dict.empty⟩
      if row.revoked_at_ms.isSome then throw (error "REVOKED")
      else if row.consumed_at_ms.isSome then
        let db ← audit H broker env db
          ⟨some grant_id, "REVOKE", "DENY", some "ALREADY_CONSUMED", none, scope,
            row.task_digest, [("reason", "ALREADY_CONSUMED")]⟩
        pure (db, .error (error "ALREADY_CONSUMED"))
      -- the `UPDATE` takes the id as it was given
      else if rowcount db (revocable grant_id) ≠ 1 then throw (error "CONFLICT")
      else
        let db := db.update (revocable grant_id) (Grant.revoke now)
          (fun _ => rfl) (fun _ => rfl) (fun _ => rfl)
        let reason ← identity_digest H revoked_by
        let db ← audit H broker env db
          ⟨some grant_id, "REVOKED", "ALLOW", none, none, scope, row.task_digest,
            [("reason", reason)]⟩
        pure (db, .ok ())

end AuthBroker

end Plachem
