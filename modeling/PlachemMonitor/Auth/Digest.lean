import PlachemMonitor.Json.Scan
import PlachemMonitor.Spec.Result
import PlachemMonitor.Text.Lines

/-!
# Task digests

`canonical_task_digest`: the digest that ties a grant to one agent, action, workspace, project and
task contract. The hash functions of the standard library are a parameter (`Hashlib`).

`digest_inj`: if SHA-256 has no collision, scopes with one digest have the same bindings up to
surrounding whitespace, and equal task contracts.
-/

namespace Plachem

abbrev Bytes := List UInt8

/-- The hash functions, on texts in UTF-8. -/
structure Hashlib where
  /-- `hashlib.sha256(text.encode()).hexdigest()` -/
  sha256 : String → String
  /-- `hmac.new(key, text.encode(), hashlib.sha256).digest()` -/
  hmac : Bytes → String → Bytes

/-- What the methods of the broker raise. -/
inductive AuthError where
  /-- `AuthBrokerError` with its code. -/
  | broker (code : String)
  | value (message : String)
  /-- The `TypeError` of `hmac.compare_digest` on a text that is not ASCII. -/
  | type
  /-- `sqlite3.IntegrityError` -/
  | integrity
  deriving DecidableEq

namespace AuthBroker

def ERROR_CODES : List String :=
  ["AUTH_REQUIRED", "INVALID_TOKEN", "NOT_FOUND", "EXPIRED", "REVOKED", "ALREADY_CONSUMED",
    "BINDING_MISMATCH", "TASK_DIGEST_MISMATCH", "CONFLICT", "STORE_BUSY", "STORE_CORRUPT",
    "AUDIT_INTEGRITY_FAILED", "SCHEMA_UNSUPPORTED", "FORBIDDEN_FIELD"]

/-- `AuthBrokerError(code)`: the constructor refuses a code that is not listed. -/
def error (code : String) : AuthError :=
  if code ∈ ERROR_CODES then .broker code else .value "UNKNOWN_AUTH_ERROR"

def SENSITIVE : List String :=
  ["model", "provider", "endpoint", "token", "credential", "credentials", "secret", "password",
    "api_key", "apikey", "message", "task"]

structure AuthScope where
  agent_id : String
  action : String
  workspace_id : String
  project_id : String
  task_contract : Dict
  deriving DecidableEq

/-- `_bound` -/
def bound (value : String) : Except AuthError String :=
  if Text.strip value = "" ∨ 256 < value.toList.length then .error (.value "INVALID_BINDING")
  else .ok (Text.strip value)

/-- A character of `key.lower().replace("-", "_")`, as far as a comparison with ASCII words can
tell: besides `A` to `Z`, only U+212A KELVIN SIGN has an ASCII lower case. -/
def normalizeChar (c : Char) : Char :=
  if c = '-' then '_' else if c = '\u212a' then 'k' else c.toLower

def sensitive (key : String) : Bool :=
  decide (String.ofList (key.toList.map normalizeChar) ∈ SENSITIVE)

mutual

/-- `_canonical_value` -/
def canonical_value : Json → Except AuthError Json
  | .obj ms =>
    match canonical_members ms with
    | .error e => .error e
    | .ok ms => .ok (.obj ms)
  | .arr xs =>
    match canonical_elems xs with
    | .error e => .error e
    | .ok xs => .ok (.arr xs)
  | .null => .ok .null
  | .bool b => .ok (.bool b)
  | .int n => .ok (.int n)
  | .float t => .ok (.float t)
  | .str s => .ok (.str s)
  termination_by structural v => v

def canonical_elems : List Json → Except AuthError (List Json)
  | [] => .ok []
  | x :: xs =>
    match canonical_value x with
    | .error e => .error e
    | .ok x =>
      match canonical_elems xs with
      | .error e => .error e
      | .ok xs => .ok (x :: xs)
  termination_by structural xs => xs

def canonical_members : List (String × Json) → Except AuthError (List (String × Json))
  | [] => .ok []
  | (key, item) :: ms =>
    if sensitive key then .error (error "FORBIDDEN_FIELD")
    else
      match canonical_value item with
      | .error e => .error e
      | .ok item =>
        match canonical_members ms with
        | .error e => .error e
        | .ok ms => .ok ((key, item) :: ms)
  termination_by structural ms => ms

end

/-- The envelope that is hashed, from bound bindings and a canonical contract. -/
def envelope (agent_id action workspace_id project_id : String) (contract : Json) : Json :=
  .obj [("version", .int 1), ("agent_id", .str agent_id), ("action", .str action),
    ("workspace_id", .str workspace_id), ("project_id", .str project_id),
    ("task_goal_contract", contract)]

variable (H : Hashlib)

/-- `canonical_task_digest` -/
def canonical_task_digest (scope : AuthScope) : Except AuthError String := do
  let agent_id ← bound scope.agent_id
  let action ← bound scope.action
  let workspace_id ← bound scope.workspace_id
  let project_id ← bound scope.project_id
  let contract ← canonical_value scope.task_contract.json
  let raw := (envelope agent_id action workspace_id project_id contract).dumps true
  pure ("v1:" ++ H.sha256 (String.ofList raw))

/-- `execution_auth_scope` -/
def execution_auth_scope (agent_id message core_run_id idempotency_key : String)
    (goal_contract : Dict) (action workspace_id project_id : String) : AuthScope where
  agent_id := agent_id
  action := action
  workspace_id := workspace_id
  project_id := project_id
  task_contract :=
    Dict.ofList [("authorization_version", .int 2), ("goal_contract", .ofDict goal_contract),
      ("instruction_sha256", .str (H.sha256 message)), ("core_run_id", .str core_run_id),
      ("idempotency_key", .str idempotency_key)] (by simp)

/-! ## What a digest says -/

mutual

/-- A canonical value is the value itself. -/
theorem canonical_value_ok : ∀ {v w : Json}, canonical_value v = .ok w → w = v
  | .obj ms, w, h => by
    simp only [canonical_value] at h
    split at h
    · cases h
    · rename_i hms
      cases h
      rw [canonical_members_ok hms]
  | .arr xs, w, h => by
    simp only [canonical_value] at h
    split at h
    · cases h
    · rename_i hxs
      cases h
      rw [canonical_elems_ok hxs]
  | .null, _, h | .bool _, _, h | .int _, _, h | .float _, _, h | .str _, _, h => by
    cases h
    rfl
  termination_by structural v => v

theorem canonical_elems_ok : ∀ {xs ys : List Json}, canonical_elems xs = .ok ys → ys = xs
  | [], _, h => by
    cases h
    rfl
  | x :: xs, _, h => by
    simp only [canonical_elems] at h
    split at h
    · cases h
    rename_i hx
    split at h
    · cases h
    rename_i hxs
    cases h
    rw [canonical_value_ok hx, canonical_elems_ok hxs]
  termination_by structural xs => xs

theorem canonical_members_ok : ∀ {ms ns : List (String × Json)},
    canonical_members ms = .ok ns → ns = ms
  | [], _, h => by
    cases h
    rfl
  | (key, item) :: ms, _, h => by
    simp only [canonical_members] at h
    split at h
    · cases h
    split at h
    · cases h
    rename_i hitem
    split at h
    · cases h
    rename_i hms
    cases h
    rw [canonical_value_ok hitem, canonical_members_ok hms]
  termination_by structural ms => ms

end

variable {H}

/-- A digest is the hash of the envelope of the bound bindings. -/
theorem digest_ok {scope : AuthScope} {d : String} (h : canonical_task_digest H scope = .ok d) :
    ∃ agent_id action workspace_id project_id, bound scope.agent_id = .ok agent_id ∧
      bound scope.action = .ok action ∧ bound scope.workspace_id = .ok workspace_id ∧
      bound scope.project_id = .ok project_id ∧
      d = "v1:" ++ H.sha256 (String.ofList ((envelope agent_id action workspace_id project_id
        scope.task_contract.json).dumps true)) := by
  obtain ⟨agent_id, hagent, h⟩ := bind_eq_ok.mp h
  obtain ⟨action, haction, h⟩ := bind_eq_ok.mp h
  obtain ⟨workspace_id, hworkspace, h⟩ := bind_eq_ok.mp h
  obtain ⟨project_id, hproject, h⟩ := bind_eq_ok.mp h
  obtain ⟨contract, hcontract, h⟩ := bind_eq_ok.mp h
  obtain rfl := canonical_value_ok hcontract
  exact ⟨agent_id, action, workspace_id, project_id, hagent, haction, hworkspace, hproject,
    (pure_eq_ok.mp h).symm⟩

theorem digest_of_bound {scope : AuthScope} {agent_id action workspace_id project_id : String}
    {contract : Json} (ha : bound scope.agent_id = .ok agent_id)
    (hb : bound scope.action = .ok action) (hc : bound scope.workspace_id = .ok workspace_id)
    (hd : bound scope.project_id = .ok project_id)
    (hcontract : canonical_value scope.task_contract.json = .ok contract) :
    canonical_task_digest H scope = .ok ("v1:" ++ H.sha256 (String.ofList
      ((envelope agent_id action workspace_id project_id contract).dumps true))) := by
  rw [canonical_task_digest, bind_of_ok ha, bind_of_ok hb, bind_of_ok hc, bind_of_ok hd,
    bind_of_ok hcontract]
  rfl

theorem canonical_empty : canonical_value Dict.empty.json = .ok (.obj []) := rfl

theorem wf_envelope (a b c d : String) (contract : Dict) :
    (envelope a b c d contract.json).wf = true := by
  have h : contract.json.wf = true := contract.wf
  simp [envelope, Json.wf, Json.wfMembers, h]

/-- Equal envelopes have equal parts. -/
theorem eqv_envelope {a b c d a' b' c' d' : String} {v v' : Dict}
    (h : Json.Eqv (envelope a b c d v.json) (envelope a' b' c' d' v'.json)) :
    a = a' ∧ b = b' ∧ c = c' ∧ d = d' ∧ Dict.Eqv v v' := by
  have part : ∀ k, (Json.getMember _ k).map Json.sortKeys = (Json.getMember _ k).map Json.sortKeys :=
    fun k => Json.getMember_of_eqv (wf_envelope a b c d v) (wf_envelope a' b' c' d' v') h k
  have hagent := part "agent_id"
  have haction := part "action"
  have hworkspace := part "workspace_id"
  have hproject := part "project_id"
  have hcontract := part "task_goal_contract"
  simp [Json.getMember, Json.sortKeys] at hagent haction hworkspace hproject hcontract
  exact ⟨hagent, haction, hworkspace, hproject, hcontract⟩

/-- Scopes with one digest have the same bindings and equal task contracts. -/
theorem digest_inj (hsha : Function.Injective H.sha256) {s s' : AuthScope} {d : String}
    (h : canonical_task_digest H s = .ok d) (h' : canonical_task_digest H s' = .ok d) :
    bound s.agent_id = bound s'.agent_id ∧ bound s.action = bound s'.action ∧
      bound s.workspace_id = bound s'.workspace_id ∧ bound s.project_id = bound s'.project_id ∧
      Dict.Eqv s.task_contract s'.task_contract := by
  obtain ⟨a, b, c, e, ha, hb, hc, he, rfl⟩ := digest_ok h
  obtain ⟨a', b', c', e', ha', hb', hc', he', heq⟩ := digest_ok h'
  have hhash := hsha ((String.append_right_inj _).mp heq)
  have hraw := String.ofList_injective hhash
  obtain ⟨rfl, rfl, rfl, rfl, hcontract⟩ :=
    eqv_envelope (Json.dumps_inj (wf_envelope ..) (wf_envelope ..) hraw)
  exact ⟨by rw [ha, ha'], by rw [hb, hb'], by rw [hc, hc'], by rw [he, he'], hcontract⟩

end AuthBroker

end Plachem
