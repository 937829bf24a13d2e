import PlachemMonitor.OpenClaw.Watermark
import PlachemMonitor.Spec.Machine

/-!
# Submitting a run

`OpenClawAdapter.submit`, in the steps between which the process may die and other calls may run: each
step takes an answer of the Gateway and makes at most one write or one RPC. `sent` is the history of
the `agent` RPCs.

* `validate_submit`: the checks of the payload.
* `SubmitCall.step`: one step of a call.
* `submits`: the machine of all calls, in processes that may crash.
-/

namespace Plachem

namespace OpenClawAdapter

/-! ## The payload -/

def ALLOWED_SUBMIT_FIELDS : List String :=
  ["message", "agentId", "idempotencyKey", "timeout", "sessionKey", "_trustedValidationContext"]

def FORBIDDEN_SUBMIT_FIELDS : List String :=
  ["model", "provider", "endpoint", "base_url", "baseUrl", "credential", "credentials", "token",
    "api_key", "apiKey", "workspace", "workspace_id", "workspaceId", "cwd", "sessionId", "delivery",
    "channel", "accountId"]

/-- `sorted(fields)[0]`, if there are any. -/
def least (fields : List String) : Option String := (fields.mergeSort (· ≤ ·)).head?

/-- `_validate_agent_id`: `^[a-z0-9][a-z0-9_-]{0,127}$` -/
def validate_agent_id (agent_id : Option Json) : Except AdapterError String :=
  let lower (c : Char) := 'a' ≤ c && c ≤ 'z' || '0' ≤ c && c ≤ '9'
  match agent_id with
  | some (.str id) =>
    if id.toList.head?.any lower && id.toList.all (fun c => lower c || c == '_' || c == '-') &&
        id.toList.length ≤ 128 then .ok id
    else .error (.gateway_contract "INVALID_AGENT_ID")
  | _ => .error (.gateway_contract "INVALID_AGENT_ID")

/-- `_validate_session_binding` -/
def validate_session_binding (session_key : Option Json) (agent_id : String) :
    Except AdapterError String :=
  match session_key with
  | some (.str key) =>
    if key = "" then .error (.session_binding "OpenClaw sessionKey is missing")
    else if ("agent:" ++ agent_id ++ ":").toList.isPrefixOf key.toList then .ok key
    else .error (.session_binding "OpenClaw sessionKey does not match agentId")
  | _ => .error (.session_binding "OpenClaw sessionKey is missing")

/-- A payload that has passed `_validate_submit`, and the paths of its trusted context. -/
structure SubmitParams where
  message : String
  agent_id : String
  idempotency_key : String
  session_key : Option String
  approved_paths : List String
  deriving DecidableEq

/-- `timeout > 0` of a number; for a float it is given. -/
def positive_timeout (positive : FloatText → Bool) : Option Json → Bool
  | some (.int n) => decide (0 < n)
  | some (.float t) => positive t
  | _ => false

/-- `_trustedValidationContext` and its `approved_paths` -/
def trusted_paths (payload : Dict) : Except AdapterError (List String) :=
  let invalid := AdapterError.gateway_contract "INVALID_TRUSTED_VALIDATION_CONTEXT"
  match payload.value? "_trustedValidationContext" with
  | none => .ok []
  | some context =>
    match context.dict? with
    | none => .error invalid
    | some context =>
      match context.get? "approved_paths" with
      | none => .ok []
      | some (.arr paths) =>
        paths.mapM fun path =>
          match path with
          | .str path => if path = "" then .error invalid else .ok path
          | _ => .error invalid
      | some _ => .error invalid

def contract {α : Type} (message : String) : Except AdapterError α := .error (.gateway_contract message)

/-- The check passes, or `GatewayContractError` is raised. -/
def ensure (p : Prop) [Decidable p] (message : String) : Except AdapterError Unit :=
  if p then .ok () else contract message

/-- None of the fields is there, or the first of them is named. -/
def ensure_none (fields : List String) (message : String) : Except AdapterError Unit :=
  match least fields with
  | some field => contract (message ++ ":" ++ field)
  | none => .ok ()

/-- A string that is not empty. -/
def nonempty (v : Option Json) (message : String) : Except AdapterError String :=
  match v with
  | some (.str s) => if s = "" then contract message else .ok s
  | _ => contract message

/-- `_validate_submit`, and what `submit` makes of the trusted context. -/
def validate_submit (positive : FloatText → Bool) (payload : Dict) :
    Except AdapterError SubmitParams := do
  let keys := payload.members.map Prod.fst
  ensure_none (keys.filter (· ∈ FORBIDDEN_SUBMIT_FIELDS)) "FORBIDDEN_RUNTIME_FIELD"
  ensure_none (keys.filter (· ∉ ALLOWED_SUBMIT_FIELDS)) "UNKNOWN_SUBMIT_FIELD"
  ensure_none (["message", "agentId", "idempotencyKey", "timeout"].filter (· ∉ keys))
    "MISSING_SUBMIT_FIELD"
  let message ← nonempty (payload.get? "message") "message must be a non-empty string"
  ensure (Text.strip message ≠ "") "message must be a non-empty string"
  let idempotency_key ← nonempty (payload.get? "idempotencyKey") "idempotencyKey is invalid"
  ensure (idempotency_key.toList.length ≤ 256) "idempotencyKey is invalid"
  ensure (positive_timeout positive (payload.get? "timeout") = true) "timeout must be positive"
  let agent_id ← validate_agent_id (payload.get? "agentId")
  let session_key ← match payload.get? "sessionKey" with
    | some key => (validate_session_binding (some key) agent_id).map some
    | none => .ok none
  let approved_paths ← trusted_paths payload
  pure ⟨message, agent_id, idempotency_key, session_key, approved_paths⟩

/-! ## The contract in the message -/

/-- `text.partition(sep)`, if `sep` is in the text. -/
def partition (sep : List Char) : List Char → Option (List Char × List Char)
  | [] => none
  | c :: cs =>
    if sep.isPrefixOf (c :: cs) then some ([], (c :: cs).drop sep.length)
    else (partition sep cs).map fun p => (c :: p.1, p.2)

/-- The `task_profile` of `contract_from_message`, if it finds a contract. -/
def contract_profile (message : String) : Option String :=
  if "[FAST_GATEWAY_RESULT]\n".toList.isPrefixOf message.toList then do
    let (_, raw) ← partition "\n[IMMUTABLE_GROUNDING_PACKET]\n".toList message.toList
    let (raw, _) ← partition "\n[ORIGINAL_INSTRUCTION_CONTEXT]\n".toList raw
    let packet ← (loadsValue raw).bind Value.dict?
    match packet.get? "contract_version", packet.get? "task_profile" with
    | some (.int 2), some (.str profile) =>
      if profile ∈ ["ACKNOWLEDGEMENT", "READ_ONLY", "CODE_CHANGE"] then some profile else none
    | _, _ => none
  else none

/-- What is stored as the context of the run. -/
def SubmitParams.context (params : SubmitParams) : Dict :=
  let context := Dict.empty.set "approved_paths" (.strs params.approved_paths)
  (match contract_profile params.message with
    | some profile => context.set "war_room_task_profile" (.str profile)
    | none => context).sorted

/-- `requested_session or f"agent:{agent_id}:fast-gateway-{core_run_id}"` -/
def SubmitParams.session (params : SubmitParams) (core_run_id : String) : String :=
  params.session_key.getD ("agent:" ++ params.agent_id ++ ":fast-gateway-" ++ core_run_id)

/-! ## A call -/

/-- Where a call stands. -/
inductive Stage where
  | context
  | binding
  | preparation
  | capture
  | store (preparation : RunPreparation)
  | request (preparation : RunPreparation)
  | answer (preparation : RunPreparation)
  | bind (binding : RunBinding)
  | ended (out : Except AdapterError RunBinding)
  /-- The process has died. -/
  | dead

structure SubmitCall where
  core_run_id : String
  params : SubmitParams
  stage : Stage

/-- What a step may be answered with: the history of the session, the response to `agent`, each
`none` where the RPC fails, the clock, and what `_resolve_session_id` finds. -/
structure Reply where
  history : Option Dict
  response : Option Dict
  now_ms : Int
  resolved : Option String

/-- An `agent` RPC; `attempt` is the call that it is of. -/
structure AgentRequest where
  attempt : Nat
  core_run_id : String
  message : String
  agent_id : String
  session_key : String
  idempotency_key : String
  deriving DecidableEq

/-- The adapters of all processes: the stores that they share, and their calls. -/
structure Submits where
  store : RunBindingStore
  validation : ValidationState
  calls : List SubmitCall
  sent : List AgentRequest

namespace SubmitCall

def session (c : SubmitCall) : String := c.params.session c.core_run_id

/-- The binding is one of a run that was submitted with the same arguments. -/
def rebinds (c : SubmitCall) (existing : RunBinding) : Except AdapterError RunBinding :=
  if existing.agent_id ≠ c.params.agent_id ∨ existing.idempotency_key ≠ c.params.idempotency_key then
    .error (.idempotency_conflict "core run binding does not match retry")
  else if c.session ≠ existing.session_key then
    .error (.session_binding "core run sessionKey does not match retry binding")
  else .ok existing

/-- The preparation that is made of a page of the session. -/
def prepared (c : SubmitCall) (history : Dict) (now_ms : Int) : Except AdapterError RunPreparation := do
  let (watermark_seq, watermark_message_id, history_was_empty) ← capture_watermark history
  pure
    { core_run_id := c.core_run_id
      agent_id := c.params.agent_id
      session_key := c.session
      idempotency_key := c.params.idempotency_key
      watermark_seq := watermark_seq
      watermark_message_id := watermark_message_id
      captured_at_ms := now_ms
      history_was_empty := history_was_empty }

/-- The `sessionId` of the response, or what `_resolve_session_id` finds. -/
def session_id (response : Dict) (resolved : Option String) : Except AdapterError (Option String) :=
  match response.get? "sessionId" with
  | some (.str id) => .ok (some id)
  | none | some .null => .ok resolved
  | some _ => contract "OpenClaw sessionId is invalid"

local instance : LawfulBEq (Option Json) := inferInstance

/-- What is made of the response to `agent`. -/
def bound (c : SubmitCall) (preparation : RunPreparation) (response : Dict)
    (resolved : Option String) : Except AdapterError RunBinding := do
  ensure (response.get? "status" ∈ ["accepted", "in_flight", "ok"].map fun s => some (.str s))
    "OpenClaw did not accept the agent run"
  let run_id ← nonempty (response.get? "runId") "OpenClaw runId is missing"
  let session_key ← validate_session_binding (response.get? "sessionKey") c.params.agent_id
  if session_key ≠ preparation.session_key then
    .error (.session_binding "OpenClaw response sessionKey does not match preparation")
  else do
    let session_id ← session_id response resolved
    pure
      { core_run_id := c.core_run_id
        openclaw_run_id := run_id
        agent_id := c.params.agent_id
        session_key := session_key
        session_id := session_id
        idempotency_key := c.params.idempotency_key
        status := .RUNNING }

def request_of (c : SubmitCall) (attempt : Nat) : AgentRequest where
  attempt := attempt
  core_run_id := c.core_run_id
  message := c.params.message
  agent_id := c.params.agent_id
  session_key := c.session
  idempotency_key := c.params.idempotency_key

/-- One step of call `i`: what it leaves of the stores, what it has sent, and where it stands. -/
def step (i : Nat) (c : SubmitCall) (reply : Reply) (s : Submits) : Option (Submits × Stage) :=
  match c.stage with
  | .context =>
    match ValidationState.put s.validation.context c.core_run_id c.params.context with
    | .error e => some (s, .ended (.error e))
    | .ok context =>
      some ({ s with validation := { s.validation with context := context } },
        match validate_session_binding (some (.str c.session)) c.params.agent_id with
        | .error e => .ended (.error e)
        | .ok _ => .binding)
  | .binding =>
    match s.store.get c.core_run_id with
    | some existing => some (s, .ended (c.rebinds existing))
    | none => some (s, .preparation)
  | .preparation =>
    match s.store.get_preparation c.core_run_id with
    | some preparation =>
      if preparation.agent_id ≠ c.params.agent_id ∨ preparation.session_key ≠ c.session ∨
          preparation.idempotency_key ≠ c.params.idempotency_key then
        some (s, .ended (.error
          (.idempotency_conflict "core run preparation does not match retry")))
      else some (s, .request preparation)
    | none => some (s, .capture)
  | .capture =>
    match reply.history with
    | none => some (s, .ended (.error .rpc))
    | some history =>
      match c.prepared history reply.now_ms with
      | .error e => some (s, .ended (.error e))
      | .ok preparation => some (s, .store preparation)
  | .store preparation =>
    match s.store.put_preparation preparation with
    | .error e => some (s, .ended (.error e))
    | .ok store => some ({ s with store := store }, .request preparation)
  | .request preparation =>
    some ({ s with sent := s.sent ++ [c.request_of i] }, .answer preparation)
  | .answer preparation =>
    match reply.response with
    | none => some (s, .ended (.error .rpc))
    | some response =>
      match c.bound preparation response reply.resolved with
      | .error e => some (s, .ended (.error e))
      | .ok binding => some (s, .bind binding)
  | .bind binding =>
    match s.store.put binding with
    | .error e => some (s, .ended (.error e))
    | .ok store => some ({ s with store := store }, .ended (.ok binding))
  | .ended _ | .dead => none

end SubmitCall

/-! ## The system -/

inductive SubmitLabel where
  /-- `submit` is called; a payload that is refused is never heard of again. -/
  | submit (core_run_id : String) (payload : Dict)
  | advance (i : Nat) (reply : Reply)
  /-- The process of a call dies. -/
  | die (i : Nat)
  /-- `wait` or `cancel` moves a binding on. -/
  | status (core_run_id : String) (status : CoreRunStatus)

namespace Submits

/-- Call `i` stands at another stage. -/
def at_stage (s : Submits) (i : Nat) (c : SubmitCall) (stage : Stage) : Submits :=
  { s with calls := s.calls.set i { c with stage := stage } }

def step (positive : FloatText → Bool) (s : Submits) : SubmitLabel → Option Submits
  | .submit core_run_id payload =>
    match validate_submit positive payload with
    | .error _ => some s
    | .ok params =>
      if core_run_id = "" then some s
      else some { s with calls := s.calls ++ [⟨core_run_id, params, .context⟩] }
  | .advance i reply => do
    let c ← s.calls[i]?
    let (s, stage) ← c.step i reply s
    pure (s.at_stage i c stage)
  | .die i => do
    let c ← s.calls[i]?
    match c.stage with
    | .ended _ => none
    | _ => some (s.at_stage i c .dead)
  | .status core_run_id status => do
    let binding ← s.store.get core_run_id
    let store ← (s.store.put { binding with status := status }).toOption
    pure { s with store := store }

end Submits

def submits (positive : FloatText → Bool) : Machine Submits SubmitLabel where
  init s := s.store = .empty ∧ s.validation = .empty ∧ s.calls = [] ∧ s.sent = []
  step := Submits.step positive

/-! ## What a run is submitted as -/

/-- The fields that a retry has to repeat. -/
structure RunIdentity where
  core_run_id : String
  agent_id : String
  session_key : String
  idempotency_key : String
  deriving DecidableEq

def SubmitCall.identity (c : SubmitCall) : RunIdentity :=
  ⟨c.core_run_id, c.params.agent_id, c.session, c.params.idempotency_key⟩

def prepared_identity (p : RunPreparation) : RunIdentity :=
  ⟨p.core_run_id, p.agent_id, p.session_key, p.idempotency_key⟩

def bound_identity (b : RunBinding) : RunIdentity :=
  ⟨b.core_run_id, b.agent_id, b.session_key, b.idempotency_key⟩

def AgentRequest.identity (q : AgentRequest) : RunIdentity :=
  ⟨q.core_run_id, q.agent_id, q.session_key, q.idempotency_key⟩

namespace Submits

/-- A preparation for this is stored. -/
def Prepared (s : Submits) (identity : RunIdentity) : Prop :=
  ∃ p, s.store.get_preparation identity.core_run_id = some p ∧ prepared_identity p = identity

/-- No preparation is changed or lost. -/
def Keeps (s s' : Submits) : Prop :=
  ∀ id p, s.store.get_preparation id = some p → s'.store.get_preparation id = some p

/-- What holds of a call of this identity, where it stands. -/
def Stands (s : Submits) (identity : RunIdentity) : Stage → Prop
  | .store p => prepared_identity p = identity
  | .request p | .answer p =>
    s.store.get_preparation identity.core_run_id = some p ∧ prepared_identity p = identity
  | .bind b => bound_identity b = identity ∧ s.Prepared identity
  | .ended (.ok _) => s.Prepared identity
  | _ => True

/-- Each stored binding is one of its preparation. -/
def Bound (s : Submits) : Prop :=
  ∀ id b, s.store.get id = some b → b.core_run_id = id ∧ s.Prepared (bound_identity b)

/-- The invariant. -/
structure Sound (s : Submits) : Prop where
  calls : ∀ c ∈ s.calls, s.Stands c.identity c.stage
  bindings : s.Bound
  sent : ∀ q ∈ s.sent, s.Prepared q.identity ∧
    ∃ c, s.calls[q.attempt]? = some c ∧ q.identity = c.identity

variable {s s' : Submits} {c : SubmitCall} {i : Nat} {reply : Reply} {stage : Stage}

theorem Keeps.refl (s : Submits) : Keeps s s := fun _ _ h => h

theorem Keeps.trans {s₁ s₂ s₃ : Submits} (h : Keeps s₁ s₂) (h' : Keeps s₂ s₃) : Keeps s₁ s₃ :=
  fun _ _ hp => h' _ _ (h _ _ hp)

theorem Prepared.keeps {identity : RunIdentity} (h : s.Prepared identity) (hk : Keeps s s') :
    s'.Prepared identity := by
  obtain ⟨p, hp, hident⟩ := h
  exact ⟨p, hk _ _ hp, hident⟩

theorem Stands.keeps {identity : RunIdentity} (h : s.Stands identity stage) (hk : Keeps s s') :
    s'.Stands identity stage := by
  cases stage with
  | store p => exact h
  | request p => exact ⟨hk _ _ h.1, h.2⟩
  | answer p => exact ⟨hk _ _ h.1, h.2⟩
  | bind b => exact ⟨h.1, h.2.keeps hk⟩
  | ended out =>
    cases out with
    | ok b => exact Prepared.keeps h hk
    | error e => trivial
  | _ => trivial

/-- A binding that is put keeps the preparations, and is one of its preparation. -/
theorem put_bound {binding : RunBinding} {store : RunBindingStore} (hbound : s.Bound)
    (hprep : s.Prepared (bound_identity binding)) (h : s.store.put binding = .ok store) :
    Keeps s { s with store := store } ∧ Bound { s with store := store } := by
  have hkeeps : Keeps s { s with store := store } := by
    intro id p hp
    show store.get_preparation id = some p
    rw [RunBindingStore.get_preparation, RunBindingStore.put_preparations h]
    exact hp
  refine ⟨hkeeps, fun id b hb => ?_⟩
  change store.get id = some b at hb
  rw [RunBindingStore.get_put h id] at hb
  split at hb
  · rename_i hid
    cases hb
    exact ⟨hid, hprep.keeps hkeeps⟩
  · obtain ⟨hid, hb⟩ := hbound id b hb
    exact ⟨hid, hb.keeps hkeeps⟩

theorem put_preparation_keeps {p : RunPreparation} {store : RunBindingStore} (hbound : s.Bound)
    (h : s.store.put_preparation p = .ok store) :
    Keeps s { s with store := store } ∧ Bound { s with store := store } ∧
      store.get_preparation p.core_run_id = some p := by
  have hget := RunBindingStore.get_put_preparation h
  have hkeeps : Keeps s { s with store := store } := by
    intro id q hq
    show store.get_preparation id = some q
    rw [(hget id).1]
    split
    · rename_i hid
      subst hid
      rw [RunBindingStore.put_preparation_same h hq]
    · exact hq
  refine ⟨hkeeps, fun id b hb => ?_, ?_⟩
  · have hsame : store.get id = s.store.get id := by
      rw [RunBindingStore.get, (hget id).2]
      rfl
    obtain ⟨hid, hb⟩ := hbound id b (hsame ▸ hb)
    exact ⟨hid, hb.keeps hkeeps⟩
  · rw [(hget p.core_run_id).1, if_pos rfl]

end Submits

namespace SubmitCall

variable {s s' : Submits} {c : SubmitCall} {i : Nat} {reply : Reply} {stage : Stage}

theorem rebinds_ok {existing b : RunBinding} (hid : existing.core_run_id = c.core_run_id)
    (h : c.rebinds existing = .ok b) : bound_identity existing = c.identity := by
  unfold rebinds at h
  split at h
  · cases h
  · split at h
    · cases h
    · rename_i hsame hsession
      simp only [not_or, not_not] at hsame hsession
      simp only [bound_identity, identity, RunIdentity.mk.injEq]
      exact ⟨hid, hsame.1, hsession.symm, hsame.2⟩

theorem prepared_ok {history : Dict} {now_ms : Int} {p : RunPreparation}
    (h : c.prepared history now_ms = .ok p) : prepared_identity p = c.identity := by
  obtain ⟨⟨seq, id, was_empty⟩, -, h⟩ := bind_eq_ok.mp h
  cases h
  rfl

theorem bound_ok {p : RunPreparation} {response : Dict} {resolved : Option String} {b : RunBinding}
    (hp : prepared_identity p = c.identity) (h : c.bound p response resolved = .ok b) :
    bound_identity b = c.identity := by
  obtain ⟨-, -, h⟩ := bind_eq_ok.mp h
  obtain ⟨run_id, -, h⟩ := bind_eq_ok.mp h
  obtain ⟨session_key, -, h⟩ := bind_eq_ok.mp h
  split at h
  · cases h
  · rename_i hsession
    obtain ⟨session_id, -, h⟩ := bind_eq_ok.mp h
    cases h
    have hkey := congrArg RunIdentity.session_key hp
    simp only [bound_identity, identity, RunIdentity.mk.injEq, true_and, and_true]
    exact (not_not.mp hsession).trans hkey

/-- What one step of a call does. -/
theorem step_sound (hbound : s.Bound) (hc : s.Stands c.identity c.stage)
    (h : c.step i reply s = some (s', stage)) :
    s'.calls = s.calls ∧ s.Keeps s' ∧ s'.Bound ∧ s'.Stands c.identity stage ∧
      (s'.sent = s.sent ∨ ∃ p, c.stage = .request p ∧ s'.sent = s.sent ++ [c.request_of i]) := by
  unfold step at h
  split at h
  case h_1 =>
    split at h
    · cases h
      exact ⟨rfl, .refl s, hbound, trivial, .inl rfl⟩
    · cases h
      refine ⟨rfl, fun _ _ hp => hp, hbound, ?_, .inl rfl⟩
      split <;> trivial
  case h_2 =>
    split at h
    · rename_i existing hexisting
      cases h
      refine ⟨rfl, .refl s, hbound, ?_, .inl rfl⟩
      cases hrebinds : c.rebinds existing with
      | error e => trivial
      | ok b =>
        obtain ⟨hid, hprep⟩ := hbound _ _ hexisting
        exact rebinds_ok hid hrebinds ▸ hprep
    · cases h
      exact ⟨rfl, .refl s, hbound, trivial, .inl rfl⟩
  case h_3 =>
    split at h
    · rename_i p hp
      split at h
      · cases h
        exact ⟨rfl, .refl s, hbound, trivial, .inl rfl⟩
      · rename_i hsame
        cases h
        simp only [ne_eq, not_or, not_not] at hsame
        refine ⟨rfl, .refl s, hbound, ⟨hp, ?_⟩, .inl rfl⟩
        simp only [prepared_identity, identity, RunIdentity.mk.injEq]
        exact ⟨(Table.find_some hp).2, hsame⟩
    · cases h
      exact ⟨rfl, .refl s, hbound, trivial, .inl rfl⟩
  case h_4 =>
    split at h
    · cases h
      exact ⟨rfl, .refl s, hbound, trivial, .inl rfl⟩
    · split at h
      · cases h
        exact ⟨rfl, .refl s, hbound, trivial, .inl rfl⟩
      · rename_i hprepared
        cases h
        exact ⟨rfl, .refl s, hbound, prepared_ok hprepared, .inl rfl⟩
  case h_5 p hstage =>
    rw [hstage] at hc
    split at h
    · cases h
      exact ⟨rfl, .refl s, hbound, trivial, .inl rfl⟩
    · rename_i store hput
      cases h
      obtain ⟨hkeeps, hbound', hget⟩ := Submits.put_preparation_keeps hbound hput
      refine ⟨rfl, hkeeps, hbound', ⟨?_, hc⟩, .inl rfl⟩
      rwa [show c.identity.core_run_id = p.core_run_id from
        (congrArg RunIdentity.core_run_id hc).symm]
  case h_6 p hstage =>
    rw [hstage] at hc
    cases h
    exact ⟨rfl, fun _ _ hp => hp, hbound, hc, .inr ⟨p, hstage, rfl⟩⟩
  case h_7 p hstage =>
    rw [hstage] at hc
    split at h
    · cases h
      exact ⟨rfl, .refl s, hbound, trivial, .inl rfl⟩
    · split at h
      · cases h
        exact ⟨rfl, .refl s, hbound, trivial, .inl rfl⟩
      · rename_i hb
        cases h
        exact ⟨rfl, .refl s, hbound, ⟨bound_ok hc.2 hb, p, hc⟩, .inl rfl⟩
  case h_8 b hstage =>
    rw [hstage] at hc
    split at h
    · cases h
      exact ⟨rfl, .refl s, hbound, trivial, .inl rfl⟩
    · rename_i store hput
      cases h
      obtain ⟨hkeeps, hbound'⟩ := Submits.put_bound hbound (hc.1.symm ▸ hc.2) hput
      exact ⟨rfl, hkeeps, hbound', hc.2.keeps hkeeps, .inl rfl⟩
  case h_9 => cases h
  case h_10 => cases h

end SubmitCall

namespace Submits

variable {s s' w : Submits} {c : SubmitCall} {i : Nat} {reply : Reply} {stage : Stage}
  {positive : FloatText → Bool} {l : SubmitLabel}

/-- A call keeps its arguments. -/
theorem identity_at_stage (hi : s.calls[i]? = some c) (stage : Stage) {j : Nat} {d : SubmitCall}
    (hd : s.calls[j]? = some d) :
    ∃ d', (s.at_stage i c stage).calls[j]? = some d' ∧ d'.identity = d.identity := by
  by_cases hij : i = j
  · subst hij
    obtain rfl : c = d := Option.some.inj (hi.symm.trans hd)
    refine ⟨{ c with stage := stage }, ?_, rfl⟩
    exact List.getElem?_set_self (List.getElem?_eq_some_iff.mp hi).1
  · refine ⟨d, ?_, rfl⟩
    rw [at_stage, List.getElem?_set_ne hij, hd]

/-- A call that stands rightly at its new stage leaves the invariant. -/
theorem Sound.at_stage (hs : s.Sound) (hi : s.calls[i]? = some c) (hstage : s.Stands c.identity stage) :
    (s.at_stage i c stage).Sound where
  calls d hd := by
    rcases List.mem_or_eq_of_mem_set hd with hd | rfl
    · exact hs.calls d hd
    · exact hstage
  bindings := hs.bindings
  sent q hq := by
    obtain ⟨hprep, d, hd, hident⟩ := hs.sent q hq
    obtain ⟨d', hd', hsame⟩ := identity_at_stage hi stage hd
    exact ⟨hprep, d', hd', hident.trans hsame.symm⟩

/-- What one step of the system does: it keeps the invariant and the preparations, and sends at most
one request, for which a preparation is stored. -/
theorem step_sound (hs : s.Sound) (h : step positive s l = some s') :
    s'.Sound ∧ s.Keeps s' ∧ (s'.sent = s.sent ∨ ∃ q, s'.sent = s.sent ++ [q] ∧ s.Prepared q.identity) := by
  cases l with
  | submit core_run_id payload =>
    simp only [step] at h
    split at h
    · cases h
      exact ⟨hs, .refl s, .inl rfl⟩
    · split at h
      · cases h
        exact ⟨hs, .refl s, .inl rfl⟩
      · cases h
        refine ⟨⟨fun c hc => ?_, hs.bindings, fun q hq => ?_⟩, fun _ _ hp => hp, .inl rfl⟩
        · rcases List.mem_append.mp hc with hc | hc
          · exact hs.calls c hc
          · rw [List.mem_singleton.mp hc]
            trivial
        · obtain ⟨hprep, c, hc, hident⟩ := hs.sent q hq
          exact ⟨hprep, c, List.getElem?_append_left (List.getElem?_eq_some_iff.mp hc).1 ▸ hc, hident⟩
  | advance i reply =>
    obtain ⟨c, hc, h⟩ := Option.bind_eq_some_iff.mp h
    obtain ⟨⟨t, stage⟩, hstep, h⟩ := Option.bind_eq_some_iff.mp h
    cases h
    have hmem := List.mem_of_getElem? hc
    obtain ⟨hcalls, hkeeps, hbound, hstands, hsent⟩ :=
      SubmitCall.step_sound hs.bindings (hs.calls c hmem) hstep
    have ht : t.Sound := by
      refine ⟨fun d hd => (hs.calls d (hcalls ▸ hd)).keeps hkeeps, hbound, fun q hq => ?_⟩
      rcases hsent with hsent | ⟨p, hstage, hsent⟩
      · obtain ⟨hprep, d, hd, hident⟩ := hs.sent q (hsent ▸ hq)
        exact ⟨hprep.keeps hkeeps, d, hcalls ▸ hd, hident⟩
      · rw [hsent, List.mem_append, List.mem_singleton] at hq
        rcases hq with hq | rfl
        · obtain ⟨hprep, d, hd, hident⟩ := hs.sent q hq
          exact ⟨hprep.keeps hkeeps, d, hcalls ▸ hd, hident⟩
        · have hrequest := hs.calls c hmem
          rw [hstage] at hrequest
          exact ⟨Prepared.keeps ⟨p, hrequest⟩ hkeeps, c, hcalls ▸ hc, rfl⟩
    refine ⟨ht.at_stage (hcalls ▸ hc) hstands, hkeeps, ?_⟩
    rcases hsent with hsent | ⟨p, hstage, hsent⟩
    · exact .inl hsent
    · have hrequest := hs.calls c hmem
      rw [hstage] at hrequest
      exact .inr ⟨c.request_of i, hsent, p, hrequest⟩
  | die i =>
    obtain ⟨c, hc, h⟩ := Option.bind_eq_some_iff.mp h
    split at h
    · cases h
    · cases h
      exact ⟨hs.at_stage hc trivial, fun _ _ hp => hp, .inl rfl⟩
  | status core_run_id status =>
    obtain ⟨b, hb, h⟩ := Option.bind_eq_some_iff.mp h
    obtain ⟨store, hput, h⟩ := Option.bind_eq_some_iff.mp h
    cases h
    cases hput' : s.store.put { b with status := status } with
    | error e =>
      rw [hput'] at hput
      cases hput
    | ok store' =>
    obtain rfl : store' = store := by
      rw [hput'] at hput
      exact Option.some.inj hput
    have hprep : s.Prepared (bound_identity { b with status := status }) := (hs.bindings _ _ hb).2
    obtain ⟨hkeeps, hbound⟩ := put_bound hs.bindings hprep hput'
    refine ⟨⟨fun c hc => (hs.calls c hc).keeps hkeeps, hbound, fun q hq => ?_⟩, hkeeps, .inl rfl⟩
    obtain ⟨hprep, hc⟩ := hs.sent q hq
    exact ⟨hprep.keeps hkeeps, hc⟩

theorem inductive_sound (G : Submits → SubmitLabel → Prop) : (submits positive).InductiveIf G Sound where
  init s hs := by
    obtain ⟨hstore, -, hcalls, hsent⟩ := hs
    refine ⟨?_, ?_, ?_⟩
    · simp [hcalls]
    · intro id b hb
      rw [hstore] at hb
      cases hb
    · simp [hsent]
  step s l s' hs _ h := (step_sound hs h).1

theorem steps_keeps {G : Submits → SubmitLabel → Prop} {as : List SubmitLabel}
    (hs : s.Sound) (run : (submits positive).Steps G s as s') : s.Keeps s' := by
  induction run with
  | refl => exact .refl _
  | cons _ h _ ih =>
    obtain ⟨hsound, hkeeps, -⟩ := step_sound hs h
    exact hkeeps.trans (ih hsound)

end Submits

open Submits

variable {w : Submits} {positive : FloatText → Bool}

/-- The watermark comes before the work: a step that sends an `agent` request finds a preparation with
the agent, the session and the key of the request; a preparation is never changed or lost; and a call
that differs from the stored preparation has sent no request, and has raised if it has ended. -/
theorem watermark_before_work (h : (submits positive).Reachable w) :
    (∀ l w', (submits positive).step w l = some w' → w'.sent = w.sent ∨
      ∃ q p, w'.sent = w.sent ++ [q] ∧ w.store.get_preparation q.core_run_id = some p ∧
        prepared_identity p = q.identity) ∧
    (∀ as w', (submits positive).Steps (fun _ _ => True) w as w' → ∀ id p,
      w.store.get_preparation id = some p → w'.store.get_preparation id = some p) ∧
    ∀ i c p, w.calls[i]? = some c → w.store.get_preparation c.core_run_id = some p →
      prepared_identity p ≠ c.identity →
      (∀ q ∈ w.sent, q.attempt ≠ i) ∧ ∀ out, c.stage = .ended out → ∃ e, out = .error e := by
  have hsound := (inductive_sound _).reachable h
  refine ⟨fun l w' hstep => ?_, fun as w' run => steps_keeps hsound run, fun i c p hc hp hne => ⟨?_, ?_⟩⟩
  · obtain ⟨-, -, hsent⟩ := step_sound hsound hstep
    refine hsent.imp_right ?_
    rintro ⟨q, hq, p, hp, hident⟩
    exact ⟨q, p, hq, hp, hident⟩
  · rintro q hq rfl
    obtain ⟨⟨p', hp', hident⟩, c', hc', hsame⟩ := hsound.sent q hq
    obtain rfl : c = c' := Option.some.inj (hc.symm.trans hc')
    rw [hsame] at hident hp'
    obtain rfl : p = p' := Option.some.inj (hp.symm.trans hp')
    exact hne hident
  · intro out hout
    cases out with
    | error e => exact ⟨e, rfl⟩
    | ok b =>
      have hstands := hsound.calls c (List.mem_of_getElem? hc)
      rw [hout] at hstands
      obtain ⟨p', hp', hident⟩ := hstands
      obtain rfl : p = p' := Option.some.inj (hp.symm.trans hp')
      exact absurd hident hne

namespace Sample

def payload (agent_id : String) : Dict :=
  (((Dict.empty.set "message" (.str "work")).set "agentId" (.str agent_id)).set "idempotencyKey"
    (.str "key")).set "timeout" (.int 60)

def nothing : Reply := ⟨none, none, 0, none⟩

/-- A session without messages. -/
def fresh : Reply := { nothing with history := some (history []) }

/-- A call that goes as far as the page of the session. -/
def begun (i : Nat) (agent_id : String) : List SubmitLabel :=
  [.submit "core-1" (payload agent_id), .advance i nothing, .advance i nothing, .advance i nothing]

/-- The page is lost; the run is submitted again, for another agent. -/
def elsewhere : Submits :=
  (submits fun _ => true).after ⟨.empty, .empty, [], []⟩
    (begun 0 "first" ++ [.advance 0 nothing] ++ begun 1 "second" ++
      [.advance 1 fresh, .advance 1 nothing, .advance 1 nothing])

/-- The call dies once the preparation is stored, and the run is submitted again. -/
def died (agent_id : String) : List SubmitLabel :=
  begun 0 "first" ++ [.advance 0 fresh, .advance 0 nothing, .die 0] ++ begun 1 agent_id

def resubmitted : Submits :=
  (submits fun _ => true).after ⟨.empty, .empty, [], []⟩ (died "second")

end Sample

open Sample in
/-- A retry for another agent sends its request, if the first call has failed before it stored a
preparation. -/
theorem retry_for_another_agent : (submits fun _ => true).Reachable elsewhere ∧
    elsewhere.calls.map (fun c => (c.core_run_id, c.params.agent_id)) =
      [("core-1", "first"), ("core-1", "second")] ∧
    elsewhere.sent.map AgentRequest.attempt = [1] :=
  ⟨Machine.reachable_after (M := submits _) ⟨rfl, rfl, rfl, rfl⟩ _, by decide +kernel, by decide +kernel⟩

open Sample in
/-- The retry for another agent is refused. -/
theorem watermark_before_work_sample : ∃ c, resubmitted.calls[1]? = some c ∧
    (∀ q ∈ resubmitted.sent, q.attempt ≠ 1) ∧ ∀ out, c.stage = .ended out → ∃ e, out = .error e := by
  have hreachable : (submits fun _ => true).Reachable resubmitted :=
    Machine.reachable_after (M := submits _) ⟨rfl, rfl, rfl, rfl⟩ _
  have hcall : (resubmitted.calls[1]?.map SubmitCall.identity) =
      some ⟨"core-1", "second", "agent:second:fast-gateway-core-1", "key"⟩ := by decide +kernel
  have hprep : (resubmitted.store.get_preparation "core-1").map prepared_identity =
      some ⟨"core-1", "first", "agent:first:fast-gateway-core-1", "key"⟩ := by decide +kernel
  obtain ⟨c, hc, hidentity⟩ := Option.map_eq_some_iff.mp hcall
  obtain ⟨p, hp, hprepared⟩ := Option.map_eq_some_iff.mp hprep
  have hid : c.core_run_id = "core-1" := congrArg RunIdentity.core_run_id hidentity
  refine ⟨c, hc, (watermark_before_work hreachable).2.2 1 c p hc (hid ▸ hp) ?_⟩
  rw [hprepared, hidentity]
  decide

end OpenClawAdapter

end Plachem
