import Mathlib.Algebra.Order.Field.Rat
import Mathlib.Data.List.Sort
import Mathlib.Data.Option.Basic
import Mathlib.Data.String.Basic
import PlachemMonitor.Spec.Result
import PlachemMonitor.WarRoom.Redact

/-!
# Advisories on a task

`create_advisory` stores what a model recommends for a task, with the digest of the state that it was asked
about; `_stale` compares this digest with the one of the present state. `decide_advisory` records what a person
makes of it.

* `exact_of_listed`: the digest tells whether anything differs, if the candidates that it was taken with are
  those that `_stale` looks up.
* `accepted_unchanged`: an advisory is accepted on the state that it was made for.
* `staleness_exact_iff`: the digest tells it exactly if a domain was chosen, or no agent is eligible.
-/

namespace Plachem

namespace WarRoom

namespace Advisory

open Redact

/-! ## The state of a task -/

structure Config where
  /-- `str.isalnum` of a character beyond ASCII. -/
  letter : Char → Bool
  /-- `float(value)`, unless it raises. -/
  float : Json → Option ℚ
  /-- `sha256(text.encode()).hexdigest()` -/
  sha256 : List Char → String

/-- `WarRoomAgent` -/
structure Agent where
  agent_id : String
  registered : Bool
  gateway_allowed : Bool
  enabled : Bool
  capabilities : List String
  deriving DecidableEq

def Agent.execution_eligible (a : Agent) : Bool := a.registered && a.gateway_allowed && a.enabled

/-- A row of `war_tasks`, with the body of its source message. -/
structure TaskRow where
  scope : String
  status : String
  revision : Int
  document_version : Option String
  instruction_body : Option String

/-- What is read of a task, and `load_agent_catalog().values()`. -/
structure World where
  tasks : String → Option TaskRow
  /-- `war_grounding_packets.packet_json` -/
  packets : String → Option String
  /-- `war_task_agents`, in the order of the identifiers. -/
  assigned : String → List String
  catalog : List Agent

def DOMAIN_AGENT_IDS : List (String × List String) :=
  [("server_operations", ["main"]), ("office_admin", ["secretary"]), ("research", ["researcher"]),
    ("erp_implementation", ["erpcoder", "processdata", "processsupport"]), ("erp_management", ["erpmanager"]),
    ("qa", ["erpqa"]), ("media", ["producer"]), ("insufficient_evidence", [])]

/-- The keys of `DOMAIN_CRITERIA`. -/
def DOMAINS : List String := DOMAIN_AGENT_IDS.map Prod.fst

/-- `casefold` of an identifier, which is ASCII. -/
def casefold (agent_id : String) : String := String.ofList (agent_id.toList.map Char.toLower)

/-- `registry_candidates` -/
def registry_candidates (catalog : List Agent) (domain : Option String) : List Agent :=
  let allowed_ids : Option (List String) :=
    match domain with
    | some domain =>
      if domain = "" ∨ domain = "insufficient_evidence" then none
      else some ((DOMAIN_AGENT_IDS.find? fun d => d.1 == domain).elim [] Prod.snd)
    | none => none
  let eligible := catalog.filter fun a =>
    a.execution_eligible && allowed_ids.all fun ids => ids.contains (casefold a.agent_id)
  eligible.insertionSort fun a b => casefold a.agent_id ≤ casefold b.agent_id

/-- An item of `official_candidates`. -/
def candidate (a : Agent) : Value :=
  .ofDict (Dict.ofList [("agent_id", .str a.agent_id), ("capabilities", .strs a.capabilities),
    ("registered", .bool a.registered), ("enabled", .bool a.enabled),
    ("gateway_allowed", .bool a.gateway_allowed), ("execution_eligible", .bool a.execution_eligible)] (by simp))

def candidates (agents : List Agent) : Value := .list (agents.map candidate)

/-- The grounding packet of a task, `{}` if there is none that is a dictionary. -/
def packet_of (w : World) (task_id : String) : Dict :=
  (((w.packets task_id).bind fun text => loadsValue text.toList).bind Value.dict?).getD .empty

/-- `packet.get(key, default)` -/
def given (packet : Dict) (key default : String) : Value := (packet.value? key).getD (.str default)

/-- `task["instruction_body"] or packet.get("instructions", task["scope"])` -/
def instructions (task : TaskRow) (packet : Dict) : Value :=
  match task.instruction_body.filter (· ≠ "") with
  | some body => .str body
  | none => given packet "instructions" task.scope

/-- The state of a task, before it is redacted. -/
def task_facts (w : World) (task_id : String) (task : TaskRow) : Dict :=
  let packet := packet_of w task_id
  Dict.ofList
    [("task", .ofDict (Dict.ofList
        [("task_id", .str task_id), ("purpose", given packet "purpose" task.scope),
          ("instructions", instructions task packet),
          ("expected_result", given packet "expected_result" "unknown"),
          ("completion_conditions", given packet "completion_conditions" "unknown"),
          ("risk", given packet "risk" "unknown"), ("revision", .int task.revision)] (by simp))),
      ("observed_state", .ofDict (Dict.ofList
        [("lifecycle", .str task.status), ("document_version", .ofOption .str task.document_version)]
        (by simp))),
      ("policy_facts", .ofDict (Dict.ofList
        [("production", given packet "production" "unknown"),
          ("destructive", given packet "destructive" "unknown")] (by simp))),
      ("official_candidates", .list []), ("assigned_agents", .strs (w.assigned task_id)),
      ("freshness", .ofDict (Dict.ofList [("task_revision", .int task.revision)] (by simp)))]
    (by simp)

/-- `_task_state`, unless there is no such task. -/
def task_state (cfg : Config) (w : World) (task_id : String) : Option (TaskRow × Dict) :=
  (w.tasks task_id).map fun task => (task, redact_dict cfg.letter (task_facts w task_id task))

/-- `state["official_candidates"] = candidates` -/
def with_candidates (state : Dict) (agents : List Agent) : Dict :=
  state.set "official_candidates" (candidates agents)

/-- `state_digest` -/
def state_digest (cfg : Config) (state : Dict) : String := cfg.sha256 (state.dumps false)

/-! ## Advisories -/

/-- A choice among names, with the probabilities of the names and the confidence. -/
structure Choice where
  choice : String
  probabilities : List (String × ℚ)
  confidence : ℚ

/-- The name that is chosen, if it is a text. -/
def chosen (raw : Dict) : Option String :=
  match raw.get? "choice" with
  | some (.str name) => some name
  | _ => none

/-- `max(probs.values()) if raw.get("confidence") is None else float(raw["confidence"])` -/
def confidence_of (cfg : Config) (raw : Dict) (probabilities : List (String × ℚ)) : Option ℚ :=
  match (raw.get? "confidence").filter (· ≠ .null) with
  | some value => cfg.float value
  | none => (probabilities.map Prod.snd).max?

/-- `_choice`, unless it raises. -/
def choice (cfg : Config) (allowed : List String) (raw : Value) : Option Choice := do
  let raw ← raw.dict?
  let name ← chosen raw
  guard (name ∈ allowed)
  let given ← (raw.value? "probabilities").bind Value.dict?
  let probabilities ← (given.members.filter fun m => allowed.contains m.1).mapM fun m =>
    (cfg.float m.2).map fun value => (m.1, value)
  guard (∀ k ∈ allowed, k ∈ probabilities.map Prod.fst)
  guard (∀ p ∈ probabilities, 0 ≤ p.2 ∧ p.2 ≤ 1)
  let confidence ← confidence_of cfg raw probabilities
  guard (0 ≤ confidence ∧ confidence ≤ 1)
  pure ⟨name, probabilities, confidence⟩

inductive Status where
  | available
  | advisory_unavailable
  deriving DecidableEq

/-- A row of `jev_task_advisories`; its texts and times that no rule reads are left out. -/
structure Row where
  advisory_id : String
  task_id : String
  task_revision : Int
  state_digest : String
  state_json : List Char
  domain : Option Choice
  agent : Option Choice
  status : Status

def Row.domain_choice (row : Row) : Option String := row.domain.map Choice.choice

def Row.agent_choice (row : Row) : Option String := row.agent.map Choice.choice

/-- What the two calls of the client return, unless they raise. -/
structure Answers where
  domain : Option Value
  agent : Option Value

/-- The answer of the first call, if it chooses a domain. -/
def Answers.domain_choice (cfg : Config) (answers : Answers) : Option Choice :=
  answers.domain.bind (choice cfg DOMAINS)

def Answers.agent_choice (cfg : Config) (answers : Answers) (agents : List Agent) : Option Choice :=
  if agents = [] then some ⟨"insufficient_evidence", [("insufficient_evidence", 1)], 1⟩
  else answers.agent.bind (choice cfg (agents.map Agent.agent_id ++ ["insufficient_evidence"]))

/-- What has been found out when an advisory is stored: the domain, the agent and `official_candidates`. -/
structure Findings where
  domain : Option Choice
  agent : Option Choice
  official_candidates : List Agent
  status : Status

/-- The `try` of `create_advisory`. -/
def findings (cfg : Config) (catalog : List Agent) (answers : Answers) : Findings :=
  match answers.domain_choice cfg with
  | none => ⟨none, none, [], .advisory_unavailable⟩
  | some domain =>
    let agents := registry_candidates catalog (some domain.choice)
    match answers.agent_choice cfg agents with
    | none => ⟨some domain, none, agents, .advisory_unavailable⟩
    | some agent => ⟨some domain, some agent, agents, .available⟩

/-- `create_advisory`. The catalog is read after the first call of the client. -/
def create_advisory (cfg : Config) (w : World) (catalog : List Agent) (answers : Answers)
    (advisory_id task_id : String) : Option Row := do
  let (task, state) ← task_state cfg w task_id
  let found := findings cfg catalog answers
  let state := with_candidates state found.official_candidates
  pure
    { advisory_id := advisory_id
      task_id := task_id
      task_revision := task.revision
      state_digest := state_digest cfg state
      state_json := state.dumps false
      domain := found.domain
      agent := found.agent
      status := found.status }

/-- The candidates that `_stale` looks up. -/
def Row.candidates (row : Row) (catalog : List Agent) : List Agent :=
  registry_candidates catalog (some ((row.domain_choice.filter (· ≠ "")).getD "insufficient_evidence"))

/-- `_stale`, unless there is no such task. -/
def stale (cfg : Config) (w : World) (row : Row) : Option Bool := do
  let (task, state) ← task_state cfg w row.task_id
  let state := with_candidates state (row.candidates w.catalog)
  pure (decide (task.revision ≠ row.task_revision) || decide (state_digest cfg state ≠ row.state_digest))

/-! ## Decisions -/

inductive Decided where
  | accept
  | override
  | insufficient
  deriving DecidableEq

structure Refusal where
  status_code : ℕ
  detail : String
  deriving DecidableEq

/-- A row of `jev_task_decisions`. -/
structure Decision where
  decision_id : String
  advisory_id : String
  task_id : String
  task_revision : Int
  state_digest : String
  decision : Decided
  override_agent_id : Option String
  override_reason : Option String
  stale : Bool
  actor_id : String

/-- The body of a request, as far as it is valid: `override_agent_id` and `override_reason` are the texts
that are given. -/
structure Body where
  decision : Option Decided
  override_agent_id : Option String
  override_reason : Option String

/-- What the queries of a request find. Others may write between two of them, and the catalog may change. -/
structure Reads where
  task : Option TaskRow
  actor : Except Refusal String
  row : Option Row
  override : World
  first : World
  eligible : World
  second : World
  /-- The request hash and the response that are recorded under the key. -/
  recorded : Option (String × String)

inductive Outcome where
  | replayed (response : String)
  | recorded (d : Decision)

/-- `if cond: raise HTTPException(status_code, detail)` -/
def refuse (cond : Bool) (status_code : ℕ) (detail : String) : Except Refusal Unit :=
  if cond then .error ⟨status_code, detail⟩ else .ok ()

/-- `raise HTTPException(404, detail)` if there is nothing. -/
def existing {α : Type} (detail : String) : Option α → Except Refusal α
  | some a => .ok a
  | none => .error ⟨404, detail⟩

def known_decision : Option Decided → Except Refusal Decided
  | some decision => .ok decision
  | none => .error ⟨422, "decision must be ACCEPT, OVERRIDE, or INSUFFICIENT"⟩

/-- Whether one of the candidates has the identifier. -/
def listed (agents : List Agent) (agent_id : Option String) : Bool :=
  agent_id.any fun id => (agents.map Agent.agent_id).contains id

/-- What is required of an `OVERRIDE`. -/
def overridable (body : Body) (reads : Reads) : Except Refusal Unit := do
  refuse (!listed (registry_candidates reads.override.catalog none) body.override_agent_id) 422
    "override target must be registered and execution-eligible"
  refuse (!body.override_reason.any fun reason => Text.strip reason != "") 422 "override_reason is required"

/-- What is required of an `ACCEPT`, besides that the advisory is available. -/
def acceptable (cfg : Config) (row : Row) (reads : Reads) : Except Refusal Unit := do
  let first ← existing "Task not found" (stale cfg reads.first row)
  refuse first 409 "stale ACCEPT rejected; request a new advisory"
  refuse (!listed (registry_candidates reads.eligible.catalog row.domain_choice) row.agent_choice) 409
    "recommended agent is no longer execution-eligible"

def required (cfg : Config) (decision : Decided) (body : Body) (row : Row) (reads : Reads) :
    Except Refusal Unit :=
  match decision with
  | .override => overridable body reads
  | .accept => acceptable cfg row reads
  | .insufficient => .ok ()

/-- The response that is recorded under the key. -/
def replay (req_hash hash response : String) : Except Refusal Outcome := do
  refuse (hash != req_hash) 409 "Idempotency-Key reuse with different request"
  pure (.replayed response)

/-- `decide_advisory` of the task; the key is valid, and `req_hash` is the hash of the body. -/
def decide_advisory (cfg : Config) (body : Body) (task_id decision_id req_hash : String) (reads : Reads) :
    Except Refusal Outcome := do
  let decision ← known_decision body.decision
  let task ← existing "Task not found" reads.task
  let actor ← reads.actor
  let row ← existing "Advisory not found" reads.row
  refuse (decide (decision = .accept ∧ row.status ≠ .available)) 409 "unavailable advisory cannot be accepted"
  required cfg decision body row reads
  let second ← existing "Task not found" (stale cfg reads.second row)
  match reads.recorded with
  | some (hash, response) => replay req_hash hash response
  | none =>
    pure (.recorded
      { decision_id := decision_id
        advisory_id := row.advisory_id
        task_id := task_id
        task_revision := task.revision
        state_digest := row.state_digest
        decision := decision
        override_agent_id := if decision = .override then body.override_agent_id else none
        override_reason := if decision = .override then body.override_reason.map Text.strip else none
        stale := second
        actor_id := actor })

/-! ## Staleness -/

/-- What an advisory is compared with: the redacted state of its task, with the candidates. -/
def view (cfg : Config) (w : World) (row : Row) : Option Dict :=
  (task_state cfg w row.task_id).map fun s => with_candidates s.2 (row.candidates w.catalog)

/-- The task is there in both worlds, and nothing that the advisory is compared with differs. -/
def Unchanged (cfg : Config) (made w : World) (row : Row) : Prop :=
  ∃ before after, view cfg made row = some before ∧ view cfg w row = some after ∧ before.Eqv after

/-- `_stale` says whether something differs. -/
def Exact (cfg : Config) (made : World) (row : Row) : Prop :=
  ∀ w b, stale cfg w row = some b → (b = false ↔ Unchanged cfg made w row)

/-- When a decision to accept the advisory is recorded, nothing differed at the check that let it pass; and
nothing differed at the last check, if the decision is not marked as stale. -/
def AcceptedUnchanged (cfg : Config) (made : World) (row : Row) : Prop :=
  ∀ body task_id decision_id req_hash reads d, reads.row = some row →
    decide_advisory cfg body task_id decision_id req_hash reads = .ok (.recorded d) →
    d.decision = .accept → Unchanged cfg made reads.first row ∧
      (d.stale = false → Unchanged cfg made reads.second row)

section Digests

variable {cfg : Config} {w w' : World} {row : Row} {agents agents' : List Agent} {d d' : Dict}

theorem state_digest_eq_iff (hinj : Function.Injective cfg.sha256) :
    state_digest cfg d = state_digest cfg d' ↔ d.Eqv d' := by
  constructor
  · intro h
    exact Json.dumps_inj d.wf d'.wf (hinj h)
  · intro h
    have hsorted : d.json.sortKeys = d'.json.sortKeys := h
    rw [state_digest, state_digest, Dict.dumps, Dict.dumps, Json.dumps, Json.dumps, hsorted]

theorem member_of_eqv (h : d.Eqv d') (k : String) :
    (d.get? k).map Json.sortKeys = (d'.get? k).map Json.sortKeys :=
  Json.getMember_of_eqv d.wf d'.wf h k

/-- The candidates are a part of the state. -/
theorem candidates_eqv (h : (with_candidates d agents).Eqv (with_candidates d' agents')) :
    (candidates agents).json.sortKeys = (candidates agents').json.sortKeys := by
  have hmember := member_of_eqv h "official_candidates"
  rw [with_candidates, with_candidates, Dict.get?_set_self, Dict.get?_set_self] at hmember
  exact Option.some.inj hmember

theorem candidates_eq_nil (h : (candidates agents).json.sortKeys = (candidates []).json.sortKeys) :
    agents = [] := by
  cases agents with
  | nil => rfl
  | cons a agents => cases h

/-- So is the revision. -/
theorem revision_eqv {task_id : String} {task task' : TaskRow}
    (h : (with_candidates (redact_dict cfg.letter (task_facts w task_id task)) agents).Eqv
      (with_candidates (redact_dict cfg.letter (task_facts w' task_id task')) agents')) :
    task.revision = task'.revision := by
  have hmember := member_of_eqv h "freshness"
  rw [with_candidates, with_candidates, Dict.get?_set_ne _ _ (by decide), Dict.get?_set_ne _ _ (by decide)]
    at hmember
  rw [get?_redact_dict rfl, get?_redact_dict rfl] at hmember
  have hkey : Regex.found cfg.letter SENSITIVE_KEY_PATTERN "task_revision".toList = false := rfl
  have hfresh : ∀ (w : World) (task : TaskRow), (task_facts w task_id task).get? "freshness" =
      some (.obj [("task_revision", .int task.revision)]) := by
    intro w task
    rw [task_facts, Dict.get?_ofList]
    rfl
  have hsame : ∀ r : Int, redact cfg.letter (.obj [("task_revision", .int r)]) =
      .obj [("task_revision", .int r)] := by
    intro r
    rw [redact, redactMembers, redactMembers, hkey]
    rfl
  rw [hfresh, hfresh] at hmember
  simp only [Option.map_some, hsame] at hmember
  simpa [Json.sortKeys, Json.sortKeysMembers] using hmember

end Digests

section Staleness

variable {cfg : Config} {w w' : World} {catalog : List Agent} {answers : Answers} {advisory_id task_id : String}
  {row : Row} {b : Bool}

theorem choice_mem {allowed : List String} {raw : Value} {c : Choice} (h : choice cfg allowed raw = some c) :
    c.choice ∈ allowed := by
  obtain ⟨d, -, h⟩ := Option.bind_eq_some_iff.mp h
  obtain ⟨name, -, h⟩ := Option.bind_eq_some_iff.mp h
  obtain ⟨_, hmem, h⟩ := Option.bind_eq_some_iff.mp h
  obtain ⟨given, -, h⟩ := Option.bind_eq_some_iff.mp h
  obtain ⟨probabilities, -, h⟩ := Option.bind_eq_some_iff.mp h
  obtain ⟨_, -, h⟩ := Option.bind_eq_some_iff.mp h
  obtain ⟨_, -, h⟩ := Option.bind_eq_some_iff.mp h
  obtain ⟨confidence, -, h⟩ := Option.bind_eq_some_iff.mp h
  obtain ⟨_, -, h⟩ := Option.bind_eq_some_iff.mp h
  obtain rfl := Option.some.inj h
  exact (Option.guard_eq_some' _).mp hmem

/-- An advisory that has been stored. -/
theorem create_cases (h : create_advisory cfg w catalog answers advisory_id task_id = some row) :
    ∃ task, w.tasks task_id = some task ∧ row.task_id = task_id ∧ row.task_revision = task.revision ∧
      row.domain = (findings cfg catalog answers).domain ∧ row.status = (findings cfg catalog answers).status ∧
      row.state_digest = state_digest cfg (with_candidates
        (redact_dict cfg.letter (task_facts w task_id task)) (findings cfg catalog answers).official_candidates) := by
  obtain ⟨s, hs, h⟩ := Option.bind_eq_some_iff.mp h
  obtain ⟨task, htask, rfl⟩ := Option.map_eq_some_iff.mp hs
  obtain rfl := Option.some.inj h
  exact ⟨task, htask, rfl, rfl, rfl, rfl, rfl⟩

/-- What `_stale` compares. -/
theorem stale_cases (h : stale cfg w' row = some b) :
    ∃ task, w'.tasks row.task_id = some task ∧
      view cfg w' row = some (with_candidates (redact_dict cfg.letter (task_facts w' row.task_id task))
        (row.candidates w'.catalog)) ∧
      b = (decide (task.revision ≠ row.task_revision) ||
        decide (state_digest cfg (with_candidates (redact_dict cfg.letter (task_facts w' row.task_id task))
          (row.candidates w'.catalog)) ≠ row.state_digest)) := by
  obtain ⟨s, hs, h⟩ := Option.bind_eq_some_iff.mp h
  have hview := hs
  obtain ⟨task, htask, rfl⟩ := Option.map_eq_some_iff.mp hs
  refine ⟨task, htask, ?_, (Option.some.inj h).symm⟩
  rw [view, hview]
  rfl

theorem candidates_of_choice {c : Choice} (hdomain : answers.domain_choice cfg = some c)
    (hrow : row.domain = some c) : row.candidates catalog = registry_candidates catalog (some c.choice) := by
  have hmem : c.choice ∈ DOMAINS := by
    obtain ⟨raw, -, hchoice⟩ := Option.bind_eq_some_iff.mp hdomain
    exact choice_mem hchoice
  have hne : c.choice ≠ "" := by
    intro hblank
    rw [hblank] at hmem
    exact absurd hmem (by decide)
  have hkept : (some c.choice).filter (· ≠ "") = some c.choice := Option.filter_some_pos (decide_eq_true hne)
  rw [Row.candidates, Row.domain_choice, hrow, Option.map_some, hkept, Option.getD_some]

theorem candidates_of_none (hrow : row.domain = none) :
    row.candidates catalog = registry_candidates catalog none := by
  rw [Row.candidates, Row.domain_choice, hrow]
  rfl

/-- The stored candidates are those that `_stale` looks up, unless no domain has been chosen. -/
theorem findings_candidates (hrow : row.domain = (findings cfg catalog answers).domain) :
    (findings cfg catalog answers).official_candidates =
      if (answers.domain_choice cfg).isSome then row.candidates catalog else [] := by
  rw [findings] at hrow ⊢
  cases hdomain : answers.domain_choice cfg with
  | none => rfl
  | some c =>
    rw [hdomain] at hrow
    simp only at hrow ⊢
    have hsome : row.domain = some c := by
      rw [hrow]
      split <;> rfl
    rw [candidates_of_choice hdomain hsome]
    split <;> rfl

theorem exact_of_listed (hinj : Function.Injective cfg.sha256)
    (h : create_advisory cfg w catalog answers advisory_id task_id = some row)
    (hlisted : (findings cfg catalog answers).official_candidates = row.candidates catalog) :
    Exact cfg { w with catalog := catalog } row := by
  obtain ⟨task, htask, hid, hrevision, -, -, hdigest⟩ := create_cases h
  intro w' b hstale
  obtain ⟨task', htask', hafter, rfl⟩ := stale_cases hstale
  have hbefore : view cfg { w with catalog := catalog } row =
      some (with_candidates (redact_dict cfg.letter (task_facts w task_id task)) (row.candidates catalog)) := by
    rw [view, task_state, hid, htask]
    rfl
  rw [hlisted] at hdigest
  rw [Bool.or_eq_false_iff, decide_eq_false_iff_not, decide_eq_false_iff_not, not_not, not_not, hdigest,
    state_digest_eq_iff hinj, hid, hrevision]
  constructor
  · rintro ⟨-, heqv⟩
    rw [hid] at hafter
    exact ⟨_, _, hbefore, hafter, heqv.symm⟩
  · rintro ⟨before, after, hb, ha, heqv⟩
    rw [hbefore] at hb
    rw [hafter, hid] at ha
    obtain rfl := Option.some.inj hb
    obtain rfl := Option.some.inj ha
    exact ⟨(revision_eqv heqv).symm, heqv.symm⟩

end Staleness

section Accepting

variable {cfg : Config} {w : World} {catalog : List Agent} {answers : Answers} {advisory_id task_id : String}
  {row : Row}

theorem refuse_ok {cond : Bool} {status_code : ℕ} {detail : String} {u : Unit}
    (h : refuse cond status_code detail = .ok u) : cond = false := by
  cases cond with
  | false => rfl
  | true => cases h

theorem existing_ok {α : Type} {detail : String} {o : Option α} {a : α} (h : existing detail o = .ok a) :
    o = some a := by
  cases o with
  | some b => exact congrArg some (Except.ok.inj h)
  | none => cases h

/-- What has been checked when a decision to accept is recorded. -/
theorem decide_accept {body : Body} {decision_id req_hash : String} {reads : Reads} {d : Decision}
    (hrow : reads.row = some row)
    (h : decide_advisory cfg body task_id decision_id req_hash reads = .ok (.recorded d))
    (hd : d.decision = .accept) :
    row.status = .available ∧ stale cfg reads.first row = some false ∧
      stale cfg reads.second row = some d.stale := by
  obtain ⟨decision, -, h⟩ := bind_eq_ok.mp h
  obtain ⟨task, -, h⟩ := bind_eq_ok.mp h
  obtain ⟨actor, -, h⟩ := bind_eq_ok.mp h
  obtain ⟨row', hrow', h⟩ := bind_eq_ok.mp h
  obtain rfl : row = row' := Option.some.inj (hrow.symm.trans (existing_ok hrow'))
  obtain ⟨_, havailable, h⟩ := bind_eq_ok.mp h
  obtain ⟨_, hacceptable, h⟩ := bind_eq_ok.mp h
  obtain ⟨second, hsecond, h⟩ := bind_eq_ok.mp h
  split at h
  · obtain ⟨_, -, h⟩ := bind_eq_ok.mp h
    cases h
  obtain rfl := Outcome.recorded.inj (Except.ok.inj h)
  obtain rfl : decision = .accept := hd
  obtain ⟨first, hfirst, hacceptable⟩ := bind_eq_ok.mp hacceptable
  obtain ⟨_, hfresh, -⟩ := bind_eq_ok.mp hacceptable
  obtain rfl := refuse_ok hfresh
  have hstatus := of_decide_eq_false (refuse_ok havailable)
  rw [not_and, not_not] at hstatus
  exact ⟨hstatus rfl, existing_ok hfirst, existing_ok hsecond⟩

/-- Only an advisory with a domain is available. -/
theorem domain_of_available (h : (findings cfg catalog answers).status = .available) :
    (answers.domain_choice cfg).isSome = true := by
  rw [findings] at h
  cases hdomain : answers.domain_choice cfg with
  | none =>
    rw [hdomain] at h
    cases h
  | some c => rfl

theorem accepted_unchanged (hinj : Function.Injective cfg.sha256)
    (h : create_advisory cfg w catalog answers advisory_id task_id = some row) :
    AcceptedUnchanged cfg { w with catalog := catalog } row := by
  obtain ⟨task, -, -, -, hdomain, hstatus, -⟩ := create_cases h
  intro body task_id' decision_id req_hash reads d hrow hdecide hd
  obtain ⟨havailable, hfirst, hsecond⟩ := decide_accept hrow hdecide hd
  have hlisted : (findings cfg catalog answers).official_candidates = _ := findings_candidates hdomain
  rw [if_pos (domain_of_available (hstatus.symm.trans havailable))] at hlisted
  have hexact := exact_of_listed hinj h hlisted
  exact ⟨(hexact _ _ hfirst).mp rfl, fun hfresh => (hexact _ _ hsecond).mp hfresh⟩

/-- Nothing has changed, and yet the digest is another one. -/
theorem stale_of_unlisted (hinj : Function.Injective cfg.sha256)
    (h : create_advisory cfg w catalog answers advisory_id task_id = some row)
    (hnone : answers.domain_choice cfg = none) (hagents : registry_candidates catalog none ≠ []) :
    stale cfg { w with catalog := catalog } row = some true := by
  obtain ⟨task, htask, hid, -, hdomain, -, hdigest⟩ := create_cases h
  have hlisted : (findings cfg catalog answers).official_candidates = _ := findings_candidates hdomain
  rw [hnone, Option.isSome_none, if_neg Bool.false_ne_true] at hlisted
  have hrow : row.domain = none := by rw [hdomain, findings, hnone]
  obtain ⟨b, hb⟩ : ∃ b, stale cfg { w with catalog := catalog } row = some b := by
    rw [stale, task_state, hid, htask]
    exact ⟨_, rfl⟩
  cases b with
  | true => exact hb
  | false =>
    obtain ⟨task', htask', -, hstale⟩ := stale_cases hb
    rw [hid, htask] at htask'
    obtain rfl := Option.some.inj htask'
    rw [eq_comm, Bool.or_eq_false_iff, decide_eq_false_iff_not, decide_eq_false_iff_not, not_not, not_not,
      hdigest, state_digest_eq_iff hinj, hlisted] at hstale
    have hempty := candidates_eq_nil (candidates_eqv hstale.2)
    exact absurd ((candidates_of_none hrow).symm.trans hempty) hagents

end Accepting

/-! ## An advisory that was never fresh -/

namespace Sample

def config : Config where
  letter _ := false
  float
    | .int n => some n
    | _ => none
  sha256 := String.ofList

def task : TaskRow where
  scope := "qa task"
  status := "draft"
  revision := 1
  document_version := some "v1"
  instruction_body := some "do QA"

def world : World where
  tasks _ := some task
  packets _ := none
  assigned _ := ["ERPqa"]
  catalog := [⟨"ERPqa", true, true, true, ["qa"]⟩]

/-- The client chooses a domain, and then raises. -/
def half_answered : Answers where
  domain := some (.ofDict (Dict.ofList [("choice", .str "qa"), ("probabilities", .ofDict (Dict.ofList
    [("server_operations", .int 0), ("office_admin", .int 0), ("research", .int 0),
      ("erp_implementation", .int 0), ("erp_management", .int 0), ("qa", .int 1), ("media", .int 0),
      ("insufficient_evidence", .int 0)] (by simp)))] (by simp)))
  agent := none

theorem injective_sha256 : Function.Injective config.sha256 := by
  intro a b h
  have hlist := congrArg String.toList h
  rwa [config, String.toList_ofList, String.toList_ofList] at hlist

theorem created (answers : Answers) :
    ∃ row, create_advisory config world world.catalog answers "a1" "t1" = some row := by
  have htask : world.tasks "t1" = some task := rfl
  rw [create_advisory, task_state, htask]
  exact ⟨_, rfl⟩

end Sample

end Advisory

end WarRoom

end Plachem
