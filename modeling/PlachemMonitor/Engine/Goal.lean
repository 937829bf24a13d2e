import Mathlib.Data.List.Dedup
import Mathlib.Data.List.Sort
import PlachemMonitor.Engine.Dispatch

/-!
# Goal checks

`normalize_progress_checkpoint` and the part of `CoreEngine.observe_progress_checkpoint` that looks
at the record: what a checkpoint says, what of it is verified now, and whether it drifts from the
goal contract (`judge`).

The verified progress and the goal state of a record are JSON objects. A part of them that another
type stands in than the one the engine writes there is a `TypeError` here.
-/

namespace Plachem

namespace CoreEngine

/-- What the observations of a run raise. -/
inductive ObserveError where
  /-- `ValueError` -/
  | value (message : String)
  | registry (error : RegistryError)
  | type
  /-- An exception of the adapter that the call does not catch. -/
  | adapter
  /-- The adapter has not answered yet. -/
  | pending
  deriving DecidableEq

/-- `except ValueError`: the errors of the registry are such. -/
def ObserveError.is_value : ObserveError → Bool
  | .value _ | .registry _ => true
  | .type | .adapter | .pending => false

/-! ## Codes -/

/-- A character of `str.upper`, as far as it can be in a code: all other characters that are not
ASCII have an upper case that is not. -/
def upperChar (c : Char) : List Char :=
  match c with
  | 'ß' => ['S', 'S']
  | 'ı' => ['I']
  | 'ſ' => ['S']
  | 'ﬀ' => ['F', 'F']
  | 'ﬁ' => ['F', 'I']
  | 'ﬂ' => ['F', 'L']
  | 'ﬃ' => ['F', 'F', 'I']
  | 'ﬄ' => ['F', 'F', 'L']
  | 'ﬅ' => ['S', 'T']
  | 'ﬆ' => ['S', 'T']
  | c => [c.toUpper]

def codeStart (c : Char) : Bool := c.isUpper || c.isDigit

def codeChar (c : Char) : Bool := codeStart c || c ∈ ['_', '.', ':', '/', '-']

/-- `_SAFE_CODE.fullmatch` -/
def safe_code : List Char → Bool
  | [] => false
  | c :: cs => codeStart c && decide (cs.length ≤ 255) && cs.all codeChar

/-- `_normalized_code` -/
def normalized_code (value : Json) (field : String) : Except String String :=
  match value with
  | .str s =>
    let normalized := ((Text.strip s).toList.flatMap upperChar).map fun c =>
      if c = ' ' then '_' else c
    if safe_code normalized then .ok (String.ofList normalized)
    else .error ("INVALID_GOAL_CONTRACT:" ++ field)
  | _ => .error ("INVALID_GOAL_CONTRACT:" ++ field)

/-- `_normalized_code_list` -/
def normalized_code_list (value : Json) (field : String) : Except String (List String) :=
  match value with
  | .arr (x :: xs) => ((x :: xs).mapM fun item => normalized_code item field).map List.eraseDups
  | _ => .error ("INVALID_GOAL_CONTRACT:" ++ field)

/-! ## Checkpoints -/

/-- What `normalize_progress_checkpoint` returns. -/
structure Checkpoint where
  goal_id : String
  current_step : String
  completed_conditions : List String
  remaining_conditions : List String
  blocking_reason : String
  artifact_delta : List String
  scope_delta : List String
  evidence_delta : List String
  deriving DecidableEq

def Checkpoint.toDict (c : Checkpoint) : Dict :=
  Dict.ofList [
    ("goal_id", .str c.goal_id),
    ("current_step", .str c.current_step),
    ("completed_conditions", .strs c.completed_conditions),
    ("remaining_conditions", .strs c.remaining_conditions),
    ("blocking_reason", .str c.blocking_reason),
    ("artifact_delta", .strs c.artifact_delta),
    ("scope_delta", .strs c.scope_delta),
    ("evidence_delta", .strs c.evidence_delta)] (by simp)

def checkpoint_fields : List String :=
  ["goal_id", "current_step", "completed_conditions", "remaining_conditions", "blocking_reason",
    "artifact_delta", "scope_delta", "evidence_delta"]

/-- `_normalized_code_list(value[field], field) if value.get(field) else ()` -/
def code_list_of (value : Dict) (field : String) : Except String (List String) :=
  match value.get? field with
  | some v => if v.truthy then normalized_code_list v field else .ok []
  | none => .ok []

/-- The goal that the checkpoint names. -/
def checkpoint_goal_id (value : Dict) : Except String String :=
  match value.get? "goal_id" with
  | some (.str goal_id) =>
    if goal_id = "" then .error "INVALID_PROGRESS_CHECKPOINT:goal_id" else .ok goal_id
  | _ => .error "INVALID_PROGRESS_CHECKPOINT:goal_id"

/-- `if not set(codes).issubset(contract.completion_conditions): raise ValueError(message)` -/
def known_conditions (contract : GoalContract) (codes : List String) (message : String) :
    Except String Unit :=
  if ∃ c ∈ codes, c ∉ contract.completion_conditions then .error message else .ok ()

def normalize_progress_checkpoint (value : Dict) (contract : GoalContract) :
    Except String Checkpoint :=
  if ∃ m ∈ value.members, m.1 ∉ checkpoint_fields then .error "INVALID_PROGRESS_CHECKPOINT:FIELDS"
  else do
    let goal_id ← checkpoint_goal_id value
    let completed ← code_list_of value "completed_conditions"
    let remaining ← code_list_of value "remaining_conditions"
    let artifacts ← code_list_of value "artifact_delta"
    let scopes ← code_list_of value "scope_delta"
    let evidence ← code_list_of value "evidence_delta"
    known_conditions contract completed "UNVERIFIED_COMPLETION_CONDITION"
    known_conditions contract remaining "UNVERIFIED_REMAINING_CONDITION"
    let current_step ←
      normalized_code ((value.get? "current_step").getD (.str "UNSPECIFIED")) "current_step"
    let blocking_reason ←
      normalized_code ((value.get? "blocking_reason").getD (.str "NONE")) "blocking_reason"
    pure ⟨goal_id, current_step, completed, remaining, blocking_reason, artifacts, scopes, evidence⟩

/-! ## The judgement of a checkpoint -/

/-- The texts of a list in a JSON object; an absent one is empty. -/
def texts_of : Option Json → Except ObserveError (List String)
  | none => .ok []
  | some (.arr xs) => xs.mapM fun x =>
      match x with
      | .str s => .ok s
      | _ => .error .type
  | some _ => .error .type

/-- `int(value)`; an absent one is 0. -/
def int_of : Option Json → Except ObserveError Int
  | none => .ok 0
  | some (.int n) => .ok n
  | some (.bool b) => .ok (if b then 1 else 0)
  | some _ => .error .type

/-- `sorted(set(previous) | set(new))` -/
def merged (previous new : List String) : List String :=
  (previous ++ new).dedup.insertionSort (· ≤ ·)

/-- `(record.get("policy_state") or {}).get("goal") or {}` -/
def goal_state_of (record : RunRecord) : Except ObserveError Dict :=
  match record.policy_state.value? "goal" with
  | none => .ok Dict.empty
  | some v =>
    match v.dict? with
    | some goal => .ok goal
    | none => if v.json.truthy then .error .type else .ok Dict.empty

/-- The fields of a goal contract that name no goal, as `normalize_goal_contract` takes them. -/
def goal_input (g : GoalContract) : Dict :=
  Dict.ofList [
    ("primary_objective", .str g.primary_objective),
    ("allowed_scope", .strs g.allowed_scope),
    ("forbidden_scope", .strs g.forbidden_scope),
    ("expected_result", .str g.expected_result),
    ("completion_conditions", .strs g.completion_conditions)] (by simp)

/-- What a checkpoint comes to: the verified progress with it, the goal state, and the event that it
is. -/
structure Judgement where
  normalized : Checkpoint
  verified : Dict
  goal_state : Dict
  event_code : Option String
  deriving DecidableEq

/-- A scope of the checkpoint is outside the contract. -/
def expands (contract : GoalContract) (scope_delta : List String) : Bool :=
  scope_delta.any fun item => decide (item ∈ contract.forbidden_scope ∨ item ∉ contract.allowed_scope)

/-- The progress that is verified with the checkpoint. -/
def verified_with (previous : Dict) (normalized : Checkpoint) : Except ObserveError Dict := do
  let completed ← texts_of (previous.get? "completed_conditions")
  let artifacts ← texts_of (previous.get? "artifacts")
  let evidence ← texts_of (previous.get? "evidence")
  let scope ← texts_of (previous.get? "scope")
  pure (Dict.ofList [
    ("completed_conditions", .strs (merged completed normalized.completed_conditions)),
    ("artifacts", .strs (merged artifacts normalized.artifact_delta)),
    ("evidence", .strs (merged evidence normalized.evidence_delta)),
    ("scope", .strs (merged scope normalized.scope_delta))] (by simp))

/-- The digest of what the checkpoint says. -/
def signature (H : Hashlib) (normalized : Checkpoint) (verified : Dict) : String :=
  H.sha256 (String.ofList ((Dict.ofList [
    ("current_step", .str normalized.current_step),
    ("blocking_reason", .str normalized.blocking_reason),
    ("remaining_conditions", .strs normalized.remaining_conditions),
    ("verified", .ofDict verified)] (by simp)).dumps true))

variable {ρ : Type} (engine : Engine ρ)

/-- The part of `observe_progress_checkpoint` between the record and its update. -/
def judge (record : RunRecord) (checkpoint : Dict) : Except ObserveError Judgement := do
  let contract ← (engine.normalize_goal_contract (some (goal_input record.goal_contract))).mapError
    ObserveError.value
  let normalized ← (normalize_progress_checkpoint checkpoint contract).mapError ObserveError.value
  let goal_state ← goal_state_of record
  let verified ← verified_with record.verified_progress normalized
  if normalized.goal_id ≠ contract.goal_id then
    pure ⟨normalized, verified, goal_state, some "OBJECTIVE_REPLACEMENT"⟩
  else if expands contract normalized.scope_delta then
    pure ⟨normalized, verified, goal_state, some "SCOPE_EXPANSION"⟩
  else
    let signature := signature engine.H normalized verified
    let event_code :=
      if Dict.Eqv verified record.verified_progress ∧
          goal_state.get? "last_checkpoint_signature" = some (.str signature) then
        some "NO_PROGRESS"
      else none
    pure ⟨normalized, verified, goal_state.set "last_checkpoint_signature" (.str signature),
      event_code⟩

end CoreEngine

end Plachem
