import PlachemMonitor.Registry.Mutation
import PlachemMonitor.WarRoom.Outcome

/-!
# The result of a run

The end of `OpenClawAdapter.wait`: what the adapter makes of the messages of a run that is over.
`CompositeResultValidator` looks for an object in them and checks it; if there is none, or it is no
result, `recover_production_result_format` may make one of the text.

The messages are JSON values. `str` of a value that is no string, `str.lower`, the status that the
words of a text tell, `Path.exists` and the checks of the evidence and of the scope are given.
-/

namespace Plachem

namespace OpenClawAdapter

open WarRoom (isPart)

/-- A check of `CompositeResultValidator`: it may raise, or give a reason. -/
abbrev ValidationCheck := Dict → Dict → Except Unit (Option String)

/-- The adapter, with what it uses of other modules. -/
structure Collector where
  /-- `str(v)`, for a value that is no string -/
  repr : Json → String
  /-- `str.lower` -/
  lower : String → String
  /-- `blocked`, `failed` or `completed`, by the words of the text -/
  status_words : String → String
  /-- `Path(path).expanduser().exists()`, unless it raises -/
  path_exists : String → Except Unit Bool
  evidence : ValidationCheck
  scope : ValidationCheck
  result_recovery_agent_ids : List String

structure ValidationDecision where
  status : CoreRunStatus
  reason : String
  result : Option Dict
  deriving DecidableEq

/-! ## The messages -/

/-- `str(v)` -/
def Collector.str (a : Collector) : Json → String
  | .str s => s
  | v => a.repr v

/-- `str(v or default)` -/
def Collector.str_or (a : Collector) (v : Option Json) (default : String) : String :=
  match v with
  | some v => if v.truthy then a.str v else default
  | none => default

/-- An item of a content, as text: strings, and what an object has as its text. -/
def Collector.shown (a : Collector) : Json → Option String
  | .str s => some s
  | .obj ms => some (a.str_or (Json.getMember ms "text") "")
  | _ => none

/-- An item of a content, if it has a text that is a string. -/
def block_text : Json → Option String
  | .str s => some s
  | .obj ms =>
    match Json.getMember ms "text" with
    | some (.str s) => some s
    | _ => none
  | _ => none

/-- The messages of `payload["history"]`, the last one first. -/
def messages_reversed (payload : Dict) : List Dict :=
  match ((payload.value? "history").bind Value.dict?).bind fun h => (h.value? "messages").bind Value.list? with
  | some messages => (messages.filterMap Value.dict?).reverse
  | none => []

def by_assistant (message : Dict) : Bool := message.get? "role" == some (.str "assistant")

/-- What the assistant has said, the last message first. -/
def contents (payload : Dict) : List Value :=
  ((messages_reversed payload).filter by_assistant).filterMap fun m => m.value? "content"

/-- `json.loads(text)`, if that is an object. -/
def loads_object (text : String) : Option Dict := (loadsValue text.toList).bind Value.dict?

def is_blank (s : String) : Bool := Text.strip s == ""

/-- A content as text. -/
def Collector.shown_text (a : Collector) (content : Value) : Option String :=
  match content.json with
  | .str s => some s
  | .arr items => some (String.join (items.filterMap a.shown))
  | _ => none

/-- The content, if it is an object or the text of one. -/
def Collector.content_object (a : Collector) (content : Value) : Option Dict :=
  match content.dict? with
  | some d => some d
  | none => (a.shown_text content).bind loads_object

/-- `_extract_result` -/
def Collector.extract_result (a : Collector) (payload : Dict) : Option Dict :=
  match (payload.value? "result").bind Value.dict? with
  | some result => some result
  | none => (contents payload).findSome? a.content_object

/-- The exact text of a content. -/
def content_text (content : Value) : Option String :=
  match content.json with
  | .str s => some s
  | .arr items => some (String.join (items.filterMap block_text))
  | _ => none

/-- `_terminal_assistant_text` -/
def terminal_assistant_text (payload : Dict) : Option String :=
  (contents payload).findSome? fun c => (content_text c).filter fun s => !is_blank s

/-! ## The validator -/

/-- The path of an artifact. -/
def artifact_path : Json → Option String
  | .obj ms =>
    match Json.getMember ms "path" with
    | some (.str p) => some p
    | _ => none
  | _ => none

def statuses : List (Option Json) := [some (.str "completed"), some (.str "blocked"), some (.str "failed")]

/-- `status not in {"completed", "blocked", "failed"}`; a list or an object cannot be looked up. -/
def unknown_status : Option Json → Except Unit Bool
  | some (.arr _) | some (.obj _) => .error ()
  | status => .ok (decide (status ∉ statuses))

/-- `schema` of the production validator. -/
def schema : ValidationCheck := fun result _ => do
  if ["status", "summary", "evidence", "artifacts", "scope"].any fun k => (result.get? k).isNone then
    return some "MISSING_REQUIRED_FIELD"
  if ← unknown_status (result.get? "status") then return some "INVALID_STATUS"
  match result.get? "summary" with
  | some (.str s) => return if is_blank s then some "INVALID_SUMMARY" else none
  | _ => return some "INVALID_SUMMARY"

/-- The loop of `artifacts`. -/
def Collector.artifact_items (a : Collector) : List Json → Except Unit (Option String)
  | [] => .ok none
  | item :: items =>
    match artifact_path item with
    | none => .ok (some "INVALID_ARTIFACT")
    | some path => do
      if ← a.path_exists path then a.artifact_items items else return some "ARTIFACT_NOT_FOUND"

/-- `artifacts` of the production validator. -/
def Collector.artifacts (a : Collector) : ValidationCheck := fun result _ =>
  match result.get? "artifacts" with
  | some (.arr items) => a.artifact_items items
  | _ => .ok (some "INVALID_ARTIFACTS")

/-- What a check that does not pass says, and whether the result is kept. -/
def rejection (name : String) : Except Unit (Option String) → Option (String × Bool)
  | .error () => some (name ++ "_VALIDATION_ERROR", false)
  | .ok reason => (reason.filter (· ≠ "")).map fun r => (name ++ "_VALIDATION_FAILED:" ++ r, true)

def Collector.checks (a : Collector) : List (String × ValidationCheck) :=
  [("RESULT_SCHEMA", schema), ("EVIDENCE", a.evidence), ("ARTIFACT", a.artifacts), ("SCOPE", a.scope)]

/-- `CompositeResultValidator.__call__` -/
def Collector.validate (a : Collector) (payload : Dict) : ValidationDecision :=
  match a.extract_result payload with
  | none => ⟨.FAIL, "MISSING_RESULT", none⟩
  | some result =>
    match a.checks.findSome? fun c => rejection c.1 (c.2 result payload) with
    | some (reason, kept) => ⟨.FAIL, reason, if kept then some result else none⟩
    | none =>
      let worker_status := a.lower (a.str_or (result.get? "status") "")
      if worker_status = "completed" then ⟨.PASS, "", some result⟩
      else if worker_status = "blocked" then
        ⟨.BLOCKED, a.str_or (result.get? "reason") "WORKER_BLOCKED", some result⟩
      else ⟨.FAIL, a.str_or (result.get? "reason") "WORKER_FAILED", some result⟩

/-! ## The recovery -/

/-- The scanner of `_close_result_containers`. -/
structure Containers where
  stack : List Char
  quoted : Bool
  escaped : Bool

def Containers.read (s : Containers) (ch : Char) : Option Containers :=
  if s.quoted then
    if s.escaped then some { s with escaped := false }
    else if ch = '\\' then some { s with escaped := true }
    else some { s with quoted := ch != '"' }
  else if ch = '"' then some { s with quoted := true }
  else if ch = '{' then some { s with stack := '}' :: s.stack }
  else if ch = '[' then some { s with stack := ']' :: s.stack }
  else if ch = '}' ∨ ch = ']' then
    match s.stack with
    | top :: stack => if top = ch then some { s with stack := stack } else none
    | [] => none
  else some s

/-- `_close_result_containers` -/
def close_result_containers (text : List Char) : Option Value := do
  let s ← text.foldlM Containers.read ⟨[], false, false⟩
  guard (s.quoted = false ∧ s.stack ≠ [])
  let value ← loadsValue (text ++ s.stack)
  guard value.dict?.isSome
  pure value

/-- `assistant_text` -/
def Collector.assistant_text (a : Collector) (payload : Dict) : Option String :=
  let said := (contents payload).findSome? fun c =>
    ((a.shown_text c).map Text.strip).filter (· ≠ "")
  match payload.get? "result" with
  | some (.str direct) => if is_blank direct then said else some (Text.strip direct)
  | _ => said

/-- `json` in any case: `re.IGNORECASE` also takes the long s for an s. -/
def json_label : List Char → List Char
  | j :: s :: o :: n :: rest =>
    if j ∈ ['j', 'J'] ∧ s ∈ ['s', 'S', 'ſ'] ∧ o ∈ ['o', 'O'] ∧ n ∈ ['n', 'N'] then rest
    else j :: s :: o :: n :: rest
  | text => text

/-- What is between the fences of a text without spaces around, if it is fenced. -/
def fenced (raw : List Char) : Option (List Char) := do
  guard (raw.take 3 = ['`', '`', '`'])
  let body := json_label (raw.drop 3)
  guard (3 ≤ body.length ∧ body.drop (body.length - 3) = ['`', '`', '`'])
  pure (body.take (body.length - 3))

/-- `json.JSONDecoder().raw_decode(text)`, without the end -/
def raw_decode (text : List Char) : Option Value :=
  match h : Json.scanOnce (2 * text.length + 2) text with
  | some (v, _) => some ⟨v, Json.wf_scanOnce _ _ _ _ h⟩
  | none => none

/-- The first value that is decoded of a text, and `_close_result_containers` if there is none. -/
def decode_text (json_text : List Char) : Option Value :=
  match loadsValue json_text with
  | some value => some value
  | none =>
    let start := json_text.dropWhile (· ≠ '{')
    if start = [] then none
    else
      match raw_decode start with
      | some value => some value
      | none => close_result_containers start

/-- What the worker has sent instead of a result, if it is an object. -/
def candidate (raw : String) : Option Dict :=
  let json_text := match fenced raw.toList with
    | some body => (Text.strip (String.ofList body)).toList
    | none => raw.toList
  (decode_text json_text).bind Value.dict?

/-- The status is put in order, or inferred of the words. -/
def Collector.normalize_status (a : Collector) (raw : Option String) (d : Dict) : Except Unit Dict := do
  let d := match d.get? "status" with
    | some (.str s) => d.set "status" (.str (a.lower (Text.strip s)))
    | _ => d
  let field k := match d.get? k with
    | some v => a.str v
    | none => ""
  if ← unknown_status (d.get? "status") then
    return d.set "status" (.str (a.status_words (field "status" ++ " " ++ field "summary" ++ " " ++ raw.getD "")))
  return d

def normalize_summary (raw : Option String) (d : Dict) : Dict :=
  let missing := d.set "summary" (.str (raw.getD "Agent returned an incomplete Result envelope."))
  match d.get? "summary" with
  | some (.str s) => if is_blank s then missing else d
  | _ => missing

def normalize_evidence (d : Dict) : Dict :=
  if (d.get? "evidence").isSome then d
  else d.set "evidence" (.list [.ofDict (.ofList [("type", .str "runtime_observation"),
    ("detail", .str "Agent terminal response observed by execution harness")] (by simp))])

/-- The objects of the evidence. -/
def evidence_objects (d : Dict) : List Dict :=
  match (d.value? "evidence").bind Value.list? with
  | some items => items.filterMap Value.dict?
  | none => []

/-- Artifacts that are attached to the evidence come to their place. -/
def normalize_artifacts (d : Dict) : Dict :=
  if d.get? "artifacts" = none ∨ d.get? "artifacts" = some (.arr []) then
    d.set "artifacts" (.list ((evidence_objects d).flatMap fun item =>
      ((item.value? "artifacts").bind Value.list?).getD []))
  else d

/-- A scope that is not known to be compliant. -/
def doubtful (scope : Value) : Bool :=
  match scope.dict? with
  | none => true
  | some d => d.get? "compliant" != some (.bool true) || (d.get? "violations").any Json.truthy

def normalize_scope (d : Dict) : Dict :=
  if (d.get? "scope").isSome then d
  else
    let nested := (evidence_objects d).filterMap fun item => item.value? "scope"
    d.set "scope" ((nested.find? doubtful).getD (nested.head?.getD
      (.ofDict (.ofList [("compliant", .bool true), ("violations", .list [])] (by simp)))))

/-- A text that was meant to be a result makes no other one. -/
def malformed (raw : String) : Bool :=
  ["\x7b", "[", "```"].any (fun p => p.toList.isPrefixOf raw.toList) || isPart "\"status\"" raw

/-- What is normalized: an object that is there, or an empty one. -/
def Collector.recovery_candidate (a : Collector) (payload : Dict) : Option Dict :=
  match (payload.value? "result").bind Value.dict? with
  | some direct => some direct
  | none =>
    match a.assistant_text payload with
    | none => none
    | some raw => (candidate raw).or (if malformed raw then none else some .empty)

/-- `recover_production_result_format` -/
def Collector.recover_production_result_format (a : Collector) (payload observed_run : Dict) :
    Except Unit (Option Dict) :=
  match a.recovery_candidate payload with
  | none => .ok none
  | some d => do
    let raw := a.assistant_text payload
    let d ← a.normalize_status raw d
    let normalized := normalize_scope (normalize_artifacts (normalize_evidence (normalize_summary raw d)))
    return some ((payload.set "result" (.ofDict normalized)).set "observed_run" (.ofDict observed_run))

/-! ## The outcome -/

def has_suffix (suffix text : String) : Bool := suffix.toList.isSuffixOf text.toList

/-- The result itself was refused. -/
def validation_rejected (reason : String) : Bool :=
  reason == "MISSING_RESULT" || isPart "_VALIDATION_FAILED:" reason || has_suffix "_VALIDATION_ERROR" reason

/-- The recovery is asked. -/
def Collector.recovers (a : Collector) (agent_id : String) (decision : ValidationDecision) : Bool :=
  decide (agent_id ∈ a.result_recovery_agent_ids) && (decision.reason == "MISSING_RESULT" ||
    "RESULT_SCHEMA_VALIDATION_FAILED:".toList.isPrefixOf decision.reason.toList)

/-- The decision on the recovered result, the rejected result and `recovery_rejection`. -/
def Collector.recovered (a : Collector) (payload observed_run : Dict) (decision : ValidationDecision) :
    ValidationDecision × Option Dict × String :=
  match a.recover_production_result_format payload observed_run with
  | .error () => (decision, decision.result, "RECOVERY_ERROR")
  | .ok none => (decision, decision.result, "RECOVERY_UNAVAILABLE")
  | .ok (some recovered_payload) =>
    let again := a.validate recovered_payload
    let rejected := again.result.or decision.result
    if again.result.isSome ∧ isPart "_VALIDATION_FAILED:" again.reason = false ∧
        has_suffix "_VALIDATION_ERROR" again.reason = false then (again, rejected, "")
    else (decision, rejected,
      if again.reason = "" then "RECOVERY_VALIDATION_FAILED" else again.reason)

/-- The outcome of a run of `agent_id` that `agent.wait` has answered with `ok`. -/
def Collector.collect (a : Collector) (agent_id : String) (payload observed_run : Dict) : AdapterOutcome :=
  let original := a.validate payload
  let asked := a.recovers agent_id original
  let (decision, rejected, recovery_rejection) :=
    if asked then a.recovered payload observed_run original else (original, original.result, "")
  let refused := validation_rejected decision.reason
  { status := decision.status
    reason := decision.reason
    result := if refused then none else decision.result
    format_error := if asked then "RESULT_FORMAT_ERROR" else ""
    format_recovery_attempts := if asked then 1 else 0
    format_recovery_rejection := recovery_rejection
    raw_response := terminal_assistant_text payload
    rejected_result := if refused then rejected else none }

end OpenClawAdapter

end Plachem
