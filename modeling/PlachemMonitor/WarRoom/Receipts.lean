import PlachemMonitor.Json.Indent
import PlachemMonitor.WarRoom.Review

/-!
# The evidence of a review

What a review rests on besides the tables: the contract of the task, the files, the two columns of
`war_evidence` that only the contract reads, and the summaries of session integrity. The functions
here give what the endpoints ask the outside for: the rows that a new cycle materializes, and whether
a `PASS` is covered by them.

A receipt is the text of the responses to the current revision, in a file under its digest
(`capture_receipt`), and holds of the revision and cycle whose text it is (`verify_receipt`).
-/

namespace Plachem

namespace WarRoom

/-! ## Contracts -/

/-- An entry of `required_evidence`, normalized. -/
structure Required where
  id : String
  evidence_type : String
  source_command : String
  expected_contains : String
  legacy : Bool
  deriving DecidableEq

/-- An entry that is a text. -/
def legacy_item (id : String) : Required := ⟨id, "", "", "", true⟩

def RECEIPT_SOURCE : String := "war-room:current-run-response"

/-- What `profile_grounding` asks for. -/
def receipt_item : Required := ⟨"execution_receipt", "execution_receipt", RECEIPT_SOURCE, "", false⟩

/-- The contract of a task, from its packet. -/
structure Contract where
  required : List Required
  nonempty : required ≠ []
  unique : (required.map Required.id).Nodup
  named : ∀ item ∈ required, item.id ≠ ""
  profiled : Bool
  /-- `profile_grounding` asks for the receipt alone. -/
  receipt : profiled = true → required = [receipt_item]
  session_integrity_required : Bool
  /-- `path_within_approved_roots`, for the approved paths of the packet. -/
  within : String → Bool

namespace Contract

variable (c : Contract)

def required_ids : List String := c.required.map Required.id

/-- All entries are texts. -/
def legacy : Bool := c.required.all Required.legacy

/-- The contract is that of the task: without a packet it asks for a test and an artifact. -/
def Governs (db : DB) (task_id : String) : Prop :=
  match db.packets.find task_id with
  | some p => p.required = some c.required_ids ∧ p.profiled = c.profiled ∧
    p.session_integrity_required = c.session_integrity_required
  | none => c.required = [legacy_item "test", legacy_item "artifact"] ∧ c.profiled = false ∧
    c.session_integrity_required = false

end Contract

/-! ## Rows and files -/

/-- `war_evidence`, with the columns that a contract compares. -/
structure EvidenceRow extends Evidence where
  source_command : Option String
  expected_contains : Option String
  created_at : Int
  deriving DecidableEq

/-- `war_session_integrity` -/
structure SessionIntegrity where
  evidence_id : String
  task_id : String
  scope : String
  pre_count : Int
  post_count : Int
  changed_count : Int
  deleted_count : Int
  uncertain_count : Int
  mtime_encoding : String
  verified_at : Int
  deriving DecidableEq

/-- Files are compared byte by byte. -/
instance instDecidableEqBytes : DecidableEq ByteArray := fun a b =>
  decidable_of_iff (a.data = b.data) ⟨ByteArray.ext, congrArg _⟩

/-- The file system: the bytes of the files that can be read, and the paths that are links. -/
structure Files where
  read : String → Option ByteArray
  is_symlink : String → Bool

/-- `path.open("xb")` and a write. -/
def Files.write (files : Files) (path : String) (data : ByteArray) : Files :=
  { files with read := fun p => if p = path then some data else files.read p }

/-- The host of the War Room. -/
structure Host where
  /-- `hashlib.sha256(data).hexdigest()` -/
  sha256 : ByteArray → String
  sha256_ne : ∀ data, sha256 data ≠ ""
  /-- `_receipt_root`; a database without a file has none. -/
  receipt_root : Option String
  /-- The evidence that `_structured_result` or `_fast_gateway_result` finds in a response. -/
  cited : String → List String

/-- The rows of a task in the order of a query. -/
def ordered (rows : List EvidenceRow) : List EvidenceRow :=
  rows.mergeSort fun a b => decide (a.created_at < b.created_at) ||
    a.created_at == b.created_at && decide (a.id ≤ b.id)

/-! ## Receipts -/

/-- The responses of the executors to the current revision. -/
def executor_deliveries (db : DB) (task : Task) : List Delivery :=
  (db.deliveries.rows.filter fun d => some d.message_id == task.source_message_id &&
    d.task_revision == task.revision && d.status == .responded &&
    decide (d.agent_id ∈ db.agents task.id)).mergeSort fun a b => decide (a.agent_id ≤ b.agent_id)

/-- An entry of `responses`. -/
structure Response where
  agent_id : String
  run_id : Option String
  response_message_id : String
  body : String
  deriving DecidableEq

/-- `JOIN war_messages m ON m.id=d.response_message_id` -/
def responses (db : DB) (task : Task) : List Response :=
  (executor_deliveries db task).filterMap fun d => do
    let message ← (← d.response_message_id |>.map db.messages.find)
    pure ⟨d.agent_id, d.run_id, message.id, message.body⟩

structure ReceiptPayload where
  task_id : String
  task_revision : Nat
  qa_cycle : Nat
  scope_hash : String
  document_version : Option String
  responses : List Response
  deriving DecidableEq

/-- `_receipt_payload` -/
def receipt_payload (cfg : Config) (db : DB) (task : Task) : Option ReceiptPayload :=
  let rows := responses db task
  if rows = [] ∨ rows.any fun r => r.run_id.getD "" == "" then none
  else some ⟨task.id, task.revision, task.qa_cycle, cfg.sha256 task.scope, task.document_version, rows⟩

def optional : Option String → Json
  | some s => .str s
  | none => .null

def Response.json (r : Response) : Json :=
  .obj [("agent_id", .str r.agent_id), ("body", .str r.body),
    ("response_message_id", .str r.response_message_id), ("run_id", optional r.run_id)]

/-- The members in the order of their names. -/
def ReceiptPayload.json (p : ReceiptPayload) : Json :=
  .obj [("document_version", optional p.document_version),
    ("proves", .str "Current-run response delivery; task correctness requires independent QA."),
    ("qa_cycle", .int p.qa_cycle), ("responses", .arr (p.responses.map Response.json)),
    ("schema", .str "war-room-response-receipt/v1"), ("scope_hash", .str p.scope_hash),
    ("task_id", .str p.task_id), ("task_revision", .int p.task_revision)]

/-- `_serialized` -/
def ReceiptPayload.serialized (p : ReceiptPayload) : ByteArray :=
  (String.ofList (Json.indented 0 p.json)).toUTF8

/-- `payload["responses"][0]["run_id"]` -/
def ReceiptPayload.run_id (p : ReceiptPayload) : Option String :=
  p.responses.head?.bind Response.run_id

/-- `directory / (digest + ".json")` -/
def receipt_path (root digest : String) : String := root ++ "/" ++ digest ++ ".json"

/-- A row of the revision and cycle of the task. -/
def EvidenceRow.in_cycle (task : Task) (e : EvidenceRow) : Bool :=
  e.task_id == task.id && e.task_revision == task.revision && e.qa_cycle == task.qa_cycle

/-- The row of a receipt. -/
def receipt_row (host : Host) (root id : String) (task : Task) (p : ReceiptPayload) (now : Int) :
    EvidenceRow where
  id := id
  task_id := task.id
  evidence_type := "execution_receipt"
  uri := receipt_path root (host.sha256 p.serialized)
  sha256 := some (host.sha256 p.serialized)
  task_revision := task.revision
  scope_hash := p.scope_hash
  document_version := task.document_version
  qa_cycle := task.qa_cycle
  run_id := p.run_id
  immutable := true
  contract_evidence_id := some "execution_receipt"
  source_command := some RECEIPT_SOURCE
  expected_contains := some ""
  created_at := now

/-- `capture_receipt`: the row that it inserts, and the files with the receipt. -/
def capture_receipt (cfg : Config) (host : Host) (db : DB) (evidence : List EvidenceRow)
    (files : Files) (fresh : String → String) (now : Int) (task : Task) :
    Except HttpError (List EvidenceRow × Files) :=
  if evidence.any fun e => e.in_cycle task && e.contract_evidence_id == some "execution_receipt" then
    .ok ([], files)
  else do
    let payload ← found (receipt_payload cfg db task) 409 "CURRENT_RUN_RECEIPT_UNAVAILABLE"
    let root ← found host.receipt_root 409 "RECEIPT_STORE_REQUIRES_FILE_DATABASE"
    ensure (¬files.is_symlink root) 409 "UNSAFE_RECEIPT_STORE"
    let data := payload.serialized
    let path := receipt_path root (host.sha256 data)
    ensure (¬files.is_symlink path ∧ ((files.read path).isNone ∨ files.read path = some data)) 409
      "RECEIPT_CONTENT_CONFLICT"
    pure ([receipt_row host root (fresh "execution_receipt") task payload now], files.write path data)

/-- `verify_receipt` -/
def verify_receipt (cfg : Config) (host : Host) (db : DB) (files : Files) (task : Task)
    (row : EvidenceRow) : Option String :=
  match receipt_payload cfg db task, host.receipt_root with
  | some payload, some root =>
    let expected := payload.serialized
    let digest := host.sha256 expected
    let path := receipt_path root digest
    if row.source_command = some RECEIPT_SOURCE ∧ row.sha256 = some digest ∧
        row.evidence_type = "execution_receipt" ∧ row.run_id = payload.run_id ∧ row.uri = path ∧
        row.immutable ∧ ¬files.is_symlink path ∧ ¬files.is_symlink root ∧
        files.read path = some expected then none
    else some "EVIDENCE_UNVERIFIED"
  | _, _ => some "EVIDENCE_UNVERIFIED"

/-! ## Evidence of the workers -/

/-- What `read_text` makes of the ends of lines. -/
def universal_newlines : List Char → List Char
  | [] => []
  | '\r' :: '\n' :: cs => '\n' :: universal_newlines cs
  | '\r' :: cs => '\n' :: universal_newlines cs
  | c :: cs => c :: universal_newlines cs

/-- The files that the executors cite, with their runs. -/
def candidates (host : Host) (db : DB) (files : Files) (task : Task) :
    List (String × Option String) :=
  (executor_deliveries db task).flatMap fun d =>
    let body := ((d.response_message_id.bind db.messages.find).map Message.body).getD ""
    ((host.cited body).filter fun uri => uri.startsWith "/" && (files.read uri).isSome).map
      fun uri => (uri, d.run_id)

/-- The file that stands for an entry. -/
def chosen (c : Contract) (files : Files) (cands : List (String × Option String))
    (item : Required) : Option (String × Option String) :=
  cands.find? fun cand => c.within cand.1 &&
    (c.legacy || item.expected_contains == "" ||
      ((files.read cand.1).bind String.fromUTF8?).any fun content =>
        isPart item.expected_contains (String.ofList (universal_newlines content.toList)))

/-- The row of a file that a worker cites. -/
def captured_row (cfg : Config) (host : Host) (c : Contract) (files : Files) (id : String) (now : Int)
    (task : Task) (item : Required) (cand : String × Option String) : EvidenceRow where
  id := id
  task_id := task.id
  evidence_type := if c.legacy then item.id else item.evidence_type
  uri := cand.1
  sha256 := if c.legacy then none else (files.read cand.1).map host.sha256
  task_revision := task.revision
  scope_hash := cfg.sha256 task.scope
  document_version := task.document_version
  qa_cycle := task.qa_cycle
  run_id := if c.legacy then none else cand.2
  immutable := !c.legacy
  contract_evidence_id := if c.legacy then none else some item.id
  source_command := if c.legacy then none else some item.source_command
  expected_contains := if c.legacy then none else some item.expected_contains
  created_at := now

/-- `COALESCE(contract_evidence_id,id)=?` -/
def EvidenceRow.names (id : String) (e : EvidenceRow) : Bool :=
  e.contract_evidence_id.getD e.id == id

/-- `_capture_required_evidence`, of a task that is in QA: the rows that it inserts. -/
def materialized (cfg : Config) (host : Host) (c : Contract) (db : DB) (evidence : List EvidenceRow)
    (files : Files) (fresh : String → String) (now : Int) (task : Task) :
    Except HttpError (List EvidenceRow × Files) :=
  if (db.packets.find task.id).isNone then .ok ([], files)
  else if c.profiled then capture_receipt cfg host db evidence files fresh now task
  else
    let cands := candidates host db files task
    .ok (c.required.filterMap fun item =>
      if !c.legacy && evidence.any fun e => e.in_cycle task && e.names item.id then none
      else (chosen c files cands item).map
        (captured_row cfg host c files (fresh item.id) now task item), files)

/-! ## Evidence that is used again -/

/-- The row is there in the cycle of the task. -/
def is_duplicate (task : Task) (row q : EvidenceRow) : Bool :=
  q.in_cycle task && match row.contract_evidence_id with
    | some id => q.contract_evidence_id == some id
    | none => q.contract_evidence_id.isNone && q.evidence_type == row.evidence_type &&
      q.uri == row.uri && q.sha256 == row.sha256

/-- The copies of the rows that are not there yet. -/
def linked (task : Task) (copy : EvidenceRow → EvidenceRow) :
    List EvidenceRow → List EvidenceRow → List EvidenceRow
  | _, [] => []
  | table, row :: rows =>
    if table.any (is_duplicate task row) then linked task copy table rows
    else copy row :: linked task copy (table ++ [copy row]) rows

/-- The copy of a row for the task as it stands; the scope hash is given. -/
def reused_row (fresh : String → String) (now : Int) (core_run_id scope_hash : String) (task : Task)
    (row : EvidenceRow) : EvidenceRow :=
  { row with
    id := fresh row.id
    task_id := task.id
    task_revision := task.revision
    scope_hash := scope_hash
    document_version := task.document_version
    qa_cycle := task.qa_cycle
    run_id := some core_run_id
    created_at := now }

/-- `_link_revalidation_evidence` -/
def link_revalidation_evidence (cfg : Config) (evidence : List EvidenceRow) (fresh : String → String)
    (now : Int) (task : Task) (source_revision : Nat) (core_run_id : String) : List EvidenceRow :=
  linked task (reused_row fresh now core_run_id (cfg.sha256 task.scope) task) evidence
    (ordered (evidence.filter fun e => e.task_id == task.id && e.task_revision == source_revision))

/-- The rows that `recover_false_qa_rework` starts from. -/
def rework_sources (evidence : List EvidenceRow) (task : Task) (verdict : QaVerdict) :
    List EvidenceRow :=
  ordered (evidence.filter fun e => e.task_id == task.id &&
    e.task_revision == verdict.signed_payload.task_revision &&
    e.qa_cycle == verdict.signed_payload.qa_cycle)

/-- The files behind the rows are as they were. -/
def rework_error (host : Host) (files : Files) (sources : List EvidenceRow) : Option String :=
  sources.findSome? fun row =>
    match files.read row.uri with
    | none => some "QA_REWORK_EVIDENCE_UNAVAILABLE"
    | some data => if row.sha256 = some (host.sha256 data) then none
      else some "QA_REWORK_EVIDENCE_TAMPERED"

/-- The copies of `recover_false_qa_rework`; they keep the scope hash. -/
def rework_copies (evidence : List EvidenceRow) (fresh : String → String) (now : Int) (task : Task)
    (verdict : QaVerdict) (core_run_id : String) : List EvidenceRow :=
  linked task (fun row => reused_row fresh now core_run_id row.scope_hash task row) evidence
    (rework_sources evidence task verdict)

/-- The revision of the delivery behind a run. -/
def source_revision (db : DB) (task : Task) (core_run_id : String) : Nat :=
  let rows := db.deliveries.rows.filter fun d => some d.message_id == task.source_message_id &&
    d.run_id == some core_run_id
  match rows.foldl (fun best d =>
    match best with
    | none => some d
    | some b => if b.created_at < d.created_at then some d else some b) none with
  | some d => d.task_revision
  | none => task.revision

/-! ## Validation -/

/-- The id under which a row counts. -/
def Contract.contract_id (c : Contract) (e : EvidenceRow) : String :=
  if c.legacy then e.evidence_type else (e.contract_evidence_id.filter (· ≠ "")).getD e.id

/-- The columns are those of the entry. -/
def Required.describes (item : Required) (e : EvidenceRow) : Bool :=
  e.evidence_type == item.evidence_type && e.source_command.getD "" == item.source_command &&
    e.expected_contains.getD "" == item.expected_contains

/-- The file of a row is what the entry asks for. -/
def unverified (host : Host) (c : Contract) (files : Files) (item : Required) (e : EvidenceRow) :
    Option String :=
  if !e.immutable || e.sha256.getD "" == "" || e.run_id.isNone || e.source_command.isNone then
    some "EVIDENCE_UNVERIFIED"
  else
    match files.read e.uri with
    | none => some "EVIDENCE_UNVERIFIED"
    | some data =>
      if e.sha256 ≠ some (host.sha256 data) then some "EVIDENCE_UNVERIFIED"
      else
        match String.fromUTF8? data with
        | none => some "EVIDENCE_UNVERIFIED"
        | some content =>
          if item.expected_contains ≠ "" ∧ ¬isPart item.expected_contains content then
            some "EVIDENCE_UNVERIFIED"
          else if c.within e.uri then none
          else some "EVIDENCE_SCOPE_VIOLATION"

/-- The rows of the task as it stands. -/
def current_rows (cfg : Config) (evidence : List EvidenceRow) (task : Task) : List EvidenceRow :=
  evidence.filter fun e => e.toEvidence.current cfg task

/-- `_qa_evidence_validation` -/
def qa_evidence_validation (cfg : Config) (host : Host) (c : Contract) (db : DB)
    (evidence : List EvidenceRow) (files : Files) (task : Task) (submitted_ids : Option (List String)) :
    Option String :=
  let rows := current_rows cfg evidence task
  let submitted := submitted_ids.getD (rows.map c.contract_id)
  let selected := rows.filter fun e => decide (c.contract_id e ∈ c.required_ids)
  if ¬submitted.Nodup ∨ ¬(submitted ⊆ c.required_ids ∧ c.required_ids ⊆ submitted) then
    some "QA_CONTRACT_ERROR"
  else if selected.length ≠ c.required_ids.length then some "QA_CONTRACT_ERROR"
  else if c.legacy then none
  else if c.profiled then
    match selected with
    | [row] => if c.required_ids = ["execution_receipt"] then verify_receipt cfg host db files task row
      else some "QA_CONTRACT_ERROR"
    | _ => some "QA_CONTRACT_ERROR"
  else
    let expected := fun e => c.required.find? fun item => item.id == c.contract_id e
    if selected.any fun e => (expected e).any fun item => !item.describes e then
      some "QA_CONTRACT_ERROR"
    else selected.findSome? fun e => (expected e).bind fun item => unverified host c files item e

/-- The newest summary of the task that a row of it in the cycle is behind. -/
def integrity_row (cfg : Config) (evidence : List EvidenceRow) (integrity : List SessionIntegrity)
    (task : Task) : Option (SessionIntegrity × EvidenceRow) :=
  let rows := integrity.flatMap fun s => if s.task_id == task.id then
      ((current_rows cfg evidence task).filter fun e => e.id == s.evidence_id &&
        e.evidence_type == "session_integrity").map fun e => (s, e)
    else []
  rows.foldl (fun best r =>
    match best with
    | none => some r
    | some b => if b.1.verified_at < r.1.verified_at then some r else some b) none

/-- The summary covers a `PASS` of its time. -/
def integrity_ok (passed_at : Int) (r : SessionIntegrity × EvidenceRow) : Bool :=
  let (s, e) := r
  strip_nonempty s.scope && decide (0 ≤ s.pre_count ∧ s.pre_count = s.post_count ∧
    s.changed_count = 0 ∧ s.deleted_count = 0 ∧ s.uncertain_count = 0 ∧
    s.mtime_encoding = "decimal_string" ∧ s.verified_at ≤ e.created_at ∧ e.created_at ≤ passed_at)
where
  strip_nonempty (s : String) : Bool := Text.strip s != ""

end WarRoom

end Plachem
