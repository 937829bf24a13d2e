import Mathlib.Data.List.Infix
import PlachemMonitor.Spec.Result
import PlachemMonitor.Spec.Table
import PlachemMonitor.Text.Paths

/-!
# Documents

The registry of the documents of a project: `register_document` finds the document of a file, or the one
that is named, and gives it a version, unless its current one is the same.

* `DB`: the tables, and the writes with the constraints of the schema.
* `Prepared`: what `register_document` knows of the file and of its arguments before it looks at the
  documents.
* `register_document`: the tables as the call leaves them in the transaction of its caller, and what it
  returns or raises. Each of its reads before the first write may be of an earlier state (`Read`).
-/

namespace Plachem

namespace Documents

open Text

/-! ## Tables -/

/-- `DOCUMENT_CATEGORIES` -/
inductive Category where
  | requirements | architecture | decision | reference | report | handoff | other
  deriving DecidableEq

/-- `DOCUMENT_RELATIONS` -/
inductive Relation where
  | input | output | reference | decision | handoff
  deriving DecidableEq

inductive DocumentStatus where
  | active | superseded | archived
  deriving DecidableEq

structure Project where
  id : String
  status : String
  deriving DecidableEq

structure Task where
  id : String
  project_id : String
  deriving DecidableEq

/-- `war_documents` -/
structure Document where
  id : String
  project_id : String
  title : String
  category : Category
  status : DocumentStatus
  current_version_id : Option String
  created_by : String
  created_at : Int
  updated_at : Int
  deriving DecidableEq

/-- `war_document_versions` -/
structure Version where
  id : String
  document_id : String
  version : Nat
  uri : String
  sha256 : String
  size_bytes : Nat
  mime_type : String
  source_task_id : Option String
  source_agent_id : Option String
  source_session_id : Option String
  source_run_id : Option String
  summary : String
  created_at : Int
  deriving DecidableEq

/-- `war_document_links` -/
structure Link where
  document_id : String
  task_id : String
  relation : Relation
  created_at : Int
  deriving DecidableEq

/-- `PRIMARY KEY(document_id, task_id, relation)` -/
def Link.key (l : Link) : String × String × Relation := (l.document_id, l.task_id, l.relation)

structure DB where
  projects : Table Project Project.id
  tasks : Table Task Task.id
  documents : Table Document Document.id
  versions : Table Version Version.id
  links : Table Link Link.key
  deriving DecidableEq

namespace DB

/-- The task is one of the project. -/
def has_task (db : DB) (project_id task_id : String) : Bool :=
  (db.tasks.find task_id).any fun t => t.project_id == project_id

/-- `INSERT INTO war_document_versions`, with `UNIQUE(document_id, version)` and the foreign keys. -/
def insert_version (db : DB) (v : Version) : Option DB := do
  guard (∀ q ∈ db.versions.rows, ¬(q.document_id = v.document_id ∧ q.version = v.version))
  guard (db.documents.find v.document_id).isSome
  guard (v.source_task_id.all fun id => (db.tasks.find id).isSome)
  let versions ← db.versions.insert v
  pure { db with versions := versions }

/-- `INSERT OR IGNORE INTO war_document_links` -/
def add_link (db : DB) (l : Link) : DB := { db with links := (db.links.insert l).getD db.links }

/-- `_current_version` -/
def current_version (db : DB) (document_id : String) : Option Version := do
  let d ← db.documents.find document_id
  let id ← d.current_version_id
  db.versions.find id

/-- `int(current["version"] or 0) if current else 0` -/
def current_number (db : DB) (document_id : String) : Nat :=
  (db.current_version document_id).elim 0 Version.version

/-- The active documents of the project whose current version is of the file. -/
def registered (db : DB) (project_id uri : String) : List Document :=
  db.documents.rows.filter fun d => d.project_id == project_id && d.status == .active &&
    (db.current_version d.id).any fun v => v.uri == uri

/-- The later one of two documents. -/
def newer : Option Document → Document → Option Document
  | none, d => some d
  | some best, d => if best.updated_at < d.updated_at then some d else some best

/-- `ORDER BY d.updated_at DESC LIMIT 1` -/
def newest (documents : List Document) : Option Document := documents.foldl newer none

end DB

/-! ## Arguments -/

/-- The arguments of `register_document`. -/
structure Call where
  project_id : String
  title : String
  uri : String
  approved_roots : List String
  created_by : String
  category : Option String
  summary : String
  source_task_id : Option String
  source_agent_id : Option String
  source_session_id : Option String
  source_run_id : Option String
  document_id : Option String
  expected_version : Option Int
  relation : Option String

/-- The file system, the clock and `uuid4`. -/
structure Outside where
  /-- `resolve(strict=True)`; `none` is an `OSError`. -/
  resolve : Path → Option Path
  /-- `resolve(strict=False)` -/
  resolve_loosely : Path → Path
  is_file : Path → Bool
  /-- `none` is an `OSError`. -/
  sha256 : Path → Option String
  size : Path → Nat
  guess_type : String → Option String
  now : Int
  uuid : Nat → String

inductive Raised where
  | DocumentRegistrationError (message : String)
  | IntegrityError
  | OSError
  deriving DecidableEq

/-- The argument is given: neither `None` nor empty. -/
def given (s : Option String) : Option String := s.filter (· ≠ "")

/-- `value.lower()`. Only ASCII letters matter where it is used. -/
def lower (s : String) : String := String.ofList (s.toList.map Char.toLower)

/-- `path.name` -/
def name (path : Path) : List Char := path.names.getLastD []

/-- `path.suffix` -/
def suffix (path : Path) : List Char :=
  let after := (name path).reverse.takeWhile (· ≠ '.')
  let before := (name path).reverse.dropWhile (· ≠ '.')
  if after ≠ [] ∧ 1 < before.length then '.' :: after.reverse else []

/-- `str(path)` of an absolute path -/
def text (path : Path) : String :=
  String.ofList (List.replicate path.slashes '/' ++ (path.names.intersperse ['/']).flatten)

/-- `DOCUMENT_EXTENSIONS` -/
def DOCUMENT_EXTENSIONS : List String :=
  [".md", ".txt", ".pdf", ".docx", ".xlsx", ".xls", ".csv", ".json"]

/-- `resolved == resolved_root or resolved_root in resolved.parents` -/
def is_under (resolved resolved_root : Path) : Bool :=
  resolved.slashes == resolved_root.slashes && resolved_root.names.isPrefixOf resolved.names

/-- The path is under the root. -/
def approves (out : Outside) (resolved : Path) (raw_root : String) : Bool :=
  let root := Path.parse raw_root.toList
  raw_root.toList.head? == some '/' && !root.traverses &&
    is_under resolved ((out.resolve root).getD (out.resolve_loosely root))

/-- `_safe_path` -/
def safe_path (out : Outside) (path_value : String) (roots : List String) : Except Raised Path :=
  let candidate := Path.parse path_value.toList
  if path_value.toList.head? ≠ some '/' then
    .error (.DocumentRegistrationError "document path must be absolute")
  else if candidate.traverses then
    .error (.DocumentRegistrationError "document path traversal is not allowed")
  else
    match out.resolve candidate with
    | none => .error (.DocumentRegistrationError "document path does not exist")
    | some resolved =>
      if !out.is_file resolved then .error (.DocumentRegistrationError "document path must be a file")
      else if roots.any (approves out resolved) then .ok resolved
      else .error (.DocumentRegistrationError "document path is outside approved roots")

/-- `_infer_category` -/
def infer_category (path : Path) : Category :=
  let name := (lower (String.ofList (name path))).toList
  let has (word : String) : Bool := decide (word.toList <:+: name)
  if has "require" || has "prd" then .requirements
  else if has "architect" || has "design" then .architecture
  else if has "decision" || has "adr" then .decision
  else if has "handoff" || has "recovery" then .handoff
  else if has "report" || has "result" || has "summary" then .report
  else if has "reference" || has "baseline" then .reference
  else .other

def category_of : String → Option Category
  | "requirements" => some .requirements
  | "architecture" => some .architecture
  | "decision" => some .decision
  | "reference" => some .reference
  | "report" => some .report
  | "handoff" => some .handoff
  | "other" => some .other
  | _ => none

def relation_of : String → Option Relation
  | "input" => some .input
  | "output" => some .output
  | "reference" => some .reference
  | "decision" => some .decision
  | "handoff" => some .handoff
  | _ => none

/-- A value that is required of an argument. -/
def found {α : Type} (x : Option α) (e : Raised) : Except Raised α :=
  match x with
  | some a => .ok a
  | none => .error e

def ensure (cond : Prop) [Decidable cond] (e : Raised) : Except Raised Unit :=
  if cond then .ok () else .error e

/-- `_validate_category` -/
def validate_category (value : Option String) (path : Path) : Except Raised Category :=
  match given (some (lower (strip (value.getD "")))) with
  | none => .ok (infer_category path)
  | some category => found (category_of category) (.DocumentRegistrationError "invalid document category")

/-- `_validate_relation` -/
def validate_relation (value : Option String) (category : Category) : Except Raised Relation :=
  match given (some (lower (strip (value.getD "")))) with
  | none => .ok (match category with
    | .decision => .decision
    | .handoff => .handoff
    | _ => .output)
  | some relation => found (relation_of relation) (.DocumentRegistrationError "invalid document relation")

/-- What the call knows before it looks for the document. -/
structure Prepared where
  title : String
  uri : String
  category : Category
  relation : Relation
  sha256 : String
  size : Nat
  mime_type : String

/-- The checks of the project, of the arguments and of the file. -/
def prepared (db : DB) (out : Outside) (c : Call) : Except Raised Prepared := do
  let project ← found (db.projects.find c.project_id) (.DocumentRegistrationError "project not found")
  ensure (project.status ≠ "archived") (.DocumentRegistrationError "project is archived")
  let title := strip c.title
  ensure (title ≠ "" ∧ title.length ≤ 300)
    (.DocumentRegistrationError "document title must be 1..300 characters")
  let path ← safe_path out c.uri c.approved_roots
  ensure (lower (String.ofList (suffix path)) ∈ DOCUMENT_EXTENSIONS)
    (.DocumentRegistrationError "unsupported document file type")
  let category ← validate_category c.category path
  let relation ← validate_relation c.relation category
  let digest ← found (out.sha256 path) .OSError
  pure
    { title := title
      uri := text path
      category := category
      relation := relation
      sha256 := digest
      size := out.size path
      mime_type := (given (out.guess_type (String.ofList (name path)))).getD "application/octet-stream" }

/-! ## The call -/

/-- The reads of `register_document` that can come before its first write. -/
inductive Read where
  | project | existing | current | task
  deriving DecidableEq

/-- What `register_document` returns. -/
structure Result where
  document_id : String
  version_id : String
  version : Nat
  uri : String
  sha256 : String
  category : Category
  relation : Relation
  changed : Bool
  deriving DecidableEq

/-- The document that is named, or the one of the file. -/
def existing_document (db : DB) (c : Call) (uri : String) : Except Raised (Option Document) :=
  match given c.document_id with
  | some id => (found ((db.documents.find id).filter fun d => d.project_id == c.project_id)
      (.DocumentRegistrationError "document not found in project")).map some
  | none => .ok (DB.newest (db.registered c.project_id uri))

/-- The row of a new version. -/
def new_version (out : Outside) (c : Call) (f : Prepared) (document_id : String) (version : Nat) : Version where
  id := out.uuid 1
  document_id := document_id
  version := version
  uri := f.uri
  sha256 := f.sha256
  size_bytes := f.size
  mime_type := f.mime_type
  source_task_id := c.source_task_id
  source_agent_id := c.source_agent_id
  source_session_id := c.source_session_id
  source_run_id := c.source_run_id
  summary := String.ofList (c.summary.toList.take 4096)
  created_at := out.now

/-- The row of a new document. -/
def new_document (out : Outside) (c : Call) (f : Prepared) : Document where
  id := out.uuid 0
  project_id := c.project_id
  title := f.title
  category := f.category
  status := .active
  current_version_id := some (out.uuid 1)
  created_by := c.created_by
  created_at := out.now
  updated_at := out.now

def result_of (f : Prepared) (document_id : String) (v : Version) (changed : Bool) : Result where
  document_id := document_id
  version_id := v.id
  version := v.version
  uri := f.uri
  sha256 := f.sha256
  category := f.category
  relation := f.relation
  changed := changed

/-- The end of the call: the task has to be one of the project, and is linked. `tasks` are the tables in
which it is looked up. -/
def link_task (tasks db : DB) (out : Outside) (c : Call) (relation : Relation) (result : Result) :
    DB × Except Raised Result :=
  match given c.source_task_id with
  | none => (db, .ok result)
  | some task_id =>
    if tasks.has_task c.project_id task_id then
      (db.add_link ⟨result.document_id, task_id, relation, out.now⟩, .ok result)
    else (db, .error (.DocumentRegistrationError "task does not belong to project"))

/-- `UPDATE war_documents` -/
def DB.set_current (db : DB) (out : Outside) (f : Prepared) (v : Version) : DB :=
  { db with
    documents := db.documents.update (fun d => d.id == v.document_id) fun d =>
      { d with title := f.title, category := f.category, current_version_id := some v.id, updated_at := out.now } }

/-- The document is there. -/
def update_document (view : Read → DB) (db : DB) (out : Outside) (c : Call) (f : Prepared) (d : Document) :
    DB × Except Raised Result :=
  let current := (view .current).current_version d.id
  let current_number := (view .current).current_number d.id
  if c.expected_version.any (· ≠ (current_number : Int)) then
    (db, .error (.DocumentRegistrationError ("version conflict: expected " ++
      (c.expected_version.elim "None" toString) ++ ", current " ++ toString current_number)))
  else
    match current.filter fun v => v.sha256 == f.sha256 && v.uri == f.uri with
    | some v => link_task (view .task) db out c f.relation (result_of f d.id v false)
    | none =>
      let v := new_version out c f d.id (current_number + 1)
      match db.insert_version v with
      | none => (db, .error .IntegrityError)
      | some db =>
        let db := db.set_current out f v
        link_task db db out c f.relation (result_of f d.id v true)

/-- There is no document of the file. -/
def create_document (db : DB) (out : Outside) (c : Call) (f : Prepared) : DB × Except Raised Result :=
  if c.expected_version.any (· ≠ 0) then
    (db, .error (.DocumentRegistrationError "version conflict: document does not exist"))
  else
    match (db.projects.find c.project_id).bind fun _ => db.documents.insert (new_document out c f) with
    | none => (db, .error .IntegrityError)
    | some documents =>
      let v := new_version out c f (out.uuid 0) 1
      match { db with documents := documents }.insert_version v with
      | none => ({ db with documents := documents }, .error .IntegrityError)
      | some db => link_task db db out c f.relation (result_of f (out.uuid 0) v true)

/-- `register_document`, in the transaction that its caller has open or that its first write opens. -/
def register_document (view : Read → DB) (db : DB) (out : Outside) (c : Call) : DB × Except Raised Result :=
  match prepared (view .project) out c with
  | .error e => (db, .error e)
  | .ok f =>
    match existing_document (view .existing) c f.uri with
    | .error e => (db, .error e)
    | .ok (some d) => update_document view db out c f d
    | .ok none => create_document db out c f

end Documents

end Plachem
