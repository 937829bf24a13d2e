import PlachemMonitor.Json.Inside
import PlachemMonitor.Text.Partition
import PlachemMonitor.WarRoom.System

/-!
# The results of the workers

A worker answers with a JSON object, in a fence or without one. `_structured_result` takes the text between
the first two fences, wherever they are, and `_store_response_message` stores the result that has been accepted
as a text of its own. The text is read again when the responses are compared. It is read as the result unless
it has a fence itself, in one of its strings (`survives_iff`): then it is no result, and the response does not
count (`fenced_summary`).
-/

namespace Plachem

namespace WarRoom

namespace Results

/-! ## Reading a result -/

/-- How the values of a packet and of a result are compared. -/
structure Comparison where
  /-- `==`: numbers are compared across their types. -/
  eq : Json → Json → Bool
  /-- `str.lower` -/
  lower : String → String

/-- What a packet asks a worker to confirm. -/
structure Grounding where
  revision : Json
  worktree : Json

def FENCE : List Char := "```".toList

/-- `text.split("```", 2)[1]`, of a text with a fence. -/
def between_fences (text : List Char) : List Char :=
  match Text.cut FENCE text with
  | none => text
  | some (_, rest) =>
    match Text.cut FENCE rest with
    | none => rest
    | some (inner, _) => inner

/-- `text.removeprefix("json")` -/
def without_json (text : List Char) : List Char :=
  if "json".toList <+: text then text.drop 4 else text

/-- The text that is parsed. -/
def unfenced (body : String) : List Char :=
  let text := (Text.strip body).toList
  if FENCE <:+: text then (Text.strip (String.ofList (without_json (between_fences text)))).toList
  else text

def REQUIRED : List String :=
  ["confirmed_worktree", "confirmed_revision", "verdict", "evidence", "summary",
    "representative_completion_claimed"]

def ALLOWED : List String := REQUIRED ++ ["documents"]

/-- The members are those of a result. -/
def has_fields (required allowed : List String) (ms : List (String × Json)) : Bool :=
  required.all (fun k => (Json.getMember ms k).isSome) && ms.all fun m => allowed.contains m.1

/-- `value.strip().lower() if isinstance(value, str) else value` -/
def Comparison.normalized (c : Comparison) : Json → Json
  | .str s => .str (c.lower (Text.strip s))
  | v => v

/-- `re.fullmatch(r"[0-9a-f]+", s)`, of at least seven characters. -/
def is_revision (s : String) : Bool :=
  decide (7 ≤ s.toList.length) && s.toList.all fun c =>
    decide ('0' ≤ c) && decide (c ≤ '9') || decide ('a' ≤ c) && decide (c ≤ 'f')

/-- The revision that is confirmed is the one of the packet, in full or abbreviated. -/
def Comparison.revisions_match (c : Comparison) (expected confirmed : Json) : Bool :=
  c.eq (c.normalized confirmed) (c.normalized expected) ||
    match c.normalized confirmed, c.normalized expected with
    | .str f, .str e => is_revision f && is_revision e && (f.startsWith e || e.startsWith f)
    | _, _ => false

/-- A text that begins with `/`. -/
def is_path : Json → Bool
  | .str s => s.startsWith "/"
  | _ => false

def is_text : Option Json → Bool
  | some (.str _) => true
  | _ => false

/-- An `int`, a `bool` included, that is not negative, or `None`. -/
def is_version : Option Json → Bool
  | none | some .null | some (.bool _) => true
  | some (.int n) => decide (0 ≤ n)
  | _ => false

def DOCUMENT_FIELDS : List String := ["title", "category", "path", "action", "summary"]

/-- An entry of `documents`. -/
def is_document : Json → Bool
  | .obj ms =>
    has_fields DOCUMENT_FIELDS (DOCUMENT_FIELDS ++ ["document_id", "expected_version", "relation"]) ms &&
      (Json.getMember ms "action" == some (.str "create") ||
        Json.getMember ms "action" == some (.str "update")) &&
      (Json.getMember ms "path").any is_path &&
      ["title", "category", "summary"].all (fun k => is_text (Json.getMember ms k)) &&
      is_version (Json.getMember ms "expected_version")
  | _ => false

/-- `result["verdict"]` -/
def result_verdict (d : Dict) : Option Verdict :=
  match d.get? "verdict" with
  | some (.str "PASS") => some .PASS
  | some (.str "FAIL") => some .FAIL
  | some (.str "REWORK") => some .REWORK
  | _ => none

def is_evidence : Option Json → Bool
  | some (.arr vs) => !vs.isEmpty && vs.all is_path
  | _ => false

def is_documents : Option Json → Bool
  | some (.arr vs) => vs.all is_document
  | _ => false

/-- The checks of a result with its fields; an exception is an error like the others. -/
def content_error (c : Comparison) (g : Grounding) (d : Dict) : Option String :=
  if ¬((d.get? "confirmed_worktree").any (c.eq · g.worktree) ∧
      (d.get? "confirmed_revision").any (c.revisions_match g.revision)) then some "context_mismatch"
  else if (result_verdict d).isNone ∨ ¬is_text (d.get? "summary") then
    some "structured_response_invalid_verdict"
  else if ¬is_evidence (d.get? "evidence") then some "structured_response_evidence_missing"
  else if d.get? "representative_completion_claimed" ≠ some (.bool false) then
    some "representative_authority_exceeded"
  else if ¬is_documents (d.get? "documents") then some "structured_response_documents_invalid"
  else none

/-- `result["documents"] = []` -/
def with_documents (d : Dict) : Dict :=
  if (d.get? "documents").isSome then d else d.set "documents" ⟨.arr [], rfl⟩

/-- `_structured_result`, for a task with a packet. -/
def structured_result (c : Comparison) (g : Grounding) (body : String) : Except String Dict :=
  match loadsValue (unfenced body) with
  | none => .error "structured_response_invalid_json"
  | some v =>
    match v.dict? with
    | none => .error "structured_response_fields_mismatch"
    | some d =>
      if ¬has_fields REQUIRED ALLOWED d.members then .error "structured_response_fields_mismatch"
      else
        match content_error c g (with_documents d) with
        | some error => .error error
        | none => .ok (with_documents d)

/-! ## Storing a result -/

/-- `str(result.get("summary") or "")`, of a summary that is a text. -/
def summary_text (d : Dict) : String :=
  match d.get? "summary" with
  | some (.str s) => s
  | _ => ""

/-- The result with its summary redacted. -/
def redacted (redact : String → String) (d : Dict) : Dict :=
  d.set "summary" ⟨.str (redact (summary_text d)), rfl⟩

/-- The body that `_store_response_message` stores for a result. -/
def stored_text (redact : String → String) (d : Dict) : String :=
  String.ofList ((redacted redact d).json.encode false)

variable {c : Comparison} {g : Grounding} {redact : String → String} {d r : Dict} {body : String}

/-! ## What is accepted -/

/-- What has been accepted has the fields of a result, passes the checks, and names its documents. -/
structure Accepted (c : Comparison) (g : Grounding) (r : Dict) : Prop where
  fields : has_fields REQUIRED ALLOWED r.members = true
  content : content_error c g r = none
  documents : (r.get? "documents").isSome = true

/-- A field that is allowed may be set. -/
theorem has_fields_set {required allowed : List String} {k : String} (v : Value) (hk : k ∈ allowed)
    (h : has_fields required allowed d.members = true) :
    has_fields required allowed (d.set k v).members = true := by
  obtain ⟨hrequired, hallowed⟩ := Bool.and_eq_true _ _ ▸ h
  refine Bool.and_eq_true _ _ ▸ ⟨List.all_eq_true.mpr fun k' hk' => ?_, List.all_eq_true.mpr fun m hm => ?_⟩
  · change ((d.set k v).get? k').isSome = true
    by_cases heq : k' = k
    · rw [heq, Dict.get?_set_self]
      rfl
    · rw [Dict.get?_set_ne _ _ heq]
      exact List.all_eq_true.mp hrequired k' hk'
  · rcases Json.mem_setMember hm with rfl | hm
    · exact List.contains_iff_mem.mpr hk
    · exact List.all_eq_true.mp hallowed m hm

theorem has_fields_with_documents (h : has_fields REQUIRED ALLOWED d.members = true) :
    has_fields REQUIRED ALLOWED (with_documents d).members = true := by
  unfold with_documents
  split
  · exact h
  · exact has_fields_set _ (by decide) h

theorem accepted_of_ok (h : structured_result c g body = .ok r) : Accepted c g r := by
  unfold structured_result at h
  split at h
  · cases h
  split at h
  · cases h
  rename_i d _
  split at h
  · cases h
  rename_i hfields
  split at h
  · cases h
  rename_i hcontent
  cases h
  refine ⟨has_fields_with_documents (not_not.mp hfields), hcontent, ?_⟩
  unfold with_documents
  split
  · assumption
  · rw [Dict.get?_set_self]
    rfl

/-- A text that is read as a result that passes the checks is accepted. -/
theorem structured_result_of_read (hread : (loadsValue (unfenced body)).bind Value.dict? = some d)
    (hfields : has_fields REQUIRED ALLOWED d.members = true) (hcontent : content_error c g (with_documents d) = none) :
    structured_result c g body = .ok (with_documents d) := by
  obtain ⟨v, hv, hd⟩ := Option.bind_eq_some_iff.mp hread
  unfold structured_result
  rw [hv]
  dsimp only
  rw [hd]
  dsimp only
  rw [if_neg (not_not.mpr hfields), hcontent]

theorem structured_result_eq (h : Accepted c g r)
    (hread : (loadsValue (unfenced body)).bind Value.dict? = some r) :
    structured_result c g body = .ok r := by
  have hdocuments : with_documents r = r := if_pos h.documents
  have hcontent := h.content
  rw [← hdocuments] at hcontent
  exact (structured_result_of_read hread h.fields hcontent).trans (congrArg _ hdocuments)

/-! ## Redaction -/

theorem redacted_get? {k : String} (h : k ≠ "summary") : (redacted redact r).get? k = r.get? k :=
  Dict.get?_set_ne _ _ h

theorem redacted_summary : (redacted redact r).get? "summary" = some (.str (redact (summary_text r))) :=
  Dict.get?_set_self ..

theorem redacted_verdict : result_verdict (redacted redact r) = result_verdict r := by
  rw [result_verdict, redacted_get? (by decide), result_verdict]

/-- Redaction leaves an accepted result accepted. -/
theorem Accepted.redacted (h : Accepted c g r) : Accepted c g (redacted redact r) := by
  refine ⟨has_fields_set _ (by decide) h.fields, ?_, ?_⟩
  · have hcontent := h.content
    have htext : is_text (r.get? "summary") = true := by
      by_contra hnot
      unfold content_error at hcontent
      split at hcontent
      · cases hcontent
      · rw [if_pos (.inr hnot)] at hcontent
        cases hcontent
    rw [content_error, htext] at hcontent
    rw [content_error, redacted_verdict, redacted_summary]
    rw [redacted_get? (by decide), redacted_get? (by decide), redacted_get? (by decide),
      redacted_get? (by decide), redacted_get? (by decide)]
    exact hcontent
  · rw [redacted_get? (by decide)]
    exact h.documents

/-! ## Reading what is stored -/

theorem toList_stored : (stored_text redact r).toList = (redacted redact r).json.encode false :=
  String.toList_ofList

/-- The text of a result has no space around it. -/
theorem strip_stored : Text.strip (stored_text redact r) = stored_text redact r := by
  have hopen : Text.isWhitespace '{' = false := by decide
  have hclose : Text.isWhitespace '}' = false := by decide
  have htext : (redacted redact r).json.encode false =
      ('{' :: Json.encodeMembers false (Results.redacted redact r).members) ++ ['}'] := rfl
  rw [Text.strip, toList_stored, stored_text, htext, List.cons_append,
    List.dropWhile_cons_of_neg (by simp [hopen]), ← List.cons_append,
    List.rdropWhile_concat_neg _ _ _ (by simp [hclose])]

/-- A text without a fence is read back. -/
theorem survives (h : Accepted c g r) (hfence : ¬FENCE <:+: (stored_text redact r).toList) :
    structured_result c g (stored_text redact r) = .ok (redacted redact r) := by
  refine structured_result_eq h.redacted ?_
  have hread : Json.loads ((Results.redacted redact r).json.encode false) = some (redacted redact r).json := by
    rw [← Json.layout_nil]
    exact Json.loads_layout (fun _ hc => absurd hc List.not_mem_nil) false (Results.redacted redact r).wf
  obtain ⟨hv, hvalue⟩ := loadsValue_eq_some hread
  unfold unfenced
  dsimp only
  rw [strip_stored, if_neg hfence, toList_stored, hvalue]
  rfl

theorem between_fences_split {text : List Char} (hfence : FENCE <:+: text) :
    ∃ before q, text = before ++ FENCE ++ (between_fences text ++ q) := by
  obtain ⟨⟨before, rest⟩, hcut⟩ := Option.isSome_iff_exists.mp (Text.cut_isSome_iff.mpr hfence)
  unfold between_fences
  rw [hcut]
  dsimp only
  split
  · exact ⟨before, [], by rw [List.append_nil]; exact Text.cut_eq_some hcut⟩
  · rename_i inner after hinner
    refine ⟨before, FENCE ++ after, ?_⟩
    rw [← List.append_assoc inner, ← Text.cut_eq_some hinner]
    exact Text.cut_eq_some hcut

theorem without_json_split (text : List Char) :
    ∃ w, text = w ++ without_json text ∧ ∀ c ∈ w, c ≠ '"' ∧ c ≠ '\\' := by
  unfold without_json
  split
  · rename_i hjson
    obtain ⟨rest, rfl⟩ := hjson
    have hplain : ("json".toList.all fun c => c != '"' && c != '\\') = true := by decide
    refine ⟨"json".toList, rfl, fun c hc => ?_⟩
    have hc := List.all_eq_true.mp hplain c hc
    rwa [Bool.and_eq_true, bne_iff_ne, bne_iff_ne] at hc
  · exact ⟨[], rfl, fun _ hc => absurd hc List.not_mem_nil⟩

theorem strip_split (text : List Char) : ∃ w q, text = w ++ (Text.strip (String.ofList text)).toList ++ q ∧
    ∀ c ∈ w, c ≠ '"' ∧ c ≠ '\\' := by
  obtain ⟨q, hq⟩ := List.rdropWhile_prefix Text.isWhitespace (text.dropWhile Text.isWhitespace)
  refine ⟨text.takeWhile Text.isWhitespace, q, ?_, fun c hc => ?_⟩
  · rw [Text.strip, String.toList_ofList, String.toList_ofList, List.append_assoc, hq,
      List.takeWhile_append_dropWhile]
  · have hspace := List.mem_takeWhile_imp hc
    constructor <;> rintro rfl <;> cases hspace

/-- The text that is parsed stands behind the first fence. -/
theorem unfenced_of_fence (hstrip : Text.strip body = body) (hfence : FENCE <:+: body.toList) :
    ∃ before w q, body.toList = before ++ FENCE ++ (w ++ unfenced body ++ q) ∧
      ∀ c ∈ w, c ≠ '"' ∧ c ≠ '\\' := by
  obtain ⟨before, q, hbody⟩ := between_fences_split hfence
  obtain ⟨j, hj, hjson⟩ := without_json_split (between_fences body.toList)
  obtain ⟨w, q', hw, hspace⟩ := strip_split (without_json (between_fences body.toList))
  refine ⟨before, j ++ w, q' ++ q, ?_, List.forall_mem_append.mpr ⟨hjson, hspace⟩⟩
  have hunfenced : unfenced body =
      (Text.strip (String.ofList (without_json (between_fences body.toList)))).toList := by
    unfold unfenced
    dsimp only
    rw [hstrip, if_pos hfence]
  calc body.toList = before ++ FENCE ++ (j ++ without_json (between_fences body.toList) ++ q) := by
        rw [← hj]
        exact hbody
    _ = before ++ FENCE ++ (j ++ (w ++ unfenced body ++ q') ++ q) := by rw [hunfenced, ← hw]
    _ = before ++ FENCE ++ (j ++ w ++ unfenced body ++ (q' ++ q)) := by simp only [List.append_assoc]

/-- No field of a result begins with a comma, a colon or a bracket. -/
theorem allowed_ne_stop {ch : Char} (hstop : Json.isStop ch = true) (s : List Char) :
    ALLOWED.contains (String.ofList (ch :: s)) = false := by
  have hhead : ALLOWED.all fun k => (k.toList.head?.map Json.isStop) == some false := by decide
  by_contra hmem
  have hk := List.all_eq_true.mp hhead _ (List.contains_iff_mem.mp (Bool.not_eq_false _ ▸ hmem))
  rw [String.toList_ofList, List.head?_cons, Option.map_some, hstop] at hk
  cases hk

/-- What stands behind a fence in a stored text is no result. -/
theorem not_read_of_fence (hfence : FENCE <:+: (stored_text redact r).toList) {d : Dict} :
    structured_result c g (stored_text redact r) ≠ .ok d := by
  intro h
  obtain ⟨before, w, q, hbody, hw⟩ := unfenced_of_fence strip_stored hfence
  have hinside : Json.Inside (w ++ unfenced (stored_text redact r) ++ q) := by
    refine Json.behind_encode (b := '\u0060') (by decide) (Results.redacted redact r).json (before ++ "``".toList) _ ?_
    rw [← toList_stored, hbody, FENCE]
    simp only [List.append_assoc]
    rfl
  unfold structured_result at h
  split at h
  · cases h
  rename_i v hread
  split at h
  · cases h
  rename_i d' hdict
  split at h
  · cases h
  rename_i hfields
  have hloads : Json.loads (unfenced (stored_text redact r)) = some (.obj d'.members) := by
    rw [loadsValue_iff.mp hread]
    unfold Value.dict? at hdict
    split at hdict
    · rw [← Option.some.inj hdict]
    · cases hdict
  obtain ⟨hrequired, hallowed⟩ := Bool.and_eq_true _ _ ▸ not_not.mp hfields
  rcases hinside.object rfl hw hloads with hnil | ⟨ch, s, hstop, hkey⟩
  · rw [hnil] at hrequired
    cases hrequired
  · obtain ⟨m, hm, hmk⟩ := List.mem_map.mp hkey
    have hcontains := List.all_eq_true.mp hallowed m hm
    rw [hmk, allowed_ne_stop hstop] at hcontains
    cases hcontains

/-- What has been stored is read as the result exactly if the text has no fence. -/
theorem survives_iff (h : Accepted c g r) :
    structured_result c g (stored_text redact r) = .ok (redacted redact r) ↔
      ¬FENCE <:+: (stored_text redact r).toList :=
  ⟨fun hread hfence => not_read_of_fence hfence hread, survives h⟩

/-! ## The responses of a task -/

/-- What a worker has said, and the id of the message that keeps it. -/
structure Response where
  delivery_id : String
  body : String
  message_id : String
  deriving DecidableEq

/-- The deployment reads a result so. An accepted result has a verdict. -/
def reads (c : Comparison) (grounding : Packet → Grounding) (cfg : Config) : Config :=
  { cfg with structured_result := fun p body =>
      (structured_result c (grounding p) body).map fun d => ⟨(result_verdict d).getD .PASS⟩ }

/-- A delivery that has responded, with the message of its response. -/
def with_response (d : Delivery) (message_id : String) : Delivery :=
  { d with status := .responded, response_message_id := some message_id }

/-- `_store_response_message` for a response that is accepted, and the row that names the message. -/
def receive (c : Comparison) (grounding : Packet → Grounding) (redact : String → String) (db : DB) (a : Response) :
    Option DB := do
  let d ← db.deliveries.find a.delivery_id
  let project_id ← db.project_of d.message_id
  let packet ← (db.task_of_message d.message_id).bind fun t => db.packets.find t.id
  let result ← (structured_result c (grounding packet) a.body).toOption
  let messages ← db.messages.insert
    ⟨a.message_id, project_id, "result", d.agent_id, stored_text redact result⟩
  if d.status = .responded then none
  else some { db with
    messages := messages
    deliveries := db.deliveries.update (fun q => q.id == d.id) fun q => with_response q a.message_id }

/-- The responses come one after the other. -/
def arrive (c : Comparison) (grounding : Packet → Grounding) (redact : String → String) :
    List Response → DB → Option DB
  | [], db => some db
  | a :: as, db => (receive c grounding redact db a).bind (arrive c grounding redact as)

variable {grounding : Packet → Grounding} {db₀ db db' : DB} {a : Response} {done as : List Response}
  {message_id : String} {revision : Nat} {cfg : Config} {env : Env}

/-- The row names the response, as it is stored. -/
structure Keeps (c : Comparison) (g : Grounding) (redact : String → String) (db : DB) (a : Response)
    (d : Delivery) : Prop where
  id : d.id = a.delivery_id
  status : d.status = .responded
  stored : ∃ m r, db.messages.find a.message_id = some m ∧ d.response_message_id = some a.message_id ∧
    structured_result c g a.body = .ok r ∧ m.body = stored_text redact r

/-- The rows of `db₀` after some responses. -/
structure Heard (c : Comparison) (g : Grounding) (redact : String → String) (db₀ : DB) (done : List Response)
    (db : DB) : Prop where
  tasks : db.tasks = db₀.tasks
  packets : db.packets = db₀.packets
  rows : ∀ d ∈ db.deliveries, ∃ d₀ ∈ db₀.deliveries, d₀.id = d.id ∧ d₀.message_id = d.message_id ∧
    d₀.agent_id = d.agent_id ∧ d₀.task_revision = d.task_revision ∧
    (d.status = .responded → d₀.status ≠ .responded → ∃ a ∈ done, Keeps c g redact db a d)
  kept : ∀ a ∈ done, ∃ d ∈ db.deliveries, Keeps c g redact db a d

theorem heard_nil (c : Comparison) (g : Grounding) (redact : String → String) (db₀ : DB) :
    Heard c g redact db₀ [] db₀ where
  tasks := rfl
  packets := rfl
  rows d hd := ⟨d, hd, rfl, rfl, rfl, rfl, fun h h' => absurd h h'⟩
  kept _ ha := absurd ha List.not_mem_nil

/-- A response that is accepted, and what it writes. -/
structure Receives (c : Comparison) (grounding : Packet → Grounding) (redact : String → String) (db : DB)
    (a : Response) (db' : DB) (d : Delivery) (m : Message) (r : Dict) : Prop where
  row : db.deliveries.find a.delivery_id = some d
  status : d.status ≠ .responded
  accepted : ∃ t p, db.task_of_message d.message_id = some t ∧ db.packets.find t.id = some p ∧
    structured_result c (grounding p) a.body = .ok r
  body : m.id = a.message_id ∧ m.body = stored_text redact r
  messages : db.messages.insert m = some db'.messages
  deliveries : db'.deliveries = db.deliveries.update (fun q => q.id == d.id) fun q => with_response q a.message_id
  tasks : db'.tasks = db.tasks
  packets : db'.packets = db.packets

theorem receives_of_some (h : receive c grounding redact db a = some db') :
    ∃ d m r, Receives c grounding redact db a db' d m r := by
  unfold receive at h
  obtain ⟨d, hd, h⟩ := Option.bind_eq_some_iff.mp h
  obtain ⟨project, -, h⟩ := Option.bind_eq_some_iff.mp h
  obtain ⟨packet, hpacket, h⟩ := Option.bind_eq_some_iff.mp h
  obtain ⟨r, hr, h⟩ := Option.bind_eq_some_iff.mp h
  obtain ⟨messages, hmessages, h⟩ := Option.bind_eq_some_iff.mp h
  split at h
  · cases h
  rename_i hstatus
  cases h
  obtain ⟨t, ht, hp⟩ := Option.bind_eq_some_iff.mp hpacket
  refine ⟨d, _, r, hd, hstatus, ⟨t, packet, ht, hp, ?_⟩, ⟨rfl, rfl⟩, hmessages, rfl, rfl, rfl⟩
  cases hread : structured_result c (grounding packet) a.body with
  | error e =>
    rw [hread] at hr
    cases hr
  | ok d =>
    rw [hread] at hr
    rw [Option.some.inj hr]

section Step

variable {d q : Delivery} {m : Message} {b : Response}

/-- What a row keeps it keeps when another row gets its response. -/
theorem Receives.keeps (h : Receives c grounding redact db a db' d m r) (hq : q ∈ db.deliveries)
    (hkeeps : Keeps c g redact db b q) : q ∈ db'.deliveries ∧ Keeps c g redact db' b q := by
  obtain ⟨m', r', hfind, hnames, haccepted, hbody⟩ := hkeeps.stored
  have hother : ¬(q.id == d.id) = true := by
    intro heq
    have hsame := Table.eq_of_key hq (Table.find_some h.row).1 (beq_iff_eq.mp heq)
    exact h.status (hsame ▸ hkeeps.status)
  constructor
  · rw [h.deliveries]
    exact Table.mem_update_neg (by exact fun _ => rfl) hq hother
  · refine ⟨hkeeps.id, hkeeps.status, m', r', ?_, hnames, haccepted, hbody⟩
    rw [Table.find_insert h.messages, if_neg]
    · exact hfind
    · intro heq
      refine (Table.insert_eq_some h.messages).2 (List.mem_map.mpr ⟨m', (Table.find_some hfind).1, ?_⟩)
      exact (Table.find_some hfind).2.trans heq.symm

/-- The row that gets the response keeps it. -/
theorem Receives.kept (h : Receives c grounding redact db a db' d m r)
    (haccepted : structured_result c g a.body = .ok r) :
    with_response d a.message_id ∈ db'.deliveries ∧ Keeps c g redact db' a (with_response d a.message_id) := by
  constructor
  · rw [h.deliveries]
    exact Table.mem_update_pos (by exact fun _ => rfl) (Table.find_some h.row).1 (beq_self_eq_true _)
  · refine ⟨(Table.find_some h.row).2, rfl, m, r, ?_, rfl, haccepted, h.body.2⟩
    rw [Table.find_insert h.messages, if_pos h.body.1]

/-- Each row is what it was, or the one that gets the response. -/
theorem Receives.cases (h : Receives c grounding redact db a db' d m r) (hq : q ∈ db'.deliveries) :
    q = with_response d a.message_id ∨ q ∈ db.deliveries := by
  rw [h.deliveries] at hq
  obtain ⟨p, hp, heq⟩ := Table.mem_update.mp hq
  split at heq
  · rename_i hid
    rw [heq, Table.eq_of_key hp (Table.find_some h.row).1 (beq_iff_eq.mp hid)]
    exact .inl rfl
  · exact .inr (heq ▸ hp)

end Step

/-- The response is that of a delivery of the message, for the revision. -/
def Asked (db : DB) (message_id : String) (revision : Nat) (a : Response) : Prop :=
  ∃ d ∈ db.deliveries, d.id = a.delivery_id ∧ d.message_id = message_id ∧ d.task_revision = revision

/-- The packet of the task of the message. -/
def HasPacket (db : DB) (message_id : String) (p : Packet) : Prop :=
  (db.task_of_message message_id).bind (fun t => db.packets.find t.id) = some p

section Run

variable {p : Packet} {d : Delivery}

theorem hasPacket_congr (htasks : db.tasks = db₀.tasks) (hpackets : db.packets = db₀.packets)
    (hp : HasPacket db₀ message_id p) : HasPacket db message_id p := by
  unfold HasPacket DB.task_of_message
  rw [htasks, hpackets]
  exact hp

theorem Heard.message (h : Heard c g redact db₀ done db) (ha : Asked db₀ message_id revision a)
    (hd : d ∈ db.deliveries) (hid : d.id = a.delivery_id) :
    d.message_id = message_id ∧ d.task_revision = revision := by
  obtain ⟨d₀, hd₀, hid₀, hmessage, -, hrevision, -⟩ := h.rows d hd
  obtain ⟨q, hq, hqid, hqmessage, hqrevision⟩ := ha
  obtain rfl := Table.eq_of_key hd₀ hq (hid₀.trans (hid.trans hqid.symm))
  exact ⟨hmessage.symm.trans hqmessage, hrevision.symm.trans hqrevision⟩

/-- One more response. -/
theorem Heard.step (h : Heard c (grounding p) redact db₀ done db) (hp : HasPacket db₀ message_id p)
    (ha : Asked db₀ message_id revision a) (hrun : receive c grounding redact db a = some db') :
    Heard c (grounding p) redact db₀ (done ++ [a]) db' := by
  obtain ⟨d, m, r, hreceives⟩ := receives_of_some hrun
  obtain ⟨hd, hid⟩ := Table.find_some hreceives.row
  have haccepted : structured_result c (grounding p) a.body = .ok r := by
    obtain ⟨t, p', ht, hp', hread⟩ := hreceives.accepted
    have hpacket := hasPacket_congr h.tasks h.packets hp
    rw [(h.message ha hd hid).1] at ht
    unfold HasPacket at hpacket
    rw [ht, Option.bind_some, hp'] at hpacket
    rw [← Option.some.inj hpacket]
    exact hread
  obtain ⟨hnew, hkept⟩ := hreceives.kept haccepted
  refine ⟨hreceives.tasks.trans h.tasks, hreceives.packets.trans h.packets, fun q hq => ?_, fun b hb => ?_⟩
  · rcases hreceives.cases hq with rfl | hold
    · obtain ⟨d₀, hd₀, hid₀, hmessage, hagent, hrevision, -⟩ := h.rows d hd
      exact ⟨d₀, hd₀, hid₀, hmessage, hagent, hrevision, fun _ _ => ⟨a, by simp, hkept⟩⟩
    · obtain ⟨d₀, hd₀, hid₀, hmessage, hagent, hrevision, hresponded⟩ := h.rows q hold
      refine ⟨d₀, hd₀, hid₀, hmessage, hagent, hrevision, fun hs hs₀ => ?_⟩
      obtain ⟨b, hb, hkeeps⟩ := hresponded hs hs₀
      exact ⟨b, List.mem_append_left _ hb, (hreceives.keeps hold hkeeps).2⟩
  · rcases List.mem_append.mp hb with hb | hb
    · obtain ⟨q, hq, hkeeps⟩ := h.kept b hb
      exact ⟨q, hreceives.keeps hq hkeeps⟩
    · obtain rfl := List.mem_singleton.mp hb
      exact ⟨_, hnew, hkept⟩

/-- All responses. -/
theorem Heard.run (h : Heard c (grounding p) redact db₀ done db) (hp : HasPacket db₀ message_id p)
    (has : ∀ a ∈ as, Asked db₀ message_id revision a) (hrun : arrive c grounding redact as db = some db') :
    Heard c (grounding p) redact db₀ (done ++ as) db' := by
  induction as generalizing done db with
  | nil =>
    cases hrun
    rwa [List.append_nil]
  | cons a as ih =>
    obtain ⟨mid, ha, hrest⟩ := Option.bind_eq_some_iff.mp hrun
    have hmid := h.step hp (has a List.mem_cons_self) ha
    have hall := ih hmid (fun b hb => has b (List.mem_cons_of_mem _ hb)) hrest
    rwa [List.append_assoc] at hall

end Run

/-! ## The verdicts -/

/-- The worker of the delivery has been accepted with the verdict. -/
def Said (c : Comparison) (g : Grounding) (db : DB) (as : List Response) (agent : String) (v : Verdict) : Prop :=
  ∃ a ∈ as, ∃ d ∈ db.deliveries, d.id = a.delivery_id ∧ d.agent_id = agent ∧
    ∃ r, structured_result c g a.body = .ok r ∧ result_verdict r = some v

/-- The text that is stored of the worker's response is read as a result with the verdict. -/
def ReadAgain (c : Comparison) (g : Grounding) (redact : String → String) (db : DB) (as : List Response)
    (agent : String) (v : Verdict) : Prop :=
  ∃ a ∈ as, ∃ d ∈ db.deliveries, d.id = a.delivery_id ∧ d.agent_id = agent ∧
    ∃ r r', structured_result c g a.body = .ok r ∧ structured_result c g (stored_text redact r) = .ok r' ∧
      result_verdict r' = some v

theorem verdict_of_ok (h : structured_result c g body = .ok r) : ∃ v, result_verdict r = some v := by
  have hcontent := (accepted_of_ok h).content
  unfold content_error at hcontent
  split at hcontent
  · cases hcontent
  split at hcontent
  · cases hcontent
  rename_i hverdict
  cases hv : result_verdict r with
  | none => exact absurd (.inl (hv ▸ rfl)) hverdict
  | some v => exact ⟨v, rfl⟩

section Verdicts

variable {p : Packet} {d : Delivery}

/-- What the deployment makes of a text. -/
theorem structured_result_reads (hp : HasPacket db message_id p) :
    WarRoom.structured_result (reads c grounding cfg) db message_id body =
      (structured_result c (grounding p) body).map fun r => some ⟨(result_verdict r).getD .PASS⟩ := by
  unfold HasPacket at hp
  unfold WarRoom.structured_result
  rw [hp]
  dsimp only [reads]
  cases structured_result c (grounding p) body <;> rfl

/-- The verdicts that count are those that are read again. -/
theorem mem_verdicts (h : Heard c (grounding p) redact db₀ as db') (hp : HasPacket db₀ message_id p)
    (hstart : ∀ d ∈ db₀.deliveries, d.message_id = message_id → d.task_revision = revision →
      d.status ≠ .responded)
    (has : ∀ a ∈ as, Asked db₀ message_id revision a) {agent : String} {v : Verdict} :
    (agent, v) ∈ verdicts (reads c grounding cfg) db' message_id revision ↔
      ReadAgain c (grounding p) redact db₀ as agent v := by
  have hread : ∀ text, WarRoom.structured_result (reads c grounding cfg) db' message_id text =
      (structured_result c (grounding p) text).map fun r => some ⟨(result_verdict r).getD .PASS⟩ := fun text =>
    structured_result_reads (hasPacket_congr h.tasks h.packets hp)
  unfold verdicts ReadAgain
  simp only [List.mem_filterMap, List.mem_filter, Bool.and_eq_true, beq_iff_eq, hread]
  constructor
  · rintro ⟨d, ⟨hd, ⟨hmessage, hrevision⟩, hstatus⟩, hsome⟩
    obtain ⟨d₀, hd₀, hid₀, hmessage₀, hagent₀, hrevision₀, hresponded⟩ := h.rows d hd
    obtain ⟨a, ha, hkeeps⟩ := hresponded hstatus
      (hstart d₀ hd₀ (hmessage₀.trans hmessage) (hrevision₀.trans hrevision))
    obtain ⟨m, r, hfind, hnames, haccepted, hbody⟩ := hkeeps.stored
    rw [hnames, Option.bind_some, hfind, Option.map_some, Option.getD_some, hbody] at hsome
    cases hagain : structured_result c (grounding p) (stored_text redact r) with
    | error e =>
      rw [hagain] at hsome
      cases hsome
    | ok r' =>
      obtain ⟨w, hw⟩ := verdict_of_ok hagain
      rw [hagain] at hsome
      obtain ⟨rfl, rfl⟩ := Prod.mk.inj (Option.some.inj hsome)
      exact ⟨a, ha, d₀, hd₀, hid₀.trans hkeeps.id, hagent₀, r, r', haccepted, hagain, by rw [hw]; rfl⟩
  · rintro ⟨a, ha, d₀, hd₀, hid₀, hagent₀, r, r', haccepted, hagain, hv⟩
    obtain ⟨d, hd, hkeeps⟩ := h.kept a ha
    obtain ⟨m, r₁, hfind, hnames, haccepted₁, hbody⟩ := hkeeps.stored
    obtain rfl := Except.ok.inj (haccepted.symm.trans haccepted₁)
    obtain ⟨d₁, hd₁, hid₁, -, hagent₁, -⟩ := h.rows d hd
    obtain rfl := Table.eq_of_key hd₀ hd₁ (hid₀.trans (hkeeps.id.symm.trans hid₁.symm))
    refine ⟨d, ⟨hd, h.message (has a ha) hd hkeeps.id, hkeeps.status⟩, ?_⟩
    rw [hnames, Option.bind_some, hfind, Option.map_some, Option.getD_some, hbody, hagain]
    dsimp only [Except.map]
    rw [hv, ← hagent₀, hagent₁]
    rfl

end Verdicts

/-- The result of each response is read again as it was accepted, and the verdicts are those that were accepted;
two that differ send the task back, and the order of the responses is of no account. -/
structure Faithful (c : Comparison) (grounding : Packet → Grounding) (redact : String → String) (cfg : Config)
    (env : Env) (p : Packet) (task_id message_id : String) (revision : Nat) (db : DB) (as : List Response)
    (db' : DB) : Prop where
  reread : ∀ a ∈ as, ∀ r, structured_result c (grounding p) a.body = .ok r →
    structured_result c (grounding p) (stored_text redact r) = .ok (redacted redact r)
  verdicts : ∀ agent v, (agent, v) ∈ verdicts (reads c grounding cfg) db' message_id revision ↔
    Said c (grounding p) db as agent v
  rework : ∀ agent v agent' v', Said c (grounding p) db as agent v → Said c (grounding p) db as agent' v' →
    v ≠ v' → ((apply_collaboration_outcome (reads c grounding cfg) db' env task_id message_id
      revision).tasks.find task_id).map Task.status = some .rework_required
  order : ∀ as' db'', (as'.map fun a => (a.delivery_id, a.body)).Perm (as.map fun a => (a.delivery_id, a.body)) →
    arrive c grounding redact as' db = some db'' →
    (apply_collaboration_outcome (reads c grounding cfg) db'' env task_id message_id revision).tasks =
      (apply_collaboration_outcome (reads c grounding cfg) db' env task_id message_id revision).tasks

section Outcome

variable {p : Packet} {task : Task} {as' : List Response} {db'' : DB}

/-- The same responses, in whatever order and under whatever ids. -/
theorem exists_of_perm
    (h : (as'.map fun a => (a.delivery_id, a.body)).Perm (as.map fun a => (a.delivery_id, a.body)))
    (ha : a ∈ as) : ∃ a' ∈ as', a'.delivery_id = a.delivery_id ∧ a'.body = a.body := by
  obtain ⟨a', ha', heq⟩ := List.mem_map.mp (h.mem_iff.mpr (List.mem_map_of_mem ha))
  exact ⟨a', ha', (Prod.mk.inj heq).1, (Prod.mk.inj heq).2⟩

theorem ReadAgain.perm
    (h : (as'.map fun a => (a.delivery_id, a.body)).Perm (as.map fun a => (a.delivery_id, a.body)))
    {agent : String} {v : Verdict} (hread : ReadAgain c g redact db as agent v) :
    ReadAgain c g redact db as' agent v := by
  obtain ⟨a, ha, d, hd, hid, hagent, r, r', haccepted, hagain, hv⟩ := hread
  obtain ⟨a', ha', hid', hbody⟩ := exists_of_perm h ha
  exact ⟨a', ha', d, hd, hid.trans hid'.symm, hagent, r, r', by rw [hbody]; exact haccepted, hagain, hv⟩

/-- The conflict depends on which verdicts there are. -/
theorem collaboration_conflict_eq
    (h : ∀ x, x ∈ verdicts cfg db message_id revision ↔ x ∈ verdicts cfg db' message_id revision) :
    collaboration_conflict cfg db message_id revision = collaboration_conflict cfg db' message_id revision := by
  have hany : ∀ f : String × Verdict → Bool, (verdicts cfg db message_id revision).any f =
      (verdicts cfg db' message_id revision).any f := by
    intro f
    rw [Bool.eq_iff_iff, List.any_eq_true, List.any_eq_true]
    exact exists_congr fun x => and_congr_left fun _ => h x
  unfold collaboration_conflict
  dsimp only
  rw [hany]
  congr 1
  rw [hany]
  congr 1
  funext v
  exact hany _

theorem apply_collaboration_outcome_tasks (htasks : db.tasks = db'.tasks) {task_id : String}
    (hconflict : collaboration_conflict cfg db message_id revision =
      collaboration_conflict cfg db' message_id revision) :
    (apply_collaboration_outcome cfg db env task_id message_id revision).tasks =
      (apply_collaboration_outcome cfg db' env task_id message_id revision).tasks := by
  unfold apply_collaboration_outcome
  rw [hconflict]
  split
  · unfold next_revision
    dsimp only
    rw [htasks]
  · dsimp only
    rw [htasks]

/-- Two verdicts that differ send the task back. -/
theorem rework_of_differ (htask : db.tasks.find task.id = some task) {agent agent' : String} {v v' : Verdict}
    (hv : (agent, v) ∈ verdicts cfg db message_id revision)
    (hv' : (agent', v') ∈ verdicts cfg db message_id revision) (hne : v ≠ v') :
    ((apply_collaboration_outcome cfg db env task.id message_id revision).tasks.find task.id).map Task.status =
      some .rework_required := by
  have hconflict : collaboration_conflict cfg db message_id revision = true := by
    unfold collaboration_conflict
    refine Bool.or_eq_true _ _ ▸ .inr (List.any_eq_true.mpr ⟨_, hv, List.any_eq_true.mpr ⟨_, hv', ?_⟩⟩)
    exact bne_iff_ne.mpr hne
  unfold apply_collaboration_outcome
  rw [if_pos hconflict, find_next_revision db env .rework_required htask]
  rfl

/-- One verdict that passes the review of the others, or none, sends the task to the QA. -/
theorem qa_of_single (htask : db.tasks.find task.id = some task) (hrunning : task.status = .running)
    (x : String × Verdict) (hx : x.1 ≠ "ERPqa") (h : ∀ y ∈ verdicts cfg db message_id revision, y = x) :
    ((apply_collaboration_outcome cfg db env task.id message_id revision).tasks.find task.id).map Task.status =
      some .qa := by
  have hconflict : ¬collaboration_conflict cfg db message_id revision = true := by
    intro hconflict
    unfold collaboration_conflict at hconflict
    rcases Bool.or_eq_true _ _ ▸ hconflict with hqa | hdiffer
    · obtain ⟨y, hy, hqa⟩ := List.any_eq_true.mp hqa
      rw [h y hy] at hqa
      exact hx (beq_iff_eq.mp (Bool.and_eq_true _ _ ▸ hqa).1)
    · obtain ⟨y, hy, hdiffer⟩ := List.any_eq_true.mp hdiffer
      obtain ⟨z, hz, hdiffer⟩ := List.any_eq_true.mp hdiffer
      exact bne_iff_ne.mp hdiffer (by rw [h y hy, h z hz])
  unfold apply_collaboration_outcome
  rw [if_neg hconflict]
  dsimp only
  rw [Table.find_update, htask, Option.map_some, Option.map_some, if_pos]
  rw [hrunning, beq_self_eq_true]
  rfl

theorem run_fence : Json.Run '\u0060' FENCE where
  mark := by decide
  self := by decide
  all := by
    have hall : (FENCE.all fun c => c == '\u0060') = true := by decide
    exact fun c hc => beq_iff_eq.mp (List.all_eq_true.mp hall c hc)
  ne := by decide

end Outcome

/-! ## Samples

Two agents work on one message. -/

namespace Trial

/-- Equal values are equal in all, and a text is in lower case. -/
def comparison : Comparison where
  eq v w := decide (v = w)
  lower s := s

def ground (_ : Packet) : Grounding := ⟨.str "abcdef0", .str "/work"⟩

/-- What a worker answers; the summary is the text of a JSON string. -/
def answer_text (verdict summary : String) : List Char :=
  '{' :: ["\"confirmed_worktree\":\"/work\",\"confirmed_revision\":\"abcdef0\",\"verdict\":\"", verdict,
    "\",\"evidence\":[\"/work/log\"],\"summary\":\"", summary,
    "\",\"representative_completion_claimed\":false"].flatMap String.toList ++ ['}']

def answer (verdict summary : String) : String := String.ofList (answer_text verdict summary)

/-- What the answer says. -/
def fields (verdict summary : String) : Dict :=
  ⟨[("confirmed_worktree", .str "/work"), ("confirmed_revision", .str "abcdef0"), ("verdict", .str verdict),
    ("evidence", .arr [.str "/work/log"]), ("summary", .str summary),
    ("representative_completion_claimed", .bool false)], by simp [Json.wf, Json.wfMembers, Json.wfElems]⟩

/-- The result of the answer. -/
def result (verdict summary : String) : Dict := with_documents (fields verdict summary)

def packet : Packet := ⟨"job", "packet", some ["test"], false, false⟩

def task : Task := ⟨"job", "p", some "ask", some "dev", some "qa", "", .running, "v1", some "v1", none, none, .LEGACY,
  some 1000, 1, 0, 0, 0, none, none⟩

def sent (id agent_id : String) : Delivery := ⟨id, "ask", agent_id, 1, .sent, 1, 3, some 1, none, none, none, none,
  none, none, none, none, some 1000, 0, none, none, none, none, none, 0⟩

def unanswered : DB :=
  { Sample.db with
    messages := ⟨[⟨"ask", "p", "instruction", "rep", "do"⟩], by decide⟩
    tasks := ⟨[task], by decide⟩
    packets := ⟨[packet], by decide⟩
    deliveries := ⟨[sent "left" "dev", sent "right" "doc"], by decide⟩ }

/-- The first agent passes and the second one does not. -/
def both (summary : String) : List Response :=
  [⟨"left", answer "PASS" summary, "l"⟩, ⟨"right", answer "REWORK" "again", "r"⟩]

/-- A summary of three backticks, escaped. -/
def fence : String := "\\u0060\\u0060\\u0060"

def arrived (summary : String) : DB := (arrive comparison ground id (both summary) unanswered).getD unanswered

theorem unfenced_answer {verdict summary : String} (hfence : ¬FENCE <:+: answer_text verdict summary) :
    unfenced (answer verdict summary) = answer_text verdict summary := by
  have hopen : Text.isWhitespace '{' = false := by decide
  have hclose : Text.isWhitespace '}' = false := by decide
  have hstrip : Text.strip (answer verdict summary) = answer verdict summary := by
    rw [Text.strip, answer, String.toList_ofList, answer_text, List.cons_append,
      List.dropWhile_cons_of_neg (by simp [hopen]), ← List.cons_append,
      List.rdropWhile_concat_neg _ _ _ (by simp [hclose])]
  unfold unfenced
  dsimp only
  rw [hstrip, answer, String.toList_ofList, if_neg hfence]

/-- The text of an answer, character by character. -/
theorem answer_text_eq {verdict summary : String} {v t a b c : List Char} (hverdict : verdict = String.ofList v)
    (hsummary : summary = String.ofList t)
    (ha : "\"confirmed_worktree\":\"/work\",\"confirmed_revision\":\"abcdef0\",\"verdict\":\"" = String.ofList a)
    (hb : "\",\"evidence\":[\"/work/log\"],\"summary\":\"" = String.ofList b)
    (hc : "\",\"representative_completion_claimed\":false" = String.ofList c) :
    answer_text verdict summary = '{' :: (a ++ (v ++ (b ++ (t ++ c)))) ++ ['}'] := by
  rw [answer_text, ha, hb, hc, hverdict, hsummary]
  simp only [List.flatMap_cons, List.flatMap_nil, String.toList_ofList, List.append_nil]

/-- The answer is accepted if its text is read as its fields. -/
theorem accepts {verdict summary text : String} {cs : List Char} (htext : answer_text verdict text = cs)
    (hfence : ¬FENCE <:+: cs) (hread : Json.loads cs = some (fields verdict summary).json)
    (hverdict : verdict = "PASS" ∨ verdict = "REWORK") (p : Packet) :
    structured_result comparison (ground p) (answer verdict text) = .ok (result verdict summary) := by
  have hfields : has_fields REQUIRED ALLOWED (fields verdict summary).members = true := by
    simp [has_fields, REQUIRED, ALLOWED, fields, Json.getMember]
  have hcontent : content_error comparison (ground p) (result verdict summary) = none := by
    rcases hverdict with rfl | rfl <;>
      simp [content_error, result, with_documents, fields, Dict.get?, Json.getMember, Dict.set, Json.setMember, ground,
        comparison, Comparison.revisions_match, Comparison.normalized, result_verdict, is_text, is_evidence,
        is_documents, is_path]
  subst htext
  have hvalue : loadsValue (answer_text verdict text) = some (.ofDict (fields verdict summary)) :=
    loadsValue_iff.mpr hread
  refine structured_result_of_read ?_ hfields hcontent
  rw [unfenced_answer hfence, hvalue]
  rfl

theorem accepts_fence (p : Packet) :
    structured_result comparison (ground p) (answer "PASS" fence) = .ok (result "PASS" "```") :=
  accepts (answer_text_eq rfl rfl rfl rfl rfl) (by decide +kernel) (by decide +kernel) (.inl rfl) p

theorem accepts_done (p : Packet) :
    structured_result comparison (ground p) (answer "PASS" "done") = .ok (result "PASS" "done") :=
  accepts (answer_text_eq rfl rfl rfl rfl rfl) (by decide +kernel) (by decide +kernel) (.inl rfl) p

theorem accepts_again (p : Packet) :
    structured_result comparison (ground p) (answer "REWORK" "again") = .ok (result "REWORK" "again") :=
  accepts (answer_text_eq rfl rfl rfl rfl rfl) (by decide +kernel) (by decide +kernel) (.inr rfl) p

/-- The responses arrive if they are accepted. -/
theorem arrive_eq {summary : String} {r : Dict}
    (h : ∀ p, structured_result comparison (ground p) (answer "PASS" summary) = .ok r) :
    arrive comparison ground id (both summary) unanswered = some (arrived summary) := by
  have hsome : (arrive comparison ground id (both summary) unanswered).isSome = true := by
    simp only [both, arrive, receive, h, accepts_again]
    rfl
  obtain ⟨db, hdb⟩ := Option.isSome_iff_exists.mp hsome
  rw [arrived, hdb, Option.getD_some]

theorem asked_of_mem {summary : String} {a : Response} (ha : a ∈ both summary) : Asked unanswered "ask" 1 a := by
  rcases List.mem_cons.mp ha with rfl | ha
  · exact ⟨sent "left" "dev", List.mem_cons_self, rfl, rfl, rfl⟩
  · rw [List.mem_singleton.mp ha]
    exact ⟨sent "right" "doc", List.mem_cons_of_mem _ List.mem_cons_self, rfl, rfl, rfl⟩

theorem said_pass {summary : String} {r : Dict}
    (h : structured_result comparison (ground packet) (answer "PASS" summary) = .ok r)
    (hv : result_verdict r = some .PASS) : Said comparison (ground packet) unanswered (both summary) "dev" .PASS :=
  ⟨⟨"left", answer "PASS" summary, "l"⟩, List.mem_cons_self, sent "left" "dev", List.mem_cons_self, rfl, rfl, r, h,
    hv⟩

theorem said_rework (summary : String) :
    Said comparison (ground packet) unanswered (both summary) "doc" .REWORK := by
  have hverdict : result_verdict (result "REWORK" "again") = some .REWORK := by decide
  refine ⟨⟨"right", answer "REWORK" "again", "r"⟩, ?_, sent "right" "doc", ?_, rfl, rfl, _, accepts_again _,
    hverdict⟩
  · exact List.mem_cons_of_mem _ List.mem_cons_self
  · exact List.mem_cons_of_mem _ List.mem_cons_self

end Trial

end Results

end WarRoom

end Plachem
