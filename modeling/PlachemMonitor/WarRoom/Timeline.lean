import Mathlib.Data.Prod.Lex
import Mathlib.Data.String.Basic
import PlachemMonitor.Json.RoundTrip
import PlachemMonitor.Spec.Paging
import PlachemMonitor.Text.Base64
import PlachemMonitor.WarRoom.Request

/-!
# The timeline

`get_timeline` of a project: the messages of a filter by pages, the latest first. A page that is not the
last one gives a cursor, which is the time and the id of its last message.

- **Cursors** (`decode_encode_cursor`): what `_encode_cursor` writes, `_decode_cursor` reads.
- **Rows** (`mem_select`, `select_descending`): the join with the deliveries gives each message once, in
  the order of the keys.
- **Pages** (`get_timeline_answers`): a response is a page below its cursor, in the sense of
  `Paging.Answers`, so a client that follows the cursors has read them all (`timeline_complete`).
- A cursor may be refused: it must not be longer than 256 characters (`cursor_too_long`).
-/

namespace Plachem

namespace WarRoom

namespace Timeline

/-! ## Cursors -/

/-- `json.dumps([created_at, message_id], separators=(",", ":")).encode("utf-8")` -/
def cursor_payload (created_at : Int) (message_id : String) : List UInt8 :=
  (Json.encode true (.arr [.int created_at, .str message_id])).flatMap String.utf8EncodeChar

def _encode_cursor (created_at : Int) (message_id : String) : String :=
  String.ofList (Base64.unpadded (cursor_payload created_at message_id))

/-- `str.isdigit`, of ASCII -/
def isdigit (value : List Char) : Bool := !value.isEmpty && value.all Char.isDigit

def decode_error : HttpError := .http 422 "Invalid timeline cursor"

/-- The bytes of an opaque cursor: `padded.encode("ascii")` refuses what is not ASCII. -/
def cursor_bytes (value : List Char) : Option (List UInt8) :=
  if value.all (fun c => c.toNat < 128) then
    Base64.decode (value ++ Base64.padding value.length)
  else none

def cursor_json (value : List Char) : Option Json := do
  let bytes ← cursor_bytes value
  let text ← bytes.toByteArray.utf8Decode?
  Json.loads text.toList

def _decode_cursor (value : String) : Except HttpError (Int × String) :=
  -- the numbers of the draft API
  if isdigit value.toList then
    .ok (Int.ofNat (Nat.ofDigitChars 10 value.toList 0), "\uffff")
  else
    match cursor_json value.toList with
    | some (.arr [.int created_at, .str message_id]) => .ok (created_at, message_id)
    | _ => .error decode_error

/-! ### Reading back -/

/-- The first character of a cursor is that of the bracket. -/
theorem cursor_head (created_at : Int) (message_id : String) :
    ∃ rest, Base64.unpadded (cursor_payload created_at message_id) = 'W' :: rest := by
  have hpayload : ∃ bytes, cursor_payload created_at message_id = 91 :: bytes := ⟨_, rfl⟩
  obtain ⟨bytes, hbytes⟩ := hpayload
  rw [hbytes]
  exact Base64.unpadded_cons 91 bytes

theorem not_isdigit (created_at : Int) (message_id : String) :
    isdigit (_encode_cursor created_at message_id).toList = false := by
  obtain ⟨rest, hrest⟩ := cursor_head created_at message_id
  rw [_encode_cursor, String.toList_ofList, hrest]
  rfl

theorem digit_lt : ∀ n < 64, (Base64.digit n).toNat < 128 := by decide

theorem cursor_bytes_unpadded (bytes : List UInt8) :
    cursor_bytes (Base64.unpadded bytes) = some bytes := by
  have hascii : (Base64.unpadded bytes).all (fun c => c.toNat < 128) = true := by
    rw [List.all_eq_true]
    intro c hc
    obtain ⟨n, hn, rfl⟩ := Base64.mem_unpadded hc
    exact decide_eq_true (digit_lt n hn)
  rw [cursor_bytes, if_pos hascii, Base64.decode_padded]

theorem cursor_json_unpadded (created_at : Int) (message_id : String) :
    cursor_json (Base64.unpadded (cursor_payload created_at message_id)) =
      some (.arr [.int created_at, .str message_id]) := by
  have htext : (cursor_payload created_at message_id).toByteArray.utf8Decode? =
      some (Json.encode true (.arr [.int created_at, .str message_id])).toArray :=
    List.utf8Decode?_utf8Encode
  rw [cursor_json, cursor_bytes_unpadded, Option.bind_eq_bind, Option.bind_some, htext,
    Option.bind_eq_bind, Option.bind_some, ← Json.layout_nil]
  exact Json.loads_layout (fun c hc => absurd hc List.not_mem_nil) true rfl

theorem decode_encode_cursor (created_at : Int) (message_id : String) :
    _decode_cursor (_encode_cursor created_at message_id) = .ok (created_at, message_id) := by
  have hjson := cursor_json_unpadded created_at message_id
  rw [_decode_cursor, not_isdigit, _encode_cursor, String.toList_ofList, hjson]
  rfl

/-! ## Rows -/

/-- `war_messages` -/
structure Message where
  id : String
  project_id : String
  message_type : String
  author_type : String
  author_id : String
  body : String
  source_session_id : Option String
  source_message_id : Option String
  created_at : Int
  correlation_id : Option String
  redaction_state : String
  original_body : Option String
  deriving DecidableEq

namespace Message

/-- The order of the timeline. -/
def key (m : Message) : Int ×ₗ String := toLex (m.created_at, m.id)

theorem key_lt {m : Message} {created_at : Int} {id : String} :
    m.key < toLex (created_at, id) ↔
      m.created_at < created_at ∨ m.created_at = created_at ∧ m.id < id := by
  rw [key, Prod.Lex.toLex_lt_toLex]

end Message

structure Tables where
  projects : List String
  messages : List Message
  deliveries : List Delivery
  /-- `id TEXT PRIMARY KEY` -/
  ids : (messages.map (·.id)).Nodup

structure Query where
  limit : Nat
  message_type : Option String
  author_id : Option String
  delivery_status : Option String
  from_ts : Option Int
  to_ts : Option Int

/-- A message with the statuses of its deliveries. -/
structure Row where
  message : Message
  delivery_statuses : Option String
  deriving DecidableEq

section

variable (t : Tables) (project_id : String) (q : Query) (before : Option (Int × String))

/-- The `conditions` of the filter. -/
def Matches (m : Message) : Prop :=
  m.project_id = project_id ∧
  (∀ message_type ∈ q.message_type, m.message_type = message_type) ∧
  (∀ author_id ∈ q.author_id, m.author_id = author_id) ∧
  (∀ status ∈ q.delivery_status,
    (t.deliveries.any fun ds => ds.message_id == m.id && ds.status.value == status) = true) ∧
  (∀ from_ts ∈ q.from_ts, from_ts ≤ m.created_at) ∧
  ∀ to_ts ∈ q.to_ts, m.created_at ≤ to_ts

instance (m : Message) : Decidable (Matches t project_id q m) := by
  unfold Matches
  infer_instance

/-- `m.created_at < ? OR (m.created_at = ? AND m.id < ?)` -/
def Earlier (m : Message) : Prop :=
  ∀ cursor ∈ before, m.created_at < cursor.1 ∨ m.created_at = cursor.1 ∧ m.id < cursor.2

instance (m : Message) : Decidable (Earlier before m) := by
  unfold Earlier
  infer_instance

/-- `LEFT JOIN war_deliveries d ON d.message_id=m.id` -/
def joined : List (Message × Option Delivery) :=
  t.messages.flatMap fun m =>
    match t.deliveries.filter (·.message_id == m.id) with
    | [] => [(m, none)]
    | ds => ds.map fun d => (m, some d)

/-- `GROUP_CONCAT(DISTINCT d.status)` -/
def group_concat (ds : List Delivery) : Option String :=
  match (ds.map (·.status.value)).eraseDups with
  | [] => none
  | statuses => some (String.intercalate "," statuses)

/-- `GROUP BY m.id`; the id is that of one message. -/
def grouped (rows : List (Message × Option Delivery)) : List Row :=
  (rows.map Prod.fst).dedup.map fun m =>
    ⟨m, group_concat ((rows.filter (·.1.id == m.id)).filterMap Prod.snd)⟩

/-- `ORDER BY m.created_at DESC, m.id DESC` -/
def ordered (rows : List Row) : List Row :=
  rows.insertionSort fun a b => b.message.key ≤ a.message.key

/-- The rows of the query, without its `LIMIT`. -/
def select : List Row :=
  ordered (grouped ((joined t).filter fun row =>
    Matches t project_id q row.1 ∧ Earlier before row.1))

end

/-! ### What is selected -/

section

variable {t : Tables} {project_id : String} {q : Query} {before : Option (Int × String)}

theorem earlier_iff {m : Message} :
    Earlier before m ↔ Paging.Below (before.map toLex) m.key := by
  cases before with
  | none => simp [Earlier]
  | some cursor =>
    rw [Option.map_some, Paging.below_some, Message.key_lt]
    simp only [Earlier, Option.mem_def, Option.some.injEq, forall_eq']

theorem joined_of_mem {m : Message} (h : m ∈ t.messages) : ∃ d, (m, d) ∈ joined t := by
  cases hds : t.deliveries.filter (·.message_id == m.id) with
  | nil => exact ⟨none, List.mem_flatMap.mpr ⟨m, h, by rw [hds]; exact List.mem_singleton_self _⟩⟩
  | cons d ds =>
    exact ⟨some d, List.mem_flatMap.mpr ⟨m, h, by rw [hds]; exact List.mem_cons_self⟩⟩

theorem mem_of_joined {row : Message × Option Delivery} (h : row ∈ joined t) : row.1 ∈ t.messages := by
  obtain ⟨m, hm, hrow⟩ := List.mem_flatMap.mp h
  have hfst : row.1 = m := by
    split at hrow
    · rw [List.mem_singleton] at hrow
      rw [hrow]
    · obtain ⟨d, -, rfl⟩ := List.mem_map.mp hrow
      rfl
  rwa [hfst]

/-- The messages of a grouping are those of the rows, once each. -/
theorem messages_grouped (rows : List (Message × Option Delivery)) :
    (grouped rows).map Row.message = (rows.map Prod.fst).dedup := by
  rw [grouped, List.map_map]
  exact List.map_id _

instance : Std.Total fun a b : Row => b.message.key ≤ a.message.key :=
  ⟨fun a b => le_total b.message.key a.message.key⟩

instance : IsTrans Row fun a b => b.message.key ≤ a.message.key :=
  ⟨fun _ _ _ hab hbc => hbc.trans hab⟩

theorem ordered_perm (rows : List Row) : (ordered rows).Perm rows := List.perm_insertionSort _ rows

theorem mem_select {m : Message} :
    m ∈ (select t project_id q before).map Row.message ↔
      m ∈ t.messages ∧ Matches t project_id q m ∧ Earlier before m := by
  rw [select, ((ordered_perm _).map Row.message).mem_iff, messages_grouped, List.mem_dedup, List.mem_map]
  constructor
  · rintro ⟨row, hrow, rfl⟩
    rw [List.mem_filter, decide_eq_true_iff] at hrow
    exact ⟨mem_of_joined hrow.1, hrow.2⟩
  · rintro ⟨hm, hmatches⟩
    obtain ⟨d, hd⟩ := joined_of_mem hm
    exact ⟨(m, d), List.mem_filter.mpr ⟨hd, decide_eq_true hmatches⟩, rfl⟩

theorem select_nodup : ((select t project_id q before).map Row.message).Nodup := by
  rw [select, ((ordered_perm _).map Row.message).nodup_iff, messages_grouped]
  exact List.nodup_dedup _

/-- The id tells the messages of a table apart. -/
theorem eq_of_id {m m' : Message} (hm : m ∈ t.messages) (hm' : m' ∈ t.messages) (h : m.id = m'.id) :
    m = m' := List.inj_on_of_nodup_map t.ids hm hm' h

theorem eq_of_key {m m' : Message} (hm : m ∈ t.messages) (hm' : m' ∈ t.messages) (h : m.key = m'.key) :
    m = m' := eq_of_id hm hm' (congrArg (fun k : Int ×ₗ String => (ofLex k).2) h)

theorem select_descending :
    ((select t project_id q before).map fun r => r.message.key).Pairwise (· > ·) := by
  have hsorted : (select t project_id q before).Pairwise fun a b => b.message.key ≤ a.message.key :=
    List.pairwise_insertionSort _ _
  have hdistinct : (select t project_id q before).Pairwise fun a b => a.message ≠ b.message :=
    List.pairwise_map.mp select_nodup
  rw [List.pairwise_map]
  refine (hsorted.and hdistinct).imp_of_mem fun ha hb hab => lt_of_le_of_ne hab.1 fun heq => hab.2 ?_
  have hmem : ∀ r ∈ select t project_id q before, r.message ∈ t.messages :=
    fun r hr => (mem_select.mp (List.mem_map_of_mem hr)).1
  exact (eq_of_key (hmem _ hb) (hmem _ ha) heq).symm

end

/-! ## The endpoint -/

inductive TimelineError where
  /-- FastAPI, for the parameters of the query -/
  | query (fields : List String)
  | raised (e : HttpError)

structure Response where
  mode : String
  items : List Row
  has_more : Bool
  next_before : Option String
  next_cursor : Option String

def MESSAGE_TYPES : List String :=
  ["instruction", "opinion", "question", "decision", "result", "status", "system"]

def DELIVERY_STATUSES : List String :=
  ["queued", "sent", "received", "responded", "failed", "timed_out", "stopped"]

/-- `_redact` of a row: no column has a name that is redacted, the texts are. -/
def _redact (redact_string : String → String) (r : Row) : Row where
  message :=
    { id := redact_string r.message.id
      project_id := redact_string r.message.project_id
      message_type := redact_string r.message.message_type
      author_type := redact_string r.message.author_type
      author_id := redact_string r.message.author_id
      body := redact_string r.message.body
      source_session_id := r.message.source_session_id.map redact_string
      source_message_id := r.message.source_message_id.map redact_string
      created_at := r.message.created_at
      correlation_id := r.message.correlation_id.map redact_string
      redaction_state := redact_string r.message.redaction_state
      original_body := r.message.original_body.map redact_string }
  delivery_statuses := r.delivery_statuses.map redact_string

namespace Query

/-- The bounds of the parameters, and the parameters that are out of them. -/
def refused (q : Query) (before : Option String) : List String :=
  (if 1 ≤ q.limit ∧ q.limit ≤ 100 then [] else ["limit"]) ++
  (if ∀ cursor ∈ before, 1 ≤ cursor.length ∧ cursor.length ≤ 256 then [] else ["before"]) ++
  (if ∀ value ∈ q.message_type, value.length ≤ 32 then [] else ["message_type"]) ++
  (if ∀ value ∈ q.author_id, value.length ≤ 128 then [] else ["author_id"]) ++
  (if ∀ value ∈ q.delivery_status, value.length ≤ 32 then [] else ["delivery_status"]) ++
  (if ∀ value ∈ q.from_ts, 0 ≤ value then [] else ["from_ts"]) ++
  (if ∀ value ∈ q.to_ts, 0 ≤ value then [] else ["to_ts"])

/-- `from_ts > to_ts` -/
def InRange (q : Query) : Prop := ∀ from_ts ∈ q.from_ts, ∀ to_ts ∈ q.to_ts, from_ts ≤ to_ts

instance (q : Query) : Decidable q.InRange := by
  unfold InRange
  infer_instance

/-- The checks of the handler itself. -/
def check (q : Query) : Except HttpError Unit := do
  ensure (∀ value ∈ q.message_type, value ∈ MESSAGE_TYPES) 422 "Invalid message type"
  ensure (∀ value ∈ q.delivery_status, value ∈ DELIVERY_STATUSES) 422 "Invalid delivery status"
  ensure q.InRange 422 "Invalid timeline range"

end Query

/-- The cursor of a request. -/
def decode_before : Option String → Except HttpError (Option (Int × String))
  | none => .ok none
  | some value => (_decode_cursor value).map some

/-- The response for the rows of the query. -/
def respond (redact_string : String → String) (limit : Nat) (rows : List Row) : Response :=
  let rows := rows.take (limit + 1)
  let has_more := decide (limit < rows.length)
  let raw_items := rows.take limit
  let next_cursor := if has_more then
      raw_items.getLast?.map fun r => _encode_cursor r.message.created_at r.message.id
    else none
  { mode := "readonly"
    items := raw_items.map (_redact redact_string)
    has_more
    next_before := next_cursor
    next_cursor }

def read (redact_string : String → String) (t : Tables) (project_id : String) (q : Query)
    (before : Option String) : Except HttpError Response := do
  q.check
  ensure (project_id ∈ t.projects) 404 "Project not found"
  let cursor ← decode_before before
  .ok (respond redact_string q.limit (select t project_id q cursor))

def get_timeline (redact_string : String → String) (t : Tables) (project_id : String) (q : Query)
    (before : Option String) : Except TimelineError Response :=
  if q.refused before = [] then (read redact_string t project_id q before).mapError .raised
  else .error (.query (q.refused before))

/-! ### A page of the timeline -/

/-- The messages that the filter asks for. -/
def Matching (t : Tables) (project_id : String) (q : Query) (m : Message) : Prop :=
  m ∈ t.messages ∧ Matches t project_id q m

/-- Their keys. -/
def keys (t : Tables) (project_id : String) (q : Query) : Set (Int ×ₗ String) :=
  Message.key '' {m | Matching t project_id q m}

section

variable {redact_string : String → String} {t : Tables} {project_id : String} {q : Query}
  {before : Option String} {r : Response}

theorem raised_eq_ok {x : Except HttpError Response} :
    x.mapError TimelineError.raised = .ok r ↔ x = .ok r := by
  cases x with
  | ok r' => exact ⟨fun h => congrArg _ (Except.ok.inj h), fun h => congrArg _ (Except.ok.inj h)⟩
  | error e => exact ⟨fun h => absurd h (by simp [Except.mapError]), fun h => absurd h (by simp)⟩

theorem get_timeline_eq_ok :
    get_timeline redact_string t project_id q before = .ok r ↔
      q.refused before = [] ∧ q.check = .ok () ∧ project_id ∈ t.projects ∧
      ∃ cursor, decode_before before = .ok cursor ∧
        respond redact_string q.limit (select t project_id q cursor) = r := by
  have hread : read redact_string t project_id q before = .ok r ↔
      q.check = .ok () ∧ project_id ∈ t.projects ∧ ∃ cursor, decode_before before = .ok cursor ∧
        respond redact_string q.limit (select t project_id q cursor) = r := by
    simp only [read, bind_eq_ok, exists_unit, ensure_eq_ok, Except.ok.injEq]
  rw [get_timeline, ← hread]
  by_cases h : q.refused before = []
  · rw [if_pos h, raised_eq_ok]
    exact ⟨fun hr => ⟨h, hr⟩, fun hr => hr.2⟩
  · rw [if_neg h]
    exact ⟨fun hr => absurd hr (by simp), fun hr => absurd hr.1 h⟩

theorem limit_pos (h : q.refused before = []) : 0 < q.limit := by
  by_contra hlimit
  have hbounds : ¬ (1 ≤ q.limit ∧ q.limit ≤ 100) := fun hb => hlimit hb.1
  rw [Query.refused, if_neg hbounds] at h
  simp at h

theorem respond_items (limit : Nat) (rows : List Row) :
    (respond redact_string limit rows).items = (rows.take limit).map (_redact redact_string) := by
  rw [respond, List.take_take, min_eq_left (Nat.le_succ limit)]

variable (redact_string) in
theorem respond_has_more (limit : Nat) (rows : List Row) :
    (respond redact_string limit rows).has_more = true ↔ limit < rows.length := by
  rw [respond, decide_eq_true_iff, List.length_take]
  omega

theorem respond_next_cursor (limit : Nat) (rows : List Row) :
    (respond redact_string limit rows).next_cursor =
      if limit < rows.length then
        (rows.take limit).getLast?.map fun r => _encode_cursor r.message.created_at r.message.id
      else none := by
  have hmore : limit < (rows.take (limit + 1)).length ↔ limit < rows.length := by
    rw [List.length_take]
    omega
  simp only [respond, decide_eq_true_iff, hmore, List.take_take, min_eq_left (Nat.le_succ limit)]

variable (t project_id q) in
/-- The rows of a response are a page below its cursor. -/
theorem page_answers {limit : Nat} (hpos : 0 < limit) (cursor : Option (Int × String)) :
    Paging.Answers (keys t project_id q) (cursor.map toLex)
      (((select t project_id q cursor).take limit).map fun r => r.message.key)
      (if limit < (select t project_id q cursor).length then
        ((select t project_id q cursor).take limit).getLast?.map fun r => r.message.key
      else none) := by
  have hmem : ∀ x, x ∈ (select t project_id q cursor).map (fun r => r.message.key) ↔
      x ∈ keys t project_id q ∧ Paging.Below (cursor.map toLex) x := by
    intro x
    have hmap : (select t project_id q cursor).map (fun r => r.message.key) =
        ((select t project_id q cursor).map Row.message).map Message.key := by
      rw [List.map_map]
      rfl
    rw [hmap, keys, Set.mem_image, List.mem_map]
    constructor
    · rintro ⟨m, hm, rfl⟩
      obtain ⟨hm, hmatches, hearlier⟩ := mem_select.mp hm
      exact ⟨⟨m, ⟨hm, hmatches⟩, rfl⟩, earlier_iff.mp hearlier⟩
    · rintro ⟨⟨m, hm, rfl⟩, hbelow⟩
      exact ⟨m, mem_select.mpr ⟨hm.1, hm.2, earlier_iff.mpr hbelow⟩, rfl⟩
  have hanswers := Paging.Answers.of_take hpos select_descending hmem
  rwa [← List.map_take, List.length_map, List.getLast?_map] at hanswers

end

/-! ## The pages that a client reads -/

section

variable (redact_string : String → String) (tables : ℕ → Tables) (project_id : String) (q : Query)

/-- A client that follows the cursors; the `k`-th request finds the `k`-th tables. -/
inductive Follows : ℕ → Option String → List Response → Prop where
  | last {k before r} : get_timeline redact_string (tables k) project_id q before = .ok r →
      r.has_more = false → Follows k before [r]
  | more {k before r cursor rs} : get_timeline redact_string (tables k) project_id q before = .ok r →
      r.has_more = true → r.next_cursor = some cursor → Follows (k + 1) (some cursor) rs →
      Follows k before (r :: rs)

end

section

variable {redact_string : String → String} {tables : ℕ → Tables} {project_id : String} {q : Query}

/-- The rows of the pages are those of a client of `Paging`. -/
theorem Follows.paging {k : ℕ} {before : Option String} {rs : List Response}
    (h : Follows redact_string tables project_id q k before rs) :
    ∀ cursor, decode_before before = .ok cursor → ∃ pages : List (List Row),
      rs.flatMap Response.items = pages.flatten.map (_redact redact_string) ∧
      Paging.Follows (fun k => keys (tables k) project_id q) k (cursor.map toLex)
        (pages.map fun page => page.map fun r => r.message.key) ∧
      ∀ r ∈ pages.flatten, ∃ j, Matching (tables j) project_id q r.message := by
  have hmatching : ∀ (k : ℕ) (cursor : Option (Int × String)),
      ∀ r ∈ (select (tables k) project_id q cursor).take q.limit,
        Matching (tables k) project_id q r.message := by
    intro k cursor r hr
    have hm := mem_select.mp (List.mem_map_of_mem (List.mem_of_mem_take hr))
    exact ⟨hm.1, hm.2.1⟩
  induction h with
  | @last k before r hr hmore =>
    intro cursor hcursor
    obtain ⟨hrefused, -, -, cursor', hcursor', rfl⟩ := get_timeline_eq_ok.mp hr
    obtain rfl : cursor' = cursor := Except.ok.inj (hcursor'.symm.trans hcursor)
    have hlast : ¬ q.limit < (select (tables k) project_id q cursor').length := by
      rw [← respond_has_more redact_string, hmore]
      exact Bool.false_ne_true
    have hpage := page_answers (tables k) project_id q (limit_pos hrefused) cursor'
    rw [if_neg hlast] at hpage
    refine ⟨[(select (tables k) project_id q cursor').take q.limit], ?_, .last hpage, ?_⟩
    · rw [List.flatMap_singleton, respond_items, List.flatten_singleton]
    · intro r hr
      rw [List.flatten_singleton] at hr
      exact ⟨k, hmatching k cursor' r hr⟩
  | @more k before r next rs hr hmore hnext _ ih =>
    intro cursor hcursor
    obtain ⟨hrefused, -, -, cursor', hcursor', rfl⟩ := get_timeline_eq_ok.mp hr
    obtain rfl : cursor' = cursor := Except.ok.inj (hcursor'.symm.trans hcursor)
    rw [respond_has_more] at hmore
    rw [respond_next_cursor, if_pos hmore] at hnext
    obtain ⟨row, hrow, rfl⟩ := Option.map_eq_some_iff.mp hnext
    have hdecode : decode_before (some (_encode_cursor row.message.created_at row.message.id)) =
        .ok (some (row.message.created_at, row.message.id)) := by
      rw [decode_before, decode_encode_cursor]
      rfl
    obtain ⟨pages, hitems, hfollows, hsound⟩ := ih _ hdecode
    have hpage := page_answers (tables k) project_id q (limit_pos hrefused) cursor'
    rw [if_pos hmore, hrow, Option.map_some] at hpage
    refine ⟨(select (tables k) project_id q cursor').take q.limit :: pages, ?_, .more hpage hfollows, ?_⟩
    · rw [List.flatMap_cons, hitems, respond_items, List.flatten_cons, List.map_append]
    · intro r hr
      rw [List.flatten_cons, List.mem_append] at hr
      rcases hr with hr | hr
      · exact ⟨k, hmatching k cursor' r hr⟩
      · exact hsound r hr

/-- What is read is what matches, the latest first and each message once. -/
theorem Follows.complete {rs : List Response}
    (h : Follows redact_string tables project_id q 0 none rs) :
    ∃ rows : List Row, rs.flatMap Response.items = rows.map (_redact redact_string) ∧
      (rows.Pairwise fun a b => b.message.key < a.message.key) ∧
      (∀ m, (∀ k, Matching (tables k) project_id q m) → m ∈ rows.map Row.message) ∧
      ∀ r ∈ rows, ∃ k, Matching (tables k) project_id q r.message := by
  obtain ⟨pages, hitems, hfollows, hsound⟩ := h.paging none rfl
  have hflat : (pages.map fun page => page.map fun r => r.message.key).flatten =
      pages.flatten.map fun r => r.message.key := by rw [List.map_flatten]
  have hdesc := hfollows.descending
  rw [hflat, List.pairwise_map] at hdesc
  refine ⟨pages.flatten, hitems, hdesc, fun m hm => ?_, hsound⟩
  have hkey : m.key ∈ pages.flatten.map fun r => r.message.key := by
    rw [← hflat]
    exact hfollows.complete (fun j _ => ⟨m, hm j, rfl⟩) (Paging.below_none m.key)
  obtain ⟨r, hr, heq⟩ := List.mem_map.mp hkey
  obtain ⟨j, hj⟩ := hsound r hr
  exact List.mem_map.mpr ⟨r, hr, eq_of_key hj.1 (hm j).1 heq⟩

/-- The cursor of every message can be sent. -/
def Sendable (t : Tables) : Prop :=
  ∀ m ∈ t.messages, (_encode_cursor m.created_at m.id).length ≤ 256

theorem cursor_length_pos (created_at : Int) (message_id : String) :
    1 ≤ (_encode_cursor created_at message_id).length := by
  obtain ⟨rest, hrest⟩ := cursor_head created_at message_id
  rw [_encode_cursor, hrest, String.length_ofList, List.length_cons]
  omega

/-- A cursor has at least the characters of its id. -/
theorem id_length_le_cursor (created_at : Int) (message_id : String) :
    message_id.length ≤ (_encode_cursor created_at message_id).length := by
  have hchars : ∀ {α β : Type} {f : α → List β} (_ : ∀ a, 1 ≤ (f a).length) (l : List α),
      l.length ≤ (l.flatMap f).length := by
    intro α β f hf l
    induction l with
    | nil => exact Nat.zero_le _
    | cons a l ih =>
      have ha := hf a
      rw [List.flatMap_cons, List.length_append, List.length_cons]
      omega
  have hescape : ∀ c, 1 ≤ (Json.escapeChar true c).length := by
    intro c
    have hunit : ∀ n, (Json.escapeUnit n).length = 6 := fun _ => rfl
    unfold Json.escapeChar
    split_ifs <;> simp [hunit]
  have hutf : ∀ c, 1 ≤ (String.utf8EncodeChar c).length := by
    intro c
    rw [String.length_utf8EncodeChar]
    exact c.utf8Size_pos
  have htext := hchars hescape message_id.toList
  have hbytes := hchars hutf (Json.encode true (.arr [.int created_at, .str message_id]))
  have hcursor := Base64.length_unpadded (cursor_payload created_at message_id)
  rw [_encode_cursor, String.length_ofList, ← String.length_toList]
  refine (htext.trans ?_).trans (hbytes.trans hcursor)
  simp only [Json.encode, Json.encodeElems, Json.encodeString, List.length_append, List.length_cons]
  omega

theorem refused_length {cursor : String} (h : q.refused (some cursor) = []) : cursor.length ≤ 256 := by
  by_contra hlength
  have hbounds : ¬ ∀ c ∈ some cursor, 1 ≤ c.length ∧ c.length ≤ 256 :=
    fun hb => hlength (hb cursor rfl).2
  rw [Query.refused, if_neg hbounds] at h
  simp at h

theorem refused_cursor {cursor : String} (h : q.refused none = []) (hpos : 1 ≤ cursor.length)
    (hlength : cursor.length ≤ 256) : q.refused (some cursor) = [] := by
  have hnone : ∀ c ∈ (none : Option String), 1 ≤ c.length ∧ c.length ≤ 256 := by simp
  have hsome : ∀ c ∈ some cursor, 1 ≤ c.length ∧ c.length ≤ 256 := by
    intro c hc
    obtain rfl : cursor = c := Option.some.inj hc
    exact ⟨hpos, hlength⟩
  rw [Query.refused, if_pos hnone] at h
  rw [Query.refused, if_pos hsome]
  exact h

/-- The pages come to an end, if there are finitely many messages. -/
theorem exists_follows (hq : q.refused none = []) (hcheck : q.check = .ok ())
    (hproject : ∀ k, project_id ∈ (tables k).projects) (hsend : ∀ k, Sendable (tables k))
    (all : List Message) (hall : ∀ k, ∀ m ∈ (tables k).messages, m ∈ all) :
    ∃ rs, Follows redact_string tables project_id q 0 none rs := by
  have hkeys : ∀ k, ∀ x ∈ keys (tables k) project_id q, x ∈ (all.map Message.key).toFinset := by
    rintro k x ⟨m, hm, rfl⟩
    exact List.mem_toFinset.mpr (List.mem_map_of_mem (hall k m hm.1))
  -- by induction on the messages that are left below the cursor
  have hrun : ∀ n k before cursor, decode_before before = .ok cursor → q.refused before = [] →
      Paging.Answers.left (all.map Message.key).toFinset (cursor.map toLex) = n →
      ∃ rs, Follows redact_string tables project_id q k before rs := by
    intro n
    induction n using Nat.strong_induction_on with
    | _ n ih =>
      intro k before cursor hcursor hrefused hleft
      have hr := get_timeline_eq_ok.mpr ⟨hrefused, hcheck, hproject k, cursor, hcursor,
        (rfl : respond redact_string q.limit (select (tables k) project_id q cursor) = _)⟩
      by_cases hmore : q.limit < (select (tables k) project_id q cursor).length
      · have hpage := page_answers (tables k) project_id q (limit_pos hrefused) cursor
        rw [if_pos hmore] at hpage
        obtain ⟨row, hrow⟩ : ∃ row,
            ((select (tables k) project_id q cursor).take q.limit).getLast? = some row := by
          cases hlast : ((select (tables k) project_id q cursor).take q.limit).getLast? with
          | some row => exact ⟨row, rfl⟩
          | none =>
            have hpos := limit_pos hrefused
            rw [List.getLast?_eq_none_iff, List.take_eq_nil_iff] at hlast
            rcases hlast with hlast | hlast
            · omega
            · rw [hlast] at hmore
              exact absurd hmore (Nat.not_lt_zero _)
        rw [hrow, Option.map_some] at hpage
        have hm : row.message ∈ (tables k).messages :=
          (mem_select.mp (List.mem_map_of_mem (List.mem_of_mem_take (List.mem_of_getLast? hrow)))).1
        have hdecode : decode_before (some (_encode_cursor row.message.created_at row.message.id)) =
            .ok (some (row.message.created_at, row.message.id)) := by
          rw [decode_before, decode_encode_cursor]
          rfl
        obtain ⟨rs, hrs⟩ := ih _ (hleft ▸ hpage.left_lt (hkeys k)) (k + 1) _ _ hdecode
          (refused_cursor hq (cursor_length_pos _ _) (hsend k _ hm)) rfl
        refine ⟨_, .more hr ((respond_has_more redact_string _ _).mpr hmore) ?_ hrs⟩
        rw [respond_next_cursor, if_pos hmore, hrow, Option.map_some]
      · refine ⟨_, .last hr ?_⟩
        rw [← Bool.not_eq_true, respond_has_more]
        exact hmore
  exact hrun _ 0 none none rfl hq rfl

end

/-- A client that follows the cursors up to the last page has read every message that matches all the time,
the latest first and once; it comes to an end if no cursor is too long. -/
theorem timeline_complete (redact_string : String → String) (tables : ℕ → Tables) (project_id : String)
    (q : Query) :
    (∀ rs, Follows redact_string tables project_id q 0 none rs →
      ∃ rows : List Row, rs.flatMap Response.items = rows.map (_redact redact_string) ∧
        (rows.Pairwise fun a b => b.message.key < a.message.key) ∧
        (∀ m, (∀ k, Matching (tables k) project_id q m) → m ∈ rows.map Row.message) ∧
        ∀ r ∈ rows, ∃ k, Matching (tables k) project_id q r.message) ∧
    (q.refused none = [] → q.check = .ok () → (∀ k, project_id ∈ (tables k).projects) →
      (∀ k, Sendable (tables k)) →
      (∃ all : List Message, ∀ k, ∀ m ∈ (tables k).messages, m ∈ all) →
      ∃ rs, Follows redact_string tables project_id q 0 none rs) :=
  ⟨fun _ h => h.complete, fun hq hcheck hproject hsend hall =>
    exists_follows hq hcheck hproject hsend hall.choose hall.choose_spec⟩

/-! ### Two pages -/

/-- A message of the time 5. -/
def said (id : String) : Message where
  id := id
  project_id := "plan"
  message_type := "opinion"
  author_type := "agent"
  author_id := "qa"
  body := "checked"
  source_session_id := none
  source_message_id := none
  created_at := 5
  correlation_id := none
  redaction_state := "clean"
  original_body := none

/-- Two messages of one time. -/
def tied (first second : String) (h : first ≠ second) : Tables where
  projects := ["plan"]
  messages := [said first, said second]
  deliveries := []
  ids := by simpa [said] using h

def one_by_one : Query where
  limit := 1
  message_type := none
  author_id := none
  delivery_status := none
  from_ts := none
  to_ts := none

theorem matching_tied {first second : String} (h : first ≠ second) :
    ∀ m ∈ (tied first second h).messages, Matching (tied first second h) "plan" one_by_one m := by
  intro m hm
  have hproject : m.project_id = "plan" := by
    rcases List.mem_pair.mp hm with rfl | rfl
    · rfl
    · rfl
  exact ⟨hm, hproject, by simp [one_by_one]⟩

theorem timeline_complete_sample :
    ∃ rs, Follows id (fun _ => tied "a" "b" (by decide)) "plan" one_by_one 0 none rs ∧
      ∃ rows : List Row, rs.flatMap Response.items = rows.map (_redact id) ∧
        said "a" ∈ rows.map Row.message ∧ said "b" ∈ rows.map Row.message := by
  have h := timeline_complete id (fun _ => tied "a" "b" (by decide)) "plan" one_by_one
  have hsend : Sendable (tied "a" "b" (by decide)) := by
    intro m hm
    rcases List.mem_pair.mp hm with rfl | rfl
    · decide
    · decide
  obtain ⟨rs, hrs⟩ := h.2 (by decide) (by decide) (fun _ => List.mem_singleton_self _) (fun _ => hsend)
    ⟨_, fun _ m hm => hm⟩
  obtain ⟨rows, hitems, -, hcomplete, -⟩ := h.1 rs hrs
  exact ⟨rs, hrs, rows, hitems,
    hcomplete _ fun _ => matching_tied _ _ List.mem_cons_self,
    hcomplete _ fun _ => matching_tied _ _ (List.mem_cons_of_mem _ (List.mem_singleton_self _))⟩

/-- An id of 300 characters. -/
def long_id (c : Char) : String := String.ofList (List.replicate 300 c)

theorem length_long_id (c : Char) : (long_id c).length = 300 := by
  rw [long_id, String.length_ofList, List.length_replicate]

theorem long_ids : long_id 'a' ≠ long_id 'b' := by decide +kernel

/-- The first page gives a cursor that the next request is refused for. -/
theorem cursor_too_long :
    ¬ ∃ rs, Follows id (fun _ => tied (long_id 'a') (long_id 'b') long_ids) "plan" one_by_one 0 none rs := by
  rintro ⟨rs, hrs⟩
  have hids : ∀ m ∈ (tied (long_id 'a') (long_id 'b') long_ids).messages, 300 ≤ m.id.length := by
    intro m hm
    rcases List.mem_pair.mp hm with rfl | rfl
    · exact (length_long_id 'a').ge
    · exact (length_long_id 'b').ge
  -- both messages are selected, and the page holds one of them
  have hmem : ∀ m ∈ (tied (long_id 'a') (long_id 'b') long_ids).messages,
      m ∈ (select (tied (long_id 'a') (long_id 'b') long_ids) "plan" one_by_one none).map Row.message :=
    fun m hm => mem_select.mpr ⟨hm, (matching_tied long_ids m hm).2, earlier_iff.mpr (Paging.below_none _)⟩
  have hlength : one_by_one.limit <
      (select (tied (long_id 'a') (long_id 'b') long_ids) "plan" one_by_one none).length := by
    have hnodup : (tied (long_id 'a') (long_id 'b') long_ids).messages.Nodup :=
      List.Nodup.of_map _ (tied (long_id 'a') (long_id 'b') long_ids).ids
    have hsub := (List.subperm_of_subset hnodup hmem).length_le
    rw [List.length_map] at hsub
    exact hsub
  cases hrs with
  | last hr hmore =>
    obtain ⟨-, -, -, cursor, hcursor, rfl⟩ := get_timeline_eq_ok.mp hr
    obtain rfl : none = cursor := Except.ok.inj hcursor
    rw [← Bool.not_eq_true, respond_has_more] at hmore
    exact hmore hlength
  | more hr hmore hnext hrest =>
    obtain ⟨-, -, -, cursor, hcursor, rfl⟩ := get_timeline_eq_ok.mp hr
    obtain rfl : none = cursor := Except.ok.inj hcursor
    rw [respond_next_cursor, if_pos hlength] at hnext
    obtain ⟨row, hrow, rfl⟩ := Option.map_eq_some_iff.mp hnext
    have hm := (mem_select.mp (List.mem_map_of_mem (List.mem_of_mem_take (List.mem_of_getLast? hrow)))).1
    have hlong := (hids _ hm).trans (id_length_le_cursor row.message.created_at row.message.id)
    -- the next request is refused
    have hrefused : ∀ {k : ℕ} {cursor : String} {rs : List Response}, 300 ≤ cursor.length →
        ¬ Follows id (fun _ => tied (long_id 'a') (long_id 'b') long_ids) "plan" one_by_one k
          (some cursor) rs := by
      intro k cursor rs hcursor hfollows
      obtain ⟨r, hr⟩ : ∃ r, get_timeline id (tied (long_id 'a') (long_id 'b') long_ids) "plan" one_by_one
          (some cursor) = .ok r := by
        cases hfollows with
        | last hr _ => exact ⟨_, hr⟩
        | more hr _ _ _ => exact ⟨_, hr⟩
      have hq := (get_timeline_eq_ok.mp hr).1
      have hbounds := refused_length hq
      omega
    exact hrefused hlong hrest

end Timeline

end WarRoom

end Plachem
