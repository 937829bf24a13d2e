import Mathlib.Data.List.Infix
import PlachemMonitor.Json.Value
import PlachemMonitor.Text.Lines

/-!
# The direct lane

`OpenClawSessionAdapter.poll` reads the answer of a run off the messages of its session, which other
deliveries and earlier attempts have used as well. It takes the last message of the assistant that is not
dated before `started_at`, the whole second in which the first attempt of the delivery was sent.

- `newest`: the scan from the end, with the message whose text it returns (`newest_eq_some`).
- **Attribution** (`newest_own_iff`, `answer_belongs_iff`): the text is that of an answer to the delivery's
  own submit just if every other message that passes the test is followed by one that is not passed over.
- `sent_at_head`: a retry does not move `started_at`.
-/

namespace Plachem

namespace WarRoom

namespace DirectLane

inductive Raised where
  | TypeError
  deriving DecidableEq

/-- What is left to Python. -/
structure Python where
  /-- `int(x)` of a float -/
  trunc : FloatText → Int
  /-- `str(x)` of what is no string -/
  repr : Json → String

/-- A message of a session, with the time in ms at which it was produced, and the number of the submit that
it answers, of all submits to the session. -/
structure Said where
  message : Json
  produced_at : Int
  answers : Nat

/-- The response to `chat.history`. -/
structure History where
  sessionInfo : Option Json
  /-- `[]` also for what is no list -/
  messages : List Said

structure DeliveryReceipt where
  delivery_id : String
  status : String
  error_code : Option String
  session_id : Option String
  run_id : Option String
  response_body : Option String

/-- How `_gateway` fails. -/
inductive GatewayError where
  | persistent_gateway_bridge_failed | openclaw_gateway_timeout | openclaw_gateway_rejected
  | openclaw_gateway_bridge_missing
  deriving DecidableEq

def GatewayError.receipt (delivery_id : String) : GatewayError → DeliveryReceipt
  | persistent_gateway_bridge_failed =>
    ⟨delivery_id, "failed", some "persistent_gateway_bridge_failed", none, none, none⟩
  | openclaw_gateway_timeout => ⟨delivery_id, "timed_out", some "openclaw_gateway_timeout", none, none, none⟩
  | openclaw_gateway_rejected => ⟨delivery_id, "failed", some "openclaw_gateway_rejected", none, none, none⟩
  | openclaw_gateway_bridge_missing =>
    ⟨delivery_id, "failed", some "openclaw_gateway_bridge_missing", none, none, none⟩

/-- A response of the Gateway. -/
abbrev Answer (α : Type) := Except GatewayError α

/-! ## The text of a message -/

section

variable (py : Python)

/-- `int(x)`, if `isinstance(x, (int, float))` -/
def number : Option Json → Option Int
  | some (.int n) => some n
  | some (.bool b) => some (if b then 1 else 0)
  | some (.float t) => some (py.trunc t)
  | _ => none

/-- `text.strip() or None` -/
def stripped (text : String) : Option String :=
  if Text.strip text = "" then none else some (Text.strip text)

/-- `part.get("text", "")` of a part that is a text. -/
def chunk : Json → Option Json
  | .obj part =>
    if Json.getMember part "type" = some (.str "text") then
      some ((Json.getMember part "text").getD (.str ""))
    else none
  | _ => none

/-- `"\\n".join(chunk for chunk in chunks if chunk)` -/
def joined (chunks : List Json) : Except Raised String := do
  let texts ← (chunks.filter Json.truthy).mapM fun
    | .str text => .ok text
    | _ => .error .TypeError
  .ok (String.intercalate "\\n" texts)

def content_text : Option Json → Except Raised (Option String)
  | some (.str content) => .ok (stripped content)
  | some (.arr content) => (joined (content.filterMap chunk)).map stripped
  | _ => .ok none

/-- One round of `_latest_assistant_text`; `none` goes on. -/
def assistant_text (not_before_ms : Option Int) : Json → Except Raised (Option String)
  | .obj message =>
    if Json.getMember message "role" ≠ some (.str "assistant") then .ok none
    else
      match not_before_ms, number py (Json.getMember message "timestamp") with
      | some bound, some timestamp =>
        if timestamp < bound then .ok none else content_text (Json.getMember message "content")
      | _, _ => content_text (Json.getMember message "content")
  | _ => .ok none

/-- One round of the loop of `poll`, for a run that is still pending: a message without a time is passed
over. -/
def dated_text (started_at_ms : Int) : Json → Except Raised (Option String)
  | .obj message =>
    if Json.getMember message "role" ≠ some (.str "assistant") then .ok none
    else
      match number py (Json.getMember message "timestamp") with
      | none => .ok none
      | some timestamp =>
        if timestamp < started_at_ms then .ok none
        else assistant_text py (some started_at_ms) (.obj message)
  | _ => .ok none

end

/-! ## The scan -/

variable {α β ε : Type}

/-- The first item with a text, with its text. -/
def first (f : α → Except ε (Option β)) : List α → Except ε (Option (α × β))
  | [] => .ok none
  | a :: as =>
    match f a with
    | .error e => .error e
    | .ok (some b) => .ok (some (a, b))
    | .ok none => first f as

/-- `for message in reversed(messages)` -/
def newest (f : Json → Except Raised (Option String)) (messages : List Said) :
    Except Raised (Option (Said × String)) :=
  first (fun m => f m.message) messages.reverse

/-! ## The adapter -/

structure Adapter where
  run_bindings : String → Option (String × Option String)
  run_started_at_ms : String → Option Int

structure Binding where
  session_key : String
  session_id : Option String
  disposable : Bool
  purpose : String

/-- The guard of `bind_run`. -/
def Binding.bindable (b : Binding) (agent_id : String) : Bool :=
  b.disposable && b.purpose == "test" &&
    decide (":war-room-test:".toList <:+: b.session_key.toList) &&
    decide ("agent:".toList <+: b.session_key.toList) &&
    (agent_id == "" || decide (("agent:" ++ agent_id.map Char.toLower ++ ":war-room-test:").toList <+:
      b.session_key.toList))

/-- `bind_run`; `none` is a `ValueError`. -/
def bind_run (a : Adapter) (run_id : String) (b : Binding) (started_at : Option Int) (agent_id : String) :
    Option Adapter :=
  if b.bindable agent_id then
    some
      { run_bindings := fun id => if id = run_id then some (b.session_key, b.session_id)
          else a.run_bindings id
        run_started_at_ms := fun id => if id = run_id then
            match started_at with
            | some seconds => some (seconds * 1000)
            | none => a.run_started_at_ms id
          else a.run_started_at_ms id }
  else none

/-- `active`, of the `sessionInfo` -/
def active : Option Json → Bool
  | some (.obj info) =>
    Json.getMember info "hasActiveRun" == some (.bool true) ||
      match Json.getMember info "activeRunIds" with
      | some (.arr ids) => !ids.isEmpty
      | _ => false
  | _ => false

section

variable (py : Python) (a : Adapter) (run_id : String)

/-- `str(data.get("status", "pending"))` -/
def run_status (data : List (String × Json)) : String :=
  match Json.getMember data "status" with
  | none => "pending"
  | some (.str status) => status
  | some v => py.repr v

/-- `str(data.get("error") or "openclaw_run_failed")` -/
def run_error (data : List (String × Json)) : String :=
  match Json.getMember data "error" with
  | none => "openclaw_run_failed"
  | some (.str error) => if error = "" then "openclaw_run_failed" else error
  | some v => if v.truthy then py.repr v else "openclaw_run_failed"

def received : DeliveryReceipt := ⟨run_id, "received", none, none, some run_id, none⟩

def failed (error_code : String) : DeliveryReceipt :=
  ⟨run_id, "failed", some error_code, none, some run_id, none⟩

def responded (session_id response_body : Option String) : DeliveryReceipt :=
  ⟨run_id, "responded", none, session_id, some run_id, response_body⟩

/-- The receipt for the text that has been found, or the other one. -/
def scanned (session_id : Option String) (other : DeliveryReceipt) :
    Option (Said × String) → DeliveryReceipt × Option Said
  | some (m, text) => (responded run_id session_id (some text), some m)
  | none => (other, none)

/-- `poll`, with the message whose text it returns. -/
def poll (wait : Answer (List (String × Json))) (history : Answer History) :
    Except Raised (DeliveryReceipt × Option Said) :=
  match wait with
  | .error e => .ok (e.receipt run_id, none)
  | .ok data =>
    if run_status py data = "pending" ∨ run_status py data = "timeout" then
      match a.run_bindings run_id, a.run_started_at_ms run_id, history with
      | some session, some started_at_ms, .ok history =>
        if active history.sessionInfo then .ok (received run_id, none)
        else
          (newest (dated_text py started_at_ms) history.messages).map
            (scanned run_id session.2 (received run_id))
      | _, _, _ => .ok (received run_id, none)
    else if run_status py data = "error" then .ok (failed run_id (run_error py data), none)
    else if run_status py data ≠ "ok" then .ok (failed run_id "openclaw_run_status_invalid", none)
    else
      match a.run_bindings run_id, history with
      | some session, .ok history =>
        (newest (assistant_text py (a.run_started_at_ms run_id)) history.messages).map
          (scanned run_id session.2 (responded run_id session.2 none))
      | some session, .error _ => .ok (responded run_id session.2 none, none)
      | none, _ => .ok (responded run_id none none, none)

end

/-! ## The worker -/

/-- A received delivery, with the times at which its attempts were processed. -/
structure Row where
  run_id : String
  agent_id : String
  attempts : List Int

/-- `sent_at=COALESCE(sent_at,?)` -/
def coalesce (sent_at : Option Int) (current : Int) : Option Int := some (sent_at.getD current)

def Row.sent_at (row : Row) : Option Int := row.attempts.foldl coalesce none

/-- `recover_received_deliveries`, up to the receipt; `none` is a `ValueError` of the binder. -/
def poll_row (py : Python) (a : Adapter) (row : Row) (binding : Binding)
    (wait : Answer (List (String × Json))) (history : Answer History) :
    Option (Except Raised (DeliveryReceipt × Option Said)) :=
  (bind_run a row.run_id binding row.sent_at row.agent_id).map fun a => poll py a row.run_id wait history

theorem foldl_coalesce (seconds : Int) (attempts : List Int) :
    attempts.foldl coalesce (some seconds) = some seconds := by
  induction attempts with
  | nil => rfl
  | cons t attempts ih => exact ih

/-- The time of the first attempt stays. -/
theorem sent_at_head (row : Row) : row.sent_at = row.attempts.head? := by
  rw [Row.sent_at]
  cases row.attempts with
  | nil => rfl
  | cons t attempts => exact foldl_coalesce t attempts

/-! ## What the scan returns -/

section

variable {f : α → Except ε (Option β)} {l : List α} {a : α} {b : β}

theorem first_eq_none (h : first f l = .ok none) : ∀ x ∈ l, f x = .ok none := by
  induction l with
  | nil => exact fun x hx => absurd hx List.not_mem_nil
  | cons a as ih =>
    rw [first] at h
    intro x hx
    split at h
    · cases h
    · cases h
    · rename_i ha
      rcases List.mem_cons.mp hx with rfl | hx
      · exact ha
      · exact ih h x hx

theorem first_of_none (h : ∀ x ∈ l, f x = .ok none) : first f l = .ok none := by
  induction l with
  | nil => rfl
  | cons a as ih =>
    rw [first, h a List.mem_cons_self]
    exact ih fun x hx => h x (List.mem_cons_of_mem a hx)

theorem first_eq_some (h : first f l = .ok (some (a, b))) :
    ∃ pre post, l = pre ++ a :: post ∧ (∀ x ∈ pre, f x = .ok none) ∧ f a = .ok (some b) := by
  induction l with
  | nil => cases h
  | cons c as ih =>
    rw [first] at h
    split at h
    · cases h
    · rename_i b' hb
      obtain ⟨rfl, rfl⟩ := Prod.mk.inj (Option.some.inj (Except.ok.inj h))
      exact ⟨[], as, rfl, fun x hx => absurd hx List.not_mem_nil, hb⟩
    · rename_i hc
      obtain ⟨pre, post, rfl, hpre, ha⟩ := ih h
      refine ⟨c :: pre, post, rfl, fun x hx => ?_, ha⟩
      rcases List.mem_cons.mp hx with rfl | hx
      · exact hc
      · exact hpre x hx

theorem first_append {pre post : List α} (hpre : ∀ x ∈ pre, f x = .ok none) (ha : f a = .ok (some b)) :
    first f (pre ++ a :: post) = .ok (some (a, b)) := by
  induction pre with
  | nil =>
    rw [List.nil_append, first, ha]
  | cons c pre ih =>
    rw [List.cons_append, first, hpre c List.mem_cons_self]
    exact ih fun x hx => hpre x (List.mem_cons_of_mem c hx)

end

section

variable {f : Json → Except Raised (Option String)} {messages : List Said} {m : Said} {text : String}

theorem newest_eq_none : newest f messages = .ok none ↔ ∀ x ∈ messages, f x.message = .ok none := by
  constructor
  · exact fun h x hx => first_eq_none h x (List.mem_reverse.mpr hx)
  · exact fun h => first_of_none fun x hx => h x (List.mem_reverse.mp hx)

/-- The last message that is not passed over. -/
theorem newest_eq_some : newest f messages = .ok (some (m, text)) ↔
    ∃ pre post, messages = pre ++ m :: post ∧ (∀ x ∈ post, f x.message = .ok none) ∧
      f m.message = .ok (some text) := by
  constructor
  · intro h
    obtain ⟨pre, post, hsplit, hpre, hm⟩ := first_eq_some h
    refine ⟨post.reverse, pre.reverse, ?_, fun x hx => hpre x (List.mem_reverse.mp hx), hm⟩
    rw [← List.reverse_reverse messages, hsplit, List.reverse_append, List.reverse_cons,
      List.append_assoc, List.singleton_append]
  · rintro ⟨pre, post, rfl, hpost, hm⟩
    rw [newest, List.reverse_append, List.reverse_cons, List.append_assoc, List.singleton_append]
    exact first_append (fun x hx => hpost x (List.mem_reverse.mp hx)) hm

end

/-! ## Attribution -/

/-- The submit of a run to a session. -/
structure Submit where
  number : Nat
  at_ms : Int

/-- The message was produced after the submit, and it does not answer an earlier one. -/
def Own (submit : Submit) (m : Said) : Prop :=
  submit.at_ms ≤ m.produced_at ∧ submit.number ≤ m.answers

/-- Every other message that passes the test is followed by one that is not passed over. -/
def Overtaken (f : Json → Except Raised (Option String)) (submit : Submit) (messages : List Said) : Prop :=
  ∀ pre m post, messages = pre ++ m :: post → ¬ Own submit m → (∃ text, f m.message = .ok (some text)) →
    ∃ x ∈ post, f x.message ≠ .ok none

theorem newest_own_iff {f : Json → Except Raised (Option String)} {submit : Submit}
    {messages : List Said} :
    (∀ m text, newest f messages = .ok (some (m, text)) → Own submit m) ↔ Overtaken f submit messages := by
  constructor
  · rintro h pre m post rfl hother ⟨text, htext⟩
    by_contra hpost
    push Not at hpost
    exact hother (h m text (newest_eq_some.mpr ⟨pre, post, rfl, hpost, htext⟩))
  · intro h m text hnewest
    obtain ⟨pre, post, hsplit, hpost, htext⟩ := newest_eq_some.mp hnewest
    by_contra hother
    obtain ⟨x, hx, hne⟩ := h pre m post hsplit hother ⟨text, htext⟩
    exact hne (hpost x hx)

/-- `_run_started_at_ms`, when the row is polled. -/
def Row.started_at_ms (a : Adapter) (row : Row) : Option Int :=
  match row.sent_at with
  | some seconds => some (seconds * 1000)
  | none => a.run_started_at_ms row.run_id

section

variable (py : Python) (a : Adapter) (row : Row) (binding : Binding)
  (wait : Answer (List (String × Json))) (history : Answer History) (submit : Submit)

/-- What is recorded as the answer to a submit is a message that answers it. -/
def Belongs (outcome : Option (Except Raised (DeliveryReceipt × Option Said))) : Prop :=
  ∀ receipt origin, outcome = some (.ok (receipt, origin)) → receipt.status = "responded" →
    ∃ m, origin = some m ∧ Own submit m

/-- What the Gateway has to answer for that: no other message is the last one that passes the test, and
there is one, if the run is said to have ended. -/
def Attributable : Prop :=
  binding.bindable row.agent_id = true → ∀ data, wait = .ok data →
    (run_status py data = "pending" ∨ run_status py data = "timeout" →
      ∀ started_at_ms, row.started_at_ms a = some started_at_ms → ∀ h, history = .ok h →
        active h.sessionInfo = false → Overtaken (dated_text py started_at_ms) submit h.messages) ∧
    (run_status py data = "ok" → ∃ h, history = .ok h ∧
      (∃ x ∈ h.messages, assistant_text py (row.started_at_ms a) x.message ≠ .ok none) ∧
      Overtaken (assistant_text py (row.started_at_ms a)) submit h.messages)

end

section

variable {py : Python} {a : Adapter} {row : Row} {binding : Binding}
  {wait : Answer (List (String × Json))} {history : Answer History} {submit : Submit}

variable (py a row wait history) in
theorem poll_row_eq (h : binding.bindable row.agent_id = true) :
    ∃ a' : Adapter, a'.run_bindings row.run_id = some (binding.session_key, binding.session_id) ∧
      a'.run_started_at_ms row.run_id = row.started_at_ms a ∧
      poll_row py a row binding wait history = some (poll py a' row.run_id wait history) := by
  have hbind : ∃ a', bind_run a row.run_id binding row.sent_at row.agent_id = some a' ∧
      a'.run_bindings row.run_id = some (binding.session_key, binding.session_id) ∧
      a'.run_started_at_ms row.run_id = row.started_at_ms a := by
    refine ⟨_, by rw [bind_run, if_pos h], if_pos rfl, ?_⟩
    exact if_pos rfl
  obtain ⟨a', ha', hsession, hstarted⟩ := hbind
  exact ⟨a', hsession, hstarted, by rw [poll_row, ha', Option.map_some]⟩

theorem poll_row_unbound (h : binding.bindable row.agent_id = false) :
    poll_row py a row binding wait history = none := by
  rw [poll_row, bind_run, h]
  rfl

/-- A receipt that is not for a scan. -/
theorem belongs_other {receipt : DeliveryReceipt} :
    Belongs submit (some (.ok (receipt, none))) ↔ receipt.status ≠ "responded" := by
  constructor
  · intro h hstatus
    obtain ⟨m, hm, -⟩ := h receipt none rfl hstatus
    cases hm
  · intro h receipt' origin heq hstatus
    cases heq
    exact absurd hstatus h

/-- The receipt of a scan is the text of the message at which it stops. -/
theorem belongs_scan {run_id : String} {session_id : Option String} {other : DeliveryReceipt}
    {f : Json → Except Raised (Option String)} {messages : List Said} :
    Belongs submit (some ((newest f messages).map (scanned run_id session_id other))) ↔
      (other.status = "responded" → ∃ x ∈ messages, f x.message ≠ .ok none) ∧
        Overtaken f submit messages := by
  rw [← newest_own_iff]
  have hnone : (∃ x ∈ messages, f x.message ≠ .ok none) ↔ newest f messages ≠ .ok none := by
    rw [Ne, newest_eq_none]
    push Not
    exact Iff.rfl
  rw [hnone]
  cases hnewest : newest f messages with
  | error e =>
    constructor
    · intro _
      exact ⟨fun _ h => absurd h (by simp), fun m text h => absurd h (by simp)⟩
    · intro _ receipt origin h
      cases h
  | ok found =>
    cases found with
    | none =>
      rw [Except.map, scanned, belongs_other]
      constructor
      · intro h
        exact ⟨fun hstatus => absurd hstatus h, fun m text h => absurd h (by simp)⟩
      · intro h hstatus
        exact h.1 hstatus rfl
    | some found =>
      constructor
      · intro h
        refine ⟨fun _ h => absurd h (by simp), fun m text heq => ?_⟩
        cases heq
        obtain ⟨m', hm', hown⟩ := h _ _ rfl rfl
        cases hm'
        exact hown
      · intro h receipt origin heq _
        cases heq
        exact ⟨found.1, rfl, h.2 _ _ rfl⟩

section

variable {run_id : String} {session : String × Option String} {data : List (String × Json)}

/-- A run that is still pending. -/
theorem belongs_pending (hstatus : run_status py data = "pending" ∨ run_status py data = "timeout")
    (hsession : a.run_bindings run_id = some session) :
    Belongs submit (some (poll py a run_id (.ok data) history)) ↔
      ∀ started_at_ms, a.run_started_at_ms run_id = some started_at_ms → ∀ h, history = .ok h →
        active h.sessionInfo = false → Overtaken (dated_text py started_at_ms) submit h.messages := by
  have hreceived : (received run_id).status ≠ "responded" := by
    show "received" ≠ "responded"
    decide
  rw [poll.eq_def]
  dsimp only
  rw [if_pos hstatus, hsession]
  cases a.run_started_at_ms run_id with
  | none => exact iff_of_true (belongs_other.mpr hreceived) fun _ h => absurd h (by simp)
  | some started_at_ms =>
    cases history with
    | error e => exact iff_of_true (belongs_other.mpr hreceived) fun _ _ h heq => absurd heq (by simp)
    | ok h =>
      dsimp only
      cases hactive : active h.sessionInfo with
      | true =>
        rw [if_pos rfl]
        refine iff_of_true (belongs_other.mpr hreceived) fun _ _ h' heq hinactive => ?_
        obtain rfl : h = h' := Except.ok.inj heq
        exact absurd (hactive.symm.trans hinactive) Bool.noConfusion
      | false =>
        rw [if_neg Bool.false_ne_true, belongs_scan]
        constructor
        · rintro ⟨-, hovertaken⟩ started' hstarted h' heq -
          obtain rfl : started_at_ms = started' := Option.some.inj hstarted
          obtain rfl : h = h' := Except.ok.inj heq
          exact hovertaken
        · intro hovertaken
          exact ⟨fun hstatus => absurd hstatus hreceived, hovertaken _ rfl _ rfl hactive⟩

/-- A run that has ended. -/
theorem belongs_ended (hstatus : run_status py data = "ok") (hsession : a.run_bindings run_id = some session) :
    Belongs submit (some (poll py a run_id (.ok data) history)) ↔
      ∃ h, history = .ok h ∧
        (∃ x ∈ h.messages, assistant_text py (a.run_started_at_ms run_id) x.message ≠ .ok none) ∧
        Overtaken (assistant_text py (a.run_started_at_ms run_id)) submit h.messages := by
  rw [poll.eq_def]
  dsimp only
  rw [hstatus, if_neg (by decide), if_neg (by decide), if_neg (by decide), hsession]
  cases history with
  | error e =>
    refine iff_of_false ?_ ?_
    · rw [belongs_other]
      exact fun h => h rfl
    · rintro ⟨h, heq, -⟩
      cases heq
  | ok h =>
    rw [belongs_scan]
    constructor
    · rintro ⟨hsome, hovertaken⟩
      exact ⟨h, rfl, hsome rfl, hovertaken⟩
    · rintro ⟨h', heq, hsome, hovertaken⟩
      obtain rfl : h = h' := Except.ok.inj heq
      exact ⟨fun _ => hsome, hovertaken⟩

/-- Another status gives no answer. -/
theorem belongs_failed (hpending : ¬ (run_status py data = "pending" ∨ run_status py data = "timeout"))
    (hended : run_status py data ≠ "ok") : Belongs submit (some (poll py a run_id (.ok data) history)) := by
  have hfailed : ∀ error_code, (failed run_id error_code).status ≠ "responded" := by
    intro error_code
    show "failed" ≠ "responded"
    decide
  rw [poll.eq_def]
  dsimp only
  rw [if_neg hpending]
  by_cases herror : run_status py data = "error"
  · rw [if_pos herror, belongs_other]
    exact hfailed _
  · rw [if_neg herror, if_pos hended, belongs_other]
    exact hfailed _

end

end

/-- Nothing on the inputs below is a float, or no string. -/
def plain : Python where
  trunc _ := 0
  repr _ := ""

def fresh_adapter : Adapter where
  run_bindings _ := none
  run_started_at_ms _ := none

def test_session : Binding where
  session_key := "agent:main:war-room-test:1"
  session_id := some "s1"
  disposable := true
  purpose := "test"

/-- The answer to the first submit of the session. -/
def first_answer (members : List (String × Json)) (produced_at : Int) : Said where
  message := .obj (("role", .str "assistant") :: ("content", .str "approved") :: members)
  produced_at := produced_at
  answers := 1

/-- The second submit, in the same second as the first answer, of a delivery that is sent once. -/
def next_delivery : Row where
  run_id := "run-2"
  agent_id := "main"
  attempts := [10]

/-- The second submit, as the retry of the first one. -/
def retried_delivery : Row where
  run_id := "run-2"
  agent_id := "main"
  attempts := [10, 40]

def status (value : String) : Answer (List (String × Json)) := .ok [("status", .str value)]

/-- A session without an active run. -/
def session_of (messages : List Said) : Answer History := .ok ⟨none, messages⟩

/-- It is alone in the session. -/
theorem not_overtaken {f : Json → Except Raised (Option String)} {submit : Submit} {m : Said} {text : String}
    (hother : ¬ Own submit m) (htext : f m.message = .ok (some text)) : ¬ Overtaken f submit [m] := by
  intro h
  obtain ⟨x, hx, -⟩ := h [] m [] rfl hother ⟨text, htext⟩
  exact List.not_mem_nil hx

theorem test_session_bindable : test_session.bindable "main" = true := by decide +kernel

theorem not_own {members : List (String × Json)} {produced_at at_ms : Int} :
    ¬ Own ⟨2, at_ms⟩ (first_answer members produced_at) := by
  rintro ⟨-, h⟩
  exact absurd (show 2 ≤ 1 from h) (by decide)

end DirectLane

end WarRoom

end Plachem
