import PlachemMonitor.Json.Indent
import PlachemMonitor.Spec.Log
import PlachemMonitor.Spec.Machine

/-!
# The gateway bridge

`PersistentGatewayBridge.request` writes one line to the bridge process and reads one line of its answer.
The process answers each line once, in order, at any time. The lock admits one request at a time.

`select` looks at the pipe alone, while `readline` first gives what it has read from there before: so the
lines between the process and the reader are in two places, `pipe` and `buffer`.

* `BridgeInv`: the lines that were read are the first ones that arrived.
* `correlation`: a result is that of its own request; and a request that is answered in time returns the
  answer exactly if nothing was outstanding when it was sent.
* `outstanding_eq`: each request that has timed out leaves one line to all later ones, so that none of
  them returns a result (`no_result_after_timeout`).
-/

namespace Plachem

namespace PersistentGatewayBridge

/-! ## The process and its reader -/

/-- A line that `request` writes. -/
structure RequestLine where
  id : String
  method : String
  params : Json
  timeoutMs : Int
  deriving DecidableEq

/-- A line that the process writes; what it leaves out is `null` or empty. -/
structure Response where
  id : String
  ok : Bool
  result : Json
  error : String
  connectionId : String
  deriving DecidableEq

inductive BridgeError where
  /-- `TimeoutError("persistent_gateway_bridge_timeout")` -/
  | timeout
  /-- `RuntimeError` -/
  | runtime (message : String)
  deriving DecidableEq

/-- A request that has been sent: when it gives up, and how many lines of earlier requests have not been
read by then. -/
structure Sent where
  request_id : String
  deadline : Int
  outstanding : Nat
  deriving DecidableEq

/-- The bridge between two things that happen to it. `arrived` and `ended` are all lines of the process
with their times, and all requests with their outcomes. -/
structure Bridge where
  now : Int
  counter : Nat
  connection_id : String
  stdin : List RequestLine
  pipe : List Response
  buffer : List Response
  waiting : Option Sent
  arrived : List (Response × Int)
  ended : List (Sent × Except BridgeError (Json × String))

/-- `f"war-room-{self._counter}"` -/
def request_id (counter : Nat) : String := "war-room-" ++ String.ofList (Json.intText counter)

def isDict : Json → Bool
  | .obj _ => true
  | _ => false

/-- What `request` makes of the line that it reads. -/
def accept (request_id : String) (response : Response) : Except BridgeError (Json × String) :=
  if response.id ≠ request_id ∨ response.ok = false ∨ isDict response.result = false then
    .error (.runtime
      (if response.error = "" then "persistent_gateway_bridge_rejected" else response.error))
  else .ok (response.result, response.connectionId)

/-- `max(1, timeout_ms // 1000 + 5)`, in milliseconds -/
def timeout_seconds (timeout_ms : Int) : Int := max 1 (timeout_ms / 1000 + 5)

inductive Event where
  /-- `request` has the lock, and writes its line. -/
  | request (method : String) (params : Json) (timeout_ms : Int)
  /-- The process answers its next line. -/
  | answer (ok : Bool) (result : Json) (error connectionId : String)
  | pass (ms : Nat)
  /-- `select` finds the pipe ready; if `readline` then has no line, it reads so many. -/
  | read (lines : Nat)
  /-- `select` finds nothing until it gives up. -/
  | giveUp

/-- What an event does, if it is possible. -/
def Event.run (b : Bridge) : Event → Option Bridge
  | .request method params timeout_ms =>
    if b.waiting.isSome then none
    else
      let counter := b.counter + 1
      some
        { b with
          counter := counter
          stdin := b.stdin ++ [⟨request_id counter, method, params, timeout_ms⟩]
          waiting := some ⟨request_id counter, b.now + timeout_seconds timeout_ms * 1000,
            b.stdin.length + b.pipe.length + b.buffer.length⟩ }
  | .answer ok result error connectionId =>
    match b.stdin with
    | [] => none
    | line :: lines =>
      let response : Response := ⟨line.id, ok, result, error, connectionId⟩
      some
        { b with
          stdin := lines
          pipe := b.pipe ++ [response]
          arrived := b.arrived ++ [(response, b.now)] }
  | .pass ms => some { b with now := b.now + ms }
  | .read lines =>
    match b.waiting with
    | none => none
    | some sent =>
      if b.pipe = [] then none
      else
        let (buffer, pipe) :=
          if b.buffer = [] then (b.pipe.take (lines + 1), b.pipe.drop (lines + 1))
          else (b.buffer, b.pipe)
        match buffer with
        | [] => none
        | response :: buffer =>
          some
            { b with
              pipe := pipe
              buffer := buffer
              connection_id := response.connectionId
              waiting := none
              ended := b.ended ++ [(sent, accept sent.request_id response)] }
  | .giveUp =>
    match b.waiting with
    | none => none
    | some sent =>
      if b.pipe = [] ∧ sent.deadline ≤ b.now then
        some { b with waiting := none, ended := b.ended ++ [(sent, .error .timeout)] }
      else none

/-- The bridge, from when its process has said hello. -/
def bridge : Machine Bridge Event where
  init b := b.counter = 0 ∧ b.stdin = [] ∧ b.pipe = [] ∧ b.buffer = [] ∧ b.waiting = none ∧
    b.arrived = [] ∧ b.ended = []
  step := Event.run

/-- The bridge when `__init__` returns. -/
def start : Bridge := ⟨0, 0, "c1", [], [], [], none, [], []⟩

theorem start_init : bridge.init start := ⟨rfl, rfl, rfl, rfl, rfl, rfl, rfl⟩

/-! ## Ids -/

theorem request_id_injective : Function.Injective request_id := by
  intro n m h
  have htext := String.ofList_injective ((String.append_right_inj _).mp h)
  have hint : (n : Int) = m := by
    refine Json.intText_append_inj Json.numEnd_nil Json.numEnd_nil ?_
    rw [htext]
  exact Int.ofNat_inj.mp hint

/-- The ids of the first requests. -/
def ids (counter : Nat) : List String := (List.range counter).map fun i => request_id (i + 1)

theorem ids_succ (counter : Nat) : ids (counter + 1) = ids counter ++ [request_id (counter + 1)] := by
  simp [ids, List.range_succ]

theorem mem_ids {counter n : Nat} : request_id n ∈ ids counter ↔ 1 ≤ n ∧ n ≤ counter := by
  simp only [ids, List.mem_map, List.mem_range]
  constructor
  · rintro ⟨i, hi, heq⟩
    have hn := request_id_injective heq
    omega
  · rintro ⟨hpos, hle⟩
    exact ⟨n - 1, by omega, by rw [Nat.sub_add_cancel hpos]⟩

theorem nodup_ids (counter : Nat) : (ids counter).Nodup :=
  List.nodup_range.map fun _ _ h => Nat.succ_injective (request_id_injective h)

/-! ## What is read -/

section Events

variable {b b' : Bridge}

/-- `readline` gives the first line that has not been read. -/
theorem read_cases {lines : Nat} (h : Event.run b (.read lines) = some b') :
    ∃ sent response buffer pipe, b.waiting = some sent ∧
      b.buffer ++ b.pipe = response :: (buffer ++ pipe) ∧
      b' = { b with
        pipe := pipe
        buffer := buffer
        connection_id := response.connectionId
        waiting := none
        ended := b.ended ++ [(sent, accept sent.request_id response)] } := by
  simp only [Event.run] at h
  cases hwaiting : b.waiting with
  | none => simp [hwaiting] at h
  | some sent =>
    simp only [hwaiting] at h
    split at h
    · cases h
    have hsplit : ∀ {buffer pipe : List Response},
        (if b.buffer = [] then (b.pipe.take (lines + 1), b.pipe.drop (lines + 1))
          else (b.buffer, b.pipe)) = (buffer, pipe) → b.buffer ++ b.pipe = buffer ++ pipe := by
      intro buffer pipe heq
      split at heq
      · rename_i hempty
        cases heq
        rw [hempty, List.nil_append, List.take_append_drop]
      · cases heq
        rfl
    generalize hread : (if b.buffer = [] then (b.pipe.take (lines + 1), b.pipe.drop (lines + 1))
      else (b.buffer, b.pipe)) = pair at h
    obtain ⟨buffer, pipe⟩ := pair
    cases buffer with
    | nil => cases h
    | cons response buffer =>
      cases h
      exact ⟨sent, response, buffer, pipe, rfl, hsplit hread, rfl⟩

theorem giveUp_cases (h : Event.run b .giveUp = some b') :
    ∃ sent, b.waiting = some sent ∧ b.pipe = [] ∧ sent.deadline ≤ b.now ∧
      b' = { b with waiting := none, ended := b.ended ++ [(sent, .error .timeout)] } := by
  simp only [Event.run] at h
  cases hwaiting : b.waiting with
  | none => simp [hwaiting] at h
  | some sent =>
    simp only [hwaiting] at h
    split at h
    · rename_i hlate
      cases h
      exact ⟨sent, rfl, hlate.1, hlate.2, rfl⟩
    · cases h

/-- A line that is accepted is that of the request. -/
theorem accept_eq_ok {id : String} {response : Response} {r : Json × String}
    (h : accept id response = .ok r) :
    response.id = id ∧ response.ok = true ∧ isDict response.result = true ∧
      r = (response.result, response.connectionId) := by
  unfold accept at h
  split at h
  · cases h
  · rename_i hchecks
    simp only [not_or, not_not, Bool.not_eq_false] at hchecks
    exact ⟨hchecks.1, hchecks.2.1, hchecks.2.2, (Except.ok.inj h).symm⟩

theorem accept_of {response : Response} (hok : response.ok = true)
    (hdict : isDict response.result = true) :
    accept response.id response = .ok (response.result, response.connectionId) := by
  simp [accept, hok, hdict]

end Events

/-! ## The invariant -/

/-- What is known of a request that has ended. -/
structure Settled (now : Int) (arrived : List (Response × Int))
    (e : Sent × Except BridgeError (Json × String)) : Prop where
  returned : ∀ r, e.2 = .ok r → e.1.outstanding = 0 ∧
    ∃ a ∈ arrived, accept e.1.request_id a.1 = .ok r
  alone : e.1.outstanding = 0 →
    (∃ a ∈ arrived, a.1.id = e.1.request_id ∧ e.2 = accept e.1.request_id a.1) ∨
      e.1.deadline ≤ now ∧ ∀ a ∈ arrived, a.1.id = e.1.request_id → e.1.deadline ≤ a.2

/-- Lines arrive in the order of the requests, and are read in that order: `taken` of them so far. -/
structure BridgeInv (b : Bridge) (taken : List Response) : Prop where
  lines : b.arrived.map (fun a => a.1.id) ++ b.stdin.map RequestLine.id = ids b.counter
  unread : b.arrived.map Prod.fst = taken ++ (b.buffer ++ b.pipe)
  waiting : ∀ s ∈ b.waiting, s.request_id = request_id b.counter ∧
    s.outstanding + taken.length + 1 = b.counter ∧ b.buffer.length ≤ s.outstanding
  ended : ∀ e ∈ b.ended, Settled b.now b.arrived e

namespace BridgeInv

variable {b : Bridge} {taken : List Response}

theorem length_unread (h : BridgeInv b taken) :
    taken.length + (b.buffer.length + b.pipe.length) = b.arrived.length := by
  have hlen := congrArg List.length h.unread
  simp only [List.length_map, List.length_append] at hlen
  exact hlen.symm

theorem length_lines (h : BridgeInv b taken) : b.arrived.length + b.stdin.length = b.counter := by
  have hlen := congrArg List.length h.lines
  simpa [ids] using hlen

/-- The line at a place is that of the request of that number. -/
theorem id_of_getElem (h : BridgeInv b taken) {i : Nat} (hi : i < b.arrived.length) :
    b.arrived[i].1.id = request_id (i + 1) := by
  have hcounter := h.length_lines
  have hids : (ids b.counter)[i]? = some (request_id (i + 1)) := by
    rw [ids, List.getElem?_map, List.getElem?_range (by omega)]
    rfl
  rw [← h.lines, List.getElem?_append_left (by simpa using hi), List.getElem?_map,
    List.getElem?_eq_getElem hi] at hids
  exact Option.some.inj hids

theorem unique (h : BridgeInv b taken) {a a' : Response × Int} (ha : a ∈ b.arrived)
    (ha' : a' ∈ b.arrived) (hid : a.1.id = a'.1.id) : a = a' := by
  have hnodup := nodup_ids b.counter
  rw [← h.lines] at hnodup
  exact List.inj_on_of_nodup_map hnodup.of_append_left ha ha' hid

/-- The first unread line. -/
theorem first_unread (h : BridgeInv b taken) {response : Response} {rest : List Response}
    (hfirst : b.buffer ++ b.pipe = response :: rest) :
    (∃ a ∈ b.arrived, a.1 = response) ∧ response.id = request_id (taken.length + 1) := by
  have hunread := h.unread
  rw [hfirst] at hunread
  have hi : taken.length < b.arrived.length := by
    have hlen := congrArg List.length hunread
    simp only [List.length_map, List.length_append, List.length_cons] at hlen
    omega
  have hget : (b.arrived.map Prod.fst)[taken.length]? = some response := by
    rw [hunread]
    simp
  rw [List.getElem?_map, List.getElem?_eq_getElem hi, Option.map_some] at hget
  have hresponse := Option.some.inj hget
  refine ⟨⟨_, List.getElem_mem hi, hresponse⟩, ?_⟩
  rw [← hresponse]
  exact h.id_of_getElem hi

end BridgeInv

/-- What is known of an ended request stays known, as time goes by and lines arrive. -/
theorem Settled.mono {now now' : Int} {arrived arrived' : List (Response × Int)}
    {e : Sent × Except BridgeError (Json × String)} (h : Settled now arrived e) (hnow : now ≤ now')
    (hsub : arrived ⊆ arrived') (hnew : ∀ a ∈ arrived', a ∈ arrived ∨ now ≤ a.2) :
    Settled now' arrived' e where
  returned r hr := by
    obtain ⟨hnone, a, ha, haccept⟩ := h.returned r hr
    exact ⟨hnone, a, hsub ha, haccept⟩
  alone hnone := by
    rcases h.alone hnone with ⟨a, ha, hid, heq⟩ | ⟨hlate, hall⟩
    · exact .inl ⟨a, hsub ha, hid, heq⟩
    · refine .inr ⟨hlate.trans hnow, fun a ha hid => ?_⟩
      rcases hnew a ha with hold | hnew
      · exact hall a hold hid
      · exact hlate.trans hnew

theorem bridgeInv_step {b b' : Bridge} {e : Event} (h : ∃ taken, BridgeInv b taken)
    (hstep : Event.run b e = some b') : ∃ taken, BridgeInv b' taken := by
  obtain ⟨taken, h⟩ := h
  cases e with
  | request method params timeout_ms =>
    simp only [Event.run] at hstep
    split at hstep
    · cases hstep
    cases hstep
    have hunread := h.length_unread
    have hlines := h.length_lines
    refine ⟨taken, ?_, h.unread, ?_, h.ended⟩
    · rw [List.map_append, ← List.append_assoc, h.lines, ids_succ]
      rfl
    · rintro s ⟨⟩
      exact ⟨rfl, by dsimp only; omega, by dsimp only; omega⟩
  | answer ok result error connectionId =>
    simp only [Event.run] at hstep
    split at hstep
    · cases hstep
    rename_i line lines hstdin
    cases hstep
    refine ⟨taken, ?_, ?_, h.waiting, fun e he => (h.ended e he).mono le_rfl ?_ ?_⟩
    · rw [← h.lines, hstdin]
      simp
    · rw [List.map_append, h.unread]
      simp
    · exact fun a ha => List.mem_append_left _ ha
    · intro a ha
      rcases List.mem_append.mp ha with ha | ha
      · exact .inl ha
      · exact .inr (List.mem_singleton.mp ha ▸ le_rfl)
  | pass ms =>
    cases hstep
    refine ⟨taken, h.lines, h.unread, h.waiting, fun e he => (h.ended e he).mono ?_ ?_ ?_⟩
    · exact Int.le_add_of_nonneg_right (Int.natCast_nonneg ms)
    · exact fun a ha => ha
    · exact fun a ha => .inl ha
  | read lines =>
    obtain ⟨sent, response, buffer, pipe, hwaiting, hfirst, rfl⟩ := read_cases hstep
    obtain ⟨⟨a, ha, rfl⟩, hid⟩ := h.first_unread hfirst
    obtain ⟨hsent, hout, -⟩ := h.waiting sent (by rw [hwaiting]; rfl)
    refine ⟨taken ++ [a.1], h.lines, ?_, by simp, ?_⟩
    · rw [h.unread, hfirst, List.append_assoc, List.singleton_append]
    · intro e he
      rcases List.mem_append.mp he with he | he
      · exact h.ended e he
      · obtain rfl := List.mem_singleton.mp he
        refine ⟨fun r hr => ?_, fun hnone => ?_⟩
        · -- the line that is accepted has the id of the request, so it was the only one
          have hsame := (accept_eq_ok hr).1
          rw [hid, hsent] at hsame
          have hcounter := request_id_injective hsame
          exact ⟨by dsimp only; omega, a, ha, hr⟩
        · have hcounter : taken.length + 1 = b.counter := by
            dsimp only at hnone
            omega
          exact .inl ⟨a, ha, by rw [hid, hsent, hcounter], rfl⟩
  | giveUp =>
    obtain ⟨sent, hwaiting, hpipe, hlate, rfl⟩ := giveUp_cases hstep
    obtain ⟨hsent, hout, hbuffer⟩ := h.waiting sent (by rw [hwaiting]; rfl)
    refine ⟨taken, h.lines, h.unread, by simp, ?_⟩
    intro e he
    rcases List.mem_append.mp he with he | he
    · exact h.ended e he
    · obtain rfl := List.mem_singleton.mp he
      refine ⟨nofun, fun hnone => .inr ⟨hlate, fun a ha hid => ?_⟩⟩
      -- nothing is left to read, so the line of this request has not arrived
      have hlen := h.length_unread
      rw [hpipe, List.length_nil] at hlen
      obtain ⟨i, hi, rfl⟩ := List.getElem_of_mem ha
      dsimp only at hnone hid hi
      rw [h.id_of_getElem hi, hsent] at hid
      have hcounter := request_id_injective hid
      omega

theorem bridgeInv : bridge.InductiveIf (fun _ _ => True) fun b => ∃ taken, BridgeInv b taken where
  init b hb := by
    obtain ⟨hcounter, hstdin, hpipe, hbuffer, hwaiting, harrived, hended⟩ := hb
    exact ⟨[], by simp [hcounter, hstdin, harrived, ids], by simp [hpipe, hbuffer, harrived],
      by simp [hwaiting], by simp [hended]⟩
  step _ _ _ h _ hstep := bridgeInv_step h hstep

/-- A result is that of its own request. A request that is answered in time returns the answer exactly
if no line of an earlier request was unread when it was sent. -/
theorem correlation {b : Bridge} (h : bridge.Reachable b) :
    ∀ sent out, (sent, out) ∈ b.ended →
      (∀ r, out = .ok r → ∃ a ∈ b.arrived, a.1.id = sent.request_id ∧ a.1.ok = true ∧
        r = (a.1.result, a.1.connectionId)) ∧
      ∀ a ∈ b.arrived, a.1.id = sent.request_id → a.1.ok = true → isDict a.1.result = true →
        a.2 < sent.deadline →
          (out = .ok (a.1.result, a.1.connectionId) ↔ sent.outstanding = 0) := by
  obtain ⟨taken, hI⟩ := bridgeInv.reachable h
  intro sent out hended
  have hsettled := hI.ended _ hended
  refine ⟨fun r hr => ?_, fun a ha hid hok hdict hlt => ⟨fun hr => ?_, fun hnone => ?_⟩⟩
  · obtain ⟨-, a, ha, haccept⟩ := hsettled.returned r hr
    obtain ⟨hid, hok, -, heq⟩ := accept_eq_ok haccept
    exact ⟨a, ha, hid, hok, heq⟩
  · exact (hsettled.returned _ hr).1
  · rcases hsettled.alone hnone with ⟨a', ha', hid', heq⟩ | ⟨-, hlate⟩
    · obtain rfl := hI.unique ha ha' (hid.trans hid'.symm)
      dsimp only at heq hid'
      rw [heq, ← hid', accept_of hok hdict]
    · have hle := hlate a ha hid
      dsimp only at hle
      omega

namespace Sample

/-- One request that is answered in time. -/
def prompt : Bridge := bridge.after start [.request "chat.history" (.obj []) 15000, .pass 300,
  .answer true (.obj []) "" "c1", .read 0]

/-- The first request gives up just before it is answered; the second one is answered at once. -/
def shifted : Bridge := bridge.after start [.request "chat.history" (.obj []) 15000, .pass 20000,
  .giveUp, .answer true (.obj []) "" "c1", .request "agent.wait" (.obj []) 15000,
  .answer true (.obj []) "" "c1", .read 0]

end Sample

/-- The prompt answer is returned. -/
theorem correlation_sample : ∃ out, (⟨"war-room-1", 20000, 0⟩, out) ∈ Sample.prompt.ended ∧
    out = .ok (.obj [], "c1") := by
  have hended : Sample.prompt.ended = [(⟨"war-room-1", 20000, 0⟩, .ok (.obj [], "c1"))] ∧
      Sample.prompt.arrived = [(⟨"war-room-1", true, .obj [], "", "c1"⟩, 300)] := by decide +kernel
  refine ⟨_, hended.1 ▸ List.mem_singleton_self _, ?_⟩
  refine ((correlation (Machine.reachable_after start_init _) _ _
    (hended.1 ▸ List.mem_singleton_self _)).2 _ (hended.2 ▸ List.mem_singleton_self _)
    rfl rfl rfl (by decide)).mpr rfl

/-- The second request of the sample is answered in time, and fails. -/
theorem late_answer_shifts : ∃ b, bridge.Reachable b ∧ ∃ sent out a, (sent, out) ∈ b.ended ∧
    a ∈ b.arrived ∧ a.1.id = sent.request_id ∧ a.1.ok = true ∧ isDict a.1.result = true ∧
    a.2 < sent.deadline ∧ out ≠ .ok (a.1.result, a.1.connectionId) := by
  refine ⟨Sample.shifted, Machine.reachable_after start_init _, ⟨"war-room-2", 40000, 1⟩,
    .error (.runtime "persistent_gateway_bridge_rejected"),
    (⟨"war-room-2", true, .obj [], "", "c1"⟩, 20000), ?_, ?_, rfl, rfl, rfl, ?_, ?_⟩ <;>
  decide +kernel

/-! ## Lines that nobody waits for -/

/-- The request has given up. -/
def gaveUp (e : Sent × Except BridgeError (Json × String)) : Bool :=
  match e.2 with
  | .error .timeout => true
  | _ => false

theorem accept_ne_timeout (sent : Sent) (response : Response) :
    gaveUp (sent, accept sent.request_id response) = false := by
  cases h : accept sent.request_id response with
  | ok r => rfl
  | error e =>
    unfold accept at h
    split at h
    · cases h
      rfl
    · cases h

/-- What is on its way belongs to the request that waits and to those that have given up. -/
structure Owed (b : Bridge) : Prop where
  total : b.stdin.length + b.pipe.length + b.buffer.length =
    b.ended.countP gaveUp + b.waiting.toList.length
  waiting : ∀ s ∈ b.waiting, s.outstanding = b.ended.countP gaveUp
  ended : Logged (fun before e => e.1.outstanding = before.countP gaveUp) b.ended

theorem owed_step {b b' : Bridge} {e : Event} (h : Owed b) (hstep : Event.run b e = some b') :
    Owed b' := by
  have htotal := h.total
  cases e with
  | request method params timeout_ms =>
    simp only [Event.run] at hstep
    split at hstep
    · cases hstep
    rename_i hfree
    cases hstep
    rw [Option.not_isSome_iff_eq_none] at hfree
    rw [hfree, Option.toList_none, List.length_nil] at htotal
    refine ⟨?_, ?_, h.ended⟩
    · simp only [List.length_append, Option.toList_some, List.length_singleton]
      omega
    · rintro s ⟨⟩
      dsimp only
      omega
  | answer ok result error connectionId =>
    simp only [Event.run] at hstep
    split at hstep
    · cases hstep
    rename_i line lines hstdin
    cases hstep
    rw [hstdin, List.length_cons] at htotal
    refine ⟨?_, h.waiting, h.ended⟩
    simp only [List.length_append, List.length_singleton]
    omega
  | pass ms =>
    cases hstep
    exact ⟨h.total, h.waiting, h.ended⟩
  | read lines =>
    obtain ⟨sent, response, buffer, pipe, hwaiting, hfirst, rfl⟩ := read_cases hstep
    have hcount := congrArg List.length hfirst
    simp only [List.length_append, List.length_cons] at hcount
    rw [hwaiting, Option.toList_some, List.length_singleton] at htotal
    refine ⟨?_, by simp, Logged.snoc_iff.mpr ⟨h.ended, h.waiting sent (by rw [hwaiting]; rfl)⟩⟩
    rw [List.countP_append, List.countP_singleton, accept_ne_timeout]
    simp only [Bool.false_eq_true, if_false, Option.toList_none, List.length_nil]
    omega
  | giveUp =>
    obtain ⟨sent, hwaiting, hpipe, hlate, rfl⟩ := giveUp_cases hstep
    rw [hwaiting, Option.toList_some, List.length_singleton] at htotal
    refine ⟨?_, by simp, Logged.snoc_iff.mpr ⟨h.ended, h.waiting sent (by rw [hwaiting]; rfl)⟩⟩
    rw [List.countP_append, List.countP_singleton]
    simpa [gaveUp] using htotal

/-- The lines that a request finds outstanding are those of the requests that have timed out. -/
theorem outstanding_eq {b : Bridge} (h : bridge.Reachable b) :
    Logged (fun before e => e.1.outstanding = before.countP gaveUp) b.ended := by
  have howed : bridge.InductiveIf (fun _ _ => True) Owed := by
    refine ⟨?_, fun _ _ _ h _ hstep => owed_step h hstep⟩
    rintro b ⟨-, hstdin, hpipe, hbuffer, hwaiting, -, hended⟩
    exact ⟨by simp [hstdin, hpipe, hbuffer, hwaiting, hended], by simp [hwaiting], hended ▸ .nil⟩
  exact (howed.reachable h).ended

/-- After a timeout no request returns a result any more. -/
theorem no_result_after_timeout {b : Bridge} (h : bridge.Reachable b)
    {before after : List (Sent × Except BridgeError (Json × String))} {sent : Sent}
    {out : Except BridgeError (Json × String)} (hended : b.ended = before ++ (sent, out) :: after)
    (htimeout : ∃ e ∈ before, gaveUp e = true) : ∃ e, out = .error e := by
  obtain ⟨taken, hI⟩ := bridgeInv.reachable h
  have hsettled := hI.ended (sent, out) (by simp [hended])
  have hcount := outstanding_eq h _ _ _ hended
  cases out with
  | error e => exact ⟨e, rfl⟩
  | ok r =>
    have hnone := (hsettled.returned r rfl).1
    have hpos := List.countP_pos_iff.mpr htimeout
    omega

/-- The request after the one that gave up is answered in time, and fails. -/
theorem no_result_after_timeout_sample : ∃ out, (⟨"war-room-2", 40000, 1⟩, out) ∈ Sample.shifted.ended ∧
    ∃ e, out = .error e := by
  have hended : Sample.shifted.ended = [(⟨"war-room-1", 20000, 0⟩, .error .timeout)] ++
      (⟨"war-room-2", 40000, 1⟩, .error (.runtime "persistent_gateway_bridge_rejected")) :: [] := by
    decide +kernel
  refine ⟨_, hended ▸ List.mem_append_right _ (List.mem_singleton_self _), ?_⟩
  exact no_result_after_timeout (Machine.reachable_after start_init _) hended
    ⟨_, List.mem_singleton_self _, rfl⟩

end PersistentGatewayBridge

end Plachem
