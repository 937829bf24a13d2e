import Mathlib.Data.List.DropRight
import Mathlib.Data.List.Infix
import PlachemMonitor.Engine.Observation
import PlachemMonitor.Spec.Machine

/-!
# The policy engine

`RuntimePolicyEngine.evaluate_event`, folded over the events of a run. The counters of the state are those
of the events (`Counted`), whatever comes between; but a retry or a tool call returns before the code that
forgets the outcomes so far, so the outcomes are counted right as long as none of these says
`state_changed` while outcomes are counted (`trace_law`).

An event that raises leaves no state, so it is no step of the fold.
-/

namespace Plachem

/-- `d.pop(k, None)` -/
def Dict.pop (d : Dict) (k : String) : Dict :=
  ⟨d.members.filter fun m => m.1 != k, by
    have hwf := d.wf
    simp only [Json.wf, Bool.and_eq_true, decide_eq_true_eq, Json.wfMembers_iff] at hwf ⊢
    exact ⟨hwf.1.sublist (List.filter_sublist.map _), fun m hm => hwf.2 m (List.mem_filter.mp hm).1⟩⟩

/-- What each step keeps of the labels so far and the state holds of all the labels and the end of the
run. -/
theorem Machine.Steps.trace {σ α : Type*} {M : Machine σ α} {G : σ → α → Prop}
    {I : List α → σ → Prop}
    (hstep : ∀ as s a s', I as s → G s a → M.step s a = some s' → I (as ++ [a]) s')
    {s s' : σ} {as : List α} (h : M.Steps G s as s') (hI : I [] s) : I as s' := by
  suffices hgen : ∀ before, I before s → I (before ++ as) s' from hgen [] hI
  clear hI
  induction h with
  | refl =>
    intro before hbefore
    rwa [List.append_nil]
  | cons hg hs _ ih =>
    intro before hbefore
    rw [List.append_cons]
    exact ih _ (hstep _ _ _ _ hbefore hg hs)

theorem Dict.get?_pop (d : Dict) (k k' : String) :
    (d.pop k).get? k' = if k' = k then none else d.get? k' := by
  unfold Dict.get? Dict.pop Json.getMember
  dsimp only
  rw [List.find?_filter]
  by_cases hk : k' = k
  · subst hk
    rw [if_pos rfl, Option.map_eq_none_iff, List.find?_eq_none]
    simp
  · rw [if_neg hk]
    congr 2
    funext m
    by_cases hm : m.1 = k'
    · simp [hm, hk]
    · simp [hm]

namespace RuntimePolicy

open CoreEngine (ObserveError int_of policy_reason)

/-! ## Streaks -/

section Streaks

variable {α : Type} [DecidableEq α]

/-- How often the last element stands at the end. -/
def streak (xs : List α) : Nat :=
  match xs.getLast? with
  | none => 0
  | some x => (xs.rtakeWhile fun y => decide (y = x)).length

@[simp] theorem streak_nil : streak ([] : List α) = 0 := rfl

/-- One more element. -/
theorem streak_concat (xs : List α) (x : α) :
    streak (xs ++ [x]) = if xs.getLast? = some x then streak xs + 1 else 1 := by
  have hconcat : streak (xs ++ [x]) = (xs.rtakeWhile fun y => decide (y = x)).length + 1 := by
    unfold streak
    rw [List.getLast?_concat]
    dsimp only
    rw [List.rtakeWhile_concat, if_pos (decide_eq_true rfl), List.length_append]
    rfl
  rw [hconcat]
  cases hlast : xs.getLast? with
  | none =>
    rw [List.getLast?_eq_none_iff.mp hlast]
    rfl
  | some y =>
    by_cases hy : y = x
    · subst hy
      rw [if_pos rfl]
      unfold streak
      rw [hlast]
    · rw [if_neg fun h => hy (Option.some.inj h), List.rtakeWhile_eq_nil_iff.mpr]
      · rfl
      · intro hne
        rw [List.getLast?_eq_some_getLast hne, Option.some.injEq] at hlast
        rwa [hlast, decide_eq_true_iff]

/-- `n` equal elements stand at the end. -/
def Repeated (n : Nat) (xs : List α) : Prop := ∃ x, List.replicate n x <:+ xs

/-- A suffix of equal elements is as long as the streak at most. -/
theorem repeated_iff {n : Nat} (hn : 0 < n) (xs : List α) : Repeated n xs ↔ n ≤ streak xs := by
  obtain ⟨n, rfl⟩ : ∃ m, n = m + 1 := ⟨n - 1, by omega⟩
  clear hn
  induction xs using List.reverseRecOn generalizing n with
  | nil => simp [Repeated]
  | append_singleton xs x ih =>
    have hends : Repeated (n + 1) (xs ++ [x]) ↔ List.replicate n x <:+ xs := by
      unfold Repeated
      constructor
      · rintro ⟨y, before, hy⟩
        rw [List.replicate_succ', ← List.append_assoc] at hy
        obtain ⟨hinit, hlast⟩ := List.append_inj' hy rfl
        obtain rfl : y = x := List.singleton_inj.mp hlast
        exact ⟨before, hinit⟩
      · rintro ⟨before, rfl⟩
        exact ⟨x, before, by rw [List.replicate_succ', ← List.append_assoc]⟩
    rw [hends, streak_concat]
    cases n with
    | zero =>
      refine iff_of_true (List.nil_suffix) ?_
      split <;> omega
    | succ n =>
      by_cases hlast : xs.getLast? = some x
      · rw [if_pos hlast, Nat.succ_le_succ_iff, ← ih]
        refine ⟨fun h => ⟨x, h⟩, ?_⟩
        rintro ⟨y, before, rfl⟩
        rw [List.replicate_succ', ← List.append_assoc, List.getLast?_concat,
          Option.some.injEq] at hlast
        exact ⟨before, by rw [hlast]⟩
      · rw [if_neg hlast]
        refine iff_of_false ?_ (by omega)
        rintro ⟨before, rfl⟩
        rw [List.replicate_succ', ← List.append_assoc, List.getLast?_concat] at hlast
        exact hlast rfl

end Streaks

/-! ## Signatures -/

/-- `_SENSITIVE_KEYS` -/
def sensitive_keys : List String :=
  ["token", "credential", "credentials", "api_key", "apikey", "password", "secret",
    "authorization", "cookie", "prompt", "message", "content"]

/-- `str.lower`, as far as an ASCII text can tell: the Kelvin sign is the only other character with an
ASCII lower case. -/
def lower_char (c : Char) : Char :=
  if c.isUpper then c.toLower else if c = '\u212A' then 'k' else c

def sensitive (key : String) : Bool := decide (key.map lower_char ∈ sensitive_keys)

mutual

/-- `_redacted_normalize`; the sort of the keys is left to `json.dumps`. -/
def redacted_normalize : Json → Json
  | .obj ms => .obj (redacted_members ms)
  | .arr xs => .arr (redacted_elems xs)
  | .str s => .str (Text.strip s)
  | v => v

def redacted_elems : List Json → List Json
  | [] => []
  | x :: xs => redacted_normalize x :: redacted_elems xs

def redacted_members : List (String × Json) → List (String × Json)
  | [] => []
  | (key, item) :: ms =>
    (key, if sensitive key then .str "[REDACTED]" else redacted_normalize item) :: redacted_members ms

end

section Signatures

variable (H : Hashlib)

/-- `event.get("target") or event.get("resource")` -/
def target_of (event : Dict) : Json :=
  let target := (event.get? "target").getD .null
  if target.truthy then target else (event.get? "resource").getD .null

def normalized_action_signature (event : Dict) : String :=
  let canonical : Json := .obj [
    ("tool_name", (event.get? "tool_name").getD .null),
    ("action_type", (event.get? "action_type").getD .null),
    ("target", target_of event),
    ("arguments", redacted_normalize ((event.get? "arguments").getD (.obj [])))]
  H.sha256 (String.ofList (canonical.dumps false))

def normalized_progress_signature (event : Dict) : String :=
  let canonical : Json := .obj [
    ("error_code", (event.get? "error_code").getD .null),
    ("result_code", (event.get? "result_code").getD .null),
    ("state_changed", .bool ((event.get? "state_changed").getD (.bool false)).truthy)]
  H.sha256 (String.ofList ((redacted_normalize canonical).dumps true))

end Signatures

/-! ## The engine -/

/-- The fields of a `RuntimeModelProfile` that the policy engine reads, with what `ModelRegistry.load`
checks of them. -/
structure RuntimeModelProfile where
  max_retries : Nat
  max_tool_calls : Option Nat
  /-- `loop_guard["consecutive_threshold"]` -/
  consecutive_threshold : Nat
  two_le : 2 ≤ consecutive_threshold

structure PolicyDecision where
  event_code : Option String
  cancel_reason : String
  retry_count : Int
  tool_call_count : Option Int
  state : Dict
  deriving DecidableEq

def PolicyDecision.cancelled (d : PolicyDecision) : Prop := d.cancel_reason ≠ ""

instance (d : PolicyDecision) : Decidable d.cancelled := by
  unfold PolicyDecision.cancelled
  infer_instance

/-- `event.get("kind") == kind` -/
def HasKind (event : Dict) (kind : String) : Prop := event.get? "kind" = some (.str kind)

/-- `event.get(key) is True` -/
def IsTrue (event : Dict) (key : String) : Prop := event.get? key = some (.bool true)

instance (event : Dict) (kind : String) : Decidable (HasKind event kind) := by
  unfold HasKind
  infer_instance

instance (event : Dict) (key : String) : Decidable (IsTrue event key) := by
  unfold IsTrue
  infer_instance

/-- `tool_count` of the state; `null` counts as none. -/
def tool_count_of : Option Json → Except ObserveError (Option Int)
  | none | some .null => .ok none
  | some v => (int_of (some v)).map some

/-- The repetitions of the signature after the event, by the keys that the last one and its count are
under. -/
def repeats_of (current : Dict) (last repeats signature : String) : Except ObserveError Int :=
  if current.get? last = some (.str signature) then
    (int_of (current.get? repeats)).map (· + 1)
  else .ok 1

section Evaluate

variable (H : Hashlib) (profile : RuntimeModelProfile)

/-- The branch for a retry. -/
def on_retry (current : Dict) (retry_count : Int) (tool_count : Option Int) : PolicyDecision :=
  let retry_count := retry_count + 1
  let current := current.set "retry_count" (.int retry_count)
  if (profile.max_retries : Int) < retry_count then
    ⟨some "RETRY_LIMIT", policy_reason "RETRY_LIMIT", retry_count, tool_count, current⟩
  else ⟨none, "", retry_count, tool_count, current⟩

/-- The branch for a tool call that is observable. -/
def on_tool_call (current event : Dict) (retry_count : Int) (tool_count : Option Int) :
    Except ObserveError PolicyDecision := do
  let tool_count := tool_count.getD 0 + 1
  let current := current.set "tool_call_count" (.int tool_count)
  let signature := normalized_action_signature H event
  let repeats ← repeats_of current "last_action_signature" "action_repeats" signature
  let current := (current.set "last_action_signature" (.str signature)).set "action_repeats"
    (.int repeats)
  if ∃ m ∈ profile.max_tool_calls, (m : Int) < tool_count then
    pure ⟨some "TOOL_BUDGET", policy_reason "TOOL_BUDGET", retry_count, some tool_count, current⟩
  else if (profile.consecutive_threshold : Int) ≤ repeats then
    pure ⟨some "LOOP_SUSPECTED", policy_reason "LOOP_GUARD", retry_count, some tool_count, current⟩
  else pure ⟨none, "", retry_count, some tool_count, current⟩

/-- The branch for an error or a result that leaves the state unchanged. -/
def on_outcome (current event : Dict) (retry_count : Int) (tool_count : Option Int) :
    Except ObserveError PolicyDecision := do
  let signature := normalized_progress_signature H event
  let repeats ← repeats_of current "last_progress_signature" "progress_repeats" signature
  let current := (current.set "last_progress_signature" (.str signature)).set "progress_repeats"
    (.int repeats)
  if (profile.consecutive_threshold : Int) ≤ repeats then
    pure ⟨some "LOOP_SUSPECTED", policy_reason "LOOP_DETECTED", retry_count, tool_count, current⟩
  else pure ⟨none, "", retry_count, tool_count, current⟩

/-- The state without the outcomes so far. -/
def forget_outcomes (current : Dict) : Dict :=
  (current.pop "last_progress_signature").set "progress_repeats" (.int 0)

/-- `kind in {"error", "result"}` -/
def is_outcome : Option Json → Except ObserveError Bool
  | some (.str kind) => .ok (decide (kind = "error" ∨ kind = "result"))
  | some (.arr _) | some (.obj _) => .error .type
  | _ => .ok false

/-- `RuntimePolicyEngine.evaluate_event` -/
def evaluate_event (state event : Dict) : Except ObserveError PolicyDecision := do
  let retry_count ← int_of (state.get? "retry_count")
  let tool_count ← tool_count_of (state.get? "tool_call_count")
  if HasKind event "retry" then pure (on_retry profile state retry_count tool_count)
  else if HasKind event "tool_call" then
    if IsTrue event "observable" then on_tool_call H profile state event retry_count tool_count
    else pure ⟨none, "", retry_count, tool_count, state⟩
  else
    let outcome ← is_outcome (event.get? "kind")
    if outcome = true ∧ ¬ IsTrue event "state_changed" then
      on_outcome H profile state event retry_count tool_count
    else if IsTrue event "state_changed" then
      pure ⟨none, "", retry_count, tool_count, forget_outcomes state⟩
    else pure ⟨none, "", retry_count, tool_count, state⟩

/-- The fold over the events of a run. -/
def folding : Machine Dict Dict where
  init state := state = Dict.empty
  step state event := ((evaluate_event H profile state event).toOption).map PolicyDecision.state

end Evaluate

/-! ## What the events are -/

/-- A tool call that counts. -/
def ObservableCall (event : Dict) : Prop := HasKind event "tool_call" ∧ IsTrue event "observable"

/-- An error or a result. -/
def Outcome (event : Dict) : Prop := HasKind event "error" ∨ HasKind event "result"

instance (event : Dict) : Decidable (ObservableCall event) := by
  unfold ObservableCall
  infer_instance

instance (event : Dict) : Decidable (Outcome event) := by
  unfold Outcome
  infer_instance

def retries (events : List Dict) : Nat := events.countP fun event => decide (HasKind event "retry")

section Trace

variable (H : Hashlib)

/-- The action signatures of the observable tool calls. -/
def calls (events : List Dict) : List String :=
  (events.filter fun event => decide (ObservableCall event)).map (normalized_action_signature H)

/-- The outcomes after one more event. -/
def outcomes_with (signatures : List String) (event : Dict) : List String :=
  if IsTrue event "state_changed" then []
  else if Outcome event then signatures ++ [normalized_progress_signature H event]
  else signatures

/-- The signatures of the errors and results since an event last said `state_changed`. -/
def outcomes (events : List Dict) : List String := events.foldl (outcomes_with H) []

/-- What is decided at an event after the others. -/
structure Law (profile : RuntimeModelProfile) (events : List Dict) (event : Dict)
    (d : PolicyDecision) : Prop where
  retry_count : d.retry_count = retries (events ++ [event])
  tool_call_count : d.tool_call_count.getD 0 = (calls H (events ++ [event])).length
  retry : HasKind event "retry" → (d.cancelled ↔ profile.max_retries < retries (events ++ [event]))
  tool_call : ObservableCall event → (d.cancelled ↔
    (∃ m ∈ profile.max_tool_calls, m < (calls H (events ++ [event])).length) ∨
      Repeated profile.consecutive_threshold (calls H (events ++ [event])))
  others : ¬ HasKind event "retry" → ¬ ObservableCall event → ¬ Outcome event → ¬ d.cancelled

/-- An error or a result is cancelled where it ends equal outcomes enough. -/
def OutcomeLaw (profile : RuntimeModelProfile) (events : List Dict) (event : Dict)
    (d : PolicyDecision) : Prop :=
  Outcome event → (d.cancelled ↔
    Repeated profile.consecutive_threshold (outcomes H (events ++ [event])))

/-- The keys hold the last of the signatures, and its streak. -/
structure Tracks (signatures : List String) (last repeats : String) (state : Dict) : Prop where
  last : state.get? last = signatures.getLast?.map Json.str
  repeats : int_of (state.get? repeats) = .ok (streak signatures)

/-- The state counts the retries and the tool calls. -/
structure Counted (events : List Dict) (state : Dict) : Prop where
  retry_count : int_of (state.get? "retry_count") = .ok (retries events)
  tool_call_count : tool_count_of (state.get? "tool_call_count") =
    .ok (if calls H events = [] then none else some (calls H events).length)
  actions : Tracks (calls H events) "last_action_signature" "action_repeats" state

/-- It counts the outcomes. -/
def Counts (events : List Dict) (state : Dict) : Prop :=
  Tracks (outcomes H events) "last_progress_signature" "progress_repeats" state

end Trace

variable {H : Hashlib} {profile : RuntimeModelProfile} {events : List Dict} {state event : Dict}
  {d : PolicyDecision}

/-! ### One more event -/

theorem retries_concat (events : List Dict) (event : Dict) :
    retries (events ++ [event]) = retries events + if HasKind event "retry" then 1 else 0 := by
  simp [retries, List.countP_append, List.countP_singleton]

theorem calls_concat (events : List Dict) (event : Dict) :
    calls H (events ++ [event]) = calls H events ++
      if ObservableCall event then [normalized_action_signature H event] else [] := by
  unfold calls
  rw [List.filter_append, List.map_append]
  by_cases hcall : ObservableCall event <;> simp [hcall]

theorem outcomes_concat (events : List Dict) (event : Dict) :
    outcomes H (events ++ [event]) = outcomes_with H (outcomes H events) event := by
  unfold outcomes
  rw [List.foldl_append]
  rfl

section Tracks

variable {signatures : List String} {last repeats signature : String}

/-- The count of the engine is the streak. -/
theorem Tracks.repeats_of (h : Tracks signatures last repeats state) (signature : String) :
    repeats_of state last repeats signature = .ok (streak (signatures ++ [signature])) := by
  unfold RuntimePolicy.repeats_of
  rw [h.last, h.repeats, streak_concat]
  cases signatures.getLast? with
  | none => rfl
  | some s =>
    rw [Option.map_some]
    by_cases hs : s = signature
    · subst hs
      rw [if_pos rfl, if_pos rfl]
      rfl
    · rw [if_neg fun h => hs (Option.some.inj h), if_neg]
      · rfl
      · rintro ⟨⟩
        exact hs rfl

theorem Tracks.set_ne (h : Tracks signatures last repeats state) {key : String} (v : Value)
    (hlast : last ≠ key) (hrepeats : repeats ≠ key) :
    Tracks signatures last repeats (state.set key v) := by
  constructor
  · rw [Dict.get?_set_ne _ _ hlast, h.last]
  · rw [Dict.get?_set_ne _ _ hrepeats, h.repeats]

/-- The keys after the signature. -/
theorem Tracks.next (state : Dict) (signatures : List String) (signature : String)
    (hne : last ≠ repeats) :
    Tracks (signatures ++ [signature]) last repeats ((state.set last (.str signature)).set repeats
      (.int (streak (signatures ++ [signature])))) := by
  constructor
  · rw [Dict.get?_set_ne _ _ hne, Dict.get?_set_self, List.getLast?_concat]
    rfl
  · rw [Dict.get?_set_self]
    rfl

end Tracks

section Branches

theorem policy_reason_ne (suffix : String)
    (h : suffix ∈ ["RETRY_LIMIT", "TOOL_BUDGET", "LOOP_GUARD", "LOOP_DETECTED"]) :
    policy_reason suffix ≠ "" := by
  simp only [List.mem_cons, List.not_mem_nil, or_false] at h
  rcases h with rfl | rfl | rfl | rfl <;> decide

theorem on_retry_spec (profile : RuntimeModelProfile) (state : Dict) (retry_count : Int)
    (tool_count : Option Int) :
    (on_retry profile state retry_count tool_count).retry_count = retry_count + 1 ∧
    (on_retry profile state retry_count tool_count).tool_call_count = tool_count ∧
    (on_retry profile state retry_count tool_count).state =
      state.set "retry_count" (.int (retry_count + 1)) ∧
    ((on_retry profile state retry_count tool_count).cancelled ↔
      (profile.max_retries : Int) < retry_count + 1) := by
  have hne : policy_reason "RETRY_LIMIT" ≠ "" := policy_reason_ne _ (by decide)
  unfold on_retry
  dsimp only
  split
  · rename_i hlimit
    exact ⟨rfl, rfl, rfl, iff_of_true hne hlimit⟩
  · rename_i hlimit
    exact ⟨rfl, rfl, rfl, iff_of_false (fun h => h rfl) hlimit⟩

/-- A tool call, where the count of its signature is this. -/
theorem on_tool_call_spec {retry_count : Int} {tool_count : Option Int} {repeats : Int}
    (hrepeats : repeats_of (state.set "tool_call_count" (.int (tool_count.getD 0 + 1)))
      "last_action_signature" "action_repeats" (normalized_action_signature H event) = .ok repeats)
    (hd : on_tool_call H profile state event retry_count tool_count = .ok d) :
    d.retry_count = retry_count ∧ d.tool_call_count = some (tool_count.getD 0 + 1) ∧
    d.state = ((state.set "tool_call_count" (.int (tool_count.getD 0 + 1))).set
      "last_action_signature" (.str (normalized_action_signature H event))).set "action_repeats"
      (.int repeats) ∧
    (d.cancelled ↔ (∃ m ∈ profile.max_tool_calls, (m : Int) < tool_count.getD 0 + 1) ∨
      (profile.consecutive_threshold : Int) ≤ repeats) := by
  have hbudget : policy_reason "TOOL_BUDGET" ≠ "" := policy_reason_ne _ (by decide)
  have hguard : policy_reason "LOOP_GUARD" ≠ "" := policy_reason_ne _ (by decide)
  unfold on_tool_call at hd
  dsimp only at hd
  rw [bind_of_ok hrepeats] at hd
  split at hd
  · rename_i hover
    obtain rfl := pure_eq_ok.mp hd
    exact ⟨rfl, rfl, rfl, iff_of_true hbudget (.inl hover)⟩
  rename_i hunder
  split at hd
  · rename_i hloop
    obtain rfl := pure_eq_ok.mp hd
    exact ⟨rfl, rfl, rfl, iff_of_true hguard (.inr hloop)⟩
  · rename_i hloop
    obtain rfl := pure_eq_ok.mp hd
    exact ⟨rfl, rfl, rfl, iff_of_false (fun h => h rfl) (not_or_intro hunder hloop)⟩

/-- An outcome, where the count of its signature is this. -/
theorem on_outcome_spec {retry_count : Int} {tool_count : Option Int} {repeats : Int}
    (hrepeats : repeats_of state "last_progress_signature" "progress_repeats"
      (normalized_progress_signature H event) = .ok repeats)
    (hd : on_outcome H profile state event retry_count tool_count = .ok d) :
    d.retry_count = retry_count ∧ d.tool_call_count = tool_count ∧
    d.state = (state.set "last_progress_signature"
      (.str (normalized_progress_signature H event))).set "progress_repeats" (.int repeats) ∧
    (d.cancelled ↔ (profile.consecutive_threshold : Int) ≤ repeats) := by
  have hdetected : policy_reason "LOOP_DETECTED" ≠ "" := policy_reason_ne _ (by decide)
  unfold on_outcome at hd
  dsimp only at hd
  rw [bind_of_ok hrepeats] at hd
  split at hd
  · rename_i hloop
    obtain rfl := pure_eq_ok.mp hd
    exact ⟨rfl, rfl, rfl, iff_of_true hdetected hloop⟩
  · rename_i hloop
    obtain rfl := pure_eq_ok.mp hd
    exact ⟨rfl, rfl, rfl, iff_of_false (fun h => h rfl) hloop⟩

end Branches

theorem HasKind.eq {k k' : String} (h : HasKind event k) (h' : HasKind event k') : k = k' :=
  Json.str.inj (Option.some.inj (h.symm.trans h'))

/-- The decision says nothing. -/
def quiet (retry_count : Int) (tool_count : Option Int) (state : Dict) : PolicyDecision :=
  ⟨none, "", retry_count, tool_count, state⟩

/-- The branches of an evaluation that does not raise. -/
inductive Evaluates (H : Hashlib) (profile : RuntimeModelProfile) (state event : Dict)
    (retry_count : Int) (tool_count : Option Int) : PolicyDecision → Prop
  | retry (h : HasKind event "retry") :
      Evaluates H profile state event retry_count tool_count
        (on_retry profile state retry_count tool_count)
  | tool_call {d : PolicyDecision} (h : ObservableCall event)
      (hd : on_tool_call H profile state event retry_count tool_count = .ok d) :
      Evaluates H profile state event retry_count tool_count d
  | hidden (h : HasKind event "tool_call") (hhidden : ¬ IsTrue event "observable") :
      Evaluates H profile state event retry_count tool_count (quiet retry_count tool_count state)
  | outcome {d : PolicyDecision} (h : Outcome event) (hsame : ¬ IsTrue event "state_changed")
      (hd : on_outcome H profile state event retry_count tool_count = .ok d) :
      Evaluates H profile state event retry_count tool_count d
  | changed (hretry : ¬ HasKind event "retry") (hcall : ¬ HasKind event "tool_call")
      (h : IsTrue event "state_changed") :
      Evaluates H profile state event retry_count tool_count
        (quiet retry_count tool_count (forget_outcomes state))
  | other (hretry : ¬ HasKind event "retry") (hcall : ¬ HasKind event "tool_call")
      (h : ¬ Outcome event) (hsame : ¬ IsTrue event "state_changed") :
      Evaluates H profile state event retry_count tool_count (quiet retry_count tool_count state)

theorem is_outcome_ok {outcome : Bool} (h : is_outcome (event.get? "kind") = .ok outcome) :
    outcome = true ↔ Outcome event := by
  unfold Outcome HasKind
  cases hkind : event.get? "kind" with
  | none =>
    rw [hkind] at h
    obtain rfl := Except.ok.inj h
    simp
  | some v =>
    rw [hkind] at h
    cases v with
    | str kind =>
      obtain rfl := Except.ok.inj h
      simp
    | arr xs => cases h
    | obj ms => cases h
    | null | bool _ | int _ | float _ =>
      obtain rfl := Except.ok.inj h
      simp

theorem evaluate_cases (h : evaluate_event H profile state event = .ok d) :
    ∃ retry_count tool_count, int_of (state.get? "retry_count") = .ok retry_count ∧
      tool_count_of (state.get? "tool_call_count") = .ok tool_count ∧
      Evaluates H profile state event retry_count tool_count d := by
  obtain ⟨retry_count, hretries, h⟩ := bind_eq_ok.mp h
  obtain ⟨tool_count, hcalls, h⟩ := bind_eq_ok.mp h
  refine ⟨retry_count, tool_count, hretries, hcalls, ?_⟩
  split at h
  · rename_i hretry
    obtain rfl := pure_eq_ok.mp h
    exact .retry hretry
  rename_i hretry
  split at h
  · rename_i hcall
    split at h
    · rename_i hobservable
      exact .tool_call ⟨hcall, hobservable⟩ h
    · rename_i hhidden
      obtain rfl := pure_eq_ok.mp h
      exact .hidden hcall hhidden
  rename_i hcall
  obtain ⟨outcome, houtcome, h⟩ := bind_eq_ok.mp h
  have hiff := is_outcome_ok houtcome
  split at h
  · rename_i hsame
    exact .outcome (hiff.mp hsame.1) hsame.2 h
  rename_i hnot
  split at h
  · rename_i hchanged
    obtain rfl := pure_eq_ok.mp h
    exact .changed hretry hcall hchanged
  · rename_i hsame
    obtain rfl := pure_eq_ok.mp h
    exact .other hretry hcall (fun houtcome => hnot ⟨hiff.mpr houtcome, hsame⟩) hsame

theorem counted_empty (H : Hashlib) : Counted H [] Dict.empty where
  retry_count := rfl
  tool_call_count := rfl
  actions := ⟨rfl, rfl⟩

theorem counts_empty (H : Hashlib) : Counts H [] Dict.empty := ⟨rfl, rfl⟩

/-- An event that counts nowhere. -/
theorem Counted.same (h : Counted H events state) (hretry : ¬ HasKind event "retry")
    (hcall : ¬ ObservableCall event) : Counted H (events ++ [event]) state := by
  constructor
  · rw [retries_concat, if_neg hretry]
    exact h.retry_count
  · rw [calls_concat, if_neg hcall, List.append_nil]
    exact h.tool_call_count
  · rw [calls_concat, if_neg hcall, List.append_nil]
    exact h.actions

/-- The other keys do not count retries or tool calls. -/
theorem Counted.congr {state' : Dict} (h : Counted H events state)
    (hsame : ∀ key ∈ ["retry_count", "tool_call_count", "last_action_signature", "action_repeats"],
      state'.get? key = state.get? key) : Counted H events state' := by
  simp only [List.forall_mem_cons] at hsame
  obtain ⟨hretry, hcall, hlast, hrepeats, -⟩ := hsame
  constructor
  · rw [hretry, h.retry_count]
  · rw [hcall, h.tool_call_count]
  · constructor
    · rw [hlast, h.actions.last]
    · rw [hrepeats, h.actions.repeats]

theorem Outcome.not_kind {k : String} (h : Outcome event) (hk : k ∉ ["error", "result"]) :
    ¬ HasKind event k := by
  intro hkind
  rcases h with h | h
  · exact hk (by simp [hkind.eq h])
  · exact hk (by simp [hkind.eq h])

theorem getD_count (xs : List String) :
    (if xs = [] then none else some (xs.length : Int)).getD 0 = xs.length := by
  cases xs with
  | nil => rfl
  | cons x xs => rfl

/-- An event that is neither a retry nor an observable tool call. -/
theorem Law.quiet (hretry : ¬ HasKind event "retry") (hcall : ¬ ObservableCall event)
    (hretries : d.retry_count = retries events)
    (hcalls : d.tool_call_count.getD 0 = (calls H events).length)
    (hquiet : ¬ Outcome event → ¬ d.cancelled) : Law H profile events event d where
  retry_count := by
    rw [retries_concat, if_neg hretry, hretries]
    rfl
  tool_call_count := by rw [calls_concat, if_neg hcall, List.append_nil, hcalls]
  retry h := absurd h hretry
  tool_call h := absurd h hcall
  others _ _ := hquiet

/-- The keys of the outcomes are not those of the other counts. -/
theorem get?_outcome_keys (state : Dict) (v w : Value) :
    ∀ key ∈ ["retry_count", "tool_call_count", "last_action_signature", "action_repeats"],
      ((state.set "last_progress_signature" v).set "progress_repeats" w).get? key =
        state.get? key := by
  intro key hkey
  have hrepeats : key ≠ "progress_repeats" := fun h => by
    rw [h] at hkey
    exact absurd hkey (by decide)
  have hlast : key ≠ "last_progress_signature" := fun h => by
    rw [h] at hkey
    exact absurd hkey (by decide)
  rw [Dict.get?_set_ne _ _ hrepeats, Dict.get?_set_ne _ _ hlast]

theorem get?_forget_outcomes (state : Dict) :
    ∀ key ∈ ["retry_count", "tool_call_count", "last_action_signature", "action_repeats"],
      (forget_outcomes state).get? key = state.get? key := by
  intro key hkey
  have hrepeats : key ≠ "progress_repeats" := fun h => by
    rw [h] at hkey
    exact absurd hkey (by decide)
  have hlast : key ≠ "last_progress_signature" := fun h => by
    rw [h] at hkey
    exact absurd hkey (by decide)
  unfold forget_outcomes
  rw [Dict.get?_set_ne _ _ hrepeats, Dict.get?_pop, if_neg hlast]

/-- The state counts the event, and the decision is by the count. -/
theorem counted_step (h : Counted H events state) (hd : evaluate_event H profile state event = .ok d) :
    Counted H (events ++ [event]) d.state ∧ Law H profile events event d := by
  obtain ⟨retry_count, tool_count, hretries, hcalls, hcases⟩ := evaluate_cases hd
  obtain rfl := Except.ok.inj (h.retry_count.symm.trans hretries)
  obtain rfl := Except.ok.inj (h.tool_call_count.symm.trans hcalls)
  have hcount := getD_count (calls H events)
  have hnocall : ∀ {k : String}, HasKind event k → k ≠ "tool_call" → ¬ ObservableCall event :=
    fun hk hne hcall => hne (hk.eq hcall.1)
  cases hcases with
  | retry hretry =>
    obtain ⟨hrc, htc, hstate, hcancelled⟩ := on_retry_spec profile state
      (retries events) (if calls H events = [] then none else some ((calls H events).length : Int))
    have hcall := hnocall hretry (by decide)
    constructor
    · constructor
      · rw [hstate, Dict.get?_set_self, retries_concat, if_pos hretry]
        rfl
      · rw [hstate, Dict.get?_set_ne _ _ (by decide), calls_concat, if_neg hcall, List.append_nil]
        exact h.tool_call_count
      · rw [hstate, calls_concat, if_neg hcall, List.append_nil]
        exact h.actions.set_ne _ (by decide) (by decide)
    · constructor
      · rw [hrc, retries_concat, if_pos hretry]
        rfl
      · rw [htc, hcount, calls_concat, if_neg hcall, List.append_nil]
      · intro _
        rw [hcancelled, retries_concat, if_pos hretry]
        omega
      · exact fun hcall' => absurd hcall' hcall
      · exact fun hnot => absurd hretry hnot
  | tool_call hcall hd =>
    have hretry : ¬ HasKind event "retry" := fun hretry => absurd (hretry.eq hcall.1) (by decide)
    have htracks : Tracks (calls H events) "last_action_signature" "action_repeats"
        (state.set "tool_call_count" (.int ((calls H events).length + 1))) :=
      h.actions.set_ne _ (by decide) (by decide)
    have hrepeats := htracks.repeats_of (normalized_action_signature H event)
    rw [← hcount] at hrepeats
    obtain ⟨hrc, htc, hstate, hcancelled⟩ := on_tool_call_spec hrepeats hd
    rw [hcount] at htc hstate hcancelled
    have hnew : calls H (events ++ [event]) =
        calls H events ++ [normalized_action_signature H event] := by
      rw [calls_concat, if_pos hcall]
    have hlength : ((calls H (events ++ [event])).length : Int) = (calls H events).length + 1 := by
      rw [hnew, List.length_append]
      rfl
    constructor
    · constructor
      · rw [hstate, Dict.get?_set_ne _ _ (by decide), Dict.get?_set_ne _ _ (by decide),
          Dict.get?_set_ne _ _ (by decide), retries_concat, if_neg hretry]
        exact h.retry_count
      · rw [hstate, Dict.get?_set_ne _ _ (by decide), Dict.get?_set_ne _ _ (by decide),
          Dict.get?_set_self, hlength, if_neg (by rw [hnew]; simp)]
        rfl
      · rw [hstate, hnew]
        exact .next _ _ _ (by decide)
    · constructor
      · rw [hrc, retries_concat, if_neg hretry]
        rfl
      · rw [htc, hlength]
        rfl
      · exact fun h => absurd h hretry
      · intro _
        rw [hcancelled, repeated_iff (by have := profile.two_le; omega), ← hnew]
        refine or_congr (exists_congr fun m => and_congr_right fun _ => ?_) ?_
        · omega
        · exact Int.ofNat_le
      · exact fun _ hnot => absurd hcall hnot
  | hidden hkind hhidden =>
    have hretry : ¬ HasKind event "retry" := fun hretry => absurd (hretry.eq hkind) (by decide)
    have hcall : ¬ ObservableCall event := fun hcall => hhidden hcall.2
    exact ⟨h.same hretry hcall, .quiet hretry hcall rfl hcount fun _ hc => hc rfl⟩
  | outcome houtcome hsame hd =>
    have hretry : ¬ HasKind event "retry" := houtcome.not_kind (by decide)
    have hcall : ¬ ObservableCall event := fun hcall => houtcome.not_kind (by decide) hcall.1
    obtain ⟨repeats, hrepeats, -⟩ := bind_eq_ok.mp hd
    obtain ⟨hrc, htc, hstate, -⟩ := on_outcome_spec hrepeats hd
    refine ⟨(h.same hretry hcall).congr ?_, .quiet hretry hcall hrc (htc ▸ hcount)
      fun hnot => absurd houtcome hnot⟩
    rw [hstate]
    exact get?_outcome_keys _ _ _
  | changed hretry hnotcall hchanged =>
    have hcall : ¬ ObservableCall event := fun hcall => hnotcall hcall.1
    exact ⟨(h.same hretry hcall).congr (get?_forget_outcomes state),
      .quiet hretry hcall rfl hcount fun _ hc => hc rfl⟩
  | other hretry hnotcall hnot hsame =>
    have hcall : ¬ ObservableCall event := fun hcall => hnotcall hcall.1
    exact ⟨h.same hretry hcall, .quiet hretry hcall rfl hcount fun _ hc => hc rfl⟩

/-! ## Outcomes -/

/-- The event says `state_changed` where no outcomes are counted, or is no retry and no tool call: these
return before the outcomes are forgotten. -/
def Forgets (state event : Dict) : Prop :=
  HasKind event "retry" ∨ HasKind event "tool_call" → IsTrue event "state_changed" →
    state.get? "last_progress_signature" = none

/-- No outcomes are there to forget. -/
theorem Counts.outcomes_nil (h : Counts H events state)
    (hnone : state.get? "last_progress_signature" = none) : outcomes H events = [] := by
  have hlast := h.last
  rw [hnone, eq_comm, Option.map_eq_none_iff] at hlast
  exact List.getLast?_eq_none_iff.mp hlast

/-- An early return keeps the outcomes. -/
theorem Counts.early (h : Counts H events state) (hforgets : Forgets state event)
    (hkind : HasKind event "retry" ∨ HasKind event "tool_call") (houtcome : ¬ Outcome event) :
    Counts H (events ++ [event]) state := by
  have hsame : outcomes H (events ++ [event]) = outcomes H events := by
    rw [outcomes_concat, outcomes_with]
    by_cases hchanged : IsTrue event "state_changed"
    · rw [if_pos hchanged, h.outcomes_nil (hforgets hkind hchanged)]
    · rw [if_neg hchanged, if_neg houtcome]
  unfold Counts
  rw [hsame]
  exact h

/-- The state counts the outcome, and the decision is by the count. -/
theorem counts_step (h : Counts H events state) (hforgets : Forgets state event)
    (hd : evaluate_event H profile state event = .ok d) :
    Counts H (events ++ [event]) d.state ∧ OutcomeLaw H profile events event d := by
  obtain ⟨retry_count, tool_count, -, -, hcases⟩ := evaluate_cases hd
  have hno : ∀ {k : String}, HasKind event k → k ∉ ["error", "result"] → ¬ Outcome event :=
    fun hk hne houtcome => houtcome.not_kind hne hk
  cases hcases with
  | retry hretry =>
    have houtcome := hno hretry (by decide)
    obtain ⟨-, -, hstate, -⟩ := on_retry_spec profile state retry_count tool_count
    refine ⟨?_, fun h => absurd h houtcome⟩
    rw [hstate]
    exact (h.early hforgets (.inl hretry) houtcome).set_ne _ (by decide) (by decide)
  | tool_call hcall hd =>
    have houtcome := hno hcall.1 (by decide)
    obtain ⟨repeats, hrepeats, -⟩ := bind_eq_ok.mp hd
    obtain ⟨-, -, hstate, -⟩ := on_tool_call_spec hrepeats hd
    refine ⟨?_, fun h => absurd h houtcome⟩
    rw [hstate]
    exact (((h.early hforgets (.inr hcall.1) houtcome).set_ne _ (by decide) (by decide)).set_ne _
      (by decide) (by decide)).set_ne _ (by decide) (by decide)
  | hidden hkind hhidden =>
    have houtcome := hno hkind (by decide)
    exact ⟨h.early hforgets (.inr hkind) houtcome, fun h => absurd h houtcome⟩
  | outcome houtcome hsame hd =>
    have hnew : outcomes H (events ++ [event]) =
        outcomes H events ++ [normalized_progress_signature H event] := by
      rw [outcomes_concat, outcomes_with, if_neg hsame, if_pos houtcome]
    obtain ⟨-, -, hstate, hcancelled⟩ :=
      on_outcome_spec (h.repeats_of (normalized_progress_signature H event)) hd
    constructor
    · unfold Counts
      rw [hstate, hnew]
      exact .next _ _ _ (by decide)
    · intro _
      rw [hcancelled, repeated_iff (by have := profile.two_le; omega), ← hnew]
      exact Int.ofNat_le
  | changed hretry hcall hchanged =>
    have hnew : outcomes H (events ++ [event]) = [] := by
      rw [outcomes_concat, outcomes_with, if_pos hchanged]
    constructor
    · unfold Counts quiet forget_outcomes
      rw [hnew]
      constructor
      · rw [Dict.get?_set_ne _ _ (by decide), Dict.get?_pop, if_pos rfl]
        rfl
      · rw [Dict.get?_set_self]
        rfl
    · intro _
      rw [hnew, repeated_iff (by have := profile.two_le; omega), streak_nil]
      have := profile.two_le
      exact iff_of_false (fun hc => hc rfl) (by omega)
  | other hretry hcall houtcome hsame =>
    refine ⟨?_, fun h => absurd h houtcome⟩
    unfold Counts
    rw [outcomes_concat, outcomes_with, if_neg hsame, if_neg houtcome]
    exact h

/-! ## Runs -/

theorem folding_step {state' : Dict} (h : (folding H profile).step state event = some state') :
    ∃ d, evaluate_event H profile state event = .ok d ∧ d.state = state' := by
  obtain ⟨d, hd, rfl⟩ := Option.map_eq_some_iff.mp h
  refine ⟨d, ?_, rfl⟩
  cases heval : evaluate_event H profile state event with
  | error e =>
    rw [heval] at hd
    cases hd
  | ok d' =>
    rw [heval] at hd
    rw [Option.some.inj hd]

/-- The retries and the tool calls of a run are counted. -/
theorem counted_run {G : Dict → Dict → Prop}
    (hrun : (folding H profile).Steps G Dict.empty events state) : Counted H events state := by
  refine hrun.trace (I := fun events state => Counted H events state) ?_ (counted_empty H)
  intro events state event state' h _ hstep
  obtain ⟨d, hd, rfl⟩ := folding_step hstep
  exact (counted_step h hd).1

/-- The outcomes of a run are counted, if they are forgotten where the state changes. -/
theorem counts_run (hrun : (folding H profile).Steps Forgets Dict.empty events state) :
    Counts H events state := by
  refine hrun.trace (I := fun events state => Counts H events state) ?_ (counts_empty H)
  intro events state event state' h hforgets hstep
  obtain ⟨d, hd, rfl⟩ := folding_step hstep
  exact (counts_step h hforgets hd).1

theorem Outcome.forgets (h : Outcome event) (state : Dict) : Forgets state event := by
  rintro (hkind | hkind)
  · exact absurd hkind (h.not_kind (by decide))
  · exact absurd hkind (h.not_kind (by decide))

/-- Over a run the counts are those of the events, and a retry or a tool call is cancelled by them; an
outcome is cancelled by them as long as no outcomes are kept where the state changes. -/
theorem trace_law (hrun : (folding H profile).Steps (fun _ _ => True) Dict.empty events state)
    (hd : evaluate_event H profile state event = .ok d) :
    Law H profile events event d ∧
      ((folding H profile).Steps Forgets Dict.empty events state →
        OutcomeLaw H profile events event d) :=
  ⟨(counted_step (counted_run hrun) hd).2, fun hrun houtcome =>
    (counts_step (counts_run hrun) (houtcome.forgets state) hd).2 houtcome⟩

namespace Sample

/-- A hash that hides nothing. -/
def plain : Hashlib := ⟨id, fun _ _ => []⟩

/-- The limits of `task_runtime_profile`. -/
def limits : RuntimeModelProfile := ⟨1, some 30, 3, by decide⟩

def failure : Dict :=
  Dict.ofList [("kind", .str "error"), ("error_code", .str "TIMEOUT")] (by simp)

/-- A tool call that changes the state. -/
def writing : Dict :=
  Dict.ofList [("kind", .str "tool_call"), ("observable", .bool true), ("tool_name", .str "write"),
    ("state_changed", .bool true)] (by simp)

/-- A result that changes it. -/
def progress : Dict :=
  Dict.ofList [("kind", .str "result"), ("state_changed", .bool true)] (by simp)

/-- The state after the events, as far as they are possible. -/
def folded (events : List Dict) : Dict := (folding plain limits).after Dict.empty events

end Sample

/-- An error is cancelled as the third, though the state has changed before it. -/
theorem outcome_kept :
    (folding Sample.plain Sample.limits).Steps (fun _ _ => True) Dict.empty
      [Sample.failure, Sample.failure, Sample.writing]
      (Sample.folded [Sample.failure, Sample.failure, Sample.writing]) ∧
    ∃ d, evaluate_event Sample.plain Sample.limits
        (Sample.folded [Sample.failure, Sample.failure, Sample.writing]) Sample.failure = .ok d ∧
      d.cancelled ∧ ¬ OutcomeLaw Sample.plain Sample.limits
        [Sample.failure, Sample.failure, Sample.writing] Sample.failure d := by
  have hexec : ((folding Sample.plain Sample.limits).exec Dict.empty
      [Sample.failure, Sample.failure, Sample.writing]).isSome = true := by decide +kernel
  obtain ⟨s, hs⟩ := Option.isSome_iff_exists.mp hexec
  have hfolded : Sample.folded [Sample.failure, Sample.failure, Sample.writing] = s := by
    unfold Sample.folded Machine.after
    rw [hs]
    rfl
  have heval : ∃ d, evaluate_event Sample.plain Sample.limits
      (Sample.folded [Sample.failure, Sample.failure, Sample.writing]) Sample.failure = .ok d ∧
      d.cancelled := by
    have hany : (evaluate_event Sample.plain Sample.limits
        (Sample.folded [Sample.failure, Sample.failure, Sample.writing])
          Sample.failure).toOption.any (fun d => decide d.cancelled) = true := by decide +kernel
    cases heval : evaluate_event Sample.plain Sample.limits
        (Sample.folded [Sample.failure, Sample.failure, Sample.writing]) Sample.failure with
    | error e =>
      rw [heval] at hany
      cases hany
    | ok d =>
      rw [heval] at hany
      exact ⟨d, rfl, of_decide_eq_true hany⟩
  refine ⟨hfolded ▸ .of_exec hs, ?_⟩
  obtain ⟨d, hd, hcancelled⟩ := heval
  refine ⟨d, hd, hcancelled, fun hlaw => ?_⟩
  have hrepeated := (hlaw (.inl rfl)).mp hcancelled
  rw [repeated_iff (by decide)] at hrepeated
  revert hrepeated
  decide +kernel

/-- An error after one that the state has changed since. -/
theorem trace_law_sample :
    ∃ d, evaluate_event Sample.plain Sample.limits (Sample.folded [Sample.failure, Sample.progress])
        Sample.failure = .ok d ∧
      Law Sample.plain Sample.limits [Sample.failure, Sample.progress] Sample.failure d ∧
      OutcomeLaw Sample.plain Sample.limits [Sample.failure, Sample.progress] Sample.failure d := by
  have hfailure : Outcome Sample.failure := .inl (by decide +kernel)
  have hprogress : Outcome Sample.progress := .inr (by decide +kernel)
  have hfirst : (folding Sample.plain Sample.limits).step Dict.empty Sample.failure =
      some (Sample.folded [Sample.failure]) := by decide +kernel
  have hsecond : (folding Sample.plain Sample.limits).step (Sample.folded [Sample.failure])
      Sample.progress = some (Sample.folded [Sample.failure, Sample.progress]) := by decide +kernel
  have hrun : (folding Sample.plain Sample.limits).Steps Forgets Dict.empty
      [Sample.failure, Sample.progress] (Sample.folded [Sample.failure, Sample.progress]) :=
    .cons (hfailure.forgets _) hfirst (.single (hprogress.forgets _) hsecond)
  have hthird : ((folding Sample.plain Sample.limits).step
      (Sample.folded [Sample.failure, Sample.progress]) Sample.failure).isSome = true := by
    decide +kernel
  obtain ⟨state, hstate⟩ := Option.isSome_iff_exists.mp hthird
  obtain ⟨d, hd, -⟩ := folding_step hstate
  obtain ⟨hlaw, houtcomes⟩ := trace_law (hrun.mono fun _ _ _ => trivial) hd
  exact ⟨d, hd, hlaw, houtcomes hrun⟩

end RuntimePolicy

end Plachem
