import PlachemMonitor.FastGateway.Adapter
import PlachemMonitor.FastGateway.Collecting

/-!
# A passed run and its review

Core takes what a worker has said for a result by tolerant rules; `poll` forwards the text itself,
the worker stores it up to `_redact_string`, and the review reads it by `json.loads`. It gets the
result of Core exactly if the text is that object already, and nothing is cut off or redacted
(`pass_usable`).

The patterns of the secrets are given, as one predicate.
-/

namespace Plachem

namespace WarRoom

namespace FastGatewayWarRoomAdapter

open OpenClawAdapter
open RunRegistry (last)

/-! ## The way of the text -/

/-- `raw_response`, or else the result as the registry file has it. -/
def forwarded (raw_response : Option String) (result : Option Dict) : Option String :=
  match raw_response.filter fun s => !is_blank s with
  | some text => some text
  | none => result.map fun d => String.ofList (Json.layout [' '] false d.sorted.json)

/-- What `poll` tells of the record that it reads. -/
def poll_receipt (run_id : String) (record : RunRecord) : DeliveryReceipt :=
  let receipt (status : String) (error_code response_body : Option String) : DeliveryReceipt :=
    ⟨status, none, error_code, some run_id, response_body⟩
  match record.status with
  | .RUNNING => receipt "received" none none
  | .CANCELLED =>
    receipt "stopped"
      (some (if record.cancel_reason = "" then "CORE_CANCELLED" else record.cancel_reason)) none
  | .PASS => receipt "responded" none (forwarded record.raw_response record.result)
  | .FAIL | .BLOCKED | .TIMEOUT =>
    receipt "failed" (some (if record.reason = "" then record.status.value else record.reason))
      (forwarded record.raw_response record.result)
  | .QUEUED => receipt "failed" (some "FAST_GATEWAY_STATUS_INVALID") none

def MAX_PUBLIC_STRING_LENGTH : Nat := 4096

/-- `_redact_string` -/
def redact_string (sensitive : String → Bool) (value : String) : String :=
  let value := if MAX_PUBLIC_STRING_LENGTH < value.toList.length then
      String.ofList (value.toList.take MAX_PUBLIC_STRING_LENGTH ++ ['…'])
    else value
  if sensitive value then "***REDACTED***" else value

/-- The result that the review reads. -/
structure BridgedResult where
  verdict : Verdict
  summary : String
  evidence : List String
  artifact_paths : List String
  deriving DecidableEq

/-- `path.startswith("/")` -/
def absolute (path : String) : Bool := "/".toList.isPrefixOf path.toList

/-- `_fast_gateway_result` -/
def fast_gateway_result (a : Collector) (body : String) (allow_response_evidence : Bool) :
    Except String BridgedResult :=
  match loadsValue (Text.strip body).toList with
  | none => .error "fast_gateway_result_invalid_json"
  | some value =>
    match value.dict? with
    | none => .error "fast_gateway_result_invalid"
    | some d =>
      if a.lower (a.str_or (d.get? "status") "") ≠ "completed" then
        .error "fast_gateway_result_not_completed"
      else
        match d.get? "summary", d.get? "artifacts" with
        | some (.str summary), some (.arr items) =>
          match items.mapM artifact_path with
          | none => .error "fast_gateway_result_artifact_invalid"
          | some artifact_paths =>
            if artifact_paths.all absolute = false then .error "fast_gateway_result_artifact_invalid"
            else if artifact_paths = [] ∧ allow_response_evidence = false then
              .error "fast_gateway_result_artifact_missing"
            else .ok ⟨.PASS, summary, artifact_paths, artifact_paths⟩
        | _, _ => .error "fast_gateway_result_fields_missing"

/-- The body that the review reads for a delivery. -/
def response_body (db : DB) (delivery_id : String) : Option String := do
  let d ← db.deliveries.find delivery_id
  let m ← db.messages.find (← d.response_message_id)
  pure m.body

/-! ## What is compared -/

/-- The paths of the artifacts of a result. -/
def artifact_paths (d : Dict) : Option (List String) :=
  match d.get? "artifacts" with
  | some (.arr items) => items.mapM artifact_path
  | _ => none

/-- An object that the review takes for a completed result. -/
structure Says (a : Collector) (d : Dict) (summary : String) (paths : List String) : Prop where
  status : a.lower (a.str_or (d.get? "status") "") = "completed"
  summary : d.get? "summary" = some (.str summary)
  paths : artifact_paths d = some paths

/-- The summary is that of the result, or its redaction. -/
def SameSummary (sensitive : String → Bool) (summary : String) (result : Dict) : Prop :=
  ∃ s, result.get? "summary" = some (.str s) ∧
    (summary = s ∨ summary = redact_string sensitive s)

/-- The review accepts the body, with the summary and the artifacts of the result. -/
def Usable (a : Collector) (sensitive : String → Bool) (allow : Bool) (result : Dict)
    (body : String) : Prop :=
  ∃ r, fast_gateway_result a body allow = .ok r ∧ SameSummary sensitive r.summary result ∧
    artifact_paths result = some r.artifact_paths

/-- The text arrives whole, the artifacts are such that the review takes them, and a text of the
worker is itself the object that the result is. -/
structure Plain (a : Collector) (sensitive : String → Bool) (allow : Bool)
    (raw_response : Option String) (result : Dict) : Prop where
  fits : ∀ body ∈ forwarded raw_response (some result),
    body.toList.length ≤ MAX_PUBLIC_STRING_LENGTH
  clean : ∀ body ∈ forwarded raw_response (some result), sensitive body = false
  absolute : ∀ paths ∈ artifact_paths result, ∀ p ∈ paths, absolute p = true
  artifact : artifact_paths result ≠ some [] ∨ allow = true
  object : ∀ text ∈ raw_response, is_blank text = false →
    ∃ d summary, loads_object (Text.strip text) = some d ∧ SameSummary sensitive summary result ∧
      ∀ paths ∈ artifact_paths result, Says a d summary paths

/-! ## What Core has passed -/

/-- A transition to PASS is for an outcome of the adapter; one without a result is read back from a
binding that has ended before. -/
def Collects (a : Collector) (_ : Log) (m : Mutation) : Prop :=
  ∀ id binding outcome reason now, m = .transition id .PASS binding outcome reason now →
    ∃ o, outcome = some o ∧ (o.result = none ∨
      o.status = .PASS ∧ ∃ agent_id payload observed_run, o = a.collect agent_id payload observed_run)

/-- The result of a run that has passed is that of an outcome, as the text is. -/
def Collected (a : Collector) (r : RunRecord) : Prop :=
  r.status = .PASS → ∀ result, r.result = some result →
    ∃ agent_id payload observed_run,
      (a.collect agent_id payload observed_run).status = .PASS ∧
      (a.collect agent_id payload observed_run).result = some result ∧
      r.raw_response = terminal_assistant_text payload

variable {a : Collector}

theorem transitioned_result (old : RunRecord) (binding : Option RunBinding) (o : AdapterOutcome)
    (reason now : String) :
    (old.transitioned .PASS binding (some o) reason now).result = o.result := by
  unfold RunRecord.transitioned
  cases binding <;> rfl

theorem transitioned_raw (old : RunRecord) (binding : Option RunBinding) (o : AdapterOutcome)
    (reason now : String) :
    (old.transitioned .PASS binding (some o) reason now).raw_response = o.raw_response := by
  unfold RunRecord.transitioned
  cases binding <;> rfl

theorem transitioned_collected {old : RunRecord} {status : CoreRunStatus} {binding : Option RunBinding}
    {outcome : Option AdapterOutcome} {reason now id : String} {log : Log}
    (hc : Collects a log (.transition id status binding outcome reason now)) :
    Collected a (old.transitioned status binding outcome reason now) := by
  intro hpass result hresult
  rw [RunRecord.transitioned_status] at hpass
  subst hpass
  obtain ⟨o, rfl, hnone | ⟨hstatus, agent_id, payload, observed_run, rfl⟩⟩ := hc _ _ _ _ _ rfl
  · rw [transitioned_result, hnone] at hresult
    cases hresult
  · rw [transitioned_result] at hresult
    exact ⟨agent_id, payload, observed_run, hstatus, hresult, transitioned_raw ..⟩

/-- An update leaves the ending and the text. -/
theorem Collected.updated {r r' : RunRecord} (h : Collected a r) (hend : r'.ending = r.ending)
    (hraw : r'.raw_response = r.raw_response) : Collected a r' := by
  have hstatus : r'.status = r.status := congrArg RunRecord.Ending.status hend
  have hresult : r'.result = r.result := congrArg RunRecord.Ending.result hend
  rw [Collected, hstatus, hresult, hraw]
  exact h

theorem goalUpdated_raw {r r' : RunRecord} {args : GoalUpdate} {event_at now : String}
    (h : r.goalUpdated args event_at now = .ok r') : r'.raw_response = r.raw_response := by
  simp only [RunRecord.goalUpdated] at h
  split at h
  · cases h
  · simp only [ne_eq, not_true_eq_false, ↓reduceIte] at h
    cases h
    rfl

theorem policyUpdated_raw {r r' : RunRecord} {args : PolicyUpdate} {event_at now : String}
    (h : r.policyUpdated args event_at now = .ok r') : r'.raw_response = r.raw_response := by
  simp only [RunRecord.policyUpdated] at h
  split at h
  · cases h
  · split at h <;> cases h
    rfl

/-- Every record of a run that has passed has its result of the adapter. -/
theorem collected {log : Log} (h : registry.ReachableIf (Collects a) log) :
    ∀ r ∈ log, Collected a r := by
  have hinv : registry.InductiveIf (Collects a) fun log => ∀ r ∈ log, Collected a r := by
    refine ⟨?_, ?_⟩
    · rintro log rfl r hr
      cases hr
    · rintro log m log' hI hc hstep r hr
      cases hstep
      rcases m.run_cases log with hrun | ⟨q, hrun, happ⟩
      · exact hI r (hrun ▸ hr)
      rw [hrun, List.mem_append, List.mem_singleton] at hr
      rcases hr with hr | rfl
      · exact hI r hr
      cases happ with
      | create hid hkey => exact fun hpass => nomatch hpass
      | transition hlast hstatus => exact transitioned_collected hc
      | reconcile_abort_observation hlast hstatus hreason => exact fun hpass => nomatch hpass
      | update_goal_state hlast h =>
        exact (hI _ (RunRegistry.last_some hlast).1).updated (RunRecord.goalUpdated_ok h).2.1
          (goalUpdated_raw h)
      | update_policy hlast h =>
        exact (hI _ (RunRegistry.last_some hlast).1).updated (RunRecord.policyUpdated_ok h).2.1
          (policyUpdated_raw h)
  exact hinv.reachable h

/-! ## A passed result -/

/-- What the validator has seen of a result that passes. -/
structure Completed (a : Collector) (d : Dict) : Prop where
  known : ∃ s, d.get? "status" = some (.str s)
  status : a.lower (a.str_or (d.get? "status") "") = "completed"
  summary : ∃ s, d.get? "summary" = some (.str s)
  paths : ∃ ps, artifact_paths d = some ps

theorem passes_of_rejection {name : String} {out : Except Unit (Option String)}
    (h : rejection name out = none) : out = .ok none ∨ out = .ok (some "") := by
  cases out with
  | error e => cases h
  | ok reason =>
    cases reason with
    | none => exact .inl rfl
    | some r =>
      have hr : r = "" := by simpa [rejection, Option.filter] using h
      exact .inr (hr ▸ rfl)

theorem schema_ok {d payload : Dict} (h : schema d payload = .ok none ∨ schema d payload = .ok (some "")) :
    (∃ s, d.get? "status" = some (.str s)) ∧ ∃ s, d.get? "summary" = some (.str s) := by
  unfold schema at h
  split at h
  · simp [pure, Except.pure] at h
  · cases hunknown : unknown_status (d.get? "status") with
    | error e => simp [hunknown, bind, Except.bind] at h
    | ok unknown =>
      cases unknown with
      | true => simp [hunknown, bind, Except.bind, pure, Except.pure] at h
      | false =>
        have hmem : d.get? "status" ∈ statuses := by
          unfold unknown_status at hunknown
          split at hunknown
          · cases hunknown
          · cases hunknown
          · simpa using hunknown
        refine ⟨?_, ?_⟩
        · simp only [statuses, List.mem_cons, List.not_mem_nil, or_false] at hmem
          rcases hmem with h | h | h <;> exact ⟨_, h⟩
        · cases hsummary : d.get? "summary" with
          | none => simp [hunknown, hsummary, bind, Except.bind, pure, Except.pure] at h
          | some v =>
            cases v with
            | str s => exact ⟨s, rfl⟩
            | _ => simp [hunknown, hsummary, bind, Except.bind, pure, Except.pure] at h

theorem artifact_items_ok {items : List Json}
    (h : a.artifact_items items = .ok none ∨ a.artifact_items items = .ok (some "")) :
    ∃ ps, items.mapM artifact_path = some ps := by
  induction items with
  | nil => exact ⟨[], rfl⟩
  | cons item items ih =>
    unfold Collector.artifact_items at h
    cases hpath : artifact_path item with
    | none => simp [hpath] at h
    | some path =>
      cases hexists : a.path_exists path with
      | error e => simp [hpath, hexists, bind, Except.bind] at h
      | ok found =>
        cases found with
        | false => simp [hpath, hexists, bind, Except.bind, pure, Except.pure] at h
        | true =>
          simp only [hpath, hexists, bind, Except.bind, ↓reduceIte] at h
          obtain ⟨ps, hps⟩ := ih h
          exact ⟨path :: ps, by simp [hpath, hps]⟩

theorem artifacts_ok {d payload : Dict}
    (h : a.artifacts d payload = .ok none ∨ a.artifacts d payload = .ok (some "")) :
    ∃ ps, artifact_paths d = some ps := by
  unfold Collector.artifacts at h
  split at h
  · rename_i items hitems
    rw [artifact_paths, hitems]
    exact artifact_items_ok h
  · simp at h

/-- A decision to pass is on a completed result. -/
theorem validate_pass {payload result : Dict} (hpass : (a.validate payload).status = .PASS)
    (hresult : (a.validate payload).result = some result) : Completed a result := by
  unfold Collector.validate at hpass hresult
  split at hpass
  · cases hpass
  · rename_i d hextract
    split at hpass
    · cases hpass
    · rename_i hnone
      have hall := List.findSome?_eq_none_iff.mp hnone
      have hs : rejection "RESULT_SCHEMA" (schema d payload) = none :=
        hall ("RESULT_SCHEMA", schema) (by simp [Collector.checks])
      have ha : rejection "ARTIFACT" (a.artifacts d payload) = none :=
        hall ("ARTIFACT", a.artifacts) (by simp [Collector.checks])
      have hschema := schema_ok (passes_of_rejection hs)
      have hpaths := artifacts_ok (passes_of_rejection ha)
      simp only [hextract, hnone] at hresult
      dsimp only at hpass
      split at hpass
      · rename_i hcompleted
        rw [if_pos hcompleted] at hresult
        obtain rfl := Option.some.inj hresult
        exact ⟨hschema.1, hcompleted, hschema.2, hpaths⟩
      · split at hpass <;> cases hpass

theorem recovered_decision (payload observed_run : Dict) (decision : ValidationDecision) :
    (a.recovered payload observed_run decision).1 = decision ∨
      ∃ p, (a.recovered payload observed_run decision).1 = a.validate p := by
  unfold Collector.recovered
  split
  · exact .inl rfl
  · exact .inl rfl
  · dsimp only
    split
    · exact .inr ⟨_, rfl⟩
    · exact .inl rfl

/-- Whichever way the result was found, a run that passes has completed. -/
theorem collect_pass {agent_id : String} {payload observed_run result : Dict}
    (hpass : (a.collect agent_id payload observed_run).status = .PASS)
    (hresult : (a.collect agent_id payload observed_run).result = some result) : Completed a result := by
  have hdecision : ∃ p, (a.validate p).status = .PASS ∧ (a.validate p).result = some result := by
    have kept : ∀ {refused : Bool} {r : Option Dict},
        (if refused = true then none else r) = some result → r = some result := by
      intro refused r h
      cases refused with
      | true => cases h
      | false => exact h
    by_cases hasked : a.recovers agent_id (a.validate payload) = true
    · simp only [Collector.collect, hasked, ↓reduceIte] at hpass hresult
      rcases recovered_decision (a := a) payload observed_run (a.validate payload) with h | ⟨p, h⟩
      · rw [h] at hpass hresult
        exact ⟨payload, hpass, kept hresult⟩
      · rw [h] at hpass hresult
        exact ⟨p, hpass, kept hresult⟩
    · simp only [Collector.collect, hasked, Bool.false_eq_true, ↓reduceIte] at hpass hresult
      exact ⟨payload, hpass, kept hresult⟩
  obtain ⟨p, hpass, hresult⟩ := hdecision
  exact validate_pass hpass hresult

/-! ## The text in the store -/

theorem loads_object_eq_some {text : String} {d : Dict} :
    loads_object text = some d ↔ Json.loads text.toList = some d.json := by
  unfold loads_object
  constructor
  · intro h
    obtain ⟨v, hv, hd⟩ := Option.bind_eq_some_iff.mp h
    cases hloads : Json.loads text.toList with
    | none =>
      rw [loadsValue_eq_none hloads] at hv
      cases hv
    | some w =>
      obtain ⟨hw, hvalue⟩ := loadsValue_eq_some hloads
      obtain rfl := Option.some.inj (hvalue.symm.trans hv)
      unfold Value.dict? at hd
      split at hd
      · rename_i heq
        cases heq
        cases hd
        rfl
      · cases hd
  · intro h
    obtain ⟨hw, hvalue⟩ := loadsValue_eq_some h
    rw [hvalue]
    rfl

/-- A text that was cut off is no object: an object ends with its bracket. -/
theorem loads_object_cut (cs : List Char) :
    loads_object (Text.strip (String.ofList (cs ++ ['…']))) = none := by
  have hdots : Text.isWhitespace '…' = false := by decide
  have hend : ∃ ds, (cs ++ ['…']).dropWhile Text.isWhitespace = ds ++ ['…'] := by
    rw [List.dropWhile_append]
    split
    · exact ⟨[], by simp [hdots]⟩
    · exact ⟨_, rfl⟩
  obtain ⟨ds, hds⟩ := hend
  have hstrip : (Text.strip (String.ofList (cs ++ ['…']))).toList = ds ++ ['…'] := by
    rw [Text.strip, String.toList_ofList, String.toList_ofList, hds,
      List.rdropWhile_concat_neg _ _ _ (by simp [hdots])]
  cases hobject : loads_object (Text.strip (String.ofList (cs ++ ['…']))) with
  | none => rfl
  | some d =>
    rw [loads_object_eq_some, hstrip] at hobject
    rcases Json.loads_obj_last hobject (List.getLast?_concat ..) with h | h
    · exact absurd h (by decide)
    · exact absurd h (by decide)

theorem loads_object_redacted : loads_object (Text.strip "***REDACTED***") = none := by
  decide +kernel

/-- What is stored is the text itself, if it is an object. -/
theorem redact_of_object {sensitive : String → Bool} {body : String} {d : Dict}
    (h : loads_object (Text.strip (redact_string sensitive body)) = some d) :
    body.toList.length ≤ MAX_PUBLIC_STRING_LENGTH ∧ sensitive body = false ∧
      redact_string sensitive body = body := by
  have hclean : ∀ {value : String}, loads_object (Text.strip (if sensitive value then "***REDACTED***"
      else value)) = some d → sensitive value = false ∧ loads_object (Text.strip value) = some d := by
    intro value hvalue
    cases hs : sensitive value with
    | true =>
      rw [hs, if_pos rfl, loads_object_redacted] at hvalue
      cases hvalue
    | false =>
      rw [hs] at hvalue
      exact ⟨rfl, hvalue⟩
  by_cases hlength : MAX_PUBLIC_STRING_LENGTH < body.toList.length
  · rw [redact_string, if_pos hlength] at h
    have hcut := (hclean h).2
    rw [loads_object_cut] at hcut
    cases hcut
  · rw [redact_string, if_neg hlength] at h ⊢
    have hs := (hclean h).1
    exact ⟨not_lt.mp hlength, hs, by simp [hs]⟩

theorem redact_of_clean {sensitive : String → Bool} {body : String}
    (hlength : body.toList.length ≤ MAX_PUBLIC_STRING_LENGTH) (hclean : sensitive body = false) :
    redact_string sensitive body = body := by
  rw [redact_string, if_neg (not_lt.mpr hlength)]
  simp [hclean]

/-- A text that starts and ends with a bracket has no spaces around. -/
theorem strip_object (ms : List (String × Json)) :
    Text.strip (String.ofList (Json.layout [' '] false (.obj ms))) =
      String.ofList (Json.layout [' '] false (.obj ms)) := by
  have hopen : Text.isWhitespace '{' = false := by decide
  have hclose : Text.isWhitespace '}' = false := by decide
  have hlayout : Json.layout [' '] false (.obj ms) =
      ('{' :: Json.layoutMembers [' '] false ms) ++ ['}'] := rfl
  rw [Text.strip, String.toList_ofList, hlayout, List.cons_append,
    List.dropWhile_cons_of_neg (by simp [hopen]), ← List.cons_append,
    List.rdropWhile_concat_neg _ _ _ (by simp [hclose])]

/-- The result that is dumped is read back. -/
theorem loads_object_dump (d : Dict) :
    loads_object (Text.strip (String.ofList (Json.layout [' '] false d.json))) = some d := by
  rw [Dict.json, strip_object, loads_object_eq_some, String.toList_ofList]
  exact Json.loads_layout (List.forall_mem_singleton.mpr rfl) false d.wf

/-! ## The review -/

/-- What the review accepts, and what it takes of it. -/
theorem fast_gateway_result_ok {body : String} {allow : Bool} {r : BridgedResult} :
    fast_gateway_result a body allow = .ok r ↔ ∃ d, loads_object (Text.strip body) = some d ∧
      Says a d r.summary r.artifact_paths ∧ (∀ p ∈ r.artifact_paths, absolute p = true) ∧
      (r.artifact_paths ≠ [] ∨ allow = true) ∧
      r = ⟨.PASS, r.summary, r.artifact_paths, r.artifact_paths⟩ := by
  unfold fast_gateway_result loads_object
  cases hvalue : loadsValue (Text.strip body).toList with
  | none => simp
  | some value =>
    cases hd : value.dict? with
    | none => simp [hd]
    | some d =>
      simp only [hd, Option.bind_some, Option.some.injEq, exists_eq_left']
      constructor
      · intro h
        split at h
        · cases h
        rename_i hstatus
        split at h
        swap
        · cases h
        rename_i summary items hsummary hitems
        split at h
        · cases h
        rename_i paths hpaths
        split at h
        · cases h
        rename_i habsolute
        split at h
        · cases h
        rename_i hsome
        cases h
        refine ⟨⟨not_not.mp hstatus, hsummary, by rw [artifact_paths, hitems]; exact hpaths⟩, ?_, ?_, rfl⟩
        · exact List.all_eq_true.mp (Bool.not_eq_false _ ▸ habsolute)
        · by_contra hnone
          push Not at hnone
          exact hsome ⟨hnone.1, Bool.not_eq_true _ ▸ hnone.2⟩
      · rintro ⟨hstates, habsolute, hsome, hr⟩
        have hpaths := hstates.paths
        unfold artifact_paths at hpaths
        split at hpaths
        swap
        · cases hpaths
        rename_i items hitems
        have hall : r.artifact_paths.all FastGatewayWarRoomAdapter.absolute = true := List.all_eq_true.mpr habsolute
        have hnone : ¬ (r.artifact_paths = [] ∧ allow = false) := by
          rintro ⟨h, h'⟩
          rcases hsome with hs | hs
          · exact hs h
          · rw [h'] at hs
            cases hs
        rw [if_neg (not_not.mpr hstates.status), hstates.summary, hitems]
        simp only [hpaths, hall, Bool.true_eq_false, ↓reduceIte, hnone]
        rw [hr]

/-! ## The dump of a result -/

theorem artifact_path_sortKeys {v : Json} (h : Json.wf v = true) :
    artifact_path v.sortKeys = artifact_path v := by
  cases v with
  | obj ms =>
    simp only [Json.wf, Bool.and_eq_true, decide_eq_true_eq] at h
    rw [Json.sortKeys, artifact_path, artifact_path, Json.getMember_sortKeys h.1]
    cases Json.getMember ms "path" with
    | none => rfl
    | some w => cases w <;> rfl
  | _ => rfl

theorem mapM_artifact_path_sortKeys {items : List Json} (h : ∀ v ∈ items, Json.wf v = true) :
    (Json.sortKeysElems items).mapM artifact_path = items.mapM artifact_path := by
  induction items with
  | nil => rfl
  | cons v items ih =>
    rw [Json.sortKeysElems, List.mapM_cons, List.mapM_cons,
      artifact_path_sortKeys (h v (List.mem_cons_self ..)),
      ih fun w hw => h w (List.mem_cons_of_mem _ hw)]

theorem artifact_paths_sorted (d : Dict) : artifact_paths d.sorted = artifact_paths d := by
  unfold artifact_paths
  rw [Dict.get?_sorted]
  cases hitems : d.get? "artifacts" with
  | none => rfl
  | some v =>
    cases v with
    | arr items =>
      exact mapM_artifact_path_sortKeys (Json.wfElems_iff.mp (Json.wf_getMember d.wf hitems))
    | _ => rfl

/-- The result in key order says the same. -/
theorem Completed.says_sorted {d : Dict} (h : Completed a d) {s : String} {ps : List String}
    (hs : d.get? "summary" = some (.str s)) (hps : artifact_paths d = some ps) :
    Says a d.sorted s ps := by
  obtain ⟨status, hstatus⟩ := h.known
  have hsorted : d.sorted.get? "status" = d.get? "status" := by
    rw [Dict.get?_sorted, hstatus]
    rfl
  refine ⟨by rw [hsorted]; exact h.status, ?_, by rw [artifact_paths_sorted, hps]⟩
  rw [Dict.get?_sorted, hs]
  rfl

/-! ## The response of a delivery -/

section

variable {cfg : Config} {db db' : DB} {env : Env} {row : DeliveryRow} {o : Outcome}
  {r : DeliveryReceipt} {body : String}

/-- The text of a receipt is stored as the response of the delivery. -/
theorem stored_body {d : Delivery} (hd : db.deliveries.find row.delivery.id = some d)
    (hreceived : d.status = .received) (hnew : row.delivery.response_message_id.getD "" = "")
    (ho : o.status = .responded) (hbody : response_text r = some body)
    (hwrite : write_poll cfg db env row o r = .ok db') :
    response_body db' row.delivery.id = some (cfg.stored body) := by
  have hid : d.id = row.delivery.id := (Table.find_some hd).2
  unfold write_poll store_response at hwrite
  rw [hbody] at hwrite
  simp only [hnew, ne_eq, not_true_eq_false, if_false] at hwrite
  obtain ⟨messages, hmessages, hwrite⟩ := bind_eq_ok.mp hwrite
  cases hinsert : db.messages.insert ⟨env.uuid 0, row.project_id, "result", row.delivery.agent_id,
      cfg.stored body⟩ with
  | none =>
    rw [hinsert] at hmessages
    cases hmessages
  | some messages' =>
    rw [hinsert] at hmessages
    obtain rfl : messages' = messages := Except.ok.inj hmessages
    cases hwrite
    simp only [response_body, Table.find_update, hd, Option.map_some, is_received, hid, hreceived,
      beq_self_eq_true, Bool.and_self, ↓reduceIte, Delivery.polled, ho, Option.bind_eq_bind,
      Option.bind_some, Table.find_insert hinsert]
    rfl

/-- The Fast Gateway has validated the result, and the worker does not. -/
theorem poll_responded (hfast : row.execution_mode = .FAST_GATEWAY)
    (htext : response_text r = some body) :
    (poll_outcome cfg db row false .responded r).status = .responded := by
  simp [poll_outcome, outcome, htext, read_response, DeliveryRow.fast, hfast]

theorem write_poll_ok (hfresh : env.uuid 0 ∉ db.messages.rows.map Message.id) :
    ∃ db', write_poll cfg db env row o r = .ok db' := by
  unfold write_poll store_response
  split
  · exact ⟨_, rfl⟩
  · split
    · exact ⟨_, rfl⟩
    · exact ⟨_, bind_eq_ok.mpr ⟨_, congrArg inserted (dif_pos hfresh), rfl⟩⟩

end

/-! ## The response of a passed run -/

section

variable {sensitive : String → Bool} {allow : Bool} {raw_response : Option String} {result : Dict}
  {body : String}

theorem forwarded_text {text : String} (h : is_blank text = false) (result : Option Dict) :
    forwarded (some text) result = some text := by
  simp [forwarded, Option.filter, h]

/-- What is forwarded is the text of the worker, or the dump of the result. -/
theorem forwarded_cases (h : forwarded raw_response (some result) = some body) :
    raw_response = some body ∧ is_blank body = false ∨
      (∀ text ∈ raw_response, is_blank text = true) ∧
        body = String.ofList (Json.layout [' '] false result.sorted.json) := by
  unfold forwarded at h
  cases hraw : raw_response.filter fun s => !is_blank s with
  | some text =>
    rw [hraw] at h
    obtain rfl := Option.some.inj h
    obtain ⟨hmem, hblank⟩ := Option.filter_eq_some_iff.mp hraw
    exact .inl ⟨hmem, by simpa using hblank⟩
  | none =>
    rw [hraw] at h
    obtain rfl := Option.some.inj h
    refine .inr ⟨fun text htext => ?_, rfl⟩
    by_contra hblank
    have hkeep := Option.filter_eq_none_iff.mp hraw text htext
    simp [hblank] at hkeep

/-- The review gets the result of Core exactly if the text is plain. -/
theorem usable_iff (hcompleted : Completed a result)
    (hbody : forwarded raw_response (some result) = some body) :
    Usable a sensitive allow result (redact_string sensitive body) ↔
      Plain a sensitive allow raw_response result := by
  constructor
  · rintro ⟨r, hr, hsummary, hpaths⟩
    obtain ⟨d, hd, hstates, habsolute, hsome, -⟩ := fast_gateway_result_ok.mp hr
    obtain ⟨hfits, hclean, heq⟩ := redact_of_object hd
    rw [heq] at hd
    refine ⟨?_, ?_, ?_, ?_, ?_⟩
    · rintro b hb
      rwa [← Option.some.inj (hbody.symm.trans hb)]
    · rintro b hb
      rwa [← Option.some.inj (hbody.symm.trans hb)]
    · rintro paths hp
      rwa [← Option.some.inj (hpaths.symm.trans hp)]
    · refine hsome.imp_left fun hne h => hne ?_
      exact Option.some.inj (hpaths.symm.trans h)
    · rintro text htext hblank
      obtain rfl : raw_response = some text := htext
      obtain rfl : text = body := Option.some.inj ((forwarded_text hblank _).symm.trans hbody)
      refine ⟨d, r.summary, hd, hsummary, fun paths hp => ?_⟩
      rwa [← Option.some.inj (hpaths.symm.trans hp)]
  · intro h
    obtain ⟨s, hs⟩ := hcompleted.summary
    obtain ⟨paths, hpaths⟩ := hcompleted.paths
    have hsome : paths ≠ [] ∨ allow = true :=
      h.artifact.imp_left fun hne heq => hne (heq ▸ hpaths)
    rw [redact_of_clean (h.fits body hbody) (h.clean body hbody)]
    have haccept : ∀ {d summary}, loads_object (Text.strip body) = some d → Says a d summary paths →
        SameSummary sensitive summary result → Usable a sensitive allow result body := by
      intro d summary hd hstates hsame
      refine ⟨⟨.PASS, summary, paths, paths⟩, fast_gateway_result_ok.mpr ?_, hsame, hpaths⟩
      exact ⟨d, hd, hstates, h.absolute paths hpaths, hsome, rfl⟩
    rcases forwarded_cases hbody with ⟨hraw, hblank⟩ | ⟨-, hdump⟩
    · obtain ⟨d, summary, hd, hsame, hstates⟩ := h.object body hraw hblank
      exact haccept hd (hstates paths hpaths) hsame
    · refine haccept ?_ (hcompleted.says_sorted hs hpaths) ⟨s, hs, .inl rfl⟩
      rw [hdump]
      exact loads_object_dump result.sorted

theorem poll_passed {run : RunRecord} (hpass : run.status = .PASS) (hresult : run.result = some result)
    (run_id : String) : ∃ body, forwarded run.raw_response (some result) = some body ∧
      response_text (poll_receipt run_id run) = some body := by
  have hreceipt : (poll_receipt run_id run).response_body =
      forwarded run.raw_response (some result) := by
    simp only [poll_receipt, hpass, hresult]
  have hbody : ∃ body, forwarded run.raw_response (some result) = some body := by
    unfold forwarded
    split <;> exact ⟨_, rfl⟩
  obtain ⟨body, hbody⟩ := hbody
  refine ⟨body, hbody, ?_⟩
  rw [response_text, hreceipt, hbody, Option.filter_some]
  have hnonblank : Text.strip body ≠ "" := by
    rcases forwarded_cases hbody with ⟨-, hblank⟩ | ⟨-, hdump⟩
    · simpa [is_blank] using hblank
    · intro h
      rw [hdump, Dict.json, strip_object] at h
      have hnil := congrArg String.toList h
      rw [String.toList_ofList] at hnil
      cases hnil
  rw [if_pos (by simpa using hnonblank)]

/-- The response of a run that has passed is of use to the review exactly if its text is plain. -/
theorem pass_usable {log : Log} (hlog : registry.ReachableIf (Collects a) log) {id : String}
    {run : RunRecord} (hrun : last id log = some run) (hpass : run.status = .PASS)
    (hresult : run.result = some result) {cfg : Config} (hstored : cfg.stored = redact_string sensitive)
    {db db' : DB} {env : Env} {row : DeliveryRow} {d : Delivery}
    (hfast : row.execution_mode = .FAST_GATEWAY) (hd : db.deliveries.find row.delivery.id = some d)
    (hreceived : d.status = .received) (hnew : row.delivery.response_message_id.getD "" = "")
    {run_id : String} (hwrite : write_poll cfg db env row
      (poll_outcome cfg db row false .responded (poll_receipt run_id run)) (poll_receipt run_id run) =
        .ok db') (allow : Bool) :
    Usable a sensitive allow result ((response_body db' row.delivery.id).getD "") ↔
      Plain a sensitive allow run.raw_response result := by
  obtain ⟨agent_id, payload, observed_run, hstatus, houtcome, -⟩ :=
    collected hlog run (RunRegistry.last_some hrun).1 hpass result hresult
  obtain ⟨body, hbody, htext⟩ := poll_passed hpass hresult run_id
  rw [stored_body hd hreceived hnew (poll_responded hfast htext) htext hwrite, hstored, Option.getD_some]
  exact usable_iff (collect_pass hstatus houtcome) hbody

end

/-! ## Samples

A run whose worker has said one text, and its delivery. -/

namespace PassedSample

open RunRegistry (sampleArgs readable_sampleLog sampleLog readable transition_of_last)

/-- Every file exists, and the evidence and the scope are in order. -/
def collector : Collector where
  repr _ := "None"
  lower s := s.map Char.toLower
  status_words _ := "failed"
  path_exists _ := .ok true
  evidence _ _ := .ok none
  scope _ _ := .ok none
  result_recovery_agent_ids := ["executor"]

def message (role content : String) : Value :=
  .ofDict (.ofList [("role", .str role), ("content", .str content)] (by simp))

def payload (text : String) : Dict :=
  .ofList [("history", .ofDict (.ofList
    [("messages", .list [message "user" "do", message "assistant" text])] (by simp)))] (by simp)

def text : String :=
  "\x7b\"status\":\"completed\",\"summary\":\"ok\",\"evidence\":[\x7b\"type\":\"log\"\x7d]," ++
    "\"artifacts\":[\x7b\"path\":\"/a\"\x7d],\"scope\":\x7b\"compliant\":true\x7d\x7d"

def fenced_text : String := "```\n\x7b\"status\":\"completed\",\"summary\":\"ok\"\x7d\n```"

def adapter_outcome (text : String) : AdapterOutcome := collector.collect "executor" (payload text) .empty

def queued : RunRecord := sampleArgs.record "core-1" "t0"

def running : RunRecord := queued.transitioned .RUNNING none none "" "t1"

def passed (text : String) : RunRecord := running.transitioned .PASS none (some (adapter_outcome text)) "" "t2"

theorem created : (Mutation.create sampleArgs "" "t0").apply [] = .ok (queued, [queued]) := rfl

theorem readable_running : readable running = true := by
  refine (RunRegistry.readable_iff running).mpr ?_
  decide +kernel

/-- The two mutations that a run goes on with. -/
def start : Mutation := .transition queued.core_run_id .RUNNING none none "" "t1"

def finish (text : String) : Mutation :=
  .transition running.core_run_id .PASS none (some (adapter_outcome text)) "" "t2"

theorem reached {text : String} (hpass : (adapter_outcome text).status = .PASS) :
    registry.ReachableIf (Collects collector) [queued, running, passed text] := by
  have hqueued : readable queued = true := readable_sampleLog queued (by simp [sampleLog, queued])
  have hcreated : registry.ReachableIf (Collects collector) [queued] :=
    Machine.ReachableIf.next ⟨[], [], rfl, .refl _⟩ (a := .create sampleArgs "" "t0")
      (fun _ _ _ _ _ h => Mutation.noConfusion h) (congrArg some (Mutation.run_of_apply created))
  have hrunning : start.apply [queued] = .ok (running, [queued, running]) :=
    transition_of_last (by simpa using hqueued) (RunRegistry.last_append_self [] queued) (by decide)
      (by decide) none none "" "t1"
  have hstarted := hcreated.next (a := start) (fun _ _ _ _ _ h => by simp [start] at h)
    (congrArg some (Mutation.run_of_apply hrunning))
  have hpassed : (finish text).apply [queued, running] = .ok (passed text, [queued, running, passed text]) :=
    transition_of_last (by simpa using ⟨hqueued, readable_running⟩)
      (RunRegistry.last_append_self [queued] running) (by decide) (by decide) none
      (some (adapter_outcome text)) "" "t2"
  refine hstarted.next (a := finish text) ?_ (congrArg some (Mutation.run_of_apply hpassed))
  intro id binding o reason now h
  obtain ⟨-, -, -, rfl, -, -⟩ := Mutation.transition.inj h
  exact ⟨adapter_outcome text, rfl, .inr ⟨hpass, "executor", payload text, .empty, rfl⟩⟩

theorem passed_status (text : String) : (passed text).status = .PASS :=
  RunRecord.transitioned_status ..

theorem passed_result (text : String) : (passed text).result = (adapter_outcome text).result :=
  transitioned_result ..

theorem passed_raw (text : String) :
    (passed text).raw_response = terminal_assistant_text (payload text) :=
  transitioned_raw ..

/-- No text is a secret here. -/
def cfg : Config := { WarRoom.Sample.config false with stored := redact_string fun _ => false }

def db : DB :=
  { GatewaySample.db with
    deliveries := ⟨[{ GatewaySample.delivery "d" "m" with status := .received }], by decide⟩ }

def row : DeliveryRow :=
  ⟨{ GatewaySample.delivery "d" "m" with status := .received }, "p", some "t", .FAST_GATEWAY⟩

/-- The poll of a run that has passed. -/
def write (text : String) : Except HttpError DB :=
  let r := poll_receipt "o" (passed text)
  write_poll cfg db (WarRoom.Sample.outside 10 ["r"]) row (poll_outcome cfg db row false .responded r) r

theorem written (text : String) : ∃ db', write text = .ok db' := by
  have hfresh : "r" ∉ ["m"] := by decide
  exact write_poll_ok hfresh

end PassedSample

open PassedSample in
/-- Core passes the result that it finds between the fences; the review gets the text with them. -/
theorem passed_unreadable : ∃ log run d db', registry.ReachableIf (Collects collector) log ∧
    last "core-1" log = some run ∧ run.status = .PASS ∧ run.result = some d ∧
    d.get? "status" = some (.str "completed") ∧ run = passed fenced_text ∧
    write fenced_text = .ok db' ∧
    fast_gateway_result collector ((response_body db' "d").getD "") true =
      .error "fast_gateway_result_invalid_json" := by
  obtain ⟨hpass, hsome, hraw, hblank, hreview⟩ :
      (adapter_outcome fenced_text).status = .PASS ∧
      ((adapter_outcome fenced_text).result.bind fun d => d.get? "status") =
        some (.str "completed") ∧
      terminal_assistant_text (payload fenced_text) = some fenced_text ∧
      is_blank fenced_text = false ∧
      fast_gateway_result collector (cfg.stored fenced_text) true =
        .error "fast_gateway_result_invalid_json" := by decide +kernel
  obtain ⟨d, hd, hstatus⟩ := Option.bind_eq_some_iff.mp hsome
  rw [← passed_result] at hd
  rw [← passed_raw] at hraw
  obtain ⟨db', hwrite⟩ := written fenced_text
  obtain ⟨body, hbody, htext⟩ := poll_passed (passed_status fenced_text) hd "o"
  rw [hraw, forwarded_text hblank] at hbody
  obtain rfl : fenced_text = body := Option.some.inj hbody
  have hfast : row.execution_mode = .FAST_GATEWAY := rfl
  have hresponded : (poll_outcome cfg db row false .responded
      (poll_receipt "o" (passed fenced_text))).status = .responded := poll_responded hfast htext
  have hstored : response_body db' "d" = some (cfg.stored fenced_text) :=
    stored_body (d := row.delivery) rfl rfl rfl hresponded htext hwrite
  refine ⟨_, passed fenced_text, d, db', reached hpass,
    RunRegistry.last_append_self [queued, running] (passed fenced_text), passed_status _, hd, hstatus,
    rfl, hwrite, ?_⟩
  rw [hstored]
  exact hreview

open PassedSample in
/-- A worker that answers with the object itself. -/
theorem pass_usable_sample : ∃ d db', (passed text).result = some d ∧ write text = .ok db' ∧
    Usable collector (fun _ => false) false d ((response_body db' "d").getD "") := by
  obtain ⟨hpass, hresult, hraw, hblank, hstrip, hlength, hstates⟩ :
      (adapter_outcome text).status = .PASS ∧ (adapter_outcome text).result = loads_object text ∧
      terminal_assistant_text (payload text) = some text ∧ is_blank text = false ∧
      Text.strip text = text ∧ text.toList.length ≤ MAX_PUBLIC_STRING_LENGTH ∧
      (loads_object text).map (fun d => (collector.lower (collector.str_or (d.get? "status") ""),
        d.get? "summary", artifact_paths d)) = some ("completed", some (.str "ok"), some ["/a"]) := by
    decide +kernel
  obtain ⟨d, hd, hstates⟩ := Option.map_eq_some_iff.mp hstates
  simp only [Prod.mk.injEq] at hstates
  obtain ⟨hstatus, hsummary, hpaths⟩ := hstates
  rw [← passed_raw] at hraw
  rw [← passed_result, hd] at hresult
  obtain ⟨db', hwrite⟩ := written text
  have hforwarded : forwarded (passed text).raw_response (some d) = some text := by
    rw [hraw]
    exact forwarded_text hblank _
  refine ⟨d, db', hresult, hwrite, (pass_usable (reached hpass)
    (RunRegistry.last_append_self [queued, running] (passed text)) (passed_status text) hresult rfl
    (d := row.delivery) rfl rfl rfl rfl hwrite false).mpr ⟨?_, fun _ _ => rfl, ?_, .inl ?_, ?_⟩⟩
  · rintro body hbody
    rwa [← Option.some.inj (hforwarded.symm.trans hbody)]
  · rintro paths hp
    obtain rfl := Option.some.inj (hpaths.symm.trans hp)
    decide
  · rw [hpaths]
    decide
  · rintro t ht -
    obtain rfl := Option.some.inj (hraw.symm.trans ht)
    rw [hstrip]
    exact ⟨d, "ok", hd, ⟨"ok", hsummary, .inl rfl⟩, fun paths hp => ⟨hstatus, hsummary, hp⟩⟩

end FastGatewayWarRoomAdapter

end WarRoom

end Plachem
