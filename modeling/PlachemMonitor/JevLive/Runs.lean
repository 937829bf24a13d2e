import PlachemMonitor.JevLive.System

/-!
# The newest run of a session

`_latest_run_state` reads the newest 120 rows of the session, of all its runs. The first prompt of a run
and its first ending are what it takes from them.

* `see_events_eq`: what the loop over the events of a run finds.
* `see_events_append`: what it finds if the run has more events before.
* `latest_run_state_window_iff`: when the rows that are not read make no difference.
-/

namespace Plachem

namespace JevLive

/-! ## Events -/

def event_type (cfg : Config) : Json → String
  | .obj event => cfg.text (Json.getMember event "type")
  | _ => ""

def event_data : Json → List (String × Json)
  | .obj event =>
    match Json.getMember event "data" with
    | some (.obj data) => data
    | _ => []
  | _ => []

/-- What ends the loop over the events of a run. -/
inductive Ending where
  | ended (status : Option String)
  /-- An event that is no dictionary. -/
  | broken
  deriving DecidableEq

def ending (cfg : Config) : Json → Option Ending
  | .obj event =>
    if event_type cfg (.obj event) = "session.ended" then
      some (.ended (some (cfg.lower (cfg.text (Json.getMember (event_data (.obj event)) "status"))) |>.filter
        (· ≠ "")))
    else none
  | _ => some .broken

/-- The prompt that an event submits, if it is not blank. -/
def prompt_of (cfg : Config) (event : Json) : Option String :=
  if event_type cfg event = "prompt.submitted" then
    some (Text.strip (cfg.text (Json.getMember (event_data event) "prompt"))) |>.filter (· ≠ "")
  else none

def first_ending (cfg : Config) (events : List Json) : Option Ending := events.findSome? (ending cfg)

/-- The first prompt before the ending. -/
def first_prompt (cfg : Config) (events : List Json) : Option String :=
  (events.takeWhile fun event => (ending cfg event).isNone).findSome? (prompt_of cfg)

/-- What the loop returns, of the first prompt and the first ending. -/
def seen_of (prompt : String) : Option Ending → Except LiveError Seen
  | none => .ok ⟨prompt, false, none⟩
  | some (.ended status) => .ok ⟨prompt, true, status⟩
  | some .broken => .error .attribute

section Loop

variable {cfg : Config} {event : Json} {events lost kept : List Json}

theorem prompt_of_ne_empty {p : String} (h : prompt_of cfg event = some p) : p ≠ "" := by
  rw [prompt_of] at h
  split at h
  · rw [Option.filter_eq_some_iff] at h
    exact of_decide_eq_true h.2
  · cases h

theorem first_prompt_ne_empty {p : String} (h : first_prompt cfg events = some p) : p ≠ "" := by
  obtain ⟨event, -, hp⟩ := List.exists_of_findSome?_eq_some h
  exact prompt_of_ne_empty hp

theorem getD_filter_ne_empty (text : String) : ((some text).filter (· ≠ "")).getD "" = text := by
  by_cases h : text = ""
  · rw [h]
    rfl
  · have hkept : (some text).filter (· ≠ "") = some text := Option.filter_some_pos (decide_eq_true h)
    rw [hkept, Option.getD_some]

theorem prompt_of_obj (cfg : Config) (members : List (String × Json)) :
    prompt_of cfg (.obj members) =
      if cfg.text (Json.getMember members "type") = "prompt.submitted" then
        some (Text.strip (cfg.text (Json.getMember (event_data (.obj members)) "prompt"))) |>.filter (· ≠ "")
      else none := rfl

theorem see_events_stop {e : Ending} (h : ending cfg event = some e) (prompt : String) :
    see_events cfg (event :: events) ⟨prompt, false, none⟩ = seen_of prompt (some e) := by
  cases event with
  | obj members =>
    rw [ending] at h
    split at h
    · rename_i hended
      obtain rfl := Option.some.inj h
      have hended : cfg.text (Json.getMember members "type") = "session.ended" := hended
      have hother : ¬ (cfg.text (Json.getMember members "type") = "prompt.submitted" ∧ prompt = "") := by
        rw [hended]
        rintro ⟨hsubmitted, -⟩
        exact absurd hsubmitted (by decide)
      simp only [see_events, if_neg hother, if_pos hended]
      rfl
    · cases h
  | _ =>
    obtain rfl := Option.some.inj h
    rfl

theorem see_events_pass (h : ending cfg event = none) (prompt : String) :
    see_events cfg (event :: events) ⟨prompt, false, none⟩ =
      see_events cfg events
        ⟨if prompt = "" then (prompt_of cfg event).getD "" else prompt, false, none⟩ := by
  cases event with
  | obj members =>
    rw [ending] at h
    split at h
    · cases h
    · rename_i hended
      have hended : ¬ cfg.text (Json.getMember members "type") = "session.ended" := hended
      simp only [see_events, if_neg hended, prompt_of_obj]
      by_cases hsubmitted : cfg.text (Json.getMember members "type") = "prompt.submitted"
      · by_cases hprompt : prompt = ""
        · rw [if_pos ⟨hsubmitted, hprompt⟩, if_pos hsubmitted, if_pos hprompt, event_data]
          congr 2
          exact (getD_filter_ne_empty _).symm
        · rw [if_neg fun hboth => hprompt hboth.2, if_neg hprompt]
      · rw [if_neg fun hboth => hsubmitted hboth.1, if_neg hsubmitted, Option.getD_none]
        congr 2
        split
        · assumption
        · rfl
  | _ => cases h

/-- The loop finds the first prompt and the first ending. -/
theorem see_events_eq (cfg : Config) (events : List Json) (prompt : String) :
    see_events cfg events ⟨prompt, false, none⟩ =
      seen_of (if prompt = "" then (first_prompt cfg events).getD "" else prompt)
        (first_ending cfg events) := by
  induction events generalizing prompt with
  | nil =>
    rw [first_prompt, List.takeWhile_nil, List.findSome?_nil, Option.getD_none, ite_eq_right_iff.mpr Eq.symm]
    rfl
  | cons event events ih =>
    rw [first_prompt, first_ending, List.findSome?_cons, List.takeWhile_cons]
    cases hending : ending cfg event with
    | some e =>
      rw [see_events_stop hending]
      simp only [Option.isNone_some, Bool.false_eq_true, if_false, List.findSome?_nil, Option.getD_none]
      rw [ite_eq_right_iff.mpr Eq.symm]
    | none =>
      rw [see_events_pass hending, ih]
      simp only [Option.isNone_none, if_true, List.findSome?_cons]
      cases hsubmitted : prompt_of cfg event with
      | some p =>
        have hne := prompt_of_ne_empty hsubmitted
        by_cases hprompt : prompt = ""
        · simp [hprompt, hne, first_ending]
        · simp [hprompt, first_ending]
      | none =>
        by_cases hprompt : prompt = ""
        · simp [hprompt, first_ending, first_prompt]
        · simp [hprompt, first_ending]

theorem first_ending_append (cfg : Config) (lost kept : List Json) :
    first_ending cfg (lost ++ kept) = (first_ending cfg lost).or (first_ending cfg kept) :=
  List.findSome?_append

theorem first_prompt_of_ended (h : (first_ending cfg lost).isSome = true) (kept : List Json) :
    first_prompt cfg (lost ++ kept) = first_prompt cfg lost := by
  rw [first_ending, List.findSome?_isSome_iff] at h
  obtain ⟨event, hevent, hended⟩ := h
  have hshort : ¬ (lost.takeWhile fun event => (ending cfg event).isNone).length = lost.length := by
    intro hlength
    have hself := (List.takeWhile_prefix _).eq_of_length hlength
    have hpass : (ending cfg event).isNone = true := List.takeWhile_eq_self_iff.mp hself event hevent
    rw [Option.isNone_iff_eq_none.mp hpass] at hended
    cases hended
  rw [first_prompt, List.takeWhile_append, if_neg hshort]
  rfl

theorem first_prompt_of_open (h : first_ending cfg lost = none) (kept : List Json) :
    first_prompt cfg (lost ++ kept) = (first_prompt cfg lost).or (first_prompt cfg kept) := by
  rw [first_ending, List.findSome?_eq_none_iff] at h
  have hall : ∀ event ∈ lost, (ending cfg event).isNone = true := by
    intro event hevent
    rw [h event hevent]
    rfl
  rw [first_prompt, List.takeWhile_append_of_pos hall, List.findSome?_append, first_prompt, first_prompt,
    List.takeWhile_eq_self_iff.mpr hall]

end Loop

/-! ## The state of a run -/

/-- The events of a run, the oldest first. -/
def run_events (rows : List RuntimeEvent) (run_id : String) : List Json :=
  ((rows.filter fun row => row.run_id == run_id).filterMap RuntimeEvent.event).reverse

/-- The part of a prompt that is returned. -/
def shown (prompt : String) : String := String.ofList (prompt.toList.take 400)

def state_of (run_id : String) (seen : Seen) : LatestRun where
  available := true
  run_id := some run_id
  terminal := seen.terminal
  active := !seen.terminal
  control_only := CONTROL_PROMPT_PREFIXES.any (startswith seen.prompt)
  prompt := shown seen.prompt
  status := seen.status

/-- What the rows that are not read say of the run, the others say as well: the same first ending, and
the same beginning of the first prompt. -/
structure Repeated (cfg : Config) (lost kept : List Json) : Prop where
  ending : ∀ e, first_ending cfg lost = some e → first_ending cfg kept = some e
  prompt : first_ending cfg kept ≠ some .broken → ∀ p, first_prompt cfg lost = some p →
    ∃ p', first_prompt cfg kept = some p' ∧ shown p' = shown p
  no_prompt : first_ending cfg kept ≠ some .broken → (first_ending cfg lost).isSome = true →
    first_prompt cfg lost = none → first_prompt cfg kept = none

section State

variable {cfg : Config} {lost kept : List Json} {p p' : String} {e e' : Option Ending}

theorem run_events_append (newer older : List RuntimeEvent) (run_id : String) :
    run_events (newer ++ older) run_id = run_events older run_id ++ run_events newer run_id := by
  rw [run_events, List.filter_append, List.filterMap_append, List.reverse_append]
  rfl

theorem latest_run_state_cons (cfg : Config) (row : RuntimeEvent) (rows : List RuntimeEvent) :
    latest_run_state cfg (row :: rows) =
      state_of row.run_id <$> seen_of ((first_prompt cfg (run_events (row :: rows) row.run_id)).getD "")
        (first_ending cfg (run_events (row :: rows) row.run_id)) := by
  have hloop := see_events_eq cfg (run_events (row :: rows) row.run_id) ""
  rw [if_pos rfl] at hloop
  rw [← hloop]
  rfl

theorem shown_ne_empty (h : p ≠ "") : shown p ≠ "" := by
  intro hshown
  have hlist := congrArg String.toList hshown
  rw [shown, String.toList_ofList] at hlist
  have hnil : p.toList = [] := by
    cases hp : p.toList with
    | nil => rfl
    | cons c cs =>
      rw [hp] at hlist
      cases hlist
  exact h (String.toList_eq_nil_iff.mp hnil)

theorem startswith_shown {start : String} (h : start.toList.length ≤ 400) (p : String) :
    startswith (shown p) start = startswith p start := by
  rw [startswith, startswith, shown, String.toList_ofList, Bool.eq_iff_iff, List.isPrefixOf_iff_prefix,
    List.isPrefixOf_iff_prefix, List.prefix_take_iff]
  exact and_iff_left h

theorem control_only_shown (p : String) :
    CONTROL_PROMPT_PREFIXES.any (startswith (shown p)) = CONTROL_PROMPT_PREFIXES.any (startswith p) := by
  simp only [CONTROL_PROMPT_PREFIXES, List.any_cons, List.any_nil]
  rw [startswith_shown (by decide), startswith_shown (by decide)]

theorem state_of_eq_iff {run_id : String} {seen seen' : Seen} :
    state_of run_id seen = state_of run_id seen' ↔
      seen.terminal = seen'.terminal ∧ seen.status = seen'.status ∧ shown seen.prompt = shown seen'.prompt := by
  constructor
  · intro h
    exact ⟨congrArg LatestRun.terminal h, congrArg LatestRun.status h, congrArg LatestRun.prompt h⟩
  · rintro ⟨hterminal, hstatus, hprompt⟩
    rw [state_of, state_of, ← control_only_shown, hprompt, control_only_shown, hterminal, hstatus]

theorem state_seen_of_eq_iff {run_id : String} :
    state_of run_id <$> seen_of p e = state_of run_id <$> seen_of p' e' ↔
      e = e' ∧ (e' ≠ some .broken → shown p = shown p') := by
  have hok : ∀ {seen seen' : Seen}, (Except.ok (state_of run_id seen) : Except LiveError LatestRun) =
      .ok (state_of run_id seen') ↔ state_of run_id seen = state_of run_id seen' := by
    intro seen seen'
    exact ⟨Except.ok.inj, congrArg _⟩
  rcases e with _ | (status | _) <;> rcases e' with _ | (status' | _) <;>
    simp [seen_of, state_of_eq_iff, hok]

theorem shown_prompt_eq_iff :
    shown ((first_prompt cfg (lost ++ kept)).getD "") = shown ((first_prompt cfg kept).getD "") ↔
      (∀ p, first_prompt cfg lost = some p → ∃ p', first_prompt cfg kept = some p' ∧ shown p' = shown p) ∧
        ((first_ending cfg lost).isSome = true → first_prompt cfg lost = none →
          first_prompt cfg kept = none) := by
  have hblank : ∀ {p : String} {events : List Json}, first_prompt cfg events = some p → shown p ≠ shown "" :=
    fun hp h => shown_ne_empty (first_prompt_ne_empty hp) h
  cases hlost : first_prompt cfg lost with
  | some p =>
    have hwhole : first_prompt cfg (lost ++ kept) = some p := by
      cases hend : first_ending cfg lost with
      | some e => rw [first_prompt_of_ended (Option.isSome_of_eq_some hend), hlost]
      | none => rw [first_prompt_of_open hend, hlost, Option.some_or]
    have hp := hblank hlost
    rw [hwhole, Option.getD_some]
    cases hkept : first_prompt cfg kept with
    | some p' =>
      rw [eq_comm]
      simp
    | none => simpa using hp
  | none =>
    cases hend : first_ending cfg lost with
    | some e =>
      rw [first_prompt_of_ended (Option.isSome_of_eq_some hend), hlost]
      cases hkept : first_prompt cfg kept with
      | some p' => simpa using (hblank hkept).symm
      | none => simp
    | none => simp [first_prompt_of_open hend, hlost]

theorem repeated_iff :
    (first_ending cfg (lost ++ kept) = first_ending cfg kept ∧
        (first_ending cfg kept ≠ some .broken →
          shown ((first_prompt cfg (lost ++ kept)).getD "") = shown ((first_prompt cfg kept).getD ""))) ↔
      Repeated cfg lost kept := by
  have hending : first_ending cfg (lost ++ kept) = first_ending cfg kept ↔
      ∀ e, first_ending cfg lost = some e → first_ending cfg kept = some e := by
    rw [first_ending_append]
    cases first_ending cfg lost with
    | some e => simp [eq_comm]
    | none => simp
  rw [hending]
  constructor
  · rintro ⟨hended, hprompt⟩
    exact ⟨hended, fun hbroken => (shown_prompt_eq_iff.mp (hprompt hbroken)).1,
      fun hbroken => (shown_prompt_eq_iff.mp (hprompt hbroken)).2⟩
  · intro h
    exact ⟨h.ending, fun hbroken => shown_prompt_eq_iff.mpr ⟨h.prompt hbroken, h.no_prompt hbroken⟩⟩

end State

/-- The run of the newest row. -/
def newest_run (rows : List RuntimeEvent) : String := (rows.head?.map RuntimeEvent.run_id).getD ""

theorem source_task_active_control_only {cfg : Config} {ctx : Context} (havailable : ctx.latest_run.available = true)
    (h : ctx.latest_run.control_only = true) : (source_task_active cfg ctx).1 = false := by
  simp only [source_task_active, havailable, h]
  split
  · rfl
  · split <;> rfl

theorem latest_run_state_available {cfg : Config} {rows : List RuntimeEvent} {run : LatestRun}
    (h : latest_run_state cfg rows = .ok run) (hcontrol : run.control_only = true) : run.available = true := by
  cases rows with
  | nil =>
    obtain rfl := Except.ok.inj h
    cases hcontrol
  | cons row rows =>
    rw [latest_run_state_cons] at h
    obtain ⟨seen, -, rfl⟩ := map_eq_ok.mp h
    rfl

/-- Of the newest 120 rows the same is computed as of all rows, and a run that is control only is no task
work, exactly if the rows of the newest run before them say nothing else. -/
theorem latest_run_state_window_iff (cfg : Config) (rows : List RuntimeEvent) :
    (latest_run_state cfg (rows.take 120) = latest_run_state cfg rows ∧
        ∀ ctx run, latest_run_state cfg (rows.take 120) = .ok ctx.latest_run →
          latest_run_state cfg rows = .ok run → run.control_only = true →
            ctx.latest_run.control_only = true ∧ (source_task_active cfg ctx).1 = false) ↔
      Repeated cfg (run_events (rows.drop 120) (newest_run rows))
        (run_events (rows.take 120) (newest_run rows)) := by
  have hsame : latest_run_state cfg (rows.take 120) = latest_run_state cfg rows ↔
      Repeated cfg (run_events (rows.drop 120) (newest_run rows))
        (run_events (rows.take 120) (newest_run rows)) := by
    cases rows with
    | nil => exact ⟨fun _ => ⟨fun _ h => h, fun _ _ h => ⟨_, h, rfl⟩, fun _ _ h => h⟩, fun _ => rfl⟩
    | cons row rows =>
      have hrows : run_events (row :: rows) row.run_id =
          run_events ((row :: rows).drop 120) row.run_id ++ run_events (row :: rows.take 119) row.run_id := by
        conv_lhs => rw [← List.take_append_drop 120 (row :: rows)]
        exact run_events_append _ _ _
      show latest_run_state cfg (row :: rows.take 119) = _ ↔ _
      rw [latest_run_state_cons, latest_run_state_cons, eq_comm, state_seen_of_eq_iff, hrows]
      exact repeated_iff
  rw [← hsame]
  refine ⟨And.left, fun h => ⟨h, ?_⟩⟩
  intro ctx run hwindow hwhole hcontrol
  rw [h, hwhole] at hwindow
  obtain rfl := Except.ok.inj hwindow
  exact ⟨hcontrol, source_task_active_control_only (latest_run_state_available hwhole hcontrol) hcontrol⟩

/-- A run has the same state however long it is, if it says nothing before the rows that are read. -/
theorem latest_run_state_of_silent {cfg : Config} {rows : List RuntimeEvent}
    (hending : first_ending cfg (run_events (rows.drop 120) (newest_run rows)) = none)
    (hprompt : first_prompt cfg (run_events (rows.drop 120) (newest_run rows)) = none) :
    latest_run_state cfg (rows.take 120) = latest_run_state cfg rows := by
  refine ((latest_run_state_window_iff cfg rows).mpr ⟨?_, ?_, ?_⟩).1
  · intro e he
    rw [hending] at he
    cases he
  · intro _ p hp
    rw [hprompt] at hp
    cases hp
  · intro _ hended
    rw [hending] at hended
    cases hended

/-! ## A run that is forgotten -/

namespace Sample

def runtime_event (type : String) (data : List (String × Json)) : RuntimeEvent where
  run_id := "run-1"
  event := some (.obj [("type", .str type), ("data", .obj data)])

/-- A run of recovery housekeeping with 120 events after its prompt. -/
def long_run : List RuntimeEvent :=
  List.replicate 120 (runtime_event "tool.call" []) ++
    [runtime_event "prompt.submitted" [("prompt", .str "JEV RECOVERY MODE. Go on.")]]

def context (run : LatestRun) : Context where
  session_key := "agent:erp:task"
  status := "running"
  started_at := none
  channel := "web"
  latest_user := "sort the rows"
  command_texts := []
  recent_assistant_texts := []
  latest_run := run
  run_id := run.run_id

end Sample

/-- Read whole, the run is control only; of its newest rows it is an active run of the task. -/
theorem long_control_run_taken :
    (latest_run_state Sample.config Sample.long_run).toOption.map LatestRun.control_only = some true ∧
      ((latest_run_state Sample.config (Sample.long_run.take 120)).toOption.map fun run =>
        source_task_active Sample.config (Sample.context run)) = some (true, "active_task_run") := by
  decide +kernel

end JevLive

end Plachem
