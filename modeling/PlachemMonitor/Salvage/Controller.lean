import PlachemMonitor.Salvage.Handoff
import PlachemMonitor.Spec.Log
import PlachemMonitor.Spec.Machine

/-!
# The recovery controller

`RecoveryController.apply`, called any number of times on one controller; what each outside call does, and what
happens to the handoff file between the calls, is arbitrary.

* `Lawful`: what each return, and each cleanup, may follow on.
* `Works`: nothing fails behind the mark of the handoff; `apply_eq`: then it is handed over.
* `recovery_not_blocked`: the law holds in every run in which each salvage that is marked works.
-/

namespace Plachem

namespace Salvage

/-! ## Arguments -/

structure Config where
  /-- `sha256(...).hexdigest()` -/
  sha256 : List Char → String
  /-- `str` of a value of the evidence. -/
  str : Json → String
  lower : String → String

/-- The arguments of `RecoveryController` that may be missing. -/
structure Ports where
  main_agent_id : String
  handoff_writer : Bool
  direct_session : Bool
  session_factory : Bool
  cleanup_callback : Bool

structure Availability where
  available : Bool
  value : Json

structure Activity where
  agent_id : String
  session_id : String
  status : String
  task_id : String
  recovery_generation : Int

/-- `facts` is what `facts()` returns. -/
structure Snapshot where
  facts : Json
  artifacts : Availability
  test_result : Availability

structure Decision where
  choice : String
  state_digest : String

structure Call where
  decision : Decision
  activity : Activity
  snapshot : Snapshot
  remaining_work : List String
  deterministic_safe : Bool

/-- What one call is answered from outside, each attempt by its number. -/
structure Outside where
  handoff_id : Nat → { id : String // id ≠ "" }
  created_at : Nat → FloatText
  /-- `mkdir` and `write_text` go through. -/
  writes : Bool
  /-- `create_direct_session`, or `session_factory.create`, unless it raises. -/
  create : Nat → Option String
  /-- `await_handoff_ack`, unless it raises. -/
  ack : Option Bool
  /-- `cleanup_callback` returns. -/
  cleans : Bool
  /-- `history.append` returns. -/
  appends : Bool

/-- `canonical_json({"session": ..., "digest": ..., "remaining": ...})` -/
structure Key where
  session_id : String
  digest : String
  remaining_work : List String
  deriving DecidableEq

def state_digest (cfg : Config) (facts : Json) : String := cfg.sha256 (facts.dumps false)

def Call.digest (cfg : Config) (c : Call) : String := state_digest cfg c.snapshot.facts

def Call.key (cfg : Config) (c : Call) : Key := ⟨c.activity.session_id, c.digest cfg, c.remaining_work⟩

/-- The items of a value, unless it cannot be iterated. -/
def items : Json → Option (List Json)
  | .arr xs => some xs
  | .str s => some (s.toList.map fun c => .str (String.singleton c))
  | .obj members => some (members.map fun m => .str m.1)
  | _ => none

/-- `tuple(str(item) for item in artifacts)`, or a note. -/
def changed_files (cfg : Config) (snapshot : Snapshot) : Option (List String) :=
  (if snapshot.artifacts.available then items snapshot.artifacts.value else some []).map fun artifacts =>
    if artifacts = [] then ["No changed files observed"]
    else artifacts.map fun item =>
      match item with
      | .str s => s
      | item => cfg.str item

def test_results (snapshot : Snapshot) : List String :=
  if snapshot.test_result.available && snapshot.test_result.value.truthy then
    [String.ofList (snapshot.test_result.value.dumps false)]
  else ["Test result unavailable"]

def _handoff_from_activity (cfg : Config) (o : Outside) (c : Call) (attempt : Nat) (target_agent : String) :
    Option Handoff :=
  (changed_files cfg c.snapshot).map fun changed_files => {
    handoff_id := o.handoff_id attempt
    task := c.activity.task_id
    previous_agent := c.activity.agent_id
    session_id := c.activity.session_id
    recovery_generation := c.activity.recovery_generation
    completed_work := ["Evidence collection and JEV decision completed"]
    changed_files := changed_files
    test_results := test_results c.snapshot
    current_problem := "Source session status requires " ++ cfg.lower c.activity.status ++ " recovery handling"
    failed_methods := ["No failed method recorded in current evidence"]
    remaining_work := c.remaining_work
    next_agent_first_action :=
      "Read and acknowledge RECOVERY_HANDOFF.md before continuing the remaining work"
    attempt := attempt
    target_agent_id := target_agent
    evidence_digest := c.digest cfg
    created_at := o.created_at attempt }

/-! ## Outcomes -/

structure Outcome where
  kind : String
  status : String
  source_session_id : String
  target_session_id : Option String
  handoff_id : Option String
  reason : String
  state_digest : String

inductive Error where
  | file_exists
  | invalid
  | other

/-- What `apply` does; `handed` is the outcome `SALVAGE_HANDOFF`, with its handoff. -/
inductive Result where
  | outcome (o : Outcome)
  | handed (handoff : Handoff) (o : Outcome)
  | raised (error : Error)

/-- It raises or is blocked. -/
def Result.failed : Result → Bool
  | .raised _ => true
  | .outcome o => o.kind == "SALVAGE_BLOCKED" || o.kind == "STALE_REJECTED"
  | .handed _ _ => false

/-- `SALVAGE_DUPLICATE` or `FileExistsError` -/
def Result.refused : Result → Bool
  | .raised .file_exists => true
  | .outcome o => o.kind == "SALVAGE_DUPLICATE"
  | _ => false

inductive Event where
  /-- `await_handoff_ack` returned true. -/
  | acked (key : Key)
  /-- `cleanup_callback` was called. -/
  | cleaned (key : Key)
  /-- `apply` ended, with this handoff file. -/
  | applied (key : Key) (result : Result) (file : Option (List Char))

structure State where
  _generated : List Key
  /-- `RECOVERY_HANDOFF.md` -/
  file : Option (List Char)
  trace : List Event

def State.log (s : State) (e : Event) : State := { s with trace := s.trace ++ [e] }

/-! ## `apply` -/

/-- `_record`, which appends to the history. -/
def record (o : Outside) (result : Result) : Result := if o.appends then result else .raised .other

def Call.outcome (cfg : Config) (c : Call) (kind status : String) (target handoff : Option String)
    (reason : String) : Outcome :=
  ⟨kind, status, c.activity.session_id, target, handoff, reason, c.digest cfg⟩

/-- `HandoffWriter.write`: the content is written, then validated. -/
def write (o : Outside) (s : State) (handoff : Handoff) : State × Option Error :=
  if s.file.isSome then (s, some .file_exists)
  else if o.writes then
    ({ s with file := some (content handoff).toList },
      if JevLive.validate (content handoff).toList then none else some .invalid)
  else (s, some .other)

def _valid_handoff (handoff : Handoff) (source_session_id digest : String) : Bool :=
  decide (handoff.handoff_id ≠ "") && handoff.session_id == source_session_id &&
    handoff.evidence_digest == digest && decide (handoff.remaining_work ≠ [])

/-- The handoff is there. -/
def handed (cfg : Config) (o : Outside) (c : Call) (handoff : Handoff) (target : Option String) : Result :=
  record o (.handed handoff (c.outcome cfg "SALVAGE_HANDOFF" "HANDOFF_CREATED" target (some handoff.handoff_id)
    ("ATTEMPT_" ++ toString handoff.attempt)))

def blocked (cfg : Config) (o : Outside) (c : Call) (handoff : Option String) (reason : String) : Result :=
  record o (.outcome (c.outcome cfg "SALVAGE_BLOCKED" "ESCALATE_MAIN" none handoff reason))

/-- Through a direct session. -/
def through_direct (cfg : Config) (ports : Ports) (o : Outside) (s : State) (c : Call) (handoff : Handoff) :
    State × Result :=
  if ports.handoff_writer then
    match o.create handoff.attempt with
    | none => (s, .raised .other)
    | some target =>
      match o.ack with
      | none => (s, .raised .other)
      | some false => (s, blocked cfg o c (some handoff.handoff_id) "HANDOFF_ACK_REQUIRED")
      | some true =>
        if ports.cleanup_callback then
          (((s.log (.acked (c.key cfg))).log (.cleaned (c.key cfg))),
            if o.cleans then handed cfg o c handoff (some target) else .raised .other)
        else (s.log (.acked (c.key cfg)), handed cfg o c handoff (some target))
  else (s, blocked cfg o c (some handoff.handoff_id) "HANDOFF_WRITER_REQUIRED")

def through_factory (cfg : Config) (ports : Ports) (o : Outside) (c : Call) (handoff : Handoff) : Result :=
  if ports.session_factory then
    match o.create handoff.attempt with
    | none => .raised .other
    | some target => handed cfg o c handoff (some target)
  else blocked cfg o c (some handoff.handoff_id) "SESSION_FACTORY_UNAVAILABLE"

/-- The rest of an attempt, with the handoff written. -/
def hand_over (cfg : Config) (ports : Ports) (o : Outside) (s : State) (c : Call) (handoff : Handoff) :
    State × Result :=
  if handoff.attempt < 3 then
    if ports.direct_session then through_direct cfg ports o s c handoff
    else (s, through_factory cfg ports o c handoff)
  else (s, handed cfg o c handoff none)

/-- An attempt, unless its handoff is passed over. -/
def attempt (cfg : Config) (ports : Ports) (o : Outside) (s : State) (c : Call) (number : Nat) (target : String) :
    Option (State × Result) :=
  match _handoff_from_activity cfg o c number target with
  | none => some (s, .raised .other)
  | some handoff =>
    if _valid_handoff handoff c.activity.session_id (c.digest cfg) then
      if ports.handoff_writer then
        match write o s handoff with
        | (s, some error) => some (s, .raised error)
        | (s, none) => some (hand_over cfg ports o s c handoff)
      else some (hand_over cfg ports o s c handoff)
    else none

def attempts (cfg : Config) (ports : Ports) (o : Outside) (s : State) (c : Call) :
    List (Nat × String) → State × Result
  | [] => (s, blocked cfg o c none "HANDOFF_VALIDATION_FAILED")
  | (number, target) :: rest => (attempt cfg ports o s c number target).getD (attempts cfg ports o s c rest)

/-- A salvage that is let through. -/
def salvage (cfg : Config) (ports : Ports) (o : Outside) (s : State) (c : Call) : State × Result :=
  if c.key cfg ∈ s._generated then
    (s, record o (.outcome (c.outcome cfg "SALVAGE_DUPLICATE" "NO_ACTION" none none "HANDOFF_ALREADY_GENERATED")))
  else
    attempts cfg ports o { s with _generated := c.key cfg :: s._generated } c
      [(1, c.activity.agent_id), (2, "alternate"), (3, ports.main_agent_id)]

def apply (cfg : Config) (ports : Ports) (o : Outside) (s : State) (c : Call) : State × Result :=
  if c.digest cfg ≠ c.decision.state_digest then
    (s, record o (.outcome (c.outcome cfg "STALE_REJECTED" "BLOCKED" none none "DIGEST_MISMATCH")))
  else if c.decision.choice = "DEAD" then
    (s, record o (.outcome (c.outcome cfg "MAIN_ESCALATION" "ESCALATE_MAIN" none none "DEAD_MAIN_ONLY")))
  else if c.decision.choice ≠ "SALVAGE" then
    (s, record o (.outcome (c.outcome cfg
      (if c.decision.choice ∈ ["CONTINUE", "WATCH", "NUDGE"] then "NO_ACTION" else "BLOCKED")
      c.decision.choice none none "OBSERVE_ONLY")))
  else if !c.deterministic_safe then (s, blocked cfg o c none "SAFETY_INTERLOCK")
  else if c.remaining_work = [] then (s, blocked cfg o c none "NO_REMAINING_WORK")
  else salvage cfg ports o s c

/-! ## Runs -/

inductive Label where
  | apply (c : Call) (o : Outside)
  /-- The handoff file is removed, or put there by others. -/
  | file (content : Option (List Char))

def step (cfg : Config) (ports : Ports) (s : State) : Label → State
  | .apply c o =>
    ((apply cfg ports o s c).1.log
      (.applied (c.key cfg) (apply cfg ports o s c).2 (apply cfg ports o s c).1.file))
  | .file content => { s with file := content }

def start (file : Option (List Char)) : State := ⟨[], file, []⟩

def controller (cfg : Config) (ports : Ports) : Machine State Label where
  init s := ∃ file, s = start file
  step s a := some (step cfg ports s a)

/-! ## What is claimed of a run -/

/-- The file is valid, and each of its sections holds the handoff's value. -/
def Held (handoff : Handoff) (file : Option (List Char)) : Prop :=
  ∃ text, file = some text ∧ JevLive.validate text = true ∧ ∀ s ∈ handoff.sections,
    section_value (Text.universalNewlines text) s.1 = some (Text.strip s.2)

/-- The key has been handed over. -/
def Delivered (key : Key) (trace : List Event) : Prop :=
  ∃ handoff o file, .applied key (.handed handoff o) file ∈ trace

/-- What each event may follow on. -/
def Lawful (ports : Ports) (before : List Event) : Event → Prop
  | .acked _ => True
  | .cleaned key => .acked key ∈ before ∧ .cleaned key ∉ before
  | .applied key result file =>
    (result.refused = true → (∃ r f, .applied key r f ∈ before ∧ r.failed = true) → Delivered key before) ∧
      ∀ handoff o, result = .handed handoff o → ports.direct_session = true →
        Held handoff file ∧ (ports.cleanup_callback = true → .cleaned key ∈ before)

/-! ## What works -/

/-- The call gets as far as the mark. -/
structure Marked (cfg : Config) (s : State) (c : Call) : Prop where
  choice : c.decision.choice = "SALVAGE"
  digest : c.digest cfg = c.decision.state_digest
  safe : c.deterministic_safe = true
  remaining : c.remaining_work ≠ []
  fresh : c.key cfg ∉ s._generated

/-- Nothing fails behind the mark: the evidence is a list, no file is in the way, its texts are read back, and
the outside calls return. -/
structure Works (cfg : Config) (ports : Ports) (o : Outside) (s : State) (c : Call) : Prop where
  changed : (changed_files cfg c.snapshot).isSome = true
  created : (o.create 1).isSome = true
  appended : o.appends = true
  written : ports.handoff_writer = true → s.file = none ∧ o.writes = true
  direct : ports.direct_session = true → ports.handoff_writer = true ∧ o.ack = some true ∧
    (ports.cleanup_callback = true → o.cleans = true)
  factory : ports.direct_session = false → ports.session_factory = true
  readable : ∀ handoff, _handoff_from_activity cfg o c 1 c.activity.agent_id = some handoff →
    (ports.direct_session = true → Plain handoff) ∧
      (ports.direct_session = false → ports.handoff_writer = true →
        JevLive.validate (content handoff).toList = true)

/-- A call that is marked works. -/
def Smooth (cfg : Config) (ports : Ports) (s : State) : Label → Prop
  | .apply c o => Marked cfg s c → Works cfg ports o s c
  | .file _ => True

/-- What a call that works has noted. -/
def notes (ports : Ports) (key : Key) : List Event :=
  if ports.direct_session then
    if ports.cleanup_callback then [.acked key, .cleaned key] else [.acked key]
  else []

/-- What a handed handoff leaves. -/
structure HandedOver (cfg : Config) (ports : Ports) (s : State) (c : Call) (s' : State) (handoff : Handoff) : Prop where
  generated : s'._generated = c.key cfg :: s._generated
  trace : s'.trace = s.trace ++ notes ports (c.key cfg)
  held : ports.direct_session = true → Held handoff s'.file

theorem valid_of_activity {cfg : Config} {o : Outside} {c : Call} {n : Nat} {target : String} {handoff : Handoff}
    (h : _handoff_from_activity cfg o c n target = some handoff) (hremaining : c.remaining_work ≠ []) :
    handoff.attempt = n ∧ _valid_handoff handoff c.activity.session_id (c.digest cfg) = true := by
  obtain ⟨changed, -, rfl⟩ := Option.map_eq_some_iff.mp h
  exact ⟨rfl, by simp [_valid_handoff, (o.handoff_id n).2, hremaining]⟩

/-- What stands behind the mark, for a call that works. -/
theorem hand_over_eq {cfg : Config} {ports : Ports} {o : Outside} {s : State} {c : Call} {handoff : Handoff}
    (hw : Works cfg ports o s c) (hattempt : handoff.attempt = 1) (t : State) :
    ∃ outcome, hand_over cfg ports o t c handoff =
      ({ t with trace := t.trace ++ notes ports (c.key cfg) }, .handed handoff outcome) := by
  obtain ⟨target, htarget⟩ := Option.isSome_iff_exists.mp hw.created
  have hlt : handoff.attempt < 3 := by omega
  unfold hand_over notes
  rw [if_pos hlt]
  cases hdirect : ports.direct_session with
  | false =>
    simp only [through_factory, hw.factory hdirect, hattempt, htarget, handed, record, hw.appended, if_true,
      Bool.false_eq_true, if_false, List.append_nil]
    exact ⟨_, rfl⟩
  | true =>
    obtain ⟨hwriter, hack, hcleans⟩ := hw.direct hdirect
    cases hcallback : ports.cleanup_callback with
    | false =>
      simp only [through_direct, hwriter, hattempt, htarget, hack, hcallback, handed, record, hw.appended, if_true,
        Bool.false_eq_true, if_false, State.log]
      exact ⟨_, rfl⟩
    | true =>
      simp only [through_direct, hwriter, hattempt, htarget, hack, hcallback, hcleans hcallback, handed, record,
        hw.appended, if_true, State.log, List.append_assoc, List.singleton_append]
      exact ⟨_, rfl⟩

theorem salvage_eq {cfg : Config} {ports : Ports} {o : Outside} {s : State} {c : Call} (hm : Marked cfg s c)
    (hw : Works cfg ports o s c) : ∃ s' handoff outcome,
      salvage cfg ports o s c = (s', .handed handoff outcome) ∧ HandedOver cfg ports s c s' handoff := by
  obtain ⟨changed, hchanged⟩ := Option.isSome_iff_exists.mp hw.changed
  have hactivity : ∃ handoff, _handoff_from_activity cfg o c 1 c.activity.agent_id = some handoff := by
    rw [_handoff_from_activity, hchanged]
    exact ⟨_, rfl⟩
  obtain ⟨handoff, hhandoff⟩ := hactivity
  obtain ⟨hattempt, hvalid⟩ := valid_of_activity hhandoff hm.remaining
  have hvalidate : ports.handoff_writer = true → JevLive.validate (content handoff).toList = true := by
    intro hwriter
    obtain ⟨hplain, hother⟩ := hw.readable handoff hhandoff
    cases hdirect : ports.direct_session with
    | true => exact validate_content (hplain hdirect)
    | false => exact hother hdirect hwriter
  unfold salvage attempts attempt
  rw [if_neg hm.fresh, hhandoff]
  simp only [hvalid, if_true]
  cases hwriter : ports.handoff_writer with
  | false =>
    obtain ⟨outcome, heq⟩ := hand_over_eq hw hattempt { s with _generated := c.key cfg :: s._generated }
    simp only [Bool.false_eq_true, if_false, heq, Option.getD_some]
    refine ⟨_, handoff, outcome, rfl, rfl, rfl, fun hdirect => ?_⟩
    rw [(hw.direct hdirect).1] at hwriter
    cases hwriter
  | true =>
    obtain ⟨hfile, hwrites⟩ := hw.written hwriter
    obtain ⟨outcome, heq⟩ := hand_over_eq hw hattempt
      { s with _generated := c.key cfg :: s._generated, file := some (content handoff).toList }
    have hwrite : write o { s with _generated := c.key cfg :: s._generated } handoff =
        ({ s with _generated := c.key cfg :: s._generated, file := some (content handoff).toList }, none) := by
      simp [write, hfile, hwrites, hvalidate hwriter]
    simp only [if_true, hwrite, heq, Option.getD_some]
    refine ⟨_, handoff, outcome, rfl, rfl, rfl, fun hdirect => ?_⟩
    have hplain := (hw.readable handoff hhandoff).1 hdirect
    exact ⟨_, rfl, validate_content hplain, fun t ht => sections_hold hplain ht⟩

/-- The result hands nothing over. -/
def Result.kept : Result → Bool
  | .handed _ _ => false
  | _ => true

theorem record_kept {o : Outside} {outcome : Outcome} :
    (record o (.outcome outcome)).kept = true := by
  unfold record
  split <;> rfl

theorem record_not_refused {o : Outside} {outcome : Outcome} (h : outcome.kind ≠ "SALVAGE_DUPLICATE") :
    (record o (.outcome outcome)).refused = false := by
  unfold record
  split
  · exact beq_false_of_ne h
  · rfl

theorem turned_away {o : Outside} {outcome : Outcome} (h : outcome.kind ≠ "SALVAGE_DUPLICATE") (P : Prop) :
    (record o (.outcome outcome)).kept = true ∧ ((record o (.outcome outcome)).refused = true → P) := by
  refine ⟨record_kept, fun hrefused => ?_⟩
  rw [record_not_refused h] at hrefused
  cases hrefused

/-- A call is turned away and leaves the state, or its handoff was generated before, or it is marked. -/
theorem apply_cases (cfg : Config) (ports : Ports) (o : Outside) (s : State) (c : Call) :
    (∃ r, apply cfg ports o s c = (s, r) ∧ r.kept = true ∧ (r.refused = true → c.key cfg ∈ s._generated)) ∨
      (Marked cfg s c ∧ apply cfg ports o s c = salvage cfg ports o s c) := by
  unfold apply
  split
  · exact .inl ⟨_, rfl, turned_away (by simp [Call.outcome]) _⟩
  · rename_i hdigest
    split
    · exact .inl ⟨_, rfl, turned_away (by simp [Call.outcome]) _⟩
    · split
      · have hkind : ∀ p : Prop, [Decidable p] →
            (if p then "NO_ACTION" else "BLOCKED") ≠ "SALVAGE_DUPLICATE" := by
          intro p _
          split <;> simp
        exact .inl ⟨_, rfl, turned_away (hkind _) _⟩
      · rename_i hchoice
        split
        · exact .inl ⟨_, rfl, turned_away (by simp [Call.outcome]) _⟩
        · rename_i hsafe
          split
          · exact .inl ⟨_, rfl, turned_away (by simp [Call.outcome]) _⟩
          · rename_i hremaining
            by_cases hkey : c.key cfg ∈ s._generated
            · rw [salvage, if_pos hkey]
              exact .inl ⟨_, rfl, record_kept, fun _ => hkey⟩
            · have hsafe : c.deterministic_safe = true := by simpa using hsafe
              exact .inr ⟨⟨not_not.mp hchoice, not_not.mp hdigest, hsafe, hremaining, hkey⟩, rfl⟩

/-! ## Runs that work -/

/-- What holds between the calls. -/
structure Sound (ports : Ports) (s : State) : Prop where
  lawful : Logged (Lawful ports) s.trace
  generated : ∀ k ∈ s._generated, Delivered k s.trace
  cleaned : ∀ k, .cleaned k ∈ s.trace → k ∈ s._generated

theorem Delivered.append {key : Key} {trace : List Event} (h : Delivered key trace) (more : List Event) :
    Delivered key (trace ++ more) := by
  obtain ⟨handoff, o, file, hmem⟩ := h
  exact ⟨handoff, o, file, List.mem_append_left _ hmem⟩

theorem mem_notes_cleaned {ports : Ports} {key k : Key} (h : .cleaned k ∈ notes ports key) : k = key := by
  unfold notes at h
  split at h
  · split at h
    · simpa using h
    · simp at h
  · cases h

theorem lawful_notes {ports : Ports} {trace : List Event} {key : Key} (h : Logged (Lawful ports) trace)
    (hnew : .cleaned key ∉ trace) : Logged (Lawful ports) (trace ++ notes ports key) := by
  have hacked : Logged (Lawful ports) (trace ++ [.acked key]) := Logged.snoc_iff.mpr ⟨h, trivial⟩
  unfold notes
  split
  · split
    · have hcleaned : Lawful ports (trace ++ [.acked key]) (.cleaned key) :=
        ⟨List.mem_append_right _ List.mem_cons_self, by simpa using hnew⟩
      simpa using Logged.snoc_iff.mpr ⟨hacked, hcleaned⟩
    · exact hacked
  · simpa using h

theorem sound_step {cfg : Config} {ports : Ports} {s : State} {a : Label} (h : Sound ports s)
    (hg : Smooth cfg ports s a) : Sound ports (step cfg ports s a) := by
  cases a with
  | file content => exact ⟨h.lawful, h.generated, h.cleaned⟩
  | apply c o =>
    rcases apply_cases cfg ports o s c with ⟨r, happly, hkept, hrefused⟩ | ⟨hm, happly⟩
    · simp only [step, happly, State.log]
      refine ⟨Logged.snoc_iff.mpr
          ⟨h.lawful, fun hr _ => h.generated _ (hrefused hr), fun handoff outcome heq => ?_⟩,
        fun k hk => (h.generated k hk).append _, fun k hk => ?_⟩
      · rw [heq] at hkept
        cases hkept
      · rcases List.mem_append.mp hk with hk | hk
        · exact h.cleaned k hk
        · simp at hk
    · obtain ⟨s', handoff, outcome, heq, hover⟩ := salvage_eq hm (hg hm)
      simp only [step, happly, heq, State.log]
      have hnew : .cleaned (c.key cfg) ∉ s.trace := fun hmem => hm.fresh (h.cleaned _ hmem)
      refine ⟨?_, fun k hk => ?_, fun k hk => ?_⟩
      · rw [hover.trace]
        refine Logged.snoc_iff.mpr
          ⟨lawful_notes h.lawful hnew, fun hr => (by cases hr), fun h' o' heq' hdirect => ?_⟩
        cases heq'
        refine ⟨hover.held hdirect, fun hcallback => List.mem_append_right _ ?_⟩
        simp [notes, hdirect, hcallback]
      · rw [hover.trace]
        rw [hover.generated] at hk
        rcases List.mem_cons.mp hk with rfl | hk
        · exact ⟨handoff, outcome, s'.file, List.mem_append_right _ List.mem_cons_self⟩
        · exact ((h.generated k hk).append _).append _
      · rw [hover.trace] at hk
        rw [hover.generated]
        rcases List.mem_append.mp hk with hk | hk
        · rcases List.mem_append.mp hk with hk | hk
          · exact List.mem_cons_of_mem _ (h.cleaned k hk)
          · rw [mem_notes_cleaned hk]
            exact List.mem_cons_self
        · simp at hk

theorem sound (cfg : Config) (ports : Ports) :
    (controller cfg ports).InductiveIf (Smooth cfg ports) (Sound ports) where
  init s hs := by
    obtain ⟨file, rfl⟩ := hs
    exact ⟨Logged.nil, fun k hk => (by cases hk), fun k hk => (by cases hk)⟩
  step s a s' h hg hs := by
    obtain rfl := Option.some.inj hs
    exact sound_step h hg

theorem recovery_not_blocked {cfg : Config} {ports : Ports} {s : State}
    (h : (controller cfg ports).ReachableIf (Smooth cfg ports) s) : Logged (Lawful ports) s.trace :=
  ((sound cfg ports).reachable h).lawful

namespace Sample

def config : Config where
  sha256 _ := "d"
  str _ := ""
  lower s := s

/-- A direct session, and a cleanup behind it. -/
def ports : Ports := ⟨"main", true, true, false, true⟩

def call : Call where
  decision := ⟨"SALVAGE", "d"⟩
  activity := ⟨"a", "s", "RUNNING", "t", 0⟩
  snapshot := ⟨.null, ⟨false, .null⟩, ⟨false, .null⟩⟩
  remaining_work := ["w"]
  deterministic_safe := true

def outside (writes : Bool) : Outside where
  handoff_id _ := ⟨"h", by decide⟩
  created_at _ := ⟨['1', '.', '5'], .inl (by decide)⟩
  writes := writes
  create _ := some "direct-1"
  ack := some true
  cleans := true
  appends := true

def handoff : Handoff where
  handoff_id := "h"
  task := "t"
  previous_agent := "a"
  session_id := "s"
  recovery_generation := 0
  completed_work := ["Evidence collection and JEV decision completed"]
  changed_files := ["No changed files observed"]
  test_results := ["Test result unavailable"]
  current_problem := "Source session status requires RUNNING recovery handling"
  failed_methods := ["No failed method recorded in current evidence"]
  remaining_work := ["w"]
  next_agent_first_action := "Read and acknowledge RECOVERY_HANDOFF.md before continuing the remaining work"
  attempt := 1
  target_agent_id := "a"
  evidence_digest := "d"
  created_at := ⟨['1', '.', '5'], .inl (by decide)⟩

theorem handoff_plain : Plain handoff where
  whole := by
    have hlines : (handoff.sections.all fun s => !Text.isBlank s.2.toList &&
        s.2.toList.all fun c => c != '\n' && c != '\r') = true := by decide +kernel
    intro s hs
    have hline := List.all_eq_true.mp hlines s hs
    rw [Bool.and_eq_true, Bool.not_eq_true'] at hline
    exact whole_of_line hline.1 hline.2
  clear := by decide +kernel

theorem works : Works config ports (outside true) (start none) call where
  changed := rfl
  created := rfl
  appended := rfl
  written _ := ⟨rfl, rfl⟩
  direct _ := ⟨rfl, rfl, fun _ => rfl⟩
  factory h := by cases h
  readable h hh := by
    have hhandoff : _handoff_from_activity config (outside true) call 1 call.activity.agent_id = some handoff := rfl
    rw [hhandoff] at hh
    cases hh
    exact ⟨fun _ => handoff_plain, fun hdirect => by cases hdirect⟩

theorem works_reachable : (controller config ports).ReachableIf (Smooth config ports)
    (step config ports (start none) (.apply call (outside true))) :=
  have hinit : (controller config ports).init (start none) := ⟨none, rfl⟩
  have hsmooth : Smooth config ports (start none) (.apply call (outside true)) := fun _ => works
  ⟨start none, _, hinit, .single hsmooth rfl⟩

/-- The disk is full, and later it is not. -/
def labels : List Label := [.apply call (outside false), .apply call (outside true)]

def again : State := (controller config ports).after (start none) labels

def duplicate : Outcome :=
  ⟨"SALVAGE_DUPLICATE", "NO_ACTION", "s", none, none, "HANDOFF_ALREADY_GENERATED", "d"⟩

theorem again_trace : again.trace = [.applied (call.key config) (.raised .other) none,
    .applied (call.key config) (.outcome duplicate) none] := rfl

end Sample

theorem recovery_not_blocked_sample : Logged (Lawful Sample.ports)
    (step Sample.config Sample.ports (start none) (.apply Sample.call (Sample.outside true))).trace :=
  recovery_not_blocked Sample.works_reachable

/-- The file could not be written, and the same decision is a duplicate from then on. -/
theorem failed_salvage_duplicate : ∃ s, (controller Sample.config Sample.ports).Reachable s ∧
    ¬ Logged (Lawful Sample.ports) s.trace := by
  have hinit : (controller Sample.config Sample.ports).init (start none) := ⟨none, rfl⟩
  refine ⟨Sample.again, Machine.reachable_after hinit Sample.labels, fun hlogged => ?_⟩
  have hlast := (hlogged [_] _ [] Sample.again_trace).1 rfl ⟨.raised .other, none, List.mem_cons_self, rfl⟩
  obtain ⟨handoff, o, file, hmem⟩ := hlast
  simp at hmem

end Salvage

end Plachem
