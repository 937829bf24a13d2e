import PlachemMonitor.JevLive.Evaluate
import PlachemMonitor.Spec.Machine

/-!
# Live recovery as a machine

Calls of `evaluate_live_candidate` and the threads that they start, each at its own step, in any order.
The history is a file: `restart` leaves nothing else.

* `Effect.Sound`: what a step of a call appends, starts or dispatches.
* `CallStage.Sound`: what a call has made sure of on its way, kept by its steps (`Call.step_sound`).
-/

namespace Plachem

namespace JevLive

/-- The calls and the threads, by the number of the call that started them. -/
structure Live where
  shared : Shared
  calls : Nat → Option Call
  recoveries : Nat → Option Recovery
  nudges : Nat → Option Nudge

inductive Label where
  | call (n : Nat) (payload : Dict)
  | evaluate (n : Nat) (answer : CallAnswer)
  | recover (n : Nat) (answer : Answer)
  | nudge (n : Nat) (answer : NudgeAnswer)
  | restart

def Shared.append (s : Shared) (record : Option Dict) : Shared :=
  { s with records := s.records ++ record.toList }

/-- `names.discard(session_id)` -/
def discard (names : List String) (session_id : String) : List String :=
  names.filter (· ≠ session_id)

/-- `names.add(session_id)` -/
def add (names : List String) (session_id : String) : List String :=
  session_id :: discard names session_id

def Next.call (job : Job) : Next → Option Call
  | .more stage => some ⟨job, stage⟩
  | .done _ => none

namespace Live

def fresh (w : Live) (n : Nat) : Bool :=
  (w.calls n).isNone && (w.recoveries n).isNone && (w.nudges n).isNone

/-- What the effect of the call `n` on this session leaves. -/
def apply (w : Live) (n : Nat) (session_id : String) : Effect → Live
  | .none => w
  | .append record => { w with shared := w.shared.append (some record) }
  | .reset =>
    { w with shared.confirmations := Function.update w.shared.confirmations session_id none }
  | .confirm entry =>
    { w with shared.confirmations := Function.update w.shared.confirmations session_id (some entry) }
  | .claim recovery =>
    { w with
      shared.inflight := add w.shared.inflight session_id
      recoveries := Function.update w.recoveries n (some recovery) }
  | .dispatch record nudge =>
    { w with
      shared.records := w.shared.records ++ [record]
      shared.nudge_inflight := add w.shared.nudge_inflight session_id
      nudges := Function.update w.nudges n (some nudge) }

def step (cfg : Config) (w : Live) : Label → Option Live
  | .call n payload =>
    if w.fresh n then
      (job_of cfg payload).map fun job =>
        { w with calls := Function.update w.calls n (some ⟨job, .observing⟩) }
    else none
  | .evaluate n answer =>
    (w.calls n).bind fun c => (c.step cfg w.shared answer).map fun (effect, next) =>
      { w.apply n c.job.session_id effect with
        calls := Function.update w.calls n (next.call c.job) }
  | .recover n answer =>
    (w.recoveries n).bind fun r => (r.step cfg w.shared.records answer).map fun (record, next) =>
      { w with
        shared.records := w.shared.records ++ record.toList
        shared.inflight :=
          if next.isSome then w.shared.inflight else discard w.shared.inflight r.job.session_id
        recoveries := Function.update w.recoveries n next }
  | .nudge n answer =>
    (w.nudges n).bind fun t => (t.step cfg answer).map fun (record, next) =>
      { w with
        shared.records := w.shared.records ++ record.toList
        shared.nudge_inflight :=
          if next.isSome then w.shared.nudge_inflight
          else discard w.shared.nudge_inflight t.job.session_id
        nudges := Function.update w.nudges n next }
  | .restart => some ⟨⟨w.shared.records, [], [], fun _ => none⟩, fun _ => none, fun _ => none, fun _ => none⟩

/-- No history yet. -/
def start : Live := ⟨⟨[], [], [], fun _ => none⟩, fun _ => none, fun _ => none, fun _ => none⟩

end Live

/-- Any calls, with any answers, in any order. -/
def live (cfg : Config) : Machine Live Label where
  init w := w = .start
  step := Live.step cfg

/-! ## Records of calls -/

/-- The record is neither an attempt nor the dispatch of a nudge. -/
def Plain (record : Dict) : Prop :=
  ∃ type, record.get? "type" = some (.str type) ∧
    type ∉ ["live_recovery_phase", "live_recovery_outcome", "live_nudge_dispatch"]

theorem Plain.not_attempt {record : Dict} (h : Plain record) (session_id : String) :
    ¬ Attempt session_id record := by
  obtain ⟨type, htype, hnot⟩ := h
  rintro ⟨-, ⟨hphase, -⟩ | houtcome⟩ <;> simp_all

theorem Plain.not_nudge {record : Dict} (h : Plain record) (session_id : String) :
    ¬ NudgeOf session_id record := by
  obtain ⟨type, htype, hnot⟩ := h
  rintro ⟨-, hdispatch⟩
  simp_all

theorem get?_extend {d : Dict} {extra : List (String × Value)} {k : String}
    (h : ∀ m ∈ extra, m.1 ≠ k) : (extend d extra).get? k = d.get? k := by
  induction extra generalizing d with
  | nil => rfl
  | cons m extra ih =>
    rw [extend, List.foldl_cons]
    have hrest := ih (d := d.set m.1 m.2) fun m' hm' => h m' (by simp [hm'])
    rw [extend] at hrest
    rw [hrest, Dict.get?_set_ne _ _ (h m (by simp)).symm]

theorem Plain.extend {d : Dict} (h : Plain d) {extra : List (String × Value)}
    (hextra : ∀ m ∈ extra, m.1 ≠ "type") : Plain (extend d extra) := by
  obtain ⟨type, htype, hnot⟩ := h
  exact ⟨type, by rw [get?_extend hextra, htype], hnot⟩

theorem Plain.set {d : Dict} (h : Plain d) {k : String} {v : Value} (hk : k ≠ "type") :
    Plain (d.set k v) := by
  obtain ⟨type, htype, hnot⟩ := h
  exact ⟨type, by rw [Dict.get?_set_ne _ _ hk.symm, htype], hnot⟩

theorem skip_record_plain (job : Job) (now : FloatText) (status reason : String)
    {extra : List (String × Value)} (h : ∀ m ∈ extra, m.1 ≠ "type") :
    Plain (skip_record job now status reason extra) := by
  apply Plain.extend _ h
  exact ⟨"live_candidate_skip", by simp [Dict.get?_ofList, Value.str], by simp⟩

theorem decision_record_plain (job : Job) (now : FloatText) (snapshot : Snapshot) (d : Decision) :
    Plain (decision_record job now snapshot d) :=
  ⟨"live_jev_decision", by simp [decision_record, Dict.get?_ofList, Value.str], by simp⟩

theorem pending_outcome_plain (job : Job) (now : FloatText) (dispatch : Dict) (current : Metrics)
    (status : String) {extra : List (String × Value)} (h : ∀ m ∈ extra, m.1 ≠ "type") :
    Plain (pending_outcome job now dispatch current status extra) := by
  refine Plain.extend (Plain.extend ⟨"live_nudge_outcome", ?_, by simp⟩ ?_) ?_
  · simp [Dict.get?_ofList, Value.str]
  · simp [nudge_fields]
  · simpa using h

theorem Judgment.acts_plain {j : Judgment} (h : Plain j.record) (action : String)
    {extra : List (String × Value)} (hextra : ∀ m ∈ extra, m.1 ≠ "type") :
    Plain (j.acts action extra) :=
  (h.extend hextra).set (by simp)

/-! ## What a call has made sure of -/

/-- The snapshot is of a session that is no handoff. -/
structure Looked (cfg : Config) (job : Job) (ctx : Context) (snapshot : Snapshot) : Prop where
  role : session_role job.session_key ≠ .handoff
  scope : snapshot.scope = risk_scope cfg ctx

/-- The decision is one to recover the session. -/
structure Salvage (cfg : Config) (job : Job) (j : Judgment) : Prop where
  looked : Looked cfg job j.ctx j.snapshot
  choice : j.decision.choice = "SALVAGE"
  confident : (salvage_is_confident cfg.floats j.decision).1 = true
  role : session_role job.session_key ≠ .recovery
  agent : cfg.lower job.agent_id ≠ "main"
  allowed : j.snapshot.scope.auto_recovery_allowed = true
  plain : Plain j.record

/-- Nothing of the session was found in the history that was read. -/
def Unattempted (job : Job) (records read : List Dict) : Prop :=
  read <+: records ∧ recovery_attempt_exists read job.session_id = .ok false

/-- The guard has let the nudge pass, on the history that it read. -/
def Passed (cfg : Config) (job : Job) (j : Judgment) (records read : List Dict) : Prop :=
  read <+: records ∧ ∃ prior resolution,
    latest_nudge_state read job.session_id = .ok (prior, resolution) ∧
      nudge_prior cfg (nudge_metrics (some j.snapshot.trace)) j.snapshot.stable_state_digest prior = .ok none

def CallStage.Sound (cfg : Config) (job : Job) (records : List Dict) : CallStage → Prop
  | .observing => True
  | .pending ctx snapshot | .holding ctx snapshot _ | .judging ctx snapshot => Looked cfg job ctx snapshot
  | .settling ctx snapshot record => Looked cfg job ctx snapshot ∧ Plain record
  | .guarding j | .comparing j => Looked cfg job j.ctx j.snapshot ∧ Plain j.record
  | .dispatching j read => Plain j.record ∧ Passed cfg job j records read
  | .scanning j => Salvage cfg job j
  | .confirming j read | .starting j read | .claiming j read =>
    Salvage cfg job j ∧ Unattempted job records read
  | .resetting record _ => ∀ r ∈ record, Plain r
  | .appending record _ => Plain record

def Next.Sound (cfg : Config) (job : Job) (records : List Dict) : Next → Prop
  | .more stage => stage.Sound cfg job records
  | .done _ => True

/-- What is appended, started or dispatched comes from the stage for it. -/
def Effect.Sound (w : Shared) (c : Call) : Effect → Prop
  | .append record => Plain record
  | .claim recovery => ∃ j read, c.stage = .claiming j read ∧ recovery = c.recovery j ∧
      c.job.session_id ∉ w.inflight
  | .dispatch record nudge => ∃ j read dispatch_id now, c.stage = .dispatching j read ∧
      record = dispatch_record c.job now j.snapshot.stable_state_digest dispatch_id
        (nudge_metrics (some j.snapshot.trace)) ∧
      nudge.job = c.job ∧ c.job.session_id ∉ w.nudge_inflight
  | _ => True

section Sound

variable {cfg : Config} {c : Call} {w : Shared} {j : Judgment}

theorem CallStage.Sound.mono {job : Job} {records records' : List Dict} {stage : CallStage}
    (h : stage.Sound cfg job records) (hle : records <+: records') :
    stage.Sound cfg job records' := by
  cases stage with
  | dispatching j read => exact ⟨h.1, h.2.1.trans hle, h.2.2⟩
  | confirming j read => exact ⟨h.1, h.2.1.trans hle, h.2.2⟩
  | starting j read => exact ⟨h.1, h.2.1.trans hle, h.2.2⟩
  | claiming j read => exact ⟨h.1, h.2.1.trans hle, h.2.2⟩
  | _ => exact h

theorem close_sound {records : List Dict} (h : Plain j.record) (action : String)
    {extra : List (String × Value)} (hextra : ∀ m ∈ extra, m.1 ≠ "type") :
    (Next.more (j.close action extra)).Sound cfg c.job records :=
  j.acts_plain h action hextra

theorem clear_sound {records : List Dict} (h : Plain j.record) (action : String)
    {extra : List (String × Value)} (hextra : ∀ m ∈ extra, m.1 ≠ "type") :
    (Next.more (j.clear action extra)).Sound cfg c.job records := by
  intro r hr
  obtain rfl := Option.mem_some.mp hr
  exact j.acts_plain h action hextra

namespace Call

theorem observe_sound {answer : CallAnswer} {effect : Effect} {next : Next}
    (h : c.observe cfg answer = some (effect, next)) :
    effect = .none ∧ next.Sound cfg c.job w.records := by
  have hskip : ∀ now status reason (extra : List (String × Value)) result,
      (∀ m ∈ extra, m.1 ≠ "type") → (Next.more (.resetting
        (some (skip_record c.job now status reason extra)) result)).Sound cfg c.job w.records := by
    intro now status reason extra result hextra r hr
    obtain rfl := Option.mem_some.mp hr
    exact skip_record_plain c.job now status reason hextra
  cases answer with
  | go now =>
    simp only [observe] at h
    split at h
    · cases h
      exact ⟨rfl, hskip _ _ _ _ _ (by simp)⟩
    · cases h
  | observed seen now =>
    simp only [observe] at h
    split at h
    · cases h
    rename_i hrole
    split at h
    · cases h
      exact ⟨rfl, trivial⟩
    rename_i ctx snapshot hseen
    split at h
    · cases h
      exact ⟨rfl, by simp [Next.Sound, CallStage.Sound]⟩
    split at h
    · cases h
      exact ⟨rfl, hskip _ _ _ _ _ (by simp)⟩
    split at h
    · cases h
      exact ⟨rfl, hskip _ _ _ _ _ (by simp)⟩
    · cases h
      refine ⟨rfl, hrole, ?_⟩
      obtain ⟨_, -, hseen⟩ := bind_eq_ok.mp hseen
      split at hseen
      · cases hseen
      · cases hseen
        rfl
  | _ => cases h

theorem await_sound {ctx : Context} {snapshot : Snapshot} {now : FloatText}
    (h : Looked cfg c.job ctx snapshot) :
    (c.await cfg w ctx snapshot now).1 = .none ∧
      (c.await cfg w ctx snapshot now).2.Sound cfg c.job w.records := by
  unfold await
  split
  · exact ⟨rfl, trivial⟩
  · exact ⟨rfl, h⟩
  · exact ⟨rfl, h⟩
  · dsimp only
    split
    · exact ⟨rfl, trivial⟩
    · exact ⟨rfl, h⟩
    · exact ⟨rfl, pending_outcome_plain _ _ _ _ _ (by simp)⟩

theorem hold_sound {ctx : Context} {snapshot : Snapshot} {dispatch : Dict} {now : FloatText}
    (h : Looked cfg c.job ctx snapshot) :
    (c.hold cfg w ctx snapshot dispatch now).1 = .none ∧
      (c.hold cfg w ctx snapshot dispatch now).2.Sound cfg c.job w.records := by
  unfold hold
  dsimp only
  split
  · exact ⟨rfl, trivial⟩
  · exact ⟨rfl, h, pending_outcome_plain _ _ _ _ _ (by simp)⟩

theorem judge_sound {ctx : Context} {snapshot : Snapshot} {d : Decision} {now : FloatText}
    (h : Looked cfg c.job ctx snapshot) :
    (c.judge cfg ctx snapshot d now).1.Sound w c ∧
      (c.judge cfg ctx snapshot d now).2.Sound cfg c.job w.records := by
  have hplain := decision_record_plain c.job now snapshot d
  unfold judge
  split
  · refine ⟨trivial, ?_⟩
    show Next.Sound _ _ _ (.more _)
    split
    · exact close_sound hplain _ (by simp)
    split
    · exact ⟨h, hplain⟩
    · exact close_sound hplain _ (by simp)
  rename_i hchoice
  have hplain' := hplain.set (v := .ofOption time (salvage_is_confident cfg.floats d).2.2)
    (show "salvage_margin" ≠ "type" by simp)
  refine ⟨trivial, ?_⟩
  show Next.Sound _ _ _ (.more _)
  dsimp only
  split
  · exact clear_sound hplain' _ (by simp [deferred])
  rename_i hconfident
  split
  · exact clear_sound hplain' _ (by simp)
  rename_i hrole
  split
  · exact clear_sound hplain' _ (by simp)
  rename_i hagent
  split
  · exact clear_sound hplain' _ (by simp)
  split
  · exact clear_sound hplain' _ (by simp)
  rename_i hallowed
  exact
    { looked := h
      choice := not_not.mp hchoice
      confident := by simpa using hconfident
      role := hrole
      agent := hagent
      allowed := by simpa using hallowed
      plain := hplain' }

theorem guard_sound (h : Looked cfg c.job j.ctx j.snapshot) (hplain : Plain j.record) :
    (c.guard cfg w j).1 = .none ∧ (c.guard cfg w j).2.Sound cfg c.job w.records := by
  unfold guard
  split
  · exact ⟨rfl, trivial⟩
  split
  · exact ⟨rfl, close_sound hplain _ (by simp)⟩
  · exact ⟨rfl, h, hplain⟩

theorem compare_sound (hplain : Plain j.record) :
    (c.compare cfg w j).1 = .none ∧ (c.compare cfg w j).2.Sound cfg c.job w.records := by
  unfold compare
  split
  · exact ⟨rfl, trivial⟩
  rename_i prior resolution hstate
  split
  · exact ⟨rfl, trivial⟩
  · exact ⟨rfl, close_sound hplain _ (by simp)⟩
  · rename_i hprior
    exact ⟨rfl, hplain.set (by simp), List.prefix_rfl, prior, resolution, hstate, hprior⟩

theorem scan_sound (h : Salvage cfg c.job j) :
    (c.scan w j).1 = .none ∧ (c.scan w j).2.Sound cfg c.job w.records := by
  unfold scan
  split
  · exact ⟨rfl, trivial⟩
  · exact ⟨rfl, clear_sound h.plain _ (by simp)⟩
  · rename_i hscan
    refine ⟨rfl, ?_⟩
    show Next.Sound _ _ _ (.more _)
    split
    · exact clear_sound h.plain _ (by simp [deferred])
    · exact ⟨h, List.prefix_rfl, hscan⟩

theorem confirm_sound {read : List Dict} {enabled : Bool} {now : FloatText} (h : Salvage cfg c.job j)
    (hread : Unattempted c.job w.records read) :
    (c.confirm cfg w j read enabled now).1.Sound w c ∧
      (c.confirm cfg w j read enabled now).2.Sound cfg c.job w.records := by
  unfold confirm
  refine ⟨trivial, ?_⟩
  show Next.Sound _ _ _ (.more _)
  have hplain : Plain (JevLive.extend j.record
      [("salvage_confirmation_count", .int (confirm_salvage cfg.floats
        (w.confirmations c.job.session_id) j.snapshot.stable_state_digest now).count),
        ("salvage_confirmation_required", .int AUTO_RECOVERY_CONFIRMATIONS)]) :=
    h.plain.extend (by simp)
  split
  · exact close_sound hplain _ (by simp [deferred])
  split
  · exact ⟨{ h with plain := hplain }, hread⟩
  · exact close_sound hplain _ (by simp)

theorem dispatch_sound {read : List Dict} {dispatch_id : String} {now : FloatText}
    (hstage : c.stage = .dispatching j read) (hplain : Plain j.record) :
    (c.dispatch w j dispatch_id now).1.Sound w c ∧
      (c.dispatch w j dispatch_id now).2.Sound cfg c.job w.records := by
  unfold dispatch
  dsimp only
  split
  · exact ⟨trivial, close_sound hplain _ (by simp)⟩
  · rename_i hnot
    exact ⟨⟨j, read, dispatch_id, now, hstage, rfl, rfl, hnot⟩, close_sound hplain _ (by simp)⟩

theorem claim_sound {read : List Dict} (hstage : c.stage = .claiming j read) (hplain : Plain j.record) :
    (c.claim w j).1.Sound w c ∧ (c.claim w j).2.Sound cfg c.job w.records := by
  unfold claim
  split
  · exact ⟨trivial, close_sound hplain _ (by simp)⟩
  · rename_i hnot
    exact ⟨⟨j, read, hstage, rfl, hnot⟩, close_sound hplain _ (by simp)⟩

/-- What a step has made sure of, and what it does. -/
theorem step_sound {answer : CallAnswer} {effect : Effect} {next : Next}
    (h : c.stage.Sound cfg c.job w.records) (hstep : c.step cfg w answer = some (effect, next)) :
    effect.Sound w c ∧ next.Sound cfg c.job w.records := by
  have hsome : ∀ {o : Outcome}, some o = some (effect, next) →
      o.1.Sound w c ∧ o.2.Sound cfg c.job w.records →
      effect.Sound w c ∧ next.Sound cfg c.job w.records := by
    intro o heq ho
    obtain rfl := Option.some.inj heq
    exact ho
  have hnone : ∀ {o : Outcome}, some o = some (effect, next) →
      o.1 = .none ∧ o.2.Sound cfg c.job w.records →
      effect.Sound w c ∧ next.Sound cfg c.job w.records := by
    intro o heq ho
    refine hsome heq ⟨?_, ho.2⟩
    rw [ho.1]
    trivial
  unfold step at hstep
  split at hstep
  · exact hsome hstep ⟨trivial, trivial⟩
  · obtain ⟨rfl, hnext⟩ := observe_sound hstep
    exact ⟨trivial, hnext⟩
  all_goals rename_i hstage; try rw [hstage] at h
  · exact hnone hstep (await_sound h)
  · exact hnone hstep (hold_sound h)
  · exact hsome hstep ⟨h.2, h.1⟩
  · exact hsome hstep (judge_sound h)
  · exact hnone hstep (guard_sound h.1 h.2)
  · exact hnone hstep (compare_sound h.2)
  · exact hsome hstep (dispatch_sound hstage h.1)
  · exact hnone hstep (scan_sound h)
  · exact hsome hstep (confirm_sound h.1 h.2)
  · exact hsome hstep ⟨trivial, h⟩
  · exact hsome hstep (claim_sound hstage h.1.plain)
  · rename_i record result now
    refine hsome hstep ⟨trivial, ?_⟩
    cases record with
    | none => trivial
    | some record => exact h record rfl
  · exact hsome hstep ⟨h, trivial⟩
  · cases hstep

end Call

end Sound

/-! ## A session that is stuck -/

namespace Sample

def zero : FloatText := float "0.0" (by decide)

/-- The tenths of a float with one decimal. -/
def tenths (t : FloatText) : Nat :=
  (t.text.filter Char.isDigit).foldl (fun n c => 10 * n + (c.toNat - 48)) 0

/-- Floats, as far as the samples compute with them. -/
def floats : Floats where
  add a _ := a
  sub a b := if a = b then zero else float "50.0" (by decide)
  div a _ := a
  lt a b := decide (tenths a < tenths b)
  le a b := decide (tenths a ≤ tenths b)
  round a := a
  ofInt _ := zero

def config : Config where
  floats := floats
  str _ := ""
  int _ := .ok 0
  lower s := s
  upper s := s
  risk_matches _ := []
  destructive _ := false
  external_send _ := false
  collapse := Text.strip

def payload : Dict :=
  Dict.ofList [("agent_id", .str "erp"), ("session_id", .str "s-1"), ("session_key", .str "agent:erp:task"),
    ("kind", .str "PERIODIC_HEALTH"),
    ("evidence", .ofDict (Dict.ofList [("source", .str "periodic_supervisor")] (by simp)))] (by simp)

def now : FloatText := float "1000.0" (by decide)

def later : FloatText := float "1050.0" (by decide)

/-- What is read while this run is the newest one of the session. -/
def reads (run_id : String) : Reads where
  window := some ⟨"agent:erp:task", "running", none, "web"⟩
  run_row := some run_id
  runtime := [⟨run_id, some (.obj [("type", .str "prompt.submitted")])⟩]
  transcript_run_id := none
  latest_user := "sort the rows"
  command_texts := []
  recent_assistant_texts := []

def seen : Observation where
  reads := .ok (reads "run-1")
  trace := some ⟨1, 0, 0, 0, none, some now, 0⟩
  state_digest := "digest-1"
  stable_state_digest := "stable-1"

def salvage : Decision := ⟨"SALVAGE", some (float "0.9" (by decide)), []⟩

/-- A call up to its confirmation. -/
def confirms (n : Nat) (now : FloatText) : List Label :=
  [.call n payload, .evaluate n (.observed seen now), .evaluate n (.go now), .evaluate n (.judged salvage now),
    .evaluate n (.go now), .evaluate n (.confirmed true now)]

/-- The call starts the recovery. -/
def claims (n : Nat) : List Label := [.evaluate n (.go later), .evaluate n (.go later)]

def handoff : List Char :=
  REQUIRED.flatMap fun name => "## ".toList ++ name.toList ++ "\nx\n\n".toList

/-- A recovery up to the start of phase B. -/
def enters (n : Nat) : List Label :=
  [.recover n (.observed seen), .recover n (.workspace "/handoff" (some handoff)), .recover n (.go later),
    .recover n (.go later)]

/-- It cannot read the session, and ends. -/
def fails (n : Nat) : List Label :=
  [.recover n (.context (.error (.runtime "SESSION_WINDOW_NOT_FOUND")) later), .recover n (.go later),
    .recover n (.go later)]

end Sample

end JevLive

end Plachem
