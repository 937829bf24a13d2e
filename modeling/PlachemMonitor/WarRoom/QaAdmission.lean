import PlachemMonitor.FastGateway.Adapter

/-!
# The admission to QA

`transition_task` lets a task of the Fast Gateway into QA if its deliveries of the current revision have all
responded, and if each execution run of the task has passed: the runs have no revision. So a run that an
earlier revision left behind keeps a reworked task out of QA (`kept_out`), or lets one in that has no run of
its own. Whether two databases that differ only in what is left behind give the same answer is said by
`same_answer_iff`.
-/

namespace Plachem

namespace WarRoom

open FastGatewayWarRoomAdapter (core_id)

/-! ## What is left behind -/

/-- The deliveries of the task at its revision. -/
def current_deliveries (db : DB) (task : Task) : List Delivery :=
  db.deliveries.rows.filter fun d => some d.message_id == task.source_message_id &&
    d.task_revision == task.revision

/-- The run is that of a delivery of the current revision. -/
def is_current_run (db : DB) (task : Task) (r : ExecutionRun) : Bool :=
  (current_deliveries db task).any fun d => r.core_run_id == core_id d.id

/-- The runs of the task. -/
def task_runs (db : DB) (task : Task) : List ExecutionRun :=
  db.runs.rows.filter fun r => r.war_task_id == task.id

/-- The runs of the current deliveries. -/
def current_runs (db : DB) (task : Task) : List ExecutionRun :=
  (task_runs db task).filter (is_current_run db task)

/-- The runs that earlier revisions have left behind. -/
def left_runs (db : DB) (task : Task) : List ExecutionRun :=
  (task_runs db task).filter fun r => !is_current_run db task r

/-- The databases differ in deliveries and runs only, and not in the deliveries of the task at its revision and
their runs. -/
structure Agree (task : Task) (db db' : DB) : Prop where
  rest : db' = { db with deliveries := db'.deliveries, runs := db'.runs }
  deliveries : current_deliveries db' task = current_deliveries db task
  runs : current_runs db' task = current_runs db task

/-- The answer of an endpoint that reads and writes one state. -/
def Handler.answer (h : Handler) (cfg : Config) (db : DB) (env : Env) (req : Request) :
    Except HttpError Json :=
  (h.handle cfg (fun _ => db) db env req).map Prod.snd

/-- The request of this actor gets as far as the runs. -/
structure GetsToRuns (cfg : Config) (db : DB) (req : Request) (task : Task) (who : String) : Prop where
  contract : validate_mutation_contract req task = .ok ()
  permitted : actor db req .execute task.project_id = .ok who
  mutable : require_mutable_project db task.project_id = .ok ()
  key : idem cfg db req ⟨who, "POST:/tasks/" ++ task.id ++ "/transition", req.body⟩ = .ok none
  running : require_not_stopped db task.project_id = .ok ()
  status : .qa ∈ TRANSITIONS task.status
  instruction : task.source_message_id.isSome = true
  responded : current_deliveries db task ≠ [] ∧ ∀ d ∈ current_deliveries db task,
    d.status = .responded ∧ d.response_message_id.any (· ≠ "") = true ∧ d.error_code.all (· = "") = true

/-- What is left behind has passed, and some run is there. -/
structure Clear (db : DB) (task : Task) : Prop where
  some_run : task_runs db task ≠ []
  passed : ∀ r ∈ left_runs db task, run_passed r = true

variable {cfg : Config} {db db' : DB} {env : Env} {req : Request} {task : Task} {who task_id : String}

/-! ## The check of the runs -/

theorem mem_task_runs {r : ExecutionRun} : r ∈ task_runs db task ↔
    r ∈ current_runs db task ∨ r ∈ left_runs db task := by
  unfold current_runs left_runs
  rw [List.mem_filter, List.mem_filter, Bool.not_eq_true']
  constructor
  · intro h
    cases hcurrent : is_current_run db task r with
    | true => exact .inl ⟨h, rfl⟩
    | false => exact .inr ⟨h, rfl⟩
  · rintro (h | h) <;> exact h.1

/-- The execution of the revision has passed, and nothing that is left behind has not. -/
def Passes (db : DB) (task : Task) : Prop :=
  (∀ r ∈ current_runs db task, run_passed r = true) ∧ Clear db task

theorem passes_iff : Passes db task ↔
    task_runs db task ≠ [] ∧ ∀ r ∈ task_runs db task, run_passed r = true := by
  constructor
  · rintro ⟨hcurrent, hsome, hleft⟩
    refine ⟨hsome, fun r hr => ?_⟩
    rcases mem_task_runs.mp hr with hr | hr
    · exact hcurrent r hr
    · exact hleft r hr
  · rintro ⟨hsome, hall⟩
    refine ⟨fun r hr => hall r (mem_task_runs.mpr (.inl hr)), hsome, fun r hr => ?_⟩
    exact hall r (mem_task_runs.mpr (.inr hr))

/-- The deliveries decide before the runs. -/
theorem qa_entry_eq {message_id : String} (hmode : task.execution_mode = .FAST_GATEWAY)
    (hmessage : task.source_message_id = some message_id) :
    qa_entry (fun _ => db) task = (do
      ensure (current_deliveries db task ≠ [] ∧ ∀ d ∈ current_deliveries db task,
        d.status = .responded ∧ d.response_message_id.any (· ≠ "") ∧ d.error_code.all (· = "")) 409
        "only fully responded successful deliveries may enter QA"
      ensure (task_runs db task ≠ [] ∧ ∀ r ∈ task_runs db task, run_passed r = true) 409
        "validated PASS execution required before QA") := by
  have hdeliveries : (db.deliveries.rows.filter fun d => d.message_id == message_id &&
      d.task_revision == task.revision) = current_deliveries db task := by
    unfold current_deliveries
    rw [hmessage]
    refine List.filter_congr fun d _ => ?_
    rcases Bool.eq_false_or_eq_true (d.message_id == message_id) with hd | hd <;> simp
  unfold qa_entry
  rw [hmessage]
  dsimp only
  rw [hdeliveries]
  refine bind_congr_ok fun _ _ => ?_
  unfold ensure task_runs run_passed
  simp only [hmode, decide_eq_true_eq, reduceCtorEq, false_or]

/-! ## The answer -/

/-- `transition_task` to QA, with its check of the deliveries and runs as `entry`. -/
def qa_transition (cfg : Config) (db : DB) (env : Env) (req : Request) (task : Task)
    (entry : Except HttpError Unit) : Except HttpError Json := do
  validate_mutation_contract req task
  let who ← actor db req .execute task.project_id
  require_mutable_project db task.project_id
  let l : Lookup := ⟨who, "POST:/tasks/" ++ task.id ++ "/transition", req.body⟩
  match ← idem cfg db req l with
  | some stored => pure stored
  | none =>
    require_not_stopped db task.project_id
    ensure (.qa ∈ TRANSITIONS task.status) 409
      ("invalid transition " ++ task.status.value ++ " -> " ++ TaskStatus.qa.value)
    entry
    let result := controlled [("task_id", .str task.id), ("status", .str TaskStatus.qa.value),
      ("correlation_id", .str (env.uuid 0))]
    (save_idem cfg db req l result).map fun _ => result

/-- What `transition_task` does for QA after its lookup of the key. -/
theorem after_qa {l : Lookup} : (transition_task task.id).after cfg (fun _ => db) db env req l (task, .qa) =
    (do
      require_not_stopped db task.project_id
      ensure (.qa ∈ TRANSITIONS task.status) 409
        ("invalid transition " ++ task.status.value ++ " -> " ++ TaskStatus.qa.value)
      qa_entry (fun _ => db) task
      pure (write_transition (revoke db env fun a => a.id ∈ []) env task .qa none,
        controlled [("task_id", .str task.id), ("status", .str TaskStatus.qa.value),
          ("correlation_id", .str (env.uuid 0))])) := by
  unfold transition_task
  dsimp only
  have hrunning : ¬(TaskStatus.qa = .running) := by decide
  have hawaiting : ¬(TaskStatus.qa = .awaiting_approval) := by decide
  have hgoes : TaskStatus.qa ∈ [TaskStatus.running, .qa] := by decide
  have hstops : TaskStatus.qa ∉ [TaskStatus.stopped, .stop_unconfirmed] := by decide
  simp only [only_if, some_if, if_pos hgoes, if_neg hstops, if_neg hrunning, hawaiting, false_and, if_true,
    if_false]
  rfl

/-- What it does before it. -/
theorem before_qa (hstatus : req.text? "status" = some "qa") (hfound : db.tasks.find task.id = some task) :
    (transition_task task.id).before cfg (fun _ => db) db env req = (do
      validate_mutation_contract req task
      let who ← actor db req .execute task.project_id
      require_mutable_project db task.project_id
      pure (⟨who, "POST:/tasks/" ++ task.id ++ "/transition", req.body⟩, task, .qa)) := by
  unfold transition_task
  dsimp only
  rw [hstatus, hfound]
  simp only [ensure, transition_target, found]
  rfl

theorem map_snd {ε : Type} {α β γ : Type} {x : Except ε α} {f : α → β} {c : γ} :
    (x >>= fun a => pure (f a, c)).map Prod.snd = x.map fun _ => c := by
  cases x <;> rfl

/-- Two checks with one error come out alike if they check the same. -/
theorem map_ensure_iff {α : Type} {p q : Prop} [Decidable p] [Decidable q] {status_code : Nat} {detail : String}
    {f : Unit → α} :
    (ensure p status_code detail).map f = (ensure q status_code detail).map f ↔ (p ↔ q) := by
  unfold ensure
  by_cases hp : p
  · by_cases hq : q
    · simp [hp, hq]
    · simp [hp, hq, raise, Except.map]
  · by_cases hq : q
    · simp [hp, hq, raise, Except.map]
    · simp [hp, hq]

/-- The row of the key does not depend on the other tables. -/
theorem save_idem_map (db db' : DB) {l : Lookup} {result : Json} (hkeys : db'.keys = db.keys) :
    (save_idem cfg db' req l result).map (fun _ => result) =
      (save_idem cfg db req l result).map fun _ => result := by
  unfold save_idem
  rw [hkeys]
  rcases inserted (db.keys.insert
    { actor_id := l.actor, scope := l.scope, idempotency_key := req.idempotency_key.getD ""
      request_hash := cfg.request_hash l.payload, response := result }) with e | keys
  · rfl
  · rfl

/-- The answer to a call for QA. -/
theorem answer_eq (hstatus : req.text? "status" = some "qa") (hfound : db.tasks.find task.id = some task) :
    (transition_task task.id).answer cfg db env req =
      qa_transition cfg db env req task (qa_entry (fun _ => db) task) := by
  unfold Handler.answer Handler.handle qa_transition
  rw [before_qa hstatus hfound]
  rcases validate_mutation_contract req task with e | -
  · rfl
  refine Eq.trans (congrArg _ (bind_assoc _ _ _)) ?_
  rcases actor db req .execute task.project_id with e | who
  · rfl
  rcases require_mutable_project db task.project_id with e | -
  · rfl
  change Except.map Prod.snd (idem cfg db req _ >>= _) = idem cfg db req _ >>= _
  rcases idem cfg db req ⟨who, "POST:/tasks/" ++ task.id ++ "/transition", req.body⟩ with e | stored
  · rfl
  rcases stored with - | stored
  · change Except.map Prod.snd ((transition_task task.id).after cfg (fun _ => db) db env req _ (task, .qa) >>= _) = _
    rw [after_qa]
    rcases require_not_stopped db task.project_id with e | -
    · rfl
    rcases ensure (TaskStatus.qa ∈ TRANSITIONS task.status) 409
      ("invalid transition " ++ task.status.value ++ " -> " ++ TaskStatus.qa.value) with e | -
    · rfl
    rcases qa_entry (fun _ => db) task with e | -
    · rfl
    refine Eq.trans ?_ (save_idem_map db (write_transition (revoke db env fun a => a.id ∈ []) env task .qa none) rfl)
    exact map_snd
  · rfl

/-- The two answers are the same, or the call has got as far as the runs. -/
theorem qa_transition_congr {entry entry' : Except HttpError Unit}
    (h : ∀ who, validate_mutation_contract req task = .ok () → actor db req .execute task.project_id = .ok who →
      require_mutable_project db task.project_id = .ok () →
      idem cfg db req ⟨who, "POST:/tasks/" ++ task.id ++ "/transition", req.body⟩ = .ok none →
      require_not_stopped db task.project_id = .ok () → .qa ∈ TRANSITIONS task.status → entry = entry') :
    qa_transition cfg db env req task entry = qa_transition cfg db env req task entry' := by
  unfold qa_transition
  refine bind_congr_ok fun _ hcontract => bind_congr_ok fun who hactor => bind_congr_ok fun _ hmutable => ?_
  refine bind_congr_ok fun previous hkey => ?_
  rcases previous with - | stored
  · refine bind_congr_ok fun _ hrunning => bind_congr_ok fun _ hstatus => ?_
    rw [h who hcontract hactor hmutable hkey hrunning (ensure_eq_ok.mp hstatus)]
  · rfl

/-- Where the call gets as far as the runs, the answer is what the check of the entry says. -/
theorem qa_transition_ok (env : Env) (h : GetsToRuns cfg db req task who) :
    ∃ result, ∀ entry : Except HttpError Unit,
    qa_transition cfg db env req task entry = entry.map fun _ => result := by
  obtain ⟨hcontract, hactor, hmutable, hkey, hrunning, hstatus, -, -⟩ := h
  refine ⟨controlled [("task_id", .str task.id), ("status", .str TaskStatus.qa.value),
    ("correlation_id", .str (env.uuid 0))], fun entry => ?_⟩
  obtain ⟨keys, hsaved⟩ := save_idem_ok hkey (controlled [("task_id", .str task.id),
    ("status", .str TaskStatus.qa.value), ("correlation_id", .str (env.uuid 0))])
  unfold qa_transition ensure
  rw [hcontract, hactor, hmutable, hrunning, if_pos hstatus]
  refine (bind_of_ok hkey).trans ?_
  rcases entry with e | -
  · rfl
  · exact congrArg (Except.map _) hsaved

/-- The checks before the entry read nothing that the databases differ in. -/
theorem Agree.qa_transition_eq (h : Agree task db db') (entry : Except HttpError Unit) :
    qa_transition cfg db' env req task entry = qa_transition cfg db env req task entry := by
  obtain ⟨deliveries, runs, hdb⟩ : ∃ deliveries runs, db' = { db with deliveries := deliveries, runs := runs } :=
    ⟨_, _, h.rest⟩
  subst hdb
  unfold qa_transition
  refine bind_congr_ok fun _ _ => bind_congr_ok fun who _ => bind_congr_ok fun _ _ => bind_congr_ok fun previous _ => ?_
  rcases previous with - | stored
  · refine bind_congr_ok fun _ _ => bind_congr_ok fun _ _ => bind_congr_ok fun _ _ => ?_
    exact save_idem_map db _ rfl
  · rfl

/-- The runs of the revision have passed in both databases or in neither. -/
theorem passes_congr (hagree : Agree task db db') :
    (Passes db' task ↔ Passes db task) ↔
      ((∀ r ∈ current_runs db task, run_passed r = true) → (Clear db' task ↔ Clear db task)) := by
  unfold Passes
  rw [hagree.runs]
  exact and_congr_right_iff

/-- Two databases that agree on the revision give the same answer to a call for QA, unless the call gets as far
as the runs, those of the revision have passed, and what is left behind lets the task in for one alone. -/
theorem same_answer_iff (hagree : Agree task db db') (hmode : task.execution_mode = .FAST_GATEWAY)
    (hfound : db.tasks.find task.id = some task) (hstatus : req.text? "status" = some "qa") :
    (transition_task task.id).answer cfg db' env req = (transition_task task.id).answer cfg db env req ↔
      ∀ who, GetsToRuns cfg db req task who → (∀ r ∈ current_runs db task, run_passed r = true) →
        (Clear db' task ↔ Clear db task) := by
  have hfound' : db'.tasks.find task.id = some task := by
    rw [hagree.rest]
    exact hfound
  rw [answer_eq hstatus hfound, answer_eq hstatus hfound', hagree.qa_transition_eq]
  constructor
  · intro hsame who hreaches
    obtain ⟨message_id, hmessage⟩ := Option.isSome_iff_exists.mp hreaches.instruction
    obtain ⟨result, hresult⟩ := qa_transition_ok env hreaches
    refine (passes_congr hagree).mp ?_
    rw [hresult, hresult, qa_entry_eq hmode hmessage, qa_entry_eq hmode hmessage, hagree.deliveries] at hsame
    simp only [bind_of_ok (ensure_eq_ok (u := ()).mpr hreaches.responded)] at hsame
    rw [passes_iff, passes_iff]
    exact map_ensure_iff.mp hsame
  · intro h
    refine qa_transition_congr fun who hcontract hactor hmutable hkey hrunning hto => ?_
    cases hmessage : task.source_message_id with
    | none =>
      unfold qa_entry
      rw [hmessage]
    | some message_id =>
      rw [qa_entry_eq hmode hmessage, qa_entry_eq hmode hmessage, hagree.deliveries]
      refine bind_congr_ok fun _ hresponded => ?_
      have hreaches : GetsToRuns cfg db req task who := ⟨hcontract, hactor, hmutable, hkey, hrunning, hto,
        Option.isSome_iff_exists.mpr ⟨message_id, hmessage⟩, ensure_eq_ok.mp hresponded⟩
      have hpasses := (passes_congr hagree).mpr (h who hreaches)
      rw [passes_iff, passes_iff] at hpasses
      unfold ensure
      simp only [hpasses]

namespace Sample

/-- A task at its second revision. -/
def second_revision : Task :=
  ⟨"t", "p", some "m", some "dev", some "qa", "again", .running, "v1", some "v1", none, none, .FAST_GATEWAY, none,
    2, 0, 0, 0, none, none⟩

/-- A delivery of a revision that has responded. -/
def responded_at (id : String) (revision : Nat) : Delivery :=
  ⟨id, "m", "dev", revision, .responded, 1, 3, none, none, none, none, none, some ("r" ++ id), none, none, none,
    none, 0, none, none, none, none, none, 0⟩

/-- The run of a delivery. -/
def run_of (delivery_id run_status : String) : ExecutionRun :=
  ⟨core_id delivery_id, "p", "t", "dev", none, none, run_status, none, 0⟩

/-- The second revision has passed; the first has left these runs. -/
def revised (left : List ExecutionRun) (unique : ((left ++ [run_of "d2" "PASS"]).map (·.core_run_id)).Nodup) : DB :=
  { Sample.db with
    tasks := ⟨[second_revision], by decide⟩
    deliveries := ⟨[responded_at "d1" 1, responded_at "d2" 2], by decide⟩
    runs := ⟨left ++ [run_of "d2" "PASS"], unique⟩ }

/-- The run of the first revision has failed. -/
def left_behind : DB := revised [run_of "d1" "FAIL"] (by decide)

/-- The run of the first revision has passed too. -/
def left_passed : DB := revised [run_of "d1" "completed"] (by decide)

/-- Nothing is left behind. -/
def cleared : DB := revised [] (by decide)

def to_qa : Request := request "qa" "" "" 5 (body [("status", .str "qa")])

end Sample

open Sample in
/-- The failed run of the first revision keeps the second one out, though all runs of the second have passed. -/
theorem kept_out : Agree second_revision left_behind cleared ∧
    (∀ r ∈ current_runs left_behind second_revision, run_passed r = true) ∧
    ((transition_task "t").answer (config false) left_behind (outside 5 [""]) to_qa).isOk = false ∧
    ((transition_task "t").answer (config false) cleared (outside 5 [""]) to_qa).isOk = true := by
  refine ⟨⟨rfl, ?_, ?_⟩, ?_, ?_, ?_⟩
  all_goals decide +kernel

open Sample in
/-- What has passed makes no difference. -/
theorem same_answer_sample :
    (transition_task second_revision.id).answer (config false) cleared (outside 5 [""]) to_qa =
      (transition_task second_revision.id).answer (config false) left_passed (outside 5 [""]) to_qa := by
  have hagree : Agree second_revision left_passed cleared := ⟨rfl, by decide +kernel, by decide +kernel⟩
  refine (same_answer_iff hagree rfl rfl rfl).mpr fun _ _ _ => ?_
  exact ⟨fun _ => ⟨by decide +kernel, by decide +kernel⟩, fun _ => ⟨by decide +kernel, by decide +kernel⟩⟩

end WarRoom

end Plachem
