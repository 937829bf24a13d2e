import PlachemMonitor.WarRoom.Supersession

/-!
# Verdicts of other generations

A verdict is about a revision and a cycle of its task (`OfCycle`). The completion of a task looks for one
of the present revision and cycle; the board and `supersede_task` take the latest verdict of the task,
whatever it is about.

* `takes_up`: what takes a task up that was sent back or stopped, or gives it another revision or cycle.
* `KeptVerdicts`: what the statements of a step keep: a verdict that counts is about the present revision and
  cycle, or the task is away.
* `verdicts_of_generation`: where no task that has passed or failed is taken up again, the board shows
  verdicts of the present generation only, and no other is accepted.
* `earlier_pass_counts`: where one is, an earlier PASS is shown and accepted.
-/

namespace Plachem

namespace WarRoom

/-- The verdict that the board and `supersede_task` read. -/
def latest_verdict (db : DB) (task_id : String) : Option QaVerdict :=
  latest_row QaVerdict.created_at QaVerdict.id (db.verdicts.rows.filter fun v =>
    v.signed_payload.task_id == task_id)

/-- The latest verdict on the task is PASS or FAIL. -/
def judged (db : DB) (task_id : String) : Bool :=
  (latest_verdict db task_id).any fun v => v.signed_payload.verdict != .REWORK

/-- The task has been sent back or stopped. -/
def TaskStatus.away (s : TaskStatus) : Bool := s ∈ [.rework_required, .stopped, .stop_unconfirmed]

/-- The verdict is about the task as it is. -/
structure OfCycle (cfg : Config) (t : Task) (v : QaVerdict) : Prop where
  revision : v.signed_payload.task_revision = t.revision
  scope_hash : v.signed_payload.scope_hash = cfg.sha256 t.scope
  document_version : v.signed_payload.document_version = t.document_version
  qa_cycle : v.signed_payload.qa_cycle = t.qa_cycle

/-- The step can take the task up again, or give it another revision or cycle, without sending it back
or stopping it. -/
def takes_up (w : World) (l : Label) (t : Task) : Bool :=
  match l with
  | .request (.approve_task id) _ _ _ | .request (.approve_and_execute_task id) _ _ _
  | .request (.representative_completion id) _ _ _ => id == t.id && t.status.away
  | .request (.transition_task id) req _ _ =>
    id == t.id && (transition_target (req.text? "status")).any fun target => !target.away
  | .request (.assign_existing_task_reviewer id) _ _ _ | .request (.resume_task_qa id) _ _ _
  | .request (.recover_qa_rework id) _ _ _ | .request (.revalidate_task_result id) _ _ _ => id == t.id
  | l => t.status == .running && (w.row l).any fun row => row.task_id == some t.id

/-- A verdict that is asked for has read the task at the revision and cycle that it has. -/
def reads_generation (w : World) (l : Label) (t : Task) : Bool :=
  match l with
  | .request (.qa_verdict id) _ _ seen => id != t.id || t.status.away ||
    (w.read seen id).all fun q => q.revision == t.revision && q.qa_cycle == t.qa_cycle
  | _ => true

/-- No task that has passed or failed is taken up again. -/
def World.careful (w : World) (l : Label) : Bool :=
  w.db.tasks.rows.all fun t => !(judged w.db t.id && takes_up w l t) && reads_generation w l t

variable {cfg : Config} {w w' : World} {l : Label} {a b db : DB} {t t' : Task} {v : QaVerdict}

/-! ## Statements on tasks -/

/-- The label of a worker's step is not a request. -/
theorem World.row_request (endpoint : Endpoint) (req : Request) (env : Env) (seen : Read → Nat) :
    w.row (.request endpoint req env seen) = none := rfl

/-- A task is away, goes on as it was, or is taken up; what a worker takes up runs. -/
theorem TaskMove.taken (h : TaskMove cfg w l db t t') :
    t'.status.away = true ∨
      (t'.revision = t.revision ∧ t'.qa_cycle = t.qa_cycle ∧ (t.status.away = true → t'.status.away = true)) ∨
      (∀ q ∈ w.db.tasks, q.id = t.id → takes_up w l q = true) ∧
        ∀ row, w.row l = some row → t.status = .running := by
  have hself : t ∈ w.db.tasks → takes_up w l t = true →
      ∀ q ∈ w.db.tasks, q.id = t.id → takes_up w l q = true := by
    intro ht htaken q hq hid
    rwa [Table.eq_of_key hq ht hid]
  cases h with
  | linked => exact .inr (.inl ⟨rfl, rfl, id⟩)
  | finalized => exact .inr (.inl ⟨rfl, rfl, id⟩)
  | decided now ht =>
    by_cases haway : t.status.away = true
    · exact .inr (.inr ⟨hself ht (by simp [takes_up, haway]), fun row hrow => by cases hrow⟩)
    · exact .inr (.inl ⟨rfl, rfl, fun h => absurd h haway⟩)
  | executed now ht =>
    by_cases haway : t.status.away = true
    · exact .inr (.inr ⟨hself ht (by simp [takes_up, haway]), fun row hrow => by cases hrow⟩)
    · exact .inr (.inl ⟨rfl, rfl, fun h => absurd h haway⟩)
  | completed now ht =>
    by_cases haway : t.status.away = true
    · exact .inr (.inr ⟨hself ht (by simp [takes_up, haway]), fun row hrow => by cases hrow⟩)
    · exact .inr (.inl ⟨rfl, rfl, fun h => absurd h haway⟩)
  | @transitioned req env seen db t q target deadline now ht hread htarget =>
    rw [Task.transitioned_status]
    cases haway : target.away with
    | true => exact .inl rfl
    | false =>
      exact .inr (.inr ⟨hself ht (by simp [takes_up, htarget, haway]), fun row hrow => by cases hrow⟩)
  | reviewed => exact .inr (.inr ⟨fun q _ hid => beq_iff_eq.mpr hid.symm, fun row hrow => by cases hrow⟩)
  | resumed => exact .inr (.inr ⟨fun q _ hid => beq_iff_eq.mpr hid.symm, fun row hrow => by cases hrow⟩)
  | recovered => exact .inr (.inr ⟨fun q _ hid => beq_iff_eq.mpr hid.symm, fun row hrow => by cases hrow⟩)
  | revalidated => exact .inr (.inr ⟨fun q _ hid => beq_iff_eq.mpr hid.symm, fun row hrow => by cases hrow⟩)
  | entered_qa now hrow hwritten ht htask hrevision hstatus =>
    refine .inr (.inr ⟨hself ht ?_, fun _ _ => hstatus⟩)
    unfold takes_up
    split <;> first | (rw [World.row_request] at hrow; cases hrow) | simp [hrow, htask, hstatus]
  | project_stopped status now hproject hbefore hstatus =>
    refine .inl ?_
    rcases List.mem_pair.mp hstatus with rfl | rfl <;> rfl
  | task_stopped status now ht hread hne hchange hstatus =>
    refine .inl ?_
    rcases List.mem_pair.mp hstatus with rfl | rfl <;> rfl
  | _ => exact .inl rfl

/-- No worker's step makes a task run. -/
theorem TaskMove.not_running {row : DeliveryRow} (h : TaskMove cfg w l db t t')
    (hrow : w.row l = some row) : t'.status ≠ .running := by
  cases h with
  | conflicted | entered_qa | unreviewable | auto_judged | failed => exact TaskStatus.noConfusion
  | _ => cases hrow

/-- A request for a verdict only sends tasks back. -/
theorem TaskMove.of_verdict {id : String} {req : Request} {env : Env} {seen : Read → Nat}
    (h : TaskMove cfg w (.request (.qa_verdict id) req env seen) db t t') : t'.status.away = true := by
  cases h with
  | judged => rfl
  | unreviewable => rfl
  | conflicted now hrow => cases hrow
  | entered_qa now hrow => cases hrow
  | auto_judged now hrow => cases hrow
  | failed now hrow => cases hrow

/-! ## The latest verdict -/

/-- A new verdict is the latest of its task, or the one before still is. -/
theorem latest_verdict_insert {T : Table QaVerdict QaVerdict.id} (h : a.verdicts.insert v = some T)
    (task_id : String) :
    latest_verdict { a with verdicts := T } task_id = latest_verdict a task_id ∨
      v.signed_payload.task_id = task_id ∧ latest_verdict { a with verdicts := T } task_id = some v := by
  have hrows : T.rows = a.verdicts.rows ++ [v] := (Table.insert_eq_some h).1
  unfold latest_verdict
  dsimp only
  rw [hrows, List.filter_append]
  by_cases htask : v.signed_payload.task_id = task_id
  · rw [List.filter_singleton, beq_iff_eq.mpr htask]
    exact (Board.latest_row_append _ _ _ v).imp id fun hnew => ⟨htask, hnew⟩
  · rw [List.filter_singleton, beq_false_of_ne htask, cond_false, List.append_nil]
    exact .inl rfl

theorem latest_verdict_mem {task_id : String} (h : latest_verdict db task_id = some v) :
    v ∈ db.verdicts ∧ v.signed_payload.task_id = task_id := by
  obtain ⟨hmem, htask⟩ := List.mem_filter.mp (Board.latest_row_mem h)
  exact ⟨hmem, eq_of_beq htask⟩

theorem judged_of_latest {task_id : String} (h : latest_verdict db task_id = some v)
    (hv : v.signed_payload.verdict ≠ .REWORK) : judged db task_id = true := by
  rw [judged, h]
  exact bne_iff_ne.mpr hv

/-! ## What the statements keep -/

/-- Each verdict is about a task, at its scope and its document. -/
def About (cfg : Config) (db : DB) : Prop :=
  ∀ v ∈ db.verdicts, ∃ t ∈ db.tasks, t.id = v.signed_payload.task_id ∧
    v.signed_payload.scope_hash = cfg.sha256 t.scope ∧ v.signed_payload.document_version = t.document_version

/-- A PASS or FAIL that is the latest verdict on a task is about its revision and its cycle, or the task
is away. -/
def Counts (db : DB) : Prop :=
  ∀ t ∈ db.tasks, ∀ v, latest_verdict db t.id = some v → v.signed_payload.verdict ≠ .REWORK →
    t.status.away = true ∨ v.signed_payload.task_revision = t.revision ∧ v.signed_payload.qa_cycle = t.qa_cycle

/-- What the statements of a step keep. -/
structure KeptVerdicts (cfg : Config) (w : World) (l : Label) (a : DB) : Prop where
  grows : w.db.Grows a
  about : About cfg a
  counts : Counts a
  /-- Only a request for a verdict and a worker whose task does not run change the latest verdict. -/
  latest : ∀ t ∈ a.tasks, latest_verdict a t.id = latest_verdict w.db t.id ∨
    (∃ req env seen, l = .request (.qa_verdict t.id) req env seen) ∨
    ∃ row, w.row l = some row ∧ row.task_id = some t.id ∧ t.status ≠ .running
  /-- A request for a verdict only sends its task back. -/
  verdict : ∀ id req env seen, l = .request (.qa_verdict id) req env seen → ∀ t ∈ a.tasks, ∀ q ∈ w.db.tasks,
    t.id = q.id → t = q ∨ t.status.away = true

theorem About.grows (h : About cfg a) (hgrows : a.Grows b) (hverdicts : ∀ v ∈ b.verdicts, v ∈ a.verdicts) :
    About cfg b := by
  intro v hv
  obtain ⟨t, ht, hid, hscope, hdocument⟩ := h v (hverdicts v hv)
  obtain ⟨t', ht', hgrows⟩ := hgrows.tasks t ht
  exact ⟨t', ht', hgrows.id.trans hid, by rw [hscope, hgrows.scope], by rw [hdocument, hgrows.document_version]⟩

/-- The verdict on a task that has passed or failed is about the task. -/
theorem bound_of_counts (hcounts : Counts db) (habout : About cfg db) (ht : t ∈ db.tasks)
    (haway : t.status.away = false) (hv : latest_verdict db t.id = some v)
    (hverdict : v.signed_payload.verdict ≠ .REWORK) : OfCycle cfg t v := by
  obtain ⟨hmem, htask⟩ := latest_verdict_mem hv
  obtain ⟨q, hq, hid, hscope, hdocument⟩ := habout v hmem
  obtain rfl : q = t := Table.eq_of_key hq ht (hid.trans htask)
  rcases hcounts q ht v hv hverdict with h | ⟨hrevision, hcycle⟩
  · rw [haway] at h
    cases h
  · exact ⟨hrevision, hscope, hdocument, hcycle⟩

/-- A task with a verdict is taken up by no careful step. -/
theorem KeptVerdicts.not_taken (hk : KeptVerdicts cfg w l a) (hw : About cfg w.db) (hcareful : w.careful l = true)
    (hmove : TaskMove cfg w l a t t') (ht : t ∈ a.tasks) (hv : latest_verdict a t.id = some v)
    (hverdict : v.signed_payload.verdict ≠ .REWORK) (haway : t'.status.away = false) :
    t'.revision = t.revision ∧ t'.qa_cycle = t.qa_cycle ∧ t.status.away = false := by
  rcases hmove.taken with h | ⟨hrevision, hcycle, hsame⟩ | htaken
  · rw [haway] at h
    cases h
  · refine ⟨hrevision, hcycle, ?_⟩
    cases h : t.status.away with
    | false => rfl
    | true => rw [hsame h] at haway; cases haway
  · exfalso
    rcases hk.latest t ht with hlatest | ⟨req, env, seen, rfl⟩ | ⟨row, hrow, -, hs⟩
    · have hv' : latest_verdict w.db t.id = some v := hlatest.symm.trans hv
      obtain ⟨hmem, hid⟩ := latest_verdict_mem hv'
      obtain ⟨q, hq, hqid, -⟩ := hw v hmem
      have hqt : q.id = t.id := hqid.trans hid
      have hq' := List.all_eq_true.mp hcareful q hq
      rw [hqt, judged_of_latest hv' hverdict, htaken.1 q hq hqt] at hq'
      cases hq'
    · rw [hmove.of_verdict] at haway
      cases haway
    · exact hs (htaken.2 row hrow)

/-- What a new verdict is about, and who gives it. -/
theorem NewVerdict.about (hk : KeptVerdicts cfg w l a) (hw : Ordered DB.Grows w) (hcareful : w.careful l = true)
    (h : NewVerdict cfg w l a v) :
    ∃ t ∈ a.tasks, t.id = v.signed_payload.task_id ∧ v.signed_payload.scope_hash = cfg.sha256 t.scope ∧
      v.signed_payload.document_version = t.document_version ∧
      (t.status.away = true ∨
        v.signed_payload.task_revision = t.revision ∧ v.signed_payload.qa_cycle = t.qa_cycle) ∧
      ((∃ req env seen, l = .request (.qa_verdict t.id) req env seen) ∨
        ∃ row, w.row l = some row ∧ row.task_id = some t.id ∧ t.status ≠ .running) := by
  cases h with
  | @judged req env seen db q verdict id signature profile principal hread hstatus =>
    obtain ⟨hq, -⟩ := Table.find_some hread
    obtain ⟨p, hp, hqp⟩ := (hw.view seen .task).tasks q hq
    obtain ⟨t, ht, hpt⟩ := hk.grows.tasks p hp
    have hid : t.id = p.id := hpt.id
    have hgrows : q.Grows t := hqp.trans hpt
    have hp' := List.all_eq_true.mp hcareful p hp
    simp only [reads_generation, hqp.id, bne_self_eq_false, Bool.false_or, Bool.and_eq_true,
      Bool.or_eq_true, hread, Option.all_some, beq_iff_eq] at hp'
    refine ⟨t, ht, hgrows.id, by rw [hgrows.scope]; rfl, by rw [hgrows.document_version]; rfl, ?_,
      .inl ⟨req, env, seen, by rw [hgrows.id]⟩⟩
    rcases hk.verdict _ req env seen rfl t ht p hp hid with rfl | haway
    · exact hp'.2
    · exact .inl haway
  | @auto_judged l db t row verdict env id signature profile hrow htask ht hstatus =>
    refine ⟨t, ht, rfl, rfl, rfl, .inr ⟨rfl, rfl⟩, .inr ⟨row, hrow, htask, ?_⟩⟩
    rw [hstatus]
    exact TaskStatus.noConfusion

/-- No verdict is about a task that is not there. -/
theorem About.latest_none (h : About cfg db) {task_id : String} (hnone : ∀ t ∈ db.tasks, t.id ≠ task_id) :
    latest_verdict db task_id = none := by
  cases hv : latest_verdict db task_id with
  | none => rfl
  | some v =>
    obtain ⟨hmem, hid⟩ := latest_verdict_mem hv
    obtain ⟨t, ht, htid, -⟩ := h v hmem
    exact absurd (htid.trans hid) (hnone t ht)

/-- Other tables may change. -/
theorem KeptVerdicts.of_same (hk : KeptVerdicts cfg w l a) (htasks : b.tasks = a.tasks)
    (hverdicts : b.verdicts = a.verdicts) (hgrows : w.db.Grows b) : KeptVerdicts cfg w l b := by
  have hlatest : ∀ task_id, latest_verdict b task_id = latest_verdict a task_id := by
    intro task_id
    rw [latest_verdict, hverdicts]
    rfl
  refine ⟨hgrows, ?_, ?_, ?_, ?_⟩
  · intro v hv
    rw [htasks]
    exact hk.about v (hverdicts ▸ hv)
  · intro t ht v hv
    exact hk.counts t (htasks ▸ ht) v ((hlatest t.id).symm.trans hv)
  · intro t ht
    rw [hlatest]
    exact hk.latest t (htasks ▸ ht)
  · intro id req env seen hl t ht
    exact hk.verdict id req env seen hl t (htasks ▸ ht)

theorem kept_verdicts_write (hw : Ordered DB.Grows w) (habout : About cfg w.db) (hcareful : w.careful l = true)
    (h : Write cfg w l a b) (hk : KeptVerdicts cfg w l a) : KeptVerdicts cfg w l b := by
  have hgrows : w.db.Grows b := write_grows h hk.grows
  cases h with
  | @insert_task l a T t hT =>
    have hnew : ∀ q ∈ a.tasks, q.id ≠ t.id := fun q hq hid =>
      (Table.insert_eq_some hT).2 (List.mem_map.mpr ⟨q, hq, hid⟩)
    have hnew' : ∀ q ∈ w.db.tasks, q.id ≠ t.id := by
      intro q hq hid
      obtain ⟨q', hq', hqq'⟩ := hk.grows.tasks q hq
      exact hnew q' hq' (hqq'.id.trans hid)
    refine ⟨hgrows, ?_, ?_, ?_, ?_⟩
    · intro v hv
      obtain ⟨q, hq, h⟩ := hk.about v hv
      exact ⟨q, (Table.mem_insert hT).mpr (.inl hq), h⟩
    · intro q hq v hv
      rcases (Table.mem_insert hT).mp hq with hq | rfl
      · exact hk.counts q hq v hv
      · cases (hk.about.latest_none hnew).symm.trans hv
    · intro q hq
      rcases (Table.mem_insert hT).mp hq with hq | rfl
      · exact hk.latest q hq
      · exact .inl ((hk.about.latest_none hnew).trans (habout.latest_none hnew').symm)
    · intro id req env seen hl q hq p hp hid
      rcases (Table.mem_insert hT).mp hq with hq | rfl
      · exact hk.verdict id req env seen hl q hq p hp hid
      · exact absurd hid.symm (hnew' p hp)
  | @tasks l a T hT =>
    refine ⟨hgrows, ?_, ?_, ?_, ?_⟩
    · intro v hv
      obtain ⟨q, hq, hid, hscope, hdocument⟩ := hk.about v hv
      obtain ⟨q', hq', hid', hmove⟩ := hT.forth hq
      have hqq' : q.Grows q' := hmove.elim (fun h => h ▸ .refl q) TaskMove.grows
      exact ⟨q', hq', hid'.trans hid, by rw [hscope, hqq'.scope], by rw [hdocument, hqq'.document_version]⟩
    · intro t' ht' v hv hverdict
      obtain ⟨t, ht, hid, hmove⟩ := hT.back ht'
      replace hv : latest_verdict a t.id = some v := hid ▸ hv
      rcases hmove with rfl | hmove
      · exact hk.counts t' ht v hv hverdict
      · cases haway : t'.status.away with
        | true => exact .inl rfl
        | false =>
          obtain ⟨hrevision, hcycle, hnot⟩ := hk.not_taken habout hcareful hmove ht hv hverdict haway
          rcases hk.counts t ht v hv hverdict with h | h
          · rw [hnot] at h
            cases h
          · rw [hrevision, hcycle]
            exact .inr h
    · intro t' ht'
      obtain ⟨t, ht, hid, hmove⟩ := hT.back ht'
      rw [hid]
      rcases hk.latest t ht with h | h | ⟨row, hrow, htask, hs⟩
      · exact .inl h
      · exact .inr (.inl h)
      · refine .inr (.inr ⟨row, hrow, htask, ?_⟩)
        rcases hmove with rfl | hmove
        · exact hs
        · exact hmove.not_running hrow
    · rintro id req env seen rfl t' ht' q hq hqid
      obtain ⟨t, ht, hid, hmove⟩ := hT.back ht'
      rcases hmove with rfl | hmove
      · exact hk.verdict id req env seen rfl t' ht q hq hqid
      · exact .inr hmove.of_verdict
  | @insert_verdict l a T v hT hnew =>
    obtain ⟨t, ht, hid, hscope, hdocument, hcounts, hlabel⟩ := hnew.about hk hw hcareful
    refine ⟨hgrows, ?_, ?_, ?_, hk.verdict⟩
    · intro q hq
      rcases (Table.mem_insert hT).mp hq with hq | rfl
      · exact hk.about q hq
      · exact ⟨t, ht, hid, hscope, hdocument⟩
    · intro q hq u hu hverdict
      rcases latest_verdict_insert hT q.id with hsame | ⟨hqid, hlatest⟩
      · exact hk.counts q hq u (hsame.symm.trans hu) hverdict
      · obtain rfl : t = q := Table.eq_of_key ht hq (hid.trans hqid)
        obtain rfl : v = u := Option.some.inj (hlatest.symm.trans hu)
        exact hcounts
    · intro q hq
      rcases latest_verdict_insert hT q.id with hsame | ⟨hqid, -⟩
      · rw [hsame]
        exact hk.latest q hq
      · obtain rfl : t = q := Table.eq_of_key ht hq (hid.trans hqid)
        exact .inr hlabel
  | _ => exact hk.of_same rfl rfl hgrows

/-! ## Runs -/

/-- What holds of the War Room in a careful run. -/
structure Timed (cfg : Config) (w : World) : Prop where
  grown : Ordered DB.Grows w
  about : About cfg w.db
  counts : Counts w.db

theorem timed_step (hw : Timed cfg w) (hcareful : w.careful l = true) (h : step cfg w l = some w') :
    Timed cfg w' := by
  have hstart : KeptVerdicts cfg w l w.db :=
    { grows := .refl _
      about := hw.about
      counts := hw.counts
      latest t _ := .inl rfl
      verdict id req env seen _ t ht q hq hid := .inl (Table.eq_of_key ht hq hid) }
  have hk : KeptVerdicts cfg w l w'.db :=
    (step_writes h).keeps (fun _ _ hab => kept_verdicts_write hw.grown hw.about hcareful hab) hstart
  exact ⟨(inductive_grows fun _ _ => True).step _ l _ hw.grown trivial h, hk.about, hk.counts⟩

namespace Board

/-- What the War Room does at a step of the board. -/
def Label.inner : Label → WarRoom.Label
  | .act l => l
  | .supersede task_id req env seen _ => .request (.supersede_task task_id) req env seen

/-- No task that has passed or failed is taken up again, and a supersession reads its replacement and the
verdict on it as they are. -/
def careful (b : Board) (l : Label) : Bool :=
  b.world.careful l.inner &&
    match l with
    | .act _ => true
    | .supersede _ req _ seen _ => (replacement_of req).all fun id =>
      (b.world.view seen .task).tasks.find id == b.world.db.tasks.find id &&
        latest_qa_verdict (b.world.view seen .evidence) id == latest_qa_verdict b.world.db id

variable {b b' : Board} {l : Label}

theorem step_inner (h : step cfg b l = some b') : WarRoom.step cfg b.world l.inner = some b'.world := by
  cases l with
  | act a =>
    simp only [step, Option.bind_eq_bind, Option.bind_eq_some_iff] at h
    obtain ⟨-, -, w, hw, h⟩ := h
    cases h
    exact hw
  | supersede task_id req env seen existing =>
    simp only [step, Option.bind_eq_bind, Option.bind_eq_some_iff] at h
    obtain ⟨w, hw, h⟩ := h
    split at h
    · simp only [Option.bind_eq_some_iff] at h
      obtain ⟨id, -, -, -, -, -, h⟩ := h
      cases h
      exact hw
    · cases h
      exact hw

theorem inductive_timed :
    (board cfg).InductiveIf (fun b l => b.careful l = true) fun b => Timed cfg b.world where
  init b hb := by
    have hnone : ∀ v, v ∉ b.world.db.verdicts := by
      intro v hv
      rw [Table.mem_def, hb.1.1.verdicts] at hv
      exact List.not_mem_nil hv
    exact
      { grown := (inductive_grows fun _ _ => True).init _ hb.1
        about := fun v hv => absurd hv (hnone v)
        counts := fun t _ v hv => absurd (latest_verdict_mem hv).1 (hnone v) }
  step b l b' hb hcareful hs :=
    timed_step hb (Bool.and_eq_true_iff.mp hcareful).1 (step_inner hs)

/-- How the board shows a verdict. -/
def shown : Verdict → BoardState
  | .PASS => .PASS
  | .FAIL => .FAIL
  | .REWORK => .REWORK

theorem shows_verdict {status : TaskStatus} {delivery_system_error superseded : Bool}
    {latest : Option Verdict} {verdict : Verdict} (hverdict : verdict ≠ .REWORK)
    (h : process_board_state status delivery_system_error latest superseded = shown verdict) :
    latest = some verdict ∧ status.away = false := by
  unfold process_board_state at h
  split at h
  · cases verdict <;> cases h
  · split at h
    · cases verdict <;> cases h
    · cases status <;> cases latest with
      | none => cases verdict <;> first | exact absurd rfl hverdict | cases h
      | some v => cases v <;> cases verdict <;> first | exact absurd rfl hverdict | exact ⟨rfl, rfl⟩ | cases h

/-- What a supersession that is recorded has found. -/
theorem step_superseded {r : Superseded} (h : step cfg b l = some b')
    (hr : b'.superseded = b.superseded ++ [r]) :
    ∃ task_id req env seen existing, l = .supersede task_id req env seen existing ∧
      replacement_of req = some r.replacement_task_id ∧
      latest_qa_verdict (b.world.view seen .evidence) r.replacement_task_id = some .PASS ∧
      ∃ t, (b.world.view seen .task).tasks.find r.replacement_task_id = some t ∧
        t.status ∈ [.qa, .completed] := by
  have hlonger : b.superseded ≠ b.superseded ++ [r] := fun h => by simpa using congrArg List.length h
  cases l with
  | act a =>
    simp only [step, Option.bind_eq_bind, Option.bind_eq_some_iff] at h
    obtain ⟨-, -, w, -, h⟩ := h
    cases h
    exact absurd hr hlonger
  | supersede task_id req env seen existing =>
    simp only [step, Option.bind_eq_bind, Option.bind_eq_some_iff] at h
    obtain ⟨w, -, h⟩ := h
    split at h
    · rename_i hhandle
      simp only [Option.bind_eq_some_iff] at h
      obtain ⟨id, hid, _, hpass, -, -, h⟩ := h
      cases h
      obtain rfl := (List.singleton_inj.mp (List.append_cancel_left hr)).symm
      refine ⟨task_id, req, env, seen, existing, rfl, hid, ((Option.guard_eq_some' _).mp hpass), ?_⟩
      obtain ⟨lookup, ⟨source, replacement⟩, db₁, hb, -, ha, -⟩ := handle_eq_ok hhandle
      simp only [supersede_task, bind_eq_ok, found_eq_ok, pure_eq_ok, Prod.mk.injEq] at hb
      obtain ⟨text, htext, -, -, source', hsource, -, -, -, -, -, -, -, rfl, rfl⟩ := hb
      simp only [supersede_task, bind_eq_ok, found_eq_ok, ensure_eq_ok, exists_unit] at ha
      obtain ⟨-, -, -, t, ht, hstatus, -⟩ := ha
      have hreplacement : Text.strip text = id := by
        simpa [replacement_of, htext] using hid
      exact ⟨t, hreplacement ▸ (Option.filter_eq_some_iff.mp ht).1, hstatus⟩
    · cases h
      exact absurd hr hlonger

/-- In every run in which no task that has passed or failed is taken up again, the board shows a task as
passed or failed only by a verdict about the task as it is, and a replacement that is accepted has passed
as it is. -/
theorem verdicts_of_generation (h : (board cfg).ReachableIf (fun b l => b.careful l = true) b) :
    (∀ t ∈ b.world.db.tasks, ∀ verdict ∈ [Verdict.PASS, .FAIL], b.mapped_state t = shown verdict →
      ∃ v, latest_verdict b.world.db t.id = some v ∧ v.signed_payload.verdict = verdict ∧ OfCycle cfg t v) ∧
    ∀ l b' r, b.careful l = true → (board cfg).step b l = some b' → b'.superseded = b.superseded ++ [r] →
      ∃ t ∈ b.world.db.tasks, t.id = r.replacement_task_id ∧
        ∃ v, latest_verdict b.world.db t.id = some v ∧ v.signed_payload.verdict = .PASS ∧ OfCycle cfg t v := by
  have hb : Timed cfg b.world := inductive_timed.reachable h
  have hbound : ∀ t ∈ b.world.db.tasks, t.status.away = false → ∀ verdict, verdict ≠ .REWORK →
      latest_qa_verdict b.world.db t.id = some verdict →
      ∃ v, latest_verdict b.world.db t.id = some v ∧ v.signed_payload.verdict = verdict ∧ OfCycle cfg t v := by
    intro t ht haway verdict hverdict hlatest
    obtain ⟨v, hv, rfl⟩ := Option.map_eq_some_iff.mp hlatest
    exact ⟨v, hv, rfl, bound_of_counts hb.counts hb.about ht haway hv hverdict⟩
  refine ⟨fun t ht verdict hmem hstate => ?_, fun l b' r hcareful hs hr => ?_⟩
  · have hverdict : verdict ≠ .REWORK := by
      rcases List.mem_pair.mp hmem with rfl | rfl <;> exact Verdict.noConfusion
    obtain ⟨hlatest, haway⟩ := shows_verdict hverdict hstate
    exact hbound t ht haway verdict hverdict hlatest
  · obtain ⟨task_id, req, env, seen, existing, rfl, hid, hpass, t, ht, hstatus⟩ := step_superseded hs hr
    have hreads := (Bool.and_eq_true_iff.mp hcareful).2
    simp only [hid, Option.all_some, Bool.and_eq_true, beq_iff_eq] at hreads
    rw [hreads.1] at ht
    rw [hreads.2] at hpass
    obtain ⟨hmem, htid⟩ := Table.find_some ht
    have haway : t.status.away = false := by
      rcases List.mem_pair.mp hstatus with h | h <;> rw [h] <;> rfl
    exact ⟨t, hmem, htid, hbound t hmem haway .PASS Verdict.noConfusion (htid ▸ hpass)⟩

end Board

namespace Sample

/-- The review of `t` passes; `t2` is stopped. -/
def passed : List Board.Label :=
  [.act prepare, .act execute, .act (claim "d" "c" 2), .act (hand "c" 3 (answer "")),
    .act (ended "c" 4 (answer "PASS")), .act (claim "" "q" 5), .act (hand "q" 6 (answer "PASS")),
    .act prepare2, .act (execute2 "a2" "d2" 8), .act stop2]

/-- `t` is sent back and executed again, and waits for its next review. -/
def repeated : List Board.Label :=
  [.act (transition "rework_required" 10), .act (transition "awaiting_approval" 11),
    .act (.request (.approve_and_execute_task "t") (request "again" "task_approve_execute" "t" 12 approval)
      (outside 12 ["a3", "", "d3"]) latest),
    .act (claim "d3" "c3" 13), .act (hand "c3" 14 (answer "")),
    .act (.record "c3" (outside 15 ["r3", "", "q3"]) (answer "PASS"))]

/-- How the board shows a task, of which revision and cycle it is, and of which its latest verdict is. -/
def standing (b : Board) (task_id : String) : Option (BoardState × (Nat × Nat) × (Nat × Nat)) := do
  let t ← b.world.db.tasks.find task_id
  let v ← latest_verdict b.world.db task_id
  pure (b.mapped_state t, (t.revision, t.qa_cycle), v.signed_payload.task_revision, v.signed_payload.qa_cycle)

end Sample

open Sample in
/-- A task that is sent back and executed again is shown as passed, and accepted as a replacement, by its
verdict of the first revision. -/
theorem earlier_pass_counts :
    (board (config false)).Reachable ((board (config false)).after board_start (passed ++ repeated)) ∧
    (fun b => (standing b "t", ((board (config false)).step b (supersede "t2" "t" 16)).map fun b =>
        b.superseded.map Superseded.replacement_task_id))
      ((board (config false)).after board_start (passed ++ repeated)) =
      (some (.PASS, (2, 2), (1, 1)), some ["t"]) := by
  refine ⟨Machine.reachable_after init_board _, ?_⟩
  decide +kernel

open Sample in
/-- The sample of a review that passes. -/
theorem verdicts_of_generation_sample :
    ∃ t ∈ ((board (config false)).after board_start passed).world.db.tasks, t.id = "t" ∧
      ∃ v, latest_verdict ((board (config false)).after board_start passed).world.db t.id = some v ∧
        v.signed_payload.verdict = .PASS ∧ OfCycle (config false) t v := by
  have hreachable : (board (config false)).ReachableIf (fun b l => b.careful l = true)
      ((board (config false)).after board_start passed) :=
    Machine.reachableIf_after init_board (by decide +kernel)
  have hstate : (fun b : Board => (b.world.db.tasks.find "t").map b.mapped_state)
      ((board (config false)).after board_start passed) = some .PASS := by
    decide +kernel
  obtain ⟨t, ht, hpass⟩ := Option.map_eq_some_iff.mp hstate
  obtain ⟨hmem, hid⟩ := Table.find_some ht
  exact ⟨t, hmem, hid, (Board.verdicts_of_generation hreachable).1 t hmem .PASS (by decide) hpass⟩

end WarRoom

end Plachem
