import PlachemMonitor.WarRoom.History

/-!
# Terminal tasks

A task that is completed stays as it is, and one that is stopped stays stopped until it is reopened:
by a transition to `awaiting_approval`, or with a reviewer (`terminal_stable`). The run may not
contain the three kinds of steps that `Careful` excludes:

* a request that decides on the row of the task from before it was terminal,
* an instruction for a completed task,
* the last response of the executors, in conflict with another one, after the task was stopped:
  `_apply_collaboration_outcome` does not ask for the status (`late_response_reopens`).
-/

namespace Plachem

namespace WarRoom

/-- The task is in one of the statuses. -/
def DB.has_status (db : DB) (task_id : String) (ss : List TaskStatus) : Prop :=
  ∃ t ∈ db.tasks, t.id = task_id ∧ t.status ∈ ss

/-- The task that a request has read before its transaction. -/
def Endpoint.task : Endpoint → Option String
  | .approve_task task_id => some task_id
  | .transition_task task_id => some task_id
  | .approve_and_execute_task task_id => some task_id
  | .qa_verdict task_id => some task_id
  | .representative_completion task_id => some task_id
  | .stop_task task_id => some task_id
  | _ => none

/-- What a request can make of a task that it has read in the status `s`. -/
def Endpoint.targets (req : Request) (s : TaskStatus) : Endpoint → List TaskStatus
  | .approve_task _ => if s = .awaiting_approval then [.approved, .draft] else []
  | .transition_task _ =>
    (transition_target (req.text? "status")).toList.filter fun target => target ∈ TRANSITIONS s
  | .approve_and_execute_task _ => if s = .awaiting_approval then [.running] else []
  | .qa_verdict _ =>
    if s = .qa ∧ verdict_of (req.text? "verdict") ≠ some .PASS then [.rework_required] else []
  | .representative_completion _ => if s = .qa then [.completed, .rework_required] else []
  | .stop_task _ => if s = .completed then [] else [.stopped, .stop_unconfirmed]
  | _ => []

/-- A task in the status `s` may get the status `target`. -/
def TaskStatus.permits (s target : TaskStatus) : Prop :=
  s ≠ .completed ∧
    (s ∈ [.stopped, .stop_unconfirmed] → target ∈ [.stopped, .stop_unconfirmed, .awaiting_approval])

/-- The step is a request to reopen the task. -/
def Label.reopens (task_id : String) : Label → Prop
  | .request (.transition_task id) req _ _ =>
    id = task_id ∧ transition_target (req.text? "status") = some .awaiting_approval
  | .request (.assign_existing_task_reviewer id) _ _ _ => id = task_id
  | _ => False

/-- What a step must not do to a terminal task. -/
structure Careful (cfg : Config) (w : World) (l : Label) : Prop where
  /-- Where a request has read a row from before, it goes no way that the task does not permit. -/
  stale : ∀ endpoint req env seen, l = .request endpoint req env seen → ∀ t ∈ w.db.tasks,
    endpoint.task = some t.id → ∀ q, w.read seen t.id = some q → q.status ≠ t.status →
    ∀ target ∈ endpoint.targets req q.status, t.status.permits target
  instruction : ∀ project_id req env seen,
    l = .request (.create_instruction_with_task project_id) req env seen → ∀ t ∈ w.db.tasks,
    t.status = .completed → req.text? "task_id" ≠ some t.id
  /-- The response that completes those of the revision agrees with them. -/
  response : ∀ row written, w.row l = some row → w.written cfg l = some written → ∀ t ∈ w.db.tasks,
    t.status ∈ [.completed, .stopped, .stop_unconfirmed] → row.task_id = some t.id →
    t.revision = row.delivery.task_revision →
    worker_pending written t.id row.delivery.message_id row.delivery.task_revision = false →
    collaboration_conflict cfg written row.delivery.message_id row.delivery.task_revision = false

variable {cfg : Config} {w w' : World} {l : Label} {db db' : DB} {t t' t₀ : Task}

/-! ## Requests -/

/-- No endpoint goes such a way from the row as it is. -/
theorem targets_permits {endpoint : Endpoint} {req : Request} {s target : TaskStatus}
    (h : target ∈ endpoint.targets req s) : s.permits target := by
  have htransition : target ∈ TRANSITIONS s → s.permits target := by
    cases s <;> simp +contextual [TRANSITIONS, TaskStatus.permits]
  cases endpoint with
  | transition_task task_id =>
    simp only [Endpoint.targets, List.mem_filter, decide_eq_true_eq] at h
    exact htransition h.2
  | stop_task task_id =>
    simp only [Endpoint.targets] at h
    split at h
    · cases h
    · rename_i hs
      refine ⟨hs, fun _ => ?_⟩
      simp only [List.mem_cons, List.not_mem_nil, or_false] at h ⊢
      exact h.imp_right .inl
  | approve_task task_id =>
    simp only [Endpoint.targets] at h
    split at h
    · rename_i hs
      exact hs ▸ ⟨by simp, by simp⟩
    · cases h
  | approve_and_execute_task task_id =>
    simp only [Endpoint.targets] at h
    split at h
    · rename_i hs
      exact hs ▸ ⟨by simp, by simp⟩
    · cases h
  | qa_verdict task_id =>
    simp only [Endpoint.targets] at h
    split at h
    · rename_i hs
      exact hs.1 ▸ ⟨by simp, by simp⟩
    · cases h
  | representative_completion task_id =>
    simp only [Endpoint.targets] at h
    split at h
    · rename_i hs
      exact hs ▸ ⟨by simp, by simp⟩
    · cases h
  | _ => cases h

theorem Careful.request {endpoint : Endpoint} {req : Request} {env : Env} {seen : Read → Nat}
    {target : TaskStatus} {q : Task} (hc : Careful cfg w (.request endpoint req env seen))
    (ht : t ∈ w.db.tasks) (htask : endpoint.task = some t.id) (hread : w.read seen t.id = some q)
    (htarget : target ∈ endpoint.targets req q.status) : t.status.permits target := by
  by_cases hstatus : q.status = t.status
  · exact hstatus ▸ targets_permits htarget
  · exact hc.stale endpoint req env seen rfl t ht htask q hread hstatus target htarget

/-- A request that reads the row as it is, and brings no instruction. -/
theorem Careful.of_present {endpoint : Endpoint} {req : Request} {env : Env} {seen : Read → Nat}
    (hseen : seen .task = 0)
    (hendpoint : ∀ project_id, endpoint ≠ .create_instruction_with_task project_id) :
    Careful cfg w (.request endpoint req env seen) where
  stale := by
    rintro _ _ _ _ ⟨⟩ t ht - q hread hne
    rw [World.read, World.view, hseen, World.ago_zero] at hread
    obtain ⟨hq, hid⟩ := Table.find_some hread
    exact absurd (congrArg Task.status (Table.eq_of_key hq ht hid)) hne
  instruction := by
    rintro project_id _ _ _ ⟨⟩
    exact absurd rfl (hendpoint project_id)
  response := by
    intro row written hrow
    cases hrow

/-! ## Statements -/

/-- A statement that changes a terminal task finalizes it, links it, or goes a way that it permits. -/
theorem TaskMove.terminal (hc : Careful cfg w l) (h : TaskMove cfg w l db t t')
    (h₀ : t₀ ∈ w.db.tasks) (hid : t.id = t₀.id)
    (hterminal : t.status ∈ [.completed, .stopped, .stop_unconfirmed])
    (hcompleted : t₀.status = .completed → t.status = .completed) :
    ((∃ status now, l = .finalize t.id status now) ∧ t'.status = t.status) ∨
      (t₀.status ≠ .completed ∧ t'.status = t.status) ∨
      (t₀.status.permits t'.status ∧ (t'.status = .awaiting_approval → l.reopens t.id)) := by
  cases h with
  | linked message_id now htext =>
    refine .inr (.inl ⟨fun hs => ?_, rfl⟩)
    exact hc.instruction _ _ _ _ rfl t₀ h₀ hs (hid ▸ htext)
  | decided now ht hread hstatus =>
    rename_i decision
    refine .inr (.inr ⟨?_, fun h => by cases decision <;> cases h⟩)
    refine hc.request h₀ (congrArg some hid) (hid ▸ hread) ?_
    rw [Endpoint.targets, if_pos hstatus]
    cases decision <;> simp
  | reviewed reviewer now _ hstatus =>
    exact .inr (.inr ⟨⟨fun hs => hstatus (hcompleted hs), fun _ => by simp⟩, fun _ => rfl⟩)
  | transitioned deadline now _ hread htarget hmem hne =>
    rw [Task.transitioned_status]
    refine .inr (.inr ⟨hc.request h₀ (congrArg some hid) (hid ▸ hread) ?_, fun h => ⟨rfl, h ▸ htarget⟩⟩)
    simp only [Endpoint.targets, htarget, Option.toList_some, List.mem_filter, List.mem_singleton,
      true_and, decide_eq_true_eq]
    exact hmem
  | executed now _ hread hstatus =>
    refine .inr (.inr ⟨hc.request h₀ (congrArg some hid) (hid ▸ hread) ?_, nofun⟩)
    rw [Endpoint.targets, if_pos hstatus]
    exact List.mem_singleton.mpr rfl
  | judged now _ hread hstatus hverdict =>
    refine .inr (.inr ⟨hc.request h₀ (congrArg some hid) (hid ▸ hread) ?_, nofun⟩)
    rw [Endpoint.targets, if_pos ⟨hstatus, hverdict⟩]
    exact List.mem_singleton.mpr rfl
  | rejected now _ hread hstatus =>
    refine .inr (.inr ⟨hc.request h₀ (congrArg some hid) (hid ▸ hread) ?_, nofun⟩)
    rw [Endpoint.targets, if_pos hstatus]
    exact List.mem_cons_of_mem _ (List.mem_singleton.mpr rfl)
  | completed now _ hread hstatus =>
    refine .inr (.inr ⟨hc.request h₀ (congrArg some hid) (hid ▸ hread) ?_, nofun⟩)
    rw [Endpoint.targets, if_pos hstatus]
    exact List.mem_cons_self
  | resumed deadline now hqa => simp [hqa] at hterminal
  | recovered now hrework => simp [hrework] at hterminal
  | revalidated cycle now hstatus =>
    simp only [List.mem_cons, List.not_mem_nil, or_false] at hstatus hterminal
    rcases hstatus with h | h | h <;> simp [h] at hterminal
  | project_stopped status now hproject hstatus =>
    simp only [List.mem_cons, List.not_mem_nil, or_false] at hstatus hterminal
    rcases hstatus with h | h | h | h <;> simp [h] at hterminal
  | task_stopped status now _ hread hne _ hstatus =>
    refine .inr (.inr ⟨hc.request h₀ (congrArg some hid) (hid ▸ hread) ?_, fun h => ?_⟩)
    · rw [Endpoint.targets, if_neg hne]
      exact hstatus
    · rw [show status = .awaiting_approval from h] at hstatus
      simp at hstatus
  | conflicted now hrow hwritten hmem htask hrevision _ hpending hconflict =>
    have hagree := hc.response _ _ hrow hwritten t hmem hterminal htask hrevision hpending
    rw [hagree] at hconflict
    cases hconflict
  | entered_qa now hrow hwritten hmem htask hrevision hrunning => simp [hrunning] at hterminal
  | unreviewable now hqa => simp [hqa] at hterminal
  | auto_judged now hrow htask hqa => simp [hqa] at hterminal
  | failed now hrow hsource hrevision hstatus =>
    simp only [List.mem_cons, List.not_mem_nil, or_false, not_or] at hstatus hterminal
    rcases hterminal with h | h | h
    · exact absurd h hstatus.1
    · exact absurd h hstatus.2.1
    · exact absurd h hstatus.2.2.1
  | finalized status now => exact .inl ⟨⟨status, now, rfl⟩, rfl⟩

/-- A task that its request has reopened stays so until the end of the request. -/
theorem TaskMove.reopened (h : TaskMove cfg w l db t t') (hl : l.reopens t.id)
    (ht : t.status = .awaiting_approval) : t'.status = .awaiting_approval := by
  cases h with
  | transitioned deadline now _ hread htarget =>
    rw [Task.transitioned_status]
    exact Option.some.inj (htarget.symm.trans hl.2)
  | reviewed => rfl
  | failed now hrow =>
    cases l with
    | request => cases hrow
    | _ => exact hl.elim
  | conflicted now hrow =>
    cases l with
    | request => cases hrow
    | _ => exact hl.elim
  | entered_qa now hrow hwritten hmem htask hrevision hrunning => simp [ht] at hrunning
  | unreviewable now hqa => simp [ht] at hqa
  | auto_judged now hrow htask hqa => simp [ht] at hqa
  | _ => exact hl.elim

theorem completed_write (hc : Careful cfg w l) (h₀ : t₀ ∈ w.db.tasks) (hs : t₀.status = .completed)
    (h : Write cfg w l db db') (hdb : db.has_status t₀.id [.completed]) :
    db'.has_status t₀.id [.completed] := by
  obtain ⟨t, ht, hid, hstatus⟩ := hdb
  rw [List.mem_singleton] at hstatus
  obtain ⟨t', ht', hid', rfl | hmove⟩ := h.task_forth ht
  · exact ⟨t', ht', hid, by rw [hstatus, List.mem_singleton]⟩
  · refine ⟨t', ht', hid'.trans hid, ?_⟩
    rcases hmove.terminal hc h₀ hid (by simp [hstatus]) fun _ => hstatus with h | h | h
    · rw [h.2, hstatus, List.mem_singleton]
    · exact absurd hs h.1
    · exact absurd hs h.1.1

/-- Only its finalization changes the row of a completed task. -/
theorem unchanged_write (hc : Careful cfg w l) (h₀ : t₀ ∈ w.db.tasks) (hs : t₀.status = .completed)
    (hl : ∀ status now, l ≠ .finalize t₀.id status now) (h : Write cfg w l db db')
    (hdb : t₀ ∈ db.tasks) : t₀ ∈ db'.tasks := by
  obtain ⟨t', ht', hid', rfl | hmove⟩ := h.task_forth hdb
  · exact ht'
  · rcases hmove.terminal hc h₀ rfl (by simp [hs]) fun _ => hs with ⟨⟨status, now, rfl⟩, -⟩ | h | h
    · exact absurd rfl (hl status now)
    · exact absurd hs h.1
    · exact absurd hs h.1.1

/-- A stopped task stays stopped, unless the step reopens it. -/
theorem stopped_write (hc : Careful cfg w l) (h₀ : t₀ ∈ w.db.tasks)
    (hs : t₀.status ∈ [.stopped, .stop_unconfirmed]) (h : Write cfg w l db db')
    (hdb : db.has_status t₀.id [.stopped, .stop_unconfirmed] ∨
      l.reopens t₀.id ∧ db.has_status t₀.id [.awaiting_approval]) :
    db'.has_status t₀.id [.stopped, .stop_unconfirmed] ∨
      l.reopens t₀.id ∧ db'.has_status t₀.id [.awaiting_approval] := by
  rcases hdb with ⟨t, ht, hid, hstatus⟩ | ⟨hl, t, ht, hid, hstatus⟩
  · have hstopped : t.status ∈ [TaskStatus.completed, .stopped, .stop_unconfirmed] :=
      List.mem_cons_of_mem _ hstatus
    obtain ⟨t', ht', hid', rfl | hmove⟩ := h.task_forth ht
    · exact .inl ⟨t', ht', hid, hstatus⟩
    · have hcompleted : t₀.status = .completed → t.status = .completed := by
        intro h
        simp [h] at hs
      rcases hmove.terminal hc h₀ hid hstopped hcompleted with h | h | ⟨⟨_, hpermits⟩, hreopens⟩
      · exact .inl ⟨t', ht', hid'.trans hid, h.2 ▸ hstatus⟩
      · exact .inl ⟨t', ht', hid'.trans hid, h.2 ▸ hstatus⟩
      · have htarget := hpermits hs
        simp only [List.mem_cons, List.not_mem_nil, or_false] at htarget
        rcases htarget with h | h | h
        · exact .inl ⟨t', ht', hid'.trans hid, by simp [h]⟩
        · exact .inl ⟨t', ht', hid'.trans hid, by simp [h]⟩
        · exact .inr ⟨hid ▸ hreopens h, t', ht', hid'.trans hid, by simp [h]⟩
  · obtain ⟨t', ht', hid', rfl | hmove⟩ := h.task_forth ht
    · exact .inr ⟨hl, t', ht', hid, hstatus⟩
    · refine .inr ⟨hl, t', ht', hid'.trans hid, List.mem_singleton.mpr ?_⟩
      exact hmove.reopened (hid ▸ hl) (List.mem_singleton.mp hstatus)

/-! ## Runs -/

/-- On the way from `w` to `w'` the task is reopened, and it was stopped until then. -/
def Reopened (cfg : Config) (task_id : String) (w : World) (as : List Label) (w' : World) : Prop :=
  ∃ before l rest w₁ w₂, as = before ++ l :: rest ∧
    (warRoom cfg).Steps (Careful cfg) w before w₁ ∧ step cfg w₁ l = some w₂ ∧
    (warRoom cfg).Steps (Careful cfg) w₂ rest w' ∧
    w₁.db.has_status task_id [.stopped, .stop_unconfirmed] ∧ l.reopens task_id ∧
    w₂.db.has_status task_id [.awaiting_approval]

theorem completed_run {task_id : String} {as : List Label}
    (run : (warRoom cfg).Steps (Careful cfg) w as w') (h : w.db.has_status task_id [.completed]) :
    w'.db.has_status task_id [.completed] := by
  refine run.inv (I := fun w => w.db.has_status task_id [.completed]) ?_ h
  rintro w l w' ⟨t, ht, rfl, hs⟩ hc hstep
  have hdb : w.db.has_status t.id [.completed] := ⟨t, ht, rfl, hs⟩
  exact (step_writes hstep).keeps (fun _ _ => completed_write hc ht (List.mem_singleton.mp hs)) hdb

theorem unchanged_run {as : List Label} (run : (warRoom cfg).Steps (Careful cfg) w as w')
    (hs : t.status = .completed) (has : ∀ status now, Label.finalize t.id status now ∉ as)
    (h : t ∈ w.db.tasks) : t ∈ w'.db.tasks := by
  induction run with
  | refl => exact h
  | cons hc hstep _ ih =>
    refine ih (fun status now hmem => has status now (List.mem_cons_of_mem _ hmem)) ?_
    refine (step_writes hstep).keeps (fun _ _ => unchanged_write hc h hs ?_) h
    rintro status now rfl
    exact has status now List.mem_cons_self

theorem stopped_run {task_id : String} {as : List Label}
    (run : (warRoom cfg).Steps (Careful cfg) w as w')
    (h : w.db.has_status task_id [.stopped, .stop_unconfirmed]) :
    w'.db.has_status task_id [.stopped, .stop_unconfirmed] ∨ Reopened cfg task_id w as w' := by
  induction run with
  | refl => exact .inl h
  | @cons w w₁ w' l as hc hstep hrest ih =>
    have hstopped := h
    obtain ⟨t, ht, rfl, hs⟩ := h
    have hnext := (step_writes hstep).keeps (fun _ _ => stopped_write hc ht hs) (.inl hstopped)
    rcases hnext with hnext | ⟨hl, hnext⟩
    · rcases ih hnext with hend | ⟨before, b, rest, w₂, w₃, rfl, hbefore, hb, hafter, hreopened⟩
      · exact .inl hend
      · exact .inr ⟨l :: before, b, rest, w₂, w₃, rfl, .cons hc hstep hbefore, hb, hafter,
          hreopened⟩
    · exact .inr ⟨[], l, as, w, w₁, rfl, .refl w, hstep, hrest, hstopped, hl, hnext⟩

/-- Terminal tasks are stable, in every run of careful steps. -/
theorem terminal_stable {as : List Label} (run : (warRoom cfg).Steps (Careful cfg) w as w')
    (ht : t ∈ w.db.tasks) :
    (t.status = .completed → w'.db.has_status t.id [.completed] ∧
      ((∀ status now, Label.finalize t.id status now ∉ as) → t ∈ w'.db.tasks)) ∧
    (t.status ∈ [.stopped, .stop_unconfirmed] →
      w'.db.has_status t.id [.stopped, .stop_unconfirmed] ∨ Reopened cfg t.id w as w') := by
  constructor
  · intro hs
    exact ⟨completed_run run ⟨t, ht, rfl, by simp [hs]⟩, fun has => unchanged_run run hs has ht⟩
  · intro hs
    exact stopped_run run ⟨t, ht, rfl, hs⟩

namespace Sample

/-- The task is stopped while its only delivery is with the agent. -/
def stopped : World :=
  after (config false) [prepare_for "ERPqa", execute, claim "d" "c" 2, hand "c" 3 (answer ""),
    transition "stopped" 4]

def late : Label := ended "c" 5 (answer "not done")

/-- The response has come after the stop. -/
def reworked : World :=
  after (config false) [prepare_for "ERPqa", execute, claim "d" "c" 2, hand "c" 3 (answer ""),
    transition "stopped" 4, late]

def reopen : Label := transition "awaiting_approval" 6

def reopened : World :=
  after (config false) [prepare_for "ERPqa", execute, claim "d" "c" 2, hand "c" 3 (answer ""),
    transition "stopped" 4, reopen]

end Sample

open Sample in
/-- The response that comes after the stop of its task moves the task to `rework_required`. -/
theorem late_response_reworks : (warRoom (config false)).Reachable stopped ∧
    stopped.db.tasks.rows.map (fun t => (t.id, t.status)) = [("t", .stopped)] ∧
    step (config false) stopped late = some reworked ∧
    reworked.db.tasks.rows.map (fun t => (t.id, t.status)) = [("t", .rework_required)] :=
  ⟨reachable_after _ _, by decide +kernel, step_after (by decide +kernel), by decide +kernel⟩

open Sample in
/-- The stopped task of the sample is reopened by a transition on its present row. -/
theorem terminal_stable_sample : ∃ t ∈ stopped.db.tasks, t.status = .stopped ∧
    (reopened.db.has_status t.id [.stopped, .stop_unconfirmed] ∨
      Reopened (config false) t.id stopped [reopen] reopened) := by
  have htask : (stopped.db.tasks.find "t").any (fun t => t.status == .stopped) = true := by
    decide +kernel
  obtain ⟨t, hfind, hs⟩ := (Option.any_eq_true _ _).mp htask
  have ht := (Table.find_some hfind).1
  have hstep : step (config false) stopped reopen = some reopened := step_after (by decide +kernel)
  have run : (warRoom (config false)).Steps (Careful (config false)) stopped [reopen] reopened :=
    .single (.of_present rfl nofun) hstep
  exact ⟨t, ht, eq_of_beq hs, (terminal_stable run ht).2 (by simp [eq_of_beq hs])⟩

end WarRoom

end Plachem
