import PlachemMonitor.WarRoom.Calls

/-!
# Revisions

A delivery belongs to a revision of the task whose instruction it carries, never to a later one than
the task has. A task that has deliveries at its revision is at work or past it (`TaskStatus.worked`),
and goes back to `awaiting_approval` only with a new revision, so that an approval never finds a
delivery under the same message, agent and revision (`revisions_fresh`).

Two requests can break this, where they decide on the row of a task from before it was executed:
`Timely` excludes them, and `stale_rejection` is such a run.
-/

namespace Plachem

namespace WarRoom

/-- The statuses of a task that has been executed at its revision. -/
def TaskStatus.worked (s : TaskStatus) : Prop :=
  s ∈ [.running, .qa, .completed, .stopped, .stop_unconfirmed]

/-- What a request has decided on a row of a task from before its execution finds it so. -/
structure Timely (w : World) (l : Label) : Prop where
  approval : ∀ task_id req env seen, l = .request (.approve_task task_id) req env seen →
    ∀ q, w.read seen task_id = some q → q.status = .awaiting_approval →
    ∀ t ∈ w.db.tasks, t.id = task_id → ¬t.status.worked
  transition : ∀ task_id req env seen, l = .request (.transition_task task_id) req env seen →
    ∀ q, w.read seen task_id = some q → q.status ∈ [.draft, .rework_required] →
    transition_target (req.text? "status") = some .awaiting_approval →
    ∀ t ∈ w.db.tasks, t.id = task_id → ¬t.status.worked

/-- A task that has been executed at a revision stays so at this revision. -/
structure DB.Later (a b : DB) : Prop where
  grows : a.Grows b
  worked : ∀ t ∈ a.tasks, ∀ t' ∈ b.tasks, t'.id = t.id → t'.revision = t.revision →
    t.status.worked → t'.status.worked

/-- The deliveries are those of the revisions of their tasks. -/
structure Revised (db : DB) : Prop where
  deliveries : ∀ d ∈ db.deliveries, ∃ t ∈ db.tasks, t.source_message_id = some d.message_id ∧
    d.task_revision ≤ t.revision ∧ (d.task_revision = t.revision → t.status.worked)
  sources : db.Sourced

variable {cfg : Config} {w w' : World} {l : Label} {a b c db : DB} {t t' q : Task}

/-! ## Statements on tasks -/

/-- No request asks for the statuses that a decision on an approval gives. -/
theorem transition_target_ne {s : Option String} {target : TaskStatus}
    (h : transition_target s = some target) : target ≠ .draft ∧ target ≠ .approved := by
  unfold transition_target at h
  split at h <;> cases h <;> simp

/-- A task that has been executed goes back only with a new revision. -/
theorem TaskMove.worked (hc : Timely w l) (h : TaskMove cfg w l db t t')
    (hrevision : t'.revision = t.revision) (hs : t.status.worked) : t'.status.worked := by
  have hnext : t.revision + 1 ≠ t.revision := by omega
  cases h with
  | linked => exact hs
  | finalized => exact hs
  | decided now ht hread hstatus => exact absurd hs (hc.approval _ _ _ _ rfl _ hread hstatus t ht rfl)
  | @transitioned req env seen db t q target deadline now ht hread htarget hmem hne =>
    rw [Task.transitioned_status]
    cases target with
    | awaiting_approval =>
      by_cases hbefore : q.status ∈ [.draft, .rework_required]
      · exact absurd hs (hc.transition _ _ _ _ rfl q hread hbefore htarget t ht rfl)
      · have hstopped : q.status = .stopped ∨ q.status = .stop_unconfirmed := by
          cases hq : q.status <;> simp_all [TRANSITIONS]
        simp only [Task.transitioned, ← or_assoc, hstopped, true_or, if_true] at hrevision
        exact absurd hrevision hnext
    | rework_required =>
      have hqa : q.status = .qa := by
        cases hq : q.status <;> simp_all [TRANSITIONS]
      simp only [Task.transitioned, hqa, or_true, if_true] at hrevision
      exact absurd hrevision hnext
    | running => simp [TaskStatus.worked]
    | qa => simp [TaskStatus.worked]
    | completed => simp [TaskStatus.worked]
    | stopped => simp [TaskStatus.worked]
    | stop_unconfirmed => simp [TaskStatus.worked]
    | draft => exact absurd rfl (transition_target_ne htarget).1
    | approved => exact absurd rfl (transition_target_ne htarget).2
  | executed => simp [TaskStatus.worked]
  | completed => simp [TaskStatus.worked]
  | resumed => exact hs
  | recovered => simp [TaskStatus.worked]
  | revalidated => simp [TaskStatus.worked]
  | entered_qa => simp [TaskStatus.worked]
  | _ => exact absurd hrevision hnext

namespace DB.Later

theorem refl (a : DB) : a.Later a where
  grows := .refl a
  worked t ht t' ht' hid _ hs := by
    obtain rfl : t' = t := Table.eq_of_key ht' ht hid
    exact hs

theorem trans (h : a.Later b) (h' : b.Later c) : a.Later c where
  grows := h.grows.trans h'.grows
  worked t ht t'' ht'' hid hrevision hs := by
    obtain ⟨t', ht', hgrows⟩ := h.grows.tasks t ht
    have hgrows' : t'.Grows t'' := h'.grows.task ht' ht'' (hid.trans hgrows.id.symm)
    have hle := hgrows.revision
    have hle' := hgrows'.revision
    exact h'.worked t' ht' t'' ht'' hgrows'.id (by omega)
      (h.worked t ht t' ht' hgrows.id (by omega) hs)

end DB.Later

theorem write_later (hc : Timely w l) (h : Write cfg w l a b) (ha : w.db.Later a) : w.db.Later b where
  grows := write_grows h ha.grows
  worked t ht t'' ht'' hid hrevision hs := by
    obtain ⟨t', ht', hgrows⟩ := ha.grows.tasks t ht
    rcases h.task_back ht'' with ⟨q, hq, hid', hmove⟩ | ⟨-, -, hnew, -⟩
    · obtain rfl : q = t' := Table.eq_of_key hq ht' (hid'.symm.trans (hid.trans hgrows.id.symm))
      rcases hmove with rfl | hmove
      · exact ha.worked t ht t'' hq hid hrevision hs
      · have hle := hgrows.revision
        have hle' := hmove.grows.revision
        exact hmove.worked hc (by omega) (ha.worked t ht q hq hgrows.id (by omega) hs)
    · exact absurd (hgrows.id.trans hid.symm) (hnew t' ht')

/-! ## Deliveries -/

/-- A new delivery is of a revision that its task has had, and only of the present one if the task is
at work. -/
theorem NewDelivery.revised (ho : Ordered DB.Later w) (hrows : Rows w) (ha : w.db.Later a)
    {d : Delivery} (h : NewDelivery cfg w l a d) :
    ∃ t ∈ a.tasks, t.source_message_id = some d.message_id ∧ d.task_revision ≤ t.revision ∧
      (d.task_revision = t.revision → t.status.worked) := by
  have hview : ∀ (seen : Read → Nat) (r : Read), (w.view seen r).Later a :=
    fun seen r => (ho.view seen r).trans ha
  cases h with
  | @executed _ req env seen _ q message_id agent_id id now hread hstatus hsource _ hrunning =>
    obtain ⟨hq, rfl⟩ := Table.find_some hread
    obtain ⟨t, ht, hgrows⟩ := (hview seen .task).grows.tasks q hq
    refine ⟨t, ht, hgrows.source _ hsource, hgrows.revision, fun _ => ?_⟩
    simp [hrunning t ht hgrows.id, TaskStatus.worked]
  | @delivered message_id req env seen _ q agent_id id now hread hstatus hsource =>
    obtain ⟨hq, -⟩ := Table.find_some hread
    obtain ⟨t, ht, hgrows⟩ := (hview seen .task).grows.tasks q hq
    refine ⟨t, ht, hgrows.source _ hsource, hgrows.revision, fun hrevision => ?_⟩
    exact (hview seen .task).worked q hq t ht hgrows.id hrevision.symm
      (by simp [hstatus, TaskStatus.worked])
  | @reviewed _ _ t agent_id message_id id deadline session now ht hqa hsource =>
    refine ⟨t, ht, ?_, le_rfl, fun _ => by simp [hqa, TaskStatus.worked]⟩
    rcases hsource with hsource | ⟨row, hrow, htask, rfl⟩
    · exact hsource
    · exact read_source (ho.mono fun _ _ => DB.Later.grows) ha.grows (row_read hrows hrow) ht htask

theorem write_revised (hc : Timely w l) (ho : Ordered DB.Later w) (hrows : Rows w)
    (h : Write cfg w l a b) (ha : w.db.Later a ∧ Revised a) : w.db.Later b ∧ Revised b := by
  refine ⟨write_later hc h ha.1, fun d' hd' => ?_, write_sources h ha.2.sources⟩
  -- the task of the delivery before the statement, and after it
  obtain ⟨t, ht, hsource, hle, hworked⟩ : ∃ t ∈ a.tasks,
      t.source_message_id = some d'.message_id ∧ d'.task_revision ≤ t.revision ∧
        (d'.task_revision = t.revision → t.status.worked) := by
    rcases h.delivery_back hd' with ⟨d, hd, -, rfl | hmove⟩ | ⟨hnew, -⟩
    · exact ha.2.deliveries d' hd
    · obtain ⟨hmessage, hrevision⟩ := hmove.same
      rw [hmessage, hrevision]
      exact ha.2.deliveries d hd
    · exact hnew.revised ho hrows ha.1
  obtain ⟨t', ht', -, rfl | hmove⟩ := h.task_forth ht
  · exact ⟨t', ht', hsource, hle, hworked⟩
  · have hgrows := hmove.grows
    have hle' := hgrows.revision
    exact ⟨t', ht', hgrows.source _ hsource, by omega,
      fun heq => hmove.worked hc (by omega) (hworked (by omega))⟩

/-! ## Reachable states -/

/-- The invariant of the revisions, with what it needs. -/
structure Dated (w : World) : Prop where
  ordered : Ordered DB.Later w
  rows : Rows w
  revised : Revised w.db

theorem inductive_dated : (warRoom cfg).InductiveIf Timely Dated where
  init w hw := by
    refine ⟨fun k j _ => ?_, (inductive_rows fun _ _ => True).init w hw, ?_⟩
    · rw [World.ago_of_past_nil hw.2.1, World.ago_of_past_nil hw.2.1]
      exact .refl _
    · constructor <;> simp [DB.Sourced, Table.mem_def, hw.1.deliveries, hw.1.tasks]
  step w l w' hw hc hs := by
    have hwrites := (step_writes hs).keeps
      (fun _ _ => write_revised hc hw.ordered hw.rows) ⟨.refl _, hw.revised⟩
    exact ⟨hw.ordered.next (fun _ _ _ => .trans) .refl hs hwrites.1,
      (inductive_rows fun _ _ => True).step w l w' hw.rows trivial hs, hwrites.2⟩

/-! ## Approvals -/

/-- The ids from the given one on are used by no delivery, and none twice. -/
structure Unused (env : Env) (db : DB) (n k : Nat) : Prop where
  new : ∀ i, n ≤ i → i < n + k → ∀ d ∈ db.deliveries, d.id ≠ env.uuid i
  distinct : ∀ i j, n ≤ i → i < j → j < n + k → env.uuid i ≠ env.uuid j

theorem insert_delivery_some {d : Delivery} (hid : ∀ q ∈ db.deliveries, q.id ≠ d.id)
    (hunique : ∀ q ∈ db.deliveries, q.message_id = d.message_id → q.agent_id = d.agent_id →
      q.task_revision ≠ d.task_revision) :
    ∃ T, db.deliveries.insert d = some T ∧ insert_delivery db d = some { db with deliveries := T } := by
  have hnew : d.id ∉ db.deliveries.rows.map Delivery.id := by
    intro hmem
    obtain ⟨q, hq, hqid⟩ := List.mem_map.mp hmem
    exact hid q hq hqid
  refine ⟨_, dif_pos hnew, ?_⟩
  unfold insert_delivery
  rw [if_neg, Table.insert, dif_pos hnew, Option.map_some]
  intro hany
  obtain ⟨q, hq, heq⟩ := List.any_eq_true.mp hany
  simp only [Bool.and_eq_true, beq_iff_eq] at heq
  exact hunique q hq heq.1.1 heq.1.2 heq.2

/-- Deliveries of a revision that has none can be inserted. -/
theorem insert_deliveries_some {env : Env} {message_id : String} {revision : Nat}
    {deadline : Option Int} {agents : List String} {n : Nat} (hagents : agents.Nodup)
    (hunused : Unused env db n agents.length)
    (hnew : ∀ agent ∈ agents, ∀ q ∈ db.deliveries, q.message_id = message_id →
      q.agent_id = agent → q.task_revision ≠ revision) :
    ∃ db', insert_deliveries db env message_id revision deadline agents n = some db' := by
  unfold insert_deliveries
  induction agents generalizing db n with
  | nil => exact ⟨db, rfl⟩
  | cons agent agents ih =>
    rw [List.zipIdx_cons, List.foldlM_cons]
    rw [List.length_cons] at hunused
    obtain ⟨hagent, hagents⟩ := List.nodup_cons.mp hagents
    obtain ⟨T, hT, hins⟩ := @insert_delivery_some db
      (d := queued_delivery (env.uuid n) message_id agent revision deadline none env.now)
      (hunused.new n le_rfl (by omega)) (hnew agent List.mem_cons_self)
    rw [hins, Option.bind_eq_bind, Option.bind_some]
    refine ih hagents ⟨fun i hi hlt q hq => ?_, fun i j hi hij hj => ?_⟩ fun b hb q hq hm hq' => ?_
    · rcases (Table.mem_insert hT).mp hq with hq | rfl
      · exact hunused.new i (by omega) (by omega) q hq
      · exact hunused.distinct n i le_rfl (by omega) (by omega)
    · exact hunused.distinct i j (by omega) hij (by omega)
    · rcases (Table.mem_insert hT).mp hq with hq | rfl
      · exact hnew b (List.mem_cons_of_mem _ hb) q hq hm hq'
      · have heq : agent = b := hq'
        exact absurd (heq ▸ hb) hagent

/-- No agent executes a task twice. -/
theorem agents_nodup (db : DB) (task_id : String) : (db.agents task_id).Nodup := by
  unfold DB.agents
  rw [(List.mergeSort_perm _ _).nodup_iff]
  have hrows : db.task_agents.rows.Nodup := by simpa using db.task_agents.unique
  refine (hrows.filter _).map_on fun x hx y hy heq => ?_
  simp only [List.mem_filter, beq_iff_eq] at hx hy
  exact Prod.ext (hx.2.trans hy.2.symm) heq

/-- Revisions of reachable states: a step makes none smaller, a delivery has none after that of its
task, a task that awaits its approval has no delivery at its revision, and so an approval with
execution can insert a delivery for each of its agents. -/
theorem revisions_fresh (h : (warRoom cfg).ReachableIf Timely w) (ht : t ∈ w.db.tasks) :
    (∀ l w', step cfg w l = some w' → ∃ t' ∈ w'.db.tasks, t'.id = t.id ∧ t.revision ≤ t'.revision) ∧
    (∀ d ∈ w.db.deliveries, t.source_message_id = some d.message_id →
      d.task_revision ≤ t.revision ∧
        (t.status = .awaiting_approval → d.task_revision ≠ t.revision)) ∧
    (t.status = .awaiting_approval → ∀ message_id, t.source_message_id = some message_id →
      ∀ env db n, db.deliveries = (reclaim_stale w.db env (w.db.agents t.id)).deliveries →
      Unused env db n (w.db.agents t.id).length →
      ∃ db', insert_deliveries db env message_id t.revision t.deadline_at (w.db.agents t.id) n =
        some db') := by
  have hw := inductive_dated.reachable h
  have hdelivery : ∀ d ∈ w.db.deliveries, t.source_message_id = some d.message_id →
      d.task_revision ≤ t.revision ∧
        (t.status = .awaiting_approval → d.task_revision ≠ t.revision) := by
    intro d hd hsource
    obtain ⟨q, hq, hqsource, hle, hworked⟩ := hw.revised.deliveries d hd
    obtain rfl : t = q := hw.revised.sources t ht q hq _ hsource hqsource
    refine ⟨hle, fun hstatus hrevision => ?_⟩
    have hnot := hworked hrevision
    rw [hstatus] at hnot
    simp [TaskStatus.worked] at hnot
  refine ⟨fun l w' hs => ?_, hdelivery, fun hstatus message_id hsource env db n hdb hunused => ?_⟩
  · obtain ⟨t', ht', hgrows⟩ := (step_grows hs).tasks t ht
    exact ⟨t', ht', hgrows.id, hgrows.revision⟩
  · refine insert_deliveries_some (agents_nodup _ _) hunused fun agent _ q hq hm _ => ?_
    rw [hdb] at hq
    simp only [reclaim_stale, Table.mem_update] at hq
    obtain ⟨d, hd, rfl⟩ := hq
    split at hm
    · rename_i hstale
      rw [if_pos hstale]
      exact (hdelivery d hd (hm ▸ hsource)).2 hstatus
    · rename_i hstale
      rw [if_neg hstale]
      exact (hdelivery d hd (hm ▸ hsource)).2 hstatus

namespace Sample

/-- The task is rejected by a request that has read it before its execution; its context token is
from then. -/
def stale_reject : Label :=
  .request (.approve_task "t") (request "reject" "" "" 5 (body [("decision", .str "rejected")]))
    (outside 5 ["b", ""]) fun r => if r = .task ∨ r = .context then 4 else 0

/-- The task awaits its approval again, and its delivery is under way. -/
def awaiting : World :=
  after (config false) [prepare, execute, claim "d" "c" 2, hand "c" 3 (accepted "run"),
    ended "c" 4 (accepted "run"), stale_reject, transition "awaiting_approval" 6]

/-- A second approval with execution. -/
def execute_again : Request :=
  request "again" "task_approve_execute" "t" 7 approval

/-- The error of a response. -/
def error_of {α : Type} : Except HttpError α → Option HttpError
  | .ok _ => none
  | .error e => some e

/-- The task is stopped while its delivery waits. -/
def stopped_early : World := after (config false) [prepare, execute, transition "stopped" 2]

def again : Label := transition "awaiting_approval" 3

/-- The stopped task awaits its approval under a new revision. -/
def renewed : World :=
  after (config false) [prepare, execute, transition "stopped" 2, again]

end Sample

open Sample in
/-- A rejection that has read the task before its execution, and a transition, make it await its
approval with a delivery at its revision: the approval with execution fails at this delivery. -/
theorem stale_rejection : (warRoom (config false)).Reachable awaiting ∧
    awaiting.db.tasks.rows.map (fun t => (t.id, t.status, t.revision)) =
      [("t", .awaiting_approval, 1)] ∧
    awaiting.db.deliveries.rows.map (fun d => (d.message_id, d.agent_id, d.task_revision, d.run_id)) =
      [("m", "dev", 1, some "run")] ∧
    error_of ((Endpoint.approve_and_execute_task "t").handler.handle (config false)
      (awaiting.view latest) awaiting.db (outside 7 ["a2", "", "d2"]) execute_again) =
        some .integrity :=
  ⟨reachable_after _ _, by decide +kernel, by decide +kernel, by decide +kernel⟩

open Sample in
/-- The stopped task of the sample, which awaits its approval again: its delivery is of the revision
before. -/
theorem revisions_fresh_sample : ∃ t ∈ renewed.db.tasks, t.status = .awaiting_approval ∧
    t.revision = 2 ∧ ∀ d ∈ renewed.db.deliveries, t.source_message_id = some d.message_id →
      d.task_revision ≤ t.revision ∧
        (t.status = .awaiting_approval → d.task_revision ≠ t.revision) := by
  have htask : (renewed.db.tasks.find "t").any
      (fun t => t.status == .awaiting_approval && t.revision == 2) = true := by decide +kernel
  obtain ⟨t, hfind, hs⟩ := (Option.any_eq_true _ _).mp htask
  rw [Bool.and_eq_true, beq_iff_eq, beq_iff_eq] at hs
  have ht := (Table.find_some hfind).1
  have hother : ∀ w l, (∀ task_id req env seen, l ≠ .request (.approve_task task_id) req env seen) →
      (∀ task_id req env seen, l ≠ .request (.transition_task task_id) req env seen) → Timely w l :=
    fun w l happrove htransition =>
      { approval := fun _ _ _ _ h => absurd h (happrove _ _ _ _)
        transition := fun _ _ _ _ h => absurd h (htransition _ _ _ _) }
  have h₁ : step (config false) world prepare = some (after (config false) [prepare]) :=
    @step_after _ [] _ (by decide +kernel)
  have h₂ : step (config false) (after (config false) [prepare]) execute =
      some (after (config false) [prepare, execute]) := step_after (by decide +kernel)
  have h₃ : step (config false) (after (config false) [prepare, execute]) (transition "stopped" 2) =
      some stopped_early := step_after (by decide +kernel)
  have h₄ : step (config false) stopped_early again = some renewed := step_after (by decide +kernel)
  have hstop : Timely (after (config false) [prepare, execute]) (transition "stopped" 2) :=
    { approval := by rintro _ _ _ _ ⟨⟩
      transition := by
        rintro _ _ _ _ ⟨⟩ _ _ _ htarget
        exact absurd htarget (by decide) }
  have hagain : Timely stopped_early again :=
    { approval := by rintro _ _ _ _ ⟨⟩
      transition := by
        rintro _ _ _ _ ⟨⟩ q hq hstatus
        have hstopped : (stopped_early.read latest "t").all (fun q => q.status == .stopped) = true := by
          decide +kernel
        rw [hq, Option.all_some, beq_iff_eq] at hstopped
        rw [hstopped] at hstatus
        exact absurd hstatus (by decide) }
  have hprepare : Timely world prepare := hother _ _ (by rintro _ _ _ _ ⟨⟩) (by rintro _ _ _ _ ⟨⟩)
  have hexecute : Timely (after (config false) [prepare]) execute :=
    hother _ _ (by rintro _ _ _ _ ⟨⟩) (by rintro _ _ _ _ ⟨⟩)
  have h : (warRoom (config false)).ReachableIf Timely (after (config false) [prepare]) :=
    ⟨world, [prepare], init _, .single hprepare h₁⟩
  exact ⟨t, ht, hs.1, hs.2, (revisions_fresh (((h.next hexecute h₂).next hstop h₃).next hagain h₄)
    ht).2.1⟩

end WarRoom

end Plachem
