import PlachemMonitor.WarRoom.Exclusive

/-!
# One live run for each agent

Whether an agent is free is read off the statuses of its deliveries, and several steps end a delivery
without a word of its adapter: a stop that fails, a deadline that passes, the execution of another task. So
a delivery can go to an agent whose run nobody has ended (`left_running`). Where a delivery that is received
ends only with its poll or a stop that is confirmed, and the agent is still free as a call is handed over,
none does (`one_run_per_agent`).

`manned` is the War Room with the runs that go on: the agent of each delivery that was submitted, and whose
end was neither polled nor confirmed.
-/

namespace Plachem

namespace WarRoom

/-! ## Runs that go on -/

/-- The delivery and the agent that a receipt with a run id is recorded for. -/
def submission (cfg : Config) (db : DB) (env : Env) (c : Call) (is_qa : Bool) (r : DeliveryReceipt) :
    Option (String × String) :=
  match record_receipt cfg db env c is_qa r with
  | .ok (some _) => r.run_id.map fun _ => (c.row.delivery.id, c.row.delivery.agent_id)
  | _ => none

/-- The delivery that the step submits, and its agent. -/
def World.submits (cfg : Config) (w : World) : Label → Option (String × String)
  | .hand_over token env seen r => do
    let c ← w.call (.hand_over token env seen r)
    let is_qa := c.row.is_qa_delivery (w.view seen .task)
    match lane cfg env c.row is_qa with
    | .direct session => submission cfg (write_session w.db c.row.delivery.id session) env c is_qa r
    | _ => none
  | .record token env r => do
    let c ← w.call (.record token env r)
    submission cfg w.db env c (c.delivering.getD false) r
  | _ => none

/-- The stop requests of an endpoint, with their receipts. -/
def Endpoint.receipts (cfg : Config) (view : View) (db : DB) (env : Env) :
    Endpoint → List (Delivery × DeliveryReceipt)
  | .stop_project project_id => (stop_deliveries cfg db env project_id).2
  | .stop_task task_id =>
    match (view .task).tasks.find task_id with
    | some task => (stop_task_deliveries cfg view db env task).2
    | none => []
  | _ => []

/-- The stop requests of the step, with their receipts. -/
def World.stops (cfg : Config) (w : World) : Label → List (Delivery × DeliveryReceipt)
  | .request endpoint req env seen =>
    match endpoint.handler.handle cfg (w.view seen) w.db env req with
    | .ok (some _, _) => endpoint.receipts cfg (w.view seen) w.db env
    | _ => []
  | .request_project_stop project_id _ ids env seen =>
    stop_receipts cfg w.db env (stop_targets (w.view seen .deliveries) project_id ids)
  | _ => []

/-- The event says that a run has ended. -/
def Event.ends : Event → Bool
  | .polled _ _ => true
  | .asked _ _ confirmed => confirmed
  | _ => false

/-- The poll of the delivery has an outcome, or its stop is confirmed. -/
def World.polls (cfg : Config) (w : World) : Label → String → Bool
  | .recover delivery_id env seen poll, id => delivery_id == id &&
    (delivery_row (w.view seen .deliveries) delivery_id).any fun row =>
      match recover_row cfg (w.view seen) w.db env row poll with
      | .ok db => (poll_events cfg (w.view seen) w.db db env row poll).any Event.ends
      | .error _ => false
  | _, _ => false

/-- The step ends the run of the delivery, as its adapter has said. -/
def World.ends (cfg : Config) (w : World) (l : Label) (id : String) : Bool :=
  (w.stops cfg l).any (fun p => p.1.id == id && stop_status p.2 == .stopped) || w.polls cfg l id

/-- A world, with the agent of each run that goes on. -/
structure Manned where
  world : World
  running : String → Option String

/-- The runs after a step. -/
def run_on (running : String → Option String) (submits : Option (String × String)) (ends : String → Bool)
    (id : String) : Option String :=
  match submits.filter fun p => p.1 == id with
  | some p => some p.2
  | none => if ends id then none else running id

/-- The War Room, with its runs. -/
def manned (cfg : Config) : Machine Manned Label where
  init s := (warRoom cfg).init s.world ∧ ∀ id, s.running id = none
  step s l := (step cfg s.world l).map fun w =>
    ⟨w, run_on s.running (s.world.submits cfg l) (s.world.ends cfg l)⟩

/-! ## The condition -/

/-- The step ends the delivery, and asks no adapter. -/
def World.bypasses (cfg : Config) (w : World) (l : Label) (d : Delivery) : Bool :=
  match l with
  | .request (.stop_task task_id) _ _ seen => (w.read seen task_id).any fun task =>
      (waiting_deliveries (w.view seen .deliveries) task).any fun q => q.id == d.id
  | .request (.approve_and_execute_task task_id) _ env _ =>
    decide (d.agent_id ∈ w.db.agents task_id) && d.deadline_at.any (decide <| · ≤ env.now)
  | .request (.retry_delivery id) _ _ _ => id == d.id
  | .request_delivery_retry id _ _ => id == d.id
  | .process id env seen => id == d.id &&
    (delivery_row (w.view seen .deliveries) id).any fun row =>
      row.delivery.deadline_at.any (decide <| · ≤ env.now)
  | .recover id env seen _ => id == d.id &&
    (delivery_row (w.view seen .deliveries) id).any fun row => lacks_binding cfg (w.view seen) env row
  | _ => false

/-- A run that goes on ends only as its adapter says, and its agent is not free before. -/
structure Verified (cfg : Config) (w : World) (l : Label) : Prop where
  asked : ∀ d ∈ w.db.deliveries.rows, d.status = .received → w.bypasses cfg l d = false
  confirmed : ∀ d ∈ w.db.deliveries.rows, d.status = .received → ∀ p ∈ w.stops cfg l, p.1.id = d.id →
    stop_status p.2 = .stopped
  /-- The busy check still holds as a call is handed over, and its delivery was not submitted yet. -/
  free : ∀ c ∈ w.hands cfg l, busy w.db c.row.delivery = false ∧
    ∀ d ∈ w.db.deliveries.rows, d.id = c.row.delivery.id → d.status ≠ .received
  /-- The delivery of a call is still that of its agent. -/
  agent : ∀ c ∈ w.call l, ∀ d ∈ w.db.deliveries.rows, owns_claim c d = true →
    d.agent_id = c.row.delivery.agent_id

instance (cfg : Config) (w : World) (l : Label) : Decidable (Verified cfg w l) :=
  decidable_of_iff
    ((∀ d ∈ w.db.deliveries.rows, d.status = .received → w.bypasses cfg l d = false) ∧
      (∀ d ∈ w.db.deliveries.rows, d.status = .received → ∀ p ∈ w.stops cfg l, p.1.id = d.id →
        stop_status p.2 = .stopped) ∧
      (∀ c ∈ w.hands cfg l, busy w.db c.row.delivery = false ∧
        ∀ d ∈ w.db.deliveries.rows, d.id = c.row.delivery.id → d.status ≠ .received) ∧
      ∀ c ∈ w.call l, ∀ d ∈ w.db.deliveries.rows, owns_claim c d = true →
        d.agent_id = c.row.delivery.agent_id)
    ⟨fun h => ⟨h.1, h.2.1, h.2.2.1, h.2.2.2⟩, fun h => ⟨h.asked, h.confirmed, h.free, h.agent⟩⟩

variable {cfg : Config} {id : String} {w w' : World} {l : Label} {a b db db' : DB} {d d' d₀ : Delivery}
  {s s' : Manned} {env : Env} {row : DeliveryRow} {c : Call}

/-! ## Deliveries that are received -/

/-- The delivery is still received. -/
structure Delivery.SameRun (d d' : Delivery) : Prop where
  received : d'.status = .received
  agent_id : d'.agent_id = d.agent_id
  deadline_at : d'.deadline_at = d.deadline_at

/-- The delivery is there, and still received. -/
def StillRuns (d : Delivery) (db : DB) : Prop := ∃ d' ∈ db.deliveries, d'.id = d.id ∧ d.SameRun d'

/-- The step stops no delivery of this id. -/
structure Unasked (w : World) (l : Label) (d : Delivery) : Prop where
  project : ∀ project_id req env seen, l = .request (.stop_project project_id) req env seen →
    w.db.in_project project_id d.message_id = false
  task : ∀ task_id req env seen, l ≠ .request (.stop_task task_id) req env seen
  targets : ∀ project_id deadline ids env seen, l = .request_project_stop project_id deadline ids env seen →
    ∀ q ∈ stop_targets (w.view seen .deliveries) project_id ids, q.id ≠ d.id
  poll : ∀ env seen poll, l ≠ .recover d.id env seen poll

theorem sent_of_received (h : d.status = .received) : d.sent = true := by
  rw [Delivery.sent, h]
  rfl

/-- What a statement can do to a delivery that is received. -/
theorem DeliveryMove.same_run (hd₀ : d₀ ∈ w.db.deliveries) (hasked : w.bypasses cfg l d₀ = false)
    (hunasked : Unasked w l d₀) (hid : d.id = d₀.id) (hsame : d₀.SameRun d)
    (h : DeliveryMove cfg w l db d d') : d₀.SameRun d' := by
  obtain ⟨hreceived, hagent, hdeadline⟩ := hsame
  have hqueued : d.status ≠ .queued := by
    rw [hreceived]
    exact DeliveryStatus.noConfusion
  cases h with
  | project_barred now hs => exact absurd hs hqueued
  | @project_answered project_id req env seen db d r now _ hproject hd =>
    obtain rfl := Table.eq_of_key hd hd₀ hid
    rw [hunasked.project _ _ _ _ rfl] at hproject
    cases hproject
  | @task_barred task_id req env seen db d task q now hread hq hqid =>
    have hbypassed : w.bypasses cfg (.request (.stop_task task_id) req env seen) d₀ = true := by
      simp only [World.bypasses, hread, Option.any_some]
      exact List.any_eq_true.mpr ⟨q, hq, beq_iff_eq.mpr (hqid.trans hid)⟩
    rw [hasked] at hbypassed
    cases hbypassed
  | task_answered => exact absurd rfl (hunasked.task _ _ _ _)
  | worker_answered r hq hqid => exact absurd (hqid.trans hid) (hunasked.targets _ _ _ _ _ rfl _ hq)
  | @reclaimed task_id req env seen db d hmem _ hover =>
    obtain ⟨n, hn, hle⟩ := hover
    have hbypassed : w.bypasses cfg (.request (.approve_and_execute_task task_id) req env seen) d₀ =
        true := by
      simp only [World.bypasses]
      rw [Bool.and_eq_true, decide_eq_true_eq]
      refine ⟨hagent ▸ hmem, (Option.any_eq_true _ _).mpr ⟨n, hdeadline ▸ hn, decide_eq_true hle⟩⟩
    rw [hasked] at hbypassed
    cases hbypassed
  | @retried req env seen =>
    simp only [World.bypasses, hid, beq_self_eq_true, Bool.true_eq_false] at hasked
  | @requeued env seen =>
    simp only [World.bypasses, hid, beq_self_eq_true, Bool.true_eq_false] at hasked
  | bypassed now hs => exact absurd hs hqueued
  | dismissed now _ hs => exact absurd hs hqueued
  | @overdue id env seen db d row now hd hrow _ hover =>
    obtain ⟨n, hn, hle⟩ := hover
    have hover : row.delivery.deadline_at.any (decide <| · ≤ env.now) = true :=
      (Option.any_eq_true _ _).mpr ⟨n, hn, decide_eq_true hle⟩
    obtain rfl : id = d₀.id := hd.symm.trans hid
    simp only [World.bypasses, hrow, beq_self_eq_true, Bool.true_and, Option.any_some, hover,
      Bool.true_eq_false] at hasked
  | postponed _ hs => exact absurd hs hqueued
  | claimed _ _ hclaimable =>
    rw [Delivery.claimable, Delivery.claim_expired, hreceived] at hclaimable
    cases hclaimable
  | bound session => exact ⟨hreceived, hagent, hdeadline⟩
  | recorded o r now hcall howns =>
    rw [(owns_claim_iff.mp howns).2.1] at hreceived
    cases hreceived
  | answered => exact ⟨hreceived, hagent, hdeadline⟩
  | cancelled _ _ _ _ hs => exact absurd hs hqueued
  | @unbound id env seen poll db d row error_code now hd =>
    exact absurd (by rw [← hd, hid]) (hunasked.poll env seen poll)
  | @expired id env seen poll db d hd =>
    exact absurd (by rw [← hd, hid]) (hunasked.poll env seen poll)
  | @polled id env seen r db d o message_id session_id now hd =>
    exact absurd (by rw [← hd, hid]) (hunasked.poll env seen (.run r))

theorem Delivery.SameRun.refl (h : d.status = .received) : d.SameRun d := ⟨h, rfl, rfl⟩

theorem StillRuns.refl (hd : d ∈ db.deliveries) (h : d.status = .received) : StillRuns d db :=
  ⟨d, hd, rfl, .refl h⟩

/-- A delivery that nobody asks to stop. -/
theorem still_runs_step (hd : d ∈ w.db.deliveries) (hreceived : d.status = .received)
    (hasked : w.bypasses cfg l d = false) (hunasked : Unasked w l d) (h : step cfg w l = some w') :
    StillRuns d w'.db := by
  refine (step_writes h).keeps (fun a b hwrite ha => ?_) (StillRuns.refl hd hreceived)
  obtain ⟨q, hq, hid, hsame⟩ := ha
  rcases hwrite.delivery_forth hq with ⟨q', hq', hid', rfl | hmove⟩ | ⟨t, -, -, hinactive, -⟩
  · exact ⟨_, hq', hid, hsame⟩
  · exact ⟨q', hq', hid'.trans hid, hmove.same_run hd hasked hunasked hid hsame⟩
  · rw [Delivery.active, hsame.received] at hinactive
    cases hinactive

/-! ## Stops -/

theorem request_handled {endpoint : Endpoint} {req : Request} {seen : Read → Nat}
    (h : step cfg w (.request endpoint req env seen) = some w') :
    w' = w ∨ ∃ resp, endpoint.handler.handle cfg (w.view seen) w.db env req = .ok (some w'.db, resp) ∧
      w.stops cfg (.request endpoint req env seen) = endpoint.receipts cfg (w.view seen) w.db env := by
  simp only [step, Option.bind_eq_bind, Option.bind_eq_some_iff] at h
  obtain ⟨_, -, h⟩ := h
  split at h
  · rename_i db resp hhandle
    obtain ⟨-, rfl⟩ := World.commit_eq_some.mp h
    refine .inr ⟨resp, hhandle, ?_⟩
    simp only [World.stops, hhandle]
  · cases h
    exact .inl rfl
  · cases h

/-- A receipt for the delivery, and it is confirmed. -/
theorem ends_of_receipt {p : Delivery × DeliveryReceipt} (hp : p ∈ w.stops cfg l) (hid : p.1.id = id)
    (hstopped : stop_status p.2 = .stopped) : w.ends cfg l id = true := by
  rw [World.ends, Bool.or_eq_true]
  left
  refine List.any_eq_true.mpr ⟨p, hp, ?_⟩
  rw [hid, hstopped, beq_self_eq_true, beq_self_eq_true]
  rfl

/-- The stop of a project asks for each of its deliveries that was sent. -/
theorem stop_deliveries_receipt {project_id : String} (hd : d ∈ db.deliveries) (hsent : d.sent = true)
    (hproject : db.in_project project_id d.message_id = true) :
    ∃ p ∈ (stop_deliveries cfg db env project_id).2, p.1.id = d.id := by
  have hqueued : d.status ≠ .queued := by
    intro hs
    rw [Delivery.sent, hs] at hsent
    cases hsent
  unfold stop_deliveries
  dsimp only
  refine ⟨(d, _), List.mem_map.mpr ⟨d, List.mem_filter.mpr ⟨?_, ?_⟩, rfl⟩, rfl⟩
  · refine Table.mem_update_neg (by exact fun _ => rfl) hd fun hcond => hqueued ?_
    rw [Bool.and_eq_true, beq_iff_eq] at hcond
    exact hcond.1
  · rw [hsent]
    exact hproject

/-- The stop of a task leaves a delivery alone that it has not asked for. -/
theorem stop_task_kept {task_id : String} {ctx : Task} {req : Request} {seen : Read → Nat} {lookup : Lookup}
    {resp : Json} (hd : d ∈ w.db.deliveries)
    (hwaiting : w.bypasses cfg (.request (.stop_task task_id) req env seen) d = false)
    (hunasked : ∀ p ∈ (Endpoint.stop_task task_id).receipts cfg (w.view seen) w.db env, p.1.id ≠ d.id)
    (hb : (stop_task task_id).before cfg (w.view seen) w.db env req = .ok (lookup, ctx))
    (ha : (stop_task task_id).after cfg (w.view seen) w.db env req lookup ctx = .ok (db', resp)) :
    d ∈ db'.deliveries := by
  simp only [stop_task, bind_eq_ok, found_eq_ok, pure_eq_ok, Prod.mk.injEq, ensure_eq_ok,
    exists_unit] at hb ha
  obtain ⟨task, hread, actor, -, -, -, rfl, rfl⟩ := hb
  obtain ⟨-, -, rfl, -⟩ := ha
  have hreceipts : ∀ p ∈ (stop_task_deliveries cfg (w.view seen) w.db env task).2, p.1.id ≠ d.id := by
    simpa only [Endpoint.receipts, hread] using hunasked
  have hbarred : ∀ q ∈ waiting_deliveries (w.view seen .deliveries) task, q.id ≠ d.id := by
    intro q hq hid
    simp only [World.bypasses, World.read, hread, Option.any_some, List.any_eq_false] at hwaiting
    exact hwaiting q hq (beq_iff_eq.mpr hid)
  have hkept : d ∈ (stop_task_deliveries cfg (w.view seen) w.db env task).1.deliveries := by
    unfold stop_task_deliveries at hreceipts ⊢
    dsimp only at hreceipts ⊢
    rw [persist_snapshots_eq]
    refine Table.mem_update_neg (by exact fun _ => rfl)
      (Table.mem_update_neg (by exact fun _ => rfl) hd fun hcond => ?_) fun hcond => ?_
    · obtain ⟨q, hq, hid⟩ := List.mem_map.mp (of_decide_eq_true hcond)
      exact hbarred q hq hid
    · rw [Bool.and_eq_true, decide_eq_true_eq] at hcond
      obtain ⟨q, hq, hid⟩ := List.mem_map.mp hcond.2
      exact hreceipts _ (List.mem_map.mpr ⟨q, hq, rfl⟩) hid
  split
  · split <;> exact hkept
  · split <;> exact hkept

/-! ## Polls -/

/-- What a poll can do to a delivery that is received. -/
theorem DeliveryMove.polled_run {seen : Read → Nat} {poll : Poll} {id : String}
    (hd : d₀.SameRun d ∨ d.status ≠ .received)
    (h : DeliveryMove cfg w (.recover id env seen poll) db d d') :
    d₀.SameRun d' ∨ d'.status ≠ .received := by
  cases h with
  | answered =>
    refine hd.imp (fun hsame => ?_) fun hover => hover
    exact ⟨hsame.received, hsame.agent_id, hsame.deadline_at⟩
  | recorded o r now hcall => cases hcall
  | cancelled => exact .inr DeliveryStatus.noConfusion
  | unbound => exact .inr DeliveryStatus.noConfusion
  | expired => exact .inr DeliveryStatus.noConfusion
  | polled o message_id session_id now _ _ hstatus =>
    simp only [List.mem_cons, List.not_mem_nil, or_false, not_or] at hstatus
    exact .inr hstatus.2.2

/-- A row whose poll is not heard. -/
theorem recover_row_unheard {view : View} {poll : Poll} (hlacks : lacks_binding cfg view env row = false)
    (hpoll : ∀ r, poll = .run r →
      ((view .delivery).deliveries.find row.delivery.id).any (fun q => q.status == .received) = false)
    (h : recover_row cfg view db env row poll = .ok db') : db'.deliveries = db.deliveries := by
  rw [lacks_binding, Bool.and_eq_false_iff, Bool.or_eq_false_iff] at hlacks
  unfold recover_row at h
  dsimp only at h
  split at h
  · rename_i hmissing
    rw [Bool.and_eq_true] at hmissing
    rcases hlacks with hbinds | ⟨hmissing', -⟩
    · rw [hmissing.1] at hbinds
      cases hbinds
    · rw [hmissing.2] at hmissing'
      cases hmissing'
  split at h
  · rename_i herror
    rw [Bool.and_eq_true] at herror
    rcases hlacks with hbinds | ⟨-, herror'⟩
    · rw [herror.1] at hbinds
      cases hbinds
    · rw [herror.2] at herror'
      cases herror'
  split at h
  · cases h
    split
    · split <;> rfl
    · rfl
  · rename_i r
    rw [if_pos] at h
    · cases h
      rfl
    · cases hfind : (view .delivery).deliveries.find row.delivery.id with
      | none => rfl
      | some q =>
        have hunheard := hpoll r rfl
        rw [hfind, Option.any_some] at hunheard
        rw [Option.all_some, bne, hunheard]
        rfl

/-- A delivery that is polled goes on, or its run is over. -/
theorem polled_step {seen : Read → Nat} {poll : Poll} (hd : d ∈ w.db.deliveries)
    (hreceived : d.status = .received)
    (hasked : w.bypasses cfg (.recover d.id env seen poll) d = false)
    (h : step cfg w (.recover d.id env seen poll) = some w') :
    StillRuns d w'.db ∨ w.ends cfg (.recover d.id env seen poll) d.id = true := by
  have hrow : ∃ d' ∈ w'.db.deliveries, d'.id = d.id ∧ (d.SameRun d' ∨ d'.status ≠ .received) := by
    refine (step_writes h).keeps (P := fun db => ∃ d' ∈ db.deliveries, d'.id = d.id ∧
      (d.SameRun d' ∨ d'.status ≠ .received)) (fun a b hwrite ha => ?_)
      ⟨d, hd, rfl, .inl (.refl hreceived)⟩
    obtain ⟨q, hq, hid, hq'⟩ := ha
    rcases hwrite.delivery_forth hq with ⟨q', hq₁, hid', rfl | hmove⟩ | ⟨t, -, ⟨_, _, _, hl⟩, -⟩
    · exact ⟨_, hq₁, hid, hq'⟩
    · exact ⟨q', hq₁, hid'.trans hid, hmove.polled_run hq'⟩
    · cases hl
  obtain ⟨d', hd', hid', hsame | hover⟩ := hrow
  · exact .inl ⟨d', hd', hid', hsame⟩
  right
  simp only [step, Option.bind_eq_bind, Option.bind_eq_some_iff] at h
  obtain ⟨row, hrow, _, -, h⟩ := h
  obtain ⟨-, -, hrid, -⟩ := delivery_row_eq_some hrow
  split at h
  · rename_i db hrecover
    obtain ⟨-, rfl⟩ := World.commit_eq_some.mp h
    have hlacks : lacks_binding cfg (w.view seen) env row = false := by
      simpa only [World.bypasses, hrow, beq_self_eq_true, Bool.true_and, Option.any_some] using hasked
    by_cases hheard : ∃ r, poll = .run r ∧ ((w.view seen .delivery).deliveries.find
        row.delivery.id).any (fun q => q.status == .received) = true
    · obtain ⟨r, rfl, hview⟩ := hheard
      have hbefore : (w.db.deliveries.find row.delivery.id).any (fun q => q.status == .received) = true := by
        rw [hrid, Table.mem_iff_find.mp hd, Option.any_some, hreceived]
        rfl
      have hafter : (db.deliveries.find row.delivery.id).any (fun q => q.status == .received) = false := by
        rw [hrid, ← hid', Table.mem_iff_find.mp hd', Option.any_some, beq_eq_false_iff_ne]
        exact hover
      have hevents : (poll_events cfg (w.view seen) w.db db env row (.run r)).any Event.ends = true := by
        simp only [poll_events, hbefore, hafter, hview, Bool.not_false, Bool.and_true, if_true]
        split <;> rfl
      rw [World.ends, Bool.or_eq_true]
      right
      simp only [World.polls, hrow, hrecover, beq_self_eq_true, Bool.true_and, Option.any_some, hevents]
    · have hsame := recover_row_unheard hlacks (fun r hr => Bool.eq_false_iff.mpr fun hview =>
        hheard ⟨r, hr, hview⟩) hrecover
      have hd₁ : d ∈ db.deliveries := hsame ▸ hd
      obtain rfl := Table.eq_of_key hd' hd₁ hid'
      exact absurd hreceived hover
  · cases h

/-! ## Steps -/

theorem stop_project_run {project_id : String} {req : Request} {seen : Read → Nat}
    (hc : Verified cfg w (.request (.stop_project project_id) req env seen)) (hd : d ∈ w.db.deliveries)
    (hreceived : d.status = .received) (hproject : w.db.in_project project_id d.message_id = true)
    (h : step cfg w (.request (.stop_project project_id) req env seen) = some w') :
    StillRuns d w'.db ∨ w.ends cfg (.request (.stop_project project_id) req env seen) d.id = true := by
  rcases request_handled h with rfl | ⟨resp, -, hstops⟩
  · exact .inl (.refl hd hreceived)
  · have hreceipt : ∃ p ∈ (stop_deliveries cfg w.db env project_id).2, p.1.id = d.id :=
      stop_deliveries_receipt hd (sent_of_received hreceived) hproject
    obtain ⟨p, hp, hid⟩ := hreceipt
    have hmem : p ∈ w.stops cfg (.request (.stop_project project_id) req env seen) := by
      rw [hstops]
      exact hp
    exact .inr (ends_of_receipt hmem hid (hc.confirmed d hd hreceived p hmem hid))

theorem stop_task_run {task_id : String} {req : Request} {seen : Read → Nat}
    (hc : Verified cfg w (.request (.stop_task task_id) req env seen)) (hd : d ∈ w.db.deliveries)
    (hreceived : d.status = .received)
    (h : step cfg w (.request (.stop_task task_id) req env seen) = some w') :
    StillRuns d w'.db ∨ w.ends cfg (.request (.stop_task task_id) req env seen) d.id = true := by
  rcases request_handled h with rfl | ⟨resp, hhandle, hstops⟩
  · exact .inl (.refl hd hreceived)
  · by_cases hasked : ∃ p ∈ w.stops cfg (.request (.stop_task task_id) req env seen), p.1.id = d.id
    · obtain ⟨p, hp, hid⟩ := hasked
      exact .inr (ends_of_receipt hp hid (hc.confirmed d hd hreceived p hp hid))
    · obtain ⟨lookup, ctx, db₁, hb, -, ha, hs⟩ := handle_eq_ok hhandle
      have hkept := stop_task_kept hd (hc.asked d hd hreceived)
        (fun p hp hid => hasked ⟨p, hstops ▸ hp, hid⟩) hb ha
      simp only [save_idem, bind_eq_ok, inserted_eq_ok, pure_eq_ok] at hs
      obtain ⟨keys, -, hdb⟩ := hs
      rw [← hdb]
      exact .inl (.refl hkept hreceived)

/-- A run goes on, or its adapter has said that it is over. -/
theorem run_step (hc : Verified cfg w l) (hd : d ∈ w.db.deliveries) (hreceived : d.status = .received)
    (h : step cfg w l = some w') : StillRuns d w'.db ∨ w.ends cfg l d.id = true := by
  have hasked := hc.asked d hd hreceived
  by_cases hpoll : ∃ env seen poll, l = .recover d.id env seen poll
  · obtain ⟨env, seen, poll, rfl⟩ := hpoll
    exact polled_step hd hreceived hasked h
  by_cases hproject : ∃ project_id req env seen, l = .request (.stop_project project_id) req env seen ∧
      w.db.in_project project_id d.message_id = true
  · obtain ⟨project_id, req, env, seen, rfl, hin⟩ := hproject
    exact stop_project_run hc hd hreceived hin h
  by_cases htask : ∃ task_id req env seen, l = .request (.stop_task task_id) req env seen
  · obtain ⟨task_id, req, env, seen, rfl⟩ := htask
    exact stop_task_run hc hd hreceived h
  by_cases htarget : ∃ project_id deadline ids env seen,
      l = .request_project_stop project_id deadline ids env seen ∧
        ∃ q ∈ stop_targets (w.view seen .deliveries) project_id ids, q.id = d.id
  · obtain ⟨project_id, deadline, ids, env, seen, rfl, q, hq, hid⟩ := htarget
    have hmem : (q, stop_bound_delivery cfg w.db env q) ∈
        w.stops cfg (.request_project_stop project_id deadline ids env seen) :=
      List.mem_map.mpr ⟨q, hq, rfl⟩
    exact .inr (ends_of_receipt hmem hid (hc.confirmed d hd hreceived _ hmem hid))
  left
  refine still_runs_step hd hreceived hasked ?_ h
  constructor
  · intro project_id req env seen hl
    exact Bool.eq_false_iff.mpr fun hin => hproject ⟨project_id, req, env, seen, hl, hin⟩
  · exact fun task_id req env seen hl => htask ⟨task_id, req, env, seen, hl⟩
  · exact fun project_id deadline ids env seen hl q hq hid =>
      htarget ⟨project_id, deadline, ids, env, seen, hl, q, hq, hid⟩
  · exact fun env seen poll hl => hpoll ⟨env, seen, poll, hl⟩

/-- Where there is no retry of a request, a delivery stays with its agent. -/
theorem agent_kept (hl : ∀ endpoint req env seen, l ≠ .request endpoint req env seen)
    (hd : d ∈ w.db.deliveries) (h : step cfg w l = some w') :
    ∃ d' ∈ w'.db.deliveries, d'.id = d.id ∧ d'.agent_id = d.agent_id := by
  refine (step_writes h).keeps (P := fun db => ∃ d' ∈ db.deliveries, d'.id = d.id ∧
    d'.agent_id = d.agent_id) (fun a b hwrite ha => ?_) ⟨d, hd, rfl, rfl⟩
  obtain ⟨q, hq, hid, hagent⟩ := ha
  rcases hwrite.delivery_forth hq with ⟨q', hq', hid', rfl | hmove⟩ | ⟨t, -, ⟨_, _, _, hrequest⟩, -⟩
  · exact ⟨_, hq', hid, hagent⟩
  · refine ⟨q', hq', hid'.trans hid, Eq.trans ?_ hagent⟩
    cases hmove with
    | retried => exact absurd rfl (hl _ _ _ _)
    | _ => rfl
  · exact absurd hrequest (hl _ _ _ _)

/-- A row that is submitted is received. -/
theorem submission_received {is_qa : Bool} {r : DeliveryReceipt} {agent : String}
    (hr : plausible_receipt r = true) (h : submission cfg db env c is_qa r = some (id, agent)) :
    id = c.row.delivery.id ∧ agent = c.row.delivery.agent_id ∧
      db.deliveries.rows.any (owns_claim c) = true ∧
      ∃ db', record_receipt cfg db env c is_qa r = .ok (some db') ∧
        ∃ d' ∈ db'.deliveries, d'.id = id ∧ d'.status = .received := by
  unfold submission at h
  split at h
  · rename_i db' hrecord
    obtain ⟨run_id, hrun, h⟩ := Option.map_eq_some_iff.mp h
    obtain ⟨rfl, rfl⟩ := Prod.mk.inj h
    have hany := record_receipt_owns hrecord
    obtain ⟨d, hd, howns⟩ := List.any_eq_true.mp hany
    have hid := (owns_claim_iff.mp howns).1
    obtain ⟨-, d', hd', hid', hpace⟩ := record_receipt_row hd hid hrecord
    have hreceived : (call_outcome cfg db c is_qa r).status = .received :=
      outcome_run hr (hrun ▸ rfl)
    refine ⟨rfl, rfl, hany, db', hrecord, d', hd', hid'.trans hid, ?_⟩
    refine hpace.status.trans ((if_neg ?_).trans hreceived)
    unfold retryable
    rw [hreceived]
    exact Bool.false_ne_true
  · cases h

theorem finish_recorded {is_qa : Bool} {r : DeliveryReceipt} {events : List Event}
    (hrecord : record_receipt cfg db env c is_qa r = .ok (some db'))
    (h : w.finish cfg db env c is_qa r events = some w') : w'.db = db' := by
  unfold World.finish at h
  rw [hrecord] at h
  obtain ⟨-, rfl⟩ := World.commit_eq_some.mp h
  rfl

/-- What is submitted is received by its agent. -/
theorem submits_row {agent : String} (hc : Verified cfg w l) (h : step cfg w l = some w')
    (hs : w.submits cfg l = some (id, agent)) :
    ∃ d ∈ w'.db.deliveries, d.id = id ∧ d.status = .received ∧ d.agent_id = agent := by
  have hrow : ∀ {c : Call} {d' : Delivery}, w.call l = some c →
      (∀ endpoint req env seen, l ≠ .request endpoint req env seen) →
      w.db.deliveries.rows.any (owns_claim c) = true → d' ∈ w'.db.deliveries →
      d'.id = c.row.delivery.id → d'.agent_id = c.row.delivery.agent_id := by
    intro c d' hcall hl howns hd' hid'
    obtain ⟨d, hd, howns⟩ := List.any_eq_true.mp howns
    obtain ⟨q, hq, hqid, hagent⟩ := agent_kept hl hd h
    obtain rfl := Table.eq_of_key hq hd' (hqid.trans ((owns_claim_iff.mp howns).1.trans hid'.symm))
    exact hagent.trans (hc.agent c hcall d hd howns)
  cases l with
  | hand_over token env seen r =>
    have hstep := h
    simp only [step, Option.bind_eq_bind, Option.bind_eq_some_iff] at hstep
    obtain ⟨c, hcall, _, hr, hstep⟩ := hstep
    have hcall : w.call (.hand_over token env seen r) = some c := hcall
    simp only [World.submits, hcall, Option.bind_eq_bind, Option.bind_some] at hs
    unfold World.hand_over at hstep
    dsimp only at hstep
    split at hs
    · rename_i session hlane
      obtain ⟨rfl, rfl, howns, db', hrecord, d', hd', hid', hreceived⟩ :=
        submission_received ((Option.guard_eq_some' _).mp hr) hs
      rw [hlane] at hstep
      have hdb := finish_recorded hrecord hstep
      rw [← hdb] at hd'
      exact ⟨d', hd', hid', hreceived, hrow hcall (fun _ _ _ _ => Label.noConfusion)
        (write_session_owns howns) hd' hid'⟩
    · cases hs
  | record token env r =>
    have hstep := h
    simp only [step, Option.bind_eq_bind, Option.bind_eq_some_iff] at hstep
    obtain ⟨c, hcall, _, hr, hstep⟩ := hstep
    have hcall : w.call (.record token env r) = some c := hcall
    simp only [World.submits, hcall, Option.bind_eq_bind, Option.bind_some] at hs
    obtain ⟨rfl, rfl, howns, db', hrecord, d', hd', hid', hreceived⟩ :=
      submission_received ((Option.guard_eq_some' _).mp hr) hs
    have hdb := finish_recorded hrecord hstep
    rw [← hdb] at hd'
    exact ⟨d', hd', hid', hreceived, hrow hcall (fun _ _ _ _ => Label.noConfusion) howns hd' hid'⟩
  | _ => cases hs

/-- The delivery of each run that goes on is received. -/
def Manned.Held (s : Manned) : Prop := ∀ id agent, s.running id = some agent →
  ∃ d ∈ s.world.db.deliveries, d.id = id ∧ d.status = .received ∧ d.agent_id = agent

theorem held_step (h : s.Held) (hc : Verified cfg s.world l) (hs : (manned cfg).step s l = some s') :
    s'.Held := by
  obtain ⟨w', hstep, rfl⟩ := Option.map_eq_some_iff.mp hs
  intro id agent hrunning
  dsimp only at hrunning ⊢
  unfold run_on at hrunning
  split at hrunning
  · rename_i p hp
    obtain ⟨hsubmits, hid⟩ := Option.filter_eq_some_iff.mp hp
    obtain ⟨d, hd, hdid, hreceived, hagent⟩ := submits_row hc hstep hsubmits
    exact ⟨d, hd, hdid.trans (beq_iff_eq.mp hid), hreceived, hagent.trans (Option.some.inj hrunning)⟩
  · split at hrunning
    · cases hrunning
    · rename_i hends
      obtain ⟨d, hd, hid, hreceived, hagent⟩ := h id agent hrunning
      rcases run_step hc hd hreceived hstep with ⟨d', hd', hid', hsame⟩ | hended
      · exact ⟨d', hd', hid'.trans hid, hsame.received, hsame.agent_id.trans hagent⟩
      · exact absurd (hid ▸ hended) hends

theorem inductive_held (cfg : Config) :
    (manned cfg).InductiveIf (fun s l => Verified cfg s.world l) Manned.Held where
  init s hs id agent hrunning := by
    rw [hs.2 id] at hrunning
    cases hrunning
  step _ _ _ h hc hs := held_step h hc hs

/-- In every run in which a delivery that is received ends only as its adapter says, and its agent is busy
before: a call that is handed over goes to an agent without a run. -/
theorem one_run_per_agent (hreach : (manned cfg).ReachableIf (fun s l => Verified cfg s.world l) s)
    (hc : Verified cfg s.world l) (hhands : s.world.hands cfg l = some c) (id : String) :
    s.running id ≠ some c.row.delivery.agent_id := by
  intro hrunning
  obtain ⟨d, hd, -, hreceived, hagent⟩ := (inductive_held cfg).reachable hreach id _ hrunning
  obtain ⟨hfree, hnew⟩ := hc.free c hhands
  by_cases hid : d.id = c.row.delivery.id
  · exact hnew d hd hid hreceived
  · have hbusy : busy s.world.db c.row.delivery = true := by
      refine List.any_eq_true.mpr ⟨d, hd, ?_⟩
      rw [hagent, beq_self_eq_true, sent_of_received hreceived, Bool.true_and, Bool.and_true, bne_iff_ne]
      exact hid
    rw [hfree] at hbusy
    cases hbusy

namespace Sample

/-- No run goes on yet. -/
def unmanned : Manned := ⟨world, fun _ => none⟩

/-- The task `t` is stopped, with this receipt. -/
def stop_answered (status : String) (now : Int) : Label :=
  .request (.stop_task "t") (request "stop" "task_stop" "t" now (body [("reason", .str "over")]))
    { outside now [""] with stop_receipt := fun _ => ⟨status, none, none, none, none⟩ } latest

/-- The task `t2` and its instruction `m2` are prepared for the agent of `t`. -/
def prepare_other : Label :=
  .request (.prepare_task "p") (request "prepare2" "" "" 7 (body [("instruction", .str "more"),
    ("agent_ids", .arr [.str "dev"]), ("deadline_at", .int 1000), ("document_version", .str "v1")]))
    (outside 7 ["t2", "m2", ""]) latest

def execute_other : Label :=
  .request (.approve_and_execute_task "t2") (request "a2" "task_approve_execute" "t2" 8 approval)
    (outside 8 ["a2", "", "d2"]) latest

/-- The agent has a run. -/
def submitted : List Label :=
  [prepare, execute, claim "d" "c" 2, hand "c" 2 (answer ""), ended "c" 3 (accepted "run")]

/-- Its stop has this receipt, and the agent gets another delivery. -/
def replaced_run (status : String) : List Label :=
  submitted ++ [stop_answered status 6, prepare_other, execute_other, claim "d2" "c2" 9]

end Sample

open Sample in
/-- The agent of a run whose stop has failed gets another delivery. -/
theorem left_running :
    (manned (config false)).Reachable ((manned (config false)).after unmanned (replaced_run "failed")) ∧
    ((manned (config false)).step ((manned (config false)).after unmanned (replaced_run "failed"))
      (hand "c2" 9 (answer ""))).isSome = true ∧
    ¬ ∀ c ∈ ((manned (config false)).after unmanned (replaced_run "failed")).world.hands (config false)
      (hand "c2" 9 (answer "")), ∀ id,
        ((manned (config false)).after unmanned (replaced_run "failed")).running id ≠
          some c.row.delivery.agent_id := by
  have hinit : (manned (config false)).init unmanned := ⟨init _, fun _ => rfl⟩
  refine ⟨Machine.reachable_after hinit _, by decide +kernel, fun h => ?_⟩
  have hagent : (((manned (config false)).after unmanned (replaced_run "failed")).world.hands (config false)
      (hand "c2" 9 (answer ""))).map (fun c => c.row.delivery.agent_id) = some "dev" := by decide +kernel
  obtain ⟨c, hc, hdev⟩ := Option.map_eq_some_iff.mp hagent
  refine h c hc "d" ?_
  rw [hdev]
  decide +kernel

open Sample in
theorem one_run_per_agent_sample :
    ((manned (config false)).after unmanned (replaced_run "stopped")).running "d" ≠ some "dev" := by
  have hinit : (manned (config false)).init unmanned := ⟨init _, fun _ => rfl⟩
  have hagent : (((manned (config false)).after unmanned (replaced_run "stopped")).world.hands (config false)
      (hand "c2" 9 (answer ""))).map (fun c => c.row.delivery.agent_id) = some "dev" := by decide +kernel
  obtain ⟨c, hc, hdev⟩ := Option.map_eq_some_iff.mp hagent
  rw [← hdev]
  exact one_run_per_agent (Machine.reachableIf_after hinit (by decide +kernel)) (by decide +kernel) hc "d"

end WarRoom

end Plachem
