import PlachemMonitor.WarRoom.History

/-!
# The results of deliveries

A delivery that has responded keeps its status and its response, until the review that it was for is
resumed: `resume_qa` archives the row and deletes it (`responded_stable`). A deadline or a stop
changes no delivery that is over (`inactive_stable`).

Some statements write a row by its id alone, whatever has become of it since it was read. `Guarded`
asks that these rows are still open.
-/

namespace Plachem

namespace WarRoom

/-- The rows that the step writes by their ids are still such that it may write them. -/
structure Guarded (cfg : Config) (w : World) (l : Label) : Prop where
  /-- The stop of the worker. -/
  targets : ∀ project_id deadline ids env seen,
    l = .request_project_stop project_id deadline ids env seen →
    ∀ q ∈ stop_targets (w.view seen .deliveries) project_id ids, ∀ d ∈ w.db.deliveries,
    d.id = q.id → d.active = true
  /-- The deliveries that `stop_task` has seen waiting. -/
  waiting : ∀ task_id req env seen, l = .request (.stop_task task_id) req env seen →
    ∀ task, w.read seen task_id = some task →
    ∀ q ∈ waiting_deliveries (w.view seen .deliveries) task, ∀ d ∈ w.db.deliveries,
    d.id = q.id → d.active = true
  /-- The delivery whose deadline has passed. -/
  overdue : ∀ id env seen, l = .process id env seen →
    ∀ row, delivery_row (w.view seen .deliveries) id = some row →
    (∃ n ∈ row.delivery.deadline_at, n ≤ env.now) → ∀ d ∈ w.db.deliveries, d.id = id →
    d.active = true
  /-- The delivery whose binding is missing. -/
  binding : ∀ id env seen poll, l = .recover id env seen poll →
    ∀ row, delivery_row (w.view seen .deliveries) id = some row →
    lacks_binding cfg (w.view seen) env row = true → ∀ d ∈ w.db.deliveries, d.id = id →
    d.active = true
  retry : ∀ id, ((∃ req env seen, l = .request (.retry_delivery id) req env seen) ∨
    ∃ env seen, l = .request_delivery_retry id env seen) → ∀ d ∈ w.db.deliveries, d.id = id →
    d.status ≠ .responded

/-- The step may be a deadline that passes, or a stop. -/
def Label.bars : Label → Prop
  | .process _ _ _ => True
  | .recover _ _ _ _ => True
  | .request_project_stop _ _ _ _ _ => True
  | .request (.stop_project _) _ _ _ => True
  | .request (.stop_task _) _ _ _ => True
  | .request (.approve_and_execute_task _) _ _ _ => True
  | _ => False

variable {cfg : Config} {w w' : World} {l : Label} {a b db : DB} {d d' d₀ : Delivery}

/-! ## Statements -/

theorem sent_active (h : d.sent = true) : d.active = true := by
  simp only [Delivery.sent, Bool.or_eq_true] at h
  simp only [Delivery.active, Bool.or_eq_true]
  exact h.elim (fun h => .inl (.inr h)) .inr

theorem queued_active (h : d.status = .queued) : d.active = true := by
  simp [Delivery.active, h]

theorem received_active (h : d.status = .received) : d.active = true := by
  simp [Delivery.active, h]

/-- What a statement can do to a delivery that is over. -/
theorem DeliveryMove.inactive (hc : Guarded cfg w l) (h : DeliveryMove cfg w l db d d')
    (h₀ : d₀ ∈ w.db.deliveries) (hid : d.id = d₀.id) (ha : d.active = false)
    (ha₀ : d₀.active = false) :
    (∃ session : String × String, d' = { d with
      session_key := some session.1, session_id := some session.2 } ∧
      ∃ token env seen r, l = .hand_over token env seen r) ∨
    ((∃ req env seen, l = .request (.retry_delivery d.id) req env seen) ∨
      ∃ env seen, l = .request_delivery_retry d.id env seen) := by
  have hover : d.active ≠ true := by simp [ha]
  have hover₀ : d₀.active ≠ true := by simp [ha₀]
  cases h with
  | project_barred now hqueued => exact absurd (queued_active hqueued) hover
  | project_answered r now hsent => exact absurd (sent_active hsent) hover
  | task_barred now hread hq hqid hd =>
    exact absurd (hc.waiting _ _ _ _ rfl _ hread _ hq d₀ h₀ (hid.symm.trans hqid.symm)) hover₀
  | task_answered r now hsent => exact absurd (sent_active hsent) hover
  | worker_answered r hq hqid =>
    exact absurd (hc.targets _ _ _ _ _ rfl _ hq d₀ h₀ (hid.symm.trans hqid.symm)) hover₀
  | reclaimed hagent hactive => exact absurd hactive hover
  | @retried req env seen => exact .inr (.inl ⟨req, env, seen, rfl⟩)
  | @requeued env seen => exact .inr (.inr ⟨env, seen, rfl⟩)
  | bypassed now hqueued => exact absurd (queued_active hqueued) hover
  | dismissed now _ hqueued => exact absurd (queued_active hqueued) hover
  | overdue now hd hrow _ hdeadline =>
    exact absurd (hc.overdue _ _ _ rfl _ hrow hdeadline d₀ h₀ (hid.symm.trans hd)) hover₀
  | postponed _ hqueued => exact absurd (queued_active hqueued) hover
  | claimed _ hrow hclaimable =>
    refine absurd ?_ hover
    simp only [Delivery.claimable, Delivery.claim_expired, Bool.or_eq_true, Bool.and_eq_true,
      beq_iff_eq] at hclaimable
    rcases hclaimable with h | h
    · exact queued_active h
    · exact sent_active (by simp [Delivery.sent, h.1.1])
  | @bound token env seen r _ _ c session =>
    exact .inl ⟨session, rfl, token, env, seen, r, rfl⟩
  | recorded o r now hcall howns => exact absurd (sent_active (owns_claim_sent howns)) hover
  | answered message_id hrow hd _ hsent =>
    obtain ⟨q, hq, hqid, hsent⟩ := hsent
    obtain rfl : q = d₀ := Table.eq_of_key hq h₀ (hqid.trans hid)
    exact absurd (sent_active hsent) hover₀
  | cancelled hrow _ _ _ hqueued => exact absurd (queued_active hqueued) hover
  | unbound error_code now hd hrow hlacks =>
    exact absurd (hc.binding _ _ _ _ rfl _ hrow hlacks d₀ h₀ (hid.symm.trans hd)) hover₀
  | expired _ hreceived => exact absurd (received_active hreceived) hover
  | polled o message_id session_id now _ hreceived => exact absurd (received_active hreceived) hover

/-- The delivery is as it was, up to its session. -/
def Delivery.same_result (d d' : Delivery) : Prop :=
  d'.status = d.status ∧ d'.responded_at = d.responded_at ∧
    d'.response_message_id = d.response_message_id

theorem Delivery.same_result.trans {d'' : Delivery} (h : d.same_result d')
    (h' : d'.same_result d'') : d.same_result d'' :=
  ⟨h'.1.trans h.1, h'.2.1.trans h.2.1, h'.2.2.trans h.2.2⟩

/-- The delivery is in the tables with its result. -/
def Kept (d : Delivery) (db : DB) : Prop := ∃ d' ∈ db.deliveries, d'.id = d.id ∧ d.same_result d'

/-- The step resumes the review that the delivery was for; the row is archived. -/
def Resumed (d : Delivery) (l : Label) (db : DB) : Prop :=
  ∃ task_id, (∃ req env seen, l = .request (.resume_task_qa task_id) req env seen) ∧
    ∃ d', d'.id = d.id ∧ d.same_result d' ∧
      ∃ r ∈ db.attempts, r.stage = "QA_RETRY" ∧ r.delivery_id = d.id ∧ r.record = some d'

theorem write_attempts (h : Write cfg w l a b) : ∀ r ∈ a.attempts, r ∈ b.attempts := by
  cases h with
  | others projects participants runs units attempts revalidations hattempts => exact hattempts
  | _ => exact fun _ => id

theorem kept_write (hc : Guarded cfg w l) (h₀ : d₀ ∈ w.db.deliveries) (hs : d₀.status = .responded)
    (h : Write cfg w l a b) (ha : Kept d₀ a ∨ Resumed d₀ l a) : Kept d₀ b ∨ Resumed d₀ l b := by
  have hover : ∀ d : Delivery, d.status = .responded → d.active = false :=
    fun d h => by simp [Delivery.active, h]
  rcases ha with ⟨d, hd, hid, hsame⟩ | ⟨task_id, hl, d, hid, hsame, r, hr, hrest⟩
  · have hresponded : d.status = .responded := hsame.1.trans hs
    rcases h.delivery_forth hd with ⟨d', hd', hid', rfl | hmove⟩ | ⟨t, ht, hl, -, -, -, -, -, harchive⟩
    · exact .inl ⟨d', hd', hid, hsame⟩
    · rcases hmove.inactive hc h₀ hid (hover d hresponded) (hover d₀ hs) with ⟨session, rfl, -⟩ | hretry
      · exact .inl ⟨_, hd', hid, hsame⟩
      · exact absurd hs (hc.retry d.id hretry d₀ h₀ hid.symm)
    · obtain ⟨r, hr, hstage, hrid, hrecord⟩ := harchive
      exact .inr ⟨t.id, hl, d, hid, hsame, r, hr, hstage, hrid.trans hid, hrecord⟩
  · exact .inr ⟨task_id, hl, d, hid, hsame, r, write_attempts h r hr, hrest⟩

/-- A deadline or a stop leaves a delivery that is over as it is. -/
theorem inactive_write (hc : Guarded cfg w l) (hl : l.bars) (h₀ : d₀ ∈ w.db.deliveries)
    (hs : d₀.active = false) (h : Write cfg w l a b) (ha : d₀ ∈ a.deliveries) : d₀ ∈ b.deliveries := by
  rcases h.delivery_forth ha with ⟨d', hd', -, rfl | hmove⟩ | ⟨t, -, ⟨req, env, seen, rfl⟩, -⟩
  · exact hd'
  · rcases hmove.inactive hc h₀ rfl hs hs with
      ⟨-, -, token, env, seen, r, rfl⟩ | ⟨req, env, seen, rfl⟩ | ⟨env, seen, rfl⟩
    · exact hl.elim
    · exact hl.elim
    · exact hl.elim
  · exact hl.elim

/-! ## Runs -/

/-- On the way from `w` to `w'` the review that the delivery was for is resumed, and the delivery has
kept its result until then. -/
def Removed (cfg : Config) (d : Delivery) (w : World) (as : List Label) (w' : World) : Prop :=
  ∃ before l rest w₁ w₂, as = before ++ l :: rest ∧
    (warRoom cfg).Steps (Guarded cfg) w before w₁ ∧ step cfg w₁ l = some w₂ ∧
    (warRoom cfg).Steps (Guarded cfg) w₂ rest w' ∧ Kept d w₁.db ∧ Resumed d l w₂.db

theorem kept_run {as : List Label} (run : (warRoom cfg).Steps (Guarded cfg) w as w')
    (hs : d.status = .responded) (h : Kept d w.db) : Kept d w'.db ∨ Removed cfg d w as w' := by
  induction run with
  | refl => exact .inl h
  | @cons w w₁ w' l as hc hstep hrest ih =>
    have hkept := h
    obtain ⟨d₀, hd₀, hid, hsame⟩ := h
    have hnext : Kept d₀ w₁.db ∨ Resumed d₀ l w₁.db :=
      (step_writes hstep).keeps (fun _ _ => kept_write hc hd₀ (hsame.1.trans hs))
        (.inl ⟨d₀, hd₀, rfl, rfl, rfl, rfl⟩)
    rcases hnext with ⟨d₁, hd₁, hid₁, hsame₁⟩ | ⟨task_id, hl, d₁, hid₁, hsame₁, r, hr, hstage, hrid, hrest'⟩
    · rcases ih ⟨d₁, hd₁, hid₁.trans hid, hsame.trans hsame₁⟩ with
        hend | ⟨before, b, rest, w₂, w₃, rfl, hbefore, hb, hafter, hremoved⟩
      · exact .inl hend
      · exact .inr ⟨l :: before, b, rest, w₂, w₃, rfl, .cons hc hstep hbefore, hb, hafter, hremoved⟩
    · exact .inr ⟨[], l, as, w, w₁, rfl, .refl w, hstep, hrest, hkept, task_id, hl, d₁,
        hid₁.trans hid, hsame.trans hsame₁, r, hr, hstage, hrid.trans hid, hrest'⟩

/-- A deadline or a stop changes only deliveries that are queued, sent or received. -/
theorem inactive_stable (hc : Guarded cfg w l) (hl : l.bars) (h : step cfg w l = some w')
    (hd : d ∈ w.db.deliveries) (ha : d.active = false) : d ∈ w'.db.deliveries :=
  (step_writes h).keeps (fun _ _ => inactive_write hc hl hd ha) hd

namespace Sample

/-- The review has responded, and what it says fails the check of the evidence. -/
def reviewed : World :=
  after (config false) [prepare, execute, claim "d" "c" 2, hand "c" 3 (answer ""),
    ended "c" 4 (answer "PASS"), claim "" "q" 5,
    .hand_over "q" { outside 5 [] with evidence_error := some "EVIDENCE" } latest (answer "PASS")]

def resume : Label :=
  .request (.resume_task_qa "t") (request "resume" "task_resume_qa" "t" 6 .empty)
    (outside 6 ["", "", "d2", "s"]) latest

/-- The review is resumed. -/
def resumed : World :=
  after (config false) [prepare, execute, claim "d" "c" 2, hand "c" 3 (answer ""),
    ended "c" 4 (answer "PASS"), claim "" "q" 5,
    .hand_over "q" { outside 5 [] with evidence_error := some "EVIDENCE" } latest (answer "PASS"),
    resume]

end Sample

end WarRoom

end Plachem
