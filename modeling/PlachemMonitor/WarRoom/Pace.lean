import Mathlib.Algebra.Order.Ring.Int
import PlachemMonitor.WarRoom.Answers
import PlachemMonitor.WarRoom.Claims
import PlachemMonitor.WarRoom.Responses

/-!
# When a delivery is attempted

`watched` is the War Room with the clock readings of the calls of `adapter.deliver`. A pass reads the
clock once: what it does with a row that it has claimed has the reading of the claim.

* `Orderly cfg id w l`: the step does with the delivery only what the rule foresees.
* `Paced id s`: the delivery has had at most as many attempts as it may have, with the pauses between.
* `paced_step`, `inductive_paced`: orderly steps keep it.
-/

namespace Plachem

namespace WarRoom

/-! ## Watching -/

/-- The delivery that the step hands to its adapter, and the reading of the clock. -/
def World.delivers (cfg : Config) (w : World) : Label → Option (String × Int)
  | .hand_over token env seen r => do
    let c ← w.call (.hand_over token env seen r)
    match lane cfg env c.row (c.row.is_qa_delivery (w.view seen .task)) with
    | .refused _ _ => none
    | _ => some (c.row.delivery.id, env.now)
  | _ => none

/-- The reading is that of the claim of the call. -/
def World.reads (w : World) (c : Option Call) (now : Int) : Bool :=
  c.all fun c => w.db.deliveries.rows.all fun d =>
    !owns_claim c d || d.claim_expires_at == some (now + 30)

/-- A pass goes on with the reading of the clock that it has begun with. -/
def World.in_pass (w : World) : Label → Bool
  | .hand_over token env seen r => w.reads (w.call (.hand_over token env seen r)) env.now
  | .record token env r => w.reads (w.call (.record token env r)) env.now
  | _ => true

/-- The delivery was archived, as its review was resumed. -/
def Archived (id : String) (db : DB) : Prop :=
  ∃ a ∈ db.attempts, a.stage = "QA_RETRY" ∧ a.delivery_id = id

/-- `uuid4` does not give the id of an archived delivery again. -/
def archived_once (db : DB) : Bool :=
  db.attempts.rows.all fun a => a.stage != "QA_RETRY" ||
    db.deliveries.rows.all fun d => d.id != a.delivery_id

/-- A world, with the readings of the clock with which each delivery was handed to an adapter. -/
structure Watched where
  world : World
  delivered : String → List Int

/-- The readings after one more. -/
def note (delivered : String → List Int) : Option (String × Int) → String → List Int
  | some (id, now), id' => if id' = id then delivered id' ++ [now] else delivered id'
  | none, id' => delivered id'

/-- The War Room, watched. -/
def watched (cfg : Config) : Machine Watched Label where
  init s := (warRoom cfg).init s.world ∧ ∀ id, s.delivered id = []
  step s l := do
    guard (s.world.in_pass l)
    let w ← step cfg s.world l
    guard (archived_once w.db)
    some ⟨w, note s.delivered (s.world.delivers cfg l)⟩

/-! ## The rule -/

/-- The attempts that the delivery may have: `int(row["max_attempts"] or 3)`. -/
def Delivery.limit (d : Delivery) : Nat := if d.max_attempts = 0 then 3 else d.max_attempts

/-- The pause after the attempt `k`. -/
def backoff (k : Nat) : Int := min 60 (2 ^ k)

/-- The retry `k` comes with the pause after the attempt `k`. -/
def Spaced (times : List Int) : Prop :=
  ∀ k t t', times[k]? = some t → times[k + 1]? = some t' → t + backoff (k + 1) ≤ t'

/-- The delivery is over. -/
def Delivery.final (d : Delivery) : Prop := d.status ∈ [.failed, .timed_out, .stopped, .responded]

/-- The result is invalid, or its validation has failed. -/
def Outcome.breaks_contract (o : Outcome) : Prop :=
  is_failure o.status = true ∧ (o.invalid = true ∨
    ∃ m ∈ ["_VALIDATION_FAILED", "RESULT_VALIDATION_REQUIRED", "SCOPE_VIOLATION"],
      isPart m (o.error_code.getD "") = true)

/-- The step is one of `process_due_deliveries`. -/
def Label.of_pass : Label → Prop
  | .process _ _ _ | .hand_over _ _ _ _ | .record _ _ _ => True
  | _ => False

/-- The outcome that the step hears of a delivery. -/
def World.outcome (cfg : Config) (w : World) : Label → Option (String × Outcome)
  | .hand_over token env seen r => do
    let c ← w.call (.hand_over token env seen r)
    let heard ← w.heard cfg (.hand_over token env seen r)
    some (heard.1, call_outcome cfg w.db c (c.row.is_qa_delivery (w.view seen .task)) heard.2)
  | .record token env r => do
    let c ← w.call (.record token env r)
    let heard ← w.heard cfg (.record token env r)
    some (heard.1, call_outcome cfg w.db c (c.delivering.getD false) heard.2)
  | .recover id env seen (.run r) => do
    let row ← delivery_row (w.view seen .deliveries) id
    let heard ← w.heard cfg (.recover id env seen (.run r))
    let status ← receipt_status r.status
    some (heard.1, poll_outcome cfg w.db row (row.is_qa_delivery (w.view seen .task)) status r)
  | _ => none

/-! ## The condition -/

/-- The delivery that is retried by hand. -/
def Label.retries : Label → Option String
  | .request (.retry_delivery id) _ _ _ => some id
  | .request_delivery_retry id _ _ => some id
  | _ => none

/-- The row that a pass has its turn with, and the reading of the pass. -/
def World.turn (w : World) : Label → Option (DeliveryRow × Int)
  | .process id env seen => (delivery_row (w.view seen .deliveries) id).map fun row => (row, env.now)
  | _ => none

/-- The call that is handed over. -/
def World.handing (w : World) : Label → Option Call
  | .hand_over token env seen r => w.call (.hand_over token env seen r)
  | _ => none

/-- The delivery waits, as it was read. -/
structure Delivery.AsRead (d q : Delivery) : Prop where
  queued : d.status = .queued
  retry_count : d.retry_count = q.retry_count
  next_attempt_at : d.next_attempt_at = q.next_attempt_at
  max_attempts : d.max_attempts = q.max_attempts

/-- A failed validation has a code that says what has failed. -/
def Outcome.Coded (o : Outcome) : Prop :=
  isPart "_VALIDATION_FAILED" (o.error_code.getD "") = true →
    isPart "_VALIDATION_FAILED:" (o.error_code.getD "") = true

/-- The step does with the delivery `id` only what the rule foresees. -/
structure Orderly (cfg : Config) (id : String) (w : World) (l : Label) : Prop where
  /-- There is no retry by hand. -/
  retry : l.retries ≠ some id
  /-- A row that is claimed, or overdue, still waits as it was read. -/
  turn : ∀ p ∈ w.turn l, p.1.delivery.id = id → ∀ d ∈ w.db.deliveries.find id,
    d.claimable p.2 = true ∨ p.1.delivery.deadline_at.any (decide <| · ≤ p.2) = true →
      d.AsRead p.1.delivery
  /-- A row that is handed over is still the one of its claim. -/
  handing : ∀ c ∈ w.handing l, c.row.delivery.id = id → w.db.deliveries.rows.any (owns_claim c) = true
  coded : ∀ o ∈ w.outcome cfg l, o.1 = id → o.2.Coded

instance (d q : Delivery) : Decidable (d.AsRead q) :=
  decidable_of_iff (d.status = .queued ∧ d.retry_count = q.retry_count ∧
      d.next_attempt_at = q.next_attempt_at ∧ d.max_attempts = q.max_attempts)
    ⟨fun h => ⟨h.1, h.2.1, h.2.2.1, h.2.2.2⟩,
      fun h => ⟨h.queued, h.retry_count, h.next_attempt_at, h.max_attempts⟩⟩

instance (o : Outcome) : Decidable o.Coded := by
  unfold Outcome.Coded
  infer_instance

instance (cfg : Config) (id : String) (w : World) (l : Label) : Decidable (Orderly cfg id w l) :=
  decidable_of_iff (l.retries ≠ some id ∧
      (∀ p ∈ w.turn l, p.1.delivery.id = id → ∀ d ∈ w.db.deliveries.find id,
        d.claimable p.2 = true ∨ p.1.delivery.deadline_at.any (decide <| · ≤ p.2) = true →
          d.AsRead p.1.delivery) ∧
      (∀ c ∈ w.handing l, c.row.delivery.id = id →
        w.db.deliveries.rows.any (owns_claim c) = true) ∧
      ∀ o ∈ w.outcome cfg l, o.1 = id → o.2.Coded)
    ⟨fun h => ⟨h.1, h.2.1, h.2.2.1, h.2.2.2⟩, fun h => ⟨h.retry, h.turn, h.handing, h.coded⟩⟩

variable {cfg : Config} {id : String} {w w' : World} {l : Label} {a b db db' : DB} {d d' q : Delivery}
  {s s' : Watched} {env : Env} {row : DeliveryRow} {c : Call}

/-! ## Pauses -/

theorem backoff_nonneg (k : Nat) : 0 ≤ backoff k :=
  le_min (by decide) (pow_nonneg (by decide) k)

theorem backoff_mono {k j : Nat} (h : k ≤ j) : backoff k ≤ backoff j :=
  min_le_min_left _ (pow_le_pow_right₀ (by decide) h)

/-- One more attempt, after its pause. -/
theorem Spaced.concat {times : List Int} {t : Int} (h : Spaced times)
    (hlast : ∀ x ∈ times.getLast?, x + backoff times.length ≤ t) : Spaced (times ++ [t]) := by
  intro k x x' hx hx'
  rcases Nat.lt_trichotomy (k + 1) times.length with hlt | heq | hgt
  · rw [List.getElem?_append_left (by omega)] at hx
    rw [List.getElem?_append_left hlt] at hx'
    exact h k x x' hx hx'
  · rw [List.getElem?_append_left (by omega)] at hx
    have hmem : x ∈ times.getLast? := by
      rw [List.getLast?_eq_getElem?, ← heq]
      exact hx
    rw [heq, List.getElem?_concat_length] at hx'
    have hpause := hlast x hmem
    rw [← heq] at hpause
    rwa [← Option.some.inj hx']
  · rw [List.getElem?_eq_none (by rw [List.length_append, List.length_singleton]; omega)] at hx'
    cases hx'

/-! ## Steps on other rows -/

/-- What decides on the attempts of the delivery is the same. -/
structure Delivery.SamePace (d d' : Delivery) : Prop where
  status : d'.status = d.status
  retry_count : d'.retry_count = d.retry_count
  max_attempts : d'.max_attempts = d.max_attempts
  next_attempt_at : d'.next_attempt_at = d.next_attempt_at
  claim_token : d'.claim_token = d.claim_token
  claim_expires_at : d'.claim_expires_at = d.claim_expires_at

/-- No attempt of the delivery waits, or is under way. -/
def Delivery.idle (d : Delivery) : Prop := d.status ≠ .queued ∧ d.status ≠ .sent

/-- The delivery goes on as it was, or it is idle. -/
def Delivery.GoesOn (d d' : Delivery) : Prop :=
  d.SamePace d' ∨ d'.idle ∧ d'.max_attempts = d.max_attempts

namespace Delivery

theorem SamePace.refl (d : Delivery) : d.SamePace d := ⟨rfl, rfl, rfl, rfl, rfl, rfl⟩

theorem SamePace.trans (h : d.SamePace d') (h' : d'.SamePace q) : d.SamePace q where
  status := h'.status.trans h.status
  retry_count := h'.retry_count.trans h.retry_count
  max_attempts := h'.max_attempts.trans h.max_attempts
  next_attempt_at := h'.next_attempt_at.trans h.next_attempt_at
  claim_token := h'.claim_token.trans h.claim_token
  claim_expires_at := h'.claim_expires_at.trans h.claim_expires_at

theorem idle.congr (h : d.idle) (hsame : d.SamePace d') : d'.idle :=
  ⟨hsame.status ▸ h.1, hsame.status ▸ h.2⟩

theorem SamePace.limit (h : d.SamePace d') : d'.limit = d.limit := by
  unfold Delivery.limit
  rw [h.max_attempts]

theorem GoesOn.refl (d : Delivery) : d.GoesOn d := .inl (.refl d)

theorem GoesOn.trans (h : d.GoesOn d') (h' : d'.GoesOn q) : d.GoesOn q := by
  rcases h' with hsame | ⟨hidle, hmax⟩
  · rcases h with h | ⟨hidle, hmax⟩
    · exact .inl (h.trans hsame)
    · exact .inr ⟨hidle.congr hsame, hsame.max_attempts.trans hmax⟩
  · refine .inr ⟨hidle, hmax.trans ?_⟩
    rcases h with h | ⟨-, h⟩
    · exact h.max_attempts
    · exact h

theorem GoesOn.limit (h : d.GoesOn d') : d'.limit = d.limit := by
  unfold Delivery.limit
  rcases h with h | ⟨-, h⟩
  · rw [h.max_attempts]
  · rw [h]

end Delivery

/-- The delivery is there, and so, or it is archived. -/
def Stands (id : String) (P : Delivery → Prop) (db : DB) : Prop :=
  (∃ d ∈ db.deliveries, d.id = id ∧ P d) ∨ Archived id db

/-- The delivery was archived, and is not there any longer. -/
def Gone (id : String) (db : DB) : Prop := (∀ d ∈ db.deliveries, d.id ≠ id) ∧ Archived id db

/-- The step neither claims the delivery, nor ends a call of it, nor retries it. -/
structure Elsewhere (id : String) (w : World) (l : Label) : Prop where
  retry : l.retries ≠ some id
  turn : ∀ env seen, l ≠ .process id env seen
  call : ∀ c ∈ w.call l, c.row.delivery.id ≠ id

theorem stop_status_idle (r : DeliveryReceipt) : stop_status r ≠ .queued ∧ stop_status r ≠ .sent := by
  unfold stop_status
  split
  · exact ⟨DeliveryStatus.noConfusion, DeliveryStatus.noConfusion⟩
  · split <;> exact ⟨DeliveryStatus.noConfusion, DeliveryStatus.noConfusion⟩

theorem DeliveryMove.max_attempts (h : DeliveryMove cfg w l db d d') :
    d'.max_attempts = d.max_attempts := by
  cases h <;> rfl

theorem DeliveryMove.goes_on (he : Elsewhere id w l) (h : DeliveryMove cfg w l db d d') (hid : d.id = id) :
    d.GoesOn d' := by
  have hmax := h.max_attempts
  have hidle : ∀ {q : Delivery}, q.status = .stopped ∨ q.status = .failed ∨ q.status = .timed_out →
      q.idle := by
    rintro q (h | h | h) <;> exact ⟨by rw [h]; decide, by rw [h]; decide⟩
  subst hid
  cases h with
  | project_barred => exact .inr ⟨hidle (.inl rfl), hmax⟩
  | project_answered r => exact .inr ⟨stop_status_idle r, hmax⟩
  | task_barred => exact .inr ⟨hidle (.inl rfl), hmax⟩
  | task_answered r => exact .inr ⟨stop_status_idle r, hmax⟩
  | worker_answered r => exact .inr ⟨stop_status_idle r, hmax⟩
  | reclaimed => exact .inr ⟨hidle (.inr (.inr rfl)), hmax⟩
  | retried => exact absurd rfl he.retry
  | requeued => exact absurd rfl he.retry
  | bypassed => exact .inr ⟨hidle (.inr (.inl rfl)), hmax⟩
  | dismissed => exact .inr ⟨hidle (.inr (.inl rfl)), hmax⟩
  | overdue => exact .inr ⟨hidle (.inr (.inr rfl)), hmax⟩
  | postponed => exact .inl ⟨rfl, rfl, rfl, rfl, rfl, rfl⟩
  | claimed heq => exact absurd (by rw [heq]) (he.turn _ _)
  | bound session => exact .inl ⟨rfl, rfl, rfl, rfl, rfl, rfl⟩
  | recorded o r now hcall howns =>
    rw [owns_claim, Bool.and_eq_true, Bool.and_eq_true, beq_iff_eq] at howns
    exact absurd howns.1.1.symm (he.call _ hcall)
  | answered => exact .inl ⟨rfl, rfl, rfl, rfl, rfl, rfl⟩
  | cancelled => exact .inr ⟨hidle (.inr (.inl rfl)), hmax⟩
  | unbound => exact .inr ⟨hidle (.inr (.inl rfl)), hmax⟩
  | expired => exact .inr ⟨hidle (.inr (.inr rfl)), hmax⟩
  | polled o message_id session_id now _ _ hstatus =>
    simp only [List.mem_cons, List.not_mem_nil, or_false, not_or] at hstatus
    exact .inr ⟨⟨hstatus.1, hstatus.2.1⟩, hmax⟩

theorem Write.archived (h : Write cfg w l a b) (ha : Archived id a) : Archived id b := by
  obtain ⟨r, hr, hrest⟩ := ha
  exact ⟨r, write_attempts h r hr, hrest⟩

theorem Write.stands {P : Delivery → Prop} (he : Elsewhere id w l)
    (hP : ∀ {d d'}, P d → d.GoesOn d' → P d') (h : Write cfg w l a b) (ha : Stands id P a) :
    Stands id P b := by
  rcases ha with ⟨q, hq, hid, hPq⟩ | ha
  · rcases h.delivery_forth hq with ⟨q', hq', hid', hmove⟩ | ⟨t, -, -, -, -, -, -, -, r, hr, hstage, hrid, -⟩
    · refine .inl ⟨q', hq', hid'.trans hid, ?_⟩
      rcases hmove with rfl | hmove
      · exact hPq
      · exact hP hPq (hmove.goes_on he hid)
    · exact .inr ⟨r, hr, hstage, hrid.trans hid⟩
  · exact .inr (h.archived ha)

/-- A step elsewhere. -/
theorem stands_step (he : Elsewhere id w l) (hd : d ∈ w.db.deliveries) (hid : d.id = id)
    (h : step cfg w l = some w') : Stands id d.GoesOn w'.db :=
  (step_writes h).keeps (fun _ _ => Write.stands he fun h h' => h.trans h') (.inl ⟨d, hd, hid, .refl d⟩)

theorem archived_step (h : step cfg w l = some w') (ha : Archived id w.db) : Archived id w'.db :=
  (step_writes h).keeps (fun _ _ => Write.archived) ha

/-- An archived delivery is gone. -/
theorem Stands.present {P : Delivery → Prop} (h : Stands id P db) (honce : archived_once db = true) :
    (∃ d ∈ db.deliveries, d.id = id ∧ P d) ∨ Gone id db := by
  refine h.imp_right fun ha => ⟨fun d hd hid => ?_, ha⟩
  obtain ⟨r, hr, hstage, hrid⟩ := ha
  have hr' := List.all_eq_true.mp honce r hr
  rw [hstage, bne_self_eq_false, Bool.false_or] at hr'
  exact bne_iff_ne.mp (List.all_eq_true.mp hr' d hd) (hid.trans hrid.symm)

/-- The calls of the delivery after a step elsewhere. -/
theorem calls_elsewhere (htokens : Tokens w) (he : Elsewhere id w l) (h : step cfg w l = some w')
    (hc : c ∈ w'.calls) (hid : c.row.delivery.id = id) : c ∈ w.calls := by
  rcases step_calls_cases h hc with hold | ⟨id', env, seen, rfl, hrow, -⟩ |
    ⟨token, env, seen, r, c', rfl, hcall, q, hq, htoken, is_qa, rfl⟩
  · exact hold
  · obtain ⟨-, -, hid', -⟩ := delivery_row_eq_some hrow
    exact absurd (by rw [← hid', hid]) (he.turn env seen)
  · have hrow := htokens.unique q hq c' (mem_call hcall) htoken
    exact absurd (hrow ▸ hid) (he.call c' hcall)

/-- A step elsewhere does not deliver it. -/
theorem delivers_call {now : Int} (h : w.delivers cfg l = some (id, now)) :
    ∃ c ∈ w.handing l, c.row.delivery.id = id := by
  unfold World.delivers at h
  split at h
  · obtain ⟨c, hc, h⟩ := Option.bind_eq_some_iff.mp h
    refine ⟨c, hc, ?_⟩
    split at h
    · cases h
    · exact congrArg Prod.fst (Option.some.inj h)
  · cases h

theorem handing_call (h : c ∈ w.handing l) : w.call l = some c := by
  unfold World.handing at h
  split at h
  · exact h
  · cases h

theorem note_other {delivered : String → List Int} {hand : Option (String × Int)}
    (h : ∀ now, hand ≠ some (id, now)) : note delivered hand id = delivered id := by
  rcases hand with _ | ⟨id', now⟩
  · rfl
  · exact if_neg fun heq => h now (by rw [heq])

/-! ## The delivery on its way -/

/-- The delivery waits for its next attempt, after those at `times`. -/
structure Waits (times : List Int) (d : Delivery) : Prop where
  queued : d.status = .queued
  attempts : times.length ≤ d.retry_count
  below : d.retry_count < d.limit
  pause : ∀ x ∈ times.getLast?, ∃ at_ ∈ d.next_attempt_at, x + backoff d.retry_count ≤ at_

/-- The call has the counts of the row that is claimed at `t`; where it is not handed over yet, its attempt
is still to be counted. -/
structure Fits (times : List Int) (d : Delivery) (t : Int) (c : Call) : Prop where
  retry_count : c.row.delivery.retry_count = d.retry_count
  max_attempts : c.row.delivery.max_attempts = d.max_attempts
  waiting : c.delivering = none →
    times.length ≤ d.retry_count ∧ ∀ x ∈ times.getLast?, x + backoff d.retry_count ≤ t

/-- The delivery is claimed at `t`, and its calls fit. -/
structure Sent (calls : List Call) (times : List Int) (d : Delivery) (t : Int) : Prop where
  sent : d.status = .sent
  attempts : times.length ≤ d.retry_count + 1
  below : d.retry_count < d.limit
  claim : d.claim_expires_at = some (t + 30)
  last : ∀ x ∈ times.getLast?, x ≤ t
  calls : ∀ c ∈ calls, owns_claim c d = true → Fits times d t c

/-- Where the delivery is on its way. -/
def OnWay (calls : List Call) (times : List Int) (d : Delivery) : Prop :=
  Waits times d ∨ (∃ t, Sent calls times d t) ∨ d.idle ∧ times.length ≤ d.limit

/-- There was no such delivery so far. -/
def Unborn (id : String) (w : World) : Prop := ∀ k, ∀ d ∈ (w.ago k).deliveries, d.id ≠ id

/-- The delivery has had at most as many attempts as it may have, with the pauses between. -/
structure Paced (id : String) (s : Watched) : Prop where
  tokens : Tokens s.world
  read : Rows s.world
  spaced : Spaced (s.delivered id)
  row : Unborn id s.world ∧ s.delivered id = [] ∨
    (∃ d ∈ s.world.db.deliveries, d.id = id ∧ OnWay s.world.calls (s.delivered id) d) ∨
    Gone id s.world.db

theorem owns_claim_congr (hid : d'.id = d.id) (hsame : d.SamePace d') : owns_claim c d' = owns_claim c d := by
  unfold owns_claim
  rw [hid, hsame.status, hsame.claim_token]

theorem owns_claim_iff : owns_claim c d = true ↔
    d.id = c.row.delivery.id ∧ d.status = .sent ∧ d.claim_token = some c.token := by
  simp only [owns_claim, Bool.and_eq_true, beq_iff_eq, and_assoc]

/-- The row that a call owns is the one of its delivery. -/
theorem owner_of_any (hd : d ∈ db.deliveries) (hid : d.id = c.row.delivery.id)
    (h : db.deliveries.rows.any (owns_claim c) = true) : owns_claim c d = true := by
  obtain ⟨p, hp, howns⟩ := List.any_eq_true.mp h
  obtain rfl := Table.eq_of_key hd hp (hid.trans (owns_claim_iff.mp howns).1.symm)
  exact howns

theorem Waits.congr {times : List Int} (h : Waits times d) (hsame : d.SamePace d') : Waits times d' where
  queued := hsame.status.trans h.queued
  attempts := hsame.retry_count ▸ h.attempts
  below := by
    rw [hsame.retry_count, hsame.limit]
    exact h.below
  pause x hx := by
    rw [hsame.next_attempt_at, hsame.retry_count]
    exact h.pause x hx

theorem Fits.congr {times : List Int} {t : Int} (h : Fits times d t c) (hsame : d.SamePace d') :
    Fits times d' t c where
  retry_count := h.retry_count.trans hsame.retry_count.symm
  max_attempts := h.max_attempts.trans hsame.max_attempts.symm
  waiting := hsame.retry_count ▸ h.waiting

/-- A claimed row stays claimed, with the calls that own it. -/
theorem Sent.congr {calls calls' : List Call} {times times' : List Int} {t : Int}
    (h : Sent calls times d t) (hid : d'.id = d.id) (hsame : d.SamePace d')
    (hattempts : times'.length ≤ d.retry_count + 1) (hlast : ∀ x ∈ times'.getLast?, x ≤ t)
    (hcalls : ∀ c ∈ calls', owns_claim c d = true → Fits times' d t c) : Sent calls' times' d' t where
  sent := hsame.status.trans h.sent
  attempts := hsame.retry_count ▸ hattempts
  below := by
    rw [hsame.retry_count, hsame.limit]
    exact h.below
  claim := hsame.claim_expires_at.trans h.claim
  last := hlast
  calls c hc howns := (hcalls c hc (owns_claim_congr hid hsame ▸ howns)).congr hsame

/-- As many attempts as the delivery may have. -/
theorem OnWay.count {calls : List Call} {times : List Int} (h : OnWay calls times d) :
    times.length ≤ d.limit := by
  rcases h with hwaits | ⟨t, hsent⟩ | ⟨-, hcount⟩
  · exact hwaits.attempts.trans hwaits.below.le
  · exact hsent.attempts.trans hsent.below
  · exact hcount

/-- A step that leaves the pace of the row leaves it on its way. -/
theorem OnWay.congr {calls calls' : List Call} {times : List Int} (h : OnWay calls times d)
    (hid : d'.id = d.id) (hgoes : d.GoesOn d')
    (hcalls : ∀ c ∈ calls', c.row.delivery.id = d.id → c ∈ calls) : OnWay calls' times d' := by
  have hcount := hgoes.limit.symm ▸ h.count
  rcases hgoes with hsame | ⟨hidle, -⟩
  · rcases h with hwaits | ⟨t, hsent⟩ | ⟨hidle, -⟩
    · exact .inl (hwaits.congr hsame)
    · refine .inr (.inl ⟨t, hsent.congr hid hsame hsent.attempts hsent.last fun c hc howns => ?_⟩)
      exact hsent.calls c (hcalls c hc (owns_claim_iff.mp howns).1.symm) howns
    · exact .inr (.inr ⟨hidle.congr hsame, hcount⟩)
  · exact .inr (.inr ⟨hidle, hcount⟩)

/-! ## Claims -/

/-- The row that the statement may be for. -/
theorem update_row {T : Table Delivery Delivery.id} {cond : Delivery → Bool} {f : Delivery → Delivery}
    (hf : ∀ d, (f d).id = d.id) {P : Delivery → Prop} (hd : d ∈ T) (hthen : cond d = true → P (f d))
    (helse : P d) : ∃ d' ∈ T.update cond f hf, d'.id = d.id ∧ P d' := by
  by_cases hcond : cond d = true
  · exact ⟨f d, Table.mem_update_pos hf hd hcond, hf d, hthen hcond⟩
  · exact ⟨d, Table.mem_update_neg hf hd hcond, rfl, helse⟩

/-- A pass that does not claim the row. -/
theorem process_row_turned {view : View} (hd : d ∈ db.deliveries) (hid : d.id = row.delivery.id)
    (h : (process_row view db env row).2 = none) :
    ∃ d' ∈ (process_row view db env row).1.deliveries, d'.id = d.id ∧ d.GoesOn d' := by
  have hfail : ∀ {cond : Delivery → Bool} {f : Delivery → Delivery} {hf : ∀ d, (f d).id = d.id}
      (error_code : String), (cond d = true → d.GoesOn (f d)) → ∃ d' ∈
        (fail_task { db with deliveries := db.deliveries.update cond f hf } env row
          error_code).deliveries, d'.id = d.id ∧ d.GoesOn d' := by
    intro cond f hf error_code hgoes
    obtain ⟨d', hd', hid', hgoes'⟩ := update_row hf hd hgoes (.refl d)
    exact ⟨d', (fail_task_follows error_code).own d' hd' (hid'.trans hid), hid', hgoes'⟩
  have hidle : ∀ {q : Delivery}, q.status = .failed ∨ q.status = .timed_out → q.idle := by
    rintro q (h | h) <;> exact ⟨by rw [h]; decide, by rw [h]; decide⟩
  unfold process_row at h ⊢
  dsimp only at h ⊢
  split
  · exact hfail _ fun _ => .inr ⟨hidle (.inl rfl), rfl⟩
  rename_i hadmitted
  rw [if_neg hadmitted] at h
  split
  · exact hfail _ fun _ => .inr ⟨hidle (.inr rfl), rfl⟩
  rename_i hdeadline
  rw [if_neg hdeadline] at h
  split
  · exact update_row (by exact fun _ => rfl) hd (fun _ => .inl ⟨rfl, rfl, rfl, rfl, rfl, rfl⟩) (.refl d)
  rename_i hbusy
  rw [if_neg hbusy] at h
  split at h
  · cases h
  · rename_i hnone
    -- nobody can claim the row
    refine update_row (by exact fun _ => rfl) hd (fun hclaimable => absurd ?_ hnone) (.refl d)
    rw [Bool.and_eq_true] at hclaimable
    refine (Option.any_eq_true _ _).mpr ⟨d, ?_, hclaimable.2⟩
    rw [← hid]
    exact Table.mem_iff_find.mp hd

/-- What a claim makes of a row that waits. -/
theorem Waits.claim {calls : List Call} {times : List Int} {token : String} {now : Int}
    (h : Waits times d) (hdue : d.next_attempt_at.getD row.delivery.created_at ≤ now)
    (hread : d.AsRead row.delivery) (hcalls : ∀ c ∈ calls, c.token ≠ token) :
    Sent (calls ++ [⟨row, token, none⟩]) times (d.claimed token now) now := by
  have hpause : ∀ x ∈ times.getLast?, x + backoff d.retry_count ≤ now := by
    intro x hx
    obtain ⟨at_, hat, hle⟩ := h.pause x hx
    rw [Option.mem_def.mp hat] at hdue
    exact hle.trans hdue
  constructor
  · rfl
  · exact h.attempts.trans (Nat.le_succ _)
  · exact h.below
  · rfl
  · exact fun x hx => (le_add_of_nonneg_right (backoff_nonneg _)).trans (hpause x hx)
  · intro c hc howns
    obtain ⟨-, -, htoken⟩ := owns_claim_iff.mp howns
    rcases List.mem_append.mp hc with hc | hc
    · exact absurd (Option.some.inj htoken).symm (hcalls c hc)
    · obtain rfl := List.mem_singleton.mp hc
      exact ⟨hread.retry_count.symm, hread.max_attempts.symm, fun _ => ⟨h.attempts, hpause⟩⟩

theorem Delivery.AsRead.waits {calls : List Call} {times : List Int} (hread : d.AsRead q)
    (h : OnWay calls times d) : Waits times d := by
  rcases h with hwaits | ⟨t, hsent⟩ | ⟨hidle, -⟩
  · exact hwaits
  · cases hread.queued.symm.trans hsent.sent
  · exact absurd hread.queued hidle.1

/-- A turn of the delivery in a pass. -/
theorem process_on_way {seen : Read → Nat} {times : List Int} (htokens : Tokens w)
    (ho : Orderly cfg id w (.process id env seen)) (hd : d ∈ w.db.deliveries) (hid : d.id = id)
    (hway : OnWay w.calls times d) (h : step cfg w (.process id env seen) = some w') :
    ∃ d' ∈ w'.db.deliveries, d'.id = id ∧ OnWay w'.calls times d' := by
  obtain ⟨row, hrow, hdue, hfresh, hdb, hclaim⟩ := step_process h
  obtain ⟨-, -, hrid, -⟩ := delivery_row_eq_some hrow
  have hkey : d.id = row.delivery.id := hid.trans hrid.symm
  rw [hdb]
  rcases hclaim with ⟨hnone, hcalls, -⟩ | ⟨c, -, hsome, hcalls, -⟩
  · obtain ⟨d', hd', hid', hgoes⟩ := process_row_turned hd hkey hnone
    rw [hcalls]
    exact ⟨d', hd', hid'.trans hid, hway.congr hid' hgoes fun _ hc _ => hc⟩
  · obtain ⟨rfl, -, hclaimable, hdb'⟩ := process_row_some hsome
    have hfind : w.db.deliveries.find row.delivery.id = some d := hkey ▸ Table.mem_iff_find.mp hd
    rw [hfind, Option.any_some] at hclaimable
    have hturn : (row, env.now) ∈ w.turn (.process id env seen) := by
      rw [Option.mem_def, World.turn, hrow, Option.map_some]
    have hread : d.AsRead row.delivery :=
      ho.turn _ hturn hrid d (hrid ▸ hfind) (.inl hclaimable)
    rw [Delivery.due, Bool.and_eq_true, decide_eq_true_eq] at hdue
    have hsent : Sent (w.calls ++ [⟨row, env.uuid 0, none⟩]) times (d.claimed (env.uuid 0) env.now)
        env.now := (hread.waits hway).claim (hread.next_attempt_at ▸ hdue.2) hread
          fun c hc => htokens.fresh hfresh hc
    refine ⟨d.claimed (env.uuid 0) env.now, ?_, hid, .inr (.inl ⟨_, hcalls ▸ hsent⟩)⟩
    have hcond : (d.id == row.delivery.id && d.claimable env.now) = true := by
      rw [hclaimable, hkey, beq_self_eq_true]
      rfl
    rw [hdb']
    exact Table.mem_update_pos (by exact fun _ => rfl) hd hcond

/-! ## Receipts -/

theorem call_outcome_idle {is_qa : Bool} {r : DeliveryReceipt} :
    (call_outcome cfg db c is_qa r).status ≠ .queued ∧ (call_outcome cfg db c is_qa r).status ≠ .sent := by
  have hreceipt : (receipt_status r.status).getD .failed ∉ [DeliveryStatus.queued, .sent] := by
    cases hstatus : receipt_status r.status with
    | none => decide
    | some status => exact receipt_status_open hstatus
  simp only [List.mem_cons, List.not_mem_nil, or_false, not_or] at hreceipt
  unfold call_outcome outcome
  split
  · unfold read_response
    split
    · exact ⟨DeliveryStatus.noConfusion, DeliveryStatus.noConfusion⟩
    · split <;> exact ⟨DeliveryStatus.noConfusion, DeliveryStatus.noConfusion⟩
  · split <;> exact ⟨DeliveryStatus.noConfusion, DeliveryStatus.noConfusion⟩
  · exact hreceipt

theorem recorded_pace {o : Outcome} {r : DeliveryReceipt} {now : Int} (h : d.SamePace d') :
    (d.recorded q o r now).SamePace (d'.recorded q o r now) := ⟨rfl, rfl, h.max_attempts, rfl, rfl, rfl⟩

theorem store_response_pace {status : DeliveryStatus} {r : DeliveryReceipt}
    (h : store_response cfg db env row status r = .ok db') (hd : d ∈ db.deliveries) :
    ∃ d' ∈ db'.deliveries, d'.id = d.id ∧ d.SamePace d' := by
  unfold store_response at h
  split at h
  · cases h
    exact ⟨d, hd, rfl, .refl d⟩
  · split at h
    · cases h
      exact ⟨d, hd, rfl, .refl d⟩
    · obtain ⟨T, -, h⟩ := bind_eq_ok.mp h
      rw [← pure_eq_ok.mp h]
      exact update_row (by exact fun _ => rfl) hd (fun _ => ⟨rfl, rfl, rfl, rfl, rfl, rfl⟩) (.refl d)

/-- The row of a call whose receipt is recorded. -/
theorem record_receipt_row {is_qa : Bool} {r : DeliveryReceipt} (hd : d ∈ db.deliveries)
    (hid : d.id = c.row.delivery.id) (h : record_receipt cfg db env c is_qa r = .ok (some db')) :
    owns_claim c d = true ∧ ∃ d' ∈ db'.deliveries, d'.id = d.id ∧
      (d.recorded c.row.delivery (call_outcome cfg db c is_qa r) r env.now).SamePace d' := by
  unfold record_receipt at h
  split at h
  · rename_i howns
    have howner := owner_of_any hd hid howns
    obtain ⟨written, hwritten, h⟩ := map_eq_ok.mp h
    obtain rfl := Option.some.inj h
    unfold write_receipt at hwritten
    obtain ⟨d', hd', hid', hpace⟩ := store_response_pace hwritten
      (Table.mem_update_pos (by exact fun _ => rfl) hd howner)
    exact ⟨howner, d', (follow_outcome_follows _ _).own d' hd' (hid'.trans hid), hid', hpace⟩
  · cases h

/-- The row of a call that is over. -/
theorem finish_row {is_qa : Bool} {r : DeliveryReceipt} {events : List Event}
    (hd : d ∈ w.db.deliveries) (hid : d.id = c.row.delivery.id)
    (hdb : ∃ q ∈ db.deliveries, q.id = d.id ∧ d.SamePace q)
    (h : w.finish cfg db env c is_qa r events = some w') :
    ∃ d' ∈ w'.db.deliveries, d'.id = d.id ∧ (d.SamePace d' ∨ owns_claim c d = true ∧
      (d.recorded c.row.delivery (call_outcome cfg db c is_qa r) r env.now).SamePace d') := by
  obtain ⟨q, hq, hqid, hsame⟩ := hdb
  rcases finish_eq_some h with hrecord | heq | heq
  · obtain ⟨howns, d', hd', hid', hpace⟩ := record_receipt_row hq (hqid.trans hid) hrecord
    rw [owns_claim_congr hqid hsame] at howns
    exact ⟨d', hd', hid'.trans hqid, .inr ⟨howns, (recorded_pace hsame).trans hpace⟩⟩
  · rw [heq]
    exact ⟨q, hq, hqid, .inl hsame⟩
  · rw [heq]
    exact ⟨d, hd, rfl, .inl (.refl d)⟩

/-- What a receipt makes of a row that is claimed. -/
theorem recorded_on_way {calls : List Call} {times : List Int} {o : Outcome} {r : DeliveryReceipt} {now : Int}
    (hretry : c.row.delivery.retry_count = d.retry_count)
    (hmax : c.row.delivery.max_attempts = d.max_attempts) (hattempts : times.length ≤ d.retry_count + 1)
    (hbelow : d.retry_count < d.limit) (hlast : ∀ x ∈ times.getLast?, x ≤ now)
    (ho : o.status ≠ .queued ∧ o.status ≠ .sent) :
    OnWay calls times (d.recorded c.row.delivery o r now) := by
  by_cases hagain : retryable now c.row.delivery o = true
  · have hcount : d.retry_count + 1 < d.limit := by
      unfold retryable at hagain
      simp only [Bool.and_eq_true, decide_eq_true_eq] at hagain
      rw [hretry, hmax] at hagain
      exact hagain.1.2
    left
    constructor
    · exact if_pos hagain
    · show times.length ≤ c.row.delivery.retry_count + 1
      rwa [hretry]
    · show c.row.delivery.retry_count + 1 < d.limit
      rwa [hretry]
    · intro x hx
      refine ⟨now + backoff (c.row.delivery.retry_count + 1), if_pos hagain, ?_⟩
      exact Int.add_le_add_right (hlast x hx) _
  · refine .inr (.inr ⟨?_, hattempts.trans hbelow⟩)
    have hstatus : (d.recorded c.row.delivery o r now).status = o.status := if_neg hagain
    exact ⟨hstatus ▸ ho.1, hstatus ▸ ho.2⟩

/-- A call of a row that is claimed is over. -/
theorem finish_on_way {is_qa : Bool} {r : DeliveryReceipt} {events : List Event} {times times' : List Int}
    (hd : d ∈ w.db.deliveries) (hc : c ∈ w.calls) (howns : owns_claim c d = true)
    (hsent : Sent w.calls times d env.now) (hattempts : times'.length ≤ d.retry_count + 1)
    (hlast : ∀ x ∈ times'.getLast?, x ≤ env.now) (hdb : ∃ q ∈ db.deliveries, q.id = d.id ∧ d.SamePace q)
    (h : w.finish cfg db env c is_qa r events = some w') :
    ∃ d' ∈ w'.db.deliveries, d'.id = d.id ∧ OnWay w'.calls times' d' := by
  obtain ⟨hid, -, htoken⟩ := owns_claim_iff.mp howns
  obtain ⟨hretry, hmax, -⟩ := hsent.calls c hc howns
  obtain ⟨d', hd', hid', hsame | ⟨-, hpace⟩⟩ := finish_row hd hid hdb h
  · refine ⟨d', hd', hid', .inr (.inl ⟨_, hsent.congr hid' hsame hattempts hlast fun p hp hpowns => ?_⟩)⟩
    -- no call is left that owns the claim
    rw [finish_calls h, List.mem_filter, bne_iff_ne] at hp
    rw [(owns_claim_iff.mp hpowns).2.2] at htoken
    exact absurd (Option.some.inj htoken) hp.2
  · have hway : OnWay w'.calls times'
        (d.recorded c.row.delivery (call_outcome cfg db c is_qa r) r env.now) :=
      recorded_on_way hretry hmax hattempts hsent.below hlast call_outcome_idle
    exact ⟨d', hd', hid', hway.congr hid' (.inl hpace) fun _ hp _ => hp⟩

theorem write_session_pace (session : String × String) (hd : d ∈ db.deliveries) :
    ∃ q ∈ (write_session db id session).deliveries, q.id = d.id ∧ d.SamePace q :=
  update_row (by exact fun _ => rfl) hd (fun _ => ⟨rfl, rfl, rfl, rfl, rfl, rfl⟩) (.refl d)

/-- The row of a call that owns its claim. -/
theorem OnWay.sent {times : List Int} {now : Int} (h : OnWay w.calls times d) (hd : d ∈ w.db.deliveries)
    (howns : owns_claim c d = true) (hreads : w.reads (some c) now = true) :
    Sent w.calls times d now := by
  have hstatus := (owns_claim_iff.mp howns).2.1
  have hclaim : d.claim_expires_at = some (now + 30) := by
    have hrow := List.all_eq_true.mp hreads d hd
    rw [howns, Bool.not_true, Bool.false_or, beq_iff_eq] at hrow
    exact hrow
  rcases h with hwaits | ⟨t, hsent⟩ | ⟨hidle, -⟩
  · cases hwaits.queued.symm.trans hstatus
  · have heq : t = now := by
      have hsome := Option.some.inj (hsent.claim.symm.trans hclaim)
      omega
    exact heq ▸ hsent
  · exact absurd hstatus hidle.2

/-- A call of the delivery is handed over. -/
theorem hand_over_on_way {token : String} {seen : Read → Nat} {r : DeliveryReceipt}
    {delivered : String → List Int} (ho : Orderly cfg id w (.hand_over token env seen r))
    (hd : d ∈ w.db.deliveries) (hid : d.id = id) (hway : OnWay w.calls (delivered id) d)
    (hspaced : Spaced (delivered id)) (hcall : w.call (.hand_over token env seen r) = some c)
    (hrow : c.row.delivery.id = id) (hpass : w.in_pass (.hand_over token env seen r) = true)
    (h : step cfg w (.hand_over token env seen r) = some w') :
    (∃ d' ∈ w'.db.deliveries, d'.id = id ∧
      OnWay w'.calls (note delivered (w.delivers cfg (.hand_over token env seen r)) id) d') ∧
    Spaced (note delivered (w.delivers cfg (.hand_over token env seen r)) id) := by
  have hkey : d.id = c.row.delivery.id := hid.trans hrow.symm
  have howns := owner_of_any hd hkey (ho.handing c hcall hrow)
  have hsent : Sent w.calls (delivered id) d env.now := by
    refine hway.sent hd howns ?_
    rw [World.in_pass, hcall] at hpass
    exact hpass
  have hmem := mem_call hcall
  obtain ⟨hretry, hmax, hwaiting⟩ := hsent.calls c hmem howns
  have hnone : c.delivering = none := by
    have hfound := List.find?_some hcall
    rw [Bool.and_eq_true, Option.isNone_iff_eq_none] at hfound
    exact hfound.2
  obtain ⟨hlength, hpause⟩ := hwaiting hnone
  -- the attempt that may be counted
  have hattempts : (delivered id ++ [env.now]).length ≤ d.retry_count + 1 := by
    rw [List.length_append, List.length_singleton]
    exact Nat.succ_le_succ hlength
  have hlast : ∀ x ∈ (delivered id ++ [env.now]).getLast?, x ≤ env.now := by
    intro x hx
    rw [List.getLast?_concat, Option.mem_some] at hx
    exact hx.ge
  have hspaced' : Spaced (delivered id ++ [env.now]) :=
    hspaced.concat fun x hx => (Int.add_le_add_left (backoff_mono hlength) x).trans (hpause x hx)
  simp only [step, Option.bind_eq_bind, Option.bind_eq_some_iff] at h
  obtain ⟨c', hcall', _, -, h⟩ := h
  obtain rfl := Option.some.inj (hcall.symm.trans hcall')
  have hnote : ∀ now, w.delivers cfg (.hand_over token env seen r) = some (c.row.delivery.id, now) →
      note delivered (w.delivers cfg (.hand_over token env seen r)) id = delivered id ++ [now] := by
    intro now hdelivers
    rw [hdelivers]
    exact if_pos hrow.symm
  unfold World.hand_over at h
  dsimp only at h
  split at h
  · rename_i error_code hlane
    have hnone : w.delivers cfg (.hand_over token env seen r) = none := by
      simp only [World.delivers, hcall, Option.bind_eq_bind, Option.bind_some, hlane]
    rw [hnone]
    obtain ⟨d', hd', hid', hway'⟩ := finish_on_way hd hmem howns hsent hsent.attempts hsent.last
      ⟨d, hd, rfl, .refl d⟩ h
    exact ⟨⟨d', hd', hid'.trans hid, hway'⟩, hspaced⟩
  · rename_i session error_code hlane
    have hnone : w.delivers cfg (.hand_over token env seen r) = none := by
      simp only [World.delivers, hcall, Option.bind_eq_bind, Option.bind_some, hlane]
    rw [hnone]
    obtain ⟨d', hd', hid', hway'⟩ := finish_on_way hd hmem howns hsent hsent.attempts hsent.last
      (write_session_pace session hd) h
    exact ⟨⟨d', hd', hid'.trans hid, hway'⟩, hspaced⟩
  · rename_i session hlane
    rw [hnote env.now (by
      simp only [World.delivers, hcall, Option.bind_eq_bind, Option.bind_some, hlane])]
    obtain ⟨d', hd', hid', hway'⟩ := finish_on_way hd hmem howns hsent hattempts hlast
      (write_session_pace session hd) h
    exact ⟨⟨d', hd', hid'.trans hid, hway'⟩, hspaced'⟩
  · rename_i hlane
    rw [hnote env.now (by
      simp only [World.delivers, hcall, Option.bind_eq_bind, Option.bind_some, hlane])]
    obtain ⟨-, rfl⟩ := World.commit_eq_some.mp h
    refine ⟨⟨d, hd, hid, .inr (.inl ⟨env.now, hsent.congr rfl (.refl d) hattempts hlast ?_⟩)⟩, hspaced'⟩
    intro p hp hpowns
    obtain ⟨q, hq, rfl⟩ := List.mem_map.mp hp
    by_cases htoken : q.token = c.token
    · rw [if_pos htoken] at hpowns ⊢
      obtain ⟨hqretry, hqmax, -⟩ := hsent.calls q hq hpowns
      exact ⟨hqretry, hqmax, fun hdelivering => by cases hdelivering⟩
    · rw [if_neg htoken] at hpowns
      have hclaim := (owns_claim_iff.mp howns).2.2
      rw [(owns_claim_iff.mp hpowns).2.2] at hclaim
      exact absurd (Option.some.inj hclaim) htoken

/-- A call of the delivery ends. -/
theorem record_on_way {token : String} {r : DeliveryReceipt} {times : List Int}
    (hd : d ∈ w.db.deliveries) (hid : d.id = id) (hway : OnWay w.calls times d)
    (hcall : w.call (.record token env r) = some c) (hrow : c.row.delivery.id = id)
    (hpass : w.in_pass (.record token env r) = true)
    (h : step cfg w (.record token env r) = some w') :
    ∃ d' ∈ w'.db.deliveries, d'.id = id ∧ OnWay w'.calls times d' := by
  have hkey : d.id = c.row.delivery.id := hid.trans hrow.symm
  simp only [step, Option.bind_eq_bind, Option.bind_eq_some_iff] at h
  obtain ⟨c', hcall', _, -, h⟩ := h
  obtain rfl := Option.some.inj (hcall.symm.trans hcall')
  by_cases howns : owns_claim c d = true
  · have hsent : Sent w.calls times d env.now := by
      refine hway.sent hd howns ?_
      rw [World.in_pass, hcall] at hpass
      exact hpass
    obtain ⟨d', hd', hid', hway'⟩ := finish_on_way hd (mem_call hcall) howns hsent hsent.attempts
      hsent.last ⟨d, hd, rfl, .refl d⟩ h
    exact ⟨d', hd', hid'.trans hid, hway'⟩
  · obtain ⟨d', hd', hid', hsame | ⟨howns', -⟩⟩ := finish_row hd hkey ⟨d, hd, rfl, .refl d⟩ h
    · refine ⟨d', hd', hid'.trans hid, hway.congr hid' (.inl hsame) fun p hp _ => ?_⟩
      rw [finish_calls h, List.mem_filter] at hp
      exact hp.1
    · exact absurd howns' howns

/-! ## Steps -/

theorem watched_step (h : (watched cfg).step s l = some s') :
    s.world.in_pass l = true ∧ step cfg s.world l = some s'.world ∧ archived_once s'.world.db = true ∧
      s'.delivered = note s.delivered (s.world.delivers cfg l) := by
  simp only [watched, Option.bind_eq_bind, Option.bind_eq_some_iff] at h
  obtain ⟨_, hpass, w, hw, _, honce, h⟩ := h
  obtain rfl := Option.some.inj h
  exact ⟨(Option.guard_eq_some' _).mp hpass, hw, (Option.guard_eq_some' _).mp honce, rfl⟩

/-- Nothing is delivered where no call of the delivery is handed over. -/
theorem delivered_same (h : (watched cfg).step s l = some s')
    (hcalls : ∀ c ∈ s.world.handing l, c.row.delivery.id ≠ id) : s'.delivered id = s.delivered id := by
  obtain ⟨-, -, -, hdelivered⟩ := watched_step h
  rw [hdelivered]
  refine note_other fun now hnow => ?_
  obtain ⟨c, hc, hid⟩ := delivers_call hnow
  exact hcalls c hc hid

/-- A delivery that is gone stays so. -/
theorem gone_step (h : Gone id s.world.db) (ho : Orderly cfg id s.world l)
    (hs : (watched cfg).step s l = some s') : Gone id s'.world.db ∧ s'.delivered id = s.delivered id := by
  obtain ⟨-, hstep, honce, -⟩ := watched_step hs
  constructor
  · have hstands : Stands id (fun _ => False) s'.world.db := .inr (archived_step hstep h.2)
    rcases hstands.present honce with ⟨_, -, -, ⟨⟩⟩ | hgone
    exact hgone
  · refine delivered_same hs fun c hc hid => ?_
    obtain ⟨q, hq, howns⟩ := List.any_eq_true.mp (ho.handing c hc hid)
    exact h.1 q hq ((owns_claim_iff.mp howns).1.trans hid)

/-- A step that does not retry the delivery. -/
theorem elsewhere_or (hretry : l.retries ≠ some id) :
    Elsewhere id w l ∨ (∃ env seen, l = .process id env seen) ∨
      ∃ c, w.call l = some c ∧ c.row.delivery.id = id := by
  by_cases hturn : ∃ env seen, l = .process id env seen
  · exact .inr (.inl hturn)
  by_cases hcall : ∃ c, w.call l = some c ∧ c.row.delivery.id = id
  · exact .inr (.inr hcall)
  exact .inl ⟨hretry, fun env seen h => hturn ⟨env, seen, h⟩, fun c hc hid => hcall ⟨c, hc, hid⟩⟩

/-- No worker has a delivery at hand that was never there. -/
theorem Unborn.elsewhere (h : Unborn id w) (hrows : Rows w) (hretry : l.retries ≠ some id)
    (hs : step cfg w l = some w') : Elsewhere id w l := by
  have hread : ∀ row, w.has_read row → row.delivery.id ≠ id := by
    rintro row ⟨k, hk⟩
    obtain ⟨-, hmem, -, -⟩ := delivery_row_eq_some hk
    exact h k _ hmem
  constructor
  · exact hretry
  · rintro env seen rfl
    obtain ⟨row, hrow, -⟩ := step_process hs
    exact hread row (has_read_view hrow) (delivery_row_eq_some hrow).2.2.1
  · exact fun c hc => hread c.row (hrows c (mem_call hc))

/-- The delivery is new, or idle since. -/
def New (d : Delivery) : Prop := ∃ q : Delivery, q.status = .queued ∧ q.retry_count = 0 ∧ q.GoesOn d

theorem New.on_way {calls : List Call} (h : New d) : OnWay calls [] d := by
  obtain ⟨q, hqueued, hzero, hgoes⟩ := h
  rcases hgoes with hsame | ⟨hidle, -⟩
  · have hpositive : 0 < q.limit := by
      unfold Delivery.limit
      split
      · exact Nat.zero_lt_succ 2
      · exact Nat.pos_of_ne_zero ‹_›
    refine .inl (Waits.congr ⟨hqueued, Nat.zero_le _, hzero.symm ▸ hpositive, ?_⟩ hsame)
    intro x hx
    cases hx
  · exact .inr (.inr ⟨hidle, Nat.zero_le _⟩)

/-- The step that may insert the delivery. -/
theorem unborn_step (h : Unborn id w) (he : Elsewhere id w l) (hs : step cfg w l = some w') :
    Unborn id w' ∨ Stands id New w'.db := by
  have hkeeps : (∀ d ∈ w'.db.deliveries, d.id ≠ id) ∨ Stands id New w'.db := by
    refine (step_writes hs).keeps (P := fun db => (∀ d ∈ db.deliveries, d.id ≠ id) ∨ Stands id New db)
      (fun a b hwrite ha => ?_) (.inl (h 0))
    rcases ha with habsent | hstands
    · by_cases hnew : ∃ d ∈ b.deliveries, d.id = id
      · obtain ⟨d, hd, hid⟩ := hnew
        rcases hwrite.delivery_back hd with ⟨q, hq, hqid, -⟩ | ⟨hnew, -, -⟩
        · exact absurd (hqid.symm.trans hid) (habsent q hq)
        · refine .inr (.inl ⟨d, hd, hid, d, ?_, ?_, .refl d⟩)
          · cases hnew <;> rfl
          · cases hnew <;> rfl
      · exact .inl fun d hd hid => hnew ⟨d, hd, hid⟩
    · refine .inr (hwrite.stands he ?_ hstands)
      rintro d d' ⟨q, hqueued, hzero, hgoes⟩ hgoes'
      exact ⟨q, hqueued, hzero, hgoes.trans hgoes'⟩
  refine hkeeps.imp_left fun habsent k => ?_
  exact ago_step (P := fun db => ∀ d ∈ db.deliveries, d.id ≠ id) hs h habsent k

theorem paced_step (h : Paced id s) (ho : Orderly cfg id s.world l)
    (hs : (watched cfg).step s l = some s') : Paced id s' := by
  obtain ⟨hpass, hstep, honce, hdelivered⟩ := watched_step hs
  have htokens := tokens_step h.tokens hstep
  have hrows : Rows s'.world := (inductive_rows fun _ _ => True).step _ _ _ h.read trivial hstep
  rcases h.row with ⟨hunborn, hnil⟩ | ⟨d, hd, hid, hway⟩ | hgone
  · have he := hunborn.elsewhere h.read ho.retry hstep
    have hsame := delivered_same hs fun c hc => he.call c (handing_call hc)
    refine ⟨htokens, hrows, hsame ▸ h.spaced, ?_⟩
    rw [hsame, hnil]
    refine (unborn_step hunborn he hstep).imp (fun hunborn' => ⟨hunborn', rfl⟩) fun hstands => ?_
    refine (hstands.present honce).imp_left ?_
    rintro ⟨d, hd, hid, hnew⟩
    exact ⟨d, hd, hid, hnew.on_way⟩
  · rcases elsewhere_or ho.retry with he | ⟨env, seen, rfl⟩ | ⟨c, hcall, hrow⟩
    · have hsame := delivered_same hs fun c hc => he.call c (handing_call hc)
      refine ⟨htokens, hrows, hsame ▸ h.spaced, .inr ?_⟩
      refine ((stands_step he hd hid hstep).present honce).imp_left ?_
      rintro ⟨d', hd', hid', hgoes⟩
      refine ⟨d', hd', hid', hsame.symm ▸ hway.congr (hid'.trans hid.symm) hgoes fun c hc hcid => ?_⟩
      exact calls_elsewhere h.tokens he hstep hc (hcid.trans hid)
    · have hsame : s'.delivered id = s.delivered id := delivered_same hs fun c hc => by cases hc
      refine ⟨htokens, hrows, hsame ▸ h.spaced, .inr (.inl ?_)⟩
      exact hsame.symm ▸ process_on_way h.tokens ho hd hid hway hstep
    · cases l with
      | hand_over token env seen r =>
        obtain ⟨hway', hspaced⟩ :=
          hand_over_on_way ho hd hid hway h.spaced hcall hrow hpass hstep
        rw [← hdelivered] at hway' hspaced
        exact ⟨htokens, hrows, hspaced, .inr (.inl hway')⟩
      | record token env r =>
        have hsame : s'.delivered id = s.delivered id := delivered_same hs fun c hc => by cases hc
        refine ⟨htokens, hrows, hsame ▸ h.spaced, .inr (.inl ?_)⟩
        exact hsame.symm ▸ record_on_way hd hid hway hcall hrow hpass hstep
      | _ => cases hcall
  · obtain ⟨hgone, hsame⟩ := gone_step hgone ho hs
    exact ⟨htokens, hrows, hsame ▸ h.spaced, .inr (.inr hgone)⟩

/-- In every run with orderly steps the delivery is paced. -/
theorem inductive_paced (cfg : Config) (id : String) :
    (watched cfg).InductiveIf (fun s l => Orderly cfg id s.world l) (Paced id) where
  init s hs := by
    obtain ⟨hinit, hnil⟩ := hs
    refine ⟨?_, ?_, ?_, .inl ⟨fun k d hd => ?_, hnil id⟩⟩
    · exact (inductive_tokens fun _ _ => True).init _ hinit
    · exact (inductive_rows fun _ _ => True).init _ hinit
    · intro k t t' ht
      rw [hnil] at ht
      cases ht
    · rw [World.ago_of_past_nil hinit.2.1, Table.mem_def, hinit.1.deliveries] at hd
      cases hd
  step _ _ _ h ho hs := paced_step h ho hs

end WarRoom

end Plachem
