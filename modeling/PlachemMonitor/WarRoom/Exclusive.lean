import Mathlib.Data.List.Pairwise
import PlachemMonitor.WarRoom.Pace

/-!
# One call at a time

A claim lasts for 30 seconds, however long its call takes; and whether the agent has another delivery is
asked before the claim, in a statement of its own. So two calls of one delivery can be in flight
(`claimed_twice`), and two deliveries of one agent. Where a claim is of a delivery without a call, and of
an agent that is still free, neither happens, and each outcome is that of the only call of its attempt
(`claims_exclusive`).
-/

namespace Plachem

namespace WarRoom

/-- The claim that the step makes. -/
def World.claim (w : World) : Label → Option Call
  | .process id env seen =>
    (delivery_row (w.view seen .deliveries) id).bind fun row =>
      (process_row (w.view seen) w.db env row).2
  | _ => none

/-- The call for which the step calls `adapter.deliver`. -/
def World.hands (cfg : Config) (w : World) : Label → Option Call
  | .hand_over token env seen r => do
    let c ← w.call (.hand_over token env seen r)
    match lane cfg env c.row (c.row.is_qa_delivery (w.view seen .task)) with
    | .refused _ _ => none
    | _ => some c
  | _ => none

/-- The call whose receipt the step has from `adapter.deliver`. -/
def World.answered (cfg : Config) (w : World) : Label → Option Call
  | .hand_over token env seen r => do
    let c ← w.call (.hand_over token env seen r)
    match lane cfg env c.row (c.row.is_qa_delivery (w.view seen .task)) with
    | .direct _ => some c
    | _ => none
  | .record token env r => w.call (.record token env r)
  | _ => none

/-- A world, with the tokens of the calls of `adapter.deliver` in the current attempt of each delivery. -/
structure Tallied where
  world : World
  made : String → List String

/-- The calls after a step: a claim of a delivery that waits begins an attempt. -/
def tally (made : String → List String) (db : DB) (claim hand : Option Call) (id : String) : List String :=
  (if claim.any (fun c => c.row.delivery.id == id) &&
      (db.deliveries.find id).any (fun d => d.status == .queued) then [] else made id) ++
    ((hand.filter fun c => c.row.delivery.id == id).map Call.token).toList

/-- The War Room, with its calls tallied. -/
def tallied (cfg : Config) : Machine Tallied Label where
  init s := (warRoom cfg).init s.world ∧ ∀ id, s.made id = []
  step s l := (step cfg s.world l).map fun w =>
    ⟨w, tally s.made s.world.db (s.world.claim l) (s.world.hands cfg l)⟩

/-- One call of `adapter.deliver` for each delivery, and one delivery for each agent, at a time. -/
structure Exclusive (cfg : Config) (s : Tallied) : Prop where
  in_flight : ∀ id, (s.world.calls.filter fun c =>
    c.row.delivery.id == id && c.delivering.isSome).length ≤ 1
  agents : ∀ d ∈ s.world.db.deliveries, ∀ d' ∈ s.world.db.deliveries, d.sent = true → d'.sent = true →
    d.agent_id = d'.agent_id → d = d'
  /-- An outcome is that of the only call of the attempt, or of an attempt without a call. -/
  outcome : ∀ l s' c r, (tallied cfg).step s l = some s' → s.world.call l = some c →
    s.world.heard cfg l = some (c.row.delivery.id, r) →
      s'.made c.row.delivery.id = ((s.world.answered cfg l).map Call.token).toList

/-- What is claimed has no call, and its agent has no other delivery. -/
structure Alone (s : Tallied) (l : Label) : Prop where
  calls : ∀ c ∈ s.world.claim l, ∀ q ∈ s.world.calls, q.row.delivery.id ≠ c.row.delivery.id
  /-- Nothing was handed over under a claim that has expired. -/
  made : ∀ c ∈ s.world.claim l, ∀ d ∈ s.world.db.deliveries.find c.row.delivery.id,
    d.status = .queued ∨ s.made c.row.delivery.id = []
  free : ∀ c ∈ s.world.claim l, ∀ d ∈ s.world.db.deliveries.find c.row.delivery.id,
    busy s.world.db d = false

instance (s : Tallied) (l : Label) : Decidable (Alone s l) :=
  decidable_of_iff ((∀ c ∈ s.world.claim l, ∀ q ∈ s.world.calls, q.row.delivery.id ≠ c.row.delivery.id) ∧
      (∀ c ∈ s.world.claim l, ∀ d ∈ s.world.db.deliveries.find c.row.delivery.id,
        d.status = .queued ∨ s.made c.row.delivery.id = []) ∧
      ∀ c ∈ s.world.claim l, ∀ d ∈ s.world.db.deliveries.find c.row.delivery.id,
        busy s.world.db d = false)
    ⟨fun h => ⟨h.1, h.2.1, h.2.2⟩, fun h => ⟨h.calls, h.made, h.free⟩⟩

variable {cfg : Config} {id : String} {w w' : World} {l : Label} {a b db : DB} {d d' : Delivery}
  {s s' : Tallied} {env : Env} {row : DeliveryRow} {c q : Call}

/-! ## Deliveries that are sent -/

/-- What is sent was sent before, by the same agent. -/
def SendsNone (a b : DB) : Prop :=
  ∀ d' ∈ b.deliveries, d'.sent = true → ∃ d ∈ a.deliveries, d.id = d'.id ∧ d.sent = true ∧
    d.agent_id = d'.agent_id

namespace SendsNone

theorem refl (a : DB) : SendsNone a a := fun d hd hs => ⟨d, hd, rfl, hs, rfl⟩

theorem trans {c : DB} (h : SendsNone a b) (h' : SendsNone b c) : SendsNone a c := by
  intro d hd hs
  obtain ⟨q, hq, hqid, hqs, hqa⟩ := h' d hd hs
  obtain ⟨p, hp, hpid, hps, hpa⟩ := h q hq hqs
  exact ⟨p, hp, hpid.trans hqid, hps, hpa.trans hqa⟩

/-- A statement that sends nothing. -/
theorem update {cond : Delivery → Bool} {f : Delivery → Delivery} (hf : ∀ d, (f d).id = d.id)
    (h : ∀ d ∈ a.deliveries, cond d = true → (f d).sent = true →
      d.sent = true ∧ d.agent_id = (f d).agent_id)
    (hb : b.deliveries = a.deliveries.update cond f hf) : SendsNone a b := by
  intro d' hd' hs
  rw [hb, Table.mem_update] at hd'
  obtain ⟨d, hd, rfl⟩ := hd'
  split at hs
  · rename_i hcond
    rw [if_pos hcond]
    exact ⟨d, hd, (hf d).symm, h d hd hcond hs⟩
  · rename_i hcond
    rw [if_neg hcond]
    exact ⟨d, hd, rfl, hs, rfl⟩

/-- One delivery for each agent stays one. -/
theorem agents (h : SendsNone a b) (ha : ∀ d ∈ a.deliveries, ∀ d' ∈ a.deliveries, d.sent = true →
      d'.sent = true → d.agent_id = d'.agent_id → d = d') :
    ∀ d ∈ b.deliveries, ∀ d' ∈ b.deliveries, d.sent = true → d'.sent = true →
      d.agent_id = d'.agent_id → d = d' := by
  intro d hd d' hd' hs hs' heq
  obtain ⟨q, hq, hqid, hqs, hqa⟩ := h d hd hs
  obtain ⟨q', hq', hqid', hqs', hqa'⟩ := h d' hd' hs'
  obtain rfl := ha q hq q' hq' hqs hqs' (hqa.trans (heq.trans hqa'.symm))
  exact Table.eq_of_key hd hd' (hqid.symm.trans hqid')

end SendsNone

theorem stop_status_sent (r : DeliveryReceipt) : stop_status r ≠ .sent ∧ stop_status r ≠ .received := by
  unfold stop_status
  split
  · exact ⟨DeliveryStatus.noConfusion, DeliveryStatus.noConfusion⟩
  · split <;> exact ⟨DeliveryStatus.noConfusion, DeliveryStatus.noConfusion⟩

theorem not_sent (h : d.status ≠ .sent ∧ d.status ≠ .received) : d.sent = false := by
  rw [Delivery.sent, Bool.or_eq_false_iff, beq_eq_false_iff_ne, beq_eq_false_iff_ne]
  exact h

/-- Only a claim sends a delivery. -/
theorem DeliveryMove.sends (hl : ∀ id env seen, l ≠ .process id env seen)
    (h : DeliveryMove cfg w l db d d') (hs : d'.sent = true) :
    d.sent = true ∧ d.agent_id = d'.agent_id := by
  cases h with
  | project_answered r now hsent => exact ⟨hsent, rfl⟩
  | task_answered r now hsent => exact ⟨hsent, rfl⟩
  | worker_answered r =>
    rw [not_sent (stop_status_sent r)] at hs
    cases hs
  | bound session => exact ⟨hs, rfl⟩
  | recorded o r now _ howns => exact ⟨owns_claim_sent howns, rfl⟩
  | answered => exact ⟨hs, rfl⟩
  | polled o message_id session_id now _ hreceived =>
    rw [Delivery.sent, hreceived]
    exact ⟨rfl, rfl⟩
  | dismissed => exact absurd rfl (hl _ _ _)
  | overdue => exact absurd rfl (hl _ _ _)
  | postponed => exact absurd rfl (hl _ _ _)
  | claimed => exact absurd rfl (hl _ _ _)
  | _ => cases hs

/-- A step that is not a turn of a pass. -/
theorem sends_step (hl : ∀ id env seen, l ≠ .process id env seen) (h : step cfg w l = some w') :
    SendsNone w.db w'.db := by
  refine (step_writes h).extends SendsNone.refl (fun _ _ _ => SendsNone.trans) fun a b hwrite d' hd' hs => ?_
  rcases hwrite.delivery_back hd' with ⟨d, hd, hid, rfl | hmove⟩ | ⟨hnew, -, -⟩
  · exact ⟨_, hd, rfl, hs, rfl⟩
  · obtain ⟨hsent, hagent⟩ := hmove.sends hl hs
    exact ⟨d, hd, hid.symm, hsent, hagent⟩
  · cases hnew <;> cases hs

theorem fail_task_sends (error_code : String) : SendsNone db (fail_task db env row error_code) := by
  have hrework : ∀ task, SendsNone db (terminal_validation_failure.rework env row.delivery.message_id
      row.delivery.id row.delivery.task_revision db task) := by
    intro task
    unfold terminal_validation_failure.rework
    refine .update (by exact fun _ => rfl) (fun d _ _ hs => ?_) rfl
    cases hs
  unfold fail_task
  split
  · unfold terminal_validation_failure
    split
    · exact .refl db
    · split
      · exact .refl db
      · dsimp only
        split
        · split
          · exact .refl db
          · exact hrework _
        · exact hrework _
  · exact .refl db

/-- A pass that claims nothing. -/
theorem process_row_sends {view : View} (h : (process_row view db env row).2 = none) :
    SendsNone db (process_row view db env row).1 := by
  unfold process_row at h ⊢
  dsimp only at h ⊢
  split
  · refine .trans (.update (by exact fun _ => rfl) (fun d _ _ hs => ?_) rfl) (fail_task_sends _)
    cases hs
  rename_i hadmitted
  rw [if_neg hadmitted] at h
  split
  · refine .trans (.update (by exact fun _ => rfl) (fun d _ _ hs => ?_) rfl) (fail_task_sends _)
    cases hs
  rename_i hdeadline
  rw [if_neg hdeadline] at h
  split
  · refine .update (by exact fun _ => rfl) (fun d _ _ hs => ?_) rfl
    exact ⟨hs, rfl⟩
  rename_i hbusy
  rw [if_neg hbusy] at h
  split at h
  · cases h
  · rename_i hnone
    -- nobody can claim the row
    refine .update (by exact fun _ => rfl) (fun d hd hclaimable _ => absurd ?_ hnone) rfl
    rw [Bool.and_eq_true, beq_iff_eq] at hclaimable
    refine (Option.any_eq_true _ _).mpr ⟨d, ?_, hclaimable.2⟩
    rw [← hclaimable.1]
    exact Table.mem_iff_find.mp hd

/-- A claim of a delivery whose agent is free. -/
theorem process_row_agents {view : View} (h : (process_row view db env row).2 = some c)
    (hfree : ∀ d ∈ db.deliveries.find row.delivery.id, busy db d = false)
    (ha : ∀ d ∈ db.deliveries, ∀ d' ∈ db.deliveries, d.sent = true → d'.sent = true →
      d.agent_id = d'.agent_id → d = d') :
    ∀ d ∈ (process_row view db env row).1.deliveries, ∀ d' ∈ (process_row view db env row).1.deliveries,
      d.sent = true → d'.sent = true → d.agent_id = d'.agent_id → d = d' := by
  obtain ⟨-, -, -, hdb⟩ := process_row_some h
  rw [hdb]
  -- the rows before, and which of them is claimed
  have hback : ∀ d' ∈ db.deliveries.update (fun q => q.id == row.delivery.id && q.claimable env.now)
      (fun q => q.claimed (env.uuid 0) env.now), ∃ d ∈ db.deliveries, d.id = d'.id ∧
        d.agent_id = d'.agent_id ∧ (d.id = row.delivery.id ∨ d'.sent = d.sent) := by
    intro d' hd'
    obtain ⟨d, hd, rfl⟩ := Table.mem_update.mp hd'
    refine ⟨d, hd, ?_⟩
    split
    · rename_i hcond
      rw [Bool.and_eq_true, beq_iff_eq] at hcond
      exact ⟨rfl, rfl, .inl hcond.1⟩
    · exact ⟨rfl, rfl, .inr rfl⟩
  have hother : ∀ p ∈ db.deliveries, ∀ q ∈ db.deliveries, p.id = row.delivery.id → q.sent = true →
      p.agent_id = q.agent_id → p = q := by
    intro p hp q hq hid hsent hagent
    have hbusy := hfree p (hid ▸ Table.mem_iff_find.mp hp)
    by_contra hne
    have hother : busy db p = true := by
      refine List.any_eq_true.mpr ⟨q, hq, ?_⟩
      rw [hsent, hagent, beq_self_eq_true, Bool.true_and, Bool.and_true, bne_iff_ne]
      exact fun heq => hne (Table.eq_of_key hp hq heq.symm)
    rw [hbusy] at hother
    cases hother
  intro d hd d' hd' hs hs' heq
  obtain ⟨p, hp, hpid, hpa, hpsent⟩ := hback d hd
  obtain ⟨q, hq, hqid, hqa, hqsent⟩ := hback d' hd'
  have hagent : p.agent_id = q.agent_id := hpa.trans (heq.trans hqa.symm)
  refine Table.eq_of_key hd hd' ?_
  rw [← hpid, ← hqid]
  by_cases hrow : p.id = row.delivery.id
  · by_cases hrow' : q.id = row.delivery.id
    · exact hrow.trans hrow'.symm
    · have hsent := hqsent.resolve_left hrow'
      rw [hother p hp q hq hrow (hsent ▸ hs') hagent]
  · have hsent := hpsent.resolve_left hrow
    by_cases hrow' : q.id = row.delivery.id
    · rw [hother q hq p hp hrow' (hsent ▸ hs) hagent.symm]
    · rw [ha p hp q hq (hsent ▸ hs) (hqsent.resolve_left hrow' ▸ hs') hagent]

/-! ## Calls -/

/-- The calls, of different deliveries, and what has been made of each. -/
structure Apart (s : Tallied) : Prop where
  tokens : Tokens s.world
  pairwise : s.world.calls.Pairwise fun c q => c.row.delivery.id ≠ q.row.delivery.id
  made : ∀ c ∈ s.world.calls, s.made c.row.delivery.id = if c.delivering.isSome then [c.token] else []
  agents : ∀ d ∈ s.world.db.deliveries, ∀ d' ∈ s.world.db.deliveries, d.sent = true → d'.sent = true →
    d.agent_id = d'.agent_id → d = d'

theorem Apart.eq (h : Apart s) (hc : c ∈ s.world.calls) (hq : q ∈ s.world.calls)
    (heq : c.row.delivery.id = q.row.delivery.id) : c = q := by
  by_contra hne
  have hsymm : Std.Symm fun c q : Call => c.row.delivery.id ≠ q.row.delivery.id := ⟨fun _ _ => Ne.symm⟩
  exact h.pairwise.forall hc hq hne heq

theorem Apart.eq_of_token (h : Apart s) (hc : c ∈ s.world.calls) (hq : q ∈ s.world.calls)
    (heq : c.token = q.token) : c = q :=
  h.eq hc hq (congrArg (fun row : DeliveryRow => row.delivery.id) (h.tokens.unique c hc q hq heq))

/-- A step that is neither a claim nor a call leaves the tally. -/
theorem tally_none (made : String → List String) (db : DB) (id : String) :
    tally made db none none id = made id := List.append_nil _

theorem tally_hand (made : String → List String) (db : DB) (hand : Call) (id : String) :
    tally made db none (some hand) id =
      if hand.row.delivery.id = id then made id ++ [hand.token] else made id := by
  by_cases hid : hand.row.delivery.id = id
  · simp [tally, hid]
  · simp [tally, hid]

/-- Calls that are left over. -/
theorem Apart.sublist {w : World} {made : String → List String} {p : Call → Bool} (h : Apart s)
    (htokens : Tokens w) (hcalls : w.calls = s.world.calls.filter p) (hsends : SendsNone s.world.db w.db)
    (hmade : ∀ c ∈ s.world.calls, p c = true → made c.row.delivery.id = s.made c.row.delivery.id) :
    Apart ⟨w, made⟩ where
  tokens := htokens
  pairwise := by
    show w.calls.Pairwise _
    rw [hcalls]
    exact h.pairwise.filter p
  made c hc := by
    have hc' : c ∈ s.world.calls.filter p := hcalls ▸ hc
    obtain ⟨hmem, hp⟩ := List.mem_filter.mp hc'
    exact (hmade c hmem hp).trans (h.made c hmem)
  agents := hsends.agents h.agents

/-- The calls after a step that makes no claim and hands nothing over. -/
theorem calls_filter (h : step cfg w l = some w') (hl : ∀ id env seen, l ≠ .process id env seen)
    (hhand : ∀ token env seen r, l ≠ .hand_over token env seen r) :
    ∃ p : Call → Bool, w'.calls = w.calls.filter p := by
  have hall : ∃ p : Call → Bool, w.calls = w.calls.filter p :=
    ⟨fun _ => true, (List.filter_true w.calls).symm⟩
  have hcommit : ∀ {db : DB} {events : List Event}, w.commit db w.calls events = some w' →
      ∃ p : Call → Bool, w'.calls = w.calls.filter p := by
    intro db events h
    obtain ⟨-, rfl⟩ := World.commit_eq_some.mp h
    exact hall
  cases l with
  | request endpoint req env seen =>
    simp only [step, Option.bind_eq_bind, Option.bind_eq_some_iff] at h
    obtain ⟨_, -, h⟩ := h
    split at h
    · exact hcommit h
    · cases h
      exact hall
    · cases h
  | process id env seen => exact absurd rfl (hl _ _ _)
  | hand_over token env seen r => exact absurd rfl (hhand _ _ _ _)
  | record token env r =>
    simp only [step, Option.bind_eq_bind, Option.bind_eq_some_iff] at h
    obtain ⟨c, -, _, -, h⟩ := h
    exact ⟨_, finish_calls h⟩
  | abandon token =>
    cases h
    exact ⟨_, rfl⟩
  | recover id env seen poll =>
    simp only [step, Option.bind_eq_bind, Option.bind_eq_some_iff] at h
    obtain ⟨row, -, _, -, h⟩ := h
    split at h
    · exact hcommit h
    · cases h
  | request_delivery_retry id env seen =>
    simp only [step, Option.bind_eq_bind, Option.bind_eq_some_iff] at h
    obtain ⟨q, -, db', -, h⟩ := h
    exact hcommit h
  | request_project_stop project_id deadline ids env seen => exact hcommit h
  | process_stop_timer project_id env seen =>
    simp only [step, Option.bind_eq_bind, Option.bind_eq_some_iff] at h
    obtain ⟨db', -, h⟩ := h
    exact hcommit h
  | authorize scope now =>
    simp only [step] at h
    split at h
    · exact hcommit h
    · cases h
  | executions units runs => exact hcommit h
  | finalize task_id status now => exact hcommit h

/-- A turn of a pass. -/
theorem apart_process {seen : Read → Nat} (h : Apart s) (halone : Alone s (.process id env seen))
    (hs : step cfg s.world (.process id env seen) = some w') :
    Apart ⟨w', tally s.made s.world.db (s.world.claim (.process id env seen)) none⟩ := by
  have htokens := tokens_step h.tokens hs
  obtain ⟨row, hrow, -, hfresh, hdb, ⟨hnone, hcalls, -⟩ | ⟨c, -, hsome, hcalls, -⟩⟩ := step_process hs
  · have hclaim : s.world.claim (.process id env seen) = none := by
      simp only [World.claim, hrow, Option.bind_some, hnone]
    rw [hclaim]
    refine h.sublist htokens (p := fun _ => true) ?_ (hdb ▸ process_row_sends hnone) fun _ _ _ =>
      tally_none _ _ _
    rw [List.filter_true]
    exact hcalls
  · have hclaim : s.world.claim (.process id env seen) = some c := by
      simp only [World.claim, hrow, Option.bind_some, hsome]
    obtain ⟨hc, -, hclaimable, -⟩ := process_row_some hsome
    have hcrow : c.row = row := congrArg Call.row hc
    have halone' := halone.calls c hclaim
    obtain ⟨d, hfind, -⟩ := (Option.any_eq_true _ _).mp hclaimable
    -- the attempt has no call yet
    have hmade : tally s.made s.world.db (some c) none c.row.delivery.id = [] := by
      rw [tally, hcrow, hfind]
      rcases halone.made c hclaim d (hcrow ▸ hfind) with hqueued | hmade
      · simp [hqueued, hcrow]
      · rw [hcrow] at hmade
        simp [hmade]
    have hother : ∀ q ∈ s.world.calls,
        tally s.made s.world.db (some c) none q.row.delivery.id = s.made q.row.delivery.id := by
      intro q hq
      have hne : ¬ c.row.delivery.id = q.row.delivery.id := fun heq => halone' q hq heq.symm
      simp [tally, hne]
    rw [hclaim]
    constructor
    · exact htokens
    · show w'.calls.Pairwise _
      rw [hcalls, List.pairwise_append]
      refine ⟨h.pairwise, List.pairwise_singleton _ _, fun q hq p hp => ?_⟩
      rw [List.mem_singleton.mp hp]
      exact halone' q hq
    · intro q hq
      have hq' : q ∈ s.world.calls ++ [c] := hcalls ▸ hq
      rcases List.mem_append.mp hq' with hq | hq
      · exact (hother q hq).trans (h.made q hq)
      · rw [List.mem_singleton.mp hq]
        refine hmade.trans ?_
        rw [hc]
        rfl
    · show ∀ d ∈ w'.db.deliveries, _
      rw [hdb]
      exact process_row_agents hsome (fun d hd => halone.free c hclaim d (hcrow ▸ hd)) h.agents

theorem hands_eq {token : String} {seen : Read → Nat} {r : DeliveryReceipt}
    (hcall : w.call (.hand_over token env seen r) = some c) :
    w.hands cfg (.hand_over token env seen r) =
      match lane cfg env c.row (c.row.is_qa_delivery (w.view seen .task)) with
      | .refused _ _ => none
      | _ => some c := by
  simp only [World.hands, hcall, Option.bind_eq_bind, Option.bind_some]

/-- A call is handed over. -/
theorem apart_hand_over {token : String} {seen : Read → Nat} {r : DeliveryReceipt} (h : Apart s)
    (hs : step cfg s.world (.hand_over token env seen r) = some w') :
    Apart ⟨w', tally s.made s.world.db none (s.world.hands cfg (.hand_over token env seen r))⟩ := by
  have htokens := tokens_step h.tokens hs
  have hsends := sends_step (fun _ _ _ => Label.noConfusion) hs
  simp only [step, Option.bind_eq_bind, Option.bind_eq_some_iff] at hs
  obtain ⟨c, hcall, _, -, hs⟩ := hs
  have hcall : s.world.call (.hand_over token env seen r) = some c := hcall
  have hmem := mem_call hcall
  have hnone : c.delivering = none := by
    have hfound := List.find?_some hcall
    rw [Bool.and_eq_true, Option.isNone_iff_eq_none] at hfound
    exact hfound.2
  have hmade : s.made c.row.delivery.id = [] := by
    rw [h.made c hmem, hnone]
    rfl
  -- what is made of the calls of other deliveries
  have hother : ∀ q ∈ s.world.calls, q.token ≠ c.token →
      tally s.made s.world.db none (some c) q.row.delivery.id = s.made q.row.delivery.id := by
    intro q hq hne
    rw [tally_hand, if_neg]
    exact fun heq => hne (congrArg Call.token (h.eq hq hmem heq.symm))
  have hover : ∀ {made : String → List String}, w'.calls = (s.world.calls.filter fun q => q.token != c.token) →
      (∀ q ∈ s.world.calls, q.token ≠ c.token → made q.row.delivery.id = s.made q.row.delivery.id) →
        Apart ⟨w', made⟩ :=
    fun hcalls hmade => h.sublist htokens hcalls hsends fun q hq hne => hmade q hq (bne_iff_ne.mp hne)
  rw [hands_eq hcall]
  unfold World.hand_over at hs
  dsimp only at hs
  split at hs
  · rename_i hlane
    rw [hlane]
    exact hover (finish_calls hs) fun q _ _ => tally_none _ _ _
  · rename_i hlane
    rw [hlane]
    exact hover (finish_calls hs) fun q _ _ => tally_none _ _ _
  · rename_i hlane
    rw [hlane]
    exact hover (finish_calls hs) hother
  · rename_i hlane
    rw [hlane]
    obtain ⟨-, rfl⟩ := World.commit_eq_some.mp hs
    constructor
    · exact htokens
    · refine List.Pairwise.map _ (fun p q hpq => ?_) h.pairwise
      have hrow : ∀ p : Call, (if p.token = c.token then
          { p with delivering := some (c.row.is_qa_delivery (s.world.view seen .task)) } else p).row =
            p.row := by
        intro p
        split <;> rfl
      rw [hrow, hrow]
      exact hpq
    · intro q hq
      obtain ⟨p, hp, rfl⟩ := List.mem_map.mp hq
      by_cases htoken : p.token = c.token
      · obtain rfl := h.eq_of_token hp hmem htoken
        rw [if_pos rfl]
        refine (tally_hand _ _ _ _).trans ?_
        rw [if_pos rfl, hmade]
        rfl
      · rw [if_neg htoken]
        exact (hother p hp htoken).trans (h.made p hp)
    · exact h.agents

theorem apart_step (h : Apart s) (halone : Alone s l) (hs : (tallied cfg).step s l = some s') :
    Apart s' := by
  obtain ⟨w', hstep, rfl⟩ := Option.map_eq_some_iff.mp hs
  by_cases hprocess : ∃ id env seen, l = .process id env seen
  · obtain ⟨id, env, seen, rfl⟩ := hprocess
    exact apart_process h halone hstep
  by_cases hhand : ∃ token env seen r, l = .hand_over token env seen r
  · obtain ⟨token, env, seen, r, rfl⟩ := hhand
    exact apart_hand_over h hstep
  have hl : ∀ id env seen, l ≠ .process id env seen := fun id env seen h => hprocess ⟨id, env, seen, h⟩
  obtain ⟨p, hcalls⟩ := calls_filter hstep hl fun token env seen r h => hhand ⟨token, env, seen, r, h⟩
  have hclaim : s.world.claim l = none := by
    cases l with
    | process id env seen => exact absurd rfl (hl _ _ _)
    | _ => rfl
  have hhands : s.world.hands cfg l = none := by
    cases l with
    | hand_over token env seen r => exact absurd ⟨_, _, _, _, rfl⟩ hhand
    | _ => rfl
  refine h.sublist (tokens_step h.tokens hstep) hcalls (sends_step hl hstep) fun c _ _ => ?_
  rw [hclaim, hhands]
  exact tally_none _ _ _

/-! ## Runs -/

/-- At most one call of a delivery is in flight. -/
theorem Apart.in_flight (h : Apart s) (id : String) : (s.world.calls.filter fun c =>
    c.row.delivery.id == id && c.delivering.isSome).length ≤ 1 := by
  have hpairwise := h.pairwise.filter fun c => c.row.delivery.id == id && c.delivering.isSome
  have hid : ∀ c ∈ s.world.calls.filter fun c => c.row.delivery.id == id && c.delivering.isSome,
      c.row.delivery.id = id := by
    intro c hc
    have hcond := (List.mem_filter.mp hc).2
    rw [Bool.and_eq_true, beq_iff_eq] at hcond
    exact hcond.1
  generalize s.world.calls.filter (fun c => c.row.delivery.id == id && c.delivering.isSome) = calls
    at hpairwise hid ⊢
  rcases calls with _ | ⟨c, _ | ⟨q, rest⟩⟩
  · exact Nat.zero_le 1
  · exact le_refl 1
  · have hne := (List.pairwise_cons.mp hpairwise).1 q List.mem_cons_self
    exact absurd ((hid c List.mem_cons_self).trans (hid q (.tail _ List.mem_cons_self)).symm) hne

theorem Apart.exclusive (h : Apart s) : Exclusive cfg s where
  in_flight := h.in_flight
  agents := h.agents
  outcome := by
    intro l s' c r hs hcall hheard
    obtain ⟨w', hstep, rfl⟩ := Option.map_eq_some_iff.mp hs
    have hmade := h.made c (mem_call hcall)
    cases l with
    | hand_over token env seen r =>
      have hnone : c.delivering = none := by
        have hfound := List.find?_some hcall
        rw [Bool.and_eq_true, Option.isNone_iff_eq_none] at hfound
        exact hfound.2
      rw [hnone] at hmade
      have hclaim : s.world.claim (.hand_over token env seen r) = none := rfl
      have hanswered : s.world.answered cfg (.hand_over token env seen r) =
          match lane cfg env c.row (c.row.is_qa_delivery (s.world.view seen .task)) with
          | .direct _ => some c
          | _ => none := by
        simp only [World.answered, hcall, Option.bind_eq_bind, Option.bind_some]
      dsimp only
      rw [hclaim, hands_eq hcall, hanswered]
      simp only [World.heard, hcall, Option.bind_eq_bind, Option.bind_some] at hheard
      split at hheard
      · split at hheard
        · rename_i hlane
          rw [hlane]
          exact (tally_none _ _ _).trans hmade
        · rename_i hlane
          rw [hlane, tally_hand, if_pos rfl, hmade]
          rfl
        · cases hheard
      · cases hheard
    | record token env r =>
      have hsome : c.delivering.isSome = true := by
        have hfound := List.find?_some hcall
        rw [Bool.and_eq_true] at hfound
        exact hfound.2
      rw [hsome] at hmade
      have hanswered : s.world.answered cfg (.record token env r) = some c := hcall
      rw [hanswered]
      exact (tally_none _ _ _).trans hmade
    | _ => cases hcall

/-- In every run in which each claim is of a delivery without a call, and of an agent that is free. -/
theorem claims_exclusive (hreach : (tallied cfg).ReachableIf Alone s) : Exclusive cfg s := by
  have hinductive : (tallied cfg).InductiveIf Alone Apart := by
    constructor
    · rintro s ⟨hinit, hnil⟩
      have hcalls : s.world.calls = [] := hinit.2.2.1
      constructor
      · exact (inductive_tokens fun _ _ => True).init _ hinit
      · rw [hcalls]
        exact .nil
      · intro c hc
        rw [hcalls] at hc
        cases hc
      · intro d hd
        rw [Table.mem_def, hinit.1.deliveries] at hd
        cases hd
    · exact fun s l s' h halone hs => apart_step h halone hs
  exact (hinductive.reachable hreach).exclusive

namespace Sample

/-- Nothing is handed over yet. -/
def untallied : Tallied := ⟨world, fun _ => []⟩

/-- A call takes longer than its claim. -/
def slow_call : List Label :=
  [prepare, execute, claim "d" "c" 2, hand "c" 2 (answer ""), claim "d" "c2" 32, hand "c2" 32 (answer "")]

/-- A call that fails, and the next one. -/
def quick_calls : List Label :=
  [prepare, execute, claim "d" "c" 2, hand "c" 2 (answer ""), ended "c" 2 (failure ""),
    claim "d" "c2" 4, hand "c2" 4 (answer "")]

end Sample

open Sample in
/-- Two calls of one delivery are in flight. -/
theorem claimed_twice : (tallied (config false)).Reachable
      ((tallied (config false)).after untallied slow_call) ∧
    ¬ Exclusive (config false) ((tallied (config false)).after untallied slow_call) := by
  have hinit : (tallied (config false)).init untallied := ⟨init _, fun _ => rfl⟩
  refine ⟨Machine.reachable_after hinit _, fun h => ?_⟩
  have htwo : (((tallied (config false)).after untallied slow_call).world.calls.filter fun c =>
      c.row.delivery.id == "d" && c.delivering.isSome).length = 2 := by decide +kernel
  have hone := h.in_flight "d"
  rw [htwo] at hone
  exact absurd hone (by decide)

open Sample in
theorem claims_exclusive_sample :
    Exclusive (config false) ((tallied (config false)).after untallied quick_calls) := by
  have hinit : (tallied (config false)).init untallied := ⟨init _, fun _ => rfl⟩
  exact claims_exclusive (Machine.reachableIf_after hinit (by decide +kernel))

end WarRoom

end Plachem
