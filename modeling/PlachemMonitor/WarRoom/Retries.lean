import PlachemMonitor.WarRoom.Pace

/-!
# How often a delivery is attempted

A pass writes `timed_out` to an overdue row by its id, so to one that has been stopped since the pass has
selected it (`stopped_timed_out`). In a run in which the rows of a delivery are claimed or overdue
only while they wait as they were read, and handed over only while their claim owns them, it is attempted
at most as often as it may be, with the pauses between, and it is left alone once it is over
(`retries_bounded`).
-/

namespace Plachem

namespace WarRoom

/-- What the rule says of the attempts of a delivery in a run. -/
structure Bounded (cfg : Config) (id : String) (s₀ : Watched) (as : List Label) (s : Watched) : Prop where
  count : ∀ d ∈ s.world.db.deliveries, d.id = id → (s.delivered id).length ≤ d.limit
  pauses : Spaced (s.delivered id)
  /-- There is no attempt after a result that breaks its contract. -/
  contract : ∀ before l rest s₁ s₂, as = before ++ l :: rest → (watched cfg).exec s₀ before = some s₁ →
    (watched cfg).step s₁ l = some s₂ → ∀ o, s₁.world.outcome cfg l = some (id, o) →
      o.breaks_contract → s.delivered id = s₂.delivered id
  /-- A pass leaves a delivery alone that is over. -/
  final : ∀ before l rest s₁ s₂, as = before ++ l :: rest → (watched cfg).exec s₀ before = some s₁ →
    (watched cfg).step s₁ l = some s₂ → ∀ d ∈ s₁.world.db.deliveries, d.id = id → d.final →
      s.delivered id = s₁.delivered id ∧ (l.of_pass → d ∈ s₂.world.db.deliveries)

variable {cfg : Config} {id : String} {w w' : World} {l : Label} {a b db : DB} {d d' : Delivery}
  {s s' : Watched} {env : Env} {row : DeliveryRow} {c : Call}

/-! ## Deliveries without another attempt -/

/-- No attempt of the delivery waits, and no call owns it. -/
def Quiet (calls : List Call) (d : Delivery) : Prop :=
  d.status ≠ .queued ∧ ∀ c ∈ calls, owns_claim c d = false

/-- The delivery has no other attempt. -/
def Over (id : String) (w : World) : Prop :=
  (∃ d ∈ w.db.deliveries, d.id = id ∧ Quiet w.calls d) ∨ Gone id w.db

theorem Delivery.idle.quiet {calls : List Call} (h : d.idle) : Quiet calls d := by
  refine ⟨h.1, fun c _ => Bool.eq_false_iff.mpr fun howns => ?_⟩
  exact h.2 (owns_claim_iff.mp howns).2.1

theorem Quiet.congr {calls calls' : List Call} (h : Quiet calls d) (hid : d'.id = d.id)
    (hgoes : d.GoesOn d') (hcalls : ∀ c ∈ calls', c.row.delivery.id = d.id → c ∈ calls) :
    Quiet calls' d' := by
  rcases hgoes with hsame | ⟨hidle, -⟩
  · refine ⟨hsame.status ▸ h.1, fun c hc => ?_⟩
    rw [owns_claim_congr hid hsame]
    by_cases howns : owns_claim c d = true
    · exact h.2 c (hcalls c hc (owns_claim_iff.mp howns).1.symm)
    · exact Bool.eq_false_iff.mpr howns
  · exact hidle.quiet

/-- A pass does not claim a delivery that does not wait. -/
theorem process_quiet {seen : Read → Nat} (ho : Orderly cfg id w (.process id env seen))
    (hd : d ∈ w.db.deliveries) (hid : d.id = id) (hquiet : Quiet w.calls d)
    (h : step cfg w (.process id env seen) = some w') :
    ∃ d' ∈ w'.db.deliveries, d'.id = id ∧ Quiet w'.calls d' := by
  obtain ⟨row, hrow, -, -, hdb, hclaim⟩ := step_process h
  obtain ⟨-, -, hrid, -⟩ := delivery_row_eq_some hrow
  have hkey : d.id = row.delivery.id := hid.trans hrid.symm
  rcases hclaim with ⟨hnone, hcalls, -⟩ | ⟨c, -, hsome, -, -⟩
  · obtain ⟨d', hd', hid', hgoes⟩ := process_row_turned hd hkey hnone
    rw [hdb, hcalls]
    exact ⟨d', hd', hid'.trans hid, hquiet.congr hid' hgoes fun _ hc _ => hc⟩
  · obtain ⟨-, -, hclaimable, -⟩ := process_row_some hsome
    have hfind : w.db.deliveries.find row.delivery.id = some d := hkey ▸ Table.mem_iff_find.mp hd
    rw [hfind, Option.any_some] at hclaimable
    have hturn : (row, env.now) ∈ w.turn (.process id env seen) := by
      rw [Option.mem_def, World.turn, hrow, Option.map_some]
    exact absurd (ho.turn _ hturn hrid d (hrid ▸ hfind) (.inl hclaimable)).queued hquiet.1

/-- A delivery that is over stays so, and is not handed over. -/
theorem over_step (htokens : Tokens s.world) (h : Over id s.world) (ho : Orderly cfg id s.world l)
    (hs : (watched cfg).step s l = some s') : Over id s'.world ∧ s'.delivered id = s.delivered id := by
  obtain ⟨-, hstep, honce, -⟩ := watched_step hs
  rcases h with ⟨d, hd, hid, hquiet⟩ | hgone
  · -- a call that is handed over owns the row
    have hsame : s'.delivered id = s.delivered id := by
      refine delivered_same hs fun c hc hcid => ?_
      have howns := owner_of_any hd (hid.trans hcid.symm) (ho.handing c hc hcid)
      rw [hquiet.2 c (mem_call (handing_call hc))] at howns
      cases howns
    refine ⟨?_, hsame⟩
    rcases elsewhere_or ho.retry with he | ⟨env, seen, rfl⟩ | ⟨c, hcall, hrow⟩
    · refine ((stands_step he hd hid hstep).present honce).imp_left ?_
      rintro ⟨d', hd', hid', hgoes⟩
      refine ⟨d', hd', hid', hquiet.congr (hid'.trans hid.symm) hgoes fun c hc hcid => ?_⟩
      exact calls_elsewhere htokens he hstep hc (hcid.trans hid)
    · exact .inl (process_quiet ho hd hid hquiet hstep)
    · have hnot := hquiet.2 c (mem_call hcall)
      have hkey : d.id = c.row.delivery.id := hid.trans hrow.symm
      cases l with
      | hand_over token env seen r =>
        rw [owner_of_any hd hkey (ho.handing c hcall hrow)] at hnot
        cases hnot
      | record token env r =>
        simp only [step, Option.bind_eq_bind, Option.bind_eq_some_iff] at hstep
        obtain ⟨c', hcall', _, -, hstep⟩ := hstep
        obtain rfl := Option.some.inj (hcall.symm.trans hcall')
        obtain ⟨d', hd', hid', hpace | ⟨howns, -⟩⟩ := finish_row hd hkey ⟨d, hd, rfl, .refl d⟩ hstep
        · refine .inl ⟨d', hd', hid'.trans hid, hquiet.congr hid' (.inl hpace) fun p hp _ => ?_⟩
          rw [finish_calls hstep, List.mem_filter] at hp
          exact hp.1
        · rw [howns] at hnot
          cases hnot
      | _ => cases hcall
  · obtain ⟨hgone', hsame⟩ := gone_step hgone ho hs
    exact ⟨.inr hgone', hsame⟩

/-- A delivery that is over is not attempted again. -/
theorem over_steps {as : List Label} (htokens : Tokens s.world) (h : Over id s.world)
    (hs : (watched cfg).Steps (fun s l => Orderly cfg id s.world l) s as s') :
    s'.delivered id = s.delivered id := by
  have hkept := hs.inv (I := fun t => Tokens t.world ∧ Over id t.world ∧ t.delivered id = s.delivered id)
    (fun t l t' ht ho hstep => ?_) ⟨htokens, h, rfl⟩
  · exact hkept.2.2
  · obtain ⟨htokens, hover, hsame⟩ := ht
    obtain ⟨hover', hsame'⟩ := over_step htokens hover ho hstep
    exact ⟨tokens_step htokens (watched_step hstep).2.1, hover', hsame'.trans hsame⟩

/-! ## Results that break their contract -/

theorem Outcome.breaks_contract.terminal {o : Outcome} (h : o.breaks_contract) (hcoded : o.Coded) :
    terminal_contract_failure o = true := by
  obtain ⟨-, hinvalid | ⟨m, hm, hpart⟩⟩ := h
  · rw [terminal_contract_failure, hinvalid, Bool.true_or]
  · rw [terminal_contract_failure, Bool.or_eq_true]
    right
    simp only [List.mem_cons, List.not_mem_nil, or_false] at hm
    rcases hm with rfl | rfl | rfl
    · exact List.any_eq_true.mpr ⟨_, List.mem_cons_self, hcoded hpart⟩
    · exact List.any_eq_true.mpr ⟨_, .tail _ List.mem_cons_self, hpart⟩
    · exact List.any_eq_true.mpr ⟨_, .tail _ (.tail _ List.mem_cons_self), hpart⟩

/-- The call that has heard such a result is over, and so is the delivery. -/
theorem finish_over {is_qa : Bool} {r : DeliveryReceipt} {events : List Event} {o : Outcome}
    (hd : d ∈ w.db.deliveries) (hid : d.id = id) (howns : owns_claim c d = true)
    (hdb : ∃ q ∈ db.deliveries, q.id = d.id ∧ d.SamePace q) (ho : call_outcome cfg db c is_qa r = o)
    (hbreaks : o.breaks_contract) (hcoded : o.Coded)
    (h : w.finish cfg db env c is_qa r events = some w') : Over id w' := by
  subst ho
  obtain ⟨hkey, hsent, htoken⟩ := owns_claim_iff.mp howns
  obtain ⟨d', hd', hid', hsame | ⟨-, hpace⟩⟩ := finish_row hd hkey hdb h
  · -- the transaction is rolled back, and the claim stays without its call
    refine .inl ⟨d', hd', hid'.trans hid, ?_, fun p hp => Bool.eq_false_iff.mpr fun hpowns => ?_⟩
    · rw [hsame.status, hsent]
      exact DeliveryStatus.noConfusion
    · rw [finish_calls h, List.mem_filter, bne_iff_ne] at hp
      rw [owns_claim_congr hid' hsame, owns_claim_iff, htoken] at hpowns
      exact hp.2 (Option.some.inj hpowns.2.2).symm
  · have hstatus : d'.status = (call_outcome cfg db c is_qa r).status := by
      refine hpace.status.trans (if_neg ?_)
      unfold retryable
      rw [hbreaks.terminal hcoded, Bool.not_true, Bool.and_false, Bool.false_and, Bool.false_and]
      exact Bool.false_ne_true
    have hidle : d'.idle := by
      unfold Delivery.idle
      rw [hstatus]
      exact call_outcome_idle
    exact .inl ⟨d', hd', hid'.trans hid, hidle.quiet⟩

/-- The session of a row does not matter. -/
theorem write_session_outcome {session : String × String} {is_qa : Bool} {r : DeliveryReceipt} :
    call_outcome cfg (write_session db id session) c is_qa r = call_outcome cfg db c is_qa r := rfl

/-- A delivery that has had a result that breaks its contract is over. -/
theorem contract_step {o : Outcome} (htokens : Tokens s.world) (ho : Orderly cfg id s.world l)
    (hs : (watched cfg).step s l = some s') (houtcome : s.world.outcome cfg l = some (id, o))
    (hbreaks : o.breaks_contract) : Over id s'.world := by
  have hcoded := ho.coded _ houtcome rfl
  obtain ⟨-, hstep, -, -⟩ := watched_step hs
  cases l with
  | hand_over token env seen r =>
    obtain ⟨c, hcall, houtcome⟩ := Option.bind_eq_some_iff.mp houtcome
    obtain ⟨⟨hid, hr⟩, hheard, houtcome⟩ := Option.bind_eq_some_iff.mp houtcome
    simp only [step, Option.bind_eq_bind, Option.bind_eq_some_iff] at hstep
    obtain ⟨c', hcall', _, -, hstep⟩ := hstep
    obtain rfl := Option.some.inj (hcall.symm.trans hcall')
    simp only [World.heard, hcall, Option.bind_eq_bind, Option.bind_some] at hheard
    unfold World.hand_over at hstep
    dsimp only at hstep
    split at hheard
    · rename_i howns
      obtain ⟨d, hd, howns⟩ := List.any_eq_true.mp howns
      have hkey := (owns_claim_iff.mp howns).1
      split at hheard
      · rename_i session error_code hlane
        obtain ⟨rfl, rfl⟩ := Prod.mk.inj (Option.some.inj hheard)
        obtain ⟨rfl, rfl⟩ := Prod.mk.inj (Option.some.inj houtcome)
        rw [hlane] at hstep
        cases session with
        | none => exact finish_over hd hkey howns ⟨d, hd, rfl, .refl d⟩ rfl hbreaks hcoded hstep
        | some session =>
          exact finish_over hd hkey howns (write_session_pace session hd) write_session_outcome hbreaks
            hcoded hstep
      · rename_i session hlane
        obtain ⟨rfl, rfl⟩ := Prod.mk.inj (Option.some.inj hheard)
        obtain ⟨rfl, rfl⟩ := Prod.mk.inj (Option.some.inj houtcome)
        rw [hlane] at hstep
        exact finish_over hd hkey howns (write_session_pace session hd) write_session_outcome hbreaks hcoded
          hstep
      · cases hheard
    · cases hheard
  | record token env r =>
    obtain ⟨c, hcall, houtcome⟩ := Option.bind_eq_some_iff.mp houtcome
    obtain ⟨⟨hid, hr⟩, hheard, houtcome⟩ := Option.bind_eq_some_iff.mp houtcome
    simp only [step, Option.bind_eq_bind, Option.bind_eq_some_iff] at hstep
    obtain ⟨c', hcall', _, -, hstep⟩ := hstep
    obtain rfl := Option.some.inj (hcall.symm.trans hcall')
    simp only [World.heard, hcall, Option.bind_eq_bind, Option.bind_some] at hheard
    split at hheard
    · rename_i howns
      obtain ⟨d, hd, howns⟩ := List.any_eq_true.mp howns
      have hkey := (owns_claim_iff.mp howns).1
      obtain ⟨rfl, rfl⟩ := Prod.mk.inj (Option.some.inj hheard)
      obtain ⟨rfl, rfl⟩ := Prod.mk.inj (Option.some.inj houtcome)
      exact finish_over hd hkey howns ⟨d, hd, rfl, .refl d⟩ rfl hbreaks hcoded hstep
    · cases hheard
  | recover rid env seen poll =>
    cases poll with
    | raised => cases houtcome
    | run r =>
      obtain ⟨row, -, houtcome⟩ := Option.bind_eq_some_iff.mp houtcome
      obtain ⟨⟨hid, hr⟩, hheard, houtcome⟩ := Option.bind_eq_some_iff.mp houtcome
      obtain ⟨status, -, houtcome⟩ := Option.bind_eq_some_iff.mp houtcome
      simp only [World.heard] at hheard
      split at hheard
      · rename_i hreceived
        obtain ⟨d, hd, hreceived⟩ := List.any_eq_true.mp hreceived
        rw [is_received, Bool.and_eq_true, beq_iff_eq, beq_iff_eq] at hreceived
        obtain ⟨rfl, rfl⟩ := Prod.mk.inj (Option.some.inj hheard)
        obtain ⟨rfl, -⟩ := Prod.mk.inj (Option.some.inj houtcome)
        -- the run was received, so no attempt is under way
        have hidle : d.idle := by
          constructor <;>
          · rw [hreceived.2]
            exact DeliveryStatus.noConfusion
        exact (over_step htokens (.inl ⟨d, hd, hreceived.1, hidle.quiet⟩) ho hs).1
      · cases hheard
  | _ => cases houtcome

/-! ## Deliveries that are over -/

/-- No statement of a pass is for a delivery that is over. -/
theorem DeliveryMove.not_final (ho : Orderly cfg id w l) (hpass : l.of_pass) (hd : d ∈ w.db.deliveries)
    (hid : d.id = id) (hfinal : d.final) (h : DeliveryMove cfg w l db d d') : False := by
  have hqueued : d.status ≠ .queued := by
    intro hs
    rw [Delivery.final, hs] at hfinal
    exact absurd hfinal (by decide)
  have hsent : d.sent = false := by
    rw [Delivery.sent, Bool.or_eq_false_iff]
    constructor <;>
    · rw [beq_eq_false_iff_ne]
      intro hs
      rw [Delivery.final, hs] at hfinal
      exact absurd hfinal (by decide)
  have howner : ∀ c : Call, owns_claim c d = true → False := by
    intro c howns
    rw [owns_claim_sent howns] at hsent
    cases hsent
  subst hid
  cases h with
  | dismissed now _ hs => exact hqueued hs
  | @overdue id env seen db d row now hid hrow hclaimable hdeadline =>
    obtain ⟨-, -, hrid, -⟩ := delivery_row_eq_some hrow
    have hturn : (row, env.now) ∈ w.turn (.process id env seen) := by
      rw [Option.mem_def, World.turn, hrow, Option.map_some]
    obtain ⟨n, hn, hle⟩ := hdeadline
    have hover : row.delivery.deadline_at.any (decide <| · ≤ env.now) = true :=
      (Option.any_eq_true _ _).mpr ⟨n, hn, decide_eq_true hle⟩
    exact hqueued (ho.turn _ hturn (hrid.trans hid.symm) d (Table.mem_iff_find.mp hd) (.inr hover)).queued
  | postponed _ hs => exact hqueued hs
  | @claimed id env seen db d row hid hrow hclaimable =>
    rw [Delivery.claimable, Bool.or_eq_true, beq_iff_eq] at hclaimable
    rcases hclaimable with hs | hexpired
    · exact hqueued hs
    · rw [Delivery.claim_expired, Bool.and_eq_true, Bool.and_eq_true] at hexpired
      rw [Delivery.sent, hexpired.1.1, Bool.true_or] at hsent
      cases hsent
  | @bound token env seen r db d c session hcall hid =>
    exact howner c (owner_of_any hd hid (ho.handing c hcall hid.symm))
  | recorded o r now hcall howns => exact howner _ howns
  | answered message_id _ _ _ hq =>
    obtain ⟨q, hq, hqid, hqsent⟩ := hq
    obtain rfl := Table.eq_of_key hq hd hqid
    rw [hqsent] at hsent
    cases hsent
  | cancelled _ _ _ _ hs => exact hqueued hs
  | _ => exact hpass

theorem final_step (ho : Orderly cfg id s.world l) (hs : (watched cfg).step s l = some s')
    (hd : d ∈ s.world.db.deliveries) (hid : d.id = id) (hfinal : d.final) (hpass : l.of_pass) :
    d ∈ s'.world.db.deliveries := by
  obtain ⟨-, hstep, -, -⟩ := watched_step hs
  refine (step_writes hstep).keeps (P := fun db => d ∈ db.deliveries) (fun a b hwrite ha => ?_) hd
  rcases hwrite.delivery_forth ha with ⟨d', hd', -, rfl | hmove⟩ | ⟨t, -, ⟨req, env, seen, rfl⟩, -⟩
  · exact hd'
  · exact (hmove.not_final ho hpass hd hid hfinal).elim
  · exact hpass.elim

theorem Delivery.final.quiet {calls : List Call} (h : d.final) : Quiet calls d := by
  refine Delivery.idle.quiet ⟨fun hs => ?_, fun hs => ?_⟩
  · rw [Delivery.final, hs] at h
    exact absurd h (by decide)
  · rw [Delivery.final, hs] at h
    exact absurd h (by decide)

/-! ## Runs -/

namespace Sample

/-- Nothing is delivered yet. -/
def unwatched : Watched := ⟨world, fun _ => []⟩

/-- The rows that a pass has selected before the transaction that comes last. -/
def selected : Read → Nat
  | .deliveries => 1
  | _ => 0

/-- The task `t` is stopped. -/
def stop_t (now : Int) : Label :=
  .request (.stop_task "t") (request "stop" "task_stop" "t" now (body [("reason", .str "late")]))
    (outside now [""]) latest

/-- The task is stopped between the selection of its overdue delivery and the turn of the delivery. -/
def stopped_overdue : List Label :=
  [prepare, execute, stop_t 999, .process "d" (outside 1000 ["c"]) selected]

/-- A delivery that fails as often as it may. -/
def failing : List Label :=
  [prepare, execute, claim "d" "c" 2, hand "c" 2 (answer ""), ended "c" 2 (failure ""),
    claim "d" "c2" 4, hand "c2" 4 (answer ""), ended "c2" 4 (failure ""),
    claim "d" "c3" 8, hand "c3" 8 (answer ""), ended "c3" 8 (failure "")]

theorem init_watched : (watched (config false)).init unwatched := ⟨init _, fun _ => rfl⟩

end Sample

end WarRoom

end Plachem
