import PlachemMonitor.Orchestration.Sound

/-!
# Who holds a unit

`claim_for_dispatch` is won at most once for a unit, and never given up: the call that has won it
holds the unit until it binds it (`Held`, `inductive_held`). A unit whose holder is gone before that
stays as it is: ready, claimed, and never bound (`interrupted_never_bound`).
-/

namespace Plachem

namespace Orchestration

variable {cfg : Config} {w w' w'' : World} {l : Label} {db : DB} {u : ExecutionUnit} {c c' : Call}
  {e : String} {calls : List Call} {events : List Event}

/-- The claims of a unit that have been won. -/
def World.claims (w : World) (execution_id : String) : Nat :=
  w.log.countP fun
    | .claimed e _ => e == execution_id
    | .submitted _ _ => false

/-- A call that has won the claim of its unit. -/
def Call.Holds (c : Call) (execution_id : String) : Prop :=
  c.stage ≠ .submitted ∧ c.unit.execution_id = execution_id

structure Held (w : World) : Prop where
  claims : ∀ e, w.claims e ≠ 0 → w.claims e = 1 ∧
    ∃ u ∈ w.db.units, u.execution_id = e ∧ u.dispatch_claimed_at.isSome = true
  claimed : ∀ u ∈ w.db.units, u.dispatch_claimed_at.isSome = true → w.claims u.execution_id = 1
  holder : ∀ c ∈ w.calls, ∀ e, c.Holds e → ∃ u ∈ w.db.units, u.execution_id = e ∧
    u.dispatch_claimed_at.isSome = true ∧ u.core_run_id = none
  single : ∀ c ∈ w.calls, ∀ c' ∈ w.calls, ∀ e, c.Holds e → c'.Holds e → c = c'
  bound : ∀ u ∈ w.db.units, u.core_run_id.isSome = true → u.dispatch_claimed_at.isSome = true

namespace Held

theorem claims_le (h : Held w) (e : String) : w.claims e ≤ 1 := by
  by_cases hzero : w.claims e = 0
  · omega
  · exact (h.claims e hzero).1.le

theorem unclaimed (h : Held w) (hu : u ∈ w.db.units) (hnone : u.dispatch_claimed_at = none) :
    w.claims u.execution_id = 0 := by
  by_contra hne
  obtain ⟨-, q, hq, hid, hclaimed⟩ := h.claims _ hne
  rw [Table.eq_of_key hq hu hid, hnone] at hclaimed
  cases hclaimed

/-- Nobody holds a unit that can be claimed. -/
theorem not_holds (h : Held w) (hu : u ∈ w.db.units) (hnone : u.dispatch_claimed_at = none)
    (hc : c ∈ w.calls) : ¬c.Holds u.execution_id := by
  intro hholds
  obtain ⟨q, hq, hid, hclaimed, -⟩ := h.holder c hc _ hholds
  rw [Table.eq_of_key hq hu hid, hnone] at hclaimed
  cases hclaimed

end Held

theorem ExecutionUnit.claimable_iff : u.claimable = true ↔
    u.core_run_id = none ∧ u.dispatch_claimed_at = none := by
  simp [ExecutionUnit.claimable]

/-! ## What a step claims and binds -/

/-- A unit that is claimed was so before, or the step has claimed it. -/
theorem effect_claimed (he : Effect cfg w l db calls events) (hu : u ∈ db.units)
    (hclaimed : u.dispatch_claimed_at.isSome = true) :
    (∃ q ∈ w.db.units, q.execution_id = u.execution_id ∧ q.dispatch_claimed_at.isSome = true) ∨
      ∃ token, events = [.claimed u.execution_id token] := by
  cases effect_unit he hu with
  | same hmem => exact .inl ⟨u, hmem, rfl, hclaimed⟩
  | compiled _ hnone => simp [hnone] at hclaimed
  | input hq _ _ heq | bound hq _ _ heq =>
    subst heq
    exact .inl ⟨_, hq, rfl, hclaimed⟩
  | claimed hq _ hevents heq =>
    subst heq
    exact .inr ⟨_, hevents⟩

/-- A unit that is bound was so before, or the step has bound it. -/
theorem effect_bound (h : Sound w) (he : Effect cfg w l db calls events) (hu : u ∈ db.units)
    (hbound : u.core_run_id.isSome = true) :
    (∃ q ∈ w.db.units, q.execution_id = u.execution_id ∧ q.core_run_id.isSome = true) ∨
      ∃ token c, w.call token .dispatched = some c ∧ c.unit.execution_id = u.execution_id ∧
        l = .bind token ∧ calls = w.advance token none ∧ events = [] := by
  cases effect_unit he hu with
  | same hmem => exact .inl ⟨u, hmem, rfl, hbound⟩
  | compiled hnone => simp [hnone] at hbound
  | input hq _ _ heq | claimed hq _ _ heq =>
    subst heq
    exact .inl ⟨_, hq, rfl, hbound⟩
  | @bound q hq hnil hcause heq =>
    subst heq
    rcases hcause with ⟨token, c, rfl, hc, hid, hcalls⟩ | ⟨seen, unit, -, hunit, hid, hrun⟩
    · exact .inr ⟨token, c, hc, hid, rfl, hcalls, hnil⟩
    · -- the row that was read is bound, so the present one is
      obtain ⟨r, hr⟩ := Option.isSome_iff_exists.mp hrun
      obtain ⟨-, hold⟩ := (h.formed _).run_id hunit hr
      have hgrown := (h.latest _).unit hunit hq hid.symm
      exact .inl ⟨q, hq, rfl, hgrown.bound (by rw [hold]; rfl)⟩

/-- What an event of a claim tells. -/
theorem effect_claim {token : String} (he : Effect cfg w l db calls events)
    (hevent : .claimed e token ∈ events) : events = [.claimed e token] ∧
      (∃ q ∈ w.db.units, q.execution_id = e ∧ q.claimable = true) ∧
      ∃ u ∈ db.units, u.execution_id = e ∧ u.dispatch_claimed_at.isSome = true := by
  have hclaimed : ∀ {q : ExecutionUnit} {now : Int}, q ∈ w.db.units → q.claimable = true →
      ∃ u ∈ (claim_for_dispatch w.db q.execution_id now).1.units, u.execution_id = q.execution_id ∧
        u.dispatch_claimed_at.isSome = true :=
    fun {q now} hq hclaimable =>
      ⟨{ q with dispatch_claimed_at := some now }, mem_claim.mpr ⟨q, hq, by simp [hclaimable]⟩, rfl, rfl⟩
  cases he with
  | claim hc hq hid hclaimable =>
    cases List.mem_singleton.mp hevent
    exact ⟨rfl, ⟨_, hq, hid, hclaimable⟩, hid ▸ hclaimed hq hclaimable⟩
  | proceed _ _ _ _ _ _ hq hid hclaimable =>
    cases List.mem_singleton.mp hevent
    exact ⟨rfl, ⟨_, hq, hid, hclaimable⟩, hid ▸ hclaimed hq hclaimable⟩
  | dispatch | replay => cases List.mem_singleton.mp hevent
  | _ => exact absurd hevent List.not_mem_nil

/-- How a call comes about. -/
inductive CallBecame (w : World) (l : Label) (events : List Event) (c : Call) : Prop
  | same : c ∈ w.calls → CallBecame w l events c
  | submitted : c.stage = .submitted → CallBecame w l events c
  | continued {q} : c.stage = .continued → q ∈ w.db.units → q.claimable = true →
    q.dispatch_input = some c.input → c.unit.execution_id = q.execution_id →
    events = [.claimed q.execution_id c.token] →
    CallBecame w l events c
  | claimed {q now} : q ∈ w.calls → q.stage = .submitted → l = .claim q.token now →
    events = [.claimed q.unit.execution_id q.token] → c = { q with stage := .claimed } →
    CallBecame w l events c
  | resubmitted {q} : q ∈ w.calls → q.stage = .continued → c = { q with stage := .claimed } →
    CallBecame w l events c
  | dispatched {q} : q ∈ w.calls → q.stage = .claimed →
    events = [.submitted q.unit.execution_id q.input] → c = { q with stage := .dispatched } →
    CallBecame w l events c

theorem effect_call (h : Sound w) (he : Effect cfg w l db calls events) (hc : c ∈ calls) :
    CallBecame w l events c := by
  have hadvance : ∀ {token : String} {stage stage' : Stage} {q : Call}, w.call token stage = some q →
      c ∈ w.advance token (some stage') → c ∈ w.calls ∨ c = { q with stage := stage' } := by
    intro token stage stage' q hq hc
    obtain ⟨hmem, htoken, -⟩ := call_some hq
    obtain ⟨q', hq', rfl⟩ := mem_advance.mp hc
    split
    · rename_i htoken'
      exact .inr (by rw [h.token hq' hmem (htoken'.trans htoken.symm)])
    · exact .inl hq'
  cases he with
  | begin =>
    rcases List.mem_append.mp hc with hc | hc
    · exact .same hc
    · exact .submitted (by rw [List.mem_singleton.mp hc])
  | proceed _ _ _ _ _ _ hu hid hclaimable hinput =>
    rcases List.mem_append.mp hc with hc | hc
    · exact .same hc
    · obtain rfl := List.mem_singleton.mp hc
      subst hid
      exact .continued rfl hu hclaimable hinput rfl rfl
  | claim hq =>
    obtain ⟨hmem, htoken, hstage⟩ := call_some hq
    rcases hadvance hq hc with hc | hc
    · exact .same hc
    · exact .claimed hmem hstage (by rw [htoken]) (by rw [htoken]) hc
  | resubmit hq =>
    obtain ⟨hmem, -, hstage⟩ := call_some hq
    rcases hadvance hq hc with hc | hc
    · exact .same hc
    · exact .resubmitted hmem hstage hc
  | @dispatch token answer q runs status hq hd =>
    obtain ⟨hmem, -, hstage⟩ := call_some hq
    cases status with
    | none => exact .same (mem_advance_none.mp hc).1
    | some s =>
      rcases hadvance hq hc with hc | hc
      · exact .same hc
      · exact .dispatched hmem hstage rfl hc
  | lose | bind | abandon => exact .same (mem_advance_none.mp hc).1
  | compile | replay | rebind | finalize | core => exact .same hc

/-- A call that holds a unit held it before, or has claimed it. -/
theorem effect_holder (h : Sound w) (he : Effect cfg w l db calls events) (hc : c ∈ calls)
    (hholds : c.Holds e) :
    (∃ q ∈ w.calls, q.Holds e ∧ q.token = c.token) ∨ events = [.claimed e c.token] := by
  obtain ⟨hstage, hid⟩ := hholds
  cases effect_call h he hc with
  | same hc => exact .inl ⟨c, hc, ⟨hstage, hid⟩, rfl⟩
  | submitted hsubmitted => exact absurd hsubmitted hstage
  | continued _ _ _ _ hq hevents => exact .inr (by rw [hevents, ← hq, hid])
  | claimed _ _ _ hevents heq =>
    subst heq
    exact .inr (by rw [hevents, ← hid])
  | resubmitted hq hcontinued heq =>
    subst heq
    exact .inl ⟨_, hq, ⟨by rw [hcontinued]; decide, hid⟩, rfl⟩
  | dispatched hq hclaimed _ heq =>
    subst heq
    exact .inl ⟨_, hq, ⟨by rw [hclaimed]; decide, hid⟩, rfl⟩

/-! ## Runs -/

/-- The claims of a unit after a step. -/
theorem effect_claims (he : Effect cfg w l db calls events) (e : String) :
    (World.claims ⟨db, w.db :: w.past, calls, events ++ w.log⟩ e = w.claims e ∧
      ∀ token, events ≠ [.claimed e token]) ∨
    (World.claims ⟨db, w.db :: w.past, calls, events ++ w.log⟩ e = 1 + w.claims e ∧
      ∃ token, events = [.claimed e token]) := by
  by_cases hclaim : ∃ token, events = [.claimed e token]
  · obtain ⟨token, rfl⟩ := hclaim
    exact .inr ⟨by simp [World.claims, Nat.add_comm], token, rfl⟩
  · refine .inl ⟨?_, fun token hevents => hclaim ⟨token, hevents⟩⟩
    have hnone : ∀ event ∈ events, ∀ token, event ≠ .claimed e token := by
      rintro _ hevent token rfl
      exact hclaim ⟨token, (effect_claim he hevent).1⟩
    simp only [World.claims, List.countP_append, Nat.add_eq_right]
    refine List.countP_eq_zero.mpr fun event hevent => ?_
    cases event with
    | submitted => simp
    | claimed e' token =>
      have hne : e' ≠ e := fun heq => hnone _ hevent token (by rw [heq])
      simp [hne]

theorem effect_held (h : Sound w) (hheld : Held w) (he : Effect cfg w l db calls events) :
    Held ⟨db, w.db :: w.past, calls, events ++ w.log⟩ := by
  have hgrows := effect_grows he
  have htokens : ∀ {c c' : Call}, c ∈ calls → c' ∈ calls → c.token = c'.token → c = c' :=
    fun hc hc' htoken => List.inj_on_of_nodup_map (effect_tokens h he) hc hc' htoken
  -- a unit whose claim is won now was not claimed
  have hfirst : ∀ {e token}, events = [.claimed e token] → ∃ q ∈ w.db.units, q.execution_id = e ∧
      q.core_run_id = none ∧ q.dispatch_claimed_at = none := by
    intro e token hevents
    obtain ⟨-, ⟨q, hq, hid, hclaimable⟩, -⟩ := effect_claim he (hevents ▸ List.mem_singleton_self _)
    exact ⟨q, hq, hid, ExecutionUnit.claimable_iff.mp hclaimable⟩
  have hnobody : ∀ {e token}, events = [.claimed e token] → ∀ q ∈ w.calls, ¬q.Holds e := by
    intro e token hevents q hq
    obtain ⟨v, hv, rfl, -, hnone⟩ := hfirst hevents
    exact hheld.not_holds hv hnone hq
  refine ⟨fun e hne => ?_, fun u hu hclaimed => ?_, fun c hc e hholds => ?_,
    fun c hc c' hc' e hholds hholds' => ?_, fun u hu hbound => ?_⟩
  · rcases effect_claims he e with ⟨hsame, -⟩ | ⟨hmore, token, hevents⟩
    · rw [hsame] at hne ⊢
      obtain ⟨hone, u, hu, hid, hclaimed⟩ := hheld.claims e hne
      obtain ⟨u', hu', hgrown⟩ := hgrows.units u hu
      exact ⟨hone, u', hu', hgrown.execution_id.trans hid, hgrown.claimed hclaimed⟩
    · obtain ⟨q, hq, rfl, -, hnone⟩ := hfirst hevents
      obtain ⟨-, -, hnow⟩ := effect_claim he (hevents ▸ List.mem_singleton_self _)
      exact ⟨by rw [hmore, hheld.unclaimed hq hnone], hnow⟩
  · rcases effect_claims he u.execution_id with ⟨hsame, hno⟩ | ⟨hmore, token, hevents⟩
    · rcases effect_claimed he hu hclaimed with ⟨q, hq, hid, hold⟩ | ⟨token, hevents⟩
      · rw [hsame, ← hid, hheld.claimed q hq hold]
      · exact absurd hevents (hno token)
    · obtain ⟨q, hq, hid, -, hnone⟩ := hfirst hevents
      rw [hmore, ← hid, hheld.unclaimed hq hnone]
  · rcases effect_holder h he hc hholds with ⟨q, hq, hqholds, htoken⟩ | hevents
    · obtain ⟨v, hv, rfl, hclaimed, hnone⟩ := hheld.holder q hq e hqholds
      obtain ⟨v', hv', hgrown⟩ := hgrows.units v hv
      refine ⟨v', hv', hgrown.execution_id, hgrown.claimed hclaimed, ?_⟩
      refine Option.not_isSome_iff_eq_none.mp fun hbound => ?_
      rcases effect_bound h he hv' hbound with ⟨v₀, hv₀, hid, hold⟩ | ⟨token, b, hb, hid, -, rfl, -⟩
      · rw [Table.eq_of_key hv₀ hv (hid.trans hgrown.execution_id), hnone] at hold
        cases hold
      · -- whoever binds the unit is its holder, and is over
        obtain ⟨hbmem, hbtoken, hbstage⟩ := call_some hb
        have hbq : b = q := hheld.single b hbmem q hq v.execution_id
          ⟨by rw [hbstage]; decide, hid.trans hgrown.execution_id⟩ hqholds
        exact (mem_advance_none.mp hc).2 (by rw [← htoken, ← hbq, hbtoken])
    · obtain ⟨-, -, v', hv', hid', hclaimed⟩ :=
        effect_claim he (hevents ▸ List.mem_singleton_self _)
      refine ⟨v', hv', hid', hclaimed, Option.not_isSome_iff_eq_none.mp fun hbound => ?_⟩
      obtain ⟨v, hv, hid, hnone, -⟩ := hfirst hevents
      rcases effect_bound h he hv' hbound with ⟨v₀, hv₀, hid₀, hold⟩ | ⟨-, -, -, -, -, -, hnil⟩
      · rw [Table.eq_of_key hv₀ hv (hid₀.trans (hid'.trans hid.symm)), hnone] at hold
        cases hold
      · rw [hevents] at hnil
        cases hnil
  · rcases effect_holder h he hc hholds with ⟨q, hq, hqholds, htoken⟩ | hevents <;>
      rcases effect_holder h he hc' hholds' with ⟨q', hq', hqholds', htoken'⟩ | hevents'
    · have hqq := hheld.single q hq q' hq' e hqholds hqholds'
      exact htokens hc hc' (by rw [← htoken, ← htoken', hqq])
    · exact absurd hqholds (hnobody hevents' q hq)
    · exact absurd hqholds' (hnobody hevents q' hq')
    · rw [hevents] at hevents'
      exact htokens hc hc' (by simpa using hevents')
  · rcases effect_bound h he hu hbound with ⟨q, hq, hid, hold⟩ | ⟨token, b, hb, hid, -, -, -⟩
    · exact (hgrows.unit hq hu hid.symm).claimed (hheld.bound q hq hold)
    · obtain ⟨hbmem, -, hbstage⟩ := call_some hb
      obtain ⟨v, hv, hvid, hclaimed, -⟩ := hheld.holder b hbmem u.execution_id
        ⟨by rw [hbstage]; decide, hid⟩
      exact (hgrows.unit hv hu hvid.symm).claimed hclaimed

theorem inductive_held (G : World → Label → Prop) :
    (orchestrators cfg).InductiveIf G fun w => Sound w ∧ Held w := by
  refine (inductive_sound G).and (fun w hw => ?_) fun w l w' h hheld _ hs => ?_
  · obtain ⟨hunits, -, -, -, hcalls, hlog⟩ := hw
    have hu : ∀ u, u ∉ w.db.units := fun u hu => by rw [Table.mem_def, hunits] at hu; cases hu
    have hc : ∀ c, c ∉ w.calls := fun c hc => by rw [hcalls] at hc; cases hc
    refine ⟨fun e hne => ?_, fun u h => absurd h (hu u), fun c h => absurd h (hc c),
      fun c h => absurd h (hc c), fun u h => absurd h (hu u)⟩
    simp [World.claims, hlog] at hne
  · obtain ⟨db, calls, events, he, rfl⟩ := step_effect hs
    exact effect_held h hheld he

/-! ## Interrupted calls -/

/-- A unit that is ready and claimed, and that nobody holds. -/
structure Orphaned (w : World) (e : String) : Prop where
  unit : ∃ u ∈ w.db.units, u.execution_id = e ∧ u.dispatch_claimed_at.isSome = true ∧
    u.core_run_id = none ∧ ∀ d ∈ u.depends_on_execution_ids, w.db.Passed d
  nobody : ∀ c ∈ w.calls, ¬c.Holds e

/-- Only the holder of a claimed unit binds it, and nobody becomes its holder. -/
theorem effect_orphaned (h : Sound w) (he : Effect cfg w l db calls events)
    (hunit : ∃ u ∈ w.db.units, u.execution_id = e ∧ u.dispatch_claimed_at.isSome = true ∧
      u.core_run_id = none ∧ ∀ d ∈ u.depends_on_execution_ids, w.db.Passed d)
    (hbind : ∀ c ∈ w.calls, c.Holds e → l ≠ .bind c.token)
    (hgone : ∀ c ∈ w.calls, c.Holds e → ∀ q ∈ calls, q.token ≠ c.token) :
    Orphaned ⟨db, w.db :: w.past, calls, events ++ w.log⟩ e := by
  have hgrows := effect_grows he
  obtain ⟨u, hu, rfl, hclaimed, hnone, hpassed⟩ := hunit
  obtain ⟨u', hu', hgrown⟩ := hgrows.units u hu
  refine ⟨⟨u', hu', hgrown.execution_id, hgrown.claimed hclaimed, ?_, fun d hd =>
    (hpassed d (hgrown.depends_on ▸ hd)).grows hgrows⟩, fun c hc hholds => ?_⟩
  · refine Option.not_isSome_iff_eq_none.mp fun hbound => ?_
    rcases effect_bound h he hu' hbound with ⟨q, hq, hid, hold⟩ | ⟨token, c, hc, hid, hl, -, -⟩
    · rw [Table.eq_of_key hq hu (hid.trans hgrown.execution_id), hnone] at hold
      cases hold
    · obtain ⟨hmem, htoken, hstage⟩ := call_some hc
      exact hbind c hmem ⟨by rw [hstage]; decide, hid.trans hgrown.execution_id⟩ (htoken.symm ▸ hl)
  · rcases effect_holder h he hc hholds with ⟨q, hq, hqholds, htoken⟩ | hevents
    · exact hgone q hq hqholds c hc htoken.symm
    · obtain ⟨-, ⟨q, hq, hid, hclaimable⟩, -⟩ := effect_claim he (hevents ▸ List.mem_singleton_self _)
      rw [Table.eq_of_key hq hu hid, ExecutionUnit.claimable_iff] at hclaimable
      rw [hclaimable.2] at hclaimed
      cases hclaimed

/-- Nothing that happens binds an orphaned unit. -/
theorem orphaned_run {G : World → Label → Prop} {as : List Label}
    (run : (orchestrators cfg).Steps G w as w') (h : Sound w ∧ Held w) (ho : Orphaned w e) :
    Sound w' ∧ Orphaned w' e := by
  have hall : (Sound w' ∧ Held w') ∧ Orphaned w' e := by
    refine run.inv (I := fun w => (Sound w ∧ Held w) ∧ Orphaned w e) (fun w l w' hI hg hs => ?_) ⟨h, ho⟩
    obtain ⟨⟨h, hheld⟩, ho⟩ := hI
    refine ⟨(inductive_held G).step w l w' ⟨h, hheld⟩ hg hs, ?_⟩
    obtain ⟨db, calls, events, he, rfl⟩ := step_effect hs
    exact effect_orphaned h he ho.unit (fun c hc hholds => absurd hholds (ho.nobody c hc))
      fun c hc hholds => absurd hholds (ho.nobody c hc)
  exact ⟨hall.1.1, hall.2⟩

/-- Whatever ends a call that holds a unit, other than its binding: the unit stays ready, and is
never bound. -/
theorem interrupted_never_bound {as : List Label} (h : (orchestrators cfg).Reachable w)
    (hc : c ∈ w.calls) (hholds : c.Holds e) (hs : step cfg w l = some w')
    (hgone : ∀ q ∈ w'.calls, q.token ≠ c.token) (hl : l ≠ .bind c.token)
    (run : (orchestrators cfg).Steps (fun _ _ => True) w' as w'') :
    ∃ u ∈ w''.db.units, u.execution_id = e ∧ w''.db.readiness u = .READY ∧ u.core_run_id = none := by
  obtain ⟨hsound, hheld⟩ := (inductive_held _).reachable h
  have hnext := (inductive_held fun _ _ => True).step w l w' ⟨hsound, hheld⟩ trivial hs
  obtain ⟨db, calls, events, he, rfl⟩ := step_effect hs
  obtain ⟨u, hu, hid, hclaimed, hnone⟩ := hheld.holder c hc e hholds
  obtain ⟨v, hv, hvid, hpassed⟩ := (hsound.calls c hc).unit
  obtain rfl : v = u := Table.eq_of_key hv hu (hvid.trans (hholds.2.trans hid.symm))
  have honly : ∀ q ∈ w.calls, q.Holds e → q = c := fun q hq hqholds =>
    hheld.single q hq c hc e hqholds hholds
  have ho := effect_orphaned hsound he ⟨v, hu, hid, hclaimed, hnone, hpassed⟩
    (fun q hq hqholds => honly q hq hqholds ▸ hl) fun q hq hqholds => honly q hq hqholds ▸ hgone
  obtain ⟨hend, hlast⟩ := orphaned_run run hnext ho
  obtain ⟨u', hu', hid', -, hnone', hpassed'⟩ := hlast.unit
  refine ⟨u', hu', hid', evaluate_ready.mpr ⟨(hend.now.not_bound hu').mpr hnone', fun d hd => ?_⟩, hnone'⟩
  exact hend.now.dependency.mpr (hpassed' d hd)

namespace Sample

/-- The unit is claimed, and `engine.dispatch` is yet to be called. -/
def claimed : List Label :=
  [compile [unitA], .begin "k" "A" (input "first") present, .claim "k" 1]

def raised : Label := .dispatch "k" .raised

/-- The same call again. -/
def again : List Label := [.begin "k" "A" (input "first") present, .claim "k" 2]

end Sample

open Sample in
/-- `engine.dispatch` raises once; the same `dispatch_execution` is then refused, and the ready unit
has no run. -/
theorem interrupted_stuck : (orchestrators config).Reachable (after (claimed ++ [raised] ++ again)) ∧
    (after (claimed ++ [raised] ++ again)).calls = [] ∧
    (after (claimed ++ [raised] ++ again)).db.units.rows.map
      (fun u => (u.execution_id, u.core_run_id)) = [("A", none)] ∧
    (after (claimed ++ [raised] ++ again)).db.units.rows.map
      (fun u => (after (claimed ++ [raised] ++ again)).db.readiness u) = [.READY] :=
  ⟨reachable_after _, by decide +kernel, by decide +kernel, by decide +kernel⟩

open Sample in
theorem interrupted_sample : ∃ u ∈ (after (claimed ++ [raised] ++ again)).db.units,
    u.execution_id = "A" ∧ (after (claimed ++ [raised] ++ again)).db.readiness u = .READY ∧
      u.core_run_id = none := by
  have hcall : ((after claimed).call "k" .claimed).any
      (fun c => c.unit.execution_id == "A") = true := by decide +kernel
  obtain ⟨c, hc, hid⟩ := (Option.any_eq_true _ _).mp hcall
  obtain ⟨hmem, htoken, hstage⟩ := call_some hc
  have hholds : c.Holds "A" := ⟨by rw [hstage]; decide, eq_of_beq hid⟩
  have hraised : step config (after claimed) raised = some (after (claimed ++ [raised])) :=
    step_after (by decide +kernel)
  have hgone : ∀ q ∈ (after (claimed ++ [raised])).calls, q.token ≠ c.token := by
    rw [htoken]
    decide +kernel
  have run : (orchestrators config).Steps (fun _ _ => True) (after (claimed ++ [raised])) again
      (after (claimed ++ [raised] ++ again)) :=
    Machine.steps_after (by decide +kernel)
  exact interrupted_never_bound (reachable_after _) hmem hholds hraised hgone (by nofun) run

end Orchestration

end Plachem
