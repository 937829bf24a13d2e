import PlachemMonitor.WarRoom.Calls

/-!
# Claims and their tokens

* `process_row_some`: what a claim has checked, and what it makes of its row.
* `step_process`: a step of a pass makes at most one call, and it is not handed over yet.
* `step_log`: the log only grows.
* `Tokens w`: the token of a call is that of its claim, and no other row has it. `inductive_tokens`: so it
  is in every run.
-/

namespace Plachem

namespace WarRoom

variable {cfg : Config} {w w' : World} {l : Label} {db : DB} {env : Env} {row : DeliveryRow} {c : Call}

/-- A claim is of a row that can be claimed. -/
theorem process_row_some {view : View} (h : (process_row view db env row).2 = some c) :
    c = ⟨row, env.uuid 0, none⟩ ∧ row.delivery.deadline_at.any (decide <| · ≤ env.now) = false ∧
      ((db.deliveries.find row.delivery.id).any fun q => q.claimable env.now) = true ∧
      (process_row view db env row).1 = { db with
        deliveries := db.deliveries.update (fun q => q.id == row.delivery.id && q.claimable env.now)
          fun q => q.claimed (env.uuid 0) env.now } := by
  unfold process_row at h ⊢
  dsimp only at h ⊢
  split at h
  · cases h
  rename_i hadmitted
  split at h
  · cases h
  rename_i hdeadline
  split at h
  · cases h
  rename_i hbusy
  split at h
  · rename_i hclaimable
    rw [if_neg hadmitted, if_neg hdeadline, if_neg hbusy]
    exact ⟨(Option.some.inj h).symm, by simpa using hdeadline, hclaimable, rfl⟩
  · cases h

/-- A step of a pass. -/
theorem step_process {id : String} {seen : Read → Nat} (h : step cfg w (.process id env seen) = some w') :
    ∃ row, delivery_row (w.view seen .deliveries) id = some row ∧ row.delivery.due env.now = true ∧
      w.fresh_token (env.uuid 0) = true ∧ w'.db = (process_row (w.view seen) w.db env row).1 ∧
      (((process_row (w.view seen) w.db env row).2 = none ∧ w'.calls = w.calls ∧ w'.log = w.log) ∨
        ∃ c d, (process_row (w.view seen) w.db env row).2 = some c ∧ w'.calls = w.calls ++ [c] ∧
          w'.log = .claimed d c.token :: w.log) := by
  simp only [step, Option.bind_eq_bind, Option.bind_eq_some_iff] at h
  obtain ⟨row, hrow, _, hguard, h⟩ := h
  obtain ⟨hdue, hfresh⟩ := (Option.guard_eq_some' _).mp hguard
  refine ⟨row, hrow, hdue, hfresh, ?_⟩
  split at h
  · rename_i hclaim
    obtain ⟨-, rfl⟩ := World.commit_eq_some.mp h
    exact ⟨rfl, .inl ⟨hclaim, rfl, rfl⟩⟩
  · rename_i c hclaim
    obtain ⟨-, rfl⟩ := World.commit_eq_some.mp h
    exact ⟨rfl, .inr ⟨c, _, hclaim, rfl, rfl⟩⟩

/-! ## The log -/

theorem commit_log {calls : List Call} {events : List Event} (h : w.commit db calls events = some w') :
    w.log ⊆ w'.log := by
  obtain ⟨-, rfl⟩ := World.commit_eq_some.mp h
  exact List.subset_append_right events w.log

theorem finish_log {is_qa : Bool} {r : DeliveryReceipt} {events : List Event}
    (h : w.finish cfg db env c is_qa r events = some w') : w.log ⊆ w'.log := by
  unfold World.finish at h
  dsimp only at h
  split at h
  · exact commit_log h
  · exact commit_log h
  · exact commit_log h

theorem step_log (h : step cfg w l = some w') : w.log ⊆ w'.log := by
  cases l with
  | request endpoint req env seen =>
    simp only [step, Option.bind_eq_bind, Option.bind_eq_some_iff] at h
    obtain ⟨_, -, h⟩ := h
    split at h
    · exact commit_log h
    · cases h
      exact List.Subset.refl _
    · cases h
  | process id env seen =>
    obtain ⟨row, -, -, -, -, ⟨-, -, hlog⟩ | ⟨c, d, -, -, hlog⟩⟩ := step_process h
    · rw [hlog]
      exact List.Subset.refl _
    · rw [hlog]
      exact List.subset_cons_self _ _
  | hand_over token env seen r =>
    simp only [step, Option.bind_eq_bind, Option.bind_eq_some_iff] at h
    obtain ⟨c, -, _, -, h⟩ := h
    unfold World.hand_over at h
    dsimp only at h
    split at h
    · exact finish_log h
    · exact finish_log h
    · exact finish_log h
    · exact commit_log h
  | record token env r =>
    simp only [step, Option.bind_eq_bind, Option.bind_eq_some_iff] at h
    obtain ⟨c, -, _, -, h⟩ := h
    exact finish_log h
  | abandon token =>
    cases h
    exact List.Subset.refl _
  | recover id env seen poll =>
    simp only [step, Option.bind_eq_bind, Option.bind_eq_some_iff] at h
    obtain ⟨row, -, _, -, h⟩ := h
    split at h
    · exact commit_log h
    · cases h
  | request_delivery_retry id env seen =>
    simp only [step, Option.bind_eq_bind, Option.bind_eq_some_iff] at h
    obtain ⟨q, -, db', -, h⟩ := h
    exact commit_log h
  | request_project_stop project_id deadline ids env seen => exact commit_log h
  | process_stop_timer project_id env seen =>
    simp only [step, Option.bind_eq_bind, Option.bind_eq_some_iff] at h
    obtain ⟨db', -, h⟩ := h
    exact commit_log h
  | authorize scope now =>
    simp only [step] at h
    split at h
    · exact commit_log h
    · cases h
  | executions units runs => exact commit_log h
  | finalize task_id status now => exact commit_log h

/-! ## Tokens -/

structure Tokens (w : World) : Prop where
  logged : ∀ c ∈ w.calls, ∃ d, Event.claimed d c.token ∈ w.log
  unique : ∀ c ∈ w.calls, ∀ c' ∈ w.calls, c.token = c'.token → c.row = c'.row

/-- No call has the token that is given to a claim. -/
theorem Tokens.fresh {token : String} (h : Tokens w) (hfresh : w.fresh_token token = true) (hc : c ∈ w.calls) :
    c.token ≠ token := by
  obtain ⟨d, hd⟩ := h.logged c hc
  have hne := List.all_eq_true.mp hfresh _ hd
  exact bne_iff_ne.mp hne

theorem tokens_step (h : Tokens w) (hs : step cfg w l = some w') : Tokens w' := by
  have hlog := step_log hs
  have hold : ∀ c ∈ w'.calls, (∃ q ∈ w.calls, c.row = q.row ∧ c.token = q.token) →
      ∃ d, Event.claimed d c.token ∈ w'.log := by
    rintro c - ⟨q, hq, -, htoken⟩
    obtain ⟨d, hd⟩ := h.logged q hq
    exact ⟨d, hlog (htoken ▸ hd)⟩
  by_cases hprocess : ∃ id env seen, l = .process id env seen
  · obtain ⟨id, env, seen, rfl⟩ := hprocess
    obtain ⟨row, -, -, hfresh, -, ⟨-, hcalls, -⟩ | ⟨c, d, hclaim, hcalls, hclaimed⟩⟩ := step_process hs
    · constructor
      · intro c hc
        exact hold c hc ⟨c, hcalls ▸ hc, rfl, rfl⟩
      · rw [hcalls]
        exact h.unique
    · have htoken : c.token = env.uuid 0 := by rw [(process_row_some hclaim).1]
      have hmem : ∀ q ∈ w'.calls, q ∈ w.calls ∨ q = c := by
        intro q hq
        rw [hcalls, List.mem_append, List.mem_singleton] at hq
        exact hq
      constructor
      · intro q hq
        rcases hmem q hq with hq' | rfl
        · exact hold q hq ⟨q, hq', rfl, rfl⟩
        · exact ⟨d, hclaimed ▸ List.mem_cons_self⟩
      · intro q hq q' hq' heq
        rcases hmem q hq with hq | rfl
        · rcases hmem q' hq' with hq' | rfl
          · exact h.unique q hq q' hq' heq
          · exact absurd (heq.trans htoken) (h.fresh hfresh hq)
        · rcases hmem q' hq' with hq' | rfl
          · exact absurd (heq.symm.trans htoken) (h.fresh hfresh hq')
          · rfl
  · have hfrom : ∀ c ∈ w'.calls, ∃ q ∈ w.calls, c.row = q.row ∧ c.token = q.token := by
      intro c hc
      rcases step_calls hs hc with hold | ⟨id, env, seen, hl, -⟩
      · exact hold
      · exact absurd ⟨id, env, seen, hl⟩ hprocess
    constructor
    · exact fun c hc => hold c hc (hfrom c hc)
    · intro c hc c' hc' heq
      obtain ⟨q, hq, hrow, htoken⟩ := hfrom c hc
      obtain ⟨q', hq', hrow', htoken'⟩ := hfrom c' hc'
      rw [hrow, hrow']
      exact h.unique q hq q' hq' (htoken.symm.trans (heq.trans htoken'))

theorem inductive_tokens (G : World → Label → Prop) : (warRoom cfg).InductiveIf G Tokens where
  init w hw := by
    constructor
    · intro c hc
      rw [hw.2.2.1] at hc
      cases hc
    · intro c hc
      rw [hw.2.2.1] at hc
      cases hc
  step _ _ _ h _ hs := tokens_step h hs

end WarRoom

end Plachem
