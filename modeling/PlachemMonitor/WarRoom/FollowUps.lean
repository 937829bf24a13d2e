import PlachemMonitor.WarRoom.Steps

/-!
# What follow-ups leave alone

`Follows id a b`: the tables `b` after what follows from an outcome of the delivery `id`. The row of the
delivery is as it was, nothing has responded since, and no message is lost. Each function of a follow-up
has its lemma; `follow_outcome_follows` and `follow_poll_follows` put them together.
-/

namespace Plachem

namespace WarRoom

structure Follows (id : String) (a b : DB) : Prop where
  messages : ∀ m ∈ a.messages, m ∈ b.messages
  own : ∀ d ∈ a.deliveries, d.id = id → d ∈ b.deliveries
  responded : ∀ d ∈ b.deliveries, d.status = .responded → d ∈ a.deliveries

namespace Follows

variable {id : String} {a b c : DB}

theorem refl (a : DB) : Follows id a a := ⟨fun _ h => h, fun _ h _ => h, fun _ h _ => h⟩

theorem trans (h : Follows id a b) (h' : Follows id b c) : Follows id a c where
  messages m hm := h'.messages m (h.messages m hm)
  own d hd hid := h'.own d (h.own d hd hid) hid
  responded d hd hs := h.responded d (h'.responded d hd hs) hs

/-- A statement on other tables. -/
theorem of_eq (hm : b.messages = a.messages) (hd : b.deliveries = a.deliveries) : Follows id a b where
  messages _ h := hm ▸ h
  own _ h _ := hd ▸ h
  responded _ h _ := hd ▸ h

/-- A statement that may write other deliveries, and leaves them without a response. -/
theorem update {cond : Delivery → Bool} {f : Delivery → Delivery} (hf : ∀ d, (f d).id = d.id)
    (hown : ∀ d, cond d = true → d.id ≠ id) (hstatus : ∀ d, (f d).status ≠ .responded)
    (hm : b.messages = a.messages) (hd : b.deliveries = a.deliveries.update cond f hf) :
    Follows id a b where
  messages _ h := hm ▸ h
  own d h hid := by
    rw [hd, Table.mem_update]
    refine ⟨d, h, ?_⟩
    rw [if_neg fun hc => hown d hc hid]
  responded d h hs := by
    rw [hd, Table.mem_update] at h
    obtain ⟨q, hq, rfl⟩ := h
    split at hs
    · exact absurd hs (hstatus q)
    · rename_i hcond
      rwa [if_neg hcond]

theorem ite {p : Prop} [Decidable p] {b c : DB} (h : Follows id a b) (h' : Follows id a c) :
    Follows id a (if p then b else c) := by
  split
  · exact h
  · exact h'

end Follows

variable {cfg : Config} {db db' : DB} {env : Env} {row : DeliveryRow} {id : String}

/-! ## The functions -/

theorem terminal_validation_failure_follows (message_id : String) (revision : Nat)
    (error_code : String) :
    Follows id db (terminal_validation_failure db env message_id id revision error_code) := by
  have hrework : ∀ task, Follows id db
      (terminal_validation_failure.rework env message_id id revision db task) := by
    intro task
    unfold terminal_validation_failure.rework
    refine .update (f := fun d =>
        { d with status := .failed, error_code := some "cancelled_after_terminal_validation" })
      (fun _ => rfl) (fun d hd => ?_) (fun _ => ?_) rfl rfl
    · simp only [Bool.and_eq_true, bne_iff_ne] at hd
      exact hd.1.2
    · exact DeliveryStatus.noConfusion
  unfold terminal_validation_failure
  split
  · exact .refl db
  · split
    · exact .refl db
    · dsimp only
      split
      · exact .ite (.of_eq rfl rfl) (hrework _)
      · exact hrework _

theorem fail_task_follows (error_code : String) :
    Follows row.delivery.id db (fail_task db env row error_code) :=
  .ite (terminal_validation_failure_follows _ _ _) (.refl db)

theorem persist_execution_follows (snapshot : Option ExecutionRun) (project_id : String)
    (task_id : Option String) (agent_id : String) (now : Int) :
    Follows id db (persist_execution db snapshot project_id task_id agent_id now) := by
  rw [persist_execution_eq]
  exact .of_eq rfl rfl

theorem orElse_follows {r : Except HttpError DB} (h : ∀ db', r = .ok db' → Follows id db db') :
    Follows id db (orElse db r).1 := by
  unfold orElse
  split
  · exact h _ rfl
  · exact .refl db

theorem record_auto_qa_verdict_follows {task_id reviewer : String} {verdict : Verdict}
    (h : record_auto_qa_verdict cfg db env task_id reviewer verdict = .ok db') : Follows id db db' := by
  unfold record_auto_qa_verdict at h
  split at h
  · cases h
    exact .refl db
  split at h
  · cases h
    exact .refl db
  split at h
  · cases h
    exact .refl db
  obtain ⟨required, -, h⟩ := bind_eq_ok.mp h
  split at h
  · rw [← pure_eq_ok.mp h]
    exact .of_eq rfl rfl
  · obtain ⟨sign, -, h⟩ := bind_eq_ok.mp h
    obtain ⟨verdicts, -, h⟩ := bind_eq_ok.mp h
    rw [← pure_eq_ok.mp h]
    exact .ite (.of_eq rfl rfl) (.of_eq rfl rfl)

theorem capture_required_evidence_follows {task_id : String}
    (h : capture_required_evidence cfg db env task_id = .ok db') : Follows id db db' := by
  unfold capture_required_evidence at h
  split at h
  · cases h
    exact .refl db
  · split at h
    · obtain ⟨evidence, -, h⟩ := bind_eq_ok.mp h
      rw [← pure_eq_ok.mp h]
      exact .of_eq rfl rfl
    · cases h
      exact .refl db

/-- The review that is queued has not responded. -/
theorem queue_auto_qa_delivery_follows {task_id new_id : String} {message_id : Option String}
    {queued : Bool} (h : queue_auto_qa_delivery cfg db env task_id message_id new_id = .ok (db', queued)) :
    Follows id db db' := by
  have hsame : ∀ {c : DB} {q : Bool},
      (.ok (c, q) : Except HttpError (DB × Bool)) = .ok (db', queued) →
      c.messages = db.messages → c.deliveries = db.deliveries → Follows id db db' := by
    intro c q heq hm hd
    obtain ⟨rfl, -⟩ := Prod.mk.inj (Except.ok.inj heq)
    exact .of_eq hm hd
  unfold queue_auto_qa_delivery at h
  split at h
  · dsimp only at h
    split at h
    · exact hsame h rfl rfl
    split at h
    · exact hsame h rfl rfl
    split at h
    · exact hsame h rfl rfl
    split at h
    · exact hsame h rfl rfl
    · obtain ⟨message_id, -, h⟩ := bind_eq_ok.mp h
      obtain ⟨c, hc, h⟩ := bind_eq_ok.mp h
      obtain ⟨rfl, -⟩ := Prod.mk.inj (pure_eq_ok.mp h)
      obtain ⟨T, hT, rfl, -⟩ := insert_delivery_eq_some (inserted_eq_ok.mp hc)
      refine ⟨fun _ hm => hm, fun d hd _ => (Table.mem_insert hT).mpr (.inl hd), ?_⟩
      intro d hd hs
      rcases (Table.mem_insert hT).mp hd with hd | rfl
      · exact hd
      · cases hs
  · exact hsame h rfl rfl

theorem apply_collaboration_outcome_follows (task_id message_id : String) (revision : Nat) :
    Follows id db (apply_collaboration_outcome cfg db env task_id message_id revision) := by
  unfold apply_collaboration_outcome
  exact .ite (.of_eq rfl rfl) (.of_eq rfl rfl)

theorem enter_auto_qa_follows (task_id message_id : String) :
    Follows id db (enter_auto_qa cfg db env task_id message_id).1 := by
  unfold enter_auto_qa
  split
  · have hcaptured : Follows id db (orElse db (capture_required_evidence cfg db env task_id)).1 :=
      orElse_follows fun _ => capture_required_evidence_follows
    dsimp only
    split
    · exact hcaptured
    · refine hcaptured.trans (orElse_follows fun db' h => ?_)
      obtain ⟨⟨c, queued⟩, hqueue, rfl⟩ := map_eq_ok.mp h
      exact queue_auto_qa_delivery_follows hqueue
  · exact .refl db

theorem after_responded_delivery_follows (result : Option StructuredResult) :
    Follows id db (after_responded_delivery cfg db env row result).1 := by
  unfold after_responded_delivery
  split
  · exact .refl db
  rename_i task htask
  have hresolve : Follows id db (resolve db task.id row.delivery.task_revision row.delivery.id) :=
    .of_eq rfl rfl
  refine hresolve.trans ?_
  dsimp only
  split
  · exact .refl _
  split
  · split
    · exact .refl _
    · exact orElse_follows fun _ => record_auto_qa_verdict_follows
  split
  · exact .refl _
  split
  · exact .refl _
  · exact (apply_collaboration_outcome_follows _ _ _).trans (enter_auto_qa_follows _ _)

theorem safe_after_responded_delivery_follows (result : Option StructuredResult) :
    Follows id db (safe_after_responded_delivery cfg db env row result) := by
  have h : Follows id db (after_responded_delivery cfg db env row result).1 :=
    after_responded_delivery_follows result
  unfold safe_after_responded_delivery
  dsimp only
  split
  · exact h.trans (.of_eq rfl rfl)
  · exact h

/-! ## Outcomes -/

theorem follow_outcome_follows (is_qa : Bool) (o : Outcome) :
    Follows row.delivery.id db (follow_outcome cfg db env row is_qa o) := by
  unfold follow_outcome
  dsimp only
  generalize hfailed : (if is_failure o.status && !retryable env.now row.delivery o then
    terminal_validation_failure db env _ _ _ _ else db) = failed
  generalize hpersisted : (if row.fast is_qa then persist_execution failed _ _ _ _ _
    else failed) = persisted
  have hfail : Follows row.delivery.id db failed :=
    hfailed ▸ .ite (terminal_validation_failure_follows _ _ _) (.refl db)
  have hpersist : Follows row.delivery.id failed persisted :=
    hpersisted ▸ .ite (persist_execution_follows _ _ _ _ _) (.refl failed)
  refine hfail.trans (hpersist.trans ?_)
  split
  · exact .refl _
  · rename_i task _
    have hcount : Follows row.delivery.id persisted (count_outcome cfg persisted row is_qa o task) :=
      .of_eq rfl rfl
    exact hcount.trans (.ite (safe_after_responded_delivery_follows _) (.refl _))

theorem follow_response_follows (o : Outcome) : Follows id db (follow_response cfg db env row o) := by
  unfold follow_response
  split
  · exact .refl db
  · dsimp only
    split
    · exact safe_after_responded_delivery_follows _
    · refine Follows.trans ?_ (safe_after_responded_delivery_follows _)
      exact .of_eq rfl rfl

theorem follow_poll_follows (is_qa : Bool) (o : Outcome) :
    Follows row.delivery.id db (follow_poll cfg db env row is_qa o) := by
  unfold follow_poll
  dsimp only
  generalize hfailed : (if is_failure o.status then
    terminal_validation_failure db env _ _ _ _ else db) = failed
  generalize hpersisted : (if row.fast is_qa then persist_execution failed _ _ _ _ _
    else failed) = persisted
  have hfail : Follows row.delivery.id db failed :=
    hfailed ▸ .ite (terminal_validation_failure_follows _ _ _) (.refl db)
  have hpersist : Follows row.delivery.id failed persisted :=
    hpersisted ▸ .ite (persist_execution_follows _ _ _ _ _) (.refl failed)
  exact hfail.trans (hpersist.trans (.ite (follow_response_follows o) (.refl _)))

end WarRoom

end Plachem
