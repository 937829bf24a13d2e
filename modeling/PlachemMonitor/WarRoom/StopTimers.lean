import PlachemMonitor.WarRoom.System

/-!
# The timers of stops

`process_stop_timers` ends the stops whose deadline has passed. It looks at the whole project: nothing of
it may be queued, sent, received or responded. `stop_cycle_state` looks at the deliveries that the stop
has touched, and tells a failed stop from a confirmed one. `timers_agree_iff` says of which tables the two
agree; after a stop of the worker that has failed they do not (`failed_stop_ends`).
-/

namespace Plachem

namespace WarRoom

/-- The controls that the timers select. -/
def due_controls (db : DB) (now : Int) : List Control :=
  db.controls.rows.filter fun c => c.stop_state == .stop_requested &&
    c.stop_deadline.any (decide <| · ≤ now)

/-- The turn of a control. -/
def end_stop (env : Env) (db : DB) (c : Control) : DB :=
  (process_stop_timer (fun _ => db) db env c.project_id).getD db

/-- `process_stop_timers`, if nobody else writes to the tables. -/
def process_stop_timers (db : DB) (env : Env) : DB :=
  (due_controls db env.now).foldl (end_stop env) db

/-- The control when its timer has ended the stop. -/
def Control.ended (c : Control) (db : DB) (now : Int) : Control :=
  { c with
    stop_state := if pending_deliveries db c.project_id then .stop_unconfirmed else .stopped
    updated_at := now }

/-! ## The two views -/

section Views

variable (db : DB) (c : Control)

/-- The deliveries of the project. -/
def project_deliveries : List Delivery :=
  db.deliveries.rows.filter fun d => db.in_project c.project_id d.message_id

/-- The stop of the control has touched the delivery. -/
def Control.InCycle (d : Delivery) : Prop := ∃ at_ ∈ c.stop_requested_at, d.stop_cycle_at = some at_

instance (d : Delivery) : Decidable (c.InCycle d) := by
  unfold Control.InCycle
  infer_instance

/-- The delivery is not over, or it has responded. -/
def Delivery.unsettled (d : Delivery) : Bool := d.active || d.status == .responded

/-- Every delivery of the stop cycle is confirmed stopped. -/
def Confirmed : Prop :=
  ∃ at_ ∈ c.stop_requested_at, stop_cycle_state db c.project_id at_ = .stopped

/-- Some delivery of the cycle is unsettled; or all of the cycle are stopped, and there are some, just if
no other delivery of the project is unsettled. -/
def Aligned : Prop :=
  (∃ d ∈ project_deliveries db c, c.InCycle d ∧ d.unsettled = true) ∨
  ((∃ d ∈ project_deliveries db c, c.InCycle d) ∧
      (∀ d ∈ project_deliveries db c, c.InCycle d → d.status = .stopped) ↔
    ∀ d ∈ project_deliveries db c, ¬ c.InCycle d → d.unsettled = false)

end Views

variable {db : DB} {env : Env} {c : Control}

/-! ## The timers -/

theorem mem_due_controls {now : Int} : c ∈ due_controls db now ↔ c ∈ db.controls ∧
    c.stop_state = .stop_requested ∧ ∃ n ∈ c.stop_deadline, n ≤ now := by
  simp [due_controls, Table.mem_def, Option.any_eq_true]

theorem end_stop_eq (hc : db.controls.find c.project_id = some c) (hstate : c.stop_state = .stop_requested)
    (hdeadline : ∃ n ∈ c.stop_deadline, n ≤ env.now) :
    end_stop env db c = set_stop_state db env c.project_id
      (if pending_deliveries db c.project_id then .stop_unconfirmed else .stopped) := by
  have hdue : c.stop_state = .stop_requested ∧ c.stop_deadline.any (decide <| · ≤ env.now) = true := by
    simpa [Option.any_eq_true] using ⟨hstate, hdeadline⟩
  unfold end_stop process_stop_timer
  simp only [hc, Option.bind_eq_bind, Option.bind_some, guard, if_pos hdue]
  rfl

theorem find_set_stop_state {project_id : String} {state : StopState} (k : String) :
    (set_stop_state db env project_id state).controls.find k = (db.controls.find k).map fun c =>
      if c.project_id == project_id then { c with stop_state := state, updated_at := env.now }
      else c := by
  unfold set_stop_state set_control
  rw [Table.find_update]

/-- Each control that is due is ended by the deliveries as they are; the others are left. -/
theorem foldl_end_stop {cs : List Control} (hunique : (cs.map Control.project_id).Nodup)
    (hcs : ∀ c ∈ cs, db.controls.find c.project_id = some c ∧ c.stop_state = .stop_requested ∧
      ∃ n ∈ c.stop_deadline, n ≤ env.now) :
    (∀ c ∈ cs, (cs.foldl (end_stop env) db).controls.find c.project_id = some (c.ended db env.now)) ∧
    ∀ k, k ∉ cs.map Control.project_id →
      (cs.foldl (end_stop env) db).controls.find k = db.controls.find k := by
  induction cs generalizing db with
  | nil => exact ⟨fun c hc => (List.not_mem_nil hc).elim, fun k _ => rfl⟩
  | cons c cs ih =>
    obtain ⟨hfresh, hunique⟩ := List.nodup_cons.mp hunique
    obtain ⟨hfind, hstate, hdeadline⟩ := hcs c List.mem_cons_self
    have hend := end_stop_eq hfind hstate hdeadline
    have hother : ∀ k, k ≠ c.project_id →
        (end_stop env db c).controls.find k = db.controls.find k := by
      intro k hk
      rw [hend, find_set_stop_state]
      cases hq : db.controls.find k with
      | none => rfl
      | some q =>
        have hne : ¬ (q.project_id == c.project_id) = true := by
          rw [beq_iff_eq, (Table.find_some hq).2]
          exact hk
        rw [Option.map_some, if_neg hne]
    obtain ⟨hended, hleft⟩ := @ih (end_stop env db c) hunique fun q hq => by
      obtain ⟨hqfind, hq'⟩ := hcs q (List.mem_cons_of_mem _ hq)
      refine ⟨(hother _ fun heq => hfresh ?_).trans hqfind, hq'⟩
      exact heq ▸ List.mem_map_of_mem hq
    have hpending : ∀ q : Control, q.ended (end_stop env db c) env.now = q.ended db env.now := by
      intro q
      rw [hend]
      rfl
    rw [List.foldl_cons]
    refine ⟨fun q hq => ?_, fun k hk => ?_⟩
    · rcases List.mem_cons.mp hq with rfl | hq
      · rw [hleft _ hfresh, hend, find_set_stop_state, hfind, Option.map_some,
          if_pos (beq_self_eq_true _)]
        rfl
      · rw [hended q hq, hpending]
    · rw [List.map_cons, List.mem_cons, not_or] at hk
      rw [hleft k hk.2, hother k hk.1]

/-- What the timers make of a control that is due. -/
theorem process_stop_timers_find (hc : c ∈ due_controls db env.now) :
    (process_stop_timers db env).controls.find c.project_id = some (c.ended db env.now) := by
  refine (foldl_end_stop ?_ fun q hq => ?_).1 c hc
  · exact (List.filter_sublist.map _).nodup db.controls.unique
  · obtain ⟨hmem, hdue⟩ := mem_due_controls.mp hq
    exact ⟨Table.mem_iff_find.mp hmem, hdue⟩

/-! ## Agreement -/

theorem mem_project_deliveries {d : Delivery} : d ∈ project_deliveries db c ↔
    d ∈ db.deliveries ∧ db.in_project c.project_id d.message_id = true :=
  List.mem_filter

/-- Something is pending in the cycle, or besides it. -/
theorem pending_iff : pending_deliveries db c.project_id = true ↔
    (∃ d ∈ project_deliveries db c, c.InCycle d ∧ d.unsettled = true) ∨
      ∃ d ∈ project_deliveries db c, ¬ c.InCycle d ∧ d.unsettled = true := by
  unfold pending_deliveries
  rw [List.any_eq_true]
  constructor
  · rintro ⟨d, hd, hpending⟩
    obtain ⟨hproject, hunsettled⟩ := (Bool.and_eq_true _ _).mp hpending
    have hmem : d ∈ project_deliveries db c := mem_project_deliveries.mpr ⟨hd, hproject⟩
    by_cases hcycle : c.InCycle d
    · exact .inl ⟨d, hmem, hcycle, hunsettled⟩
    · exact .inr ⟨d, hmem, hcycle, hunsettled⟩
  · rintro (⟨d, hmem, -, hunsettled⟩ | ⟨d, hmem, -, hunsettled⟩)
    · obtain ⟨hd, hproject⟩ := mem_project_deliveries.mp hmem
      exact ⟨d, hd, (Bool.and_eq_true _ _).mpr ⟨hproject, hunsettled⟩⟩
    · obtain ⟨hd, hproject⟩ := mem_project_deliveries.mp hmem
      exact ⟨d, hd, (Bool.and_eq_true _ _).mpr ⟨hproject, hunsettled⟩⟩

theorem mem_cycle_statuses {at_ : Int} {s : DeliveryStatus} :
    s ∈ cycle_statuses db c.project_id at_ ↔
      ∃ d ∈ project_deliveries db c, d.stop_cycle_at = some at_ ∧ d.status = s := by
  simp only [cycle_statuses, List.mem_map, List.mem_filter, mem_project_deliveries, Bool.and_eq_true,
    beq_iff_eq, Table.mem_def, and_assoc]

/-- A cycle counts as stopped if there is something in it, and all of it is stopped. -/
theorem stop_cycle_state_stopped {at_ : Int} : stop_cycle_state db c.project_id at_ = .stopped ↔
    cycle_statuses db c.project_id at_ ≠ [] ∧
      ∀ s ∈ cycle_statuses db c.project_id at_, s = .stopped := by
  unfold stop_cycle_state
  dsimp only
  generalize cycle_statuses db c.project_id at_ = statuses
  constructor
  · intro h
    split at h
    · cases h
    rename_i hopen
    rw [not_or] at hopen
    split at h
    · cases h
    split at h
    · rename_i hall
      exact ⟨hopen.1, hall⟩
    · cases h
  · rintro ⟨hne, hall⟩
    have hnone : ∀ l : List DeliveryStatus, DeliveryStatus.stopped ∉ l → ¬ ∃ s ∈ statuses, s ∈ l := by
      rintro l hl ⟨s, hs, hmem⟩
      exact hl (hall s hs ▸ hmem)
    rw [if_neg (not_or.mpr ⟨hne, hnone _ (by decide)⟩), if_neg (hnone _ (by decide)), if_pos hall]

theorem confirmed_iff : Confirmed db c ↔ (∃ d ∈ project_deliveries db c, c.InCycle d) ∧
    ∀ d ∈ project_deliveries db c, c.InCycle d → d.status = .stopped := by
  unfold Confirmed Control.InCycle
  cases hrequested : c.stop_requested_at with
  | none => simp
  | some at_ =>
    simp only [Option.mem_def, Option.some.injEq, exists_eq_left', stop_cycle_state_stopped]
    refine and_congr ?_ ?_
    · constructor
      · intro hne
        obtain ⟨s, hs⟩ := List.exists_mem_of_ne_nil _ hne
        obtain ⟨d, hd, hat, -⟩ := mem_cycle_statuses.mp hs
        exact ⟨d, hd, hat⟩
      · rintro ⟨d, hd, hat⟩
        exact List.ne_nil_of_mem (mem_cycle_statuses.mpr ⟨d, hd, hat, rfl⟩)
    · constructor
      · exact fun h d hd hat => h d.status (mem_cycle_statuses.mpr ⟨d, hd, hat, rfl⟩)
      · intro h s hs
        obtain ⟨d, hd, hat, rfl⟩ := mem_cycle_statuses.mp hs
        exact h d hd hat

/-- Of a control that is due: the timers set it to `stopped` just if its cycle is confirmed stopped, if and
only if the two views are aligned. -/
theorem timers_agree_iff (env : Env) (hc : c ∈ db.controls) (hstate : c.stop_state = .stop_requested)
    (hdeadline : ∃ n ∈ c.stop_deadline, n ≤ env.now) :
    (((process_stop_timers db env).controls.find c.project_id).map Control.stop_state =
      some .stopped ↔ Confirmed db c) ↔ Aligned db c := by
  have hfind := process_stop_timers_find (mem_due_controls.mpr ⟨hc, hstate, hdeadline⟩)
  have htimer : ((process_stop_timers db env).controls.find c.project_id).map Control.stop_state =
      some .stopped ↔ ¬ pending_deliveries db c.project_id = true := by
    rw [hfind, Option.map_some, Control.ended]
    dsimp only
    split
    · rename_i hpending
      exact ⟨fun h => (by cases h), fun h => absurd hpending h⟩
    · rename_i hpending
      exact ⟨fun _ => hpending, fun _ => rfl⟩
  rw [htimer, pending_iff, confirmed_iff]
  unfold Aligned
  have hothers : (∀ d ∈ project_deliveries db c, ¬ c.InCycle d → d.unsettled = false) ↔
      ¬ ∃ d ∈ project_deliveries db c, ¬ c.InCycle d ∧ d.unsettled = true := by
    simp
  -- what is stopped is settled
  have hstopped : (∀ d ∈ project_deliveries db c, c.InCycle d → d.status = .stopped) →
      ¬ ∃ d ∈ project_deliveries db c, c.InCycle d ∧ d.unsettled = true := by
    rintro hall ⟨d, hd, hcycle, hunsettled⟩
    have hs := hall d hd hcycle
    simp [Delivery.unsettled, Delivery.active, hs] at hunsettled
  have hviews : ∀ p q r s : Prop, (s → ¬ p) →
      ((¬ (p ∨ q) ↔ r ∧ s) ↔ p ∨ (r ∧ s ↔ ¬ q)) := by tauto
  rw [hothers]
  exact hviews _ _ _ _ hstopped

namespace Sample

/-- The worker has asked the run of `d` to stop, and the adapter has failed to. -/
def stop_failed : World :=
  after (config false) [prepare, execute, claim "d" "c" 2, hand "c" 3 (answer ""),
    ended "c" 4 (accepted "run"), .request_project_stop "p" none none
      { outside 5 [] with stop_receipt := fun _ => ⟨"failed", none, some "STOP_UNCONFIRMED", none, none⟩ }
      latest]

/-- The control of the project, from the stop at 5 on. -/
def stopping : Control := ⟨"p", none, some 5, some 305, .stop_requested, 5⟩

/-- The stop has reached its only delivery. -/
def stop_reached : DB :=
  { Sample.db with
    controls := ⟨[stopping], by decide⟩
    messages := ⟨[⟨"m", "p", "instruction", "rep", "halt"⟩], by decide⟩
    deliveries := ⟨[{ queued_delivery "d" "m" "dev" 1 none none 0 with
      status := .stopped, stop_cycle_at := some 5 }], by decide⟩ }

end Sample

open Sample in
/-- The timer ends a stop that has failed as if it were confirmed. -/
theorem failed_stop_ends : (warRoom (config false)).Reachable stop_failed ∧
    stopping ∈ stop_failed.db.controls ∧
    stop_failed.db.deliveries.rows.map Delivery.status = [.failed] ∧
    ((process_stop_timers stop_failed.db (outside 305 [])).controls.find "p").map Control.stop_state =
      some .stopped ∧
    ¬ Confirmed stop_failed.db stopping := by
  have hstopping : stopping ∈ stop_failed.db.controls.rows := by decide +kernel
  refine ⟨reachable_after _ _, hstopping, by decide +kernel, by decide +kernel, ?_⟩
  rintro ⟨at_, hat, hstopped⟩
  obtain rfl := Option.some.inj hat
  revert hstopped
  decide +kernel

open Sample in
/-- The timer ends a stop that is confirmed. -/
theorem timers_agree_sample :
    ((process_stop_timers stop_reached (outside 305 [])).controls.find "p").map Control.stop_state =
      some .stopped ↔ Confirmed stop_reached stopping := by
  have hstopping : stopping ∈ stop_reached.controls.rows := by decide
  have hall : ∀ d ∈ project_deliveries stop_reached stopping, stopping.InCycle d ∧ d.status = .stopped := by
    decide +kernel
  refine (timers_agree_iff (outside 305 []) hstopping rfl ⟨305, rfl, le_refl _⟩).mpr (.inr ?_)
  refine iff_of_true ⟨?_, fun d hd _ => (hall d hd).2⟩ fun d hd hnot => absurd (hall d hd).1 hnot
  obtain ⟨d, hd⟩ := List.exists_mem_of_ne_nil (project_deliveries stop_reached stopping)
    (by decide +kernel)
  exact ⟨d, hd, (hall d hd).1⟩

end WarRoom

end Plachem
