import PlachemMonitor.WarRoom.Growth

/-!
# The rows that workers have at hand

* `step_calls`: a call is there from before, or the step claims its row; `step_calls_cases` tells the calls
  that are handed over.
* `Rows w`: the row of a call is one that its worker has read from an earlier state.
* `row_read`: so is the row of each step of a worker.
* `read_source`: the task of such a row has its instruction.
* `inductive_based`: what holds of every reachable world, whatever its steps were.
-/

namespace Plachem

namespace WarRoom

variable {cfg : Config} {w w' : World} {l : Label} {db : DB}

theorem finish_calls {env : Env} {c : Call} {is_qa : Bool} {r : DeliveryReceipt}
    {events : List Event} (h : w.finish cfg db env c is_qa r events = some w') :
    w'.calls = w.calls.filter fun q => q.token != c.token := by
  unfold World.finish at h
  simp only at h
  split at h
  all_goals
    obtain ⟨-, rfl⟩ := World.commit_eq_some.mp h
    rfl

theorem hand_over_calls {env : Env} {view : View} {c c' : Call} {r : DeliveryReceipt}
    (h : w.hand_over cfg env view c r = some w') (hc : c' ∈ w'.calls) :
    c' ∈ w.calls ∧ c'.token ≠ c.token ∨
      ∃ q ∈ w.calls, q.token = c.token ∧ ∃ is_qa, c' = { q with delivering := some is_qa } := by
  have hfinish : w'.calls = w.calls.filter (fun q => q.token != c.token) →
      c' ∈ w.calls ∧ c'.token ≠ c.token ∨
        ∃ q ∈ w.calls, q.token = c.token ∧ ∃ is_qa, c' = { q with delivering := some is_qa } := by
    intro heq
    rw [heq, List.mem_filter, bne_iff_ne] at hc
    exact .inl hc
  unfold World.hand_over at h
  simp only at h
  split at h
  · exact hfinish (finish_calls h)
  · exact hfinish (finish_calls h)
  · exact hfinish (finish_calls h)
  · obtain ⟨-, rfl⟩ := World.commit_eq_some.mp h
    obtain ⟨q, hq, rfl⟩ := List.mem_map.mp hc
    split
    · rename_i htoken
      exact .inr ⟨q, hq, htoken, _, rfl⟩
    · rename_i htoken
      exact .inl ⟨hq, htoken⟩

/-- A call is there from before, its row is claimed, or it is handed over. -/
theorem step_calls_cases (h : step cfg w l = some w') {c : Call} (hc : c ∈ w'.calls) :
    c ∈ w.calls ∨
      (∃ id env seen, l = .process id env seen ∧
        delivery_row (w.view seen .deliveries) id = some c.row ∧ c.token = env.uuid 0 ∧
        c.delivering = none) ∨
      ∃ token env seen r c', l = .hand_over token env seen r ∧ w.call l = some c' ∧
        ∃ q ∈ w.calls, q.token = c'.token ∧ ∃ is_qa, c = { q with delivering := some is_qa } := by
  have hcommit : ∀ {db : DB} {events : List Event}, w.commit db w.calls events = some w' →
      c ∈ w.calls := by
    intro db events h
    obtain ⟨-, rfl⟩ := World.commit_eq_some.mp h
    exact hc
  cases l with
  | request endpoint req env seen =>
    simp only [step, Option.bind_eq_bind, Option.bind_eq_some_iff] at h
    obtain ⟨_, -, h⟩ := h
    split at h
    · exact .inl (hcommit h)
    · cases h
      exact .inl hc
    · cases h
  | process id env seen =>
    simp only [step, Option.bind_eq_bind, Option.bind_eq_some_iff] at h
    obtain ⟨row, hrow, _, -, h⟩ := h
    split at h
    · exact .inl (hcommit h)
    · rename_i claim hclaim
      obtain ⟨-, rfl⟩ := World.commit_eq_some.mp h
      rcases List.mem_append.mp hc with hc | hc
      · exact .inl hc
      · obtain rfl := List.mem_singleton.mp hc
        refine .inr (.inl ⟨id, env, seen, rfl, ?_⟩)
        simp only [process_row] at hclaim
        split at hclaim
        · cases hclaim
        · split at hclaim
          · cases hclaim
          · split at hclaim
            · cases hclaim
            · split at hclaim
              · cases hclaim
                exact ⟨hrow, rfl, rfl⟩
              · cases hclaim
  | hand_over token env seen r =>
    simp only [step, Option.bind_eq_bind, Option.bind_eq_some_iff] at h
    obtain ⟨q, hcall, _, -, h⟩ := h
    rcases hand_over_calls h hc with ⟨hc, -⟩ | hcases
    · exact .inl hc
    · exact .inr (.inr ⟨token, env, seen, r, q, rfl, hcall, hcases⟩)
  | record token env r =>
    simp only [step, Option.bind_eq_bind, Option.bind_eq_some_iff] at h
    obtain ⟨q, -, _, -, h⟩ := h
    rw [finish_calls h, List.mem_filter] at hc
    exact .inl hc.1
  | abandon token =>
    cases h
    exact .inl (List.mem_filter.mp hc).1
  | recover id env seen poll =>
    simp only [step, Option.bind_eq_bind, Option.bind_eq_some_iff] at h
    obtain ⟨row, -, _, -, h⟩ := h
    split at h
    · exact .inl (hcommit h)
    · cases h
  | request_delivery_retry id env seen =>
    simp only [step, Option.bind_eq_bind, Option.bind_eq_some_iff] at h
    obtain ⟨q, -, db', -, h⟩ := h
    exact .inl (hcommit h)
  | request_project_stop project_id deadline ids env seen => exact .inl (hcommit h)
  | process_stop_timer project_id env seen =>
    simp only [step, Option.bind_eq_bind, Option.bind_eq_some_iff] at h
    obtain ⟨db', -, h⟩ := h
    exact .inl (hcommit h)
  | authorize scope now =>
    simp only [step] at h
    split at h
    · exact .inl (hcommit h)
    · cases h
  | executions units runs => exact .inl (hcommit h)
  | finalize task_id status now => exact .inl (hcommit h)

/-- A call is there from before, or its row is claimed. -/
theorem step_calls (h : step cfg w l = some w') {c : Call} (hc : c ∈ w'.calls) :
    (∃ q ∈ w.calls, c.row = q.row ∧ c.token = q.token) ∨
      ∃ id env seen, l = .process id env seen ∧
        delivery_row (w.view seen .deliveries) id = some c.row ∧ c.token = env.uuid 0 ∧
        c.delivering = none := by
  rcases step_calls_cases h hc with hold | hclaim | ⟨-, -, -, -, -, -, -, q, hq, -, is_qa, rfl⟩
  · exact .inl ⟨c, hold, rfl, rfl⟩
  · exact .inr hclaim
  · exact .inl ⟨q, hq, rfl, rfl⟩

/-- The row is one that a worker can have read. -/
def World.has_read (w : World) (row : DeliveryRow) : Prop :=
  ∃ k, delivery_row (w.ago k) row.delivery.id = some row

/-- The rows of all calls have been read. -/
def Rows (w : World) : Prop := ∀ c ∈ w.calls, w.has_read c.row

theorem has_read_step {row : DeliveryRow} (h : w.has_read row) (hs : step cfg w l = some w') :
    w'.has_read row := by
  obtain ⟨k, hk⟩ := h
  rcases step_past hs with ⟨hdb, hpast⟩ | hpast
  · exact ⟨k, World.ago_congr hdb hpast k ▸ hk⟩
  · exact ⟨k + 1, World.ago_succ hpast k ▸ hk⟩

theorem has_read_view {seen : Read → Nat} {r : Read} {id : String} {row : DeliveryRow}
    (h : delivery_row (w.view seen r) id = some row) : w.has_read row := by
  obtain ⟨-, -, rfl, -⟩ := delivery_row_eq_some h
  exact ⟨_, h⟩

theorem inductive_rows (G : World → Label → Prop) : (warRoom cfg).InductiveIf G Rows where
  init w hw c hc := by
    rw [hw.2.2.1] at hc
    cases hc
  step w l w' hrows _ hs c hc := by
    rcases step_calls hs hc with ⟨q, hq, hrow, -⟩ | ⟨id, env, seen, -, hrow, -⟩
    · exact hrow ▸ has_read_step (hrows q hq) hs
    · exact has_read_step (has_read_view hrow) hs

theorem mem_call {c : Call} (h : w.call l = some c) : c ∈ w.calls := by
  cases l with
  | hand_over token env seen r => exact List.mem_of_find?_eq_some h
  | record token env r => exact List.mem_of_find?_eq_some h
  | _ => cases h

/-- The row of a step of a worker has been read. -/
theorem row_read (hrows : Rows w) {row : DeliveryRow} (h : w.row l = some row) : w.has_read row := by
  cases l with
  | process id env seen => exact has_read_view h
  | recover id env seen poll => exact has_read_view h
  | hand_over token env seen r =>
    obtain ⟨c, hc, rfl⟩ := Option.map_eq_some_iff.mp h
    exact hrows c (mem_call hc)
  | record token env r =>
    obtain ⟨c, hc, rfl⟩ := Option.map_eq_some_iff.mp h
    exact hrows c (mem_call hc)
  | _ => cases h

/-- The task of a row that has been read has the instruction of the row. -/
theorem read_source (ho : Ordered DB.Grows w) (ha : w.db.Grows db) {row : DeliveryRow}
    (hrow : w.has_read row) {t : Task} (ht : t ∈ db.tasks) (htask : row.task_id = some t.id) :
    t.source_message_id = some row.delivery.message_id := by
  obtain ⟨k, hk⟩ := hrow
  obtain ⟨-, -, -, hid⟩ := delivery_row_eq_some hk
  rw [htask] at hid
  obtain ⟨q, hq, hqid⟩ := Option.map_eq_some_iff.mp hid.symm
  obtain ⟨hmem, hsource⟩ := task_of_message_eq_some hq
  exact (((ho k 0 (Nat.zero_le k)).trans ha).task hmem ht hqid.symm).source _ hsource

/-! ## What every reachable world is like -/

/-- The invariants that need no condition on the steps. -/
structure Based (w : World) : Prop where
  ordered : Ordered DB.Grows w
  rows : Rows w
  sources : w.db.Sourced

theorem inductive_based (G : World → Label → Prop) : (warRoom cfg).InductiveIf G Based where
  init w hw := by
    refine ⟨(inductive_grows fun _ _ => True).init w hw, (inductive_rows fun _ _ => True).init w hw, ?_⟩
    simp [DB.Sourced, Table.mem_def, hw.1.tasks]
  step w l w' hw _ hs :=
    { ordered := (inductive_grows fun _ _ => True).step w l w' hw.ordered trivial hs
      rows := (inductive_rows fun _ _ => True).step w l w' hw.rows trivial hs
      sources := (step_writes hs).keeps (fun _ _ => write_sources) hw.sources }

end WarRoom

end Plachem
