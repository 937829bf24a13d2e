import PlachemMonitor.WarRoom.Steps

/-!
# Earlier states

A step that reads before its transaction decides on `World.ago`: an earlier state of the database.

* `step_past`: a step leaves the tables alone, or the state before it becomes the latest earlier one.
* `inductive_ago`: a preorder that every step extends relates each earlier state to the later ones.
* `Since w₁ w`: the states of `w` that are not from before `w₁`.
-/

namespace Plachem

namespace WarRoom

variable {cfg : Config} {w w' : World} {l : Label}

namespace World

@[simp] theorem ago_zero (w : World) : w.ago 0 = w.db := rfl

/-- After a commit, every state is one transaction further away. -/
theorem ago_succ (h : w'.past = w.db :: w.past) (k : Nat) : w'.ago (k + 1) = w.ago k := by
  simp only [ago, h, List.take_succ_cons, List.getLastD_cons]

theorem ago_of_past_nil (h : w.past = []) (k : Nat) : w.ago k = w.db := by
  simp [ago, h]

theorem ago_congr (hdb : w'.db = w.db) (hpast : w'.past = w.past) (k : Nat) :
    w'.ago k = w.ago k := by
  rw [ago, ago, hdb, hpast]

end World

theorem finish_past {db : DB} {env : Env} {c : Call} {is_qa : Bool} {r : DeliveryReceipt}
    {events : List Event} (h : w.finish cfg db env c is_qa r events = some w') :
    w'.past = w.db :: w.past := by
  unfold World.finish at h
  simp only at h
  split at h
  all_goals
    obtain ⟨-, rfl⟩ := World.commit_eq_some.mp h
    rfl

theorem hand_over_past {env : Env} {view : View} {c : Call} {r : DeliveryReceipt}
    (h : w.hand_over cfg env view c r = some w') : w'.past = w.db :: w.past := by
  unfold World.hand_over at h
  simp only at h
  split at h
  · exact finish_past h
  · exact finish_past h
  · exact finish_past h
  · obtain ⟨-, rfl⟩ := World.commit_eq_some.mp h
    rfl

theorem step_past (h : step cfg w l = some w') :
    (w'.db = w.db ∧ w'.past = w.past) ∨ w'.past = w.db :: w.past := by
  have hcommit : ∀ {db : DB} {calls : List Call} {events : List Event},
      w.commit db calls events = some w' → w'.past = w.db :: w.past := by
    intro db calls events h
    obtain ⟨-, rfl⟩ := World.commit_eq_some.mp h
    rfl
  cases l with
  | request endpoint req env seen =>
    simp only [step, Option.bind_eq_bind, Option.bind_eq_some_iff] at h
    obtain ⟨_, -, h⟩ := h
    split at h
    · exact .inr (hcommit h)
    · cases h
      exact .inl ⟨rfl, rfl⟩
    · cases h
  | process id env seen =>
    simp only [step, Option.bind_eq_bind, Option.bind_eq_some_iff] at h
    obtain ⟨row, -, _, -, h⟩ := h
    split at h <;> exact .inr (hcommit h)
  | hand_over token env seen r =>
    simp only [step, Option.bind_eq_bind, Option.bind_eq_some_iff] at h
    obtain ⟨c, -, _, -, h⟩ := h
    exact .inr (hand_over_past h)
  | record token env r =>
    simp only [step, Option.bind_eq_bind, Option.bind_eq_some_iff] at h
    obtain ⟨c, -, _, -, h⟩ := h
    exact .inr (finish_past h)
  | abandon token =>
    cases h
    exact .inl ⟨rfl, rfl⟩
  | recover id env seen poll =>
    simp only [step, Option.bind_eq_bind, Option.bind_eq_some_iff] at h
    obtain ⟨row, -, _, -, h⟩ := h
    split at h
    · exact .inr (hcommit h)
    · cases h
  | request_delivery_retry id env seen =>
    simp only [step, Option.bind_eq_bind, Option.bind_eq_some_iff] at h
    obtain ⟨q, -, db', -, h⟩ := h
    exact .inr (hcommit h)
  | request_project_stop project_id deadline ids env seen => exact .inr (hcommit h)
  | process_stop_timer project_id env seen =>
    simp only [step, Option.bind_eq_bind, Option.bind_eq_some_iff] at h
    obtain ⟨db', -, h⟩ := h
    exact .inr (hcommit h)
  | authorize scope now =>
    simp only [step] at h
    split at h
    · exact .inr (hcommit h)
    · cases h
  | executions units runs => exact .inr (hcommit h)
  | finalize task_id status now => exact .inr (hcommit h)

/-- What holds of every earlier state and of the state after a step holds of every state after it. -/
theorem ago_step {P : DB → Prop} (h : step cfg w l = some w') (hold : ∀ k, P (w.ago k))
    (hnew : P w'.db) (k : Nat) : P (w'.ago k) := by
  rcases step_past h with ⟨hdb, hpast⟩ | hpast
  · rw [World.ago_congr hdb hpast]
    exact hold k
  · cases k with
    | zero => exact hnew
    | succ k => exact World.ago_succ hpast k ▸ hold k

/-! ## Preorders along a run -/

/-- The states of a world are related as they follow one another. -/
def Ordered (R : DB → DB → Prop) (w : World) : Prop := ∀ k j, j ≤ k → R (w.ago k) (w.ago j)

theorem Ordered.view {R : DB → DB → Prop} (h : Ordered R w) (seen : Read → Nat) (r : Read) :
    R (w.view seen r) w.db := h _ 0 (Nat.zero_le _)

theorem Ordered.mono {R S : DB → DB → Prop} (hRS : ∀ a b, R a b → S a b) (h : Ordered R w) :
    Ordered S w :=
  fun k j hjk => hRS _ _ (h k j hjk)

theorem Ordered.next {R : DB → DB → Prop} (hR : ∀ a b c, R a b → R b c → R a c) (hrefl : ∀ a, R a a)
    (h : Ordered R w) (hs : step cfg w l = some w') (hnew : R w.db w'.db) : Ordered R w' := by
  intro k j hjk
  rcases step_past hs with ⟨hdb, hpast⟩ | hpast
  · rw [World.ago_congr hdb hpast, World.ago_congr hdb hpast]
    exact h k j hjk
  · cases k with
    | zero =>
      obtain rfl : j = 0 := by omega
      exact hrefl _
    | succ k =>
      rw [World.ago_succ hpast]
      cases j with
      | zero => exact hR _ _ _ (h k 0 (Nat.zero_le k)) hnew
      | succ j =>
        rw [World.ago_succ hpast]
        exact h k j (by omega)

/-- With an invariant `J`, steps that extend a preorder keep the states ordered. -/
theorem inductive_ordered {G : World → Label → Prop} {J : World → Prop} {R : DB → DB → Prop}
    (hJ : (warRoom cfg).InductiveIf G J) (hrefl : ∀ a, R a a) (hR : ∀ a b c, R a b → R b c → R a c)
    (hstep : ∀ w l w', J w → Ordered R w → G w l → step cfg w l = some w' → R w.db w'.db) :
    (warRoom cfg).InductiveIf G fun w => J w ∧ Ordered R w := by
  refine hJ.and ?_ ?_
  · intro w hw k j _
    rw [World.ago_of_past_nil hw.2.1, World.ago_of_past_nil hw.2.1]
    exact hrefl _
  · intro w l w' hj ho hg hs
    exact ho.next hR hrefl hs (hstep w l w' hj ho hg hs)

/-! ## The states since a world -/

/-- `w` is a later world than `w₁`: its states up to the one of `w₁` satisfy `P`. -/
structure Since (P : DB → Prop) (w₁ w : World) : Prop where
  later : w₁.past.length ≤ w.past.length
  holds : ∀ k, k + w₁.past.length ≤ w.past.length → P (w.ago k)

theorem Since.refl {P : DB → Prop} (h : P w.db) : Since P w w where
  later := le_refl _
  holds k hk := by
    obtain rfl : k = 0 := by omega
    exact h

theorem Since.next {P : DB → Prop} {w₁ : World} (h : Since P w₁ w) (hs : step cfg w l = some w')
    (hnew : P w.db → P w'.db) : Since P w₁ w' := by
  have hdb : P w'.db := hnew (h.holds 0 (by simpa using h.later))
  rcases step_past hs with ⟨hdb', hpast⟩ | hpast
  · refine ⟨hpast ▸ h.later, fun k hk => ?_⟩
    rw [World.ago_congr hdb' hpast]
    exact h.holds k (hpast ▸ hk)
  · have hlen : w'.past.length = w.past.length + 1 := by rw [hpast, List.length_cons]
    refine ⟨by have := h.later; omega, fun k hk => ?_⟩
    cases k with
    | zero => exact hdb
    | succ k =>
      rw [World.ago_succ hpast]
      exact h.holds k (by omega)

/-- What every statement keeps holds of all states since it held first. -/
theorem Since.of_steps {P : DB → Prop} {G : World → Label → Prop} {w₁ : World} {as : List Label}
    (hwrite : ∀ w l db db', Write cfg w l db db' → P db → P db')
    (h : (warRoom cfg).Steps G w₁ as w) (h₁ : P w₁.db) : Since P w₁ w := by
  have hstep : ∀ w l w', Since P w₁ w → True → step cfg w l = some w' → Since P w₁ w' :=
    fun w l w' hI _ hs => Since.next hI hs ((step_writes hs).keeps (hwrite w l))
  exact (h.mono fun _ _ _ => trivial).inv hstep (.refl h₁)

end WarRoom

end Plachem
