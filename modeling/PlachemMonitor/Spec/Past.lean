import Mathlib.Data.List.Basic

/-!
# Earlier states

Whoever reads before it acts may have read an earlier state: `ago now past k` is the state of so many
changes ago, where `past` are the earlier states, the latest first.

* `Ordered R now past`: a preorder relates each of these states to the later ones (`Ordered.push`).
-/

namespace Plachem

namespace Past

variable {α : Type*} {R : α → α → Prop} {now prev : α} {past : List α}

/-- The state of so many changes ago; the first one, if there were not as many. -/
def ago (now : α) (past : List α) (k : Nat) : α := (past.take k).getLastD now

@[simp] theorem ago_zero (now : α) (past : List α) : ago now past 0 = now := rfl

@[simp] theorem ago_nil (now : α) (k : Nat) : ago now [] k = now := by simp [ago]

theorem ago_succ (now prev : α) (past : List α) (k : Nat) :
    ago now (prev :: past) (k + 1) = ago prev past k := by
  simp only [ago, List.take_succ_cons, List.getLastD_cons]

/-- The states are related as they follow one another. -/
def Ordered (R : α → α → Prop) (now : α) (past : List α) : Prop :=
  ∀ k j, j ≤ k → R (ago now past k) (ago now past j)

namespace Ordered

theorem nil (hrefl : ∀ a, R a a) (now : α) : Ordered R now [] := by
  intro k j _
  rw [ago_nil, ago_nil]
  exact hrefl now

theorem latest (h : Ordered R now past) (k : Nat) : R (ago now past k) now := h k 0 (Nat.zero_le k)

/-- One more state. -/
theorem push (hrefl : ∀ a, R a a) (htrans : ∀ a b c, R a b → R b c → R a c)
    (h : Ordered R prev past) (hnow : R prev now) : Ordered R now (prev :: past) := by
  intro k j hjk
  cases k with
  | zero =>
    obtain rfl : j = 0 := by omega
    exact hrefl _
  | succ k =>
    rw [ago_succ]
    cases j with
    | zero => exact htrans _ _ _ (h.latest k) hnow
    | succ j =>
      rw [ago_succ]
      exact h k j (by omega)

end Ordered

/-- What holds of all earlier states and of the new one holds of every state. -/
theorem forall_ago {P : α → Prop} (hold : ∀ k, P (ago prev past k)) (hnew : P now) (k : Nat) :
    P (ago now (prev :: past) k) := by
  cases k with
  | zero => exact hnew
  | succ k => exact (ago_succ now prev past k).symm ▸ hold k

end Past

end Plachem
