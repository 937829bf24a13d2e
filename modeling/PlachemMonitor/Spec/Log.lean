import Mathlib.Data.List.Basic

/-!
# Logs

A log grows at its end. `Logged P log`: each entry is as `P` says of the entries before it. A property of
whole runs is such a property of what the run has logged, and one step has to show it for one entry
(`Logged.snoc_iff`).
-/

namespace Plachem

universe u

variable {α : Type u}

/-- Each entry is as `P` says of the entries before it. -/
def Logged (P : List α → α → Prop) (log : List α) : Prop :=
  ∀ before a after, log = before ++ a :: after → P before a

namespace Logged

variable {P Q : List α → α → Prop} {log : List α} {a : α}

theorem nil : Logged P [] := by
  intro before a after h
  simp at h

theorem snoc_iff : Logged P (log ++ [a]) ↔ Logged P log ∧ P log a := by
  constructor
  · intro h
    refine ⟨fun before b after heq => h before b (after ++ [a]) ?_, h log a [] rfl⟩
    rw [heq, List.append_assoc, List.cons_append]
  · rintro ⟨h, ha⟩ before b after heq
    rcases List.eq_nil_or_concat' after with rfl | ⟨rest, c, rfl⟩
    · obtain ⟨rfl, hlast⟩ := List.append_inj' heq rfl
      obtain rfl : a = b := by simpa using hlast
      exact ha
    · rw [← List.cons_append, ← List.append_assoc] at heq
      exact h before b rest (List.append_inj' heq rfl).1

theorem mono (h : Logged P log) (himp : ∀ before a, P before a → Q before a) : Logged Q log :=
  fun before a after heq => himp before a (h before a after heq)

end Logged

end Plachem
