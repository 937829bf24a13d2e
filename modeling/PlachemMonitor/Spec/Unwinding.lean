import Mathlib.Data.List.Basic

/-!
# Unwinding

Runs of a machine that answers each of its inputs. If the answers to some inputs, and the part of
the state that they depend on, are not changed by the others (`Unwinds`), then they are the answers
of the run that has no other inputs (`Unwinds.run_filter`).
-/

namespace Plachem

universe u v w x

variable {σ : Type u} {ι : Type v} {ο : Type w} {τ : Type x}

/-- The inputs with their answers, and the last state. -/
def answering (step : σ → ι → ο × σ) (s : σ) : List ι → List (ι × ο) × σ
  | [] => ([], s)
  | i :: is =>
    let rest := answering step (step s i).2 is
    ((i, (step s i).1) :: rest.1, rest.2)

theorem answering_cons (step : σ → ι → ο × σ) (s : σ) (i : ι) (is : List ι) :
    answering step s (i :: is) =
      ((i, (step s i).1) :: (answering step (step s i).2 is).1,
        (answering step (step s i).2 is).2) := rfl

/-- The inputs that are `mine` read and write the part of the state that is seen through `view`, and
the others leave it as it is. -/
structure Unwinds (step : σ → ι → ο × σ) (mine : ι → Prop) (view : σ → τ) : Prop where
  answer : ∀ s s' i, mine i → view s = view s' → (step s i).1 = (step s' i).1
  same : ∀ s s' i, mine i → view s = view s' → view (step s i).2 = view (step s' i).2
  others : ∀ s i, ¬ mine i → view (step s i).2 = view s

theorem Unwinds.run_filter {step : σ → ι → ο × σ} {mine : ι → Prop} [DecidablePred mine]
    {view : σ → τ} (h : Unwinds step mine view) (is : List ι) {s s' : σ} (hview : view s = view s') :
    (answering step s is).1.filter (fun a => mine a.1) =
        (answering step s' (is.filter mine)).1 ∧
      view (answering step s is).2 = view (answering step s' (is.filter mine)).2 := by
  induction is generalizing s s' with
  | nil => exact ⟨rfl, hview⟩
  | cons i is ih =>
    rw [answering_cons]
    dsimp only
    by_cases hmine : mine i
    · obtain ⟨hanswers, hend⟩ := ih (h.same s s' i hmine hview)
      rw [List.filter_cons_of_pos (by simpa using hmine),
        List.filter_cons_of_pos (by simpa using hmine), answering_cons, hanswers,
        h.answer s s' i hmine hview]
      exact ⟨rfl, hend⟩
    · obtain ⟨hanswers, hend⟩ := ih ((h.others s i hmine).trans hview)
      rw [List.filter_cons_of_neg (by simpa using hmine),
        List.filter_cons_of_neg (by simpa using hmine)]
      exact ⟨hanswers, hend⟩

end Plachem
