import Mathlib.Computability.StateTransition

/-!
# Chains

`next` names for each thing the one that takes its place, if any. `Ends next a`: from `a` on, the
chain comes to a thing that has no successor, so it has no cycle (`Ends.acyclic`). The chains still
end when one successor is set, if it does not lead back (`ends_redirect`).
-/

namespace Plachem

namespace Chain

open StateTransition (Reaches Reaches₁)

variable {α : Type*} {next next' : α → Option α} {a b : α}

/-- The chain from here comes to an end. -/
def Ends (next : α → Option α) (a : α) : Prop := ∃ b, Reaches next a b ∧ next b = none

theorem Ends.of_none (h : next a = none) : Ends next a := ⟨a, .refl, h⟩

theorem Ends.head (hb : b ∈ next a) (h : Ends next b) : Ends next a := by
  obtain ⟨c, hc, hnone⟩ := h
  exact ⟨c, .head hb hc, hnone⟩

/-- Induction along a chain that ends. -/
theorem Ends.rec_on {P : α → Prop} (h : Ends next a) (none : ∀ a, next a = none → P a)
    (some : ∀ a b, b ∈ next a → Ends next b → P b → P a) : P a := by
  obtain ⟨b, hab, hb⟩ := h
  induction hab using Relation.ReflTransGen.head_induction_on with
  | refl => exact none b hb
  | head hac hcb ih => exact some _ _ hac ⟨b, hcb, hb⟩ ih

theorem Ends.acyclic (h : Ends next a) : ¬Reaches₁ next a a := by
  refine h.rec_on (P := fun a => ¬Reaches₁ next a a) (fun a hnone hcycle => ?_)
    fun a b hb _ ih hcycle => ?_
  · obtain ⟨c, hc, -⟩ := Relation.TransGen.head'_iff.mp hcycle
    rw [hnone] at hc
    cases hc
  · exact ih (Relation.TransGen.tail' (StateTransition.reaches₁_fwd hcycle hb) hb)

/-- A chain that does not come to `a` does not depend on the successor of `a`. -/
theorem Ends.congr (h : Ends next b) (hb : ¬Reaches next b a) (hother : ∀ x, x ≠ a → next' x = next x) :
    Ends next' b := by
  refine h.rec_on (P := fun b => ¬Reaches next b a → Ends next' b) (fun x hnone hx => ?_)
    (fun x y hy _ ih hx => ?_) hb
  · exact .of_none ((hother x fun heq => hx (heq ▸ .refl)).trans hnone)
  · refine .head ?_ (ih fun hya => hx (.head hy hya))
    rwa [hother x fun heq => hx (heq ▸ .refl)]

/-- The chains end after one successor is set that does not lead back. -/
theorem ends_redirect (h : ∀ x, Ends next x) (hother : ∀ x, x ≠ a → next' x = next x)
    (hnew : next' a = some b) (hback : ¬Reaches next b a) (x : α) : Ends next' x := by
  have ha : Ends next' a := .head hnew ((h b).congr hback hother)
  refine (h x).rec_on (fun x hnone => ?_) fun x y hy _ ih => ?_
  · by_cases hx : x = a
    · exact hx ▸ ha
    · exact .of_none ((hother x hx).trans hnone)
  · by_cases hx : x = a
    · exact hx ▸ ha
    · exact .head ((hother x hx).symm ▸ hy) ih

end Chain

end Plachem
