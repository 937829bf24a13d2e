import Mathlib.Data.List.Basic

/-!
# Machines and their runs

A machine takes labelled steps: the label says who does what, with every argument and every
answer of the outside, so a step is a function of the state and the label (`none` where the label
is not possible). Interleavings of several parties are lists of labels.

* `Machine.Steps G s as s'`: the labels `as` lead from `s` to `s'`, and each step satisfies the
  condition `G`. With `G := fun _ _ => True` these are all runs.
* `Steps.inv`: what every such step keeps holds at the end of the run. `Steps.rel`: a preorder that
  every such step extends relates the ends of the run.
* `Machine.exec`: the end of a run, computed from its labels (`Steps.of_exec`); `Machine.after` is it
  as a state (`reachable_after`, `step_after`).
* `Machine.ReachableIf G`, `Machine.Reachable`: the states that runs from an initial state reach.
  `Machine.InductiveIf G I` is the proof rule for them (`InductiveIf.reachable`).
-/

namespace Plachem

/-- Initial states, and what a label does in a state. -/
structure Machine (σ : Type*) (α : Type*) where
  init : σ → Prop
  step : σ → α → Option σ

namespace Machine

variable {σ α : Type*} (M : Machine σ α)

/-- A run from `s` to `s'` whose steps all satisfy `G`. -/
inductive Steps (G : σ → α → Prop) : σ → List α → σ → Prop
  | refl (s : σ) : Steps G s [] s
  | cons {s s' s'' : σ} {a : α} {as : List α} : G s a → M.step s a = some s' →
      Steps G s' as s'' → Steps G s (a :: as) s''

/-- The state after the labels, `none` if one of them is not possible where it comes. -/
def exec (s : σ) (as : List α) : Option σ := as.foldlM M.step s

/-- The state is reached by steps that all satisfy `G`. -/
def ReachableIf (G : σ → α → Prop) (s : σ) : Prop :=
  ∃ s₀ as, M.init s₀ ∧ M.Steps G s₀ as s

def Reachable (s : σ) : Prop := M.ReachableIf (fun _ _ => True) s

/-- `I` holds initially, and every step that satisfies `G` keeps it. -/
structure InductiveIf (G : σ → α → Prop) (I : σ → Prop) : Prop where
  init : ∀ s, M.init s → I s
  step : ∀ s a s', I s → G s a → M.step s a = some s' → I s'

variable {M} {G : σ → α → Prop}

namespace Steps

theorem single {s s' : σ} {a : α} (hg : G s a) (h : M.step s a = some s') :
    M.Steps G s [a] s' :=
  .cons hg h (.refl _)

theorem append {s s' s'' : σ} {as bs : List α} (h : M.Steps G s as s')
    (h' : M.Steps G s' bs s'') : M.Steps G s (as ++ bs) s'' := by
  induction h with
  | refl => exact h'
  | cons hg hs _ ih => exact .cons hg hs (ih h')

theorem snoc {s s' s'' : σ} {a : α} {as : List α} (h : M.Steps G s as s') (hg : G s' a)
    (hs : M.step s' a = some s'') : M.Steps G s (as ++ [a]) s'' :=
  h.append (single hg hs)

/-- What the steps keep holds at the end of the run. -/
theorem inv {I : σ → Prop} (hstep : ∀ s a s', I s → G s a → M.step s a = some s' → I s')
    {s s' : σ} {as : List α} (h : M.Steps G s as s') (hI : I s) : I s' := by
  induction h with
  | refl => exact hI
  | cons hg hs _ ih => exact ih (hstep _ _ _ hI hg hs)

/-- A preorder that the steps extend relates the ends of the run. -/
theorem rel {R : σ → σ → Prop} (hrefl : ∀ s, R s s) (htrans : ∀ a b c, R a b → R b c → R a c)
    (hstep : ∀ s a s', G s a → M.step s a = some s' → R s s') {s s' : σ} {as : List α}
    (h : M.Steps G s as s') : R s s' := by
  induction h with
  | refl => exact hrefl _
  | cons hg hs _ ih => exact htrans _ _ _ (hstep _ _ _ hg hs) ih

/-- Each step of a run, with what comes before it and after it. -/
theorem split {s s' : σ} {a : α} {as bs : List α} (h : M.Steps G s (as ++ a :: bs) s') :
    ∃ t t', M.Steps G s as t ∧ G t a ∧ M.step t a = some t' ∧ M.Steps G t' bs s' := by
  induction as generalizing s with
  | nil =>
    cases h with
    | cons hg hs hrest => exact ⟨s, _, .refl s, hg, hs, hrest⟩
  | cons b as ih =>
    cases h with
    | cons hg hs hrest =>
      obtain ⟨t, t', hbefore, hgt, hst, hafter⟩ := ih hrest
      exact ⟨t, t', .cons hg hs hbefore, hgt, hst, hafter⟩

theorem of_exec {s s' : σ} {as : List α} (h : M.exec s as = some s') :
    M.Steps (fun _ _ => True) s as s' := by
  induction as generalizing s with
  | nil =>
    obtain rfl : s = s' := by simpa [exec] using h
    exact .refl s
  | cons a as ih =>
    rw [exec, List.foldlM_cons] at h
    obtain ⟨t, ht, hrest⟩ := Option.bind_eq_some_iff.mp h
    exact .cons trivial ht (ih hrest)

theorem mono {G' : σ → α → Prop} (hG : ∀ s a, G s a → G' s a) {s s' : σ} {as : List α}
    (h : M.Steps G s as s') : M.Steps G' s as s' := by
  induction h with
  | refl => exact .refl _
  | cons hg hs _ ih => exact .cons (hG _ _ hg) hs ih

end Steps

theorem reachable_init {s : σ} (h : M.init s) : M.Reachable s :=
  ⟨s, [], h, .refl s⟩

theorem reachable_of_exec {s s' : σ} {as : List α} (hi : M.init s) (h : M.exec s as = some s') :
    M.Reachable s' :=
  ⟨s, as, hi, .of_exec h⟩

variable (M) in
/-- The state after the labels, as far as they are possible. -/
def after (s : σ) (as : List α) : σ := (M.exec s as).getD s

theorem reachable_after {s : σ} (h : M.init s) (as : List α) : M.Reachable (M.after s as) := by
  unfold after
  cases hexec : M.exec s as with
  | none => exact reachable_init h
  | some s' => exact reachable_of_exec h hexec

theorem exec_after {s : σ} {as bs : List α} (h : (M.exec s (as ++ bs)).isSome = true) :
    M.exec (M.after s as) bs = some (M.after s (as ++ bs)) := by
  have happend : M.exec s (as ++ bs) = (M.exec s as).bind fun s => M.exec s bs := by
    rw [exec, List.foldlM_append]
    rfl
  unfold after
  rw [happend] at h ⊢
  cases has : M.exec s as with
  | none => simp [has] at h
  | some s' =>
    rw [has, Option.bind_some] at h
    obtain ⟨s'', hs⟩ := Option.isSome_iff_exists.mp h
    simp [hs]

variable (M G) in
/-- `Machine.exec`, if each step satisfies the condition. -/
def execIf [∀ s a, Decidable (G s a)] (s : σ) : List α → Option σ
  | [] => some s
  | a :: as => if G s a then (M.step s a).bind fun s' => execIf s' as else none

theorem Steps.of_execIf [∀ s a, Decidable (G s a)] {s s' : σ} {as : List α}
    (h : M.execIf G s as = some s') : M.Steps G s as s' := by
  induction as generalizing s with
  | nil =>
    obtain rfl : s = s' := by simpa [execIf] using h
    exact .refl s
  | cons a as ih =>
    rw [execIf] at h
    split at h
    · rename_i hg
      obtain ⟨t, ht, hrest⟩ := Option.bind_eq_some_iff.mp h
      exact .cons hg ht (ih hrest)
    · cases h

theorem Steps.exec {s s' : σ} {as : List α} (h : M.Steps G s as s') : M.exec s as = some s' := by
  induction h with
  | refl => rfl
  | cons _ hs _ ih =>
    rw [Machine.exec, List.foldlM_cons, hs]
    exact ih

theorem reachableIf_after [∀ s a, Decidable (G s a)] {s : σ} {as : List α} (hi : M.init s)
    (h : (M.execIf G s as).isSome = true) : M.ReachableIf G (M.after s as) := by
  obtain ⟨s', hs⟩ := Option.isSome_iff_exists.mp h
  have hsteps := Steps.of_execIf hs
  refine ⟨s, as, hi, ?_⟩
  rwa [after, hsteps.exec, Option.getD_some]

theorem step_after {s : σ} {as : List α} {a : α} (h : (M.exec s (as ++ [a])).isSome = true) :
    M.step (M.after s as) a = some (M.after s (as ++ [a])) := by
  have hexec := exec_after h
  simpa [exec] using hexec

theorem steps_after {s : σ} {as bs : List α} (h : (M.exec s (as ++ bs)).isSome = true) :
    M.Steps (fun _ _ => True) (M.after s as) bs (M.after s (as ++ bs)) :=
  .of_exec (exec_after h)

/-- One more step of a reachable state. -/
theorem ReachableIf.next {s s' : σ} {a : α} (h : M.ReachableIf G s) (hg : G s a)
    (hs : M.step s a = some s') : M.ReachableIf G s' := by
  obtain ⟨s₀, as, hi, hsteps⟩ := h
  exact ⟨s₀, _, hi, hsteps.snoc hg hs⟩

theorem ReachableIf.mono {G' : σ → α → Prop} (hG : ∀ s a, G s a → G' s a) {s : σ}
    (h : M.ReachableIf G s) : M.ReachableIf G' s := by
  obtain ⟨s₀, as, hi, hsteps⟩ := h
  exact ⟨s₀, as, hi, hsteps.mono hG⟩

/-- An inductive invariant holds of every reachable state. -/
theorem InductiveIf.reachable {I : σ → Prop} (h : M.InductiveIf G I) {s : σ}
    (hs : M.ReachableIf G s) : I s := by
  obtain ⟨s₀, as, hi, hsteps⟩ := hs
  exact hsteps.inv h.step (h.init _ hi)

/-- An invariant may be proved with the help of one that is already known. -/
theorem InductiveIf.and {I J : σ → Prop} (hI : M.InductiveIf G I) (hinit : ∀ s, M.init s → J s)
    (hstep : ∀ s a s', I s → J s → G s a → M.step s a = some s' → J s') :
    M.InductiveIf G fun s => I s ∧ J s where
  init s hs := ⟨hI.init s hs, hinit s hs⟩
  step s a s' h hg hs := ⟨hI.step s a s' h.1 hg hs, hstep s a s' h.1 h.2 hg hs⟩

end Machine

end Plachem
