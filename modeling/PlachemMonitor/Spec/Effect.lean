/-!
# Effects

Programs with a state that they keep when they raise: `EStateM` of the core library, as it runs
(`Effect.eval`).

* `eval_bind_ok`, `eval_bind_error`: a program is run from its front, one statement at a time.
* `bind_cases`: how a run of two statements can have come about.
* `Effect.Keeps I x`: `x` keeps the invariant `I`, whether it returns or raises. A program keeps what
  its statements keep (`Keeps.bind`, `Keeps.bind_into`, `Keeps.tryCatch`).
* `Effect.Returns P x`: what `x` returns satisfies `P`.
-/

namespace Plachem

abbrev Effect (ε σ α : Type) := EStateM ε σ α

namespace Effect

variable {ε σ α β : Type} {x : Effect ε σ α} {f : α → Effect ε σ β} {s s' : σ}

/-- The state and the answer that the program leaves. -/
def eval (x : Effect ε σ α) (s : σ) : σ × Except ε α :=
  match x s with
  | .ok a s' => (s', .ok a)
  | .error e s' => (s', .error e)

@[simp] theorem eval_pure (a : α) (s : σ) : eval (pure a : Effect ε σ α) s = (s, .ok a) := rfl

@[simp] theorem eval_throw (e : ε) (s : σ) : eval (throw e : Effect ε σ α) s = (s, .error e) := rfl

@[simp] theorem eval_get (s : σ) : eval (get : Effect ε σ σ) s = (s, .ok s) := rfl

@[simp] theorem eval_set (s s' : σ) : eval (set s' : Effect ε σ PUnit) s = (s', .ok ⟨⟩) := rfl

@[simp] theorem eval_modify (g : σ → σ) (s : σ) :
    eval (modify g : Effect ε σ PUnit) s = (g s, .ok ⟨⟩) := rfl

theorem eval_bind_ok {a : α} (h : eval x s = (s', .ok a)) : eval (x >>= f) s = eval (f a) s' := by
  unfold eval at h
  split at h
  · rename_i b t hx
    obtain ⟨rfl, hab⟩ := Prod.mk.inj h
    cases hab
    simp only [eval, bind, EStateM.bind, hx]
  · cases h

theorem eval_bind_error {e : ε} (h : eval x s = (s', .error e)) :
    eval (x >>= f) s = (s', .error e) := by
  unfold eval at h
  split at h
  · cases h
  · rename_i e' t hx
    obtain ⟨rfl, he⟩ := Prod.mk.inj h
    cases he
    simp only [eval, bind, EStateM.bind, hx]

/-- The first statement raises, or the second one goes on from where it ends. -/
theorem bind_cases (x : Effect ε σ α) (f : α → Effect ε σ β) (s : σ) :
    (∃ t a, eval x s = (t, .ok a) ∧ eval (x >>= f) s = eval (f a) t) ∨
      ∃ t e, eval x s = (t, .error e) ∧ eval (x >>= f) s = (t, .error e) := by
  cases h : eval x s with
  | mk t out =>
    cases out with
    | ok a => exact .inl ⟨t, a, rfl, eval_bind_ok h⟩
    | error e => exact .inr ⟨t, e, rfl, eval_bind_error h⟩

/-- A program that returned did so statement after statement. -/
theorem eval_bind_eq_ok {b : β} {t : σ} (h : eval (x >>= f) s = (t, .ok b)) :
    ∃ s' a, eval x s = (s', .ok a) ∧ eval (f a) s' = (t, .ok b) := by
  rcases bind_cases x f s with ⟨s', a, hx, hf⟩ | ⟨s', e, -, hf⟩
  · exact ⟨s', a, hx, hf.symm.trans h⟩
  · rw [hf] at h
    cases h

/-- A branch is run by its test. -/
theorem eval_ite {c : Prop} [Decidable c] {y : Effect ε σ α} {P : σ × Except ε α → Prop}
    (hpos : c → P (eval x s)) (hneg : ¬ c → P (eval y s)) : P (eval (if c then x else y) s) := by
  by_cases hc : c
  · rw [if_pos hc]
    exact hpos hc
  · rw [if_neg hc]
    exact hneg hc

/-! ## Handlers -/

theorem eval_catch_ok {g : ε → Effect ε σ α} {a : α} (h : eval x s = (s', .ok a)) :
    eval (tryCatch x g) s = (s', .ok a) := by
  unfold eval at h
  split at h
  · rename_i b t hx
    obtain ⟨rfl, hab⟩ := Prod.mk.inj h
    cases hab
    delta eval tryCatch
    dsimp only [instMonadExceptOfMonadExceptOf, tryCatchThe, MonadExceptOf.tryCatch]
    delta EStateM.tryCatch
    dsimp only
    rw [hx]
  · cases h

theorem eval_catch_error {g : ε → Effect ε σ α} {e : ε} (h : eval x s = (s', .error e)) :
    eval (tryCatch x g) s = eval (g e) s' := by
  unfold eval at h
  split at h
  · cases h
  · rename_i e' t hx
    obtain ⟨rfl, he⟩ := Prod.mk.inj h
    cases he
    delta eval tryCatch
    dsimp only [instMonadExceptOfMonadExceptOf, tryCatchThe, MonadExceptOf.tryCatch]
    delta EStateM.tryCatch
    dsimp only
    rw [hx]
    rfl

/-! ## Invariants -/

/-- The program keeps `I`, also when it raises. -/
def Keeps (I : σ → Prop) (x : Effect ε σ α) : Prop :=
  ∀ s, I s → I (eval x s).1

variable {I : σ → Prop}

theorem Keeps.pure (a : α) : Keeps I (pure a : Effect ε σ α) := fun _ h => h

theorem Keeps.throw (e : ε) : Keeps I (throw e : Effect ε σ α) := fun _ h => h

theorem Keeps.get : Keeps I (get : Effect ε σ σ) := fun _ h => h

theorem Keeps.bind (hx : Keeps I x) (hf : ∀ a, Keeps I (f a)) : Keeps I (x >>= f) := by
  intro s hs
  have hstart := hx s hs
  rcases bind_cases x f s with ⟨t, a, ht, heval⟩ | ⟨t, e, ht, heval⟩
  · rw [ht] at hstart
    rw [heval]
    exact hf a t hstart
  · rw [ht] at hstart
    rwa [heval]

theorem Keeps.pure_bind {a : α} (h : Keeps I (f a)) : Keeps I (Pure.pure a >>= f) := h

/-- The first statement may establish a stronger invariant, which the rest of the program keeps. -/
theorem Keeps.bind_into {J : σ → Prop} (hx : ∀ s, I s → J (eval x s).1) (hf : ∀ a, Keeps J (f a))
    (hJ : ∀ s, J s → I s) : Keeps I (x >>= f) := by
  intro s hs
  have hstart := hx s hs
  rcases bind_cases x f s with ⟨t, a, ht, heval⟩ | ⟨t, e, ht, heval⟩
  · rw [ht] at hstart
    rw [heval]
    exact hJ _ (hf a t hstart)
  · rw [ht] at hstart
    rw [heval]
    exact hJ _ hstart

theorem Keeps.map (hx : Keeps I x) (g : α → β) : Keeps I (g <$> x) := by
  rw [← bind_pure_comp]
  exact hx.bind fun _ => .pure _

theorem Keeps.tryCatch {g : ε → Effect ε σ α} (hx : Keeps I x) (hg : ∀ e, Keeps I (g e)) :
    Keeps I (tryCatch x g) := by
  intro s hs
  have hstart := hx s hs
  cases h : eval x s with
  | mk t out =>
    rw [h] at hstart
    cases out with
    | ok a => rwa [eval_catch_ok h]
    | error e =>
      rw [eval_catch_error h]
      exact hg e t hstart

/-! ## Results -/

/-- What the program returns, if it does, satisfies `P`. -/
def Returns (P : α → Prop) (x : Effect ε σ α) : Prop :=
  ∀ s t a, eval x s = (t, .ok a) → P a

variable {P : α → Prop} {Q : β → Prop}

theorem Returns.pure {a : α} (h : P a) : Returns P (pure a : Effect ε σ α) := by
  intro s t b hb
  cases hb
  exact h

theorem Returns.throw (e : ε) : Returns P (throw e : Effect ε σ α) := by
  intro s t b hb
  cases hb

theorem Returns.bind (hf : ∀ a, Returns Q (f a)) : Returns Q (x >>= f) := by
  intro s t b hb
  obtain ⟨s', a, -, ha⟩ := eval_bind_eq_ok hb
  exact hf a s' t b ha

theorem Returns.pure_bind {a : α} (h : Returns Q (f a)) : Returns Q (Pure.pure a >>= f) := h

theorem Returns.map {g : α → β} (h : ∀ a, Q (g a)) : Returns Q (g <$> x) := by
  rw [← bind_pure_comp]
  exact .bind fun a => .pure (h a)

/-- The rest of the program sees only what the first statement can return. -/
theorem Keeps.bind_returns (hx : Keeps I x) (hP : Returns P x) (hf : ∀ a, P a → Keeps I (f a)) :
    Keeps I (x >>= f) := by
  intro s hs
  have hstart := hx s hs
  rcases bind_cases x f s with ⟨t, a, ht, heval⟩ | ⟨t, e, ht, heval⟩
  · rw [ht] at hstart
    rw [heval]
    exact hf a (hP s t a ht) t hstart
  · rw [ht] at hstart
    rwa [heval]

end Effect

end Plachem
