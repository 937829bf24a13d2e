import Mathlib.Data.List.Forall2

/-!
# Computations that can fail

`Except` computations in `do` notation, taken apart from their result: a sequence that returns
was a sequence of computations that returned, and so was a list of them (`mapM_eq_ok`).
-/

namespace Plachem

universe u v

variable {ε : Type u} {α β : Type v}

/-- A sequence returns exactly if both of its parts do. -/
theorem bind_eq_ok {x : Except ε α} {f : α → Except ε β} {b : β} :
    (x >>= f) = .ok b ↔ ∃ a, x = .ok a ∧ f a = .ok b := by
  cases x with
  | error e => exact ⟨fun h => (nomatch h), fun ⟨_, h, _⟩ => (nomatch h)⟩
  | ok a => exact ⟨fun h => ⟨a, rfl, h⟩, fun ⟨_, h, h'⟩ => Except.ok.inj h ▸ h'⟩

theorem bind_of_ok {x : Except ε α} {f : α → Except ε β} {a : α} (h : x = .ok a) :
    (x >>= f) = f a := by
  rw [h]
  rfl

/-- The sequences are the same where they go on alike. -/
theorem bind_congr_ok {x : Except ε α} {f g : α → Except ε β} (h : ∀ a, x = .ok a → f a = g a) :
    (x >>= f) = x >>= g := by
  cases x with
  | error e => rfl
  | ok a => exact h a rfl

theorem map_eq_ok {x : Except ε α} {f : α → β} {b : β} :
    x.map f = .ok b ↔ ∃ a, x = .ok a ∧ f a = b := by
  cases x with
  | error e => exact ⟨fun h => (nomatch h), fun ⟨_, h, _⟩ => (nomatch h)⟩
  | ok a => exact ⟨fun h => ⟨a, rfl, Except.ok.inj h⟩, fun ⟨_, h, h'⟩ => by
      rw [← h', ← Except.ok.inj h]
      rfl⟩

theorem exists_unit {p : Unit → Prop} : (∃ u, p u) ↔ p () :=
  ⟨fun ⟨_, h⟩ => h, fun h => ⟨(), h⟩⟩

theorem pure_eq_ok {a b : α} : (pure a : Except ε α) = .ok b ↔ a = b :=
  ⟨Except.ok.inj, congrArg _⟩

theorem mapM_eq_ok {f : α → Except ε β} {l : List α} {bs : List β} :
    l.mapM f = .ok bs ↔ List.Forall₂ (fun a b => f a = .ok b) l bs := by
  induction l generalizing bs with
  | nil =>
    rw [List.mapM_nil, pure_eq_ok, List.forall₂_nil_left_iff, eq_comm]
  | cons a l ih =>
    rw [List.mapM_cons, bind_eq_ok, List.forall₂_cons_left_iff]
    constructor
    · rintro ⟨b, hb, h⟩
      obtain ⟨bs, hbs, h⟩ := bind_eq_ok.mp h
      exact ⟨b, bs, hb, ih.mp hbs, (pure_eq_ok.mp h).symm⟩
    · rintro ⟨b, bs, hb, hbs, rfl⟩
      exact ⟨b, hb, bind_eq_ok.mpr ⟨bs, ih.mpr hbs, rfl⟩⟩

/-- Each computation of a list returns what it has contributed. -/
theorem forall₂_left {R : α → β → Prop} {l : List α} {bs : List β} (h : List.Forall₂ R l bs) {a : α} (ha : a ∈ l) :
    ∃ b ∈ bs, R a b := by
  induction h with
  | nil => cases ha
  | cons hab _ ih =>
    rename_i x b l bs _
    rcases List.mem_cons.mp ha with rfl | ha
    · exact ⟨b, List.mem_cons_self, hab⟩
    · obtain ⟨b', hb', h⟩ := ih ha
      exact ⟨b', List.mem_cons_of_mem _ hb', h⟩

theorem exists_forall₂ {R : α → β → Prop} {l : List α} :
    (∃ bs, List.Forall₂ R l bs) ↔ ∀ a ∈ l, ∃ b, R a b := by
  constructor
  · rintro ⟨bs, h⟩ a ha
    obtain ⟨b, -, hb⟩ := forall₂_left h ha
    exact ⟨b, hb⟩
  · intro h
    induction l with
    | nil => exact ⟨[], .nil⟩
    | cons a l ih =>
      obtain ⟨b, hb⟩ := h a List.mem_cons_self
      obtain ⟨bs, hbs⟩ := ih fun a ha => h a (List.mem_cons_of_mem _ ha)
      exact ⟨b :: bs, .cons hb hbs⟩

theorem throw_ne_ok {e : ε} {a : α} : (throw e : Except ε α) ≠ .ok a := nofun

end Plachem
