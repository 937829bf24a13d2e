import Mathlib.Data.List.Induction

/-!
# Hash chains

Bodies that each carry the hash of the body before them, the first one a hash `g` of none. If the
hash has no collision and is never `g`, then a body tells its whole past:

* `Linked.before_unique`: no body occurs at two places.
* `Linked.prefix_of_subset`: a chain of bodies of another chain is a prefix of it. So bodies of a
  chain can be put together to a chain in no other way than by leaving out its end.
-/

namespace Plachem

universe u v

variable {β : Type u} {η : Type v}

/-- Each body carries the hash of the one before it, the first one `p`. -/
def Linked (prev hash : β → η) : η → List β → Prop
  | _, [] => True
  | p, b :: bs => prev b = p ∧ Linked prev hash (hash b) bs

namespace Linked

variable {prev hash : β → η} {p g : η} {bs cs : List β} {b : β}

/-- The hash that the body after these carries. -/
def last (hash : β → η) (p : η) (bs : List β) : η := (bs.getLast?.map hash).getD p

@[simp] theorem last_nil : last hash p [] = p := rfl

@[simp] theorem last_append : last hash p (bs ++ [b]) = hash b := by simp [last]

theorem last_cons : last hash p (b :: bs) = last hash (hash b) bs := by
  cases bs with
  | nil => rfl
  | cons c cs => simp [last, List.getLast?_cons]

theorem append_iff : Linked prev hash p (bs ++ cs) ↔
    Linked prev hash p bs ∧ Linked prev hash (last hash p bs) cs := by
  induction bs generalizing p with
  | nil => simp [Linked]
  | cons b bs ih => rw [List.cons_append, Linked, Linked, ih, last_cons, and_assoc]

theorem snoc_iff : Linked prev hash p (bs ++ [b]) ↔
    Linked prev hash p bs ∧ prev b = last hash p bs := by
  simp [append_iff, Linked]

section

variable (hinj : Function.Injective hash) (hg : ∀ b, hash b ≠ g)

include hinj hg

/-- A body is at one place of a chain. -/
theorem before_unique : ∀ {as as' cs cs' : List β} {b : β}, Linked prev hash g (as ++ b :: cs) →
    as ++ b :: cs = as' ++ b :: cs' → as = as' := by
  intro as
  induction as using List.reverseRecOn with
  | nil =>
    intro as' cs cs' b h heq
    cases as' using List.reverseRecOn with
    | nil => rfl
    | append_singleton as' a' =>
      have hfirst : prev b = g := h.1
      rw [heq, append_iff, last_append] at h
      exact absurd (h.2.1.symm.trans hfirst) (hg a')
  | append_singleton as a ih =>
    intro as' cs cs' b h heq
    have h' := h
    rw [heq] at h'
    have hb := (append_iff.mp h).2.1
    have hb' := (append_iff.mp h').2.1
    rw [hb, last_append] at hb'
    cases as' using List.reverseRecOn with
    | nil => exact absurd hb' (hg a)
    | append_singleton as' a' =>
      rw [last_append] at hb'
      obtain rfl := hinj hb'
      rw [List.append_assoc] at h
      rw [List.append_assoc, List.append_assoc] at heq
      rw [ih h heq]

/-- Bodies of a chain are put together in one way. -/
theorem prefix_of_subset (hbs : Linked prev hash g bs) (hcs : Linked prev hash g cs)
    (hsub : cs ⊆ bs) : cs <+: bs := by
  induction cs using List.reverseRecOn with
  | nil => exact List.nil_prefix
  | append_singleton cs c ih =>
    obtain ⟨hchain, hlast⟩ := snoc_iff.mp hcs
    obtain ⟨as, rest, rfl⟩ := List.append_of_mem (hsub (List.mem_append_right cs (List.mem_singleton_self c)))
    have hbefore := (append_iff.mp hbs).2.1
    rw [hlast] at hbefore
    -- what stands before `c` in the one chain ends as what stands before it in the other
    suffices hsame : as = cs by
      exact ⟨rest, by rw [hsame, List.append_assoc, List.singleton_append]⟩
    obtain ⟨t, ht⟩ := ih hchain fun b hb => hsub (List.mem_append_left _ hb)
    cases cs using List.reverseRecOn with
    | nil =>
      cases as using List.reverseRecOn with
      | nil => rfl
      | append_singleton as a =>
        rw [last_append] at hbefore
        exact absurd hbefore.symm (hg a)
    | append_singleton cs c' =>
      cases as using List.reverseRecOn with
      | nil =>
        rw [last_append] at hbefore
        exact absurd hbefore (hg c')
      | append_singleton as a =>
        rw [last_append, last_append] at hbefore
        obtain rfl := hinj hbefore
        rw [List.append_assoc, List.singleton_append] at hbs
        rw [List.append_assoc, List.singleton_append, List.append_assoc, List.singleton_append] at ht
        rw [before_unique hinj hg hbs ht.symm]

end

end Linked

end Plachem
