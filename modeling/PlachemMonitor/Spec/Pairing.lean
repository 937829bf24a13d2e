import Mathlib.Data.List.Perm.Lattice

/-!
# Openings and closings

A log of marks that open a key and of marks that close one. A closing takes the opening that waits for
it, and is left over if none does.

* `balance marks`: the keys that wait, and how many closings were left over.
* `opened_add_surplus`: the two counts of a log differ as these two do.
* `mem_waiting_of_leftOpen`: what is not closed later on waits.
-/

namespace Plachem

namespace Pairing

variable {κ : Type*}

inductive Mark (κ : Type*) where
  | opened (k : κ)
  | closed (k : κ)
  deriving DecidableEq

structure Balance (κ : Type*) where
  waiting : List κ
  surplus : ℕ

def isOpened : Mark κ → Bool
  | .opened _ => true
  | .closed _ => false

def isClosed : Mark κ → Bool
  | .opened _ => false
  | .closed _ => true

variable [DecidableEq κ]

def Balance.next (b : Balance κ) : Mark κ → Balance κ
  | .opened k => { b with waiting := k :: b.waiting }
  | .closed k =>
    if k ∈ b.waiting then { b with waiting := b.waiting.erase k } else { b with surplus := b.surplus + 1 }

def balance (marks : List (Mark κ)) : Balance κ := marks.foldl Balance.next ⟨[], 0⟩

/-- It is opened, and not closed after that. -/
def LeftOpen (marks : List (Mark κ)) (k : κ) : Prop :=
  ∃ before after, marks = before ++ .opened k :: after ∧ .closed k ∉ after

variable {b : Balance κ} {k : κ} {m : Mark κ} {marks : List (Mark κ)}

theorem next_count (b : Balance κ) (m : Mark κ) :
    (b.next m).waiting.length + b.surplus + [m].countP isClosed =
      b.waiting.length + (b.next m).surplus + [m].countP isOpened := by
  cases m with
  | opened k =>
    show (k :: b.waiting).length + b.surplus + 0 = b.waiting.length + b.surplus + 1
    rw [List.length_cons]
    omega
  | closed k =>
    by_cases hk : k ∈ b.waiting
    · have hpos := List.length_pos_of_mem hk
      rw [Balance.next, if_pos hk]
      show (b.waiting.erase k).length + b.surplus + 1 = b.waiting.length + b.surplus + 0
      rw [List.length_erase_of_mem hk]
      omega
    · rw [Balance.next, if_neg hk]
      show b.waiting.length + b.surplus + 1 = b.waiting.length + (b.surplus + 1) + 0
      omega

theorem foldl_count (marks : List (Mark κ)) (b : Balance κ) :
    (marks.foldl Balance.next b).waiting.length + b.surplus + marks.countP isClosed =
      b.waiting.length + (marks.foldl Balance.next b).surplus + marks.countP isOpened := by
  induction marks generalizing b with
  | nil => rfl
  | cons m marks ih =>
    have hnext := next_count b m
    have hrest := ih (b.next m)
    have hclosed : ([m] ++ marks).countP isClosed = [m].countP isClosed + marks.countP isClosed :=
      List.countP_append
    have hopened : ([m] ++ marks).countP isOpened = [m].countP isOpened + marks.countP isOpened :=
      List.countP_append
    rw [List.singleton_append] at hclosed hopened
    rw [List.foldl_cons, hclosed, hopened]
    omega

theorem opened_add_surplus (marks : List (Mark κ)) :
    marks.countP isOpened + (balance marks).surplus =
      marks.countP isClosed + (balance marks).waiting.length := by
  have h : (balance marks).waiting.length + 0 + marks.countP isClosed =
      0 + (balance marks).surplus + marks.countP isOpened := foldl_count marks ⟨[], 0⟩
  omega

theorem mem_waiting_foldl (hk : k ∈ b.waiting) (h : .closed k ∉ marks) :
    k ∈ (marks.foldl Balance.next b).waiting := by
  induction marks generalizing b with
  | nil => exact hk
  | cons m marks ih =>
    rw [List.mem_cons, not_or] at h
    apply ih _ h.2
    cases m with
    | opened j => exact List.mem_cons_of_mem j hk
    | closed j =>
      have hne : k ≠ j := by
        rintro rfl
        exact h.1 rfl
      rw [Balance.next]
      split
      · exact (List.mem_erase_of_ne hne).mpr hk
      · exact hk

theorem mem_waiting_of_leftOpen (h : LeftOpen marks k) : k ∈ (balance marks).waiting := by
  obtain ⟨before, after, rfl, hafter⟩ := h
  rw [balance, List.foldl_append, List.foldl_cons]
  exact mem_waiting_foldl List.mem_cons_self hafter

end Pairing

end Plachem
