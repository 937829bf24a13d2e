import Mathlib.Data.List.Basic

/-!
# Repetitions with a gap

A repetition counts if it comes with a gap behind the one that has been counted last.

* `repeats gap last ts`: how many of the times count. `counted` is the last one of them.
* `repeats_append`: one more time.
* `exists_spaced`: if there are any, one of them has the gap behind the first time.
-/

namespace Plachem

namespace Spaced

variable {τ : Type*} (gap : τ → τ → Bool)

def counted (last : τ) : List τ → τ
  | [] => last
  | t :: ts => if gap last t then counted t ts else counted last ts

def repeats (last : τ) : List τ → ℕ
  | [] => 0
  | t :: ts => if gap last t then repeats t ts + 1 else repeats last ts

variable {gap} {last t : τ} {ts : List τ}

theorem counted_append : counted gap last (ts ++ [t]) =
    if gap (counted gap last ts) t then t else counted gap last ts := by
  induction ts generalizing last with
  | nil => rfl
  | cons u ts ih =>
    rw [List.cons_append, counted, counted]
    by_cases h : gap last u = true
    · rw [if_pos h, if_pos h, ih]
    · rw [if_neg h, if_neg h, ih]

theorem repeats_append : repeats gap last (ts ++ [t]) =
    if gap (counted gap last ts) t then repeats gap last ts + 1 else repeats gap last ts := by
  induction ts generalizing last with
  | nil => rfl
  | cons u ts ih =>
    rw [List.cons_append, repeats, repeats, counted]
    by_cases h : gap last u = true
    · rw [if_pos h, if_pos h, if_pos h, ih]
      split
      · rfl
      · rfl
    · rw [if_neg h, if_neg h, if_neg h, ih]

theorem exists_spaced (h : 0 < repeats gap last ts) :
    ∃ between u rest, ts = between ++ u :: rest ∧ gap last u = true := by
  induction ts with
  | nil => exact absurd h (Nat.lt_irrefl 0)
  | cons u ts ih =>
    rw [repeats] at h
    by_cases hu : gap last u = true
    · exact ⟨[], u, ts, rfl, hu⟩
    · rw [if_neg hu] at h
      obtain ⟨between, v, rest, rfl, hv⟩ := ih h
      exact ⟨u :: between, v, rest, rfl, hv⟩

end Spaced

end Plachem
