import Mathlib.Data.Finset.Card
import Mathlib.Order.Lattice

/-!
# Pages below a cursor

A client reads a set by pages, the largest first, and asks for each next page by the last key it has got.
The set may change from one page to the next.

* `Answers S before page next`: `page` is a page of the set below the cursor, and `next` asks for the rest.
* `Follows S k before pages`: the pages from the `k`-th set on, up to one without a next cursor.
* `Follows.descending`, `Follows.sound`, `Follows.complete`: nothing is repeated, nothing is made up, and
  nothing that stays is skipped.
* `Answers.left_lt`: each page leaves less of a finite set.
-/

namespace Plachem

namespace Paging

variable {α : Type*} [LinearOrder α]

/-- What a cursor leaves to be read. -/
def Below (before : Option α) (x : α) : Prop := ∀ b ∈ before, x < b

instance (before : Option α) (x : α) : Decidable (Below before x) := by
  unfold Below
  infer_instance

@[simp] theorem below_none (x : α) : Below none x := by
  intro b hb
  simp at hb

@[simp] theorem below_some {b x : α} : Below (some b) x ↔ x < b := by
  simp only [Below, Option.mem_def, Option.some.injEq, forall_eq']

structure Answers (S : Set α) (before : Option α) (page : List α) (next : Option α) : Prop where
  descending : page.Pairwise (· > ·)
  sound : ∀ x ∈ page, x ∈ S ∧ Below before x
  complete : ∀ x ∈ S, Below before x → x ∈ page ∨ ∃ c ∈ next, x < c
  cursor : ∀ c ∈ next, page.getLast? = some c

namespace Answers

variable {S : Set α} {before next : Option α} {page : List α} {c : α}

/-- The first keys of a descending list, and the last one of them if there are more. -/
theorem of_take {keys : List α} {limit : ℕ} (hpos : 0 < limit) (hdesc : keys.Pairwise (· > ·))
    (hmem : ∀ x, x ∈ keys ↔ x ∈ S ∧ Below before x) :
    Answers S before (keys.take limit)
      (if limit < keys.length then (keys.take limit).getLast? else none) where
  descending := hdesc.sublist (List.take_sublist limit keys)
  sound x hx := (hmem x).mp (List.mem_of_mem_take hx)
  complete x hx hbelow := by
    have hkeys : x ∈ keys.take limit ∨ x ∈ keys.drop limit := by
      rw [← List.mem_append, List.take_append_drop]
      exact (hmem x).mpr ⟨hx, hbelow⟩
    rcases hkeys with h | h
    · exact Or.inl h
    · right
      have hlt : limit < keys.length := by
        by_contra hle
        rw [List.drop_eq_nil_of_le (not_lt.mp hle)] at h
        exact List.not_mem_nil h
      have hne : keys.take limit ≠ [] := by
        intro hnil
        rw [List.take_eq_nil_iff] at hnil
        rcases hnil with rfl | rfl
        · exact absurd hpos (lt_irrefl 0)
        · exact Nat.not_lt_zero limit hlt
      refine ⟨(keys.take limit).getLast hne, ?_, ?_⟩
      · rw [if_pos hlt, Option.mem_def, List.getLast?_eq_some_getLast hne]
      · -- the keys of the page come before those that are left
        rw [← List.take_append_drop limit keys, List.pairwise_append] at hdesc
        exact hdesc.2.2 _ (List.getLast_mem hne) x h
  cursor c hc := by
    by_cases h : limit < keys.length
    · rwa [if_pos h, Option.mem_def] at hc
    · simp [h] at hc

theorem cursor_mem (h : Answers S before page (some c)) : c ∈ page :=
  List.mem_of_getLast? (h.cursor c rfl)

/-- A page lies above its own cursor. -/
theorem le_cursor (h : Answers S before page (some c)) {x : α} (hx : x ∈ page) : c ≤ x := by
  obtain ⟨front, hpage⟩ := List.getLast?_eq_some_iff.mp (h.cursor c rfl)
  have hdesc := h.descending
  rw [hpage, List.mem_append, List.mem_singleton] at hx
  rw [hpage, List.pairwise_append] at hdesc
  rcases hx with hx | rfl
  · exact (hdesc.2.2 x hx c (List.mem_singleton_self c)).le
  · exact le_refl x

/-- What a finite set has below a cursor. -/
def left (U : Finset α) (before : Option α) : ℕ := (U.filter (Below before)).card

theorem left_lt {U : Finset α} (h : Answers S before page (some c)) (hU : ∀ x ∈ S, x ∈ U) :
    left U (some c) < left U before := by
  obtain ⟨hcS, hc⟩ := h.sound c h.cursor_mem
  apply Finset.card_lt_card
  rw [Finset.ssubset_iff_of_subset]
  · refine ⟨c, Finset.mem_filter.mpr ⟨hU c hcS, hc⟩, ?_⟩
    rw [Finset.mem_filter, below_some]
    exact fun hself => lt_irrefl c hself.2
  · intro x hx
    rw [Finset.mem_filter, below_some] at hx
    exact Finset.mem_filter.mpr ⟨hx.1, fun b hb => hx.2.trans (hc b hb)⟩

end Answers

inductive Follows (S : ℕ → Set α) : ℕ → Option α → List (List α) → Prop where
  | last {k before page} : Answers (S k) before page none → Follows S k before [page]
  | more {k before page c pages} : Answers (S k) before page (some c) →
      Follows S (k + 1) (some c) pages → Follows S k before (page :: pages)

namespace Follows

variable {S : ℕ → Set α} {k : ℕ} {before : Option α} {pages : List (List α)}

theorem all_below (h : Follows S k before pages) : ∀ x ∈ pages.flatten, Below before x := by
  induction h with
  | last hpage =>
    intro x hx
    rw [List.flatten_singleton] at hx
    exact (hpage.sound x hx).2
  | more hpage _ ih =>
    intro x hx
    rw [List.flatten_cons, List.mem_append] at hx
    rcases hx with hx | hx
    · exact (hpage.sound x hx).2
    · intro b hb
      exact (below_some.mp (ih x hx)).trans ((hpage.sound _ hpage.cursor_mem).2 b hb)

/-- No key comes twice, and each one is below those before it. -/
theorem descending (h : Follows S k before pages) : pages.flatten.Pairwise (· > ·) := by
  induction h with
  | last hpage =>
    rw [List.flatten_singleton]
    exact hpage.descending
  | more hpage hrest ih =>
    rw [List.flatten_cons, List.pairwise_append]
    refine ⟨hpage.descending, ih, fun x hx y hy => ?_⟩
    exact lt_of_lt_of_le (below_some.mp (hrest.all_below y hy)) (hpage.le_cursor hx)

theorem sound (h : Follows S k before pages) : ∀ x ∈ pages.flatten, ∃ j, k ≤ j ∧ x ∈ S j := by
  induction h with
  | last hpage =>
    intro x hx
    rw [List.flatten_singleton] at hx
    exact ⟨_, le_refl _, (hpage.sound x hx).1⟩
  | more hpage _ ih =>
    intro x hx
    rw [List.flatten_cons, List.mem_append] at hx
    rcases hx with hx | hx
    · exact ⟨_, le_refl _, (hpage.sound x hx).1⟩
    · obtain ⟨j, hj, hxj⟩ := ih x hx
      exact ⟨j, by omega, hxj⟩

/-- What is there all the time is read. -/
theorem complete (h : Follows S k before pages) {x : α} (hx : ∀ j, k ≤ j → x ∈ S j)
    (hbelow : Below before x) : x ∈ pages.flatten := by
  induction h with
  | last hpage =>
    rw [List.flatten_singleton]
    rcases hpage.complete x (hx _ (le_refl _)) hbelow with h | ⟨c, hc, -⟩
    · exact h
    · simp at hc
  | @more _ _ page c _ hpage _ ih =>
    rw [List.flatten_cons, List.mem_append]
    rcases hpage.complete x (hx _ (le_refl _)) hbelow with h | ⟨c', hc, hlt⟩
    · exact Or.inl h
    · right
      obtain rfl : c = c' := by simpa using hc
      exact ih (fun j hj => hx j (by omega)) (below_some.mpr hlt)

end Follows

end Paging

end Plachem
