import Mathlib.Data.List.Chain
import Mathlib.Data.List.Perm.Subperm
import Mathlib.Logic.Relation

/-!
# Cycles

A depth-first search for a cycle, in a graph that is given by the successors of each node. It keeps the nodes that
it is in and those that it has left.

* `Left`: what a search does to the marks. The nodes that it has left are in topological order (`Settled`), and the
  ones that it is in are a path to the present one.
* `search_ok_iff`: it gets to the end just if no node is on a cycle.
* `Settled.forall`: what holds of a node if it holds of its successors holds of all nodes of such an order.
-/

namespace Plachem

namespace Cycles

universe u

variable {α : Type u}

/-- The node has the successor. -/
def Edge (next : α → List α) (a b : α) : Prop := b ∈ next a

/-- No node of the list is on a cycle. -/
def Acyclic (next : α → List α) (nodes : List α) : Prop := ∀ a ∈ nodes, ¬Relation.TransGen (Edge next) a a

variable {next next' : α → List α} {nodes l : List α} {a b : α}

/-- A cycle stays among the nodes. -/
theorem TransGen.congr (hclosed : ∀ a ∈ nodes, ∀ b ∈ next a, b ∈ nodes)
    (h : ∀ a ∈ nodes, ∀ b, b ∈ next a ↔ b ∈ next' a) (ha : a ∈ nodes) (hab : Relation.TransGen (Edge next) a b) :
    Relation.TransGen (Edge next') a b ∧ b ∈ nodes := by
  induction hab with
  | single hb => exact ⟨.single ((h a ha _).mp hb), hclosed a ha _ hb⟩
  | tail _ hb ih => exact ⟨ih.1.tail ((h _ ih.2 _).mp hb), hclosed _ ih.2 _ hb⟩

theorem acyclic_congr (hclosed : ∀ a ∈ nodes, ∀ b ∈ next a, b ∈ nodes)
    (h : ∀ a ∈ nodes, ∀ b, b ∈ next a ↔ b ∈ next' a) : Acyclic next nodes ↔ Acyclic next' nodes := by
  have hclosed' : ∀ a ∈ nodes, ∀ b ∈ next' a, b ∈ nodes := fun a ha b hb => hclosed a ha b ((h a ha b).mpr hb)
  have hsymm : ∀ a ∈ nodes, ∀ b, b ∈ next' a ↔ b ∈ next a := fun a ha b => (h a ha b).symm
  exact forall₂_congr fun a ha => not_congr
    ⟨fun hab => (TransGen.congr hclosed h ha hab).1, fun hab => (TransGen.congr hclosed' hsymm ha hab).1⟩

/-! ## Topological order -/

/-- The successors of each node stand behind it. -/
def Settled (next : α → List α) : List α → Prop
  | [] => True
  | a :: l => a ∉ l ∧ (∀ b ∈ next a, b ∈ l) ∧ Settled next l

theorem Settled.edge (h : Settled next l) (ha : a ∈ l) (hb : b ∈ next a) : b ∈ l := by
  induction l with
  | nil => cases ha
  | cons x l ih =>
    rcases List.mem_cons.mp ha with rfl | ha
    · exact List.mem_cons_of_mem _ (h.2.1 b hb)
    · exact List.mem_cons_of_mem _ (ih h.2.2 ha)

theorem Settled.trans (h : Settled next l) (ha : a ∈ l) (hb : Relation.TransGen (Edge next) a b) : b ∈ l := by
  induction hb with
  | single hb => exact h.edge ha hb
  | tail _ hb ih => exact h.edge ih hb

theorem Settled.acyclic (h : Settled next l) : Acyclic next l := by
  induction l with
  | nil => exact fun a ha => absurd ha List.not_mem_nil
  | cons x l ih =>
    intro a ha hcycle
    rcases List.mem_cons.mp ha with rfl | ha
    · -- a cycle at the first node comes back to it from behind
      obtain ⟨b, hb, hrest⟩ := Relation.TransGen.head'_iff.mp hcycle
      rcases Relation.reflTransGen_iff_eq_or_transGen.mp hrest with rfl | hrest
      · exact h.1 (h.2.1 _ hb)
      · exact h.1 (h.2.2.trans (h.2.1 b hb) hrest)
    · exact ih h.2.2 a ha hcycle

/-- Induction along the order. -/
theorem Settled.forall (h : Settled next l) {P : α → Prop} (hstep : ∀ a ∈ l, (∀ b ∈ next a, P b) → P a) :
    ∀ a ∈ l, P a := by
  induction l with
  | nil => exact fun a ha => absurd ha List.not_mem_nil
  | cons x l ih =>
    have hrest := ih h.2.2 fun a ha => hstep a (List.mem_cons_of_mem _ ha)
    exact List.forall_mem_cons.mpr ⟨hstep x List.mem_cons_self fun b hb => hrest b (h.2.1 b hb), hrest⟩

/-! ## The search -/

/-- The nodes that a search is in, and those that it has left. -/
structure Marks (α : Type u) where
  visiting : List α
  visited : List α

/-- Why a search does not get to the end. -/
inductive Stop (α : Type u) where
  | cycle (node : α)
  | fuel

variable [DecidableEq α]

/-- The search from a node. -/
def visit (next : α → List α) : Nat → Marks α → α → Except (Stop α) (Marks α)
  | 0, _, _ => .error .fuel
  | n + 1, m, node =>
    if node ∈ m.visiting then .error (.cycle node)
    else if node ∈ m.visited then .ok m
    else do
      let m ← (next node).foldlM (visit next n) { m with visiting := node :: m.visiting }
      pure ⟨m.visiting.erase node, node :: m.visited⟩

/-- The search from each of the nodes. -/
def search (next : α → List α) (nodes : List α) : Except (Stop α) (Marks α) :=
  nodes.foldlM (visit next (nodes.length + 1)) ⟨[], []⟩

variable {n : Nat} {m m₁ m' : Marks α} {as : List α} {e : Stop α}

/-- The search has left the nodes, and is where it was. -/
structure Left (next : α → List α) (m : Marks α) (as : List α) (m' : Marks α) : Prop where
  visiting : m'.visiting = m.visiting
  mono : ∀ a ∈ m.visited, a ∈ m'.visited
  nodes : ∀ a ∈ as, a ∈ m'.visited
  fresh : ∀ a ∈ m'.visited, a ∈ m.visited ∨ a ∉ m.visiting
  settled : Settled next m.visited → Settled next m'.visited

omit [DecidableEq α] in
theorem Left.refl : Left next m [] m :=
  ⟨rfl, fun _ h => h, fun _ h => absurd h List.not_mem_nil, fun _ h => .inl h, id⟩

omit [DecidableEq α] in
theorem Left.cons (h : Left next m [a] m₁) (h' : Left next m₁ as m') : Left next m (a :: as) m' where
  visiting := h'.visiting.trans h.visiting
  mono b hb := h'.mono b (h.mono b hb)
  nodes := List.forall_mem_cons.mpr ⟨h'.mono a (h.nodes a List.mem_cons_self), h'.nodes⟩
  fresh b hb := (h'.fresh b hb).elim (h.fresh b) fun hb => .inr (h.visiting ▸ hb)
  settled hs := h'.settled (h.settled hs)

omit [DecidableEq α] in
/-- The searches of a list, one after the other. -/
theorem fold_left {f : Marks α → α → Except (Stop α) (Marks α)}
    (hf : ∀ m a m', f m a = .ok m' → Left next m [a] m') (h : as.foldlM f m = .ok m') : Left next m as m' := by
  induction as generalizing m with
  | nil =>
    cases h
    exact .refl
  | cons a as ih =>
    rw [List.foldlM_cons] at h
    cases hfirst : f m a with
    | error e =>
      rw [hfirst] at h
      cases h
    | ok m₁ =>
      rw [hfirst] at h
      exact (hf m a m₁ hfirst).cons (ih h)

omit [DecidableEq α] in
/-- Where a list of searches has failed. -/
theorem fold_error {f : Marks α → α → Except (Stop α) (Marks α)}
    (hf : ∀ m a m', f m a = .ok m' → Left next m [a] m') (h : as.foldlM f m = .error e) :
    ∃ a ∈ as, ∃ m₁, m₁.visiting = m.visiting ∧ f m₁ a = .error e := by
  induction as generalizing m with
  | nil => cases h
  | cons a as ih =>
    rw [List.foldlM_cons] at h
    cases hfirst : f m a with
    | error e' =>
      rw [hfirst] at h
      cases h
      exact ⟨a, List.mem_cons_self, m, rfl, hfirst⟩
    | ok m₁ =>
      rw [hfirst] at h
      obtain ⟨b, hb, m₂, hvisiting, herror⟩ := ih h
      exact ⟨b, List.mem_cons_of_mem _ hb, m₂, hvisiting.trans (hf m a m₁ hfirst).visiting, herror⟩

/-- A search that gets to the end. -/
theorem visit_left (h : visit next n m a = .ok m') : Left next m [a] m' := by
  induction n generalizing m a m' with
  | zero => cases h
  | succ n ih =>
    rw [visit] at h
    split at h
    · cases h
    rename_i hvisiting
    split at h
    · rename_i hvisited
      cases h
      exact ⟨rfl, fun _ h => h, List.forall_mem_singleton.mpr hvisited, fun _ h => .inl h, id⟩
    rename_i hvisited
    cases hfold : (next a).foldlM (visit next n) { m with visiting := a :: m.visiting } with
    | error e =>
      rw [hfold] at h
      cases h
    | ok m₁ =>
      rw [hfold] at h
      cases h
      have hleft := fold_left (fun _ _ _ => ih) hfold
      have hnew : a ∉ m₁.visited := fun ha =>
        (hleft.fresh a ha).elim hvisited fun hnot => hnot List.mem_cons_self
      refine ⟨?_, fun b hb => List.mem_cons_of_mem _ (hleft.mono b hb), ?_, fun b hb => ?_, fun hs => ?_⟩
      · rw [hleft.visiting]
        exact List.erase_cons_head ..
      · exact List.forall_mem_singleton.mpr List.mem_cons_self
      · rcases List.mem_cons.mp hb with rfl | hb
        · exact .inr hvisiting
        · exact (hleft.fresh b hb).imp id fun hnot hmem => hnot (List.mem_cons_of_mem _ hmem)
      · exact ⟨hnew, hleft.nodes, hleft.settled hs⟩

/-! ## Cycles that are found -/

omit [DecidableEq α] in
/-- A node that is on the path to itself is on a cycle. -/
theorem cycle_of_path (h : (a :: l).IsChain fun x y => Edge next y x) (ha : a ∈ l) :
    Relation.TransGen (Edge next) a a := by
  have htrans : Trans (fun x y => Relation.TransGen (Edge next) y x) (fun x y => Relation.TransGen (Edge next) y x)
      fun x y => Relation.TransGen (Edge next) y x := ⟨fun h h' => h'.trans h⟩
  have hpairs := List.isChain_iff_pairwise.mp (h.imp fun _ _ => Relation.TransGen.single)
  exact (List.pairwise_cons.mp hpairs).1 a ha

theorem visit_cycle {c : α} (hclosed : ∀ a ∈ nodes, ∀ b ∈ next a, b ∈ nodes) (ha : a ∈ nodes)
    (hpath : (a :: m.visiting).IsChain fun x y => Edge next y x) (h : visit next n m a = .error (.cycle c)) :
    c ∈ nodes ∧ Relation.TransGen (Edge next) c c := by
  induction n generalizing m a with
  | zero => cases h
  | succ n ih =>
    rw [visit] at h
    split at h
    · rename_i hvisiting
      cases h
      exact ⟨ha, cycle_of_path hpath hvisiting⟩
    split at h
    · cases h
    cases hfold : (next a).foldlM (visit next n) { m with visiting := a :: m.visiting } with
    | ok m₁ =>
      rw [hfold] at h
      cases h
    | error e =>
      rw [hfold] at h
      cases h
      obtain ⟨b, hb, m₁, hvisiting, herror⟩ := fold_error (fun _ _ _ => visit_left) hfold
      refine ih (hclosed a ha b hb) ?_ herror
      rw [hvisiting]
      exact hpath.cons_cons hb

/-- A path has no more nodes than there are. -/
theorem visit_fuel (hclosed : ∀ a ∈ nodes, ∀ b ∈ next a, b ∈ nodes) (ha : a ∈ nodes) (hnodup : m.visiting.Nodup)
    (hsub : m.visiting ⊆ nodes) (hn : nodes.length < n + m.visiting.length) :
    visit next n m a ≠ .error .fuel := by
  intro h
  induction n generalizing m a with
  | zero =>
    have hle := (hnodup.subperm hsub).length_le
    omega
  | succ n ih =>
    rw [visit] at h
    split at h
    · cases h
    rename_i hnew
    split at h
    · cases h
    cases hfold : (next a).foldlM (visit next n) { m with visiting := a :: m.visiting } with
    | ok m₁ =>
      rw [hfold] at h
      cases h
    | error e =>
      rw [hfold] at h
      cases h
      obtain ⟨b, hb, m₁, hvisiting, herror⟩ := fold_error (fun _ _ _ => visit_left) hfold
      refine ih (hclosed a ha b hb) ?_ ?_ ?_ herror
      · rw [hvisiting]
        exact List.nodup_cons.mpr ⟨hnew, hnodup⟩
      · rw [hvisiting]
        exact List.cons_subset.mpr ⟨ha, hsub⟩
      · rw [hvisiting, List.length_cons]
        omega

/-! ## The whole search -/

/-- What the search has left at its end is in order. -/
theorem search_settled (h : search next nodes = .ok m) : Settled next m.visited ∧ ∀ a ∈ nodes, a ∈ m.visited := by
  have hleft := fold_left (fun _ _ _ => visit_left) h
  exact ⟨hleft.settled trivial, hleft.nodes⟩

theorem search_ne_fuel (hclosed : ∀ a ∈ nodes, ∀ b ∈ next a, b ∈ nodes) : search next nodes ≠ .error .fuel := by
  intro h
  obtain ⟨a, ha, m₁, hvisiting, herror⟩ := fold_error (fun _ _ _ => visit_left) h
  refine visit_fuel hclosed ha ?_ ?_ ?_ herror
  · rw [hvisiting]
    exact .nil
  · rw [hvisiting]
    exact List.nil_subset _
  · omega

theorem search_cycle {c : α} (hclosed : ∀ a ∈ nodes, ∀ b ∈ next a, b ∈ nodes)
    (h : search next nodes = .error (.cycle c)) : c ∈ nodes ∧ Relation.TransGen (Edge next) c c := by
  obtain ⟨a, ha, m₁, hvisiting, herror⟩ := fold_error (fun _ _ _ => visit_left) h
  refine visit_cycle hclosed ha ?_ herror
  rw [hvisiting]
  exact .singleton a

/-- The search gets to the end just if no node is on a cycle. -/
theorem search_ok_iff (hclosed : ∀ a ∈ nodes, ∀ b ∈ next a, b ∈ nodes) :
    (∃ m, search next nodes = .ok m) ↔ Acyclic next nodes := by
  constructor
  · rintro ⟨m, h⟩
    obtain ⟨hsettled, hall⟩ := search_settled h
    exact fun a ha => hsettled.acyclic a (hall a ha)
  · intro hacyclic
    cases h : search next nodes with
    | ok m => exact ⟨m, rfl⟩
    | error e =>
      cases e with
      | fuel => exact absurd h (search_ne_fuel hclosed)
      | cycle c =>
        obtain ⟨hc, hcycle⟩ := search_cycle hclosed h
        exact absurd hcycle (hacyclic c hc)

end Cycles

end Plachem
