import Mathlib.Data.List.Nodup

/-!
# Tables with a primary key

The rows of a table in the order in which they were inserted, no two under one key: `Table` carries
this, so that an insert under a key that is there does not succeed, and an update keeps the keys.

* `Table.mem_update`, `Table.mem_insert`, `Table.mem_delete`: the rows after a write.
* `Table.find_update`, `Table.find_insert`, `Table.find_upsert`: the row under a key after a write.
* `Table.mem_iff_find`: a row is in the table exactly if it is the one under its key.
* `Table.Evolves R`: no row is new or gone, and each is as it was or has changed as `R` tells.
-/

namespace Plachem

universe u v

structure Table (α : Type u) {κ : Type v} (key : α → κ) where
  rows : List α
  unique : (rows.map key).Nodup

namespace Table

variable {α : Type u} {κ : Type v} {key : α → κ}

instance : Membership α (Table α key) := ⟨fun t r => r ∈ t.rows⟩

theorem mem_def {t : Table α key} {r : α} : r ∈ t ↔ r ∈ t.rows := Iff.rfl

theorem ext {t t' : Table α key} (h : t.rows = t'.rows) : t = t' := by
  cases t
  cases t'
  cases h
  rfl

instance [DecidableEq α] : DecidableEq (Table α key) := fun t t' =>
  decidable_of_iff (t.rows = t'.rows) ⟨ext, congrArg _⟩

def empty : Table α key := ⟨[], .nil⟩

@[simp] theorem not_mem_empty (r : α) : r ∉ (empty : Table α key) := List.not_mem_nil

/-! ## Writes -/

/-- `UPDATE .. SET .. WHERE ..` of columns that are no key. -/
def update (t : Table α key) (cond : α → Bool) (f : α → α)
    (hf : ∀ r, key (f r) = key r := by intro r; rfl) : Table α key where
  rows := t.rows.map fun r => if cond r then f r else r
  unique := by
    have h : (t.rows.map fun r => if cond r then f r else r).map key = t.rows.map key := by
      rw [List.map_map]
      refine List.map_congr_left fun r _ => ?_
      simp only [Function.comp_apply]
      split
      · exact hf r
      · rfl
    rw [h]
    exact t.unique

/-- `DELETE FROM .. WHERE ..` -/
def delete (t : Table α key) (cond : α → Bool) : Table α key where
  rows := t.rows.filter fun r => !cond r
  unique := t.unique.sublist ((List.filter_sublist).map key)

variable [DecidableEq κ]

/-- The row under the key. -/
def find (t : Table α key) (k : κ) : Option α := t.rows.find? fun r => decide (key r = k)

/-- `INSERT INTO ..`; `none` is an `IntegrityError`. -/
def insert (t : Table α key) (r : α) : Option (Table α key) :=
  if h : key r ∉ t.rows.map key then
    some
      { rows := t.rows ++ [r]
        unique := by
          rw [List.map_append, List.nodup_append_comm]
          exact List.nodup_cons.mpr ⟨h, t.unique⟩ }
  else none

/-- `INSERT INTO .. ON CONFLICT DO UPDATE SET ..` -/
def upsert (t : Table α key) (r : α) (f : α → α)
    (hf : ∀ r, key (f r) = key r := by intro r; rfl) : Table α key :=
  match t.insert r with
  | some t => t
  | none => t.update (fun q => decide (key q = key r)) f hf

/-! ## The rows after a write -/

omit [DecidableEq κ] in
theorem mem_update {t : Table α key} {cond : α → Bool} {f : α → α}
    {hf : ∀ r, key (f r) = key r} {r : α} :
    r ∈ t.update cond f hf ↔ ∃ q ∈ t, r = if cond q then f q else q := by
  simp only [mem_def, update, List.mem_map, eq_comm]

omit [DecidableEq κ] in
/-- The row that an update makes of a row. -/
theorem update_mem {t : Table α key} {cond : α → Bool} {f : α → α} {hf : ∀ r, key (f r) = key r}
    {r : α} (hr : r ∈ t) : (if cond r then f r else r) ∈ t.update cond f hf :=
  mem_update.mpr ⟨r, hr, rfl⟩

omit [DecidableEq κ] in
/-- A row that the update is for. -/
theorem mem_update_pos {t : Table α key} {cond : α → Bool} {f : α → α} (hf : ∀ r, key (f r) = key r)
    {r : α} (hr : r ∈ t) (hcond : cond r = true) : f r ∈ t.update cond f hf :=
  mem_update.mpr ⟨r, hr, (if_pos hcond).symm⟩

omit [DecidableEq κ] in
/-- A row that it is not for. -/
theorem mem_update_neg {t : Table α key} {cond : α → Bool} {f : α → α} (hf : ∀ r, key (f r) = key r)
    {r : α} (hr : r ∈ t) (hcond : ¬cond r = true) : r ∈ t.update cond f hf :=
  mem_update.mpr ⟨r, hr, (if_neg hcond).symm⟩

omit [DecidableEq κ] in
theorem mem_delete {t : Table α key} {cond : α → Bool} {r : α} :
    r ∈ t.delete cond ↔ r ∈ t ∧ cond r = false := by
  simp [mem_def, delete]

theorem insert_eq_some {t t' : Table α key} {r : α} (h : t.insert r = some t') :
    t'.rows = t.rows ++ [r] ∧ key r ∉ t.rows.map key := by
  unfold insert at h
  split at h
  · rename_i hnew
    cases h
    exact ⟨rfl, hnew⟩
  · cases h

theorem mem_insert {t t' : Table α key} {r q : α} (h : t.insert r = some t') :
    q ∈ t' ↔ q ∈ t ∨ q = r := by
  rw [mem_def, (insert_eq_some h).1, List.mem_append, List.mem_singleton, mem_def]

theorem find_some {t : Table α key} {k : κ} {r : α} (h : t.find k = some r) :
    r ∈ t ∧ key r = k :=
  ⟨List.mem_of_find?_eq_some h, by simpa using List.find?_some h⟩

/-- No other row is under the key of a row. -/
theorem mem_iff_find {t : Table α key} {r : α} : r ∈ t ↔ t.find (key r) = some r := by
  refine ⟨fun h => ?_, fun h => (find_some h).1⟩
  cases hq : t.find (key r) with
  | none =>
    have := List.find?_eq_none.mp hq r h
    simp at this
  | some q =>
    obtain ⟨hmem, hkey⟩ := find_some hq
    exact congrArg some (List.inj_on_of_nodup_map t.unique hmem h hkey)

omit [DecidableEq κ] in
theorem eq_of_key {t : Table α key} {r q : α} (hr : r ∈ t) (hq : q ∈ t) (h : key r = key q) :
    r = q :=
  List.inj_on_of_nodup_map t.unique hr hq h

theorem find_update {t : Table α key} {cond : α → Bool} {f : α → α}
    {hf : ∀ r, key (f r) = key r} (k : κ) :
    (t.update cond f hf).find k = (t.find k).map fun r => if cond r then f r else r := by
  simp only [find, update, List.find?_map]
  have h : ((fun r => decide (key r = k)) ∘ fun r => if cond r then f r else r) =
      fun r => decide (key r = k) := by
    funext r
    simp only [Function.comp_apply]
    split
    · rw [hf]
    · rfl
  rw [h]

theorem find_insert {t t' : Table α key} {r : α} (h : t.insert r = some t') (k : κ) :
    t'.find k = if key r = k then some r else t.find k := by
  obtain ⟨hrows, hnew⟩ := insert_eq_some h
  unfold find
  rw [hrows, List.find?_append]
  split
  · rename_i hk
    have hnone : t.rows.find? (fun q => decide (key q = k)) = none := by
      rw [List.find?_eq_none]
      intro q hq
      rw [decide_eq_true_eq, ← hk]
      exact fun heq => hnew (List.mem_map.mpr ⟨q, hq, heq⟩)
    simp [hnone, hk]
  · rename_i hk
    simp [hk]

theorem insert_eq_none {t : Table α key} {r : α} (h : t.insert r = none) :
    ∃ q, t.find (key r) = some q := by
  unfold insert at h
  split at h
  · cases h
  · rename_i hmem
    obtain ⟨q, hq, hkey⟩ := List.mem_map.mp (not_not.mp hmem)
    exact ⟨q, hkey ▸ mem_iff_find.mp hq⟩

/-- Under a new key a row can be inserted. -/
theorem insert_of_find_none {t : Table α key} {r : α} (h : t.find (key r) = none) :
    ∃ t', t.insert r = some t' := by
  cases hinsert : t.insert r with
  | some t' => exact ⟨t', rfl⟩
  | none =>
    obtain ⟨q, hq⟩ := insert_eq_none hinsert
    rw [h] at hq
    cases hq

/-- Under the key of the row is what an upsert makes of the row that was there, or the row. -/
theorem find_upsert {t : Table α key} {r : α} {f : α → α} {hf : ∀ r, key (f r) = key r} (k : κ) :
    (t.upsert r f hf).find k = if key r = k then some ((t.find k).elim r f) else t.find k := by
  unfold upsert
  cases hinsert : t.insert r with
  | some t' =>
    rw [find_insert hinsert]
    split
    · rename_i hk
      have hnone : t.find k = none := by
        by_contra hne
        obtain ⟨q, hq⟩ := Option.ne_none_iff_exists'.mp hne
        obtain ⟨hmem, hkey⟩ := find_some hq
        exact (insert_eq_some hinsert).2 (List.mem_map.mpr ⟨q, hmem, hkey.trans hk.symm⟩)
      rw [hnone]
      rfl
    · rfl
  | none =>
    obtain ⟨q, hq⟩ := insert_eq_none hinsert
    rw [find_update]
    by_cases hk : key r = k
    · subst hk
      rw [if_pos rfl, hq]
      simp [(find_some hq).2]
    · rw [if_neg hk]
      cases hfind : t.find k with
      | none => rfl
      | some p =>
        have hkey := (find_some hfind).2
        simp [hkey, Ne.symm hk]

theorem find_delete {t : Table α key} {cond : α → Bool} (k : κ) :
    (t.delete cond).find k = (t.find k).filter fun r => !cond r := by
  refine Option.ext fun r => ?_
  rw [Option.filter_eq_some_iff]
  constructor
  · intro h
    obtain ⟨hr, rfl⟩ := find_some h
    obtain ⟨hmem, hcond⟩ := mem_delete.mp hr
    exact ⟨mem_iff_find.mp hmem, by rw [hcond]; rfl⟩
  · rintro ⟨h, hcond⟩
    obtain ⟨hr, rfl⟩ := find_some h
    exact mem_iff_find.mp (mem_delete.mpr ⟨hr, by simpa using hcond⟩)

/-! ## Rows that change -/

omit [DecidableEq κ] in
/-- The rows of `t'` are those of `t`, each of them as it was or changed by `R`. -/
structure Evolves (R : α → α → Prop) (t t' : Table α key) : Prop where
  rows : List.Forall₂ (fun r r' => key r' = key r ∧ (r' = r ∨ R r r')) t.rows t'.rows

namespace Evolves

variable {R : α → α → Prop} {t t' : Table α key}

omit [DecidableEq κ] in
theorem forth (h : Evolves R t t') {r : α} (hr : r ∈ t) :
    ∃ r' ∈ t', key r' = key r ∧ (r' = r ∨ R r r') := by
  have hrows := h.rows
  rw [mem_def] at hr
  simp only [mem_def]
  generalize t.rows = rows at hrows hr
  generalize t'.rows = rows' at hrows
  induction hrows with
  | nil => cases hr
  | @cons q q' qs qs' hq _ ih =>
    rcases List.mem_cons.mp hr with rfl | hr
    · exact ⟨q', List.mem_cons_self, hq⟩
    · obtain ⟨r', hr', hR⟩ := ih hr
      exact ⟨r', List.mem_cons_of_mem _ hr', hR⟩

omit [DecidableEq κ] in
theorem back (h : Evolves R t t') {r' : α} (hr : r' ∈ t') :
    ∃ r ∈ t, key r' = key r ∧ (r' = r ∨ R r r') := by
  have hrows := h.rows
  rw [mem_def] at hr
  simp only [mem_def]
  generalize t.rows = rows at hrows
  generalize t'.rows = rows' at hrows hr
  induction hrows with
  | nil => cases hr
  | @cons q q' qs qs' hq _ ih =>
    rcases List.mem_cons.mp hr with rfl | hr
    · exact ⟨q, List.mem_cons_self, hq⟩
    · obtain ⟨r, hr, hR⟩ := ih hr
      exact ⟨r, List.mem_cons_of_mem _ hr, hR⟩

end Evolves

omit [DecidableEq κ] in
/-- An update changes only the rows that it selects. -/
theorem evolves_update {R : α → α → Prop} {t : Table α key} {cond : α → Bool} {f : α → α}
    {hf : ∀ r, key (f r) = key r} (h : ∀ r ∈ t, cond r = true → R r (f r)) :
    Evolves R t (t.update cond f hf) where
  rows := by
    rw [update, List.forall₂_map_right_iff, List.forall₂_same]
    intro r hr
    split
    · rename_i hc
      exact ⟨hf r, .inr (h r hr hc)⟩
    · exact ⟨rfl, .inl rfl⟩

/-- An upsert is an insert, or changes the row that is under the key. -/
theorem upsert_cases {t : Table α key} {r : α} {f : α → α} {hf : ∀ r, key (f r) = key r} :
    t.insert r = some (t.upsert r f hf) ∨
      t.upsert r f hf = t.update (fun q => decide (key q = key r)) f hf := by
  unfold upsert
  cases h : t.insert r with
  | some t' => exact .inl rfl
  | none => exact .inr rfl

/-- An upsert leaves a table as it is just if it finds a row that it does not change. -/
theorem upsert_eq_self_iff {t : Table α key} {r : α} {f : α → α} {hf : ∀ r, key (f r) = key r} :
    t.upsert r f hf = t ↔ ∃ q, t.find (key r) = some q ∧ f q = q := by
  constructor
  · intro h
    have hfind : (t.upsert r f hf).find (key r) = some ((t.find (key r)).elim r f) :=
      (find_upsert _).trans (if_pos rfl)
    rw [h] at hfind
    refine ⟨_, hfind, ?_⟩
    rw [hfind] at hfind
    exact (Option.some.inj hfind).symm
  · rintro ⟨q, hq, hsame⟩
    have hcases : t.insert r = some (t.upsert r f hf) ∨
        t.upsert r f hf = t.update (fun q => decide (key q = key r)) f hf := upsert_cases
    rcases hcases with hinsert | hupdate
    · obtain ⟨hmem, hkey⟩ := find_some hq
      exact absurd (List.mem_map.mpr ⟨q, hmem, hkey⟩) (insert_eq_some hinsert).2
    · rw [hupdate]
      refine ext ?_
      unfold update
      dsimp only
      refine (List.map_congr_left fun c hc => ?_).trans (List.map_id t.rows)
      split
      · rename_i hkey
        obtain ⟨hmem, hkey'⟩ := find_some hq
        rw [eq_of_key hc hmem ((of_decide_eq_true hkey).trans hkey'.symm)]
        exact hsame
      · rfl

end Table

end Plachem
