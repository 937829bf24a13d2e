import PlachemMonitor.Auth.OneUse

/-!
# Canonical digests

`canonical_task_digest` says of two scopes whether they are one: the digests are equal just if the
bindings are equal without the whitespace around them and the task contracts are equal JSON values
(`digest_eq_iff`, `canonical_digest`). A contract with a forbidden key has none, however deep the key
is and however it is written (`Nested`, `SameWord`).
-/

namespace Plachem

namespace AuthBroker

/-! ## Forbidden keys -/

/-- The words are equal up to case, and up to `-` for `_`. -/
def SameWord (key word : String) : Prop :=
  key.toList.map normalizeChar = word.toList.map normalizeChar

/-- The key is a forbidden one, as it may be written. -/
def ForbiddenKey (key : String) : Prop := ∃ word ∈ SENSITIVE, SameWord key word

/-- An object in the value, at any depth, has a key with `p`. -/
inductive Nested (p : String → Prop) : Json → Prop where
  | key {ms : List (String × Json)} {k : String} {v : Json} (mem : (k, v) ∈ ms) (found : p k) :
      Nested p (.obj ms)
  | member {ms : List (String × Json)} {k : String} {v : Json} (mem : (k, v) ∈ ms)
      (nested : Nested p v) : Nested p (.obj ms)
  | elem {xs : List Json} {x : Json} (mem : x ∈ xs) (nested : Nested p x) : Nested p (.arr xs)

theorem sensitive_of_forbidden {key : String} (h : ForbiddenKey key) : sensitive key = true := by
  have hplain : ∀ word ∈ SENSITIVE, word.toList.map normalizeChar = word.toList := by decide +kernel
  obtain ⟨word, hword, hsame⟩ := h
  rw [sensitive, decide_eq_true_eq, show key.toList.map normalizeChar = _ from hsame,
    hplain word hword, String.ofList_toList]
  exact hword

theorem canonical_members_all {ms ns : List (String × Json)} (h : canonical_members ms = .ok ns) :
    ∀ m ∈ ms, sensitive m.1 = false ∧ ∃ w, canonical_value m.2 = .ok w := by
  induction ms generalizing ns with
  | nil => exact fun m hm => absurd hm List.not_mem_nil
  | cons m ms ih =>
    obtain ⟨key, item⟩ := m
    simp only [canonical_members] at h
    split at h
    · cases h
    rename_i hkey
    split at h
    · cases h
    rename_i w hitem
    split at h
    · cases h
    rename_i ws hms
    intro m hm
    rcases List.mem_cons.mp hm with rfl | hm
    · exact ⟨by simpa using hkey, w, hitem⟩
    · exact ih hms m hm

theorem canonical_elems_all {xs ys : List Json} (h : canonical_elems xs = .ok ys) :
    ∀ x ∈ xs, ∃ w, canonical_value x = .ok w := by
  induction xs generalizing ys with
  | nil => exact fun x hx => absurd hx List.not_mem_nil
  | cons x xs ih =>
    simp only [canonical_elems] at h
    split at h
    · cases h
    rename_i w hx
    split at h
    · cases h
    rename_i ws hxs
    intro y hy
    rcases List.mem_cons.mp hy with rfl | hy
    · exact ⟨w, hx⟩
    · exact ih hxs y hy

/-- A value with a forbidden key has no canonical form. -/
theorem canonical_rejects {v : Json} (h : Nested ForbiddenKey v) (w : Json) :
    canonical_value v ≠ .ok w := by
  induction h generalizing w with
  | key hmem hfound =>
    intro hok
    simp only [canonical_value] at hok
    split at hok
    · cases hok
    rename_i hms
    have hplain := (canonical_members_all hms _ hmem).1
    rw [sensitive_of_forbidden hfound] at hplain
    cases hplain
  | member hmem _ ih =>
    intro hok
    simp only [canonical_value] at hok
    split at hok
    · cases hok
    rename_i hms
    obtain ⟨w', hw'⟩ := (canonical_members_all hms _ hmem).2
    exact ih w' hw'
  | elem hmem _ ih =>
    intro hok
    simp only [canonical_value] at hok
    split at hok
    · cases hok
    rename_i hxs
    obtain ⟨w', hw'⟩ := canonical_elems_all hxs _ hmem
    exact ih w' hw'

/-! ## Equal digests -/

/-- The bindings are equal without the whitespace around them, the contracts as JSON values. -/
structure SameScope (s s' : AuthScope) : Prop where
  agent_id : Text.strip s.agent_id = Text.strip s'.agent_id
  action : Text.strip s.action = Text.strip s'.action
  workspace_id : Text.strip s.workspace_id = Text.strip s'.workspace_id
  project_id : Text.strip s.project_id = Text.strip s'.project_id
  task_contract : Dict.Eqv s.task_contract s'.task_contract

theorem bound_ok {value stripped : String} (h : bound value = .ok stripped) :
    stripped = Text.strip value := by
  unfold bound at h
  split at h
  · cases h
  · exact (Except.ok.inj h).symm

/-- The envelope is sorted part by part. -/
theorem envelope_congr (a b c d : String) {v v' : Json} (h : Json.Eqv v v') :
    (envelope a b c d v).dumps true = (envelope a b c d v').dumps true := by
  have hsort : (envelope a b c d v).sortKeys = (envelope a b c d v').sortKeys := by
    simp only [envelope, Json.sortKeys, Json.sortKeysMembers_eq, List.map_cons, List.map_nil]
    rw [show v.sortKeys = v'.sortKeys from h]
  rw [Json.dumps, Json.dumps, hsort]

variable {H : Hashlib}

theorem digest_congr {s s' : AuthScope} {d d' : String} (h : canonical_task_digest H s = .ok d)
    (h' : canonical_task_digest H s' = .ok d') (hsame : SameScope s s') : d = d' := by
  obtain ⟨a, b, c, e, ha, hb, hc, he, rfl⟩ := digest_ok h
  obtain ⟨a', b', c', e', ha', hb', hc', he', rfl⟩ := digest_ok h'
  rw [bound_ok ha, bound_ok hb, bound_ok hc, bound_ok he, bound_ok ha', bound_ok hb', bound_ok hc',
    bound_ok he', hsame.agent_id, hsame.action, hsame.workspace_id, hsame.project_id,
    envelope_congr _ _ _ _ hsame.task_contract]

theorem sameScope_of_digest (hsha : Function.Injective H.sha256) {s s' : AuthScope} {d : String}
    (h : canonical_task_digest H s = .ok d) (h' : canonical_task_digest H s' = .ok d) :
    SameScope s s' := by
  obtain ⟨a, b, c, e, ha, hb, hc, he, -⟩ := digest_ok h
  obtain ⟨hagent, haction, hworkspace, hproject, hcontract⟩ := digest_inj hsha h h'
  refine ⟨?_, ?_, ?_, ?_, hcontract⟩
  · rw [← bound_ok ha, bound_ok (hagent.symm.trans ha)]
  · rw [← bound_ok hb, bound_ok (haction.symm.trans hb)]
  · rw [← bound_ok hc, bound_ok (hworkspace.symm.trans hc)]
  · rw [← bound_ok he, bound_ok (hproject.symm.trans he)]

end AuthBroker

end Plachem
