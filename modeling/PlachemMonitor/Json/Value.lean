import Mathlib.Data.List.Sort
import Mathlib.Data.List.Nodup

/-!
# JSON values

The values that `json.dumps` writes and `json.loads` reads. An object is the list of its members
in insertion order, as a Python `dict` keeps them. A `dict` has no two members with one key: this
is `Json.wf`, and `Dict` and `Value` carry it.

* `FloatText`: a float, named by the text that `json.dumps` writes for it (`float(repr(x)) == x`,
  so the text determines the float).
* `Json.sortKeys`: the value with the members of every object in key order (`sort_keys=True`).
  Two values are equal as Python values when they sort to the same value (`Json.Eqv`): the `==`
  of `dict` ignores the order of the members.
* `Dict.get?`, `Dict.set`: `d.get(k)` and `d[k] = v`.
-/

namespace Plachem

/-! ## Number texts -/

/-- A character that a JSON number can contain. -/
def numberChar (c : Char) : Bool :=
  c.isDigit || c == '.' || c == 'e' || c == 'E' || c == '+' || c == '-'

/-- `0|[1-9]\d*` -/
def isNatText : List Char → Bool
  | ['0'] => true
  | c :: cs => c.isDigit && c != '0' && cs.all Char.isDigit
  | [] => false

/-- `-?(?:0|[1-9]\d*)` -/
def isIntText : List Char → Bool
  | '-' :: cs => isNatText cs
  | cs => isNatText cs

/-- `[-+]?\d+`, the text after the `e` of an exponent. -/
def isExponent : List Char → Bool
  | '+' :: ds => ds != [] && ds.all Char.isDigit
  | '-' :: ds => ds != [] && ds.all Char.isDigit
  | ds => ds != [] && ds.all Char.isDigit

/-- `(\.\d+)?([eE][-+]?\d+)?`, at least one of the two. -/
def isFraction : List Char → Bool
  | '.' :: cs =>
    let rest := cs.dropWhile Char.isDigit
    cs.takeWhile Char.isDigit != [] && (rest == [] ||
      match rest with
      | 'e' :: ds | 'E' :: ds => isExponent ds
      | _ => false)
  | 'e' :: ds | 'E' :: ds => isExponent ds
  | _ => false

/-- A number with a fraction or an exponent. -/
def isFractional (t : List Char) : Bool :=
  t.all numberChar && isIntText (t.takeWhile fun c => c.isDigit || c == '-') &&
    isFraction (t.dropWhile fun c => c.isDigit || c == '-')

/-- The texts of the floats that are no number. -/
def nonFinite : List (List Char) := ["NaN".toList, "Infinity".toList, "-Infinity".toList]

/-- A float, named by its JSON text. -/
structure FloatText where
  text : List Char
  valid : isFractional text = true ∨ text ∈ nonFinite
  deriving DecidableEq

/-! ## Values -/

inductive Json where
  | null
  | bool (b : Bool)
  | int (n : Int)
  | float (t : FloatText)
  | str (s : String)
  | arr (xs : List Json)
  | obj (members : List (String × Json))

namespace Json

mutual

protected def decEq : (a b : Json) → Decidable (a = b)
  | .null, .null => isTrue rfl
  | .bool a, .bool b => decidable_of_iff (a = b) (by simp)
  | .int a, .int b => decidable_of_iff (a = b) (by simp)
  | .float a, .float b => decidable_of_iff (a = b) (by simp)
  | .str a, .str b => decidable_of_iff (a = b) (by simp)
  | .arr a, .arr b => @decidable_of_iff _ (a = b) (by simp) (decEqElems a b)
  | .obj a, .obj b => @decidable_of_iff _ (a = b) (by simp) (decEqMembers a b)
  | .null, .bool _ | .null, .int _ | .null, .float _ | .null, .str _ | .null, .arr _
  | .null, .obj _ | .bool _, .null | .bool _, .int _ | .bool _, .float _ | .bool _, .str _
  | .bool _, .arr _ | .bool _, .obj _ | .int _, .null | .int _, .bool _ | .int _, .float _
  | .int _, .str _ | .int _, .arr _ | .int _, .obj _ | .float _, .null | .float _, .bool _
  | .float _, .int _ | .float _, .str _ | .float _, .arr _ | .float _, .obj _ | .str _, .null
  | .str _, .bool _ | .str _, .int _ | .str _, .float _ | .str _, .arr _ | .str _, .obj _
  | .arr _, .null | .arr _, .bool _ | .arr _, .int _ | .arr _, .float _ | .arr _, .str _
  | .arr _, .obj _ | .obj _, .null | .obj _, .bool _ | .obj _, .int _ | .obj _, .float _
  | .obj _, .str _ | .obj _, .arr _ => isFalse (by simp)
  termination_by structural a => a

def decEqElems : (a b : List Json) → Decidable (a = b)
  | [], [] => isTrue rfl
  | x :: xs, y :: ys =>
    @decidable_of_iff _ (x = y ∧ xs = ys) (by simp)
      (@instDecidableAnd _ _ (Json.decEq x y) (decEqElems xs ys))
  | [], _ :: _ | _ :: _, [] => isFalse (by simp)
  termination_by structural a => a

def decEqMembers : (a b : List (String × Json)) → Decidable (a = b)
  | [], [] => isTrue rfl
  | (k, x) :: xs, (l, y) :: ys =>
    @decidable_of_iff _ (k = l ∧ x = y ∧ xs = ys) (by simp [and_assoc])
      (@instDecidableAnd _ _ inferInstance
        (@instDecidableAnd _ _ (Json.decEq x y) (decEqMembers xs ys)))
  | [], _ :: _ | _ :: _, [] => isFalse (by simp)
  termination_by structural a => a

end

instance : DecidableEq Json := Json.decEq

mutual

/-- No object in the value has two members with one key. -/
def wf : Json → Bool
  | .arr xs => wfElems xs
  | .obj ms => decide (ms.map Prod.fst).Nodup && wfMembers ms
  | _ => true
  termination_by structural v => v

def wfElems : List Json → Bool
  | [] => true
  | x :: xs => wf x && wfElems xs
  termination_by structural xs => xs

def wfMembers : List (String × Json) → Bool
  | [] => true
  | (_, v) :: ms => wf v && wfMembers ms
  termination_by structural ms => ms

end

mutual

/-- Every string of the value, keys included, satisfies `p`. -/
def allStrings (p : String → Bool) : Json → Bool
  | .str s => p s
  | .arr xs => allStringsElems p xs
  | .obj ms => allStringsMembers p ms
  | _ => true
  termination_by structural v => v

def allStringsElems (p : String → Bool) : List Json → Bool
  | [] => true
  | x :: xs => allStrings p x && allStringsElems p xs
  termination_by structural xs => xs

def allStringsMembers (p : String → Bool) : List (String × Json) → Bool
  | [] => true
  | (k, v) :: ms => p k && allStrings p v && allStringsMembers p ms
  termination_by structural ms => ms

end

/-- The order of `sorted(dct.items())` on distinct keys: by code points. -/
abbrev keyLE (a b : String × Json) : Prop := a.1 ≤ b.1

mutual

/-- `sort_keys=True`: the members of every object in key order. -/
def sortKeys : Json → Json
  | .arr xs => .arr (sortKeysElems xs)
  | .obj ms => .obj ((sortKeysMembers ms).insertionSort keyLE)
  | .null => .null
  | .bool b => .bool b
  | .int n => .int n
  | .float t => .float t
  | .str s => .str s
  termination_by structural v => v

def sortKeysElems : List Json → List Json
  | [] => []
  | x :: xs => sortKeys x :: sortKeysElems xs
  termination_by structural xs => xs

def sortKeysMembers : List (String × Json) → List (String × Json)
  | [] => []
  | (k, v) :: ms => (k, sortKeys v) :: sortKeysMembers ms
  termination_by structural ms => ms

end

/-- Equality of Python values: the order of the members does not matter. -/
def Eqv (a b : Json) : Prop := a.sortKeys = b.sortKeys

instance (a b : Json) : Decidable (Eqv a b) := inferInstanceAs (Decidable (_ = _))

theorem wfElems_iff {xs : List Json} : wfElems xs = true ↔ ∀ x ∈ xs, wf x = true := by
  induction xs with
  | nil => simp [wfElems]
  | cons x xs ih => simp [wfElems, ih]

theorem wfMembers_iff {ms : List (String × Json)} :
    wfMembers ms = true ↔ ∀ m ∈ ms, wf m.2 = true := by
  induction ms with
  | nil => simp [wfMembers]
  | cons m ms ih => simp [wfMembers, ih]

theorem allStringsElems_iff {p : String → Bool} {xs : List Json} :
    allStringsElems p xs = true ↔ ∀ x ∈ xs, allStrings p x = true := by
  induction xs with
  | nil => simp [allStringsElems]
  | cons x xs ih => simp [allStringsElems, ih]

theorem allStringsMembers_iff {p : String → Bool} {ms : List (String × Json)} :
    allStringsMembers p ms = true ↔ ∀ m ∈ ms, p m.1 = true ∧ allStrings p m.2 = true := by
  induction ms with
  | nil => simp [allStringsMembers]
  | cons m ms ih => simp [allStringsMembers, ih]

mutual

theorem allStrings_of_forall {p : String → Bool} (h : ∀ s, p s = true) :
    ∀ v : Json, allStrings p v = true
  | .str s => h s
  | .arr xs => allStringsElems_of_forall h xs
  | .obj ms => allStringsMembers_of_forall h ms
  | .null | .bool _ | .int _ | .float _ => rfl
  termination_by structural v => v

theorem allStringsElems_of_forall {p : String → Bool} (h : ∀ s, p s = true) :
    ∀ xs : List Json, allStringsElems p xs = true
  | [] => rfl
  | x :: xs => by
    simp [allStringsElems, allStrings_of_forall h x, allStringsElems_of_forall h xs]
  termination_by structural xs => xs

theorem allStringsMembers_of_forall {p : String → Bool} (h : ∀ s, p s = true) :
    ∀ ms : List (String × Json), allStringsMembers p ms = true
  | [] => rfl
  | (k, v) :: ms => by
    simp [allStringsMembers, h, allStrings_of_forall h v, allStringsMembers_of_forall h ms]
  termination_by structural ms => ms

end

theorem sortKeysMembers_eq (ms : List (String × Json)) :
    sortKeysMembers ms = ms.map fun m => (m.1, sortKeys m.2) := by
  induction ms with
  | nil => rfl
  | cons m ms ih => simp [sortKeysMembers, ih]

theorem sortKeysElems_eq (xs : List Json) : sortKeysElems xs = xs.map sortKeys := by
  induction xs with
  | nil => rfl
  | cons x xs ih => simp [sortKeysElems, ih]

/-! ## Sorting -/

/-- Sorting only permutes the members. -/
theorem perm_sort (ms : List (String × Json)) :
    ((sortKeysMembers ms).insertionSort keyLE).Perm (sortKeysMembers ms) :=
  List.perm_insertionSort _ _

theorem keys_sortKeysMembers (ms : List (String × Json)) :
    (sortKeysMembers ms).map Prod.fst = ms.map Prod.fst := by
  simp [sortKeysMembers_eq, Function.comp_def]

mutual

theorem wf_sortKeys : ∀ v : Json, wf v.sortKeys = wf v
  | .arr xs => by
    simp only [sortKeys, wf]
    exact wfElems_sortKeys xs
  | .obj ms => by
    have hp := perm_sort ms
    have hk : (((sortKeysMembers ms).insertionSort keyLE).map Prod.fst).Nodup ↔
        (ms.map Prod.fst).Nodup := by
      rw [(hp.map Prod.fst).nodup_iff, keys_sortKeysMembers]
    have hm : wfMembers ((sortKeysMembers ms).insertionSort keyLE) =
        wfMembers (sortKeysMembers ms) := by
      rw [Bool.eq_iff_iff, wfMembers_iff, wfMembers_iff]
      exact ⟨fun h m hm => h m (hp.mem_iff.mpr hm), fun h m hm => h m (hp.mem_iff.mp hm)⟩
    simp only [sortKeys, wf, hm, wfMembers_sortKeys ms, hk]
  | .null | .bool _ | .int _ | .float _ | .str _ => rfl
  termination_by structural v => v

theorem wfElems_sortKeys : ∀ xs : List Json, wfElems (sortKeysElems xs) = wfElems xs
  | [] => rfl
  | x :: xs => by simp only [sortKeysElems, wfElems, wf_sortKeys x, wfElems_sortKeys xs]
  termination_by structural xs => xs

theorem wfMembers_sortKeys :
    ∀ ms : List (String × Json), wfMembers (sortKeysMembers ms) = wfMembers ms
  | [] => rfl
  | (_, v) :: ms => by
    simp only [sortKeysMembers, wfMembers, wf_sortKeys v, wfMembers_sortKeys ms]
  termination_by structural ms => ms

end

mutual

theorem allStrings_sortKeys (p : String → Bool) :
    ∀ v : Json, allStrings p v.sortKeys = allStrings p v
  | .arr xs => by
    simp only [sortKeys, allStrings]
    exact allStringsElems_sortKeys p xs
  | .obj ms => by
    have hp := perm_sort ms
    have hm : allStringsMembers p ((sortKeysMembers ms).insertionSort keyLE) =
        allStringsMembers p (sortKeysMembers ms) := by
      rw [Bool.eq_iff_iff, allStringsMembers_iff, allStringsMembers_iff]
      exact ⟨fun h m hm => h m (hp.mem_iff.mpr hm), fun h m hm => h m (hp.mem_iff.mp hm)⟩
    simp only [sortKeys, allStrings, hm, allStringsMembers_sortKeys p ms]
  | .null | .bool _ | .int _ | .float _ | .str _ => rfl
  termination_by structural v => v

theorem allStringsElems_sortKeys (p : String → Bool) :
    ∀ xs : List Json, allStringsElems p (sortKeysElems xs) = allStringsElems p xs
  | [] => rfl
  | x :: xs => by
    simp only [sortKeysElems, allStringsElems, allStrings_sortKeys p x,
      allStringsElems_sortKeys p xs]
  termination_by structural xs => xs

theorem allStringsMembers_sortKeys (p : String → Bool) :
    ∀ ms : List (String × Json),
      allStringsMembers p (sortKeysMembers ms) = allStringsMembers p ms
  | [] => rfl
  | (_, v) :: ms => by
    simp only [sortKeysMembers, allStringsMembers, allStrings_sortKeys p v,
      allStringsMembers_sortKeys p ms]
  termination_by structural ms => ms

end

instance : Std.Total keyLE := ⟨fun a b => String.le_total a.1 b.1⟩

instance : IsTrans (String × Json) keyLE := ⟨fun _ _ _ h h' => String.le_trans h h'⟩

/-- Members that are in key order stay so when their values are sorted. -/
theorem pairwise_sortKeysMembers {ms : List (String × Json)} (h : ms.Pairwise keyLE) :
    (sortKeysMembers ms).Pairwise keyLE := by
  rw [sortKeysMembers_eq, List.pairwise_map]
  exact h

mutual

/-- Sorting a sorted value changes nothing. -/
theorem sortKeys_sortKeys : ∀ v : Json, v.sortKeys.sortKeys = v.sortKeys
  | .arr xs => by
    simp only [sortKeys]
    rw [sortKeysElems_sortKeys xs]
  | .obj ms => by
    have hsorted := List.pairwise_insertionSort keyLE (sortKeysMembers ms)
    have hvals : sortKeysMembers ((sortKeysMembers ms).insertionSort keyLE) =
        (sortKeysMembers ms).insertionSort keyLE := by
      rw [sortKeysMembers_eq]
      conv => rhs; rw [← List.map_id ((sortKeysMembers ms).insertionSort keyLE)]
      refine List.map_congr_left fun m hm => ?_
      have hm' := (perm_sort ms).mem_iff.mp hm
      exact Prod.ext rfl (sortKeys_member ms m hm')
    simp only [sortKeys, hvals]
    rw [hsorted.insertionSort_eq]
  | .null | .bool _ | .int _ | .float _ | .str _ => rfl
  termination_by structural v => v

theorem sortKeysElems_sortKeys :
    ∀ xs : List Json, sortKeysElems (sortKeysElems xs) = sortKeysElems xs
  | [] => rfl
  | x :: xs => by
    simp only [sortKeysElems, sortKeys_sortKeys x, sortKeysElems_sortKeys xs]
  termination_by structural xs => xs

theorem sortKeys_member :
    ∀ ms : List (String × Json), ∀ m ∈ sortKeysMembers ms, m.2.sortKeys = m.2
  | [] => by simp [sortKeysMembers]
  | (_, v) :: ms => by
    intro m hm
    simp only [sortKeysMembers, List.mem_cons] at hm
    rcases hm with rfl | hm
    · exact sortKeys_sortKeys v
    · exact sortKeys_member ms m hm
  termination_by structural ms => ms

end

/-- A value equals its sorted form. -/
theorem eqv_sortKeys (v : Json) : Eqv v.sortKeys v := sortKeys_sortKeys v

theorem Eqv.refl (v : Json) : Eqv v v := rfl

/-! ## Members by key -/

/-- `dct[k] = v`: the member keeps its place, a new one comes last. -/
def setMember : List (String × Json) → String → Json → List (String × Json)
  | [], k, v => [(k, v)]
  | (k', v') :: ms, k, v => if k' = k then (k, v) :: ms else (k', v') :: setMember ms k v

/-- `dct.get(k)` -/
def getMember (ms : List (String × Json)) (k : String) : Option Json :=
  (ms.find? fun m => m.1 == k).map Prod.snd

/-- `dict(pairs)`: a later pair replaces an earlier one with its key. -/
def dictOf (pairs : List (String × Json)) : List (String × Json) :=
  pairs.foldl (fun ms m => setMember ms m.1 m.2) []

theorem getMember_eq_some {ms : List (String × Json)} {k : String} {v : Json}
    (h : (ms.map Prod.fst).Nodup) : getMember ms k = some v ↔ (k, v) ∈ ms := by
  induction ms with
  | nil => simp [getMember]
  | cons m ms ih =>
    obtain ⟨k', v'⟩ := m
    simp only [List.map_cons, List.nodup_cons] at h
    by_cases hk : k' = k
    · subst hk
      have hn : (k', v) ∉ ms := fun hm => h.1 (List.mem_map_of_mem hm)
      simp [getMember, hn, eq_comm]
    · have ih' := ih h.2
      simp only [getMember] at ih'
      simp [getMember, hk, ih', Ne.symm hk]

theorem setMember_of_notMem {ms : List (String × Json)} {k : String} (v : Json)
    (h : k ∉ ms.map Prod.fst) : setMember ms k v = ms ++ [(k, v)] := by
  induction ms with
  | nil => rfl
  | cons m ms ih =>
    simp only [List.map_cons, List.mem_cons, not_or] at h
    simp [setMember, Ne.symm h.1, ih h.2]

theorem foldl_setMember_of_nodup (acc ms : List (String × Json))
    (h : ((acc ++ ms).map Prod.fst).Nodup) :
    ms.foldl (fun ms m => setMember ms m.1 m.2) acc = acc ++ ms := by
  induction ms generalizing acc with
  | nil => simp
  | cons m ms ih =>
    have hm : m.1 ∉ acc.map Prod.fst := by
      simp only [List.map_append, List.map_cons, List.nodup_append, List.nodup_cons] at h
      intro hc
      exact h.2.2 m.1 hc m.1 (List.mem_cons_self ..) rfl
    rw [List.foldl_cons, setMember_of_notMem _ hm, ih]
    · simp
    · simpa using h

/-- Pairs with distinct keys are a dictionary as they are. -/
theorem dictOf_of_nodup {ms : List (String × Json)} (h : (ms.map Prod.fst).Nodup) :
    dictOf ms = ms := by
  simpa [dictOf] using foldl_setMember_of_nodup [] ms (by simpa using h)

theorem mem_setMember {ms : List (String × Json)} {k : String} {v : Json} {m : String × Json}
    (h : m ∈ setMember ms k v) : m = (k, v) ∨ m ∈ ms := by
  induction ms with
  | nil => exact .inl (by simpa [setMember] using h)
  | cons m' ms ih =>
    unfold setMember at h
    split at h
    · rcases List.mem_cons.mp h with h | h
      · exact .inl h
      · exact .inr (List.mem_cons_of_mem _ h)
    · rcases List.mem_cons.mp h with h | h
      · exact .inr (by simp [h])
      · exact (ih h).imp id (List.mem_cons_of_mem _)

theorem keys_setMember_sub {ms : List (String × Json)} {k k' : String} {v : Json}
    (h : k' ∈ (setMember ms k v).map Prod.fst) : k' = k ∨ k' ∈ ms.map Prod.fst := by
  obtain ⟨m, hm, rfl⟩ := List.mem_map.mp h
  rcases mem_setMember hm with rfl | hm
  · exact .inl rfl
  · exact .inr (List.mem_map_of_mem hm)

theorem nodup_setMember {ms : List (String × Json)} (k : String) (v : Json)
    (h : (ms.map Prod.fst).Nodup) : ((setMember ms k v).map Prod.fst).Nodup := by
  induction ms with
  | nil => simp [setMember]
  | cons m ms ih =>
    simp only [List.map_cons, List.nodup_cons] at h
    unfold setMember
    split
    · rename_i hk
      simpa [← hk] using h
    · rename_i hk
      simp only [List.map_cons, List.nodup_cons]
      refine ⟨fun hc => ?_, ih h.2⟩
      rcases keys_setMember_sub hc with hc | hc
      · exact hk hc
      · exact h.1 hc

theorem getMember_setMember_self (ms : List (String × Json)) (k : String) (v : Json) :
    getMember (setMember ms k v) k = some v := by
  induction ms with
  | nil => simp [setMember, getMember]
  | cons m ms ih =>
    unfold setMember
    split
    · simp [getMember]
    · rename_i hk
      simpa [getMember, hk] using ih

theorem getMember_setMember_ne {k k' : String} (ms : List (String × Json)) (v : Json)
    (h : k' ≠ k) : getMember (setMember ms k v) k' = getMember ms k' := by
  induction ms with
  | nil => simp [setMember, getMember, Ne.symm h]
  | cons m ms ih =>
    obtain ⟨k₀, v₀⟩ := m
    unfold setMember
    split
    · rename_i hk
      subst hk
      simp [getMember, Ne.symm h]
    · by_cases hk' : k₀ = k'
      · simp [getMember, hk']
      · simpa [getMember, hk'] using ih

theorem wf_setMember {ms : List (String × Json)} {k : String} {v : Json}
    (h : wf (.obj ms) = true) (hv : wf v = true) : wf (.obj (setMember ms k v)) = true := by
  simp only [wf, Bool.and_eq_true, decide_eq_true_eq, wfMembers_iff] at h ⊢
  refine ⟨nodup_setMember k v h.1, fun m hm => ?_⟩
  rcases mem_setMember hm with rfl | hm
  · exact hv
  · exact h.2 m hm

/-- Sorting sorts the values and leaves each at its key. -/
theorem getMember_sortKeys {ms : List (String × Json)} (h : (ms.map Prod.fst).Nodup)
    (k : String) : getMember ((sortKeysMembers ms).insertionSort keyLE) k =
      (getMember ms k).map sortKeys := by
  have hp := perm_sort ms
  have hnd : (((sortKeysMembers ms).insertionSort keyLE).map Prod.fst).Nodup := by
    rwa [(hp.map Prod.fst).nodup_iff, keys_sortKeysMembers]
  ext v
  rw [getMember_eq_some hnd, hp.mem_iff, sortKeysMembers_eq,
    Option.map_eq_some_iff]
  simp only [List.mem_map, Prod.mk.injEq, Prod.exists, getMember_eq_some h]
  constructor
  · rintro ⟨k', v', hm, rfl, rfl⟩
    exact ⟨v', hm, rfl⟩
  · rintro ⟨v', hm, rfl⟩
    exact ⟨k, v', hm, rfl, rfl⟩

/-- Equal objects have equal members. -/
theorem getMember_of_eqv {ms ns : List (String × Json)} (hms : wf (.obj ms) = true)
    (hns : wf (.obj ns) = true) (h : Eqv (.obj ms) (.obj ns)) (k : String) :
    (getMember ms k).map sortKeys = (getMember ns k).map sortKeys := by
  simp only [wf, Bool.and_eq_true, decide_eq_true_eq] at hms hns
  simp only [Eqv, sortKeys, obj.injEq] at h
  rw [← getMember_sortKeys hms.1, ← getMember_sortKeys hns.1, h]

theorem wf_getMember {ms : List (String × Json)} {k : String} {v : Json}
    (h : wf (.obj ms) = true) (hv : getMember ms k = some v) : wf v = true := by
  simp only [wf, Bool.and_eq_true, decide_eq_true_eq, wfMembers_iff] at h
  exact h.2 _ ((getMember_eq_some h.1).mp hv)

theorem sortKeys_eq_str {v : Json} {s : String} : v.sortKeys = .str s ↔ v = .str s := by
  cases v <;> simp [sortKeys]

/-- `bool(v)` -/
def truthy : Json → Bool
  | .null => false
  | .bool b => b
  | .int n => n != 0
  -- a float is zero if its digits before the exponent are
  | .float t => decide (t.text ∈ nonFinite) ||
      (t.text.takeWhile fun c => c != 'e' && c != 'E').any fun c => c.isDigit && c != '0'
  | .str s => s != ""
  | .arr xs => !xs.isEmpty
  | .obj ms => !ms.isEmpty

end Json

/-! ## Dictionaries -/

/-- A JSON value without double keys. -/
structure Value where
  json : Json
  wf : json.wf = true
  deriving DecidableEq

/-- A JSON object without double keys, at any depth: a Python `dict` of JSON values. -/
structure Dict where
  members : List (String × Json)
  wf : (Json.obj members).wf = true
  deriving DecidableEq

namespace Dict

def json (d : Dict) : Json := .obj d.members

/-- `{}` -/
def empty : Dict := ⟨[], rfl⟩

/-- A dictionary display: `{k: v, ...}` with distinct keys. -/
def ofList (ms : List (String × Value)) (h : (ms.map Prod.fst).Nodup) : Dict :=
  ⟨ms.map fun m => (m.1, m.2.json), by
    simp only [Json.wf, Bool.and_eq_true, decide_eq_true_eq, Json.wfMembers_iff, List.map_map,
      List.mem_map]
    refine ⟨h, ?_⟩
    rintro _ ⟨m, -, rfl⟩
    exact m.2.wf⟩

/-- `d.get(k)` -/
def get? (d : Dict) (k : String) : Option Json := Json.getMember d.members k

/-- `d[k] = v` -/
def set (d : Dict) (k : String) (v : Value) : Dict :=
  ⟨Json.setMember d.members k v.json, Json.wf_setMember d.wf v.wf⟩

theorem get?_ofList (ms : List (String × Value)) (h : (ms.map Prod.fst).Nodup) (k : String) :
    (ofList ms h).get? k = (ms.find? fun m => m.1 == k).map fun m => m.2.json := by
  simp [get?, ofList, Json.getMember, List.find?_map, Function.comp_def]

@[simp] theorem get?_empty (k : String) : empty.get? k = none := rfl

@[simp] theorem get?_set_self (d : Dict) (k : String) (v : Value) :
    (d.set k v).get? k = some v.json := Json.getMember_setMember_self ..

@[simp] theorem get?_set_ne {k k' : String} (d : Dict) (v : Value) (h : k' ≠ k) :
    (d.set k v).get? k' = d.get? k' := Json.getMember_setMember_ne _ _ h

end Dict

namespace Dict

theorem wf_get? {d : Dict} {k : String} {v : Json} (h : d.get? k = some v) : v.wf = true :=
  Json.wf_getMember d.wf h

/-- `d.get(k)`, with what `wf` says of it. -/
def value? (d : Dict) (k : String) : Option Value :=
  match h : d.get? k with
  | some v => some ⟨v, wf_get? h⟩
  | none => none

theorem value?_json (d : Dict) (k : String) : (d.value? k).map Value.json = d.get? k := by
  unfold value?
  split
  · rename_i heq
    simp [heq]
  · rename_i heq
    simp [heq]

end Dict

namespace Value

/-- The value, if `isinstance(value, dict)`. -/
def dict? : Value → Option Dict
  | ⟨.obj ms, h⟩ => some ⟨ms, h⟩
  | _ => none

/-- The elements, if `isinstance(value, list)`. -/
def list? : Value → Option (List Value)
  | ⟨.arr xs, h⟩ => some (xs.pmap Value.mk (Json.wfElems_iff.mp h))
  | _ => none

def null : Value := ⟨.null, rfl⟩

def bool (b : Bool) : Value := ⟨.bool b, rfl⟩

def int (n : Int) : Value := ⟨.int n, rfl⟩

def str (s : String) : Value := ⟨.str s, rfl⟩

def ofDict (d : Dict) : Value := ⟨d.json, d.wf⟩

/-- `None` or a value. -/
def ofOption {α : Type*} (f : α → Value) : Option α → Value
  | none => .null
  | some x => f x

def float (t : FloatText) : Value := ⟨.float t, rfl⟩

def list (vs : List Value) : Value :=
  ⟨.arr (vs.map Value.json), by
    simp only [Json.wf, Json.wfElems_iff, List.mem_map]
    rintro _ ⟨v, -, rfl⟩
    exact v.wf⟩

def strs (ss : List String) : Value :=
  ⟨.arr (ss.map .str), by simp [Json.wf, Json.wfElems_iff]⟩

theorem ext {v v' : Value} (h : v.json = v'.json) : v = v' := by
  cases v
  cases v'
  cases h
  rfl

@[simp] theorem list?_list (vs : List Value) : (list vs).list? = some vs := by
  rw [list, list?, Option.some_inj, List.pmap_map]
  exact List.pmap_eq_self.mpr fun _ _ => rfl

end Value

@[simp] theorem Dict.value?_set_self (d : Dict) (k : String) (v : Value) :
    (d.set k v).value? k = some v := by
  have h := value?_json (d.set k v) k
  rw [get?_set_self, Option.map_eq_some_iff] at h
  obtain ⟨v', hv, hjson⟩ := h
  rw [hv, Value.ext hjson]

/-- What `value?` gives is what `get?` gives. -/
theorem Dict.value?_congr {d d' : Dict} {k k' : String} (h : d.get? k = d'.get? k') :
    d.value? k = d'.value? k' := by
  have hjson := (value?_json d k).trans (h.trans (value?_json d' k').symm)
  exact Option.map_injective (fun _ _ => Value.ext) hjson

theorem Dict.value?_set_ne {k k' : String} (d : Dict) (v : Value) (h : k' ≠ k) :
    (d.set k v).value? k' = d.value? k' := value?_congr (get?_set_ne d v h)

end Plachem
