import PlachemMonitor.Json.RoundTrip

/-!
# What the scanners read

* `loads_wf`: what `loads` returns has no double keys, so `loadsValue` returns a `Value`.
* `scanOnce_mono`: more fuel changes no result.
* `scanObject_append`: the scan of a closed object does not look past its end. So no proper
  beginning of the text of an object is itself a JSON text (`loads_prefix_obj`): a line that was
  cut short never reads as a shorter record.
* `loadsValue_dumps`: a dictionary is read back with its members in key order.
-/

namespace Plachem

namespace Json

/-! ## One step of each scanner -/

theorem scanElems_iff {n : Nat} {cs r : List Char} {xs : List Json} :
    scanElems (n + 1) cs = some (xs, r) ↔ ∃ x r₁, scanOnce n cs = some (x, r₁) ∧
      (xs = [x] ∧ skipWs r₁ = ']' :: r ∨ ∃ xs' r₂, xs = x :: xs' ∧ skipWs r₁ = ',' :: r₂ ∧
        scanElems n (skipWs r₂) = some (xs', r)) := by
  rw [scanElems]
  constructor
  · intro h
    split at h
    · cases h
    rename_i x r₁ hx
    refine ⟨x, r₁, hx, ?_⟩
    split at h
    · rename_i hs
      cases h
      exact .inl ⟨rfl, hs⟩
    · rename_i r₂ hs
      obtain ⟨⟨xs', r'⟩, hxs, heq⟩ := Option.map_eq_some_iff.mp h
      obtain ⟨rfl, rfl⟩ := Prod.mk.inj heq
      exact .inr ⟨xs', r₂, rfl, hs, hxs⟩
    · cases h
  · rintro ⟨x, r₁, hx, ⟨rfl, hs⟩ | ⟨xs', r₂, rfl, hs, hxs⟩⟩
    · simp [hx, hs]
    · simp [hx, hs, hxs]

theorem scanMembers_iff {n : Nat} {cs r : List Char} {ms : List (String × Json)} :
    scanMembers (n + 1) cs = some (ms, r) ↔ ∃ cs' k r₁ r₂ v r₃, cs = '"' :: cs' ∧
      scanString cs' = some (k, r₁) ∧ skipWs r₁ = ':' :: r₂ ∧
      scanOnce n (skipWs r₂) = some (v, r₃) ∧
      (ms = [(String.ofList k, v)] ∧ skipWs r₃ = '}' :: r ∨
        ∃ ms' r₄, ms = (String.ofList k, v) :: ms' ∧ skipWs r₃ = ',' :: r₄ ∧
          scanMembers n (skipWs r₄) = some (ms', r)) := by
  constructor
  · intro h
    unfold scanMembers at h
    split at h
    · rename_i m cs' hm
      obtain rfl : n = m := by omega
      split at h
      · cases h
      rename_i k r₁ hk
      split at h
      swap
      · cases h
      rename_i r₂ hc
      split at h
      · cases h
      rename_i v r₃ hv
      refine ⟨cs', k, r₁, r₂, v, r₃, rfl, hk, hc, hv, ?_⟩
      split at h
      · rename_i hs
        cases h
        exact .inl ⟨rfl, hs⟩
      · rename_i r₄ hs
        obtain ⟨⟨ms', r'⟩, hms, heq⟩ := Option.map_eq_some_iff.mp h
        obtain ⟨rfl, rfl⟩ := Prod.mk.inj heq
        exact .inr ⟨ms', r₄, rfl, hs, hms⟩
      · cases h
    · cases h
  · rintro ⟨cs', k, r₁, r₂, v, r₃, rfl, hk, hc, hv, ⟨rfl, hs⟩ | ⟨ms', r₄, rfl, hs, hms⟩⟩
    · simp [scanMembers, hk, hc, hv, hs]
    · simp [scanMembers, hk, hc, hv, hs, hms]

theorem scanMembers_close (n : Nat) (r : List Char) : scanMembers n ('}' :: r) = none := by
  cases n <;> simp [scanMembers]

theorem scanOnce_close (n : Nat) (r : List Char) : scanOnce n (']' :: r) = none := by
  cases n with
  | zero => rfl
  | succ n =>
    have hw : (']' :: r).takeWhile numberChar = [] := by
      rw [List.takeWhile_cons_of_neg (by decide)]
    simp [scanOnce, scanLit, stripLit, scanNumber, hw, readNumber, isIntText, isNatText,
      isFractional]

theorem scanElems_close (n : Nat) (r : List Char) : scanElems n (']' :: r) = none := by
  cases n with
  | zero => rfl
  | succ n => simp [scanElems, scanOnce_close]

theorem scanOnce_object {n : Nat} {cs r : List Char} {v : Json} :
    scanOnce (n + 1) ('{' :: cs) = some (v, r) ↔ skipWs cs = '}' :: r ∧ v = .obj [] ∨
      ∃ ms, scanMembers n (skipWs cs) = some (ms, r) ∧ v = .obj (dictOf ms) := by
  simp only [scanOnce, Char.reduceEq, ↓reduceIte]
  split
  · rename_i r' hs
    simp only [Option.some.injEq, Prod.mk.injEq, hs, List.cons.injEq, true_and]
    constructor
    · rintro ⟨rfl, rfl⟩
      exact .inl ⟨rfl, rfl⟩
    · rintro (⟨rfl, rfl⟩ | ⟨ms, hms, -⟩)
      · exact ⟨rfl, rfl⟩
      · rw [scanMembers_close] at hms
        cases hms
  · rename_i hne
    rw [Option.map_eq_some_iff]
    constructor
    · rintro ⟨⟨ms, r'⟩, hms, heq⟩
      obtain ⟨rfl, rfl⟩ := Prod.mk.inj heq
      exact .inr ⟨ms, hms, rfl⟩
    · rintro (⟨hs, -⟩ | ⟨ms, hms, rfl⟩)
      · exact absurd hs (hne r)
      · exact ⟨(ms, r), hms, rfl⟩

theorem scanOnce_array {n : Nat} {cs r : List Char} {v : Json} :
    scanOnce (n + 1) ('[' :: cs) = some (v, r) ↔ skipWs cs = ']' :: r ∧ v = .arr [] ∨
      ∃ xs, scanElems n (skipWs cs) = some (xs, r) ∧ v = .arr xs := by
  simp only [scanOnce, Char.reduceEq, ↓reduceIte]
  split
  · rename_i r' hs
    simp only [Option.some.injEq, Prod.mk.injEq, hs, List.cons.injEq, true_and]
    constructor
    · rintro ⟨rfl, rfl⟩
      exact .inl ⟨rfl, rfl⟩
    · rintro (⟨rfl, rfl⟩ | ⟨xs, hxs, -⟩)
      · exact ⟨rfl, rfl⟩
      · rw [scanElems_close] at hxs
        cases hxs
  · rename_i hne
    rw [Option.map_eq_some_iff]
    constructor
    · rintro ⟨⟨xs, r'⟩, hxs, heq⟩
      obtain ⟨rfl, rfl⟩ := Prod.mk.inj heq
      exact .inr ⟨xs, hxs, rfl⟩
    · rintro (⟨hs, -⟩ | ⟨xs, hxs, rfl⟩)
      · exact absurd hs (hne r)
      · exact ⟨(xs, r), hxs, rfl⟩

theorem scanOnce_string {n : Nat} {cs r : List Char} {v : Json} :
    scanOnce (n + 1) ('"' :: cs) = some (v, r) ↔
      ∃ s, scanString cs = some (s, r) ∧ v = .str (String.ofList s) := by
  simp only [scanOnce, ↓reduceIte, Option.map_eq_some_iff, Prod.exists, Prod.mk.injEq]
  constructor
  · rintro ⟨s, r', h, rfl, rfl⟩
    exact ⟨s, h, rfl⟩
  · rintro ⟨s, h, rfl⟩
    exact ⟨s, r, h, rfl, rfl⟩

/-- The text starts a literal or a number, if it starts a value at all. -/
theorem scanOnce_scalar {n : Nat} {c : Char} {cs : List Char} (hq : c ≠ '"') (ho : c ≠ '{')
    (ha : c ≠ '[') : scanOnce (n + 1) (c :: cs) =
      (scanLit (c :: cs) <|> scanNumber (c :: cs)) := by
  simp [scanOnce, hq, ho, ha]

/-! ## Fuel -/

mutual

/-- More fuel changes no result. -/
theorem scanOnce_succ : ∀ (n : Nat) (cs : List Char) (p : Json × List Char),
    scanOnce n cs = some p → scanOnce (n + 1) cs = some p
  | 0, _, _, h => by simp [scanOnce] at h
  | n + 1, [], _, h => by simp [scanOnce] at h
  | n + 1, c :: cs, (v, r), h => by
    by_cases ho : c = '{'
    · subst ho
      rw [scanOnce_object] at h ⊢
      exact h.imp id fun ⟨ms, hms, hv⟩ => ⟨ms, scanMembers_succ n _ _ hms, hv⟩
    by_cases ha : c = '['
    · subst ha
      rw [scanOnce_array] at h ⊢
      exact h.imp id fun ⟨xs, hxs, hv⟩ => ⟨xs, scanElems_succ n _ _ hxs, hv⟩
    by_cases hq : c = '"'
    · subst hq
      rw [scanOnce_string] at h ⊢
      exact h
    · rw [scanOnce_scalar hq ho ha] at h ⊢
      exact h
  termination_by structural n => n

theorem scanElems_succ : ∀ (n : Nat) (cs : List Char) (p : List Json × List Char),
    scanElems n cs = some p → scanElems (n + 1) cs = some p
  | 0, _, _, h => by simp [scanElems] at h
  | n + 1, cs, (xs, r), h => by
    rw [scanElems_iff] at h ⊢
    obtain ⟨x, r₁, hx, h | ⟨xs', r₂, hv, hs, hxs⟩⟩ := h
    · exact ⟨x, r₁, scanOnce_succ n _ _ hx, .inl h⟩
    · exact ⟨x, r₁, scanOnce_succ n _ _ hx, .inr ⟨xs', r₂, hv, hs, scanElems_succ n _ _ hxs⟩⟩
  termination_by structural n => n

theorem scanMembers_succ : ∀ (n : Nat) (cs : List Char) (p : List (String × Json) × List Char),
    scanMembers n cs = some p → scanMembers (n + 1) cs = some p
  | 0, _, _, h => by simp [scanMembers] at h
  | n + 1, cs, (ms, r), h => by
    rw [scanMembers_iff] at h ⊢
    obtain ⟨cs', k, r₁, r₂, v, r₃, hcs, hk, hc, hv, h | ⟨ms', r₄, hm, hs, hms⟩⟩ := h
    · exact ⟨cs', k, r₁, r₂, v, r₃, hcs, hk, hc, scanOnce_succ n _ _ hv, .inl h⟩
    · exact ⟨cs', k, r₁, r₂, v, r₃, hcs, hk, hc, scanOnce_succ n _ _ hv,
        .inr ⟨ms', r₄, hm, hs, scanMembers_succ n _ _ hms⟩⟩
  termination_by structural n => n

end

theorem scanOnce_mono {n m : Nat} (hnm : n ≤ m) {cs : List Char} {p : Json × List Char}
    (h : scanOnce n cs = some p) : scanOnce m cs = some p := by
  induction hnm with
  | refl => exact h
  | step _ ih => exact scanOnce_succ _ _ _ ih

/-! ## Values without double keys -/

theorem wf_dictOf {pairs : List (String × Json)} (h : ∀ m ∈ pairs, wf m.2 = true) :
    wf (.obj (dictOf pairs)) = true := by
  have step : ∀ (pairs acc : List (String × Json)), (∀ m ∈ pairs, wf m.2 = true) →
      wf (.obj acc) = true →
        wf (.obj (pairs.foldl (fun ms m => setMember ms m.1 m.2) acc)) = true := by
    intro pairs
    induction pairs with
    | nil => exact fun _ _ hacc => hacc
    | cons m ms ih =>
      intro acc hms hacc
      exact ih _ (fun m hm => hms m (List.mem_cons_of_mem _ hm))
        (wf_setMember hacc (hms m (List.mem_cons_self ..)))
  exact step pairs [] h rfl

theorem wf_scanLit {cs r : List Char} {v : Json} (h : scanLit cs = some (v, r)) :
    wf v = true := by
  simp only [scanLit, Option.orElse_eq_orElse, Option.orElse_eq_or, Option.or_eq_some_iff,
    Option.map_eq_some_iff, Prod.mk.injEq] at h
  rcases h with ⟨_, _, rfl, _⟩ | ⟨_, ⟨_, _, rfl, _⟩ | ⟨_, ⟨_, _, rfl, _⟩ | ⟨_, ⟨_, _, rfl, _⟩ |
    ⟨_, ⟨_, _, rfl, _⟩ | ⟨_, ⟨_, _, rfl, _⟩⟩⟩⟩⟩⟩ <;> rfl

theorem wf_scanNumber {cs r : List Char} {v : Json} (h : scanNumber cs = some (v, r)) :
    wf v = true := by
  obtain ⟨w, hw, heq⟩ := Option.map_eq_some_iff.mp h
  obtain ⟨rfl, -⟩ := Prod.mk.inj heq
  unfold readNumber at hw
  split at hw
  · cases hw; rfl
  split at hw
  · cases hw; rfl
  · cases hw

mutual

theorem wf_scanOnce : ∀ (n : Nat) (cs r : List Char) (v : Json),
    scanOnce n cs = some (v, r) → wf v = true
  | 0, _, _, _, h => by simp [scanOnce] at h
  | n + 1, [], _, _, h => by simp [scanOnce] at h
  | n + 1, c :: cs, r, v, h => by
    by_cases ho : c = '{'
    · subst ho
      rcases scanOnce_object.mp h with ⟨_, rfl⟩ | ⟨ms, hms, rfl⟩
      · rfl
      · exact wf_dictOf (wf_scanMembers n _ _ _ hms)
    by_cases ha : c = '['
    · subst ha
      rcases scanOnce_array.mp h with ⟨_, rfl⟩ | ⟨xs, hxs, rfl⟩
      · rfl
      · simpa [wf, wfElems_iff] using wf_scanElems n _ _ _ hxs
    by_cases hq : c = '"'
    · subst hq
      obtain ⟨s, -, rfl⟩ := scanOnce_string.mp h
      rfl
    · rw [scanOnce_scalar hq ho ha] at h
      cases hl : scanLit (c :: cs) with
      | some p =>
        rw [hl] at h
        obtain rfl : p = (v, r) := by simpa using h
        exact wf_scanLit hl
      | none =>
        rw [hl] at h
        exact wf_scanNumber (by simpa using h)
  termination_by structural n => n

theorem wf_scanElems : ∀ (n : Nat) (cs r : List Char) (xs : List Json),
    scanElems n cs = some (xs, r) → ∀ x ∈ xs, wf x = true
  | 0, _, _, _, h => by simp [scanElems] at h
  | n + 1, cs, r, xs, h => by
    obtain ⟨x, r₁, hx, ⟨rfl, -⟩ | ⟨xs', r₂, rfl, -, hxs⟩⟩ := scanElems_iff.mp h
    · simpa using wf_scanOnce n _ _ _ hx
    · exact List.forall_mem_cons.mpr ⟨wf_scanOnce n _ _ _ hx, wf_scanElems n _ _ _ hxs⟩
  termination_by structural n => n

theorem wf_scanMembers : ∀ (n : Nat) (cs r : List Char) (ms : List (String × Json)),
    scanMembers n cs = some (ms, r) → ∀ m ∈ ms, wf m.2 = true
  | 0, _, _, _, h => by simp [scanMembers] at h
  | n + 1, cs, r, ms, h => by
    obtain ⟨cs', k, r₁, r₂, v, r₃, -, -, -, hv, ⟨rfl, -⟩ | ⟨ms', r₄, rfl, -, hms⟩⟩ :=
      scanMembers_iff.mp h
    · simpa using wf_scanOnce n _ _ _ hv
    · exact List.forall_mem_cons.mpr ⟨wf_scanOnce n _ _ _ hv, wf_scanMembers n _ _ _ hms⟩
  termination_by structural n => n

end

/-- What `loads` returns has no double keys. -/
theorem loads_wf {s : List Char} {v : Json} (h : loads s = some v) : wf v = true := by
  unfold loads at h
  split at h
  · cases h
  split at h
  · rename_i w r hscan
    split at h
    · cases h
      exact wf_scanOnce _ _ _ _ hscan
    · cases h
  · cases h

/-! ## Beginnings of a text -/

theorem skipWs_append {cs r : List Char} {c : Char} (h : skipWs cs = c :: r) (q : List Char) :
    skipWs (cs ++ q) = c :: (r ++ q) := by
  induction cs with
  | nil => simp [skipWs] at h
  | cons d cs ih =>
    rw [skipWs, List.dropWhile_cons] at h
    rw [skipWs, List.cons_append, List.dropWhile_cons]
    split
    · rename_i hd
      rw [if_pos hd] at h
      exact ih h
    · rename_i hd
      rw [if_neg hd] at h
      obtain ⟨rfl, rfl⟩ := List.cons.inj h
      rfl

theorem skipWs_append_ne {cs : List Char} (h : skipWs cs ≠ []) (q : List Char) :
    skipWs (cs ++ q) = skipWs cs ++ q := by
  obtain ⟨c, r, hc⟩ := List.exists_cons_of_ne_nil h
  rw [skipWs_append hc, hc, List.cons_append]

theorem skipWs_ne {cs r : List Char} {c : Char} (h : skipWs cs = c :: r) : cs ≠ [] := by
  rintro rfl
  simp [skipWs] at h

theorem scanOnce_ne {n : Nat} {cs : List Char} {p : Json × List Char}
    (h : scanOnce n cs = some p) : cs ≠ [] := by
  rintro rfl
  cases n <;> simp [scanOnce] at h

theorem scanElems_ne {n : Nat} {cs : List Char} {p : List Json × List Char}
    (h : scanElems n cs = some p) : cs ≠ [] := by
  cases n with
  | zero => simp [scanElems] at h
  | succ n =>
    obtain ⟨x, r₁, hx, -⟩ := scanElems_iff.mp h
    exact scanOnce_ne hx

theorem scanMembers_ne {n : Nat} {cs : List Char} {p : List (String × Json) × List Char}
    (h : scanMembers n cs = some p) : cs ≠ [] := by
  rintro rfl
  cases n <;> simp [scanMembers] at h

theorem scanString_append {cs s r : List Char} (h : scanString cs = some (s, r))
    (q : List Char) : scanString (cs ++ q) = some (s, r ++ q) := by
  have cont : ∀ {cs s r : List Char} {c : Char},
      ((scanString cs).map fun p => (c :: p.1, p.2)) = some (s, r) →
        ∃ s', scanString cs = some (s', r) ∧ s = c :: s' := by
    intro cs s r c h
    obtain ⟨⟨s', r'⟩, hs, heq⟩ := Option.map_eq_some_iff.mp h
    obtain ⟨rfl, rfl⟩ := Prod.mk.inj heq
    exact ⟨s', hs, rfl⟩
  fun_induction scanString cs generalizing s r with
  | case2 cs =>
    obtain ⟨rfl, rfl⟩ := Prod.mk.inj (Option.some.inj h)
    exact scanString_quote _
  | case6 a b c d u hu hu' a' b' c' d' cs l hl hl' _ ih =>
    obtain ⟨s', hs, rfl⟩ := cont h
    simp only [List.cons_append, scanString_pair hu hl hu' hl', ih hs, Option.map_some]
  | case10 a b c d cs u hu hh hl _ ih =>
    obtain ⟨s', hs, rfl⟩ := cont h
    simp only [List.cons_append, scanString_unit hu hh hl, ih hs, Option.map_some]
  | case13 e cs _ x hx _ ih =>
    obtain ⟨s', hs, rfl⟩ := cont h
    simp only [List.cons_append, scanString_unescape hx, ih hs, Option.map_some]
  | case15 c cs hq hb hctl ih =>
    obtain ⟨s', hs, rfl⟩ := cont h
    simp only [List.cons_append, scanString_plain hq hb hctl, ih hs, Option.map_some]
  | _ => cases h

theorem stripLit_eq_some {lit cs r : List Char} :
    stripLit lit cs = some r ↔ cs = lit ++ r := by
  induction lit generalizing cs with
  | nil => simp [stripLit, eq_comm]
  | cons l lit ih =>
    cases cs with
    | nil => simp [stripLit]
    | cons c cs =>
      simp only [stripLit, List.cons_append, List.cons.injEq]
      split
      · rename_i h
        rw [ih]
        exact ⟨fun h' => ⟨h.symm, h'⟩, And.right⟩
      · rename_i h
        simp [Ne.symm h]

theorem scanLit_append {cs r : List Char} {v : Json} (h : scanLit cs = some (v, r))
    (q : List Char) : scanLit (cs ++ q) = some (v, r ++ q) := by
  simp only [scanLit, Option.orElse_eq_orElse, Option.orElse_eq_or, Option.or_eq_some_iff,
    Option.map_eq_some_iff, Prod.mk.injEq, stripLit_eq_some] at h
  rcases h with ⟨_, rfl, rfl, rfl⟩ | ⟨_, ⟨_, rfl, rfl, rfl⟩ | ⟨_, ⟨_, rfl, rfl, rfl⟩ |
    ⟨_, ⟨_, rfl, rfl, rfl⟩ | ⟨_, ⟨_, rfl, rfl, rfl⟩ | ⟨_, ⟨_, rfl, rfl, rfl⟩⟩⟩⟩⟩⟩ <;>
    simp [scanLit, stripLit]

theorem numberHead_of_readNumber {t : List Char} {v : Json} (h : readNumber t = some v) :
    numberHead t = true := by
  unfold readNumber at h
  split at h
  · exact numberHead_of_isIntText ‹_›
  split at h
  · exact numberHead_of_isFractional ‹_›
  · cases h

/-- A number is read alike in front of a text that does not continue it. -/
theorem scanNumber_append {cs r q : List Char} {v : Json} (h : scanNumber cs = some (v, r))
    (hq : r ≠ [] ∨ NumEnd q) :
    numberHead cs = true ∧ scanNumber (cs ++ q) = some (v, r ++ q) := by
  obtain ⟨w, hw, heq⟩ := Option.map_eq_some_iff.mp h
  obtain ⟨rfl, hr⟩ := Prod.mk.inj heq
  have hcs := List.takeWhile_append_dropWhile (p := numberChar) (l := cs)
  have ht : ∀ c ∈ cs.takeWhile numberChar, numberChar c = true :=
    fun c hc => List.mem_takeWhile_imp hc
  have hend : NumEnd (r ++ q) := by
    cases hd : r with
    | nil => exact hq.resolve_left (· hd)
    | cons d r' =>
      refine numEnd_cons ?_
      have := List.head?_dropWhile_not numberChar cs
      rw [hr, hd] at this
      simpa using this
  rw [hr] at hcs
  have hsplit := takeWhile_numEnd ht hend
  rw [← List.append_assoc, hcs] at hsplit
  refine ⟨?_, ?_⟩
  · rw [← hcs]
    exact numberHead_append (numberHead_of_readNumber hw) r
  · simp [scanNumber, hsplit, hw]

theorem scanObject_step {n : Nat} {q : List Char}
    (ih : ∀ cs r ms, scanMembers n cs = some (ms, r) →
      scanMembers n (cs ++ q) = some (ms, r ++ q)) {cs r : List Char} {v : Json}
    (h : scanOnce (n + 1) ('{' :: cs) = some (v, r)) :
    scanOnce (n + 1) ('{' :: cs ++ q) = some (v, r ++ q) := by
  rw [List.cons_append, scanOnce_object]
  rcases scanOnce_object.mp h with ⟨hs, rfl⟩ | ⟨ms, hms, rfl⟩
  · exact .inl ⟨skipWs_append hs q, rfl⟩
  · refine .inr ⟨ms, ?_, rfl⟩
    rw [skipWs_append_ne (scanMembers_ne hms)]
    exact ih _ _ _ hms

mutual

/-- A value that does not end where the text does is read alike before any more text. -/
theorem scanOnce_append (q : List Char) : ∀ (n : Nat) (cs r : List Char) (v : Json),
    scanOnce n cs = some (v, r) → r ≠ [] ∨ NumEnd q →
      scanOnce n (cs ++ q) = some (v, r ++ q)
  | 0, _, _, _, h, _ => by simp [scanOnce] at h
  | n + 1, [], _, _, h, _ => by simp [scanOnce] at h
  | n + 1, c :: cs, r, v, h, hq => by
    by_cases ho : c = '{'
    · subst ho
      exact scanObject_step (scanMembers_append q n) h
    by_cases ha : c = '['
    · subst ha
      rw [List.cons_append, scanOnce_array]
      rcases scanOnce_array.mp h with ⟨hs, rfl⟩ | ⟨xs, hxs, rfl⟩
      · exact .inl ⟨skipWs_append hs q, rfl⟩
      · refine .inr ⟨xs, ?_, rfl⟩
        rw [skipWs_append_ne (scanElems_ne hxs)]
        exact scanElems_append q n _ _ _ hxs
    by_cases hs : c = '"'
    · subst hs
      rw [List.cons_append, scanOnce_string]
      obtain ⟨s, hs, rfl⟩ := scanOnce_string.mp h
      exact ⟨s, scanString_append hs q, rfl⟩
    · rw [scanOnce_scalar hs ho ha] at h
      rw [List.cons_append, scanOnce_scalar hs ho ha, ← List.cons_append]
      cases hl : scanLit (c :: cs) with
      | some p =>
        obtain rfl : p = (v, r) := by simpa [hl] using h
        rw [scanLit_append hl q]
        rfl
      | none =>
        obtain ⟨hhead, hnum⟩ := scanNumber_append (by simpa [hl] using h) hq
        rw [scanLit_number (numberHead_append hhead q), hnum]
        rfl
  termination_by structural n => n

theorem scanElems_append (q : List Char) : ∀ (n : Nat) (cs r : List Char) (xs : List Json),
    scanElems n cs = some (xs, r) → scanElems n (cs ++ q) = some (xs, r ++ q)
  | 0, _, _, _, h => by simp [scanElems] at h
  | n + 1, cs, r, xs, h => by
    rw [scanElems_iff]
    obtain ⟨x, r₁, hx, ⟨rfl, hs⟩ | ⟨xs', r₂, rfl, hs, hxs⟩⟩ := scanElems_iff.mp h
    · exact ⟨x, _, scanOnce_append q n _ _ _ hx (.inl (skipWs_ne hs)),
        .inl ⟨rfl, skipWs_append hs q⟩⟩
    · refine ⟨x, _, scanOnce_append q n _ _ _ hx (.inl (skipWs_ne hs)),
        .inr ⟨xs', _, rfl, skipWs_append hs q, ?_⟩⟩
      rw [skipWs_append_ne (scanElems_ne hxs)]
      exact scanElems_append q n _ _ _ hxs
  termination_by structural n => n

theorem scanMembers_append (q : List Char) :
    ∀ (n : Nat) (cs r : List Char) (ms : List (String × Json)),
      scanMembers n cs = some (ms, r) → scanMembers n (cs ++ q) = some (ms, r ++ q)
  | 0, _, _, _, h => by simp [scanMembers] at h
  | n + 1, cs, r, ms, h => by
    rw [scanMembers_iff]
    obtain ⟨cs', k, r₁, r₂, v, r₃, rfl, hk, hc, hv, hrest⟩ := scanMembers_iff.mp h
    have hv' : scanOnce n (skipWs (r₂ ++ q)) = some (v, r₃ ++ q) := by
      rw [skipWs_append_ne (scanOnce_ne hv)]
      refine scanOnce_append q n _ _ _ hv (.inl ?_)
      rcases hrest with ⟨-, hs⟩ | ⟨_, _, -, hs, -⟩ <;> exact skipWs_ne hs
    refine ⟨cs' ++ q, k, r₁ ++ q, r₂ ++ q, v, r₃ ++ q, rfl, scanString_append hk q,
      skipWs_append hc q, hv', ?_⟩
    rcases hrest with ⟨rfl, hs⟩ | ⟨ms', r₄, rfl, hs, hms⟩
    · exact .inl ⟨rfl, skipWs_append hs q⟩
    · refine .inr ⟨ms', r₄ ++ q, rfl, skipWs_append hs q, ?_⟩
      rw [skipWs_append_ne (scanMembers_ne hms)]
      exact scanMembers_append q n _ _ _ hms
  termination_by structural n => n

end

/-- A closed object is read alike before any more text. -/
theorem scanObject_append (q : List Char) {n : Nat} {cs r : List Char} {v : Json}
    (h : scanOnce n ('{' :: cs) = some (v, r)) :
    scanOnce n ('{' :: cs ++ q) = some (v, r ++ q) := by
  cases n with
  | zero => simp [scanOnce] at h
  | succ n => exact scanObject_step (scanMembers_append q n) h

theorem head_dumps_obj (ascii : Bool) (ms : List (String × Json)) :
    ∃ t, dumps ascii (.obj ms) = '{' :: t := ⟨_, rfl⟩

theorem getLast?_dumps_obj (ascii : Bool) (ms : List (String × Json)) :
    (dumps ascii (.obj ms)).getLast? = some '}' := by
  simp only [dumps, sortKeys, encode]
  rw [List.getLast?_concat]

/-- No proper beginning of an object's text is a JSON text. -/
theorem loads_prefix_obj {ascii : Bool} {ms : List (String × Json)}
    (hwf : wf (.obj ms) = true) {p q : List Char} (h : dumps ascii (.obj ms) = p ++ q)
    (hp : p ≠ []) (hq : q ≠ []) : loads p = none := by
  obtain ⟨c, p', rfl⟩ := List.exists_cons_of_ne_nil hp
  obtain ⟨t, ht⟩ := head_dumps_obj ascii ms
  obtain rfl : '{' = c := by
    rw [h] at ht
    exact (List.cons.inj ht).1.symm
  have hfull := scanOnce_encode ascii (Json.obj ms).sortKeys
    (max (Json.obj ms).sortKeys.size (2 * ('{' :: p').length + 2)) []
    (by rw [wf_sortKeys, hwf]) (Nat.le_max_left ..) numEnd_nil
  rw [List.append_nil] at hfull
  rw [dumps] at h
  rw [h] at hfull
  rw [loads, if_neg (by simp), skipWs_cons (by decide)]
  cases hscan : scanOnce (2 * ('{' :: p').length + 2) ('{' :: p') with
  | none => rfl
  | some vr =>
    -- the scan of the beginning would also be the scan of the whole text
    obtain ⟨v, r⟩ := vr
    have := scanOnce_mono (Nat.le_max_right (Json.obj ms).sortKeys.size _)
      (scanObject_append q hscan)
    rw [hfull] at this
    obtain ⟨-, hr⟩ := Prod.mk.inj (Option.some.inj this)
    exact absurd (List.append_eq_nil_iff.mp hr.symm).2 hq

/-! ## What is left of a text -/

theorem scanString_suffix {cs s r : List Char} (h : scanString cs = some (s, r)) : r <:+ cs := by
  have cont : ∀ {cs s r : List Char} {c : Char},
      ((scanString cs).map fun p => (c :: p.1, p.2)) = some (s, r) →
        ∃ s', scanString cs = some (s', r) := by
    intro cs s r c h
    obtain ⟨⟨s', r'⟩, hs, heq⟩ := Option.map_eq_some_iff.mp h
    obtain ⟨-, rfl⟩ := Prod.mk.inj heq
    exact ⟨s', hs⟩
  fun_induction scanString cs generalizing s r with
  | case2 cs =>
    obtain ⟨rfl, rfl⟩ := Prod.mk.inj (Option.some.inj h)
    exact List.suffix_cons _ _
  | case6 a b c d u hu hu' a' b' c' d' cs l hl hl' _ ih =>
    obtain ⟨s', hs⟩ := cont h
    exact (ih hs).trans ⟨['\\', 'u', a, b, c, d, '\\', 'u', a', b', c', d'], rfl⟩
  | case10 a b c d cs u hu hh hl _ ih =>
    obtain ⟨s', hs⟩ := cont h
    exact (ih hs).trans ⟨['\\', 'u', a, b, c, d], rfl⟩
  | case13 e cs _ x hx _ ih =>
    obtain ⟨s', hs⟩ := cont h
    exact (ih hs).trans ⟨['\\', e], rfl⟩
  | case15 c cs hq hb hctl ih =>
    obtain ⟨s', hs⟩ := cont h
    exact (ih hs).trans (List.suffix_cons _ _)
  | _ => cases h

theorem scanLit_suffix {cs r : List Char} {v : Json} (h : scanLit cs = some (v, r)) : r <:+ cs := by
  simp only [scanLit, Option.orElse_eq_orElse, Option.orElse_eq_or, Option.or_eq_some_iff,
    Option.map_eq_some_iff, Prod.mk.injEq, stripLit_eq_some] at h
  rcases h with ⟨_, rfl, rfl, rfl⟩ | ⟨_, ⟨_, rfl, rfl, rfl⟩ | ⟨_, ⟨_, rfl, rfl, rfl⟩ |
    ⟨_, ⟨_, rfl, rfl, rfl⟩ | ⟨_, ⟨_, rfl, rfl, rfl⟩ | ⟨_, ⟨_, rfl, rfl, rfl⟩⟩⟩⟩⟩⟩ <;>
    exact List.suffix_append _ _

theorem scanNumber_suffix {cs r : List Char} {v : Json} (h : scanNumber cs = some (v, r)) :
    r <:+ cs := by
  obtain ⟨w, -, heq⟩ := Option.map_eq_some_iff.mp h
  obtain ⟨-, rfl⟩ := Prod.mk.inj heq
  exact List.dropWhile_suffix _

/-- What follows the spaces of a text that ends like another one. -/
theorem suffix_of_skipWs {cs r r' : List Char} (hr : r <:+ cs) (h : skipWs r = r') : r' <:+ cs :=
  (h ▸ List.dropWhile_suffix _ : r' <:+ r).trans hr

theorem scanObject_suffix {n : Nat} {cs r : List Char} {v : Json}
    (hmem : ∀ ms, scanMembers n (skipWs cs) = some (ms, r) → '}' :: r <:+ skipWs cs)
    (h : scanOnce (n + 1) ('{' :: cs) = some (v, r)) : '}' :: r <:+ cs := by
  rcases scanOnce_object.mp h with ⟨hs, -⟩ | ⟨ms, hms, -⟩
  · exact suffix_of_skipWs (List.suffix_refl _) hs
  · exact (hmem ms hms).trans (List.dropWhile_suffix _)

mutual

/-- A scanner leaves an end of the text. -/
theorem scanOnce_suffix : ∀ (n : Nat) (cs r : List Char) (v : Json),
    scanOnce n cs = some (v, r) → r <:+ cs
  | 0, _, _, _, h => by simp [scanOnce] at h
  | n + 1, [], _, _, h => by simp [scanOnce] at h
  | n + 1, c :: cs, r, v, h => by
    by_cases ho : c = '{'
    · subst ho
      have hend : '}' :: r <:+ cs := scanObject_suffix (scanMembers_suffix n _ _) h
      exact ((List.suffix_cons '}' r).trans hend).trans (List.suffix_cons '{' cs)
    by_cases ha : c = '['
    · subst ha
      rcases scanOnce_array.mp h with ⟨hs, -⟩ | ⟨xs, hxs, -⟩
      · exact ((List.suffix_cons _ _).trans (suffix_of_skipWs (List.suffix_refl _) hs)).trans
          (List.suffix_cons _ _)
      · exact ((scanElems_suffix n _ _ _ hxs).trans (List.dropWhile_suffix _)).trans
          (List.suffix_cons _ _)
    by_cases hq : c = '"'
    · subst hq
      obtain ⟨s, hs, -⟩ := scanOnce_string.mp h
      exact (scanString_suffix hs).trans (List.suffix_cons _ _)
    rw [scanOnce_scalar hq ho ha, Option.orElse_eq_orElse, Option.orElse_eq_or,
      Option.or_eq_some_iff] at h
    rcases h with h | ⟨-, h⟩
    · exact scanLit_suffix h
    · exact scanNumber_suffix h
  termination_by structural n => n

theorem scanElems_suffix : ∀ (n : Nat) (cs r : List Char) (xs : List Json),
    scanElems n cs = some (xs, r) → r <:+ cs
  | 0, _, _, _, h => by simp [scanElems] at h
  | n + 1, cs, r, xs, h => by
    obtain ⟨x, r₁, hx, ⟨-, hs⟩ | ⟨xs', r₂, -, hs, hxs⟩⟩ := scanElems_iff.mp h
    · exact (List.suffix_cons _ _).trans (suffix_of_skipWs (scanOnce_suffix n _ _ _ hx) hs)
    · have hr₂ := suffix_of_skipWs (scanOnce_suffix n _ _ _ hx) hs
      exact ((scanElems_suffix n _ _ _ hxs).trans (List.dropWhile_suffix _)).trans
        ((List.suffix_cons _ _).trans hr₂)
  termination_by structural n => n

/-- The members of an object end with its bracket. -/
theorem scanMembers_suffix : ∀ (n : Nat) (cs r : List Char) (ms : List (String × Json)),
    scanMembers n cs = some (ms, r) → '}' :: r <:+ cs
  | 0, _, _, _, h => by simp [scanMembers] at h
  | n + 1, cs, r, ms, h => by
    obtain ⟨cs', k, r₁, r₂, v, r₃, rfl, hk, hc, hv, hend⟩ := scanMembers_iff.mp h
    have hr₂ : ':' :: r₂ <:+ '"' :: cs' :=
      suffix_of_skipWs ((scanString_suffix hk).trans (List.suffix_cons _ _)) hc
    have hr₃ : r₃ <:+ '"' :: cs' :=
      ((scanOnce_suffix n _ _ _ hv).trans (List.dropWhile_suffix _)).trans
        ((List.suffix_cons _ _).trans hr₂)
    rcases hend with ⟨-, hs⟩ | ⟨ms', r₄, -, hs, hms⟩
    · exact suffix_of_skipWs hr₃ hs
    · exact ((scanMembers_suffix n _ _ _ hms).trans (List.dropWhile_suffix _)).trans
        ((List.suffix_cons _ _).trans (suffix_of_skipWs hr₃ hs))
  termination_by structural n => n

end

theorem scanLit_ne_obj {cs r : List Char} {ms : List (String × Json)} :
    scanLit cs ≠ some (.obj ms, r) := by
  intro h
  simp only [scanLit, Option.orElse_eq_orElse, Option.orElse_eq_or, Option.or_eq_some_iff,
    Option.map_eq_some_iff, Prod.mk.injEq, reduceCtorEq, false_and, and_false, exists_false,
    or_false] at h

theorem scanNumber_ne_obj {cs r : List Char} {ms : List (String × Json)} :
    scanNumber cs ≠ some (.obj ms, r) := by
  intro h
  obtain ⟨w, hw, heq⟩ := Option.map_eq_some_iff.mp h
  obtain ⟨rfl, -⟩ := Prod.mk.inj heq
  unfold readNumber at hw
  split at hw
  · cases hw
  · split at hw <;> cases hw

/-- A text that is read as an object starts with its bracket. -/
theorem scanOnce_obj_head {n : Nat} {cs r : List Char} {ms : List (String × Json)}
    (h : scanOnce (n + 1) cs = some (.obj ms, r)) : ∃ cs', cs = '{' :: cs' := by
  cases cs with
  | nil => simp [scanOnce] at h
  | cons c cs =>
    by_cases ho : c = '{'
    · exact ⟨cs, ho ▸ rfl⟩
    by_cases ha : c = '['
    · subst ha
      rcases scanOnce_array.mp h with ⟨-, hv⟩ | ⟨_, -, hv⟩ <;> cases hv
    by_cases hq : c = '"'
    · subst hq
      obtain ⟨_, -, hv⟩ := scanOnce_string.mp h
      cases hv
    rw [scanOnce_scalar hq ho ha, Option.orElse_eq_orElse, Option.orElse_eq_or,
      Option.or_eq_some_iff] at h
    rcases h with h | ⟨-, h⟩
    · exact absurd h scanLit_ne_obj
    · exact absurd h scanNumber_ne_obj

/-- A text that is an object ends with its bracket, up to spaces. -/
theorem loads_obj_last {s : List Char} {ms : List (String × Json)} (h : loads s = some (.obj ms))
    {c : Char} (hc : s.getLast? = some c) : c = '}' ∨ isSpace c = true := by
  unfold loads at h
  split at h
  · cases h
  split at h
  · rename_i v r hscan
    split at h
    · rename_i hr
      obtain rfl := Option.some.inj h
      obtain ⟨cs, hcs⟩ := scanOnce_obj_head hscan
      rw [hcs] at hscan
      have hopen : '{' :: cs <:+ s := suffix_of_skipWs (List.suffix_refl s) hcs
      have hsuffix : '}' :: r <:+ s :=
        ((scanObject_suffix (scanMembers_suffix _ _ _) hscan).trans (List.suffix_cons _ _)).trans hopen
      obtain ⟨p, rfl⟩ := hsuffix
      cases hlast : r.getLast? with
      | none =>
        rw [List.getLast?_eq_none_iff] at hlast
        simp [hlast] at hc
        exact .inl hc.symm
      | some c' =>
        have hc' : c = c' := by simpa [hlast, List.getLast?_append, List.getLast?_cons] using hc.symm
        -- what follows the bracket is space
        exact .inr (List.dropWhile_eq_nil_iff.mp hr c (hc' ▸ List.mem_of_getLast? hlast))
    · cases h
  · cases h

end Json

/-! ## Dictionaries -/

/-- `json.loads`, with what `loads_wf` says of its result. -/
def loadsValue (s : List Char) : Option Value :=
  match h : Json.loads s with
  | some v => some ⟨v, Json.loads_wf h⟩
  | none => none

theorem loadsValue_eq_none {s : List Char} (h : Json.loads s = none) : loadsValue s = none := by
  unfold loadsValue
  split
  · rename_i heq
    rw [h] at heq
    cases heq
  · rfl

theorem loadsValue_eq_some {s : List Char} {v : Json} (h : Json.loads s = some v) :
    ∃ hv, loadsValue s = some ⟨v, hv⟩ := by
  unfold loadsValue
  split
  · rename_i heq
    obtain rfl := Option.some.inj (h.symm.trans heq)
    exact ⟨Json.loads_wf h, rfl⟩
  · rename_i heq
    rw [h] at heq
    cases heq

namespace Dict

/-- The dictionary with its members in key order, at any depth. -/
def sorted (d : Dict) : Dict :=
  ⟨(Json.sortKeysMembers d.members).insertionSort Json.keyLE, by
    have := Json.wf_sortKeys d.json
    rwa [show d.json.wf = true from d.wf] at this⟩

/-- `==` of dictionaries: the order of the members does not matter. -/
def Eqv (a b : Dict) : Prop := Json.Eqv a.json b.json

instance (a b : Dict) : Decidable (Eqv a b) := inferInstanceAs (Decidable (Json.Eqv ..))

def dumps (ascii : Bool) (d : Dict) : List Char := d.json.dumps ascii

theorem json_sorted (d : Dict) : d.sorted.json = d.json.sortKeys := by
  simp [sorted, json, Json.sortKeys]

theorem Eqv.refl (d : Dict) : Eqv d d := rfl

theorem Eqv.symm {a b : Dict} (h : Eqv a b) : Eqv b a := Eq.symm h

theorem Eqv.trans {a b c : Dict} (h : Eqv a b) (h' : Eqv b c) : Eqv a c := Eq.trans h h'

@[simp] theorem get?_sorted (d : Dict) (k : String) :
    d.sorted.get? k = (d.get? k).map Json.sortKeys := by
  have h := d.wf
  simp only [Json.wf, Bool.and_eq_true, decide_eq_true_eq] at h
  exact Json.getMember_sortKeys h.1 k

theorem eqv_sorted (d : Dict) : Eqv d.sorted d := by
  rw [Eqv, json_sorted]
  exact Json.eqv_sortKeys _

theorem head_dumps (ascii : Bool) (d : Dict) : ∃ t, d.dumps ascii = '{' :: t :=
  Json.head_dumps_obj ascii d.members

theorem getLast?_dumps (ascii : Bool) (d : Dict) : (d.dumps ascii).getLast? = some '}' :=
  Json.getLast?_dumps_obj ascii d.members

end Dict

/-- A dictionary is read back with its members in key order. -/
theorem loadsValue_dumps (ascii : Bool) (d : Dict) :
    (loadsValue (d.dumps ascii)).bind Value.dict? = some d.sorted := by
  obtain ⟨hv, h⟩ := loadsValue_eq_some (Json.loads_dumps ascii (v := d.json) d.wf)
  rw [Dict.dumps, h, Option.bind_some]
  simp only [← Dict.json_sorted] at hv ⊢
  rfl

/-- No proper beginning of a dictionary's text is read at all. -/
theorem loadsValue_prefix {ascii : Bool} {d : Dict} {p q : List Char}
    (h : d.dumps ascii = p ++ q) (hp : p ≠ []) (hq : q ≠ []) : loadsValue p = none :=
  loadsValue_eq_none (Json.loads_prefix_obj d.wf h hp hq)

end Plachem
