import PlachemMonitor.Json.Scan
import PlachemMonitor.Text.Lines

/-!
# The end of a JSON text

* `scanOnce_enough`: fuel that is twice what is read is enough.
* `scanString_local`, `scanLit_local`, `scanNumber_local`: a token is read alike before any other text
  (a number before any text that does not continue it).
* `Squeezed x x'`: `x'` is `x` without the whitespace between the closing brackets at its end.
  `loads_squeezed`: it is the text of the same value.
-/

namespace Plachem

namespace Json

/-! ## Enough fuel -/

theorem length_skipWs (cs : List Char) : (skipWs cs).length ≤ cs.length :=
  (List.dropWhile_sublist _).length_le

theorem length_of_skipWs {cs r : List Char} {c : Char} (h : skipWs cs = c :: r) :
    r.length < cs.length := by
  have hlength := length_skipWs cs
  rw [h, List.length_cons] at hlength
  exact hlength

mutual

/-- Fuel for twice the characters that are read. -/
theorem scanOnce_enough : ∀ (n : Nat) (cs r : List Char) (v : Json),
    scanOnce n cs = some (v, r) → ∀ m, 2 * cs.length < m + 2 * r.length →
      scanOnce m cs = some (v, r)
  | 0, _, _, _, h, _, _ => by simp [scanOnce] at h
  | n + 1, cs, r, v, h, 0, hm => by
    have hlength := (scanOnce_suffix _ _ _ _ h).length_le
    omega
  | n + 1, [], _, _, h, m + 1, _ => by simp [scanOnce] at h
  | n + 1, c :: cs, r, v, h, m + 1, hm => by
    have hskip := length_skipWs cs
    rw [List.length_cons] at hm
    by_cases ho : c = '{'
    · subst ho
      rw [scanOnce_object] at h ⊢
      refine h.imp id fun ⟨ms, hms, hv⟩ => ⟨ms, ?_, hv⟩
      exact scanMembers_enough n _ _ _ hms m (by omega)
    by_cases ha : c = '['
    · subst ha
      rw [scanOnce_array] at h ⊢
      refine h.imp id fun ⟨xs, hxs, hv⟩ => ⟨xs, ?_, hv⟩
      exact scanElems_enough n _ _ _ hxs m (by omega)
    by_cases hq : c = '"'
    · subst hq
      rw [scanOnce_string] at h ⊢
      exact h
    · rw [scanOnce_scalar hq ho ha] at h ⊢
      exact h
  termination_by structural n => n

theorem scanElems_enough : ∀ (n : Nat) (cs r : List Char) (xs : List Json),
    scanElems n cs = some (xs, r) → ∀ m, 2 * cs.length < m + 2 * r.length →
      scanElems m cs = some (xs, r)
  | 0, _, _, _, h, _, _ => by simp [scanElems] at h
  | n + 1, cs, r, xs, h, 0, hm => by
    have hlength := (scanElems_suffix _ _ _ _ h).length_le
    omega
  | n + 1, cs, r, xs, h, m + 1, hm => by
    rw [scanElems_iff] at h ⊢
    obtain ⟨x, r₁, hx, hend⟩ := h
    have hread := (scanOnce_suffix n _ _ _ hx).length_le
    rcases hend with ⟨hxs, hs⟩ | ⟨xs', r₂, hv, hs, hxs⟩
    · have hclose := length_of_skipWs hs
      exact ⟨x, r₁, scanOnce_enough n _ _ _ hx m (by omega), .inl ⟨hxs, hs⟩⟩
    · have hcomma := length_of_skipWs hs
      have hskip := length_skipWs r₂
      have hrest := (scanElems_suffix n _ _ _ hxs).length_le
      exact ⟨x, r₁, scanOnce_enough n _ _ _ hx m (by omega),
        .inr ⟨xs', r₂, hv, hs, scanElems_enough n _ _ _ hxs m (by omega)⟩⟩
  termination_by structural n => n

theorem scanMembers_enough : ∀ (n : Nat) (cs r : List Char) (ms : List (String × Json)),
    scanMembers n cs = some (ms, r) → ∀ m, 2 * cs.length < m + 2 * r.length →
      scanMembers m cs = some (ms, r)
  | 0, _, _, _, h, _, _ => by simp [scanMembers] at h
  | n + 1, cs, r, ms, h, 0, hm => by
    have hlength := (scanMembers_suffix _ _ _ _ h).length_le
    rw [List.length_cons] at hlength
    omega
  | n + 1, cs, r, ms, h, m + 1, hm => by
    rw [scanMembers_iff] at h ⊢
    obtain ⟨cs', k, r₁, r₂, v, r₃, rfl, hk, hc, hv, hend⟩ := h
    have hkey := (scanString_suffix hk).length_le
    have hcolon := length_of_skipWs hc
    have hspace := length_skipWs r₂
    have hread := (scanOnce_suffix n _ _ _ hv).length_le
    rw [List.length_cons] at hm
    rcases hend with ⟨hms, hs⟩ | ⟨ms', r₄, hms, hs, hmore⟩
    · have hclose := length_of_skipWs hs
      exact ⟨cs', k, r₁, r₂, v, r₃, rfl, hk, hc, scanOnce_enough n _ _ _ hv m (by omega),
        .inl ⟨hms, hs⟩⟩
    · have hcomma := length_of_skipWs hs
      have hskip := length_skipWs r₄
      have hrest := (scanMembers_suffix n _ _ _ hmore).length_le
      rw [List.length_cons] at hrest
      exact ⟨cs', k, r₁, r₂, v, r₃, rfl, hk, hc, scanOnce_enough n _ _ _ hv m (by omega),
        .inr ⟨ms', r₄, hms, hs, scanMembers_enough n _ _ _ hmore m (by omega)⟩⟩
  termination_by structural n => n

end

/-- What is read with any fuel is read by `loads`. -/
theorem loads_of_scan {n : Nat} {s r : List Char} {v : Json} (hbom : s.head? ≠ some '\ufeff')
    (h : scanOnce n (skipWs s) = some (v, r)) (hr : skipWs r = []) : loads s = some v := by
  have hlength := length_skipWs s
  have henough := scanOnce_enough n _ _ _ h (2 * s.length + 2) (by omega)
  unfold loads
  rw [if_neg hbom, henough]
  dsimp only
  rw [if_pos hr]

/-- How `loads` has read a value. -/
theorem scan_of_loads {s : List Char} {v : Json} (h : loads s = some v) :
    s.head? ≠ some '\ufeff' ∧
      ∃ r, scanOnce (2 * s.length + 2) (skipWs s) = some (v, r) ∧ skipWs r = [] := by
  unfold loads at h
  split at h
  · cases h
  rename_i hbom
  split at h
  · rename_i w r hscan
    split at h
    · rename_i hr
      obtain rfl := Option.some.inj h
      exact ⟨hbom, r, hscan, hr⟩
    · cases h
  · cases h

/-! ## Tokens -/

theorem scanString_local {cs s r : List Char} (h : scanString cs = some (s, r)) :
    ∃ u, cs = u ++ '"' :: r ∧ ∀ r', scanString (u ++ '"' :: r') = some (s, r') := by
  have cont : ∀ {cs s r : List Char} {c : Char},
      ((scanString cs).map fun p => (c :: p.1, p.2)) = some (s, r) →
        ∃ s', scanString cs = some (s', r) ∧ s = c :: s' := by
    intro cs s r c h
    obtain ⟨⟨s', r'⟩, hs, heq⟩ := Option.map_eq_some_iff.mp h
    obtain ⟨rfl, rfl⟩ := Prod.mk.inj heq
    exact ⟨s', hs, rfl⟩
  fun_induction scanString cs generalizing s r with
  | case2 cs =>
    obtain ⟨rfl, rfl⟩ := Prod.mk.inj (Option.some.inj h)
    exact ⟨[], rfl, scanString_quote⟩
  | case6 a b c d u hu hu' a' b' c' d' cs l hl hl' _ ih =>
    obtain ⟨s', hs, rfl⟩ := cont h
    obtain ⟨w, rfl, hw⟩ := ih hs
    refine ⟨'\\' :: 'u' :: a :: b :: c :: d :: '\\' :: 'u' :: a' :: b' :: c' :: d' :: w, rfl, fun r' => ?_⟩
    simp only [List.cons_append, scanString_pair hu hl hu' hl', hw r', Option.map_some]
  | case10 a b c d cs u hu hh hl _ ih =>
    obtain ⟨s', hs, rfl⟩ := cont h
    obtain ⟨w, rfl, hw⟩ := ih hs
    refine ⟨'\\' :: 'u' :: a :: b :: c :: d :: w, rfl, fun r' => ?_⟩
    simp only [List.cons_append, scanString_unit hu hh hl, hw r', Option.map_some]
  | case13 e cs _ x hx _ ih =>
    obtain ⟨s', hs, rfl⟩ := cont h
    obtain ⟨w, rfl, hw⟩ := ih hs
    refine ⟨'\\' :: e :: w, rfl, fun r' => ?_⟩
    simp only [List.cons_append, scanString_unescape hx, hw r', Option.map_some]
  | case15 c cs hq hb hctl ih =>
    obtain ⟨s', hs, rfl⟩ := cont h
    obtain ⟨w, rfl, hw⟩ := ih hs
    refine ⟨c :: w, rfl, fun r' => ?_⟩
    simp only [List.cons_append, scanString_plain hq hb hctl, hw r', Option.map_some]
  | _ => cases h

/-- The texts of the literals. -/
def literals : List (List Char) :=
  ["null".toList, "true".toList, "false".toList, "NaN".toList, "Infinity".toList, "-Infinity".toList]

theorem scanLit_local {cs r : List Char} {v : Json} (h : scanLit cs = some (v, r)) :
    ∃ lit ∈ literals, cs = lit ++ r ∧ ∀ r', scanLit (lit ++ r') = some (v, r') := by
  simp only [scanLit, Option.orElse_eq_orElse, Option.orElse_eq_or, Option.or_eq_some_iff,
    Option.map_eq_some_iff, Prod.mk.injEq, stripLit_eq_some] at h
  rcases h with ⟨_, rfl, rfl, rfl⟩ | ⟨_, ⟨_, rfl, rfl, rfl⟩ | ⟨_, ⟨_, rfl, rfl, rfl⟩ |
    ⟨_, ⟨_, rfl, rfl, rfl⟩ | ⟨_, ⟨_, rfl, rfl, rfl⟩ | ⟨_, ⟨_, rfl, rfl, rfl⟩⟩⟩⟩⟩⟩ <;>
    exact ⟨_, by simp [literals], rfl, fun r' => by simp [scanLit, stripLit]⟩

theorem scanNumber_local {cs r : List Char} {v : Json} (h : scanNumber cs = some (v, r)) :
    ∃ t, cs = t ++ r ∧ (∀ c ∈ t, numberChar c = true) ∧ numberHead t = true ∧ NumEnd r ∧
      ∀ r', NumEnd r' → scanNumber (t ++ r') = some (v, r') := by
  obtain ⟨w, hw, heq⟩ := Option.map_eq_some_iff.mp h
  obtain ⟨rfl, hr⟩ := Prod.mk.inj heq
  have hcs := List.takeWhile_append_dropWhile (p := numberChar) (l := cs)
  have ht : ∀ c ∈ cs.takeWhile numberChar, numberChar c = true :=
    fun c hc => List.mem_takeWhile_imp hc
  rw [hr] at hcs
  refine ⟨cs.takeWhile numberChar, hcs.symm, ht, numberHead_of_readNumber hw, fun c hc => ?_,
    fun r' hr' => ?_⟩
  · have hhead := List.head?_dropWhile_not numberChar cs
    rw [hr, hc] at hhead
    simpa using hhead
  · obtain ⟨htake, hdrop⟩ := takeWhile_numEnd ht hr'
    simp [scanNumber, htake, hdrop, hw]

/-! ## Whitespace between the closing brackets at the end -/

def isCloser (c : Char) : Bool := c == '}' || c == ']'

/-- A text of closing brackets and whitespace. -/
def IsTail (q : List Char) : Prop := ∀ c ∈ q, isCloser c = true ∨ Text.isWhitespace c = true

/-- `x'` is `x` without the whitespace of a tail. -/
def Squeezed (x x' : List Char) : Prop :=
  ∃ p q, x = p ++ q ∧ x' = p ++ q.filter isCloser ∧ IsTail q

theorem isWhitespace_of_isSpace {c : Char} (h : isSpace c = true) : Text.isWhitespace c = true := by
  simp only [isSpace, Bool.or_eq_true, beq_iff_eq] at h
  obtain ((rfl | rfl) | rfl) | rfl := h <;> decide

theorem not_whitespace_of_closer {c : Char} (h : isCloser c = true) : Text.isWhitespace c = false := by
  simp only [isCloser, Bool.or_eq_true, beq_iff_eq] at h
  obtain rfl | rfl := h <;> decide

/-- A number does not go on with whitespace, nor with a closing bracket. -/
theorem not_numberChar_of_tail {c : Char} (h : isCloser c = true ∨ Text.isWhitespace c = true) :
    numberChar c = false := by
  by_contra hnumber
  rw [Bool.not_eq_false] at hnumber
  unfold numberChar at hnumber
  simp only [Bool.or_eq_true, beq_iff_eq] at hnumber
  have hdigit : c.isDigit = true → isCloser c = false ∧ Text.isWhitespace c = false := by
    intro hdigit
    unfold Char.isDigit at hdigit
    simp only [Bool.and_eq_true, decide_eq_true_eq, ge_iff_le, UInt32.le_iff_toNat_le] at hdigit
    have hall : ∀ n < 58, 48 ≤ n → isCloser (Char.ofNat n) = false ∧
        Text.isWhitespace (Char.ofNat n) = false := by decide
    have h0 : ('0' : Char).val.toNat = 48 := rfl
    have h9 : ('9' : Char).val.toNat = 57 := rfl
    have hc := hall c.toNat (show c.val.toNat < 58 by omega) (show 48 ≤ c.val.toNat by omega)
    rwa [Char.ofNat_toNat] at hc
  rcases hnumber with ((((hd | rfl) | rfl) | rfl) | rfl) | rfl
  · rw [(hdigit hd).1, (hdigit hd).2] at h
    simp at h
  all_goals revert h; decide

/-- No value starts with whitespace. -/
theorem scanOnce_whitespace {n : Nat} {c : Char} (h : Text.isWhitespace c = true) (cs : List Char) :
    scanOnce n (c :: cs) = none := by
  have hne : ∀ d, Text.isWhitespace d = false → d ≠ c := by
    rintro d hd rfl
    rw [hd] at h
    cases h
  have hnumber : (c :: cs).takeWhile numberChar = [] := by
    rw [List.takeWhile_cons_of_neg (by rw [not_numberChar_of_tail (.inr h)]; decide)]
  cases n with
  | zero => rfl
  | succ n =>
    rw [scanOnce_scalar (hne _ (by decide)).symm (hne _ (by decide)).symm (hne _ (by decide)).symm]
    simp [scanLit, stripLit, hne 'n' (by decide), hne 't' (by decide), hne 'f' (by decide),
      hne 'N' (by decide), hne 'I' (by decide), hne '-' (by decide), scanNumber, hnumber,
      readNumber, isIntText, isNatText, isFractional]

namespace Squeezed

variable {x x' r : List Char} {c : Char}

theorem eq_nil (h : Squeezed [] x') : x' = [] := by
  obtain ⟨p, q, hx, rfl, -⟩ := h
  obtain ⟨rfl, rfl⟩ := List.append_eq_nil_iff.mp hx.symm
  rfl

/-- What is no whitespace stays. -/
theorem cons_inv (h : Squeezed (c :: x) x') (hc : Text.isWhitespace c = false) :
    ∃ y, x' = c :: y ∧ Squeezed x y := by
  obtain ⟨p, q, hx, rfl, hq⟩ := h
  cases p with
  | cons d p =>
    obtain ⟨rfl, rfl⟩ := List.cons.inj hx
    exact ⟨_, rfl, p, q, rfl, rfl, hq⟩
  | nil =>
    obtain rfl : c :: x = q := hx
    have hcloser : isCloser c = true := (hq c List.mem_cons_self).resolve_right (by simp [hc])
    refine ⟨x.filter isCloser, ?_, [], x, rfl, rfl, fun d hd => hq d (List.mem_cons_of_mem _ hd)⟩
    rw [List.nil_append, List.filter_cons_of_pos hcloser]

/-- What comes before a character that is of no tail stays. -/
theorem append_inv {u : List Char} (h : Squeezed (u ++ c :: r) x')
    (hc : isCloser c = false ∧ Text.isWhitespace c = false) :
    ∃ r', x' = u ++ c :: r' ∧ Squeezed r r' := by
  obtain ⟨p, q, hx, rfl, hq⟩ := h
  have hcq : c ∉ q := fun hmem => by
    have hmem := hq c hmem
    simp [hc.1, hc.2] at hmem
  rcases List.append_eq_append_iff.mp hx with ⟨a, rfl, ha⟩ | ⟨b, rfl, rfl⟩
  · cases a with
    | nil =>
      rw [List.nil_append] at ha
      exact absurd (ha ▸ List.mem_cons_self) hcq
    | cons d a =>
      obtain ⟨rfl, rfl⟩ := List.cons.inj ha
      exact ⟨_, by simp, a, q, rfl, rfl, hq⟩
  · exact absurd (List.mem_append_right b List.mem_cons_self) hcq

theorem skipWs_inv (h : Squeezed x x') (hx : skipWs x = c :: r) (hc : Text.isWhitespace c = false) :
    ∃ r', skipWs x' = c :: r' ∧ Squeezed r r' := by
  induction x generalizing x' with
  | nil => cases hx
  | cons d x ih =>
    by_cases hd : isSpace d = true
    · rw [skipWs, List.dropWhile_cons_of_pos hd] at hx
      obtain ⟨p, q, heq, rfl, hq⟩ := h
      cases p with
      | cons e p =>
        obtain ⟨rfl, rfl⟩ := List.cons.inj heq
        rw [List.cons_append, skipWs, List.dropWhile_cons_of_pos hd]
        exact ih ⟨p, q, rfl, rfl, hq⟩ hx
      | nil =>
        obtain rfl : d :: x = q := heq
        have hnot : isCloser d = false := by
          by_contra hcloser
          rw [Bool.not_eq_false] at hcloser
          have hwhite := isWhitespace_of_isSpace hd
          rw [not_whitespace_of_closer hcloser] at hwhite
          cases hwhite
        rw [List.nil_append, List.filter_cons_of_neg (by simp [hnot])]
        exact ih ⟨[], x, rfl, rfl, fun e he => hq e (List.mem_cons_of_mem _ he)⟩ hx
    · rw [Bool.not_eq_true] at hd
      rw [skipWs_cons hd] at hx
      obtain ⟨rfl, rfl⟩ := List.cons.inj hx
      obtain ⟨y, rfl, hy⟩ := h.cons_inv hc
      exact ⟨y, skipWs_cons hd, hy⟩

theorem skipWs_nil (h : Squeezed x x') (hx : skipWs x = []) : skipWs x' = [] := by
  obtain ⟨p, q, rfl, rfl, -⟩ := h
  have hall := List.dropWhile_eq_nil_iff.mp hx
  refine List.dropWhile_eq_nil_iff.mpr fun c hc => hall c ?_
  rw [List.mem_append] at hc ⊢
  exact hc.imp id fun h => (List.mem_filter.mp h).1

theorem head (h : Squeezed x x') (hc : x'.head? = some c) : x.head? = some c ∨ isCloser c = true := by
  obtain ⟨p, q, rfl, rfl, -⟩ := h
  cases p with
  | cons d p => exact .inl hc
  | nil => exact .inr (List.mem_filter.mp (List.mem_of_mem_head? hc)).2

theorem numEnd (h : Squeezed x x') (hx : NumEnd x) : NumEnd x' := by
  obtain ⟨p, q, rfl, rfl, hq⟩ := h
  cases p with
  | cons c p => exact hx
  | nil =>
    intro c hc
    have hmem : c ∈ q.filter isCloser := List.mem_of_mem_head? hc
    exact not_numberChar_of_tail (hq c (List.mem_filter.mp hmem).1)

end Squeezed

theorem scanString_squeezed {x x' s r : List Char} (h : scanString x = some (s, r))
    (hx : Squeezed x x') : ∃ r', scanString x' = some (s, r') ∧ Squeezed r r' := by
  obtain ⟨u, rfl, hread⟩ := scanString_local h
  obtain ⟨r', rfl, hr⟩ := hx.append_inv (by decide)
  exact ⟨r', hread r', hr⟩

theorem scanLit_squeezed {x x' r : List Char} {v : Json} (h : scanLit x = some (v, r))
    (hx : Squeezed x x') : ∃ r', scanLit x' = some (v, r') ∧ Squeezed r r' := by
  obtain ⟨lit, hlit, rfl, hread⟩ := scanLit_local h
  have hlast : ∃ u c, lit = u ++ [c] ∧ isCloser c = false ∧ Text.isWhitespace c = false := by
    simp only [literals, List.mem_cons, List.not_mem_nil, or_false] at hlit
    obtain rfl | rfl | rfl | rfl | rfl | rfl := hlit
    · exact ⟨"nul".toList, 'l', by decide⟩
    · exact ⟨"tru".toList, 'e', by decide⟩
    · exact ⟨"fals".toList, 'e', by decide⟩
    · exact ⟨"Na".toList, 'N', by decide⟩
    · exact ⟨"Infinit".toList, 'y', by decide⟩
    · exact ⟨"-Infinit".toList, 'y', by decide⟩
  obtain ⟨u, c, rfl, hc⟩ := hlast
  simp only [List.append_assoc, List.singleton_append] at hx hread
  obtain ⟨r', rfl, hr⟩ := hx.append_inv hc
  exact ⟨r', hread r', hr⟩

theorem scanNumber_squeezed {x x' r : List Char} {v : Json} (h : scanNumber x = some (v, r))
    (hx : Squeezed x x') :
    ∃ r', numberHead x' = true ∧ scanNumber x' = some (v, r') ∧ Squeezed r r' := by
  obtain ⟨t, rfl, ht, hhead, hend, hread⟩ := scanNumber_local h
  have hlast : ∃ u c, t = u ++ [c] := by
    rcases t.eq_nil_or_concat with rfl | ⟨u, c, rfl⟩
    · cases hhead
    · exact ⟨u, c, List.concat_eq_append⟩
  obtain ⟨u, c, rfl⟩ := hlast
  have hc : isCloser c = false ∧ Text.isWhitespace c = false := by
    have hnumber := ht c (List.mem_append_right u List.mem_cons_self)
    by_contra hnot
    have htail : isCloser c = true ∨ Text.isWhitespace c = true := by
      rw [not_and_or, Bool.not_eq_false, Bool.not_eq_false] at hnot
      exact hnot
    rw [not_numberChar_of_tail htail] at hnumber
    cases hnumber
  simp only [List.append_assoc, List.singleton_append] at hx hread
  obtain ⟨r', rfl, hr⟩ := hx.append_inv hc
  refine ⟨r', ?_, hread r' (hr.numEnd hend), hr⟩
  have hlonger := numberHead_append hhead r'
  rwa [List.append_assoc, List.singleton_append] at hlonger

theorem scanOnce_start {n : Nat} {cs : List Char} {p : Json × List Char}
    (h : scanOnce n cs = some p) : ∃ c r, cs = c :: r ∧ Text.isWhitespace c = false := by
  obtain ⟨c, r, rfl⟩ := List.exists_cons_of_ne_nil (scanOnce_ne h)
  refine ⟨c, r, rfl, ?_⟩
  by_contra hwhite
  rw [Bool.not_eq_false] at hwhite
  rw [scanOnce_whitespace hwhite] at h
  cases h

theorem scanElems_start {n : Nat} {cs : List Char} {p : List Json × List Char}
    (h : scanElems n cs = some p) : ∃ c r, cs = c :: r ∧ Text.isWhitespace c = false := by
  cases n with
  | zero => simp [scanElems] at h
  | succ n =>
    obtain ⟨x, r, hx, -⟩ := scanElems_iff.mp h
    exact scanOnce_start hx

theorem scanMembers_start {n : Nat} {cs : List Char} {p : List (String × Json) × List Char}
    (h : scanMembers n cs = some p) : ∃ c r, cs = c :: r ∧ Text.isWhitespace c = false := by
  cases n with
  | zero => simp [scanMembers] at h
  | succ n =>
    obtain ⟨cs', k, r₁, r₂, v, r₃, rfl, -⟩ := scanMembers_iff.mp h
    exact ⟨'"', cs', rfl, by decide⟩

/-- In front of a value the spaces may be skipped. -/
theorem Squeezed.skip {x x' : List Char} (h : Squeezed x x')
    (hstart : ∃ c r, skipWs x = c :: r ∧ Text.isWhitespace c = false) :
    Squeezed (skipWs x) (skipWs x') := by
  obtain ⟨c, r, hx, hc⟩ := hstart
  obtain ⟨r', hx', p, q, rfl, rfl, hq⟩ := h.skipWs_inv hx hc
  rw [hx, hx']
  exact ⟨c :: p, q, rfl, rfl, hq⟩

mutual

/-- A squeezed text is read alike, and what is left of it is squeezed. -/
theorem scanOnce_squeezed : ∀ (n : Nat) (x r : List Char) (v : Json),
    scanOnce n x = some (v, r) → ∀ x', Squeezed x x' →
      ∃ r', scanOnce n x' = some (v, r') ∧ Squeezed r r'
  | 0, _, _, _, h, _, _ => by simp [scanOnce] at h
  | n + 1, [], _, _, h, _, _ => by simp [scanOnce] at h
  | n + 1, c :: cs, r, v, h, x', hx => by
    by_cases ho : c = '{'
    · subst ho
      obtain ⟨y, rfl, hy⟩ := hx.cons_inv (by decide)
      rcases scanOnce_object.mp h with ⟨hs, rfl⟩ | ⟨ms, hms, rfl⟩
      · obtain ⟨r', hr', hr⟩ := hy.skipWs_inv hs (by decide)
        exact ⟨r', scanOnce_object.mpr (.inl ⟨hr', rfl⟩), hr⟩
      · obtain ⟨r', hr', hr⟩ := scanMembers_squeezed n _ _ _ hms _ (hy.skip (scanMembers_start hms))
        exact ⟨r', scanOnce_object.mpr (.inr ⟨ms, hr', rfl⟩), hr⟩
    by_cases ha : c = '['
    · subst ha
      obtain ⟨y, rfl, hy⟩ := hx.cons_inv (by decide)
      rcases scanOnce_array.mp h with ⟨hs, rfl⟩ | ⟨xs, hxs, rfl⟩
      · obtain ⟨r', hr', hr⟩ := hy.skipWs_inv hs (by decide)
        exact ⟨r', scanOnce_array.mpr (.inl ⟨hr', rfl⟩), hr⟩
      · obtain ⟨r', hr', hr⟩ := scanElems_squeezed n _ _ _ hxs _ (hy.skip (scanElems_start hxs))
        exact ⟨r', scanOnce_array.mpr (.inr ⟨xs, hr', rfl⟩), hr⟩
    by_cases hs : c = '"'
    · subst hs
      obtain ⟨y, rfl, hy⟩ := hx.cons_inv (by decide)
      obtain ⟨s, hs, rfl⟩ := scanOnce_string.mp h
      obtain ⟨r', hr', hr⟩ := scanString_squeezed hs hy
      exact ⟨r', scanOnce_string.mpr ⟨s, hr', rfl⟩, hr⟩
    obtain ⟨d, t, heq, hd⟩ := scanOnce_start h
    obtain ⟨rfl, rfl⟩ := List.cons.inj heq
    obtain ⟨y, rfl, hy⟩ := hx.cons_inv hd
    rw [scanOnce_scalar hs ho ha, Option.orElse_eq_orElse, Option.orElse_eq_or,
      Option.or_eq_some_iff] at h
    rw [scanOnce_scalar hs ho ha]
    rcases h with h | ⟨-, h⟩
    · obtain ⟨r', hr', hr⟩ := scanLit_squeezed h hx
      rw [hr']
      exact ⟨r', rfl, hr⟩
    · obtain ⟨r', hhead, hr', hr⟩ := scanNumber_squeezed h hx
      rw [scanLit_number hhead, hr']
      exact ⟨r', rfl, hr⟩
  termination_by structural n => n

theorem scanElems_squeezed : ∀ (n : Nat) (x r : List Char) (xs : List Json),
    scanElems n x = some (xs, r) → ∀ x', Squeezed x x' →
      ∃ r', scanElems n x' = some (xs, r') ∧ Squeezed r r'
  | 0, _, _, _, h, _, _ => by simp [scanElems] at h
  | n + 1, x, r, xs, h, x', hx => by
    obtain ⟨v, r₁, hv, hend⟩ := scanElems_iff.mp h
    obtain ⟨y₁, hy₁, hr₁⟩ := scanOnce_squeezed n _ _ _ hv _ hx
    rcases hend with ⟨rfl, hs⟩ | ⟨xs', r₂, rfl, hs, hxs⟩
    · obtain ⟨r', hr', hr⟩ := hr₁.skipWs_inv hs (by decide)
      exact ⟨r', scanElems_iff.mpr ⟨v, y₁, hy₁, .inl ⟨rfl, hr'⟩⟩, hr⟩
    · obtain ⟨y₂, hy₂, hr₂⟩ := hr₁.skipWs_inv hs (by decide)
      obtain ⟨r', hr', hr⟩ := scanElems_squeezed n _ _ _ hxs _ (hr₂.skip (scanElems_start hxs))
      exact ⟨r', scanElems_iff.mpr ⟨v, y₁, hy₁, .inr ⟨xs', y₂, rfl, hy₂, hr'⟩⟩, hr⟩
  termination_by structural n => n

theorem scanMembers_squeezed : ∀ (n : Nat) (x r : List Char) (ms : List (String × Json)),
    scanMembers n x = some (ms, r) → ∀ x', Squeezed x x' →
      ∃ r', scanMembers n x' = some (ms, r') ∧ Squeezed r r'
  | 0, _, _, _, h, _, _ => by simp [scanMembers] at h
  | n + 1, x, r, ms, h, x', hx => by
    obtain ⟨cs, k, r₁, r₂, v, r₃, rfl, hk, hc, hv, hend⟩ := scanMembers_iff.mp h
    obtain ⟨y, rfl, hy⟩ := hx.cons_inv (by decide)
    obtain ⟨y₁, hy₁, hr₁⟩ := scanString_squeezed hk hy
    obtain ⟨y₂, hy₂, hr₂⟩ := hr₁.skipWs_inv hc (by decide)
    obtain ⟨y₃, hy₃, hr₃⟩ := scanOnce_squeezed n _ _ _ hv _ (hr₂.skip (scanOnce_start hv))
    rcases hend with ⟨rfl, hs⟩ | ⟨ms', r₄, rfl, hs, hms⟩
    · obtain ⟨r', hr', hr⟩ := hr₃.skipWs_inv hs (by decide)
      exact ⟨r', scanMembers_iff.mpr ⟨y, k, y₁, y₂, v, y₃, rfl, hy₁, hy₂, hy₃, .inl ⟨rfl, hr'⟩⟩, hr⟩
    · obtain ⟨y₄, hy₄, hr₄⟩ := hr₃.skipWs_inv hs (by decide)
      obtain ⟨r', hr', hr⟩ := scanMembers_squeezed n _ _ _ hms _ (hr₄.skip (scanMembers_start hms))
      exact ⟨r', scanMembers_iff.mpr
        ⟨y, k, y₁, y₂, v, y₃, rfl, hy₁, hy₂, hy₃, .inr ⟨ms', y₄, rfl, hy₄, hr'⟩⟩, hr⟩
  termination_by structural n => n

end

/-- A text and the squeezed one are texts of the same value. -/
theorem loads_squeezed {x x' : List Char} {v : Json} (h : loads x = some v) (hx : Squeezed x x') :
    loads x' = some v := by
  obtain ⟨hbom, r, hscan, hr⟩ := scan_of_loads h
  obtain ⟨r', hscan', hrest⟩ :=
    scanOnce_squeezed _ _ _ _ hscan _ (hx.skip (scanOnce_start hscan))
  refine loads_of_scan (fun hhead => ?_) hscan' (hrest.skipWs_nil hr)
  rcases hx.head hhead with hsame | hcloser
  · exact hbom hsame
  · exact absurd hcloser (by decide)

end Json

theorem loadsValue_iff {s : List Char} {v : Value} :
    loadsValue s = some v ↔ Json.loads s = some v.json := by
  constructor
  · intro h
    cases hloads : Json.loads s with
    | none =>
      rw [loadsValue_eq_none hloads] at h
      cases h
    | some w =>
      obtain ⟨hw, hvalue⟩ := loadsValue_eq_some hloads
      obtain rfl := Option.some.inj (hvalue.symm.trans h)
      rfl
  · intro h
    obtain ⟨hv, hvalue⟩ := loadsValue_eq_some h
    exact hvalue

end Plachem
