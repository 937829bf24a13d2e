import PlachemMonitor.Json.Scan

/-!
# Indented texts

`json.dumps(v, ensure_ascii=False, indent=2)`, of a value whose members are in order. What stands
before an integer member determines the integer (`intText_append_inj`), and the whole text determines
the value (`indented_inj`): the scanner reads it back.
-/

namespace Plachem

namespace Json

/-- A new line at a depth. -/
def line (depth : Nat) : List Char := '\n' :: List.replicate (2 * depth) ' '

mutual

def indented : Nat → Json → List Char
  | depth, .arr xs =>
    if xs.isEmpty then ['[', ']']
    else '[' :: (line (depth + 1) ++ indentedElems (depth + 1) xs ++ line depth ++ [']'])
  | depth, .obj ms =>
    if ms.isEmpty then ['{', '}']
    else '{' :: (line (depth + 1) ++ indentedMembers (depth + 1) ms ++ line depth ++ ['}'])
  | _, v => encode false v
  termination_by structural _ v => v

def indentedElems : Nat → List Json → List Char
  | _, [] => []
  | depth, [x] => indented depth x
  | depth, x :: xs => indented depth x ++ ',' :: (line depth ++ indentedElems depth xs)
  termination_by structural _ xs => xs

def indentedMembers : Nat → List (String × Json) → List Char
  | _, [] => []
  | depth, [(k, v)] => encodeString false k ++ ':' :: ' ' :: indented depth v
  | depth, (k, v) :: ms =>
    encodeString false k ++ ':' :: ' ' :: (indented depth v ++
      ',' :: (line depth ++ indentedMembers depth ms))
  termination_by structural _ ms => ms

end

example : indented 0 (.obj [("a", .arr [.int 1]), ("b", .arr [])]) =
    "\x7b\n  \"a\": [\n    1\n  ],\n  \"b\": []\n\x7d".toList := by decide +kernel

/-- A number ends where no character of a number follows. -/
theorem intText_append_inj {n m : Int} {r s : List Char} (hr : NumEnd r) (hs : NumEnd s)
    (h : intText n ++ r = intText m ++ s) : n = m := by
  have hn := scanNumber_intText n hr
  rw [h, scanNumber_intText m hs] at hn
  injection hn with hn
  injection hn with hn _
  injection hn with hn
  exact hn.symm

/-- An integer member is the same in two texts whose members before it are. -/
theorem indentedMembers_int_inj {depth : Nat} {k : String} {n m : Int} {a b : String × Json}
    {as bs : List (String × Json)} {r s : List Char} (before : List (String × Json))
    (h : indentedMembers depth (before ++ (k, .int n) :: a :: as) ++ r =
      indentedMembers depth (before ++ (k, .int m) :: b :: bs) ++ s) : n = m := by
  induction before with
  | nil =>
    simp only [List.nil_append, indentedMembers, indented, encode, List.append_assoc,
      List.cons_append, List.append_cancel_left_eq, List.cons.injEq, true_and] at h
    have hcomma : ∀ cs, NumEnd (',' :: cs) := fun cs => numEnd_cons rfl
    exact intText_append_inj (hcomma _) (hcomma _) h
  | cons x before ih =>
    refine ih ?_
    obtain ⟨y, ys, hy⟩ : ∃ y ys, before ++ (k, .int n) :: a :: as = y :: ys := by
      cases before <;> exact ⟨_, _, rfl⟩
    obtain ⟨z, zs, hz⟩ : ∃ z zs, before ++ (k, .int m) :: b :: bs = z :: zs := by
      cases before <;> exact ⟨_, _, rfl⟩
    rw [List.cons_append, List.cons_append, hy, hz] at h
    rw [hy, hz]
    simp only [indentedMembers, List.append_assoc, List.cons_append,
      List.append_cancel_left_eq, List.cons.injEq, true_and] at h
    exact h

/-! ## Reading back -/

theorem skipWs_line (depth : Nat) (cs : List Char) : skipWs (line depth ++ cs) = skipWs cs := by
  refine List.dropWhile_append_of_pos fun c hc => ?_
  rcases List.mem_cons.mp hc with rfl | hc
  · rfl
  · rw [List.eq_of_mem_replicate hc]
    rfl

theorem numEnd_line (depth : Nat) (cs : List Char) : NumEnd (line depth ++ cs) := numEnd_cons rfl

theorem valueStart_indented (depth : Nat) (v : Json) : ValueStart (indented depth v) := by
  cases v with
  | arr xs => cases xs <;> exact ⟨'[', _, rfl, by decide⟩
  | obj ms => cases ms <;> exact ⟨'{', _, rfl, by decide⟩
  | _ => exact valueStart_encode false _

theorem indentedElems_cons (depth : Nat) (x : Json) (xs : List Json) : ∃ rest,
    indentedElems depth (x :: xs) = indented depth x ++ rest := by
  cases xs with
  | nil => exact ⟨[], (List.append_nil _).symm⟩
  | cons y ys => exact ⟨_, rfl⟩

theorem indentedMembers_head (depth : Nat) (m : String × Json) (ms : List (String × Json)) :
    ∃ rest, indentedMembers depth (m :: ms) = '"' :: rest := by
  cases ms <;> exact ⟨_, rfl⟩

theorem scanElems_mono {n m : Nat} (hnm : n ≤ m) {cs : List Char} {p : List Json × List Char}
    (h : scanElems n cs = some p) : scanElems m cs = some p := by
  induction hnm with
  | refl => exact h
  | step _ ih => exact scanElems_succ _ _ _ ih

theorem scanMembers_mono {n m : Nat} (hnm : n ≤ m) {cs : List Char} {p : List (String × Json) × List Char}
    (h : scanMembers n cs = some p) : scanMembers m cs = some p := by
  induction hnm with
  | refl => exact h
  | step _ ih => exact scanMembers_succ _ _ _ ih

/-- One member, and what follows it. -/
theorem scanMembers_member {n depth : Nat} {k : String} {v : Json} {rest r : List Char}
    {ms : List (String × Json)} (hv : scanOnce n (indented depth v ++ rest) = some (v, rest))
    (hms : ms = [(k, v)] ∧ skipWs rest = '}' :: r ∨ ∃ ms' r', ms = (k, v) :: ms' ∧
      skipWs rest = ',' :: r' ∧ scanMembers n (skipWs r') = some (ms', r)) :
    scanMembers (n + 1) (encodeString false k ++ ':' :: ' ' :: (indented depth v ++ rest)) =
      some (ms, r) := by
  have hspace : skipWs (' ' :: (indented depth v ++ rest)) = indented depth v ++ rest :=
    ((valueStart_indented depth v).append rest).skipWs
  refine scanMembers_iff.mpr ⟨_, k.toList, _, _, v, rest, ?_, scanString_escaped false k.toList _,
    skipWs_cons (by decide), hspace.symm ▸ hv, ?_⟩
  · simp only [encodeString, List.cons_append, List.append_assoc, List.nil_append]
  · rw [String.ofList_toList]
    exact hms

mutual

/-- The scanner reads an indented value, given fuel enough. -/
theorem scanOnce_indented : ∀ (v : Json) (depth : Nat) (r : List Char), wf v = true → NumEnd r →
    ∃ n, scanOnce n (indented depth v ++ r) = some (v, r)
  | .arr [], depth, r, _, _ => ⟨1, by simp [indented, scanOnce, skipWs, isSpace]⟩
  | .arr (x :: xs), depth, r, hwf, _ => by
    obtain ⟨n, hn⟩ := scanElems_indented (x :: xs) (depth + 1) depth r (List.cons_ne_nil _ _)
      (by simpa [wf] using hwf)
    refine ⟨n + 1, ?_⟩
    have hstart : ValueStart (indentedElems (depth + 1) (x :: xs) ++ (line depth ++ ']' :: r)) := by
      obtain ⟨rest, hrest⟩ := indentedElems_cons (depth + 1) x xs
      rw [hrest, List.append_assoc]
      exact (valueStart_indented _ _).append _
    simp only [indented, List.isEmpty_cons, Bool.false_eq_true, if_false, List.cons_append,
      List.append_assoc, List.nil_append]
    refine scanOnce_array.mpr (.inr ⟨x :: xs, ?_, rfl⟩)
    rw [skipWs_line, hstart.skipWs]
    exact hn
  | .obj [], depth, r, _, _ => ⟨1, by simp [indented, scanOnce, skipWs, isSpace]⟩
  | .obj (m :: ms), depth, r, hwf, _ => by
    rw [wf, Bool.and_eq_true, decide_eq_true_eq] at hwf
    obtain ⟨hkeys, hmembers⟩ := hwf
    obtain ⟨n, hn⟩ := scanMembers_indented (m :: ms) (depth + 1) depth r (List.cons_ne_nil _ _) hmembers
    refine ⟨n + 1, ?_⟩
    simp only [indented, List.isEmpty_cons, Bool.false_eq_true, if_false, List.cons_append,
      List.append_assoc, List.nil_append]
    refine scanOnce_object.mpr (.inr ⟨m :: ms, ?_, by rw [dictOf_of_nodup hkeys]⟩)
    obtain ⟨rest, hrest⟩ := indentedMembers_head (depth + 1) m ms
    rw [skipWs_line, hrest, List.cons_append, skipWs_cons (by decide), ← List.cons_append, ← hrest]
    exact hn
  | .null, depth, r, hwf, hr => ⟨_, scanOnce_encode false .null 1 r hwf (le_refl _) hr⟩
  | .bool b, depth, r, hwf, hr => ⟨_, scanOnce_encode false (.bool b) 1 r hwf (le_refl _) hr⟩
  | .int i, depth, r, hwf, hr => ⟨_, scanOnce_encode false (.int i) 1 r hwf (le_refl _) hr⟩
  | .float t, depth, r, hwf, hr => ⟨_, scanOnce_encode false (.float t) 1 r hwf (le_refl _) hr⟩
  | .str s, depth, r, hwf, hr => ⟨_, scanOnce_encode false (.str s) 1 r hwf (le_refl _) hr⟩
  termination_by structural v => v

theorem scanElems_indented : ∀ (xs : List Json) (depth close : Nat) (r : List Char),
    xs ≠ [] → wfElems xs = true →
      ∃ n, scanElems n (indentedElems depth xs ++ (line close ++ ']' :: r)) = some (xs, r)
  | [], _, _, _, h, _ => absurd rfl h
  | [x], depth, close, r, _, hwf => by
    obtain ⟨n, hn⟩ := scanOnce_indented x depth (line close ++ ']' :: r) (by simpa [wfElems] using hwf)
      (numEnd_line _ _)
    refine ⟨n + 1, scanElems_iff.mpr ⟨x, _, hn, .inl ⟨rfl, ?_⟩⟩⟩
    rw [skipWs_line, skipWs_cons (by decide)]
  | x :: y :: ys, depth, close, r, _, hwf => by
    rw [wfElems, Bool.and_eq_true] at hwf
    obtain ⟨n, hn⟩ := scanOnce_indented x depth
      (',' :: (line depth ++ (indentedElems depth (y :: ys) ++ (line close ++ ']' :: r)))) hwf.1 (numEnd_cons rfl)
    obtain ⟨m, hm⟩ := scanElems_indented (y :: ys) depth close r (List.cons_ne_nil _ _) hwf.2
    have hstart : ValueStart (indentedElems depth (y :: ys) ++ (line close ++ ']' :: r)) := by
      obtain ⟨rest, hrest⟩ := indentedElems_cons depth y ys
      rw [hrest, List.append_assoc]
      exact (valueStart_indented _ _).append _
    have htext : indentedElems depth (x :: y :: ys) ++ (line close ++ ']' :: r) = indented depth x ++
        ',' :: (line depth ++ (indentedElems depth (y :: ys) ++ (line close ++ ']' :: r))) := by
      simp only [indentedElems, List.append_assoc, List.cons_append]
    rw [htext]
    refine ⟨max n m + 1, scanElems_iff.mpr ⟨x, _, scanOnce_mono (Nat.le_max_left n m) hn,
      .inr ⟨y :: ys, _, rfl, skipWs_cons (by decide), ?_⟩⟩⟩
    rw [skipWs_line, hstart.skipWs]
    exact scanElems_mono (Nat.le_max_right n m) hm
  termination_by structural xs => xs

theorem scanMembers_indented : ∀ (ms : List (String × Json)) (depth close : Nat) (r : List Char),
    ms ≠ [] → wfMembers ms = true →
      ∃ n, scanMembers n (indentedMembers depth ms ++ (line close ++ '}' :: r)) = some (ms, r)
  | [], _, _, _, h, _ => absurd rfl h
  | [(k, v)], depth, close, r, _, hwf => by
    obtain ⟨n, hn⟩ := scanOnce_indented v depth (line close ++ '}' :: r) (by simpa [wfMembers] using hwf)
      (numEnd_line _ _)
    have htext : indentedMembers depth [(k, v)] ++ (line close ++ '}' :: r) =
        encodeString false k ++ ':' :: ' ' :: (indented depth v ++ (line close ++ '}' :: r)) := by
      simp only [indentedMembers, List.append_assoc, List.cons_append]
    rw [htext]
    refine ⟨n + 1, scanMembers_member hn (.inl ⟨rfl, ?_⟩)⟩
    rw [skipWs_line, skipWs_cons (by decide)]
  | (k, v) :: m :: ms, depth, close, r, _, hwf => by
    rw [wfMembers, Bool.and_eq_true] at hwf
    obtain ⟨n, hn⟩ := scanOnce_indented v depth
      (',' :: (line depth ++ (indentedMembers depth (m :: ms) ++ (line close ++ '}' :: r)))) hwf.1
      (numEnd_cons rfl)
    obtain ⟨n', hn'⟩ := scanMembers_indented (m :: ms) depth close r (List.cons_ne_nil _ _) hwf.2
    obtain ⟨rest, hrest⟩ := indentedMembers_head depth m ms
    have htext : indentedMembers depth ((k, v) :: m :: ms) ++ (line close ++ '}' :: r) =
        encodeString false k ++ ':' :: ' ' :: (indented depth v ++
          ',' :: (line depth ++ (indentedMembers depth (m :: ms) ++ (line close ++ '}' :: r)))) := by
      simp only [indentedMembers, List.append_assoc, List.cons_append]
    rw [htext]
    refine ⟨max n n' + 1, scanMembers_member (scanOnce_mono (Nat.le_max_left n n') hn)
      (.inr ⟨m :: ms, _, rfl, skipWs_cons (by decide), ?_⟩)⟩
    rw [skipWs_line, hrest, List.cons_append, skipWs_cons (by decide), ← List.cons_append, ← hrest]
    exact scanMembers_mono (Nat.le_max_right n n') hn'
  termination_by structural ms => ms

end

/-- The text determines the value. -/
theorem indented_inj {v w : Json} (hv : wf v = true) (hw : wf w = true)
    (h : indented 0 v = indented 0 w) : v = w := by
  obtain ⟨n, hn⟩ := scanOnce_indented v 0 [] hv numEnd_nil
  obtain ⟨m, hm⟩ := scanOnce_indented w 0 [] hw numEnd_nil
  rw [h] at hn
  have hboth := (scanOnce_mono (Nat.le_max_left n m) hn).symm.trans (scanOnce_mono (Nat.le_max_right n m) hm)
  exact (Prod.mk.inj (Option.some.inj hboth)).1

end Json

end Plachem
