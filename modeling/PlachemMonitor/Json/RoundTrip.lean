import Mathlib.Data.List.TakeWhile
import PlachemMonitor.Json.Codec

/-!
# `json.loads` inverts `json.dumps`

`loads_dumps`: a value without double keys is read back with its members in key order, with either
setting of `ensure_ascii`. So `dumps` is injective up to the order of the members
(`dumps_inj`).

`scanOnce_encode` is the induction: each of the three scanners reads what the corresponding
encoder wrote, in front of any text that cannot continue a number (`NumEnd`), if its fuel is at
least the size of the value.

`plain_encode`: with `ensure_ascii=False`, a character beyond ASCII is in the text exactly if it is
in a string of the value.
-/

namespace Plachem

namespace Json

/-! ## Strings -/

theorem hexVal_hexDigit : ∀ n < 16, hexVal (hexDigit n) = some n := by decide

theorem hexUnit_escape {n : Nat} (h : n < 65536) :
    hexUnit (hexDigit (n / 4096)) (hexDigit (n / 256 % 16)) (hexDigit (n / 16 % 16))
      (hexDigit (n % 16)) = some n := by
  unfold hexUnit
  rw [hexVal_hexDigit _ (by omega), hexVal_hexDigit _ (by omega), hexVal_hexDigit _ (by omega),
    hexVal_hexDigit _ (by omega)]
  simp only [Option.bind_eq_bind, Option.bind_some, Option.some.injEq]
  omega

theorem scanString_quote (r : List Char) : scanString ('"' :: r) = some ([], r) := by
  rw [scanString.eq_def]
  simp

example : scanString ['"', ','] = some ([], [',']) := by
  rw [scanString.eq_def]
  rfl

theorem scanString_unescape {e x : Char} (h : unescape e = some x) (r : List Char) :
    scanString ('\\' :: e :: r) = (scanString r).map fun (s, r) => (x :: s, r) := by
  have hu : e ≠ 'u' := by
    rintro rfl
    simp [unescape] at h
  rw [scanString.eq_def]
  simp [hu, h]

/-- A character that stands for itself. -/
theorem scanString_plain {c : Char} (hq : c ≠ '"') (hb : c ≠ '\\') (h : ¬ c.toNat < 32)
    (r : List Char) : scanString (c :: r) = (scanString r).map fun (s, r) => (c :: s, r) := by
  rw [scanString.eq_def]
  simp only [hq, hb, h, ↓reduceIte]

/-- `\uXXXX`, no surrogate. -/
theorem scanString_unit {a b c d : Char} {u : Nat} (h : hexUnit a b c d = some u)
    (hu : ¬ (0xd800 ≤ u ∧ u ≤ 0xdbff)) (hl : ¬ (0xdc00 ≤ u ∧ u ≤ 0xdfff)) (r : List Char) :
    scanString ('\\' :: 'u' :: a :: b :: c :: d :: r) =
      (scanString r).map fun (s, r) => (Char.ofNat u :: s, r) := by
  rw [scanString.eq_def]
  simp only [Char.reduceEq, ↓reduceIte, h]
  rw [if_neg hu, if_neg hl]

/-- A surrogate pair reads as the character beyond the basic plane that it stands for. -/
theorem scanString_pair {a b c d a' b' c' d' : Char} {u l : Nat} (h : hexUnit a b c d = some u)
    (h' : hexUnit a' b' c' d' = some l) (hu : 0xd800 ≤ u ∧ u ≤ 0xdbff)
    (hl : 0xdc00 ≤ l ∧ l ≤ 0xdfff) (r : List Char) :
    scanString ('\\' :: 'u' :: a :: b :: c :: d :: '\\' :: 'u' :: a' :: b' :: c' :: d' :: r) =
      (scanString r).map fun (s, r) =>
        (Char.ofNat (0x10000 + 1024 * (u - 0xd800) + (l - 0xdc00)) :: s, r) := by
  rw [scanString.eq_def]
  simp only [Char.reduceEq, ↓reduceIte, h, h']
  rw [if_pos hu, if_pos hl]

theorem scanString_escapeUnit {n : Nat} (h : n < 0xd800 ∨ 0xdfff < n ∧ n < 65536)
    (r : List Char) : scanString (escapeUnit n ++ r) =
      (scanString r).map fun (s, r) => (Char.ofNat n :: s, r) :=
  scanString_unit (hexUnit_escape (by omega)) (by omega) (by omega) r

theorem scanString_surrogates {u l : Nat} (hu : 0xd800 ≤ u ∧ u ≤ 0xdbff)
    (hl : 0xdc00 ≤ l ∧ l ≤ 0xdfff) (r : List Char) :
    scanString (escapeUnit u ++ escapeUnit l ++ r) = (scanString r).map fun (s, r) =>
      (Char.ofNat (0x10000 + 1024 * (u - 0xd800) + (l - 0xdc00)) :: s, r) :=
  scanString_pair (hexUnit_escape (by omega)) (hexUnit_escape (by omega)) hu hl r

/-- `n` from the two halves of its surrogate pair. -/
theorem surrogates_value {n : Nat} (h : 0x10000 ≤ n) :
    0x10000 + 1024 * (0xd800 + (n - 0x10000) / 1024 - 0xd800) +
      (0xdc00 + (n - 0x10000) % 1024 - 0xdc00) = n := by omega

theorem ofNat_of_toNat_eq {c : Char} {n : Nat} (h : c.toNat = n) : Char.ofNat n = c := by
  rw [← h, Char.ofNat_toNat]

theorem toNat_scalar (c : Char) :
    (c.toNat < 0xd800 ∨ 0xdfff < c.toNat) ∧ c.toNat < 0x110000 := by
  have h := c.valid
  simp only [UInt32.isValidChar, Nat.isValidChar] at h
  have he : c.toNat = c.val.toNat := rfl
  omega

theorem scanString_escapeChar (ascii : Bool) (c : Char) (r : List Char) :
    scanString (escapeChar ascii c ++ r) =
      (scanString r).map fun (s, r) => (c :: s, r) := by
  have hc := toNat_scalar c
  unfold escapeChar
  split
  · subst_vars; exact scanString_unescape (by decide) r
  split
  · subst_vars; exact scanString_unescape (by decide) r
  split
  · subst_vars; exact scanString_unescape (by decide) r
  split
  · subst_vars; exact scanString_unescape (by decide) r
  split
  · subst_vars; exact scanString_unescape (by decide) r
  split
  · rename_i h
    rw [← ofNat_of_toNat_eq h]
    exact scanString_unescape (by decide) r
  split
  · rename_i h
    rw [← ofNat_of_toNat_eq h]
    exact scanString_unescape (by decide) r
  split
  · rw [scanString_escapeUnit (by omega), ofNat_of_toNat_eq rfl]
  rename_i hq hb _ _ _ _ _ hctl
  split
  · split
    · rw [scanString_escapeUnit (by omega), ofNat_of_toNat_eq rfl]
    · rw [scanString_surrogates (by omega) (by omega), surrogates_value (by omega),
        ofNat_of_toNat_eq rfl]
  · exact scanString_plain hq hb hctl r

theorem scanString_escaped (ascii : Bool) (s r : List Char) :
    scanString (s.flatMap (escapeChar ascii) ++ '"' :: r) = some (s, r) := by
  induction s with
  | nil => exact scanString_quote r
  | cons c s ih => simp [scanString_escapeChar, ih]

/-! ## Numbers -/

/-- The text cannot continue a number. -/
def NumEnd (r : List Char) : Prop := ∀ c ∈ r.head?, numberChar c = false

theorem numEnd_nil : NumEnd [] := by simp [NumEnd]

theorem numEnd_cons {c : Char} {r : List Char} (h : numberChar c = false) : NumEnd (c :: r) := by
  simpa [NumEnd] using h

theorem takeWhile_numEnd {t r : List Char} (ht : ∀ c ∈ t, numberChar c = true) (hr : NumEnd r) :
    (t ++ r).takeWhile numberChar = t ∧ (t ++ r).dropWhile numberChar = r := by
  induction t with
  | nil =>
    cases r with
    | nil => simp
    | cons c r =>
      have hc : numberChar c = false := hr c rfl
      simp [hc]
  | cons c t ih =>
    have hc := ht c (List.mem_cons_self ..)
    have := ih fun c h => ht c (List.mem_cons_of_mem _ h)
    simp [hc, this]

theorem isDigit_numberChar {c : Char} (h : c.isDigit = true) : numberChar c = true := by
  simp [numberChar, h]

theorem isNatText_toDigits (n : Nat) : isNatText (Nat.toDigits 10 n) = true := by
  by_cases hn : n = 0
  · subst hn; decide
  have hall : ∀ c ∈ Nat.toDigits 10 n, c.isDigit = true :=
    fun c hc => Nat.isDigit_of_mem_toDigits (by decide) (by decide) hc
  have hhead : ∀ c cs, Nat.toDigits 10 n = c :: cs → c ≠ '0' := by
    induction n using Nat.strongRecOn with
    | _ n ih =>
      intro c cs h
      by_cases hlt : n < 10
      · rw [Nat.toDigits_of_lt_base hlt] at h
        obtain ⟨rfl, -⟩ := List.cons.inj h
        have hd : ∀ m < 10, m ≠ 0 → m.digitChar ≠ '0' := by decide
        exact hd n hlt hn
      · rw [Nat.toDigits_of_base_le (by decide) (by omega)] at h
        have hlt' : n / 10 < n := by omega
        cases hq : Nat.toDigits 10 (n / 10) with
        | nil => exact absurd hq Nat.toDigits_ne_nil
        | cons c' cs' =>
          rw [hq] at h
          obtain ⟨rfl, -⟩ := List.cons.inj h
          exact ih (n / 10) hlt' (by omega) (fun c hc =>
            Nat.isDigit_of_mem_toDigits (by decide) (by decide) hc) c' cs' hq
  cases hd : Nat.toDigits 10 n with
  | nil => exact absurd hd Nat.toDigits_ne_nil
  | cons c cs =>
    rw [hd] at hall
    have h0 := hhead c cs hd
    have hc := hall c (List.mem_cons_self ..)
    have hcs : cs.all Char.isDigit = true :=
      List.all_eq_true.mpr fun x hx => hall x (List.mem_cons_of_mem _ hx)
    unfold isNatText
    split
    · rfl
    · rename_i heq
      obtain ⟨rfl, rfl⟩ := List.cons.inj heq
      simp [hc, h0, hcs]
    · contradiction

theorem toDigits_head_ne {c : Char} {n : Nat} {cs : List Char}
    (h : Nat.toDigits 10 n = c :: cs) : c.isDigit = true :=
  Nat.isDigit_of_mem_toDigits (b := 10) (n := n) (by decide) (by decide)
    (by rw [h]; exact List.mem_cons_self ..)

theorem isIntText_intText (n : Int) : isIntText (intText n) = true := by
  have h := isNatText_toDigits n.natAbs
  unfold intText
  split
  · simpa [isIntText] using h
  · unfold isIntText
    split
    · rename_i heq
      have := toDigits_head_ne heq
      simp at this
    · exact h

theorem readInt_intText (n : Int) : readInt (intText n) = n := by
  unfold intText
  split
  · simp only [readInt, Nat.ofDigitChars_ten_toDigits, Int.ofNat_eq_natCast]
    omega
  · unfold readInt
    split
    · rename_i heq
      have := toDigits_head_ne heq
      simp at this
    · rw [Nat.ofDigitChars_ten_toDigits, Int.ofNat_eq_natCast]
      omega

theorem numberChar_intText (n : Int) : ∀ c ∈ intText n, numberChar c = true := by
  have h : ∀ c ∈ Nat.toDigits 10 n.natAbs, numberChar c = true := fun c hc =>
    isDigit_numberChar (Nat.isDigit_of_mem_toDigits (by decide) (by decide) hc)
  unfold intText
  split
  · intro c hc
    rcases List.mem_cons.mp hc with rfl | hc
    · decide
    · exact h c hc
  · exact h

theorem scanNumber_intText (n : Int) {r : List Char} (hr : NumEnd r) :
    scanNumber (intText n ++ r) = some (.int n, r) := by
  obtain ⟨ht, hd⟩ := takeWhile_numEnd (numberChar_intText n) hr
  simp [scanNumber, ht, hd, readNumber, isIntText_intText, readInt_intText]

/-- A text with a fraction or an exponent is no integer text. -/
theorem isIntText_of_isFractional {t : List Char} (h : isFractional t = true) :
    isIntText t = false := by
  have hall : ∀ t : List Char, isIntText t = true → ∀ c ∈ t, (c.isDigit || c == '-') = true := by
    have hnat : ∀ t : List Char, isNatText t = true → ∀ c ∈ t, c.isDigit = true := by
      intro t ht
      unfold isNatText at ht
      split at ht
      · simp
      · simp only [Bool.and_eq_true, List.all_eq_true] at ht
        intro c hc
        rcases List.mem_cons.mp hc with rfl | hc
        · exact ht.1.1
        · exact ht.2 c hc
      · simp at ht
    intro t ht c hc
    unfold isIntText at ht
    split at ht
    · rcases List.mem_cons.mp hc with rfl | hc
      · rfl
      · simp [hnat _ ht c hc]
    · simp [hnat _ ht c hc]
  by_contra hi
  rw [Bool.not_eq_false] at hi
  have hdrop : t.dropWhile (fun c => c.isDigit || c == '-') = [] := by
    rw [List.dropWhile_eq_nil_iff]
    exact hall t hi
  simp only [isFractional, hdrop, Bool.and_eq_true] at h
  exact absurd h.2 (by decide)

theorem scanNumber_fractional {t r : List Char} (h : isFractional t = true) (hr : NumEnd r) :
    scanNumber (t ++ r) = some (.float ⟨t, .inl h⟩, r) := by
  have hall : ∀ c ∈ t, numberChar c = true := by
    simp only [isFractional, Bool.and_eq_true, List.all_eq_true] at h
    exact h.1.1
  obtain ⟨ht, hd⟩ := takeWhile_numEnd hall hr
  simp [scanNumber, ht, hd, readNumber, isIntText_of_isFractional h, h]

/-- The text starts with a digit, or with a minus sign before a digit. -/
def numberHead : List Char → Bool
  | '-' :: d :: _ => d.isDigit
  | c :: _ => c.isDigit
  | [] => false

theorem numberHead_cases {t : List Char} (h : numberHead t = true) :
    ∃ c cs, t = c :: cs ∧ (c.isDigit = true ∨ c = '-') := by
  unfold numberHead at h
  split at h
  · exact ⟨_, _, rfl, .inr rfl⟩
  · exact ⟨_, _, rfl, .inl h⟩
  · cases h

theorem numberHead_append {t : List Char} (h : numberHead t = true) (r : List Char) :
    numberHead (t ++ r) = true := by
  unfold numberHead at h
  split at h
  · exact h
  · rename_i c cs hne
    have hm : c ≠ '-' := by
      rintro rfl
      simp at h
    rw [List.cons_append, numberHead.eq_def]
    simpa [hm] using h
  · cases h

theorem numberHead_of_isIntText {t : List Char} (h : isIntText t = true) :
    numberHead t = true := by
  have hnat : ∀ {c : Char} {cs : List Char}, isNatText (c :: cs) = true → c.isDigit = true := by
    intro c cs h
    unfold isNatText at h
    split at h
    · rename_i heq
      obtain ⟨rfl, -⟩ := List.cons.inj heq
      rfl
    · rename_i heq
      obtain ⟨rfl, -⟩ := List.cons.inj heq
      simp only [Bool.and_eq_true] at h
      exact h.1.1
    · cases h
  unfold isIntText at h
  split at h
  · rename_i cs
    cases cs with
    | nil => cases h
    | cons d cs => exact hnat h
  · rename_i hne
    cases t with
    | nil => cases h
    | cons c cs =>
      rw [numberHead.eq_def]
      split
      · rename_i heq
        exact (hne _ heq).elim
      · rename_i heq
        obtain ⟨rfl, -⟩ := List.cons.inj heq
        exact hnat h
      · contradiction

theorem numberHead_of_isFractional {t : List Char} (h : isFractional t = true) :
    numberHead t = true := by
  simp only [isFractional, Bool.and_eq_true] at h
  have := numberHead_append (numberHead_of_isIntText h.1.2)
    (t.dropWhile fun c => c.isDigit || c == '-')
  rwa [List.takeWhile_append_dropWhile] at this

/-- A text that starts a number starts no literal. -/
theorem scanLit_number {cs : List Char} (h : numberHead cs = true) : scanLit cs = none := by
  have hne : ∀ l : List Char, l ∈ ["null".toList, "true".toList, "false".toList, "NaN".toList,
      "Infinity".toList, "-Infinity".toList] → stripLit l cs = none := by
    obtain ⟨c, cs, rfl, hc | rfl⟩ := numberHead_cases h
    · have hc' : ∀ l : Char, l.isDigit = false → l ≠ c := by
        rintro l hl rfl
        simp [hl] at hc
      simp [stripLit, hc' 'n' (by decide), hc' 't' (by decide), hc' 'f' (by decide),
        hc' 'N' (by decide), hc' 'I' (by decide), hc' '-' (by decide)]
    · cases cs with
      | nil => simp [numberHead] at h
      | cons d cs =>
        have hd : 'I' ≠ d := by
          rintro rfl
          simp [numberHead] at h
        simp [stripLit, hd]
  simpa [scanLit] using hne

theorem scanOnce_number {n : Nat} {cs : List Char} (h : numberHead cs = true) :
    scanOnce (n + 1) cs = scanNumber cs := by
  have hlit := scanLit_number h
  obtain ⟨c, cs, rfl, hc⟩ := numberHead_cases h
  have hne : ∀ b : Char, b.isDigit = false → b ≠ '-' → c ≠ b := by
    rintro b hb hb' rfl
    simp [hb, hb'] at hc
  simp [scanOnce, hne '"' (by decide) (by decide), hne '{' (by decide) (by decide),
    hne '[' (by decide) (by decide), hlit]

/-! ## Values -/

/-- A character that a value can start with: no space, and no closing bracket. -/
def ValueStart (cs : List Char) : Prop :=
  ∃ c r, cs = c :: r ∧ isSpace c = false ∧ c ≠ ']'

theorem skipWs_cons {c : Char} {r : List Char} (h : isSpace c = false) :
    skipWs (c :: r) = c :: r := by
  simp [skipWs, h]

theorem ValueStart.append {cs : List Char} (h : ValueStart cs) (r : List Char) :
    ValueStart (cs ++ r) := by
  obtain ⟨c, t, rfl, hc⟩ := h
  exact ⟨c, t ++ r, rfl, hc⟩

theorem ValueStart.skipWs {cs : List Char} (h : ValueStart cs) : skipWs cs = cs := by
  obtain ⟨c, t, rfl, hc, -⟩ := h
  exact skipWs_cons hc

theorem valueStart_number {t : List Char} (h : numberHead t = true) : ValueStart t := by
  obtain ⟨c, cs, rfl, hc⟩ := numberHead_cases h
  refine ⟨c, cs, rfl, ?_, ?_⟩
  · by_contra hs
    rw [Bool.not_eq_false, isSpace] at hs
    simp only [Bool.or_eq_true, beq_iff_eq] at hs
    rcases hs with ((rfl | rfl) | rfl) | rfl <;> simp at hc
  · rintro rfl
    simp at hc

theorem numberHead_intText (n : Int) : numberHead (intText n) = true :=
  numberHead_of_isIntText (isIntText_intText n)

theorem valueStart_encode (ascii : Bool) (v : Json) : ValueStart (encode ascii v) := by
  cases v with
  | null => exact ⟨'n', _, rfl, by decide⟩
  | bool b => cases b <;> exact ⟨_, _, rfl, by decide⟩
  | int n => exact valueStart_number (numberHead_intText n)
  | float t =>
    rcases t.valid with h | h
    · exact valueStart_number (numberHead_of_isFractional h)
    · simp only [nonFinite, List.mem_cons, List.not_mem_nil, or_false] at h
      rcases h with h | h | h <;> rw [encode, h] <;> exact ⟨_, _, rfl, by decide⟩
  | str s => exact ⟨'"', _, rfl, by decide⟩
  | arr xs => exact ⟨'[', _, rfl, by decide⟩
  | obj ms => exact ⟨'{', _, rfl, by decide⟩

mutual

/-- The fuel with which the scanner reads the value. -/
def size : Json → Nat
  | .arr xs => sizeElems xs + 1
  | .obj ms => sizeMembers ms + 1
  | _ => 1
  termination_by structural v => v

def sizeElems : List Json → Nat
  | [] => 0
  | x :: xs => size x + sizeElems xs + 1
  termination_by structural xs => xs

def sizeMembers : List (String × Json) → Nat
  | [] => 0
  | (_, v) :: ms => size v + sizeMembers ms + 1
  termination_by structural ms => ms

end

theorem scanOnce_int (n : Int) (f : Nat) {r : List Char} (hr : NumEnd r) :
    scanOnce (f + 1) (intText n ++ r) = some (.int n, r) := by
  rw [scanOnce_number (numberHead_append (numberHead_intText n) r), scanNumber_intText n hr]

theorem scanOnce_float (t : FloatText) (f : Nat) {r : List Char} (hr : NumEnd r) :
    scanOnce (f + 1) (t.text ++ r) = some (.float t, r) := by
  obtain ⟨t, h | h⟩ := t
  · rw [scanOnce_number (numberHead_append (numberHead_of_isFractional h) r),
      scanNumber_fractional h hr]
  · have h' := h
    simp only [nonFinite, List.mem_cons, List.not_mem_nil, or_false] at h'
    rcases h' with rfl | rfl | rfl <;> simp [scanOnce, scanLit, stripLit]

/-! ## Layouts -/

mutual

/-- The text of a value with a gap after each comma and colon. -/
def layout (gap : List Char) (ascii : Bool) : Json → List Char
  | .arr xs => '[' :: layoutElems gap ascii xs ++ [']']
  | .obj ms => '{' :: layoutMembers gap ascii ms ++ ['}']
  | v => encode ascii v
  termination_by structural v => v

def layoutElems (gap : List Char) (ascii : Bool) : List Json → List Char
  | [] => []
  | [x] => layout gap ascii x
  | x :: xs => layout gap ascii x ++ ',' :: (gap ++ layoutElems gap ascii xs)
  termination_by structural xs => xs

def layoutMembers (gap : List Char) (ascii : Bool) : List (String × Json) → List Char
  | [] => []
  | [(k, v)] => encodeString ascii k ++ ':' :: (gap ++ layout gap ascii v)
  | (k, v) :: ms =>
    encodeString ascii k ++ ':' :: (gap ++ layout gap ascii v) ++
      ',' :: (gap ++ layoutMembers gap ascii ms)
  termination_by structural ms => ms

end

mutual

/-- `encode` leaves no gaps. -/
theorem layout_nil (ascii : Bool) : ∀ v : Json, layout [] ascii v = encode ascii v
  | .arr xs => by rw [layout, encode, layoutElems_nil ascii xs]
  | .obj ms => by rw [layout, encode, layoutMembers_nil ascii ms]
  | .null | .bool _ | .int _ | .float _ | .str _ => rfl
  termination_by structural v => v

theorem layoutElems_nil (ascii : Bool) :
    ∀ xs : List Json, layoutElems [] ascii xs = encodeElems ascii xs
  | [] => rfl
  | [x] => by rw [layoutElems, encodeElems, layout_nil ascii x]
  | x :: y :: ys => by
    have hxs := layoutElems_nil ascii (y :: ys)
    show layout [] ascii x ++ ',' :: layoutElems [] ascii (y :: ys) =
      encode ascii x ++ ',' :: encodeElems ascii (y :: ys)
    rw [hxs, layout_nil ascii x]
  termination_by structural xs => xs

theorem layoutMembers_nil (ascii : Bool) :
    ∀ ms : List (String × Json), layoutMembers [] ascii ms = encodeMembers ascii ms
  | [] => rfl
  | [(k, v)] => by
    show encodeString ascii k ++ ':' :: layout [] ascii v = encodeString ascii k ++ ':' :: encode ascii v
    rw [layout_nil ascii v]
  | (k, v) :: m :: ms => by
    have hms := layoutMembers_nil ascii (m :: ms)
    show encodeString ascii k ++ ':' :: layout [] ascii v ++ ',' :: layoutMembers [] ascii (m :: ms) =
      encodeString ascii k ++ ':' :: encode ascii v ++ ',' :: encodeMembers ascii (m :: ms)
    rw [hms, layout_nil ascii v]
  termination_by structural ms => ms

end

mutual

/-- A layout adds nothing but its gaps. -/
theorem mem_layout (gap : List Char) (ascii : Bool) (c : Char) :
    ∀ v : Json, c ∈ layout gap ascii v → c ∈ encode ascii v ∨ c ∈ gap
  | .null, h | .bool _, h | .int _, h | .float _, h | .str _, h => .inl h
  | .arr xs, h => by
    have hxs := mem_layoutElems gap ascii c xs
    simp only [layout, encode, List.cons_append, List.mem_cons, List.mem_append, List.not_mem_nil,
      or_false] at h ⊢
    grind
  | .obj ms, h => by
    have hms := mem_layoutMembers gap ascii c ms
    simp only [layout, encode, List.cons_append, List.mem_cons, List.mem_append, List.not_mem_nil,
      or_false] at h ⊢
    grind
  termination_by structural v => v

theorem mem_layoutElems (gap : List Char) (ascii : Bool) (c : Char) :
    ∀ xs : List Json, c ∈ layoutElems gap ascii xs → c ∈ encodeElems ascii xs ∨ c ∈ gap
  | [], h => .inl h
  | [x], h => mem_layout gap ascii c x h
  | x :: y :: ys, h => by
    have hx := mem_layout gap ascii c x
    have hxs := mem_layoutElems gap ascii c (y :: ys)
    have henc : encodeElems ascii (x :: y :: ys) = encode ascii x ++ ',' :: encodeElems ascii (y :: ys) := rfl
    have hlay : layoutElems gap ascii (x :: y :: ys) =
      layout gap ascii x ++ ',' :: (gap ++ layoutElems gap ascii (y :: ys)) := rfl
    rw [hlay] at h
    rw [henc]
    simp only [List.mem_append, List.mem_cons] at h ⊢
    grind
  termination_by structural xs => xs

theorem mem_layoutMembers (gap : List Char) (ascii : Bool) (c : Char) :
    ∀ ms : List (String × Json), c ∈ layoutMembers gap ascii ms → c ∈ encodeMembers ascii ms ∨ c ∈ gap
  | [], h => .inl h
  | [(k, v)], h => by
    have hv := mem_layout gap ascii c v
    simp only [layoutMembers, encodeMembers, List.mem_append, List.mem_cons] at h ⊢
    grind
  | (k, v) :: m :: ms, h => by
    have hv := mem_layout gap ascii c v
    have hms := mem_layoutMembers gap ascii c (m :: ms)
    have henc : encodeMembers ascii ((k, v) :: m :: ms) = encodeString ascii k ++ ':' ::
      encode ascii v ++ ',' :: encodeMembers ascii (m :: ms) := rfl
    have hlay : layoutMembers gap ascii ((k, v) :: m :: ms) = encodeString ascii k ++ ':' ::
      (gap ++ layout gap ascii v) ++ ',' :: (gap ++ layoutMembers gap ascii (m :: ms)) := rfl
    rw [hlay] at h
    rw [henc]
    simp only [List.mem_append, List.mem_cons] at h ⊢
    grind
  termination_by structural ms => ms

end

section

variable {gap : List Char}

theorem skipWs_gap (hgap : ∀ c ∈ gap, isSpace c = true) (cs : List Char) : skipWs (gap ++ cs) = skipWs cs :=
  List.dropWhile_append_of_pos hgap

theorem valueStart_layout (gap : List Char) (ascii : Bool) (v : Json) : ValueStart (layout gap ascii v) := by
  cases v with
  | arr xs => exact ⟨'[', _, rfl, by decide⟩
  | obj ms => exact ⟨'{', _, rfl, by decide⟩
  | _ => exact valueStart_encode ascii _

theorem valueStart_layoutElems (gap : List Char) (ascii : Bool) (x : Json) (xs : List Json) (r : List Char) :
    ValueStart (layoutElems gap ascii (x :: xs) ++ r) := by
  cases xs <;> simp only [layoutElems, List.append_assoc] <;>
    exact (valueStart_layout gap ascii x).append _

theorem layoutMembers_head (gap : List Char) (ascii : Bool) (m : String × Json)
    (ms : List (String × Json)) (r : List Char) :
    ∃ t, layoutMembers gap ascii (m :: ms) ++ r = '"' :: t := by
  cases ms <;> exact ⟨_, rfl⟩

mutual

/-- The scanner reads what was written, with any gaps. -/
theorem scanOnce_layout (hgap : ∀ c ∈ gap, isSpace c = true) (ascii : Bool) :
    ∀ (v : Json) (n : Nat) (r : List Char),
    wf v = true → size v ≤ n → NumEnd r →
      scanOnce n (layout gap ascii v ++ r) = some (v, r)
  | .null, n + 1, r, _, _, _ => by simp [layout, encode, scanOnce, scanLit, stripLit]
  | .bool true, n + 1, r, _, _, _ => by simp [layout, encode, scanOnce, scanLit, stripLit]
  | .bool false, n + 1, r, _, _, _ => by simp [layout, encode, scanOnce, scanLit, stripLit]
  | .int i, n + 1, r, _, _, hr => scanOnce_int i n hr
  | .float t, n + 1, r, _, _, hr => scanOnce_float t n hr
  | .str s, n + 1, r, _, _, _ => by
    simp [layout, encode, encodeString, scanOnce, scanString_escaped]
  | .arr [], n + 1, r, _, _, _ => by
    simp [layout, layoutElems, scanOnce, skipWs, isSpace]
  | .arr (x :: xs), n + 1, r, hwf, hn, _ => by
    have hs : ValueStart (layoutElems gap ascii (x :: xs) ++ ']' :: r) :=
      valueStart_layoutElems gap ascii x xs _
    have ih := scanElems_layout hgap ascii (x :: xs) n r (by simp) (by simpa [wf] using hwf)
      (by simp only [size] at hn; omega)
    have hskip := hs.skipWs
    obtain ⟨c, t, hc, -, hne⟩ := hs
    simp only [layout, List.cons_append, List.append_assoc, List.nil_append, scanOnce,
      Char.reduceEq, ↓reduceIte]
    rw [hskip, hc]
    rw [hc] at ih
    split
    · rename_i heq
      exact absurd (List.cons.inj heq).1 hne
    · simp [ih]
  | .obj [], n + 1, r, _, _, _ => by
    simp [layout, layoutMembers, scanOnce, skipWs, isSpace]
  | .obj ((k, v) :: ms), n + 1, r, hwf, hn, _ => by
    simp only [wf, Bool.and_eq_true, decide_eq_true_eq] at hwf
    have ih := scanMembers_layout hgap ascii ((k, v) :: ms) n r (by simp) hwf.2
      (by simp only [size] at hn; omega)
    obtain ⟨t, ht⟩ := layoutMembers_head gap ascii (k, v) ms ('}' :: r)
    simp only [layout, List.cons_append, List.append_assoc, List.nil_append, scanOnce,
      Char.reduceEq, ↓reduceIte]
    rw [ht, skipWs_cons (by decide)]
    rw [ht] at ih
    simp [ih, dictOf_of_nodup hwf.1]
  | .null, 0, _, _, hn, _ | .bool _, 0, _, _, hn, _ | .int _, 0, _, _, hn, _
  | .float _, 0, _, _, hn, _ | .str _, 0, _, _, hn, _ | .arr _, 0, _, _, hn, _
  | .obj _, 0, _, _, hn, _ => by simp [size] at hn
  termination_by structural v => v

theorem scanElems_layout (hgap : ∀ c ∈ gap, isSpace c = true) (ascii : Bool) :
    ∀ (xs : List Json) (n : Nat) (r : List Char),
    xs ≠ [] → wfElems xs = true → sizeElems xs ≤ n →
      scanElems n (layoutElems gap ascii xs ++ ']' :: r) = some (xs, r)
  | [], _, _, h, _, _ => absurd rfl h
  | _ :: _, 0, _, _, _, hn => by simp [sizeElems] at hn
  | [x], n + 1, r, _, hwf, hn => by
    have hx := scanOnce_layout hgap ascii x n (']' :: r) (by simpa [wfElems] using hwf)
      (by simp only [sizeElems] at hn; omega) (numEnd_cons (by decide))
    simp [layoutElems, scanElems, hx, skipWs, isSpace]
  | x :: y :: ys, n + 1, r, _, hwf, hn => by
    simp only [wfElems, Bool.and_eq_true] at hwf
    simp only [sizeElems] at hn
    have hx := scanOnce_layout hgap ascii x n (',' :: (gap ++ (layoutElems gap ascii (y :: ys) ++ ']' :: r)))
      hwf.1 (by omega) (numEnd_cons (by decide))
    have hxs := scanElems_layout hgap ascii (y :: ys) n r (by simp)
      (by simpa [wfElems] using hwf.2) (by simp only [sizeElems]; omega)
    have hs := valueStart_layoutElems gap ascii y ys (']' :: r)
    simp only [layoutElems, List.append_assoc, List.cons_append, scanElems] at hx hxs hs ⊢
    rw [hx]
    simp only [skipWs_cons (show isSpace ',' = false by decide), skipWs_gap hgap, hs.skipWs, hxs,
      Option.map_some]
  termination_by structural xs => xs

theorem scanMembers_layout (hgap : ∀ c ∈ gap, isSpace c = true) (ascii : Bool) :
    ∀ (ms : List (String × Json)) (n : Nat) (r : List Char),
      ms ≠ [] → wfMembers ms = true → sizeMembers ms ≤ n →
        scanMembers n (layoutMembers gap ascii ms ++ '}' :: r) = some (ms, r)
  | [], _, _, h, _, _ => absurd rfl h
  | _ :: _, 0, _, _, _, hn => by simp [sizeMembers] at hn
  | [(k, v)], n + 1, r, _, hwf, hn => by
    have hv := scanOnce_layout hgap ascii v n ('}' :: r) (by simpa [wfMembers] using hwf)
      (by simp only [sizeMembers] at hn; omega) (numEnd_cons (by decide))
    have hs := ((valueStart_layout gap ascii v).append ('}' :: r)).skipWs
    simp [layoutMembers, encodeString, scanMembers, scanString_escaped, hv, hs, skipWs_gap hgap,
      skipWs_cons (show isSpace ':' = false by decide),
      skipWs_cons (show isSpace '}' = false by decide)]
  | (k, v) :: (k', v') :: ms, n + 1, r, _, hwf, hn => by
    simp only [wfMembers, Bool.and_eq_true] at hwf
    simp only [sizeMembers] at hn
    have hv := scanOnce_layout hgap ascii v n
      (',' :: (gap ++ (layoutMembers gap ascii ((k', v') :: ms) ++ '}' :: r)))
      hwf.1 (by omega) (numEnd_cons (by decide))
    have hms := scanMembers_layout hgap ascii ((k', v') :: ms) n r (by simp)
      (by simpa [wfMembers] using hwf.2) (by simp only [sizeMembers]; omega)
    have hs := ((valueStart_layout gap ascii v).append
      (',' :: (gap ++ (layoutMembers gap ascii ((k', v') :: ms) ++ '}' :: r)))).skipWs
    have henc : layoutMembers gap ascii ((k, v) :: (k', v') :: ms) =
        encodeString ascii k ++ ':' :: (gap ++ layout gap ascii v) ++
          ',' :: (gap ++ layoutMembers gap ascii ((k', v') :: ms)) := rfl
    obtain ⟨t, ht⟩ := layoutMembers_head gap ascii (k', v') ms ('}' :: r)
    rw [ht] at hv hms hs
    rw [henc]
    simp only [encodeString, List.append_assoc, List.cons_append, List.nil_append, ht,
      scanMembers, scanString_escaped, skipWs_cons (show isSpace ':' = false by decide),
      skipWs_gap hgap, hs, hv, skipWs_cons (show isSpace ',' = false by decide),
      skipWs_cons (show isSpace '"' = false by decide), hms, Option.map_some, String.ofList_toList]
  termination_by structural ms => ms

end

end

theorem scanOnce_encode (ascii : Bool) (v : Json) (n : Nat) (r : List Char) (hwf : wf v = true)
    (hn : size v ≤ n) (hr : NumEnd r) : scanOnce n (encode ascii v ++ r) = some (v, r) := by
  rw [← layout_nil]
  exact scanOnce_layout (by simp) ascii v n r hwf hn hr

theorem length_encode_pos (ascii : Bool) (v : Json) : 0 < (encode ascii v).length := by
  obtain ⟨c, cs, h, -⟩ := valueStart_encode ascii v
  simp [h]

mutual

/-- `loads` has fuel enough: the size is at most two units for each character. -/
theorem size_le (gap : List Char) (ascii : Bool) : ∀ v : Json, size v ≤ 2 * (layout gap ascii v).length
  | .arr xs => by
    have := sizeElems_le gap ascii xs
    simp only [size, layout, List.length_cons, List.length_append, List.length_nil]
    omega
  | .obj ms => by
    have := sizeMembers_le gap ascii ms
    simp only [size, layout, List.length_cons, List.length_append, List.length_nil]
    omega
  | .null | .bool _ | .int _ | .float _ | .str _ => by
    have := length_encode_pos ascii
    simp only [size, layout]
    refine Nat.le_trans ?_ (Nat.mul_le_mul_left 2 (this _))
    omega
  termination_by structural v => v

theorem sizeElems_le (gap : List Char) (ascii : Bool) :
    ∀ xs : List Json, sizeElems xs ≤ 2 * (layoutElems gap ascii xs).length + 1
  | [] => by simp [sizeElems]
  | [x] => by
    have := size_le gap ascii x
    simp only [sizeElems, layoutElems]
    omega
  | x :: y :: ys => by
    have hx := size_le gap ascii x
    have hxs := sizeElems_le gap ascii (y :: ys)
    have henc : layoutElems gap ascii (x :: y :: ys) =
      layout gap ascii x ++ ',' :: (gap ++ layoutElems gap ascii (y :: ys)) := rfl
    rw [sizeElems, henc, List.length_append, List.length_cons, List.length_append]
    omega
  termination_by structural xs => xs

theorem sizeMembers_le (gap : List Char) (ascii : Bool) :
    ∀ ms : List (String × Json), sizeMembers ms ≤ 2 * (layoutMembers gap ascii ms).length + 1
  | [] => by simp [sizeMembers]
  | [(k, v)] => by
    have := size_le gap ascii v
    simp only [sizeMembers, layoutMembers, List.length_append, List.length_cons]
    omega
  | (k, v) :: m :: ms => by
    have hv := size_le gap ascii v
    have hms := sizeMembers_le gap ascii (m :: ms)
    have henc : layoutMembers gap ascii ((k, v) :: m :: ms) =
      encodeString ascii k ++ ':' :: (gap ++ layout gap ascii v) ++
        ',' :: (gap ++ layoutMembers gap ascii (m :: ms)) := rfl
    rw [sizeMembers, henc]
    simp only [List.length_append, List.length_cons]
    omega
  termination_by structural ms => ms

end

theorem head_layout (gap : List Char) (ascii : Bool) (v : Json) :
    (layout gap ascii v).head? ≠ some '\ufeff' := by
  have hnum : ∀ {t : List Char}, numberHead t = true → t.head? ≠ some '\ufeff' := by
    intro t h
    obtain ⟨c, cs, rfl, hc⟩ := numberHead_cases h
    rintro ⟨rfl⟩
    simp at hc
  rcases v with _ | (_ | _) | n | t | s | xs | ms <;> simp [layout, encode, encodeString]
  · exact hnum (numberHead_intText n)
  · rcases t.valid with h | h
    · exact hnum (numberHead_of_isFractional h)
    · simp only [nonFinite, List.mem_cons, List.not_mem_nil, or_false] at h
      rcases h with h | h | h <;> simp [h]

/-- A value is read back, with any gaps. -/
theorem loads_layout {gap : List Char} (hgap : ∀ c ∈ gap, isSpace c = true) (ascii : Bool) {v : Json}
    (h : wf v = true) : loads (layout gap ascii v) = some v := by
  have hscan := scanOnce_layout hgap ascii v (2 * (layout gap ascii v).length + 2) [] h
    (by have := size_le gap ascii v; omega) numEnd_nil
  rw [List.append_nil] at hscan
  rw [loads, if_neg (head_layout gap ascii v), (valueStart_layout gap ascii v).skipWs, hscan]
  simp [skipWs]

/-- A value is read back with its members in key order. -/
theorem loads_dumps (ascii : Bool) {v : Json} (h : wf v = true) :
    loads (dumps ascii v) = some v.sortKeys := by
  rw [dumps, ← layout_nil]
  exact loads_layout (by simp) ascii (by rw [wf_sortKeys, h])

/-- `dumps` is injective up to the order of the members. -/
theorem dumps_inj {ascii : Bool} {v w : Json} (hv : wf v = true) (hw : wf w = true)
    (h : dumps ascii v = dumps ascii w) : Eqv v w := by
  have := loads_dumps ascii hv
  rw [h, loads_dumps ascii hw] at this
  exact (Option.some.inj this).symm

/-! ## The characters of a text -/

section Characters

variable {p : Char → Bool} (hp : ∀ c : Char, 32 ≤ c.toNat → c.toNat < 127 → p c = false)

include hp

theorem plain_escapeUnit {n : Nat} (h : n < 65536) : ∀ d ∈ escapeUnit n, p d = false := by
  have hex : ∀ m < 16, 32 ≤ (hexDigit m).toNat ∧ (hexDigit m).toNat < 127 := by decide
  have hdig : ∀ m < 16, p (hexDigit m) = false := fun m hm => hp _ (hex m hm).1 (hex m hm).2
  intro d hd
  simp only [escapeUnit, List.mem_cons, List.not_mem_nil, or_false] at hd
  rcases hd with rfl | rfl | rfl | rfl | rfl | rfl
  · exact hp _ (by decide) (by decide)
  · exact hp _ (by decide) (by decide)
  all_goals exact hdig _ (by omega)

/-- With `ensure_ascii=False` only a character beyond ASCII is written as it is. -/
theorem plain_escapeChar (c : Char) :
    (∀ d ∈ escapeChar false c, p d = false) ↔ c.toNat < 127 ∨ p c = false := by
  have hpair : ∀ {e : Char}, 32 ≤ e.toNat → e.toNat < 127 → ∀ d ∈ ['\\', e], p d = false := by
    intro e h h' d hd
    simp only [List.mem_cons, List.not_mem_nil, or_false] at hd
    rcases hd with rfl | rfl
    · exact hp _ (by decide) (by decide)
    · exact hp _ h h'
  unfold escapeChar
  split
  · subst_vars; exact iff_of_true (hpair (by decide) (by decide)) (.inl (by decide))
  split
  · subst_vars; exact iff_of_true (hpair (by decide) (by decide)) (.inl (by decide))
  split
  · subst_vars; exact iff_of_true (hpair (by decide) (by decide)) (.inl (by decide))
  split
  · subst_vars; exact iff_of_true (hpair (by decide) (by decide)) (.inl (by decide))
  split
  · subst_vars; exact iff_of_true (hpair (by decide) (by decide)) (.inl (by decide))
  split
  · exact iff_of_true (hpair (by decide) (by decide)) (.inl (by omega))
  split
  · exact iff_of_true (hpair (by decide) (by decide)) (.inl (by omega))
  split
  · exact iff_of_true (plain_escapeUnit hp (by omega)) (.inl (by omega))
  · simp only [Bool.false_and, Bool.false_eq_true, ↓reduceIte, List.mem_singleton, forall_eq]
    refine ⟨.inr, fun h => h.elim (fun hlt => hp c (by omega) hlt) id⟩

/-- `p` holds of no character of the string that is written as it is. -/
def plain (p : Char → Bool) (s : String) : Bool := s.toList.all fun c => c.toNat < 127 || !p c

theorem plain_encodeString (s : String) :
    (∀ d ∈ encodeString false s, p d = false) ↔ plain p s = true := by
  have hquote : p '"' = false := hp _ (by decide) (by decide)
  simp only [encodeString, plain, List.cons_append, List.mem_cons, List.mem_append,
    List.mem_flatMap, List.not_mem_nil, or_false, List.all_eq_true, Bool.or_eq_true,
    decide_eq_true_eq, Bool.not_eq_true']
  constructor
  · intro h c hc
    exact (plain_escapeChar hp c).mp fun d hd => h d (.inr (.inl ⟨c, hc, hd⟩))
  · rintro h d (rfl | ⟨c, hc, hd⟩ | rfl)
    · exact hquote
    · exact (plain_escapeChar hp c).mpr (h c hc) d hd
    · exact hquote

theorem plain_numberChar {c : Char} (hc : numberChar c = true) : p c = false := by
  simp only [numberChar, Bool.or_eq_true, beq_iff_eq] at hc
  rcases hc with ((((hc | rfl) | rfl) | rfl) | rfl) | rfl
  · rw [Char.isDigit] at hc
    simp only [Bool.and_eq_true, decide_eq_true_eq] at hc
    have h1 : 48 ≤ c.toNat := hc.1
    have h2 : c.toNat ≤ 57 := hc.2
    exact hp c (by omega) (by omega)
  all_goals exact hp _ (by decide) (by decide)

theorem plain_floatText (t : FloatText) : ∀ c ∈ t.text, p c = false := by
  rcases t.valid with h | h
  · simp only [isFractional, Bool.and_eq_true, List.all_eq_true] at h
    exact fun c hc => plain_numberChar hp (h.1.1 c hc)
  · have hprint : ∀ l ∈ nonFinite, l.all fun c => decide (32 ≤ c.toNat ∧ c.toNat < 127) := by decide
    intro c hc
    obtain ⟨hlow, hhigh⟩ := of_decide_eq_true (List.all_eq_true.mp (hprint _ h) c hc)
    exact hp c hlow hhigh

mutual

/-- A character beyond ASCII is in the text exactly if it is in a string of the value. -/
theorem plain_encode : ∀ v : Json,
    (∀ c ∈ encode false v, p c = false) ↔ allStrings (plain p) v = true
  | .null => iff_of_true (by simp [encode, hp]) rfl
  | .bool true => iff_of_true (by simp [encode, hp]) rfl
  | .bool false => iff_of_true (by simp [encode, hp]) rfl
  | .int n => iff_of_true (fun c hc => plain_numberChar hp (numberChar_intText n c hc)) rfl
  | .float t => iff_of_true (plain_floatText hp t) rfl
  | .str s => plain_encodeString hp s
  | .arr xs => by
    have hb : p '[' = false := hp _ (by decide) (by decide)
    have he : p ']' = false := hp _ (by decide) (by decide)
    simp only [encode, allStrings, ← plain_encodeElems xs, List.cons_append, List.forall_mem_cons,
      hb, true_and, List.forall_mem_append, List.not_mem_nil, false_imp_iff, implies_true, he,
      and_true]
  | .obj ms => by
    have hb : p '{' = false := hp _ (by decide) (by decide)
    have he : p '}' = false := hp _ (by decide) (by decide)
    simp only [encode, allStrings, ← plain_encodeMembers ms, List.cons_append,
      List.forall_mem_cons, hb, true_and, List.forall_mem_append, List.not_mem_nil, false_imp_iff,
      implies_true, he, and_true]
  termination_by structural v => v

theorem plain_encodeElems : ∀ xs : List Json,
    (∀ c ∈ encodeElems false xs, p c = false) ↔ allStringsElems (plain p) xs = true
  | [] => by simp [encodeElems, allStringsElems]
  | [x] => by simpa [encodeElems, allStringsElems] using plain_encode x
  | x :: y :: ys => by
    have hc : p ',' = false := hp _ (by decide) (by decide)
    have henc : encodeElems false (x :: y :: ys) =
      encode false x ++ ',' :: encodeElems false (y :: ys) := rfl
    have hall : allStringsElems (plain p) (x :: y :: ys) =
      (allStrings (plain p) x && allStringsElems (plain p) (y :: ys)) := rfl
    rw [henc, hall, Bool.and_eq_true, ← plain_encode x, ← plain_encodeElems (y :: ys)]
    simp only [List.forall_mem_append, List.forall_mem_cons, hc, true_and]
  termination_by structural xs => xs

theorem plain_encodeMembers : ∀ ms : List (String × Json),
    (∀ c ∈ encodeMembers false ms, p c = false) ↔ allStringsMembers (plain p) ms = true
  | [] => by simp [encodeMembers, allStringsMembers]
  | [(k, v)] => by
    have hc : p ':' = false := hp _ (by decide) (by decide)
    simp only [encodeMembers, allStringsMembers, Bool.and_true, Bool.and_eq_true,
      ← plain_encode v, ← plain_encodeString hp k, List.forall_mem_append, List.forall_mem_cons,
      hc, true_and]
  | (k, v) :: m :: ms => by
    have hc : p ':' = false := hp _ (by decide) (by decide)
    have hc' : p ',' = false := hp _ (by decide) (by decide)
    have henc : encodeMembers false ((k, v) :: m :: ms) = encodeString false k ++ ':' ::
      encode false v ++ ',' :: encodeMembers false (m :: ms) := rfl
    have hall : allStringsMembers (plain p) ((k, v) :: m :: ms) =
      (plain p k && allStrings (plain p) v && allStringsMembers (plain p) (m :: ms)) := rfl
    rw [henc, hall]
    simp only [Bool.and_eq_true, ← plain_encode v, ← plain_encodeString hp k,
      ← plain_encodeMembers (m :: ms), List.forall_mem_append, List.forall_mem_cons, hc, hc',
      true_and, and_assoc]
  termination_by structural ms => ms

end

end Characters

end Json

end Plachem
