import Mathlib.Data.List.Infix
import PlachemMonitor.Json.Tail

/-!
# Inside a string

Some characters stand nowhere in a JSON text but in its strings. Behind such a character the rest of its string
follows, in which each quote is escaped, and the quote that closes it, and then a comma, a colon or a bracket
(`behind_encode`). So what is found there when it is read from this character on is turned inside out: the next
quote is the one that closes the string, and what seems to be a string begins with a comma, a colon or a bracket
(`Inside.quote`). An object that is read there has such a key (`Inside.object`).

A run of such a character stands in the text of a value just if it stands in one of its strings (`lacks_encode`).
-/

namespace Plachem

namespace Json

/-- The characters of the literals, the brackets and the escapes. -/
def fixedChars : List Char :=
  "nulltruefalseNaNInfinity".toList ++ "\"\\[]\x7b\x7d,:bfnrtu0123456789abcdef".toList

/-- The character stands in strings only, and as itself. -/
def isMark (b : Char) : Bool := !numberChar b && !fixedChars.contains b

/-- What stands behind a string or another value. -/
def isStop (c : Char) : Bool := c == ',' || c == ':' || c == ']' || c == '}'

/-- The rest of a string, its closing quote, and what stands behind it. -/
def Inside (t : List Char) : Prop :=
  ∃ s u : List Char, t = s.flatMap (escapeChar false) ++ '"' :: u ∧ ∀ c ∈ u.head?, isStop c = true

/-- What follows the string is followed by something else. -/
theorem Inside.append {t r : List Char} (h : Inside t) (hr : ∀ c ∈ r.head?, isStop c = true) :
    Inside (t ++ r) := by
  obtain ⟨s, u, rfl, hu⟩ := h
  refine ⟨s, u ++ r, by rw [List.append_assoc, List.cons_append], fun c hc => ?_⟩
  cases u with
  | nil => exact hr c hc
  | cons d u => exact hu c hc

/-- A character is written as itself or as an escape. -/
theorem escapeChar_cases (c : Char) : escapeChar false c = [c] ∧ c ≠ '"' ∧ c ≠ '\\' ∨
    ∃ e, escapeChar false c = '\\' :: e := by
  by_cases hq : c = '"'
  · exact .inr ⟨_, if_pos hq⟩
  by_cases hb : c = '\\'
  · exact .inr ⟨_, (if_neg hq).trans (if_pos hb)⟩
  unfold escapeChar
  rw [if_neg hq, if_neg hb]
  split_ifs
  all_goals first
    | exact .inr ⟨_, rfl⟩
    | exact .inl ⟨rfl, hq, hb⟩

/-- The next quote closes the string. -/
theorem Inside.quote {t w z : List Char} (h : Inside t) (ht : t = w ++ '"' :: z)
    (hw : ∀ c ∈ w, c ≠ '"' ∧ c ≠ '\\') : ∀ c ∈ z.head?, isStop c = true := by
  obtain ⟨s, u, rfl, hu⟩ := h
  induction s generalizing w with
  | nil =>
    cases w with
    | nil =>
      cases ht
      exact hu
    | cons c w => exact absurd (List.cons.inj ht).1.symm (hw c List.mem_cons_self).1
  | cons d s ih =>
    rw [List.flatMap_cons, List.append_assoc] at ht
    rcases escapeChar_cases d with ⟨hself, hq, -⟩ | ⟨e, he⟩
    · rw [hself, List.singleton_append] at ht
      cases w with
      | nil => exact absurd (List.cons.inj ht).1 hq
      | cons c w => exact ih (fun c hc => hw c (List.mem_cons_of_mem _ hc)) (List.cons.inj ht).2
    · rw [he, List.cons_append] at ht
      cases w with
      | nil => cases (List.cons.inj ht).1
      | cons c w => exact absurd (List.cons.inj ht).1.symm (hw c List.mem_cons_self).2

/-! ## Behind a mark -/

variable {b : Char}

theorem mark_ne (hb : isMark b = true) {c : Char} (hc : fixedChars.contains c = true) : b ≠ c := by
  rintro rfl
  rw [isMark, hc, Bool.not_true, Bool.and_false] at hb
  cases hb

/-- A character of an escape is fixed. -/
theorem mem_escapeUnit {n : Nat} (h : n < 65536) {d : Char} (hd : d ∈ escapeUnit n) :
    fixedChars.contains d = true := by
  have hhex : ∀ m < 16, fixedChars.contains (hexDigit m) = true := by decide
  simp only [escapeUnit, List.mem_cons, List.not_mem_nil, or_false] at hd
  rcases hd with rfl | rfl | rfl | rfl | rfl | rfl
  · decide
  · decide
  all_goals exact hhex _ (by omega)

theorem mem_escapePair {e : Char} (h : fixedChars.contains e = true) {d : Char} (hd : d ∈ ['\\', e]) :
    fixedChars.contains d = true := by
  rcases List.mem_cons.mp hd with rfl | hd
  · decide
  · rw [List.mem_singleton.mp hd]
    exact h

theorem mem_escapeChar {c d : Char} (h : d ∈ escapeChar false c) :
    escapeChar false c = [d] ∨ fixedChars.contains d = true := by
  by_cases hself : escapeChar false c = [c]
  · rw [hself, List.mem_singleton] at h
    exact .inl (by rw [hself, h])
  refine .inr ?_
  unfold escapeChar at h hself
  split at h
  · exact mem_escapePair (by decide) h
  split at h
  · exact mem_escapePair (by decide) h
  split at h
  · exact mem_escapePair (by decide) h
  split at h
  · exact mem_escapePair (by decide) h
  split at h
  · exact mem_escapePair (by decide) h
  split at h
  · exact mem_escapePair (by decide) h
  split at h
  · exact mem_escapePair (by decide) h
  split at h
  · exact mem_escapeUnit (by omega) h
  · refine absurd ?_ hself
    simp only [*, if_false, Bool.false_and, Bool.false_eq_true]

theorem mark_escapeChar (hb : isMark b = true) {c : Char} (h : b ∈ escapeChar false c) :
    escapeChar false c = [b] := by
  rcases mem_escapeChar h with h | h
  · exact h
  · exact absurd rfl (mark_ne hb h)

/-- Behind a mark in a string is the rest of the string. -/
theorem mark_flatMap (hb : isMark b = true) {s a t : List Char}
    (h : s.flatMap (escapeChar false) = a ++ b :: t) : ∃ s' : List Char, t = s'.flatMap (escapeChar false) := by
  induction s generalizing a with
  | nil => cases a <;> cases h
  | cons c s ih =>
    rw [List.flatMap_cons] at h
    rcases List.append_eq_append_iff.mp h with ⟨a', rfl, hrest⟩ | ⟨a', hc, hrest⟩
    · exact ih hrest
    · cases a' with
      | nil => exact ih (a := []) hrest.symm
      | cons d a' =>
        obtain ⟨rfl, ht⟩ := List.cons.inj hrest
        have hone := mark_escapeChar hb (c := c) (by rw [hc]; simp)
        rw [hone] at hc
        obtain ⟨rfl, hnil⟩ : a = [] ∧ a' = [] := by
          cases a with
          | nil => exact ⟨rfl, (List.cons.inj hc).2.symm⟩
          | cons _ _ => simp at hc
        refine ⟨s, ?_⟩
        rw [ht, hnil]
        rfl

/-- Behind each `b` of the text is the rest of a string and what closes it. -/
def Behind (b : Char) (cs : List Char) : Prop := ∀ a t : List Char, cs = a ++ b :: t → Inside t

theorem behind_of_not_mem {cs : List Char} (h : b ∉ cs) : Behind b cs := by
  rintro a t rfl
  exact absurd (List.mem_append_right a List.mem_cons_self) h

theorem Behind.cons {c : Char} {cs : List Char} (hc : b ≠ c) (h : Behind b cs) : Behind b (c :: cs) := by
  intro a t heq
  cases a with
  | nil => exact absurd (List.cons.inj heq).1.symm hc
  | cons _ a => exact h a t (List.cons.inj heq).2

theorem Behind.append {x y : List Char} (hx : Behind b x) (hy : Behind b y)
    (hhead : ∀ c ∈ y.head?, isStop c = true) : Behind b (x ++ y) := by
  intro a t heq
  rcases List.append_eq_append_iff.mp heq with ⟨a', rfl, hrest⟩ | ⟨x', hx', hrest⟩
  · exact hy a' t hrest
  · cases x' with
    | nil => exact hy [] t hrest.symm
    | cons d x' =>
      obtain ⟨rfl, rfl⟩ := List.cons.inj hrest
      exact (hx a x' hx').append hhead

/-- Behind a mark in a string is the rest of the string and its closing quote. -/
theorem behind_encodeString (hb : isMark b = true) (s : String) : Behind b (encodeString false s) := by
  refine Behind.cons (mark_ne hb (by decide)) fun a t heq => ?_
  rcases List.append_eq_append_iff.mp heq with ⟨a', rfl, hrest⟩ | ⟨x', hx', hrest⟩
  · cases a' with
    | nil => exact absurd (List.cons.inj hrest).1.symm (mark_ne hb (by decide))
    | cons c a' => exact absurd (List.cons.inj hrest).2 (by simp)
  · cases x' with
    | nil => exact absurd (List.cons.inj hrest).1 (mark_ne hb (by decide))
    | cons d x' =>
      obtain ⟨rfl, rfl⟩ := List.cons.inj hrest
      obtain ⟨s', rfl⟩ := mark_flatMap hb hx'
      exact ⟨s', [], rfl, fun c hc => by cases hc⟩

theorem not_mem_number (hb : isMark b = true) {t : List Char} (ht : ∀ c ∈ t, numberChar c = true) : b ∉ t := by
  intro hmem
  rw [isMark, ht b hmem] at hb
  cases hb

theorem not_mem_float (hb : isMark b = true) (t : FloatText) : b ∉ t.text := by
  rcases t.valid with h | h
  · rw [isFractional, Bool.and_eq_true, Bool.and_eq_true, List.all_eq_true] at h
    exact not_mem_number hb h.1.1
  · have hfixed : ∀ l ∈ nonFinite, l.all fun c => fixedChars.contains c || numberChar c := by decide
    intro hmem
    rcases Bool.or_eq_true _ _ ▸ List.all_eq_true.mp (hfixed _ h) b hmem with h | h
    · exact mark_ne hb h rfl
    · rw [isMark, h] at hb
      cases hb

theorem not_mem_fixed (hb : isMark b = true) {t : List Char} (ht : t.all fixedChars.contains = true) : b ∉ t :=
  fun hmem => mark_ne hb (List.all_eq_true.mp ht b hmem) rfl

mutual

/-- Behind a mark in the text of a value is the rest of a string and what closes it. -/
theorem behind_encode (hb : isMark b = true) : ∀ v : Json, Behind b (encode false v)
  | .null => behind_of_not_mem (not_mem_fixed hb (by decide))
  | .bool true => behind_of_not_mem (not_mem_fixed hb (by decide))
  | .bool false => behind_of_not_mem (not_mem_fixed hb (by decide))
  | .int n => behind_of_not_mem (not_mem_number hb (numberChar_intText n))
  | .float t => behind_of_not_mem (not_mem_float hb t)
  | .str s => behind_encodeString hb s
  | .arr xs => by
    refine Behind.append (Behind.cons (mark_ne hb (by decide)) (behind_encodeElems hb xs)) ?_ ?_
    · exact behind_of_not_mem (not_mem_fixed hb (by decide))
    · exact fun c hc => Option.mem_some.mp hc ▸ rfl
  | .obj ms => by
    refine Behind.append (Behind.cons (mark_ne hb (by decide)) (behind_encodeMembers hb ms)) ?_ ?_
    · exact behind_of_not_mem (not_mem_fixed hb (by decide))
    · exact fun c hc => Option.mem_some.mp hc ▸ rfl
  termination_by structural v => v

theorem behind_encodeElems (hb : isMark b = true) : ∀ xs : List Json, Behind b (encodeElems false xs)
  | [] => behind_of_not_mem List.not_mem_nil
  | [x] => behind_encode hb x
  | x :: y :: ys => by
    refine Behind.append (behind_encode hb x) ?_ fun c hc => Option.mem_some.mp hc ▸ rfl
    exact Behind.cons (mark_ne hb (by decide)) (behind_encodeElems hb (y :: ys))
  termination_by structural xs => xs

theorem behind_encodeMembers (hb : isMark b = true) :
    ∀ ms : List (String × Json), Behind b (encodeMembers false ms)
  | [] => behind_of_not_mem List.not_mem_nil
  | [(k, v)] => by
    refine Behind.append (behind_encodeString hb k) ?_ fun c hc => Option.mem_some.mp hc ▸ rfl
    exact Behind.cons (mark_ne hb (by decide)) (behind_encode hb v)
  | (k, v) :: m :: ms => by
    refine Behind.append ?_ ?_ fun c hc => Option.mem_some.mp hc ▸ rfl
    · refine Behind.append (behind_encodeString hb k) ?_ fun c hc => Option.mem_some.mp hc ▸ rfl
      exact Behind.cons (mark_ne hb (by decide)) (behind_encode hb v)
    · exact Behind.cons (mark_ne hb (by decide)) (behind_encodeMembers hb (m :: ms))
  termination_by structural ms => ms

end

/-! ## A run of marks -/

/-- What does not have the separator stands on one side of it. -/
theorem infix_append_cons {c : Char} {m x y : List Char} (hc : c ∉ m) :
    m <:+: x ++ c :: y ↔ m <:+: x ∨ m <:+: y := by
  constructor
  · rintro ⟨a, z, h⟩
    rcases List.append_eq_append_iff.mp h with ⟨e, hx, -⟩ | ⟨e, ham, hy⟩
    · exact .inl ⟨a, e, hx.symm⟩
    cases e with
    | nil => exact .inl ⟨a, [], by rw [ham, List.append_nil, List.append_nil]⟩
    | cons d e =>
      obtain ⟨rfl, rfl⟩ := List.cons.inj hy
      rcases List.append_eq_append_iff.mp ham with ⟨f, -, hm⟩ | ⟨f, -, hcons⟩
      · exact absurd (hm ▸ List.mem_append_right f List.mem_cons_self) hc
      cases f with
      | nil => exact absurd (List.nil_append m ▸ hcons ▸ List.mem_cons_self) hc
      | cons g f =>
        obtain ⟨-, rfl⟩ := List.cons.inj hcons
        exact .inr ⟨f, z, rfl⟩
  · rintro (h | h)
    · exact List.infix_append_of_infix_left h
    · exact List.infix_append_of_infix_right (List.infix_cons h)

variable {m : List Char}

/-- All characters of a run are the mark. -/
structure Run (b : Char) (m : List Char) : Prop where
  mark : isMark b = true
  self : escapeChar false b = [b]
  all : ∀ c ∈ m, c = b
  ne : m ≠ []

theorem Run.not_mem (h : Run b m) {c : Char} (hc : fixedChars.contains c = true) : c ∉ m :=
  fun hmem => mark_ne h.mark hc (h.all c hmem).symm

/-- A text without the mark has no run. -/
theorem Run.not_part (h : Run b m) {x : List Char} (hx : b ∉ x) : ¬m <:+: x := by
  intro hm
  obtain ⟨c, hc⟩ := List.exists_mem_of_ne_nil m h.ne
  exact hx (h.all c hc ▸ hm.subset hc)

theorem Run.infix_cons (h : Run b m) {c : Char} (hc : c ≠ b) {x : List Char} : m <:+: c :: x ↔ m <:+: x := by
  rw [← List.nil_append (c :: x), infix_append_cons fun hmem => hc (h.all c hmem)]
  exact or_iff_right (h.not_part List.not_mem_nil)

theorem Run.infix_append (h : Run b m) {e x : List Char} (he : b ∉ e) : m <:+: e ++ x ↔ m <:+: x := by
  induction e with
  | nil => rfl
  | cons c e ih =>
    obtain ⟨hc, he⟩ := not_or.mp (List.mem_cons.not.mp he)
    rw [List.cons_append, h.infix_cons (Ne.symm hc), ih he]

/-- Another character is written without the mark. -/
theorem not_mem_escapeChar (hb : isMark b = true) {c : Char} (hc : c ≠ b) : b ∉ escapeChar false c := by
  intro hmem
  rcases escapeChar_cases c with ⟨hself, -⟩ | ⟨e, he⟩
  · exact hc (List.mem_singleton.mp (hself ▸ hmem)).symm
  · have hone := mark_escapeChar hb hmem
    rw [he] at hone
    exact mark_ne hb (by decide) (List.cons.inj hone).1.symm

theorem Run.prefix_flatMap (h : Run b m) (s : List Char) {n : List Char} (hn : ∀ c ∈ n, c = b) :
    n <+: s.flatMap (escapeChar false) ↔ n <+: s := by
  induction n generalizing s with
  | nil => exact iff_of_true List.nil_prefix List.nil_prefix
  | cons d n ih =>
    obtain rfl := hn d List.mem_cons_self
    cases s with
    | nil => rfl
    | cons c s =>
      by_cases hc : c = d
      · rw [hc, List.flatMap_cons, h.self, List.singleton_append, List.cons_prefix_cons, List.cons_prefix_cons,
          ih s fun c hc => hn c (List.mem_cons_of_mem _ hc)]
      · refine iff_of_false (fun hpre => ?_) fun hpre => hc (List.cons_prefix_cons.mp hpre).1.symm
        obtain ⟨e, he⟩ : ∃ e es, escapeChar false c = e :: es := by
          rcases escapeChar_cases c with ⟨hself, -⟩ | ⟨e, he⟩
          · exact ⟨c, [], hself⟩
          · exact ⟨_, e, he⟩
        obtain ⟨es, he⟩ := he
        rw [List.flatMap_cons, he, List.cons_append, List.cons_prefix_cons] at hpre
        exact not_mem_escapeChar h.mark hc (he ▸ hpre.1 ▸ List.mem_cons_self)

/-- A run stands in the text of a string just if it stands in the string. -/
theorem Run.infix_flatMap (h : Run b m) (s : List Char) : m <:+: s.flatMap (escapeChar false) ↔ m <:+: s := by
  induction s with
  | nil => rfl
  | cons c s ih =>
    by_cases hc : c = b
    · have hpre := h.prefix_flatMap (c :: s) h.all
      rw [hc, List.flatMap_cons, h.self, List.singleton_append] at hpre ⊢
      rw [List.infix_cons_iff, List.infix_cons_iff, hpre, ih]
    · rw [List.flatMap_cons, h.infix_append (not_mem_escapeChar h.mark hc), ih, h.infix_cons hc]

/-- The text does not have the part. -/
def lacks (m : List Char) (s : String) : Bool := !decide (m <:+: s.toList)

theorem lacks_encodeString (h : Run b m) (s : String) :
    ¬m <:+: encodeString false s ↔ lacks m s = true := by
  rw [encodeString, List.cons_append, h.infix_cons (mark_ne h.mark (by decide)).symm,
    infix_append_cons (h.not_mem (by decide)), h.infix_flatMap, or_iff_left (h.not_part List.not_mem_nil), lacks,
    Bool.not_eq_true', decide_eq_false_iff_not]

mutual

/-- A run stands in the text of a value just if it stands in one of its strings. -/
theorem lacks_encode (h : Run b m) : ∀ v : Json,
    ¬m <:+: encode false v ↔ allStrings (lacks m) v = true
  | .null => iff_of_true (h.not_part (not_mem_fixed h.mark (by decide))) rfl
  | .bool true => iff_of_true (h.not_part (not_mem_fixed h.mark (by decide))) rfl
  | .bool false => iff_of_true (h.not_part (not_mem_fixed h.mark (by decide))) rfl
  | .int n => iff_of_true (h.not_part (not_mem_number h.mark (numberChar_intText n))) rfl
  | .float t => iff_of_true (h.not_part (not_mem_float h.mark t)) rfl
  | .str s => lacks_encodeString h s
  | .arr xs => by
    rw [encode, List.cons_append, h.infix_cons (mark_ne h.mark (by decide)).symm,
      infix_append_cons (h.not_mem (by decide)), or_iff_left (h.not_part List.not_mem_nil)]
    exact lacks_encodeElems h xs
  | .obj ms => by
    rw [encode, List.cons_append, h.infix_cons (mark_ne h.mark (by decide)).symm,
      infix_append_cons (h.not_mem (by decide)), or_iff_left (h.not_part List.not_mem_nil)]
    exact lacks_encodeMembers h ms
  termination_by structural v => v

theorem lacks_encodeElems (h : Run b m) : ∀ xs : List Json,
    ¬m <:+: encodeElems false xs ↔ allStringsElems (lacks m) xs = true
  | [] => iff_of_true (h.not_part List.not_mem_nil) rfl
  | [x] => by
    rw [encodeElems, allStringsElems, allStringsElems, Bool.and_true]
    exact lacks_encode h x
  | x :: y :: ys => by
    rw [encodeElems, allStringsElems, Bool.and_eq_true, infix_append_cons (h.not_mem (by decide)), not_or,
      lacks_encode h x, lacks_encodeElems h (y :: ys)]
    exact List.cons_ne_nil _ _
  termination_by structural xs => xs

theorem lacks_encodeMembers (h : Run b m) : ∀ ms : List (String × Json),
    ¬m <:+: encodeMembers false ms ↔ allStringsMembers (lacks m) ms = true
  | [] => iff_of_true (h.not_part List.not_mem_nil) rfl
  | [(k, v)] => by
    rw [encodeMembers, allStringsMembers, allStringsMembers, Bool.and_true, Bool.and_eq_true,
      infix_append_cons (h.not_mem (by decide)), not_or, lacks_encodeString h k, lacks_encode h v]
  | (k, v) :: p :: ms => by
    rw [encodeMembers, allStringsMembers, Bool.and_eq_true, Bool.and_eq_true,
      infix_append_cons (h.not_mem (by decide)), infix_append_cons (h.not_mem (by decide)), not_or, not_or,
      lacks_encodeString h k, lacks_encode h v, lacks_encodeMembers h (p :: ms)]
    exact List.cons_ne_nil _ _
  termination_by structural ms => ms

end

/-! ## The first key of an object -/

theorem mem_of_getMember {ms : List (String × Json)} {k : String} {v : Json} (h : getMember ms k = some v) :
    (k, v) ∈ ms := by
  obtain ⟨m, hm, rfl⟩ := Option.map_eq_some_iff.mp h
  have hk := List.find?_some hm
  rw [beq_iff_eq] at hk
  rw [← hk]
  exact List.mem_of_find?_eq_some hm

theorem keys_setMember {ms : List (String × Json)} {k k' : String} {v : Json}
    (h : k' ∈ ms.map Prod.fst) : k' ∈ (setMember ms k v).map Prod.fst := by
  induction ms with
  | nil => cases h
  | cons m ms ih =>
    unfold setMember
    split
    · rename_i hk
      rwa [List.map_cons, ← hk]
    · exact List.mem_cons.mpr ((List.mem_cons.mp h).imp id ih)

/-- Each key that is read is a key of the object. -/
theorem keys_dictOf {pairs : List (String × Json)} {k : String} (h : k ∈ pairs.map Prod.fst) :
    k ∈ (dictOf pairs).map Prod.fst := by
  suffices hacc : ∀ acc : List (String × Json), k ∈ acc.map Prod.fst ∨ k ∈ pairs.map Prod.fst →
      k ∈ (pairs.foldl (fun ms m => setMember ms m.1 m.2) acc).map Prod.fst from hacc [] (.inr h)
  clear h
  induction pairs with
  | nil => exact fun acc h => h.resolve_right List.not_mem_nil
  | cons m pairs ih =>
    intro acc h
    refine ih _ ?_
    rcases h with h | h
    · exact .inl (keys_setMember h)
    rcases List.mem_cons.mp h with rfl | h
    · exact .inl (List.mem_map.mpr ⟨_, mem_of_getMember (getMember_setMember_self acc m.1 m.2), rfl⟩)
    · exact .inr h

theorem skipWs_split (cs : List Char) : ∃ w, cs = w ++ skipWs cs ∧ ∀ c ∈ w, isSpace c = true :=
  ⟨cs.takeWhile isSpace, (List.takeWhile_append_dropWhile ..).symm, fun _ hc => List.mem_takeWhile_imp hc⟩

/-- In front of the first key of an object are a bracket and spaces. -/
theorem loads_first_key {u : List Char} {ms : List (String × Json)} (h : loads u = some (.obj ms)) :
    ms = [] ∨ ∃ w z s r : List Char, u = w ++ '"' :: z ∧ (∀ c ∈ w, isSpace c = true ∨ c = '{') ∧
      scanString z = some (s, r) ∧ String.ofList s ∈ ms.map Prod.fst := by
  obtain ⟨-, r, hscan, -⟩ := scan_of_loads h
  obtain ⟨cs, hopen⟩ := scanOnce_obj_head hscan
  rw [hopen, scanOnce_object] at hscan
  rcases hscan with ⟨-, hms⟩ | ⟨pairs, hpairs, hms⟩
  · exact .inl (Json.obj.inj hms)
  refine .inr ?_
  obtain ⟨w, hw, hspace⟩ := skipWs_split u
  obtain ⟨w', hw', hspace'⟩ := skipWs_split cs
  obtain ⟨m, hm⟩ : ∃ m, 2 * u.length + 1 = m + 1 := ⟨_, rfl⟩
  rw [hm] at hpairs
  obtain ⟨z, s, r₁, r₂, v, r₃, hz, hs, -, -, hrest⟩ := scanMembers_iff.mp hpairs
  refine ⟨w ++ '{' :: w', z, s, r₁, ?_, ?_, hs, ?_⟩
  · rw [List.append_assoc, List.cons_append, ← hz, ← hw', ← hopen]
    exact hw
  · intro c hc
    rcases List.mem_append.mp hc with hc | hc
    · exact .inl (hspace c hc)
    rcases List.mem_cons.mp hc with hc | hc
    · exact .inr hc
    · exact .inl (hspace' c hc)
  · rw [Json.obj.inj hms]
    refine keys_dictOf ?_
    rcases hrest with ⟨rfl, -⟩ | ⟨ms', r₄, rfl, -⟩ <;> exact List.mem_cons_self

/-- An object that is read behind a mark has a key that begins like the end of a string. -/
theorem Inside.object {t w u q : List Char} {ms : List (String × Json)} (h : Inside t) (ht : t = w ++ u ++ q)
    (hw : ∀ c ∈ w, c ≠ '"' ∧ c ≠ '\\') (hread : loads u = some (.obj ms)) :
    ms = [] ∨ ∃ c s, isStop c = true ∧ String.ofList (c :: s) ∈ ms.map Prod.fst := by
  refine (loads_first_key hread).imp id ?_
  rintro ⟨w', z, s, r, rfl, hw', hs, hkey⟩
  have hnext : ∀ c ∈ (z ++ q).head?, isStop c = true := by
    refine h.quote (w := w ++ w') (by rw [ht]; simp only [List.append_assoc, List.cons_append]) fun c hc => ?_
    rcases List.mem_append.mp hc with hc | hc
    · exact hw c hc
    · rcases hw' c hc with hc | rfl
      · constructor <;> rintro rfl <;> cases hc
      · decide
  cases z with
  | nil => cases hs
  | cons c z =>
    have hstop := hnext c rfl
    have hq : c ≠ '"' := by rintro rfl; cases hstop
    have hb : c ≠ '\\' := by rintro rfl; cases hstop
    have hprint : ¬c.toNat < 32 := by
      simp only [isStop, Bool.or_eq_true, beq_iff_eq] at hstop
      rcases hstop with ((rfl | rfl) | rfl) | rfl <;> decide
    rw [scanString_plain hq hb hprint] at hs
    obtain ⟨p, -, hp⟩ := Option.map_eq_some_iff.mp hs
    obtain ⟨rfl, -⟩ := Prod.mk.inj hp
    exact ⟨c, p.1, hstop, hkey⟩

end Json

end Plachem
