import PlachemMonitor.FastGateway.Collecting
import PlachemMonitor.Json.Tail

/-!
# Missing closers

`_close_result_containers` reads a text with a stack of the containers that are open. Over a JSON text
the stack is empty at the end (`scan_loads`), so it is what the text lacks that was cut before its last
closers (`closers_of_tail`), and the repair gives back its value (`close_result_containers_exact`). A text
that is cut in a string, or has a closer of another container, is not repaired.
-/

namespace Plachem

namespace OpenClawAdapter

open Json (skipWs scanString scanOnce scanElems scanMembers isCloser IsTail)

namespace Containers

/-- The containers are open, and the text is outside of strings. -/
def outside (stack : List Char) : Containers := ⟨stack, false, false⟩

def inside (stack : List Char) : Containers := ⟨stack, true, false⟩

def scan (s : Containers) (text : List Char) : Option Containers := text.foldlM Containers.read s

@[simp] theorem scan_nil (s : Containers) : s.scan [] = some s := rfl

theorem scan_cons (s : Containers) (c : Char) (text : List Char) :
    s.scan (c :: text) = (s.read c).bind fun s => s.scan text := by
  unfold scan
  rw [List.foldlM_cons]
  rfl

theorem scan_append (s : Containers) (p q : List Char) :
    s.scan (p ++ q) = (s.scan p).bind fun s => s.scan q := by
  unfold scan
  rw [List.foldlM_append]
  rfl

theorem scan_of_read {s s' : Containers} {c : Char} (h : s.read c = some s') (text : List Char) :
    s.scan (c :: text) = s'.scan text := by
  rw [scan_cons, h]
  rfl

/-- A character that is no quote and no bracket. -/
def Plain (c : Char) : Prop := c ∉ ['"', '{', '}', '[', ']']

instance (c : Char) : Decidable (Plain c) := inferInstanceAs (Decidable (c ∉ _))

theorem read_plain {c : Char} (h : Plain c) (S : List Char) :
    (outside S).read c = some (outside S) := by
  simp only [Plain, List.mem_cons, List.not_mem_nil, or_false, not_or] at h
  obtain ⟨hq, ho, hc, ha, he⟩ := h
  simp [Containers.read, outside, hq, ho, hc, ha, he]

theorem read_open {c d : Char} (h : (c, d) ∈ [('{', '}'), ('[', ']')]) (S : List Char) :
    (outside S).read c = some (outside (d :: S)) := by
  simp only [List.mem_cons, List.not_mem_nil, or_false, Prod.mk.injEq] at h
  obtain ⟨rfl, rfl⟩ | ⟨rfl, rfl⟩ := h <;> rfl

theorem read_closer {c : Char} (h : isCloser c = true) (S : List Char) :
    (outside S).read c = match S with
      | [] => none
      | top :: stack => if top = c then some (outside stack) else none := by
  simp only [isCloser, Bool.or_eq_true, beq_iff_eq] at h
  obtain rfl | rfl := h <;> cases S <;> rfl

theorem read_quote (S : List Char) : (outside S).read '"' = some (inside S) := rfl

theorem read_end (S : List Char) : (inside S).read '"' = some (outside S) := rfl

theorem read_char {c : Char} (hq : c ≠ '"') (hb : c ≠ '\\') (S : List Char) :
    (inside S).read c = some (inside S) := by
  simp [Containers.read, inside, hq, hb]

/-- An escaped character is passed over. -/
theorem scan_escape (c : Char) (text S : List Char) :
    (inside S).scan ('\\' :: c :: text) = (inside S).scan text := rfl

theorem scan_plain {t : List Char} (h : ∀ c ∈ t, Plain c) (r S : List Char) :
    (outside S).scan (t ++ r) = (outside S).scan r := by
  induction t with
  | nil => rfl
  | cons c t ih =>
    rw [List.forall_mem_cons] at h
    rw [List.cons_append, scan_of_read (read_plain h.1 S), ih h.2]

/-! ## The tokens of JSON -/

theorem plain_of_isSpace {c : Char} (h : Json.isSpace c = true) : Plain c := by
  simp only [Json.isSpace, Bool.or_eq_true, beq_iff_eq] at h
  obtain ((rfl | rfl) | rfl) | rfl := h <;> decide

theorem scan_skipWs (cs S : List Char) : (outside S).scan (skipWs cs) = (outside S).scan cs := by
  have hsplit := List.takeWhile_append_dropWhile (p := Json.isSpace) (l := cs)
  have hplain : ∀ c ∈ cs.takeWhile Json.isSpace, Plain c :=
    fun c hc => plain_of_isSpace (List.mem_takeWhile_imp hc)
  conv => rhs; rw [← hsplit]
  exact (scan_plain hplain _ S).symm

theorem hexVal_ne {c : Char} {n : Nat} (h : Json.hexVal c = some n) : c ≠ '"' ∧ c ≠ '\\' := by
  constructor <;> rintro rfl <;> cases h

theorem scan_hexUnit {a b c d : Char} {u : Nat} (h : Json.hexUnit a b c d = some u)
    (text S : List Char) :
    (inside S).scan ('\\' :: 'u' :: a :: b :: c :: d :: text) = (inside S).scan text := by
  obtain ⟨_, ha, h⟩ := Option.bind_eq_some_iff.mp h
  obtain ⟨_, hb, h⟩ := Option.bind_eq_some_iff.mp h
  obtain ⟨_, hc, h⟩ := Option.bind_eq_some_iff.mp h
  obtain ⟨_, hd, -⟩ := Option.bind_eq_some_iff.mp h
  rw [scan_escape, scan_of_read (read_char (hexVal_ne ha).1 (hexVal_ne ha).2 S),
    scan_of_read (read_char (hexVal_ne hb).1 (hexVal_ne hb).2 S),
    scan_of_read (read_char (hexVal_ne hc).1 (hexVal_ne hc).2 S),
    scan_of_read (read_char (hexVal_ne hd).1 (hexVal_ne hd).2 S)]

/-- A string literal changes nothing. -/
theorem scan_scanString {cs s r : List Char} (h : scanString cs = some (s, r)) (S : List Char) :
    (inside S).scan cs = (outside S).scan r := by
  have cont : ∀ {cs s r : List Char} {c : Char},
      ((scanString cs).map fun p => (c :: p.1, p.2)) = some (s, r) →
        ∃ s', scanString cs = some (s', r) := by
    intro cs s r c h
    obtain ⟨⟨s', r'⟩, hs, heq⟩ := Option.map_eq_some_iff.mp h
    obtain ⟨-, rfl⟩ := Prod.mk.inj heq
    exact ⟨s', hs⟩
  fun_induction scanString cs generalizing s r with
  | case2 cs =>
    obtain ⟨rfl, rfl⟩ := Prod.mk.inj (Option.some.inj h)
    exact scan_of_read (read_end S) _
  | case6 a b c d u hu hu' a' b' c' d' cs l hl hl' _ ih =>
    obtain ⟨s', hs⟩ := cont h
    rw [scan_hexUnit hu, scan_hexUnit hl, ih hs]
  | case10 a b c d cs u hu hh hl _ ih =>
    obtain ⟨s', hs⟩ := cont h
    rw [scan_hexUnit hu, ih hs]
  | case13 e cs _ x hx _ ih =>
    obtain ⟨s', hs⟩ := cont h
    rw [scan_escape, ih hs]
  | case15 c cs hq hb hctl ih =>
    obtain ⟨s', hs⟩ := cont h
    rw [scan_of_read (read_char hq hb S), ih hs]
  | _ => cases h

theorem scan_scanLit {cs r : List Char} {v : Json} (h : Json.scanLit cs = some (v, r)) (S : List Char) :
    (outside S).scan cs = (outside S).scan r := by
  obtain ⟨lit, hlit, rfl, -⟩ := Json.scanLit_local h
  have hall : (Json.literals.all fun lit => lit.all fun c => decide (Plain c)) = true := by
    decide
  refine scan_plain (fun c hc => ?_) r S
  exact of_decide_eq_true (List.all_eq_true.mp (List.all_eq_true.mp hall lit hlit) c hc)

theorem scan_scanNumber {cs r : List Char} {v : Json} (h : Json.scanNumber cs = some (v, r))
    (S : List Char) : (outside S).scan cs = (outside S).scan r := by
  obtain ⟨t, rfl, ht, -⟩ := Json.scanNumber_local h
  refine scan_plain (fun c hc => ?_) r S
  intro hbracket
  have hnumber := ht c hc
  simp only [List.mem_cons, List.not_mem_nil, or_false] at hbracket
  obtain rfl | rfl | rfl | rfl | rfl := hbracket <;> cases hnumber

/-- What is skipped up to a character that is read. -/
theorem scan_to {cs r S S' : List Char} {c : Char} (h : skipWs cs = c :: r)
    (hread : (outside S).read c = some (outside S')) :
    (outside S).scan cs = (outside S').scan r := by
  rw [← scan_skipWs, h, scan_of_read hread]

mutual

/-- A value leaves the stack as it was. -/
theorem scan_scanOnce : ∀ (n : Nat) (x r : List Char) (v : Json), scanOnce n x = some (v, r) →
    ∀ S, (outside S).scan x = (outside S).scan r
  | 0, _, _, _, h, _ => by simp [scanOnce] at h
  | n + 1, [], _, _, h, _ => by simp [scanOnce] at h
  | n + 1, c :: cs, r, v, h, S => by
    by_cases ho : c = '{'
    · subst ho
      rw [scan_of_read (read_open (d := '}') (by decide) S)]
      rcases Json.scanOnce_object.mp h with ⟨hs, -⟩ | ⟨ms, hms, -⟩
      · exact scan_to hs (read_closer (c := '}') (by decide) _)
      · rw [← scan_skipWs]
        exact scan_scanMembers n _ _ _ hms S
    by_cases ha : c = '['
    · subst ha
      rw [scan_of_read (read_open (d := ']') (by decide) S)]
      rcases Json.scanOnce_array.mp h with ⟨hs, -⟩ | ⟨xs, hxs, -⟩
      · exact scan_to hs (read_closer (c := ']') (by decide) _)
      · rw [← scan_skipWs]
        exact scan_scanElems n _ _ _ hxs S
    by_cases hs : c = '"'
    · subst hs
      obtain ⟨s, hs, -⟩ := Json.scanOnce_string.mp h
      rw [scan_of_read (read_quote S)]
      exact scan_scanString hs S
    rw [Json.scanOnce_scalar hs ho ha, Option.orElse_eq_orElse, Option.orElse_eq_or,
      Option.or_eq_some_iff] at h
    rcases h with h | ⟨-, h⟩
    · exact scan_scanLit h S
    · exact scan_scanNumber h S
  termination_by structural n => n

theorem scan_scanElems : ∀ (n : Nat) (x r : List Char) (xs : List Json),
    scanElems n x = some (xs, r) → ∀ S, (outside (']' :: S)).scan x = (outside S).scan r
  | 0, _, _, _, h, _ => by simp [scanElems] at h
  | n + 1, x, r, xs, h, S => by
    obtain ⟨v, r₁, hv, ⟨-, hs⟩ | ⟨xs', r₂, -, hs, hxs⟩⟩ := Json.scanElems_iff.mp h
    · rw [scan_scanOnce n _ _ _ hv]
      exact scan_to hs (read_closer (by decide) _)
    · rw [scan_scanOnce n _ _ _ hv, scan_to hs (read_plain (by decide) _), ← scan_skipWs]
      exact scan_scanElems n _ _ _ hxs S
  termination_by structural n => n

theorem scan_scanMembers : ∀ (n : Nat) (x r : List Char) (ms : List (String × Json)),
    scanMembers n x = some (ms, r) → ∀ S, (outside ('}' :: S)).scan x = (outside S).scan r
  | 0, _, _, _, h, _ => by simp [scanMembers] at h
  | n + 1, x, r, ms, h, S => by
    obtain ⟨cs, k, r₁, r₂, v, r₃, rfl, hk, hc, hv, hend⟩ := Json.scanMembers_iff.mp h
    rw [scan_of_read (read_quote _), scan_scanString hk, scan_to hc (read_plain (by decide) _),
      ← scan_skipWs, scan_scanOnce n _ _ _ hv]
    rcases hend with ⟨-, hs⟩ | ⟨ms', r₄, -, hs, hms⟩
    · exact scan_to hs (read_closer (by decide) _)
    · rw [scan_to hs (read_plain (by decide) _), ← scan_skipWs]
      exact scan_scanMembers n _ _ _ hms S
  termination_by structural n => n

end

/-- Nothing is open at the end of a JSON text. -/
theorem scan_loads {t : List Char} {v : Json} (h : Json.loads t = some v) :
    (outside []).scan t = some (outside []) := by
  obtain ⟨-, r, hscan, hr⟩ := Json.scan_of_loads h
  rw [← scan_skipWs, scan_scanOnce _ _ _ _ hscan, ← scan_skipWs, hr]
  rfl

/-! ## Texts that are cut -/

/-- A string stays open over a text without quotes. -/
theorem scan_quoted {s s' : Containers} {q : List Char} (hs : s.quoted = true) (hq : '"' ∉ q)
    (h : s.scan q = some s') : s'.quoted = true := by
  induction q generalizing s with
  | nil =>
    obtain rfl := Option.some.inj h
    exact hs
  | cons c q ih =>
    rw [List.mem_cons, not_or] at hq
    rw [scan_cons] at h
    obtain ⟨t, ht, h⟩ := Option.bind_eq_some_iff.mp h
    refine ih ?_ hq.2 h
    unfold Containers.read at ht
    rw [if_pos hs] at ht
    split at ht
    · obtain rfl := Option.some.inj ht
      exact hs
    · split at ht
      · obtain rfl := Option.some.inj ht
        exact hs
      · obtain rfl := Option.some.inj ht
        simpa using Ne.symm hq.1

/-- Only closers come on the stack. -/
theorem stack_closers {s s' : Containers} {text : List Char} (h : s.scan text = some s')
    (hs : ∀ c ∈ s.stack, isCloser c = true) : ∀ c ∈ s'.stack, isCloser c = true := by
  induction text generalizing s with
  | nil =>
    obtain rfl := Option.some.inj h
    exact hs
  | cons c text ih =>
    rw [scan_cons] at h
    obtain ⟨t, ht, h⟩ := Option.bind_eq_some_iff.mp h
    refine ih h ?_
    unfold Containers.read at ht
    split at ht
    · split at ht
      · obtain rfl := Option.some.inj ht
        exact hs
      · split at ht <;> (obtain rfl := Option.some.inj ht; exact hs)
    split at ht
    · obtain rfl := Option.some.inj ht
      exact hs
    split at ht
    · obtain rfl := Option.some.inj ht
      exact List.forall_mem_cons.mpr ⟨by decide, hs⟩
    split at ht
    · obtain rfl := Option.some.inj ht
      exact List.forall_mem_cons.mpr ⟨by decide, hs⟩
    split at ht
    · split at ht
      · rename_i top stack hstack
        rw [hstack] at hs
        split at ht
        · obtain rfl := Option.some.inj ht
          exact (List.forall_mem_cons.mp hs).2
        · cases ht
      · cases ht
    · obtain rfl := Option.some.inj ht
      exact hs

/-- A tail that closes everything has the closers of the stack. -/
theorem scan_tail {S q : List Char} {escaped : Bool} (hq : IsTail q)
    (h : (⟨S, false, escaped⟩ : Containers).scan q = some (outside [])) :
    S = q.filter isCloser := by
  induction q generalizing S with
  | nil =>
    obtain rfl : S = [] := congrArg Containers.stack (Option.some.inj h)
    rfl
  | cons c q ih =>
    obtain ⟨hc, hq⟩ := List.forall_mem_cons.mp hq
    rw [scan_cons] at h
    obtain ⟨t, ht, h⟩ := Option.bind_eq_some_iff.mp h
    by_cases hcloser : isCloser c = true
    · have hbracket : c = '}' ∨ c = ']' := by simpa [isCloser] using hcloser
      cases S with
      | nil =>
        have hread : (⟨[], false, escaped⟩ : Containers).read c = none := by
          rcases hbracket with rfl | rfl <;> rfl
        rw [hread] at ht
        cases ht
      | cons top S =>
        have hread : (⟨top :: S, false, escaped⟩ : Containers).read c =
            if top = c then some ⟨S, false, escaped⟩ else none := by
          rcases hbracket with rfl | rfl <;> rfl
        rw [hread] at ht
        split at ht
        · rename_i htop
          obtain rfl := Option.some.inj ht
          rw [List.filter_cons_of_pos hcloser, htop, ih hq h]
        · cases ht
    · have hwhite := hc.resolve_left hcloser
      have hread : (⟨S, false, escaped⟩ : Containers).read c = some ⟨S, false, escaped⟩ := by
        have hne : ∀ d, Text.isWhitespace d = false → c ≠ d := by
          rintro d hd rfl
          rw [hd] at hwhite
          cases hwhite
        simp [Containers.read, hne '"' (by decide), hne '{' (by decide), hne '[' (by decide),
          hne '}' (by decide), hne ']' (by decide)]
      rw [hread] at ht
      obtain rfl := Option.some.inj ht
      rw [List.filter_cons_of_neg hcloser]
      exact ih hq h

/-- What a JSON text lacks that is cut before its last closers is on the stack. -/
theorem closers_of_tail {p q : List Char} {v : Json} (h : Json.loads (p ++ q) = some v)
    (hq : IsTail q) :
    ∃ escaped, (outside []).scan p = some ⟨q.filter isCloser, false, escaped⟩ := by
  have hscan := scan_loads h
  rw [scan_append] at hscan
  obtain ⟨s, hs, htail⟩ := Option.bind_eq_some_iff.mp hscan
  have hunquoted : s.quoted = false := by
    by_contra hquoted
    rw [Bool.not_eq_false] at hquoted
    have hnot : '"' ∉ q := fun hmem => absurd (hq _ hmem) (by decide)
    have hopen := scan_quoted hquoted hnot htail
    cases hopen
  obtain ⟨S, quoted, escaped⟩ := s
  obtain rfl : quoted = false := hunquoted
  exact ⟨escaped, by rw [hs, scan_tail hq htail]⟩

end Containers

/-! ## Strings and containers of any text -/

/-- What may stand between the quotes of a string. -/
inductive Body : List Char → Prop
  | nil : Body []
  | char {c : Char} {b : List Char} : c ≠ '"' → c ≠ '\\' → Body b → Body (c :: b)
  | escape {c : Char} {b : List Char} : Body b → Body ('\\' :: c :: b)

/-- A text that ends outside of strings. -/
inductive Outside : List Char → Prop
  | nil : Outside []
  | char {c : Char} {t : List Char} : c ≠ '"' → Outside t → Outside (c :: t)
  | literal {b t : List Char} : Body b → Outside t → Outside ('"' :: (b ++ '"' :: t))

/-- A text in which each container that is opened is closed. -/
inductive Balanced : List Char → Prop
  | nil : Balanced []
  | char {c : Char} {t : List Char} : Containers.Plain c → Balanced t → Balanced (c :: t)
  | literal {b t : List Char} : Body b → Balanced t → Balanced ('"' :: (b ++ '"' :: t))
  | container {o c : Char} {m t : List Char} : (o, c) ∈ [('{', '}'), ('[', ']')] → Balanced m →
      Balanced t → Balanced (o :: (m ++ c :: t))

/-- The text ends in a string, perhaps after the backslash of an escape. -/
def CutInString (text : List Char) : Prop :=
  ∃ a b, Outside a ∧ Body b ∧ (text = a ++ '"' :: b ∨ text = a ++ '"' :: (b ++ ['\\']))

/-- A closer comes without its opener, or in a container of the other kind. -/
def Mismatched (text : List Char) : Prop :=
  (∃ m c rest, Balanced m ∧ isCloser c = true ∧ text = m ++ c :: rest) ∨
  ∃ a o m c rest, Outside a ∧ Balanced m ∧ (o, c) ∈ [('{', ']'), ('[', '}')] ∧
    text = a ++ o :: (m ++ c :: rest)

namespace Containers

theorem scan_body {b : List Char} (h : Body b) (r S : List Char) :
    (inside S).scan (b ++ r) = (inside S).scan r := by
  induction h with
  | nil => rfl
  | char hq hb _ ih => rw [List.cons_append, scan_of_read (read_char hq hb S), ih]
  | escape _ ih => rw [List.cons_append, List.cons_append, scan_escape, ih]

theorem scan_literal {b : List Char} (h : Body b) (r S : List Char) :
    (outside S).scan ('"' :: (b ++ '"' :: r)) = (outside S).scan r := by
  rw [scan_of_read (read_quote S), scan_body h, scan_of_read (read_end S)]

theorem scan_balanced {m : List Char} (h : Balanced m) :
    ∀ r S, (outside S).scan (m ++ r) = (outside S).scan r := by
  induction h with
  | nil => exact fun _ _ => rfl
  | char hc _ ih =>
    intro r S
    rw [List.cons_append, scan_of_read (read_plain hc S), ih]
  | literal hb _ ih =>
    intro r S
    rw [List.cons_append, List.append_assoc, List.cons_append, scan_literal hb, ih]
  | container hoc _ _ ihm iht =>
    intro r S
    rename_i o c m t _ _
    have hcloser : isCloser c = true := by
      simp only [List.mem_cons, List.not_mem_nil, or_false, Prod.mk.injEq] at hoc
      obtain ⟨-, rfl⟩ | ⟨-, rfl⟩ := hoc <;> decide
    have hread : (outside (c :: S)).read c = some (outside S) := by
      rw [read_closer hcloser]
      exact if_pos rfl
    rw [List.cons_append, scan_of_read (read_open hoc S), List.append_assoc, ihm, List.cons_append,
      scan_of_read hread, iht]

/-- Outside of strings the text is refused, or some containers are open. -/
theorem scan_outside {a : List Char} (h : Outside a) :
    ∀ S, (outside S).scan a = none ∨ ∃ S', (outside S).scan a = some (outside S') := by
  induction h with
  | nil => exact fun S => .inr ⟨S, rfl⟩
  | char hq _ ih =>
    intro S
    rename_i c t _
    by_cases hplain : Plain c
    · rw [scan_of_read (read_plain hplain S)]
      exact ih S
    by_cases hcloser : isCloser c = true
    · rw [scan_cons, read_closer hcloser]
      cases S with
      | nil => exact .inl rfl
      | cons top S =>
        dsimp only
        split
        · exact ih S
        · exact .inl rfl
    · have hopen : c = '{' ∨ c = '[' := by
        simp only [Plain, List.mem_cons, List.not_mem_nil, or_false, not_not] at hplain
        simp only [isCloser, Bool.or_eq_true, beq_iff_eq, not_or] at hcloser
        tauto
      rcases hopen with rfl | rfl
      · rw [scan_of_read (read_open (d := '}') (by decide) S)]
        exact ih _
      · rw [scan_of_read (read_open (d := ']') (by decide) S)]
        exact ih _
  | literal hb _ ih =>
    intro S
    rw [scan_literal hb]
    exact ih S

end Containers

/-! ## The repair -/

open Containers (outside inside)

theorem close_eq (text : List Char) : close_result_containers text =
    ((outside []).scan text).bind fun s =>
      if s.quoted = false ∧ s.stack ≠ [] then
        (loadsValue (text ++ s.stack)).filter fun v => v.dict?.isSome
      else none := by
  unfold close_result_containers Containers.scan outside
  cases text.foldlM Containers.read ⟨[], false, false⟩ with
  | none => rfl
  | some s =>
    show (guard _ >>= _) = Option.bind (some s) _
    rw [Option.bind_some]
    by_cases hopen : s.quoted = false ∧ s.stack ≠ []
    · rw [if_pos hopen]
      simp only [guard, if_pos hopen]
      cases loadsValue (text ++ s.stack) with
      | none => rfl
      | some v =>
        by_cases hdict : v.dict?.isSome = true
        · have hkept : (some v).filter (fun v => v.dict?.isSome) = some v :=
            Option.filter_some_pos hdict
          simp [hdict, hkept]
        · have hdropped : (some v).filter (fun v => v.dict?.isSome) = none :=
            Option.filter_some_neg (by simpa using hdict)
          simp [hdict, hdropped]
    · rw [if_neg hopen]
      simp [guard, hopen]

/-- A text that was cut before its last closers is repaired. -/
theorem close_cut {p q : List Char} {d : Dict} (h : loadsValue (p ++ q) = some (.ofDict d))
    (hq : IsTail q) (hcloser : ∃ c ∈ q, isCloser c = true) :
    close_result_containers p = some (.ofDict d) := by
  obtain ⟨escaped, hscan⟩ := Containers.closers_of_tail (loadsValue_iff.mp h) hq
  have hopen : q.filter isCloser ≠ [] := by
    obtain ⟨c, hc, hcloser⟩ := hcloser
    exact List.ne_nil_of_mem (List.mem_filter.mpr ⟨hc, hcloser⟩)
  have hloads : loadsValue (p ++ q.filter isCloser) = some (.ofDict d) :=
    loadsValue_iff.mpr (Json.loads_squeezed (loadsValue_iff.mp h) ⟨p, q, rfl, rfl, hq⟩)
  rw [close_eq, hscan, Option.bind_some, if_pos ⟨rfl, hopen⟩, hloads]
  rfl

theorem close_dict {text : List Char} {v : Value} (h : close_result_containers text = some v) :
    v.dict?.isSome = true := by
  rw [close_eq] at h
  obtain ⟨s, -, h⟩ := Option.bind_eq_some_iff.mp h
  split at h
  · exact (Option.filter_eq_some_iff.mp h).2
  · cases h

/-- What is returned is the value of the text with closers behind it. -/
theorem close_reads {text : List Char} {v : Value} (h : close_result_containers text = some v) :
    ∃ closers, (∀ c ∈ closers, isCloser c = true) ∧ loadsValue (text ++ closers) = some v := by
  rw [close_eq] at h
  obtain ⟨s, hs, h⟩ := Option.bind_eq_some_iff.mp h
  split at h
  · refine ⟨s.stack, ?_, (Option.filter_eq_some_iff.mp h).1⟩
    exact Containers.stack_closers hs (fun c hc => absurd hc List.not_mem_nil)
  · cases h

theorem close_cut_in_string {text : List Char} (h : CutInString text) :
    close_result_containers text = none := by
  have hquoted : ∀ s, (outside []).scan text = some s → s.quoted = true := by
    intro s hs
    obtain ⟨a, b, ha, hb, htext⟩ := h
    have hstart : ∀ S, (outside S).scan ('"' :: b) = some (inside S) := by
      intro S
      have hbody := Containers.scan_body hb [] S
      rw [List.append_nil] at hbody
      rw [Containers.scan_of_read (Containers.read_quote S), hbody]
      rfl
    rcases Containers.scan_outside ha [] with hnone | ⟨S, hS⟩
    · rcases htext with rfl | rfl <;> rw [Containers.scan_append, hnone] at hs <;> cases hs
    rcases htext with rfl | rfl
    · rw [Containers.scan_append, hS, Option.bind_some, hstart] at hs
      obtain rfl := Option.some.inj hs
      rfl
    · rw [Containers.scan_append, hS, Option.bind_some, ← List.cons_append, Containers.scan_append,
        hstart] at hs
      obtain rfl := Option.some.inj hs
      rfl
  rw [close_eq]
  cases hscan : (outside []).scan text with
  | none => rfl
  | some s =>
    rw [Option.bind_some, if_neg]
    rintro ⟨hnot, -⟩
    rw [hquoted s hscan] at hnot
    cases hnot

theorem close_mismatched {text : List Char} (h : Mismatched text) :
    close_result_containers text = none := by
  have hscan : (outside []).scan text = none := by
    rcases h with ⟨m, c, rest, hm, hc, rfl⟩ | ⟨a, o, m, c, rest, ha, hm, hoc, rfl⟩
    · rw [Containers.scan_balanced hm, Containers.scan_cons, Containers.read_closer hc]
      rfl
    · rw [Containers.scan_append]
      rcases Containers.scan_outside ha [] with hnone | ⟨S, hS⟩
      · rw [hnone]
        rfl
      · rw [hS, Option.bind_some]
        simp only [List.mem_cons, List.not_mem_nil, or_false, Prod.mk.injEq] at hoc
        obtain ⟨rfl, rfl⟩ | ⟨rfl, rfl⟩ := hoc
        · rw [Containers.scan_of_read (Containers.read_open (d := '}') (by decide) S),
            Containers.scan_balanced hm, Containers.scan_cons]
          rfl
        · rw [Containers.scan_of_read (Containers.read_open (d := ']') (by decide) S),
            Containers.scan_balanced hm, Containers.scan_cons]
          rfl
  rw [close_eq, hscan]
  rfl

/-- The repair is exact: each text of an object that was cut before its last closers gives back the
object; a text that is cut in a string or has a mismatched closer is not repaired; and what is returned
is what the text is with closers behind it. -/
theorem close_result_containers_exact (text : List Char) :
    (∀ q d, loadsValue (text ++ q) = some (.ofDict d) → IsTail q → (∃ c ∈ q, isCloser c = true) →
      close_result_containers text = some (.ofDict d)) ∧
    (CutInString text ∨ Mismatched text → close_result_containers text = none) ∧
    ∀ v, close_result_containers text = some v → v.dict?.isSome = true ∧
      ∃ closers, (∀ c ∈ closers, isCloser c = true) ∧ loadsValue (text ++ closers) = some v := by
  refine ⟨fun q d => close_cut, ?_, fun v hv => ⟨close_dict hv, close_reads hv⟩⟩
  rintro (hcut | hmismatched)
  · exact close_cut_in_string hcut
  · exact close_mismatched hmismatched

/-- A text that lacks two closers. -/
theorem close_sample : close_result_containers "\x7b\"a\": [1".toList =
    some (.ofDict (Dict.ofList [("a", .list [.int 1])] (by simp))) := by
  have htail : (" ] \x7d".toList.all fun c => isCloser c || Text.isWhitespace c) = true := by decide
  refine (close_result_containers_exact _).1 " ] \x7d".toList _ (loadsValue_iff.mpr ?_) (fun c hc => ?_) ?_
  · decide +kernel
  · simpa using List.all_eq_true.mp htail c hc
  · exact ⟨']', by decide, rfl⟩

end OpenClawAdapter

end Plachem
