import Mathlib.Data.List.Forall2
import PlachemMonitor.Text.Regex

/-!
# Patterns in joined texts

Texts that are joined by line feeds, and a pattern that is searched, or replaced, in all of them at once.

* `inside_ends`: before a line feed, a pattern matches as it does at the end of the text, as long as its
  match does not reach behind it.
* `found_joined`: so what is found in one of the texts is found in all of them.
* `sub_joined`: if no match lies over a border, the texts are replaced one by one (`Apart`).
-/

namespace Plachem

namespace Regex

/-! ## Matches before a border -/

/-- The same place in a text that goes on. -/
structure Extends (letter : Char → Bool) (tail : List Char) (s s' : Place) : Prop where
  rest : s.rest = s'.rest ++ tail
  before : s.before.any (isWord letter) = s'.before.any (isWord letter)

/-- A place that is not behind the border. -/
def inside (tail : List Char) (e : Place) : Bool := decide (tail.length ≤ e.rest.length)

variable {letter : Char → Bool} {tail : List Char} {step : Place → List Place} {s s' e : Place}

theorem inside_of_extends (h : Extends letter tail s s') : inside tail s = true := by
  simp [inside, h.rest]

theorem iterate_length (hstep : ∀ s, ∀ e ∈ step s, e.rest.length ≤ s.rest.length) {n : ℕ}
    (h : e ∈ iterate step n s) : e.rest.length ≤ s.rest.length := by
  induction n generalizing s with
  | zero => rw [List.mem_singleton.mp h]
  | succ n ih =>
    rw [iterate, List.mem_append, List.mem_flatMap] at h
    rcases h with ⟨m, hm, he⟩ | h
    · exact (ih he).trans (hstep s m (List.mem_filter.mp hm).1)
    · rw [List.mem_singleton.mp h]

/-- A match goes forward. -/
theorem ends_length (r : Reg) : ∀ s, ∀ e ∈ ends letter r s, e.rest.length ≤ s.rest.length := by
  induction r with
  | empty =>
    intro s e h
    rw [List.mem_singleton.mp h]
  | char p =>
    intro s e h
    rw [ends] at h
    split at h
    · cases h
    · rename_i c cs hrest
      split at h
      · rw [List.mem_singleton.mp h, hrest]
        exact Nat.le_succ _
      · cases h
  | seq a b iha ihb =>
    intro s e h
    obtain ⟨m, hm, he⟩ := List.mem_flatMap.mp h
    exact (ihb m e he).trans (iha s m hm)
  | alt a b iha ihb =>
    intro s e h
    exact (List.mem_append.mp h).elim (iha s e) (ihb s e)
  | star a ih =>
    intro s e h
    exact iterate_length ih h
  | boundary =>
    intro s e h
    rw [ends] at h
    split at h
    · rw [List.mem_singleton.mp h]
    · cases h

/-- There are not more steps than characters. -/
theorem iterate_fuel {n m : ℕ} (hn : s.rest.length ≤ n) (hm : s.rest.length ≤ m) :
    iterate step n s = iterate step m s := by
  induction n generalizing m s with
  | zero =>
    cases m with
    | zero => rfl
    | succ m =>
      have hnone : ((step s).filter fun e => decide (e.rest.length < s.rest.length)) = [] := by
        rw [Nat.le_zero.mp hn]
        simp
      rw [iterate, iterate, hnone]
      rfl
  | succ n ih =>
    cases m with
    | zero =>
      have hnone : ((step s).filter fun e => decide (e.rest.length < s.rest.length)) = [] := by
        rw [Nat.le_zero.mp hm]
        simp
      rw [iterate, iterate, hnone]
      rfl
    | succ m =>
      rw [iterate, iterate]
      congr 1
      refine List.flatMap_congr fun e he => ?_
      have hshorter : e.rest.length < s.rest.length := by simpa using (List.mem_filter.mp he).2
      exact ih (by omega) (by omega)

/-- Steps from behind the border stay behind it. -/
theorem inside_flatMap {f g : Place → List Place} {l l' : List Place}
    (hout : ∀ e ∈ l, inside tail e = false → ∀ e' ∈ f e, inside tail e' = false)
    (h : List.Forall₂ (Extends letter tail) (l.filter (inside tail)) l')
    (hfg : ∀ e e', Extends letter tail e e' →
      List.Forall₂ (Extends letter tail) ((f e).filter (inside tail)) (g e')) :
    List.Forall₂ (Extends letter tail) ((l.flatMap f).filter (inside tail)) (l'.flatMap g) := by
  have hflat : (l.flatMap f).filter (inside tail) =
      (l.filter (inside tail)).flatMap fun e => (f e).filter (inside tail) := by
    clear h
    induction l with
    | nil => rfl
    | cons e l ih =>
      rw [List.flatMap_cons, List.filter_append, ih fun e' he' => hout e' (List.mem_cons_of_mem _ he')]
      cases he : inside tail e with
      | true => rw [List.filter_cons_of_pos he, List.flatMap_cons]
      | false =>
        have hnone : (f e).filter (inside tail) = [] := by
          rw [List.filter_eq_nil_iff]
          intro e' he'
          rw [hout e List.mem_cons_self he e' he']
          exact Bool.false_ne_true
        rw [List.filter_cons_of_neg (by simp [he]), hnone, List.nil_append]
  rw [hflat]
  exact List.rel_flatMap h hfg

theorem outside_of_length (h : e.rest.length ≤ s.rest.length) (hs : inside tail s = false) :
    inside tail e = false := by
  simp only [inside, decide_eq_false_iff_not] at hs ⊢
  omega

theorem inside_iterate (hstep : ∀ s, ∀ e ∈ step s, e.rest.length ≤ s.rest.length)
    (h : ∀ s s', Extends letter tail s s' →
      List.Forall₂ (Extends letter tail) ((step s).filter (inside tail)) (step s')) (n : ℕ)
    (hs : Extends letter tail s s') :
    List.Forall₂ (Extends letter tail) ((iterate step n s).filter (inside tail)) (iterate step n s') := by
  induction n generalizing s s' with
  | zero =>
    rw [iterate, iterate, List.filter_cons_of_pos (inside_of_extends hs)]
    exact .cons hs .nil
  | succ n ih =>
    have hlast : List.Forall₂ (Extends letter tail) ([s].filter (inside tail)) [s'] := by
      rw [List.filter_cons_of_pos (inside_of_extends hs)]
      exact .cons hs .nil
    have hshorter : List.Forall₂ (Extends letter tail)
        (((step s).filter fun e => decide (e.rest.length < s.rest.length)).filter (inside tail))
        ((step s').filter fun e => decide (e.rest.length < s'.rest.length)) := by
      rw [List.filter_comm]
      refine List.rel_filter (fun e e' he => ?_) (h s s' hs)
      simp [he.rest, hs.rest]
    rw [iterate, iterate, List.filter_append]
    refine List.rel_append (inside_flatMap (fun e he hout e' he' => ?_) hshorter fun e e' he => ih he) hlast
    exact outside_of_length (iterate_length hstep he') hout

/-- Before the border, the matches are those at the end of the text. -/
theorem inside_ends (htail : tail.head?.any (isWord letter) = false) (r : Reg) : ∀ s s', Extends letter tail s s' →
    List.Forall₂ (Extends letter tail) ((ends letter r s).filter (inside tail)) (ends letter r s') := by
  induction r with
  | empty =>
    intro s s' hs
    rw [ends, ends, List.filter_cons_of_pos (inside_of_extends hs)]
    exact .cons hs .nil
  | char p =>
    intro s s' hs
    cases hrest' : s'.rest with
    | nil =>
      have hnone : (ends letter (.char p) s).filter (inside tail) = [] := by
        rw [List.filter_eq_nil_iff]
        intro e he hin
        rw [ends, hs.rest, hrest', List.nil_append] at he
        split at he
        · cases he
        · rename_i c cs htail
          split at he
          · rw [List.mem_singleton.mp he] at hin
            simp only [inside, List.length_cons, decide_eq_true_iff] at hin
            omega
          · cases he
      rw [hnone, ends, hrest']
      exact .nil
    | cons c cs =>
      have hrest := hs.rest
      rw [hrest', List.cons_append] at hrest
      simp only [ends, hrest, hrest']
      by_cases hc : p c = true
      · have hnext : Extends letter tail ⟨some c, cs ++ tail⟩ ⟨some c, cs⟩ := ⟨rfl, rfl⟩
        rw [if_pos hc, if_pos hc, List.filter_cons_of_pos (inside_of_extends hnext)]
        exact .cons hnext .nil
      · rw [if_neg hc, if_neg hc]
        exact .nil
  | seq a b iha ihb =>
    intro s s' hs
    exact inside_flatMap (fun e _ hout e' he' => outside_of_length (ends_length b e e' he') hout) (iha s s' hs) ihb
  | alt a b iha ihb =>
    intro s s' hs
    rw [ends, ends, List.filter_append]
    exact List.rel_append (iha s s' hs) (ihb s s' hs)
  | star a ih =>
    intro s s' hs
    have hlength : s'.rest.length ≤ s.rest.length := by simp [hs.rest]
    rw [ends, ends, iterate_fuel (le_refl s'.rest.length) hlength]
    exact inside_iterate (ends_length a) ih _ hs
  | boundary =>
    intro s s' hs
    have hhead : s.rest.head?.any (isWord letter) = s'.rest.head?.any (isWord letter) := by
      rw [hs.rest]
      cases s'.rest with
      | nil => exact htail
      | cons c cs => rfl
    have hboundary : atBoundary letter s = atBoundary letter s' := by
      rw [atBoundary, atBoundary, hs.before, hhead]
    rw [ends, ends, hboundary]
    split
    · rw [List.filter_cons_of_pos (inside_of_extends hs)]
      exact .cons hs .nil
    · exact .nil

/-! ## Searching -/

variable {r : Reg} {before before' : Option Char} {text line rep : List Char}

theorem ends_nonempty (htail : tail.head?.any (isWord letter) = false) (hs : Extends letter tail s s')
    (h : (!(ends letter r s').isEmpty) = true) : (!(ends letter r s).isEmpty) = true := by
  have hinside := inside_ends htail r s s' hs
  cases hends : ends letter r s with
  | nil =>
    rw [hends, List.filter_nil, List.forall₂_nil_left_iff] at hinside
    rw [hinside] at h
    cases h
  | cons e es => rfl

theorem foundFrom_append (htail : tail.head?.any (isWord letter) = false)
    (hbefore : before.any (isWord letter) = before'.any (isWord letter))
    (h : foundFrom letter r before' text = true) : foundFrom letter r before (text ++ tail) = true := by
  induction text generalizing before before' with
  | nil =>
    have hends := ends_nonempty (s := ⟨before, tail⟩) htail ⟨rfl, hbefore⟩ h
    cases tail with
    | nil => exact hends
    | cons c cs =>
      rw [List.nil_append, foundFrom, hends]
      rfl
  | cons c cs ih =>
    rw [foundFrom, Bool.or_eq_true] at h
    rw [List.cons_append, foundFrom, Bool.or_eq_true]
    exact h.imp (ends_nonempty htail ⟨rfl, hbefore⟩) (ih rfl)

theorem foundFrom_behind (h : foundFrom letter r (some '\n') text = true) (before : Option Char) (line : List Char) :
    foundFrom letter r before (line ++ '\n' :: text) = true := by
  induction line generalizing before with
  | nil => rw [List.nil_append, foundFrom, h, Bool.or_true]
  | cons c cs ih => rw [List.cons_append, foundFrom, ih (some c), Bool.or_true]

/-! ## Texts, one after the other -/

/-- `"\n".join(texts)` -/
def joined : List (List Char) → List Char
  | [] => []
  | [text] => text
  | text :: texts => text ++ '\n' :: joined texts

theorem newline_no_word : isWord letter '\n' = false := rfl

/-- What is found in one of the texts is found in all of them. -/
theorem foundFrom_joined (hbefore : before.any (isWord letter) = false) {texts : List (List Char)}
    (h : ∃ text ∈ texts, found letter r text = true) : foundFrom letter r before (joined texts) = true := by
  induction texts generalizing before with
  | nil =>
    obtain ⟨text, hmem, -⟩ := h
    cases hmem
  | cons first texts ih =>
    obtain ⟨text, hmem, hfound⟩ := h
    have hnone : before.any (isWord letter) = (none : Option Char).any (isWord letter) := hbefore
    have hfirst : ∀ more, more.head?.any (isWord letter) = false → text = first →
        foundFrom letter r before (first ++ more) = true := by
      rintro more hmore rfl
      exact foundFrom_append hmore hnone hfound
    cases texts with
    | nil =>
      rw [joined]
      have heq := List.mem_singleton.mp hmem
      rw [← List.append_nil first]
      exact hfirst [] rfl heq
    | cons second texts =>
      rw [joined]
      rcases List.mem_cons.mp hmem with heq | hmem
      · exact hfirst _ newline_no_word heq
      · exact foundFrom_behind (ih newline_no_word ⟨text, hmem, hfound⟩) before first
      · simp

theorem found_joined {texts : List (List Char)} (h : ∃ text ∈ texts, found letter r text = true) :
    found letter r (joined texts) = true :=
  foundFrom_joined rfl h

/-! ## Replacing -/

/-- The matches that are replaced in the text, from here on, end before what follows on it. -/
def within (letter : Char → Bool) (r : Reg) (tail : List Char) : ℕ → Option Char → List Char → Bool
  | skip, _, [] => skip == 0
  | skip + 1, _, c :: cs => within letter r tail skip (some c) cs
  | 0, before, c :: cs =>
    match matched letter r ⟨before, c :: cs ++ tail⟩ with
    | 0 => within letter r tail 0 (some c) cs
    | n + 1 => within letter r tail n (some c) cs

/-- No match that is replaced in the joined texts lies over a border of them. -/
def apart (letter : Char → Bool) (r : Reg) : Option Char → List (List Char) → Bool
  | _, [] => true
  | _, [_] => true
  | before, text :: texts =>
    within letter r ('\n' :: joined texts) 0 before text &&
      (matched letter r ⟨(text.getLast?).or before, '\n' :: joined texts⟩ == 0) && apart letter r (some '\n') texts

theorem within_length {skip : ℕ} (h : within letter r tail skip before text = true) : skip ≤ text.length := by
  induction text generalizing skip before with
  | nil => exact Nat.le_of_eq (beq_iff_eq.mp (by simpa [within] using h))
  | cons c cs ih =>
    cases skip with
    | zero => exact Nat.zero_le _
    | succ skip =>
      rw [within] at h
      exact Nat.succ_le_succ (ih h)

/-- A match that ends before the border is the match at the end of the text. -/
theorem matched_within (htail : tail.head?.any (isWord letter) = false) (hs : Extends letter tail s s')
    (h : matched letter r s ≤ s'.rest.length) : matched letter r s' = matched letter r s := by
  have hinside := inside_ends htail r s s' hs
  cases hends : ends letter r s with
  | nil =>
    rw [hends, List.filter_nil, List.forall₂_nil_left_iff] at hinside
    rw [matched, matched, hends, hinside]
  | cons e es =>
    have hlength := ends_length r s e (by rw [hends]; exact List.mem_cons_self)
    have hrest : s.rest.length = s'.rest.length + tail.length := by simp [hs.rest]
    simp only [matched, hends] at h
    have hin : inside tail e = true := by
      rw [inside, decide_eq_true_iff]
      omega
    rw [hends, List.filter_cons_of_pos hin, List.forall₂_cons_left_iff] at hinside
    obtain ⟨e', es', he, -, heq⟩ := hinside
    have herest : e.rest.length = e'.rest.length + tail.length := by simp [he.rest]
    simp only [matched, hends, heq]
    omega

theorem within_nil (letter : Char → Bool) (r : Reg) {skip : ℕ} (before : Option Char) {text : List Char}
    (h : skip ≤ text.length) : within letter r [] skip before text = true := by
  induction text generalizing skip before with
  | nil => simpa [within] using h
  | cons c cs ih =>
    cases skip with
    | succ skip =>
      rw [within]
      exact ih (some c) (Nat.le_of_succ_le_succ h)
    | zero =>
      have hlength : matched letter r ⟨before, c :: cs ++ []⟩ ≤ cs.length + 1 := by
        rw [matched]
        split
        · exact Nat.zero_le _
        · rw [List.append_nil]
          exact Nat.sub_le _ _
      rw [within]
      split
      · exact ih (some c) (Nat.zero_le _)
      · rename_i n hmatched
        rw [hmatched] at hlength
        exact ih (some c) (Nat.le_of_succ_le_succ hlength)

/-- Up to the border, the text is replaced as it is on its own. -/
theorem subFrom_append (htail : tail.head?.any (isWord letter) = false) {skip : ℕ}
    (hbefore : before.any (isWord letter) = before'.any (isWord letter))
    (h : within letter r tail skip before text = true) :
    subFrom letter r rep skip before (text ++ tail) =
      subFrom letter r rep skip before' text ++ subFrom letter r rep 0 (text.getLast?.or before) tail := by
  induction text generalizing skip before before' with
  | nil =>
    have hskip : skip = 0 := by simpa [within] using h
    rw [hskip]
    rfl
  | cons c cs ih =>
    have hlast : (c :: cs).getLast?.or before = cs.getLast?.or (some c) := by
      rw [List.getLast?_cons]
      cases cs.getLast? <;> rfl
    rw [hlast, List.cons_append]
    cases skip with
    | succ skip =>
      rw [within] at h
      rw [subFrom, subFrom]
      exact ih rfl h
    | zero =>
      rw [within] at h
      have hplace : Extends letter tail ⟨before, c :: cs ++ tail⟩ ⟨before', c :: cs⟩ := ⟨rfl, hbefore⟩
      split at h
      · rename_i hmatched
        have hmatched' := matched_within htail hplace (by rw [hmatched]; exact Nat.zero_le _)
        rw [hmatched] at hmatched'
        rw [List.cons_append] at hmatched
        simp only [subFrom, hmatched, hmatched']
        rw [ih rfl h, List.cons_append]
      · rename_i n hmatched
        have hmatched' := matched_within htail hplace (by rw [hmatched]; exact Nat.succ_le_succ (within_length h))
        rw [hmatched] at hmatched'
        rw [List.cons_append] at hmatched
        simp only [subFrom, hmatched, hmatched']
        rw [ih rfl h, List.append_assoc]

theorem subFrom_alone (hbefore : before.any (isWord letter) = false) (text : List Char) :
    subFrom letter r rep 0 before text = sub letter r rep text := by
  have hnone : before.any (isWord letter) = (none : Option Char).any (isWord letter) := hbefore
  have happend : subFrom letter r rep 0 before (text ++ []) = subFrom letter r rep 0 none text ++ _ :=
    subFrom_append rfl hnone (within_nil letter r before (Nat.zero_le text.length))
  simpa [subFrom, sub] using happend

/-- Apart, the texts are replaced one by one. -/
theorem subFrom_joined (hbefore : before.any (isWord letter) = false) {texts : List (List Char)}
    (h : apart letter r before texts = true) :
    subFrom letter r rep 0 before (joined texts) = joined (texts.map (sub letter r rep)) := by
  induction texts generalizing before with
  | nil => rfl
  | cons text texts ih =>
    cases texts with
    | nil => exact subFrom_alone hbefore text
    | cons second texts =>
      have hnone : before.any (isWord letter) = (none : Option Char).any (isWord letter) := hbefore
      simp only [apart, Bool.and_eq_true, beq_iff_eq] at h
      obtain ⟨⟨hwithin, hborder⟩, hrest⟩ := h
      have hnext : joined (text :: second :: texts) = text ++ '\n' :: joined (second :: texts) := rfl
      have hstep : subFrom letter r rep 0 (text.getLast?.or before) ('\n' :: joined (second :: texts)) =
          '\n' :: subFrom letter r rep 0 (some '\n') (joined (second :: texts)) := by
        simp only [subFrom, hborder]
      have htail : ('\n' :: joined (second :: texts)).head?.any (isWord letter) = false := newline_no_word
      have hline : (some '\n').any (isWord letter) = false := newline_no_word
      rw [hnext, subFrom_append htail hnone hwithin, hstep, ih hline hrest]
      rfl

theorem sub_joined {texts : List (List Char)} (h : apart letter r none texts = true) :
    sub letter r rep (joined texts) = joined (texts.map (sub letter r rep)) :=
  subFrom_joined rfl h

end Regex

end Plachem
