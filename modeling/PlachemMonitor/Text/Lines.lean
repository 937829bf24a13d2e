import Mathlib.Data.List.DropRight

/-!
# Lines of a text

The parts of Python's text handling that a line-based file meets: `open` in text mode,
`str.splitlines(keepends=True)`, `str.rstrip("\r\n")` and `str.strip()`.

`str.splitlines` breaks at more characters than a line feed (`isLineBreak`). So a text that was
written line by line comes back line by line exactly if no line contains one of them
(`splitLines_flatMap`), and `splitLines_break` says what comes back where one does. In any case what was
written as a line is read apart from the other lines (`readLines_flatMap`).
-/

namespace Plachem

namespace Text

/-- A character at which `str.splitlines` ends a line. -/
def isLineBreak (c : Char) : Bool :=
  c == '\n' || c == '\x0b' || c == '\x0c' || c == '\r' || c == '\x1c' || c == '\x1d' ||
    c == '\x1e' || c == '\u0085' || c == '\u2028' || c == '\u2029'

/-- A character of `str.isspace`. -/
def isWhitespace (c : Char) : Bool :=
  (9 ≤ c.toNat && c.toNat ≤ 13) || (28 ≤ c.toNat && c.toNat ≤ 32) || c == '\u0085' ||
    c == '\u00a0' || c == '\u1680' || (0x2000 ≤ c.toNat && c.toNat ≤ 0x200a) ||
    c == '\u2028' || c == '\u2029' || c == '\u202f' || c == '\u205f' || c == '\u3000'

/-- Reading in text mode: `\r\n` and `\r` become `\n`. -/
def universalNewlines : List Char → List Char
  | [] => []
  | '\r' :: '\n' :: cs => '\n' :: universalNewlines cs
  | c :: cs => (if c = '\r' then '\n' else c) :: universalNewlines cs

/-- `str.splitlines(keepends=True)` -/
def splitLines : List Char → List (List Char)
  | [] => []
  | '\r' :: '\n' :: cs => ['\r', '\n'] :: splitLines cs
  | c :: cs =>
    if isLineBreak c then [c] :: splitLines cs
    else
      match splitLines cs with
      | [] => [[c]]
      | l :: ls => (c :: l) :: ls

/-- `line.rstrip("\r\n")` -/
def rstripNewlines (line : List Char) : List Char :=
  line.rdropWhile fun c => c == '\r' || c == '\n'

/-- `not line.strip()` -/
def isBlank (line : List Char) : Bool := line.all isWhitespace

/-- `text.strip()` -/
def strip (text : String) : String :=
  String.ofList ((text.toList.dropWhile isWhitespace).rdropWhile isWhitespace)

/-- `line.endswith(("\n", "\r"))` -/
def endsWithNewline (line : List Char) : Bool :=
  line.getLast?.any fun c => c == '\n' || c == '\r'

theorem universalNewlines_eq_self {cs : List Char} (h : ∀ c ∈ cs, c ≠ '\r') :
    universalNewlines cs = cs := by
  fun_induction universalNewlines cs with
  | case1 => rfl
  | case2 cs ih => exact absurd rfl (h '\r' (by simp))
  | case3 c cs _ ih =>
    rw [ih fun c hc => h c (List.mem_cons_of_mem _ hc), if_neg (h c (by simp))]

theorem splitLines_cons {c : Char} (hc : isLineBreak c = false) (cs : List Char) :
    splitLines (c :: cs) = match splitLines cs with
      | [] => [[c]]
      | l :: ls => (c :: l) :: ls := by
  have hr : c ≠ '\r' := by
    rintro rfl
    simp [isLineBreak] at hc
  rw [splitLines.eq_def]
  split
  · contradiction
  · rename_i heq
    exact absurd (List.cons.inj heq).1 hr
  · rename_i heq
    obtain ⟨rfl, rfl⟩ := List.cons.inj heq
    rw [hc]
    rfl

theorem splitLines_break_cons {b : Char} (hb : isLineBreak b = true) (hr : b ≠ '\r')
    (cs : List Char) : splitLines (b :: cs) = [b] :: splitLines cs := by
  rw [splitLines.eq_def]
  split
  · contradiction
  · rename_i heq
    exact absurd (List.cons.inj heq).1 hr
  · rename_i heq
    obtain ⟨rfl, rfl⟩ := List.cons.inj heq
    rw [if_pos hb]

theorem splitLines_ne_nil {cs : List Char} (h : cs ≠ []) : splitLines cs ≠ [] := by
  rw [splitLines.eq_def]
  split
  · exact absurd rfl h
  · simp
  · split
    · simp
    · split <;> simp

/-- The first line of a text ends at the first line break. -/
theorem splitLines_break {l : List Char} {b : Char} (hl : ∀ c ∈ l, isLineBreak c = false)
    (hb : isLineBreak b = true) (hr : b ≠ '\r') (cs : List Char) :
    splitLines (l ++ b :: cs) = (l ++ [b]) :: splitLines cs := by
  induction l with
  | nil => exact splitLines_break_cons hb hr cs
  | cons c l ih =>
    rw [List.cons_append, splitLines_cons (hl c (by simp)),
      ih fun c hc => hl c (List.mem_cons_of_mem _ hc)]
    rfl

/-- Lines without line breaks come back as they were written. -/
theorem splitLines_flatMap {ls : List (List Char)} (h : ∀ l ∈ ls, ∀ c ∈ l, isLineBreak c = false)
    (cs : List Char) :
    splitLines (ls.flatMap (· ++ ['\n']) ++ cs) = ls.map (· ++ ['\n']) ++ splitLines cs := by
  induction ls with
  | nil => rfl
  | cons l ls ih =>
    have hl := splitLines_break (h l (by simp)) (b := '\n') (by decide) (by decide)
      (ls.flatMap (· ++ ['\n']) ++ cs)
    simp only [List.flatMap_cons, List.append_assoc, List.cons_append, List.nil_append,
      List.map_cons] at hl ⊢
    rw [hl, ih fun l hl => h l (List.mem_cons_of_mem _ hl)]

theorem rstripNewlines_newline {l : List Char} (h : ∀ c ∈ l, isLineBreak c = false) :
    rstripNewlines (l ++ ['\n']) = l := by
  rw [rstripNewlines, List.rdropWhile_concat_pos _ _ _ (by decide)]
  cases l using List.reverseRecOn with
  | nil => rfl
  | append_singleton l c =>
    have hc := h c (by simp)
    rw [List.rdropWhile_concat_neg]
    simp only [Bool.or_eq_true, beq_iff_eq, not_or]
    constructor <;> rintro rfl <;> simp [isLineBreak] at hc

/-- Only a carriage return or a line feed is stripped. -/
theorem rstripNewlines_other {l : List Char} {b : Char} (hn : b ≠ '\n') (hr : b ≠ '\r') :
    rstripNewlines (l ++ [b]) = l ++ [b] := by
  rw [rstripNewlines, List.rdropWhile_concat_neg]
  simp [hn, hr]

/-- The first line break of a text that has one. -/
theorem exists_first_break {cs : List Char} (h : ¬ ∀ c ∈ cs, isLineBreak c = false) :
    ∃ l b r, cs = l ++ b :: r ∧ isLineBreak b = true ∧ ∀ c ∈ l, isLineBreak c = false := by
  induction cs with
  | nil => exact absurd (by simp) h
  | cons c cs ih =>
    by_cases hc : isLineBreak c = true
    · exact ⟨[], c, cs, rfl, hc, by simp⟩
    · rw [Bool.not_eq_true] at hc
      obtain ⟨l, b, r, rfl, hb, hl⟩ := ih fun h' => h (by simpa [hc] using h')
      exact ⟨c :: l, b, r, rfl, hb, by simpa [hc] using hl⟩

/-! ## Whole files -/

/-- A line without its end. -/
def chomp (line : List Char) : List Char :=
  match line.reverse with
  | '\n' :: '\r' :: cs => cs.reverse
  | c :: cs => if isLineBreak c then cs.reverse else line
  | [] => []

/-- `path.read_text().splitlines()` -/
def readLines (text : List Char) : List (List Char) :=
  (splitLines (universalNewlines text)).map chomp

theorem chomp_newline {l : List Char} (h : ∀ c ∈ l, c ≠ '\r') : chomp (l ++ ['\n']) = l := by
  cases l using List.reverseRecOn with
  | nil => rfl
  | append_singleton l c =>
    have hc := h c (by simp)
    simp only [chomp, List.reverse_append, List.reverse_cons, List.reverse_nil, List.nil_append,
      List.singleton_append]
    split
    · rename_i heq
      simp only [List.cons.injEq] at heq
      exact absurd heq.2.1 hc
    · rename_i heq
      obtain ⟨rfl, rfl⟩ := List.cons.inj heq
      simp [isLineBreak]
    · rename_i heq
      cases heq

theorem universalNewlines_cons {c : Char} {cs : List Char} (h : ¬ (c = '\r' ∧ cs.head? = some '\n')) :
    universalNewlines (c :: cs) = (if c = '\r' then '\n' else c) :: universalNewlines cs := by
  rw [universalNewlines.eq_def]
  split
  · contradiction
  · rename_i heq
    obtain ⟨rfl, rfl⟩ := List.cons.inj heq
    exact absurd ⟨rfl, rfl⟩ h
  · rename_i heq
    obtain ⟨rfl, rfl⟩ := List.cons.inj heq
    rfl

/-- A line feed ends what is before it. -/
theorem universalNewlines_newline (xs ys : List Char) : universalNewlines (xs ++ '\n' :: ys) =
    universalNewlines (xs ++ ['\n']) ++ universalNewlines ys := by
  fun_induction universalNewlines xs with
  | case1 => simp [universalNewlines_cons]; rfl
  | case2 cs ih => simp only [List.cons_append, universalNewlines, ih]
  | case3 c cs hpair ih =>
    by_cases hc : c = '\r' ∧ cs = []
    · obtain ⟨rfl, rfl⟩ := hc
      rfl
    · have hne : ∀ zs, ¬ (c = '\r' ∧ (cs ++ '\n' :: zs).head? = some '\n') := by
        rintro zs ⟨rfl, hhead⟩
        cases cs with
        | nil => exact hc ⟨rfl, rfl⟩
        | cons d ds =>
          obtain rfl : d = '\n' := by simpa using hhead
          exact hpair ds rfl rfl
      rw [List.cons_append, List.cons_append, universalNewlines_cons (hne ys),
        universalNewlines_cons (hne []), ih]
      rfl

theorem universalNewlines_ne (xs : List Char) : ∀ c ∈ universalNewlines xs, c ≠ '\r' := by
  fun_induction universalNewlines xs with
  | case1 => simp
  | case2 cs ih => simpa using ih
  | case3 c cs _ ih =>
    intro d hd
    rcases List.mem_cons.mp hd with rfl | hd
    · split
      · decide
      · assumption
    · exact ih d hd

/-- What ends in a line feed still does. -/
theorem universalNewlines_concat (xs : List Char) :
    ∃ zs, universalNewlines (xs ++ ['\n']) = zs ++ ['\n'] := by
  fun_induction universalNewlines xs with
  | case1 => exact ⟨[], rfl⟩
  | case2 cs ih =>
    obtain ⟨zs, hzs⟩ := ih
    exact ⟨'\n' :: zs, by rw [List.cons_append, List.cons_append, universalNewlines, hzs]; rfl⟩
  | case3 c cs hpair ih =>
    obtain ⟨zs, hzs⟩ := ih
    by_cases hc : c = '\r' ∧ cs = []
    · obtain ⟨rfl, rfl⟩ := hc
      exact ⟨[], rfl⟩
    · refine ⟨(if c = '\r' then '\n' else c) :: zs, ?_⟩
      rw [List.cons_append, universalNewlines_cons, hzs]
      · rfl
      · rintro ⟨rfl, hhead⟩
        cases cs with
        | nil => exact hc ⟨rfl, rfl⟩
        | cons d ds =>
          obtain rfl : d = '\n' := by simpa using hhead
          exact hpair ds rfl rfl

theorem splitLines_newline {xs : List Char} (h : ∀ c ∈ xs, c ≠ '\r') (ys : List Char) :
    splitLines (xs ++ '\n' :: ys) = splitLines (xs ++ ['\n']) ++ splitLines ys := by
  induction xs with
  | nil =>
    rw [List.nil_append, splitLines_break_cons (by decide) (by decide)]
    rfl
  | cons c cs ih =>
    have ih := ih fun c hc => h c (List.mem_cons_of_mem _ hc)
    rw [List.cons_append, List.cons_append]
    by_cases hc : isLineBreak c = true
    · rw [splitLines_break_cons hc (h c (by simp)), splitLines_break_cons hc (h c (by simp)), ih]
      rfl
    · rw [Bool.not_eq_true] at hc
      rw [splitLines_cons hc, splitLines_cons hc, ih]
      cases hsplit : splitLines (cs ++ ['\n']) with
      | nil => exact absurd hsplit (splitLines_ne_nil (by simp))
      | cons l ls => rfl

/-- What was written as lines is read one after the other. -/
theorem readLines_newline (xs ys : List Char) :
    readLines (xs ++ '\n' :: ys) = readLines (xs ++ ['\n']) ++ readLines ys := by
  obtain ⟨zs, hzs⟩ := universalNewlines_concat xs
  have hne := universalNewlines_ne (xs ++ ['\n'])
  rw [hzs] at hne
  rw [readLines, universalNewlines_newline, hzs, List.append_assoc, List.singleton_append,
    splitLines_newline fun c hc => hne c (List.mem_append_left _ hc), List.map_append, readLines,
    readLines, hzs]

theorem readLines_flatMap (ls : List (List Char)) :
    readLines (ls.flatMap (· ++ ['\n'])) = ls.flatMap fun l => readLines (l ++ ['\n']) := by
  induction ls with
  | nil => rfl
  | cons l ls ih =>
    rw [List.flatMap_cons, List.append_assoc, List.singleton_append, readLines_newline, ih,
      List.flatMap_cons]

/-- A line without line breaks is read as it was written. -/
theorem readLines_whole {l : List Char} (h : ∀ c ∈ l, isLineBreak c = false) :
    readLines (l ++ ['\n']) = [l] := by
  have hne : ∀ c ∈ l, c ≠ '\r' := by
    rintro c hc rfl
    simpa [isLineBreak] using h _ hc
  have hlf : ∀ c ∈ l ++ ['\n'], c ≠ '\r' := by
    intro c hc
    rcases List.mem_append.mp hc with hc | hc
    · exact hne c hc
    · obtain rfl := List.mem_singleton.mp hc
      decide
  rw [readLines, universalNewlines_eq_self hlf, splitLines_break h (by decide) (by decide)]
  simp [splitLines, chomp_newline hne]

end Text

end Plachem
