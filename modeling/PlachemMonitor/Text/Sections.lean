import PlachemMonitor.Text.Lines
import PlachemMonitor.Text.Partition

/-!
# Documents of sections

* `document`: sections, each below a line that is its heading and before an empty line. `below` finds a heading
  by its text, `paragraph` reads as far as the next empty line.
* `below_document`: no line above has the heading at its end, so the section is found where it was written.
* `universalNewlines_document`: reading in text mode reads each value on its own (`value_read`).
-/

namespace Plachem

namespace Text

/-- The text as far as the first empty line. -/
def paragraph (text : List Char) : List Char := ((cut ['\n', '\n'] text).map Prod.fst).getD text

/-- What follows on the first line that ends with the heading. -/
def below (heading text : List Char) : Option (List Char) := (cut (heading ++ ['\n']) text).map Prod.snd

/-- Headings and values. -/
def document (sections : List (List Char × List Char)) : List Char :=
  sections.flatMap fun s => s.1 ++ '\n' :: (s.2 ++ ['\n', '\n'])

theorem document_cons (s : List Char × List Char) (sections : List (List Char × List Char)) (more : List Char) :
    document (s :: sections) ++ more = s.1 ++ '\n' :: (s.2 ++ ['\n', '\n'] ++ (document sections ++ more)) := by
  simp [document]

variable {sep text before after : List Char}

theorem cut_append_right (h : cut sep text = some (before, after)) (more : List Char) :
    cut sep (text ++ more) = some (before, after ++ more) := by
  induction text generalizing before with
  | nil =>
    rw [cut] at h
    split at h
    · rename_i hsep
      cases h
      rw [hsep]
      exact cut_at_start List.nil_prefix
    · cases h
  | cons c cs ih =>
    by_cases hpre : sep <+: c :: cs
    · rw [cut_at_start hpre] at h
      cases h
      obtain ⟨r, hr⟩ := hpre
      rw [← hr, List.append_assoc, cut_append, List.drop_left]
    · rw [cut_cons hpre] at h
      obtain ⟨⟨a, d⟩, hp, heq⟩ := Option.map_eq_some_iff.mp h
      cases heq
      have hlength : sep.length ≤ (c :: cs).length := by
        have htext := congrArg List.length (cut_eq_some hp)
        simp only [List.length_append] at htext
        simp only [List.length_cons]
        omega
      have hpre' : ¬ sep <+: c :: (cs ++ more) := fun hpre' =>
        hpre (List.prefix_of_prefix_length_le hpre' (List.prefix_append (c :: cs) more) hlength)
      rw [List.cons_append, cut_cons hpre', ih hp]
      rfl

/-- An empty line ends the paragraph, whatever comes after it. -/
theorem paragraph_append (value more : List Char) :
    paragraph (value ++ ['\n', '\n'] ++ more) = paragraph (value ++ ['\n', '\n']) := by
  have hsome : (cut ['\n', '\n'] (value ++ ['\n', '\n'])).isSome = true :=
    cut_isSome_iff.mpr (List.suffix_append value _).isInfix
  obtain ⟨p, hp⟩ := Option.isSome_iff_exists.mp hsome
  rw [paragraph, paragraph, cut_append_right hp, hp]
  rfl

/-! ## Headings -/

variable {heading line value : List Char}

theorem prefix_line (line : List Char) (hm : '\n' ∉ heading) (h : heading ++ ['\n'] <+: line ++ '\n' :: text) :
    heading ++ ['\n'] <+: line ++ ['\n'] := by
  induction heading generalizing line with
  | nil =>
    cases line with
    | nil => exact List.prefix_rfl
    | cons c cs =>
      obtain ⟨rfl, -⟩ := List.cons_prefix_cons.mp h
      exact List.cons_prefix_cons.mpr ⟨rfl, List.nil_prefix⟩
  | cons c cs ih =>
    obtain ⟨hc, hcs⟩ := not_or.mp (List.mem_cons.not.mp hm)
    cases line with
    | nil => exact absurd (List.cons_prefix_cons.mp h).1.symm hc
    | cons d ds =>
      obtain ⟨rfl, hrest⟩ := List.cons_prefix_cons.mp h
      exact List.cons_prefix_cons.mpr ⟨rfl, ih ds hcs hrest⟩

/-- Lines without the heading at the end of one of them are passed over. -/
theorem below_skip (hm : '\n' ∉ heading) (h : ¬ heading ++ ['\n'] <:+: line ++ ['\n']) (text : List Char) :
    below heading (line ++ '\n' :: text) = below heading text := by
  induction line with
  | nil =>
    have hpre : ¬ heading ++ ['\n'] <+: '\n' :: text := fun hpre =>
      h (prefix_line [] hm hpre).isInfix
    rw [List.nil_append, below, cut_cons hpre, Option.map_map]
    rfl
  | cons c cs ih =>
    have hpre : ¬ heading ++ ['\n'] <+: c :: (cs ++ '\n' :: text) := fun hpre =>
      h (prefix_line (c :: cs) hm hpre).isInfix
    have hcs : ¬ heading ++ ['\n'] <:+: cs ++ ['\n'] := fun hcs => h (List.infix_cons hcs)
    rw [List.cons_append, below, cut_cons hpre, Option.map_map, ← ih hcs]
    rfl

theorem below_here (heading text : List Char) : below heading (heading ++ '\n' :: text) = some text := by
  have happend : heading ++ '\n' :: text = (heading ++ ['\n']) ++ text := by simp
  rw [below, happend, cut_append]
  rfl

/-- No line of the sections has the heading at its end. -/
def Passed (heading : List Char) (sections : List (List Char × List Char)) : Prop :=
  ∀ s ∈ sections, ¬ heading ++ ['\n'] <:+: s.1 ++ ['\n'] ∧ ¬ heading ++ ['\n'] <:+: s.2 ++ ['\n']

theorem below_document (hm : '\n' ∉ heading) (hne : heading ≠ []) {above : List (List Char × List Char)}
    (h : Passed heading above) (rest : List (List Char × List Char)) (tail : List Char) :
    below heading (document (above ++ (heading, value) :: rest) ++ tail) =
      some (value ++ ['\n', '\n'] ++ (document rest ++ tail)) := by
  induction above with
  | nil =>
    rw [List.nil_append, document_cons, below_here]
  | cons s above ih =>
    obtain ⟨hhead, hvalue⟩ := h s List.mem_cons_self
    have hempty : ¬ heading ++ ['\n'] <:+: [] ++ ['\n'] := by
      intro hinfix
      have hlength := hinfix.length_le
      have hpos := List.length_pos_of_ne_nil hne
      simp only [List.length_append, List.length_cons, List.length_nil] at hlength
      omega
    have hdocument : document (s :: above ++ (heading, value) :: rest) ++ tail = s.1 ++ '\n' ::
        (s.2 ++ '\n' :: ([] ++ '\n' :: (document (above ++ (heading, value) :: rest) ++ tail))) := by
      rw [List.cons_append, document_cons]
      simp
    rw [hdocument, below_skip hm hhead, below_skip hm hvalue, below_skip hm hempty,
      ih fun t ht => h t (List.mem_cons_of_mem _ ht)]

/-! ## Reading in text mode -/

/-- A value as it is read, up to the line feed behind it. -/
def value_read (value : List Char) : List Char := (universalNewlines (value ++ ['\n'])).dropLast

theorem universalNewlines_value (value : List Char) :
    universalNewlines (value ++ ['\n']) = value_read value ++ ['\n'] := by
  obtain ⟨zs, hzs⟩ := universalNewlines_concat value
  rw [value_read, hzs, List.dropLast_concat]

theorem universalNewlines_section (hhead : ∀ c ∈ heading, c ≠ '\r') (value more : List Char) :
    universalNewlines (heading ++ '\n' :: (value ++ ['\n', '\n'] ++ more)) =
      heading ++ '\n' :: (value_read value ++ ['\n', '\n'] ++ universalNewlines more) := by
  have hplain : ∀ c ∈ heading ++ ['\n'], c ≠ '\r' := by
    intro c hc
    rcases List.mem_append.mp hc with hc | hc
    · exact hhead c hc
    · rw [List.mem_singleton.mp hc]
      decide
  have hmore : value ++ ['\n', '\n'] ++ more = value ++ '\n' :: ([] ++ '\n' :: more) := by simp
  rw [universalNewlines_newline, universalNewlines_eq_self hplain, hmore, universalNewlines_newline,
    universalNewlines_value, universalNewlines_newline]
  simp [universalNewlines_eq_self]

theorem universalNewlines_document {sections : List (List Char × List Char)}
    (h : ∀ s ∈ sections, ∀ c ∈ s.1, c ≠ '\r') (tail : List Char) :
    universalNewlines (document sections ++ tail) =
      document (sections.map fun s => (s.1, value_read s.2)) ++ universalNewlines tail := by
  induction sections with
  | nil => rfl
  | cons s sections ih =>
    rw [document_cons, universalNewlines_section (h s List.mem_cons_self), ih fun t ht =>
      h t (List.mem_cons_of_mem _ ht), List.map_cons, document_cons]

end Text

end Plachem
