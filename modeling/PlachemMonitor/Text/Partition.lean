import Mathlib.Data.List.Infix

/-!
# Parting a text

* `cut`: what a text has before and after the first occurrence of a separator (`str.partition`). It is there
  just if the separator is a part of the text (`cut_isSome_iff`).
* A separator that begins with a line break is found behind a line (`cut_line`), and no line that ends
  otherwise hides it (`cut_skip`).
-/

namespace Plachem

namespace Text

/-- `text.partition(sep)`, for a separator that is in the text. -/
def cut (sep : List Char) : List Char → Option (List Char × List Char)
  | [] => if sep = [] then some ([], []) else none
  | c :: cs =>
    if sep <+: c :: cs then some ([], (c :: cs).drop sep.length)
    else (cut sep cs).map fun p => (c :: p.1, p.2)

variable {sep text before after : List Char} {b : Char}

theorem cut_at_start (h : sep <+: text) : cut sep text = some ([], text.drop sep.length) := by
  cases text with
  | nil =>
    rw [List.prefix_nil.mp h]
    rfl
  | cons c cs => rw [cut, if_pos h]

theorem cut_append (sep after : List Char) : cut sep (sep ++ after) = some ([], after) := by
  rw [cut_at_start (List.prefix_append _ _), List.drop_left]

theorem cut_cons {c : Char} (h : ¬ sep <+: c :: text) :
    cut sep (c :: text) = (cut sep text).map fun p => (c :: p.1, p.2) := by
  rw [cut, if_neg h]

theorem cut_eq_some (h : cut sep text = some (before, after)) : text = before ++ sep ++ after := by
  induction text generalizing before with
  | nil =>
    rw [cut] at h
    split at h
    · rename_i hsep
      cases h
      rw [hsep]
      rfl
    · cases h
  | cons c cs ih =>
    rw [cut] at h
    split at h
    · rename_i hpre
      cases h
      obtain ⟨r, hr⟩ := hpre
      rw [← hr, List.drop_left]
      rfl
    · obtain ⟨⟨a, d⟩, hp, heq⟩ := Option.map_eq_some_iff.mp h
      cases heq
      rw [ih hp]
      rfl

theorem cut_isSome_iff : (cut sep text).isSome = true ↔ sep <:+: text := by
  constructor
  · intro h
    obtain ⟨⟨a, d⟩, hp⟩ := Option.isSome_iff_exists.mp h
    exact ⟨a, d, (cut_eq_some hp).symm⟩
  · intro h
    induction text with
    | nil =>
      rw [List.eq_nil_of_infix_nil h]
      rfl
    | cons c cs ih =>
      by_cases hpre : sep <+: c :: cs
      · rw [cut_at_start hpre]
        rfl
      · rw [cut_cons hpre, Option.isSome_map]
        exact ih ((List.infix_cons_iff.mp h).resolve_left hpre)

/-- The characters of a line are passed over. -/
theorem cut_append_left (h : b ∉ before) (text : List Char) :
    cut (b :: sep) (before ++ text) = (cut (b :: sep) text).map fun p => (before ++ p.1, p.2) := by
  induction before with
  | nil => simp
  | cons c cs ih =>
    obtain ⟨hc, hcs⟩ := not_or.mp (List.mem_cons.not.mp h)
    have hpre : ¬ b :: sep <+: c :: (cs ++ text) := fun hpre => hc (List.cons_prefix_cons.mp hpre).1
    rw [List.cons_append, cut_cons hpre, ih hcs, Option.map_map]
    rfl

/-- The separator stands behind a line. -/
theorem cut_line (h : b ∉ before) (after : List Char) :
    cut (b :: sep) (before ++ (b :: sep ++ after)) = some (before, after) := by
  rw [cut_append_left h, cut_append, Option.map_some, List.append_nil]

/-- A line that ends with something else. -/
theorem cut_skip (h : b ∉ before) (hne : ¬ sep <+: text) :
    cut (b :: sep) (before ++ b :: text) =
      (cut (b :: sep) text).map fun p => (before ++ b :: p.1, p.2) := by
  have hpre : ¬ b :: sep <+: b :: text := fun hpre => hne (List.cons_prefix_cons.mp hpre).2
  rw [cut_append_left h, cut_cons hpre, Option.map_map]
  rfl

end Text

end Plachem
