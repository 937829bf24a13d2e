import PlachemMonitor.Text.Lines

/-!
# Words of a text

`str.split()`: the words between whitespace. Words that are joined by single spaces are the words of
the text that they make (`split_joined`).
-/

namespace Plachem

namespace Text

/-- The words of a text, after the beginning of a word. -/
def splitFrom (word : List Char) : List Char → List (List Char)
  | [] => if word = [] then [] else [word]
  | c :: cs =>
    if isWhitespace c then
      if word = [] then splitFrom [] cs else word :: splitFrom [] cs
    else splitFrom (word ++ [c]) cs

/-- `text.split()` -/
def split (text : List Char) : List (List Char) := splitFrom [] text

/-- `" ".join(words)` -/
def joined : List (List Char) → List Char
  | [] => []
  | [word] => word
  | word :: words => word ++ ' ' :: joined words

/-- A text without whitespace that is not empty. -/
def IsWord (word : List Char) : Prop := word ≠ [] ∧ ∀ c ∈ word, isWhitespace c = false

theorem splitFrom_words {word cs : List Char} (h : ∀ c ∈ word, isWhitespace c = false) :
    ∀ w ∈ splitFrom word cs, IsWord w := by
  induction cs generalizing word with
  | nil =>
    unfold splitFrom
    split
    · exact fun w hw => absurd hw List.not_mem_nil
    · rename_i hne
      exact List.forall_mem_singleton.mpr ⟨hne, h⟩
  | cons c cs ih =>
    have hempty : ∀ c ∈ ([] : List Char), isWhitespace c = false :=
      fun _ hc => absurd hc List.not_mem_nil
    unfold splitFrom
    split
    · split
      · exact ih hempty
      · rename_i hne
        exact List.forall_mem_cons.mpr ⟨⟨hne, h⟩, ih hempty⟩
    · rename_i hc
      refine ih fun d hd => ?_
      rcases List.mem_append.mp hd with hd | hd
      · exact h d hd
      · rw [List.mem_singleton.mp hd]
        exact Bool.eq_false_iff.mpr hc

theorem split_words (text : List Char) : ∀ w ∈ split text, IsWord w :=
  splitFrom_words fun _ hc => absurd hc List.not_mem_nil

/-- A word is read to its end. -/
theorem splitFrom_append {word w : List Char} (h : ∀ c ∈ w, isWhitespace c = false)
    (rest : List Char) : splitFrom word (w ++ rest) = splitFrom (word ++ w) rest := by
  induction w generalizing word with
  | nil => rw [List.nil_append, List.append_nil]
  | cons c w ih =>
    rw [List.forall_mem_cons] at h
    rw [List.cons_append, splitFrom, h.1, if_neg (by decide), ih h.2, List.append_assoc,
      List.singleton_append]

theorem split_joined {words : List (List Char)} (h : ∀ w ∈ words, IsWord w) :
    split (joined words) = words := by
  induction words with
  | nil => rfl
  | cons w words ih =>
    rw [List.forall_mem_cons] at h
    obtain ⟨⟨hne, hw⟩, hwords⟩ := h
    cases words with
    | nil =>
      have hread : splitFrom [] (w ++ []) = splitFrom ([] ++ w) [] := splitFrom_append hw []
      rw [List.append_nil, List.nil_append] at hread
      show splitFrom [] w = [w]
      rw [hread, splitFrom, if_neg hne]
    | cons w' words =>
      have hspace : isWhitespace ' ' = true := by decide
      show splitFrom [] (w ++ ' ' :: joined (w' :: words)) = w :: w' :: words
      rw [splitFrom_append hw, List.nil_append, splitFrom, if_pos hspace, if_neg hne]
      exact congrArg (w :: ·) (ih hwords)

end Text

end Plachem
