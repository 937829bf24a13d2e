import PlachemMonitor.Text.Lines

/-!
# Paths

POSIX paths as `pathlib` has them: the slashes that a path begins with, and its names.

* `parse`: the path of a text. A path without `..` is as it is collapsed (`normalized_eq`).
* `mentioned`: the paths that a search for `/[^\s\\"']+` finds in a text. A path in plain characters that
  stands between two others is found whole (`mem_mentioned`), and a path in plain names can only be
  written in them (`plain_of_names`).
-/

namespace Plachem

namespace Text

structure Path where
  slashes : Nat
  names : List (List Char)
  deriving DecidableEq

namespace Path

/-- The slashes that are kept of those at the beginning. -/
def root : List Char → Nat
  | '/' :: '/' :: '/' :: _ => 1
  | '/' :: '/' :: _ => 2
  | '/' :: _ => 1
  | _ => 0

/-- `Path(text)` -/
def parse (text : List Char) : Path where
  slashes := root text
  names := (text.splitOn '/').filter fun name => name != [] && name != ['.']

/-- `path.is_absolute()` -/
def is_absolute (path : Path) : Bool := decide (0 < path.slashes)

/-- `path.parts` -/
def parts (path : Path) : List (List Char) :=
  if path.slashes = 0 then path.names else List.replicate path.slashes '/' :: path.names

/-- `".." in path.parts` -/
def traverses (path : Path) : Bool := path.names.contains ['.', '.']

/-- `path.expanduser()`, where `os.path.expanduser` is given; `none` if it raises. -/
def expanduser (home : List Char → Option (List Char)) (path : Path) : Option Path :=
  match path.slashes, path.names with
  | 0, ('~' :: user) :: names =>
    (home ('~' :: user)).map fun text => ⟨(parse text).slashes, (parse text).names ++ names⟩
  | _, _ => some path

/-- One name of `os.path.normpath`. -/
def collapse_name (slashes : Nat) (names : List (List Char)) (name : List Char) :
    List (List Char) :=
  if name ≠ ['.', '.'] ∨ slashes = 0 ∧ names = [] ∨ names.getLast? = some ['.', '.'] then
    names ++ [name]
  else names.dropLast

/-- `Path(os.path.normpath(str(path)))` -/
def collapse (path : Path) : Path :=
  { path with names := path.names.foldl (collapse_name path.slashes) [] }

/-- `_read_only_normalize` -/
def normalize (home : List Char → Option (List Char)) (path : Path) : Option Path :=
  if path.traverses then some path else (path.expanduser home).map collapse

/-- `_read_only_has_symlink_component` -/
def has_symlink_component (is_symlink : Path → Bool) (path : Path) : Bool :=
  (List.range path.names.length).any fun n =>
    is_symlink { path with names := path.names.take (path.names.length - n) }

section Normalize

variable {home : List Char → Option (List Char)} {path : Path}

theorem expanduser_absolute (h : path.is_absolute = true) : path.expanduser home = some path := by
  have hslashes : 0 < path.slashes := of_decide_eq_true h
  unfold expanduser
  split
  · rename_i hzero _
    omega
  · rfl

theorem foldl_collapse {slashes : Nat} {names : List (List Char)} (h : ['.', '.'] ∉ names)
    (before : List (List Char)) : names.foldl (collapse_name slashes) before = before ++ names := by
  induction names generalizing before with
  | nil => rw [List.foldl_nil, List.append_nil]
  | cons name names ih =>
    rw [List.mem_cons, not_or] at h
    rw [List.foldl_cons, collapse_name, if_pos (.inl (Ne.symm h.1)), ih h.2, List.append_assoc]
    rfl

/-- An absolute path is normalized to itself. -/
theorem normalized_eq (h : path.is_absolute = true) : path.normalize home = some path := by
  unfold normalize
  split
  · rfl
  · rename_i hclean
    have hclean : ['.', '.'] ∉ path.names := by simpa [traverses] using hclean
    rw [expanduser_absolute h, Option.map_some, collapse, foldl_collapse hclean, List.nil_append]

end Normalize

end Path

/-! ## Paths in a text -/

/-- `[^\s\\"']` -/
def plain (c : Char) : Bool := !(isWhitespace c || c == '\\' || c == '"' || c == '\'')

/-- The match of `/[^\s\\"']+` in a text of such characters: from the first slash to the end. -/
def match_in (run : List Char) : Option (List Char) :=
  let found := run.dropWhile fun c => c != '/'
  if 2 ≤ found.length then some found else none

/-- `re.findall(r"/[^\s\\\"']+", text)`: a match goes on to the next character of another kind. -/
def mentioned (text : List Char) : List (List Char) :=
  (text.splitOnP fun c => !plain c).filterMap match_in

/-- A text that a search finds whole, and that no encoder escapes. -/
structure Plain (target : List Char) : Prop where
  slash : target.head? = some '/'
  name : 2 ≤ target.length
  plain : ∀ c ∈ target, plain c = true
  unescaped : ∀ c ∈ target, 32 ≤ c.toNat

theorem mem_mentioned (before after : List Char) {target : List Char} {c c' : Char} (h : Plain target)
    (hc : plain c = false) (hc' : plain c' = false) :
    target ∈ mentioned (before ++ c :: (target ++ c' :: after)) := by
  have hmatch : match_in target = some target := by
    obtain ⟨rest, rfl⟩ : ∃ rest, target = '/' :: rest := by
      have hslash := h.slash
      cases target with
      | nil => cases hslash
      | cons d rest => exact ⟨rest, by rw [Option.some.inj hslash]⟩
    have hdrop : ('/' :: rest).dropWhile (fun c => c != '/') = '/' :: rest := rfl
    unfold match_in
    rw [hdrop, if_pos h.name]
  unfold mentioned
  rw [List.splitOnP_append_cons _ _ (by simp [hc]),
    List.splitOnP_append_cons_of_forall_mem (fun d hd => by simp [h.plain d hd]) _ (by simp [hc']),
    List.filterMap_append, List.mem_append]
  exact .inr (List.mem_filterMap.mpr ⟨target, List.mem_cons_self, hmatch⟩)

/-- Every character of a text is a separator, or in a piece. -/
theorem mem_splitOnP {α : Type*} {p : α → Bool} {xs : List α} {x : α} (h : x ∈ xs) :
    p x = true ∨ ∃ piece ∈ xs.splitOnP p, x ∈ piece := by
  induction xs with
  | nil => cases h
  | cons y ys ih =>
    rw [List.splitOnP_cons_eq_if_modifyHead]
    by_cases hy : p y = true
    · rw [if_pos hy]
      rcases List.mem_cons.mp h with rfl | h
      · exact .inl hy
      · refine (ih h).imp_right ?_
        rintro ⟨piece, hmem, hx⟩
        exact ⟨piece, List.mem_cons_of_mem _ hmem, hx⟩
    · rw [if_neg hy]
      obtain ⟨first, rest, hsplit⟩ := List.exists_cons_of_ne_nil (List.splitOnP_ne_nil p ys)
      rw [hsplit, List.modifyHead_cons]
      rcases List.mem_cons.mp h with rfl | h
      · exact .inr ⟨x :: first, List.mem_cons_self, List.mem_cons_self⟩
      · refine (ih h).imp_right ?_
        rintro ⟨piece, hmem, hx⟩
        rw [hsplit, List.mem_cons] at hmem
        rcases hmem with rfl | hmem
        · exact ⟨y :: piece, List.mem_cons_self, List.mem_cons_of_mem _ hx⟩
        · exact ⟨piece, List.mem_cons_of_mem _ hmem, hx⟩

/-- The names of the path are in characters that are found whole. -/
def Path.PlainNames (path : Path) : Prop :=
  ∀ name ∈ path.names, ∀ c ∈ name, Text.plain c = true ∧ 32 ≤ c.toNat

instance (path : Path) : Decidable path.PlainNames :=
  decidable_of_iff
    ((path.names.all fun name => name.all fun c => plain c && decide (32 ≤ c.toNat)) = true)
    (by simp [Path.PlainNames])

/-- A path in such names is written in such characters. -/
theorem plain_of_names {target : List Char} (habsolute : (Path.parse target).is_absolute = true)
    (hne : (Path.parse target).names ≠ []) (hnames : (Path.parse target).PlainNames) :
    Plain target := by
  have hchars : ∀ c ∈ target, plain c = true ∧ 32 ≤ c.toNat := by
    intro c hc
    rcases mem_splitOnP (p := fun d => d == '/') hc with hslash | ⟨piece, hpiece, hc⟩
    · rw [beq_iff_eq.mp hslash]
      decide
    · by_cases hdot : piece = ['.']
      · rw [hdot, List.mem_singleton] at hc
        rw [hc]
        decide
      · refine hnames piece (List.mem_filter.mpr ⟨hpiece, ?_⟩) c hc
        have hempty : piece ≠ [] := List.ne_nil_of_mem hc
        simp [hdot, hempty]
  obtain ⟨rest, rfl⟩ : ∃ rest, target = '/' :: rest := by
    unfold Path.is_absolute Path.parse Path.root at habsolute
    dsimp only at habsolute
    split at habsolute
    · exact ⟨_, rfl⟩
    · exact ⟨_, rfl⟩
    · exact ⟨_, rfl⟩
    · cases habsolute
  refine ⟨rfl, ?_, fun c hc => (hchars c hc).1, fun c hc => (hchars c hc).2⟩
  cases rest with
  | nil => exact absurd (by decide) hne
  | cons c rest => exact Nat.le_add_left 2 _

end Text

end Plachem
