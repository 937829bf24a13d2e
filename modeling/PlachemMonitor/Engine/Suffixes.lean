import Mathlib.Data.List.Range
import Mathlib.Order.Bounds.Basic
import PlachemMonitor.Engine.Loops

/-!
# Repeated suffixes

`repeated_suffix` finds the least size in its range for which the text ends with copies enough, and
counts all of them (`repeated_suffix_iff`).
-/

namespace Plachem

namespace LoopDetector

/-- The text ends with `k` copies of its last `size` characters. -/
def EndsWith (text : List Char) (size k : Nat) : Prop :=
  size ≤ text.length ∧ (List.replicate k (text.rtake size)).flatten <:+ text

section Copies

variable {text unit before : List Char} {size k : Nat}

theorem length_copies (k : Nat) (unit : List Char) :
    (List.replicate k unit).flatten.length = k * unit.length := by
  rw [List.length_flatten, List.map_replicate, List.sum_replicate_nat]

/-- The last copy in a text. -/
theorem copies_succ (k : Nat) (unit : List Char) :
    (List.replicate (k + 1) unit).flatten = (List.replicate k unit).flatten ++ unit := by
  rw [List.replicate_succ', List.flatten_append, List.flatten_singleton]

/-- All units before the cursor are counted. -/
theorem le_units_before {fuel cursor : Nat} (hsize : 0 < unit.length) (hfuel : cursor ≤ fuel)
    (hcursor : cursor ≤ text.length)
    (h : text.take cursor = before ++ (List.replicate k unit).flatten) :
    k ≤ units_before text unit unit.length fuel cursor := by
  induction k generalizing fuel cursor with
  | zero => exact Nat.zero_le _
  | succ k ih =>
    rw [copies_succ, ← List.append_assoc] at h
    have hlength := congrArg List.length h
    rw [List.length_take_of_le hcursor, List.length_append] at hlength
    have hprefix : (before ++ (List.replicate k unit).flatten).length = cursor - unit.length := by
      omega
    have htake : text.take (cursor - unit.length) = before ++ (List.replicate k unit).flatten := by
      have := congrArg (List.take (cursor - unit.length)) h
      rwa [List.take_take, Nat.min_eq_left (Nat.sub_le _ _), List.take_left' hprefix] at this
    have hunit : (text.drop (cursor - unit.length)).take unit.length = unit := by
      have := congrArg (List.drop (cursor - unit.length)) h
      rw [List.drop_take, List.drop_left' hprefix, Nat.sub_sub_self (by omega)] at this
      exact this
    cases fuel with
    | zero => omega
    | succ fuel =>
      rw [units_before, if_pos ⟨by omega, hunit⟩]
      exact Nat.succ_le_succ (ih (by omega) (by omega) htake)

/-- The count of a size is the number of copies that the text ends with. -/
theorem repeat_count_greatest (hsize : 0 < size) (hle : size ≤ text.length) :
    IsGreatest { k | EndsWith text size k } (repeat_count text size) := by
  obtain ⟨before, hbefore⟩ := repeat_count_spec text size
  refine ⟨⟨hle, before, hbefore.symm⟩, ?_⟩
  rintro k ⟨-, before, hcopies⟩
  cases k with
  | zero => exact Nat.zero_le _
  | succ k =>
    have hunit : (text.rtake size).length = size := by
      rw [List.rtake, List.length_drop]
      omega
    rw [copies_succ, ← List.append_assoc] at hcopies
    have htake : text.take (text.length - size) =
        before ++ (List.replicate k (text.rtake size)).flatten := by
      have hlength := congrArg List.length hcopies
      rw [List.length_append, hunit] at hlength
      have hinit := congrArg (List.take (text.length - size)) hcopies
      rw [List.take_left' (by omega)] at hinit
      exact hinit.symm
    have hcount := le_units_before (by omega) (Nat.le_refl (text.length - size))
      (Nat.sub_le _ _) htake
    rw [hunit] at hcount
    exact Nat.succ_le_succ hcount

end Copies

variable {τ : Type} {unicode : Unicode} {config : LoopDetectorConfig τ} {value : List Char}

/-- A size in the range, with copies enough. -/
def Repeats (config : LoopDetectorConfig τ) (text : List Char) (size : Nat) : Prop :=
  config.min_unit_chars ≤ size ∧ size ≤ config.max_unit_chars ∧
    ∃ k, config.min_repeats ≤ k ∧ EndsWith text size k

theorem Repeats.size_le {text : List Char} {size : Nat} (h : Repeats config text size) :
    size ≤ text.length := by
  obtain ⟨-, -, k, -, hends⟩ := h
  exact hends.1

/-- The candidates are all the sizes that a text of the length has room for. -/
theorem repeats_iff {text : List Char} {size : Nat} :
    Repeats config text size ↔
      (config.min_unit_chars ≤ size ∧
        size ≤ min config.max_unit_chars (text.length / config.min_repeats)) ∧
      config.min_repeats ≤ repeat_count text size := by
  have hpos := config.unit_pos
  have htwo := config.repeats
  constructor
  · rintro ⟨hmin, hmax, k, hk, hends⟩
    have hgreatest := repeat_count_greatest (hpos.trans hmin) hends.1
    refine ⟨⟨hmin, Nat.le_min.mpr ⟨hmax, ?_⟩⟩, hk.trans (hgreatest.2 hends)⟩
    have hlength := hends.2.length_le
    rw [length_copies, List.rtake, List.length_drop, Nat.sub_sub_self hends.1] at hlength
    rw [Nat.le_div_iff_mul_le (by omega)]
    calc size * config.min_repeats ≤ size * k := Nat.mul_le_mul_left size hk
      _ = k * size := Nat.mul_comm size k
      _ ≤ text.length := hlength
  · rintro ⟨⟨hmin, hmax⟩, hcount⟩
    rw [Nat.le_min] at hmax
    have hle : size ≤ text.length := hmax.2.trans (Nat.div_le_self _ _)
    exact ⟨hmin, hmax.1, _, hcount, (repeat_count_greatest (hpos.trans hmin) hle).1⟩

/-- A search that gives something for the first element of a kind. -/
theorem findSome?_ite {α β : Type} (p : α → Prop) [DecidablePred p] (g : α → β) (xs : List α) :
    (xs.findSome? fun x => if p x then some (g x) else none) =
      (xs.find? fun x => decide (p x)).map g := by
  induction xs with
  | nil => rfl
  | cons x xs ih =>
    by_cases hx : p x
    · rw [List.findSome?_cons, List.find?_cons, if_pos hx, decide_eq_true hx]
      rfl
    · rw [List.findSome?_cons, List.find?_cons, if_neg hx, decide_eq_false hx]
      exact ih

/-- The candidates in their order. -/
theorem repeated_suffix_eq (unicode : Unicode) (config : LoopDetectorConfig τ) (value : List Char) :
    repeated_suffix unicode config value =
      ((List.range' config.min_unit_chars
          (min config.max_unit_chars ((normalize unicode value).length / config.min_repeats) + 1 -
            config.min_unit_chars)).find? fun size =>
        decide (config.min_repeats ≤ repeat_count (normalize unicode value) size)).map
        fun size => ⟨repeat_count (normalize unicode value) size, size⟩ := by
  unfold repeated_suffix
  dsimp only
  rw [findSome?_ite fun size => config.min_repeats ≤ repeat_count (normalize unicode value) size,
    ← List.range'_eq_map_range]

/-- What is found is the least size with copies enough, and the number of copies; nothing is found where
no size has copies enough. -/
theorem repeated_suffix_iff (unicode : Unicode) (config : LoopDetectorConfig τ) (value : List Char) :
    (∀ k size, repeated_suffix unicode config value = some ⟨k, size⟩ ↔
      IsLeast { s | Repeats config (normalize unicode value) s } size ∧
        IsGreatest { k | EndsWith (normalize unicode value) size k } k) ∧
    (repeated_suffix unicode config value = none ↔
      ∀ size, ¬ Repeats config (normalize unicode value) size) := by
  have hpos := config.unit_pos
  constructor
  · intro k size
    rw [repeated_suffix_eq, Option.map_eq_some_iff]
    constructor
    · rintro ⟨size', hfind, hfound⟩
      obtain ⟨rfl, rfl⟩ := RepeatedSuffix.mk.inj hfound
      rw [List.find?_range'_eq_some] at hfind
      obtain ⟨hcount, hmem, hleast⟩ := hfind
      rw [List.mem_range'_1] at hmem
      have hrepeats : Repeats config (normalize unicode value) size' :=
        repeats_iff.mpr ⟨⟨hmem.1, by omega⟩, of_decide_eq_true hcount⟩
      refine ⟨⟨hrepeats, fun s hs => ?_⟩,
        repeat_count_greatest (hpos.trans hmem.1) hrepeats.size_le⟩
      by_contra hlt
      have hs' := repeats_iff.mp hs
      have hnot := hleast s hs'.1.1 (by omega)
      rw [decide_eq_true hs'.2] at hnot
      cases hnot
    · rintro ⟨⟨hrepeats, hleast⟩, hgreatest⟩
      have hsize := repeats_iff.mp hrepeats
      refine ⟨size, List.find?_range'_eq_some.mpr ⟨decide_eq_true hsize.2, ?_, ?_⟩, ?_⟩
      · rw [List.mem_range'_1]
        omega
      · intro s hmin hlt
        rw [Bool.not_eq_true', decide_eq_false_iff_not]
        intro hcount
        have hs : Repeats config (normalize unicode value) s :=
          repeats_iff.mpr ⟨⟨hmin, by omega⟩, hcount⟩
        exact absurd (hleast hs) (by omega)
      · rw [(repeat_count_greatest (hpos.trans hsize.1.1) hrepeats.size_le).unique hgreatest]
  · rw [repeated_suffix_eq, Option.map_eq_none_iff, List.find?_eq_none]
    refine forall_congr' fun size => ?_
    rw [repeats_iff, List.mem_range'_1, decide_eq_true_iff]
    constructor
    · rintro hnone ⟨hrange, hcount⟩
      exact hnone (by omega) hcount
    · intro hnone hrange hcount
      exact hnone ⟨by omega, hcount⟩

end LoopDetector

end Plachem
