import PlachemMonitor.Json.Scan
import PlachemMonitor.Text.Lines

/-!
# The registry file

`RunRegistry._append`, `RunRegistry._records` and `RunRegistry.get` on the text of the file, with
records as dictionaries. UTF-8 carries every text both ways, so a file is the list of its
characters.

* `records_written`: the records come back, with their members in key order, if no string in them
  contains a character at which `str.splitlines` ends a line but which `json.dumps` does not
  escape (`lineSafe`).
* `records_unsafe`: else the first record that has one makes the file unreadable.
* `roundTrips_iff`: so the condition is exact.
-/

namespace Plachem

namespace RegistryFile

open Text

/-- `RunRegistryCorruptionError` -/
structure CorruptionError where
  code : String
  line_number : Nat
  records : List Dict
  deriving DecidableEq

/-- The text of the file, if there is a file. -/
abbrev File := Option (List Char)

/-- `json.dumps(record, ensure_ascii=False, sort_keys=True, separators=(",", ":")) + "\n"` -/
def payload (record : Dict) : List Char := record.dumps false ++ ['\n']

/-- `RunRegistry._append` -/
def append (file : File) (record : Dict) : File := some (file.getD [] ++ payload record)

/-- The loop of `RunRegistry._records` from line `line_number` on. -/
def recordsFrom (total : Nat) :
    Nat → List Dict → List (List Char) → Except CorruptionError (List Dict)
  | _, records, [] => .ok records
  | line_number, records, raw_line :: raw_lines =>
    let line := rstripNewlines raw_line
    if isBlank line then recordsFrom total (line_number + 1) records raw_lines
    else
      match loadsValue line with
      | none =>
        let code :=
          if line_number = total ∧ endsWithNewline raw_line = false then
            "TRUNCATED_RUN_REGISTRY_TAIL"
          else "MALFORMED_RUN_REGISTRY"
        .error ⟨code, line_number, records⟩
      | some value =>
        match value.dict? with
        | none => .error ⟨"MALFORMED_RUN_REGISTRY", line_number, records⟩
        | some record => recordsFrom total (line_number + 1) (records ++ [record]) raw_lines

/-- `RunRegistry._records` -/
def records : File → Except CorruptionError (List Dict)
  | none => .ok []
  | some text =>
    let raw_lines := splitLines (universalNewlines text)
    recordsFrom raw_lines.length 1 [] raw_lines

/-- `record.get("core_run_id") == core_run_id` -/
def hasId (core_run_id : String) (record : Dict) : Bool :=
  record.get? "core_run_id" = some (.str core_run_id)

/-- The loop of `RunRegistry.get`: the last record that satisfies `p`. -/
def latest {α : Type*} (p : α → Bool) (records : List α) : Option α :=
  records.foldl (fun latest record => if p record then some record else latest) none

/-- `RunRegistry.get` -/
def get (file : File) (core_run_id : String) : Except CorruptionError (Option Dict) :=
  (records file).map (latest (hasId core_run_id))

/-- The file after `RunRegistry._append` of each record, starting without a file. -/
def written (recs : List Dict) : File := recs.foldl append none

/-- The string does not contain U+0085, U+2028 or U+2029. -/
def safeText (s : String) : Bool :=
  s.toList.all fun c => c != '\u0085' && c != '\u2028' && c != '\u2029'

/-- No string of the record, at any depth, contains U+0085, U+2028 or U+2029. -/
def lineSafe (record : Dict) : Bool := record.json.allStrings safeText

/-- Reading the file gives the records in order, and `get` the last one with the id. -/
def RoundTrips (recs : List Dict) : Prop :=
  (∃ out, records (written recs) = .ok out ∧ List.Forall₂ Dict.Eqv out recs) ∧
    ∀ id, ∃ out, get (written recs) id = .ok out ∧
      Option.Rel Dict.Eqv out (recs.filter (hasId id)).getLast?

/-! ## The lines that are written -/

theorem written_eq {recs : List Dict} (h : recs ≠ []) :
    written recs = some (recs.flatMap payload) := by
  have step : ∀ (recs : List Dict) (text : List Char),
      recs.foldl append (some text) = some (text ++ recs.flatMap payload) := by
    intro recs
    induction recs with
    | nil => simp
    | cons r recs ih =>
      intro text
      rw [List.foldl_cons, append, ih]
      simp
  obtain ⟨r, recs, rfl⟩ := List.exists_cons_of_ne_nil h
  rw [written, List.foldl_cons, append, step]
  simp

theorem isLineBreak_plain (c : Char) :
    (c.toNat < 127 || !isLineBreak c) = (c != '\u0085' && c != '\u2028' && c != '\u2029') := by
  by_cases h : c.toNat < 127
  · have h1 : c ≠ '\u0085' := by rintro rfl; revert h; decide
    have h2 : c ≠ '\u2028' := by rintro rfl; revert h; decide
    have h3 : c ≠ '\u2029' := by rintro rfl; revert h; decide
    simp [h, h1, h2, h3]
  · have hne : ∀ d : Char, d.toNat < 127 → (c == d) = false := by
      intro d hd
      rw [beq_eq_false_iff_ne]
      rintro rfl
      exact h hd
    simp [h, isLineBreak, hne '\n' (by decide), hne '\x0b' (by decide), hne '\x0c' (by decide),
      hne '\r' (by decide), hne '\x1c' (by decide), hne '\x1d' (by decide),
      hne '\x1e' (by decide), bne, Bool.and_assoc]

/-- A line of the file contains a line break exactly if its record is not line safe. -/
theorem lineSafe_iff (record : Dict) :
    lineSafe record = true ↔ ∀ c ∈ record.dumps false, isLineBreak c = false := by
  have hp : ∀ c : Char, 32 ≤ c.toNat → c.toNat < 127 → isLineBreak c = false := by
    intro c h h'
    have hne : ∀ d : Char, d.toNat < 32 ∨ 127 ≤ d.toNat → (c == d) = false := by
      intro d hd
      rw [beq_eq_false_iff_ne]
      rintro rfl
      omega
    simp [isLineBreak, hne]
  have hplain : Json.plain isLineBreak = safeText := by
    funext s
    simp only [Json.plain, isLineBreak_plain, safeText]
  rw [Dict.dumps, Json.dumps, Json.plain_encode hp, Json.allStrings_sortKeys, lineSafe, hplain]

/-- Every control character is escaped. -/
theorem control_dumps (record : Dict) : ∀ c ∈ record.dumps false, 32 ≤ c.toNat := by
  have hp : ∀ c : Char, 32 ≤ c.toNat → c.toNat < 127 → decide (c.toNat < 32) = false := by
    intro c h _
    simpa using h
  have hplain : record.json.sortKeys.allStrings (Json.plain fun c => decide (c.toNat < 32)) =
      true := by
    refine Json.allStrings_of_forall (fun s => ?_) _
    simp only [Json.plain, List.all_eq_true, Bool.or_eq_true, decide_eq_true_eq,
      Bool.not_eq_true', decide_eq_false_iff_not]
    intro c _
    omega
  intro c hc
  simpa using (Json.plain_encode hp _).mpr hplain c hc

theorem lineSafe_ofList {ms : List (String × Value)} (h : (ms.map Prod.fst).Nodup) :
    lineSafe (Dict.ofList ms h) = true ↔
      ∀ m ∈ ms, safeText m.1 = true ∧ m.2.json.allStrings safeText = true := by
  simp only [lineSafe, Dict.json, Dict.ofList, Json.allStrings, Json.allStringsMembers_iff,
    List.forall_mem_map]

theorem noReturn_written (recs : List Dict) : ∀ c ∈ recs.flatMap payload, c ≠ '\r' := by
  intro c hc
  obtain ⟨r, -, hc⟩ := List.mem_flatMap.mp hc
  rintro rfl
  rcases List.mem_append.mp hc with hc | hc
  · exact absurd (control_dumps r _ hc) (by decide)
  · simp at hc

theorem splitLines_written {recs : List Dict} (h : ∀ r ∈ recs, lineSafe r = true)
    (cs : List Char) :
    splitLines (recs.flatMap payload ++ cs) = recs.map payload ++ splitLines cs := by
  have hlines : ∀ l ∈ recs.map (Dict.dumps false), ∀ c ∈ l, isLineBreak c = false := by
    intro l hl
    obtain ⟨r, hr, rfl⟩ := List.mem_map.mp hl
    exact (lineSafe_iff r).mp (h r hr)
  have := splitLines_flatMap hlines cs
  simp only [List.flatMap_map, List.map_map] at this
  exact this

/-! ## Reading -/

theorem not_isBlank_of_head (t : List Char) : isBlank ('{' :: t) = false := by
  simp [isBlank, isWhitespace]

/-- A line of a line-safe record reads as that record. -/
theorem recordsFrom_payload {record : Dict} (h : lineSafe record = true) (total n : Nat)
    (acc : List Dict) (rest : List (List Char)) :
    recordsFrom total n acc (payload record :: rest) =
      recordsFrom total (n + 1) (acc ++ [record.sorted]) rest := by
  have hline := rstripNewlines_newline ((lineSafe_iff record).mp h)
  have hload := loadsValue_dumps false record
  obtain ⟨t, ht⟩ := record.head_dumps false
  obtain ⟨v, hv, hd⟩ := Option.bind_eq_some_iff.mp hload
  rw [recordsFrom, payload, hline]
  simp only [hv, hd]
  rw [ht, not_isBlank_of_head]
  rfl

theorem recordsFrom_safe {recs : List Dict} (h : ∀ r ∈ recs, lineSafe r = true) (total : Nat)
    (rest : List (List Char)) (n : Nat) (acc : List Dict) :
    recordsFrom total n acc (recs.map payload ++ rest) =
      recordsFrom total (n + recs.length) (acc ++ recs.map Dict.sorted) rest := by
  induction recs generalizing n acc with
  | nil => simp
  | cons r recs ih =>
    rw [List.map_cons, List.cons_append, recordsFrom_payload (h r (by simp)),
      ih fun r hr => h r (List.mem_cons_of_mem _ hr)]
    simp only [List.length_cons, List.map_cons, List.append_assoc, List.cons_append,
      List.nil_append]
    congr 1
    omega

/-- Line-safe records come back with their members in key order. -/
theorem records_written {recs : List Dict} (h : ∀ r ∈ recs, lineSafe r = true) :
    records (written recs) = .ok (recs.map Dict.sorted) := by
  by_cases hne : recs = []
  · subst hne; rfl
  have hsplit := splitLines_written h []
  rw [List.append_nil] at hsplit
  rw [written_eq hne, records, universalNewlines_eq_self (noReturn_written recs), hsplit]
  rw [recordsFrom_safe h]
  rfl

/-- The first record that is not line safe makes the file unreadable. -/
theorem records_unsafe {recs : List Dict} (h : ¬ ∀ r ∈ recs, lineSafe r = true) :
    ∃ good bad rest, recs = good ++ bad :: rest ∧ (∀ r ∈ good, lineSafe r = true) ∧
      lineSafe bad = false ∧ records (written recs) =
        .error ⟨"MALFORMED_RUN_REGISTRY", good.length + 1, good.map Dict.sorted⟩ := by
  -- the first such record, and the first line break in its line
  obtain ⟨good, bad, rest, rfl, hgood, hbad⟩ : ∃ good bad rest, recs = good ++ bad :: rest ∧
      (∀ r ∈ good, lineSafe r = true) ∧ lineSafe bad = false := by
    induction recs with
    | nil => exact absurd (by simp) h
    | cons r recs ih =>
      by_cases hr : lineSafe r = true
      · obtain ⟨good, bad, rest, rfl, hgood, hbad⟩ := ih fun h' => h (by simpa [hr] using h')
        exact ⟨r :: good, bad, rest, rfl, by simpa [hr] using hgood, hbad⟩
      · exact ⟨[], r, recs, rfl, by simp, by simpa using hr⟩
  refine ⟨good, bad, rest, rfl, hgood, hbad, ?_⟩
  have hbreak : ¬ ∀ c ∈ bad.dumps false, isLineBreak c = false := by
    rw [← lineSafe_iff, hbad]
    decide
  obtain ⟨p, b, q, hpbq, hb, hp⟩ := exists_first_break hbreak
  have hctl := control_dumps bad b (by rw [hpbq]; simp)
  have hbr : b ≠ '\r' := by rintro rfl; revert hctl; decide
  have hbn : b ≠ '\n' := by rintro rfl; revert hctl; decide
  have hload : loadsValue (p ++ [b]) = none := by
    refine loadsValue_prefix (q := q) (by simpa using hpbq) (by simp) ?_
    -- the text of a record ends with a brace, which is no line break
    rintro rfl
    have hlast := bad.getLast?_dumps false
    rw [hpbq] at hlast
    obtain rfl : b = '}' := by simpa using hlast
    simp [isLineBreak] at hb
  have hblank : isBlank (p ++ [b]) = false := by
    obtain ⟨t, ht⟩ := bad.head_dumps false
    cases p with
    | nil =>
      rw [ht, List.nil_append] at hpbq
      obtain ⟨rfl, -⟩ := List.cons.inj hpbq
      simp [isLineBreak] at hb
    | cons c p =>
      rw [ht, List.cons_append] at hpbq
      obtain ⟨rfl, -⟩ := List.cons.inj hpbq
      exact not_isBlank_of_head _
  have hfile : (good ++ bad :: rest).flatMap payload =
      good.flatMap payload ++ (p ++ b :: (q ++ '\n' :: rest.flatMap payload)) := by
    simp [payload, hpbq]
  have hrest : splitLines (q ++ '\n' :: rest.flatMap payload) ≠ [] := splitLines_ne_nil (by simp)
  obtain ⟨l, ls, hls⟩ := List.exists_cons_of_ne_nil hrest
  rw [written_eq (by simp), records, universalNewlines_eq_self (noReturn_written _), hfile,
    splitLines_written hgood, splitLines_break hp hb hbr, hls,
    recordsFrom_safe hgood, recordsFrom]
  simp only [rstripNewlines_other hbn hbr, hblank, hload, Bool.false_eq_true, ↓reduceIte,
    List.nil_append]
  -- more text follows, so the tail is not what is truncated
  rw [if_neg (by simp only [List.length_append, List.length_map, List.length_cons]; omega),
    Nat.add_comm 1]

/-! ## The round trip -/

@[simp] theorem hasId_sorted (id : String) (record : Dict) :
    hasId id record.sorted = hasId id record := by
  rw [Bool.eq_iff_iff, hasId, hasId, decide_eq_true_eq, decide_eq_true_eq, Dict.get?_sorted,
    Option.map_eq_some_iff]
  constructor
  · rintro ⟨v, hv, hs⟩
    rw [hv, Json.sortKeys_eq_str.mp hs]
  · intro h
    exact ⟨_, h, rfl⟩

theorem latest_eq {α : Type*} (p : α → Bool) (recs : List α) :
    latest p recs = (recs.filter p).getLast? := by
  induction recs using List.reverseRecOn with
  | nil => rfl
  | append_singleton recs r ih =>
    rw [latest, List.foldl_append, ← latest, ih, List.filter_append]
    cases hr : p r <;> simp [hr]

theorem get_written {recs : List Dict} (h : ∀ r ∈ recs, lineSafe r = true) (id : String) :
    get (written recs) id = .ok ((recs.filter (hasId id)).getLast?.map Dict.sorted) := by
  have hfilter : (recs.map Dict.sorted).filter (hasId id) =
      (recs.filter (hasId id)).map Dict.sorted := by
    rw [List.filter_map]
    congr 1
    exact List.filter_congr fun r _ => hasId_sorted id r
  rw [get, records_written h, Except.map, latest_eq, hfilter, List.getLast?_map]

theorem roundTrips_of_lineSafe {recs : List Dict} (h : ∀ r ∈ recs, lineSafe r = true) :
    RoundTrips recs := by
  refine ⟨⟨_, records_written h, ?_⟩, fun id => ⟨_, get_written h id, ?_⟩⟩
  · rw [List.forall₂_map_left_iff, List.forall₂_same]
    exact fun r _ => r.eqv_sorted
  · cases (recs.filter (hasId id)).getLast? with
    | none => exact .none
    | some r => exact .some r.eqv_sorted

theorem lineSafe_of_roundTrips {recs : List Dict} (h : RoundTrips recs) :
    ∀ r ∈ recs, lineSafe r = true := by
  by_contra hunsafe
  obtain ⟨good, bad, rest, -, -, -, herr⟩ := records_unsafe hunsafe
  obtain ⟨⟨out, hout, -⟩, -⟩ := h
  rw [herr] at hout
  cases hout

/-- The records come back exactly if each of them is line safe. -/
theorem roundTrips_iff (recs : List Dict) :
    RoundTrips recs ↔ ∀ r ∈ recs, lineSafe r = true :=
  ⟨lineSafe_of_roundTrips, roundTrips_of_lineSafe⟩

/-- A worker answer with a line separator in it: the record is written, and is unreadable. -/
theorem not_roundTrips_lineSeparator :
    ¬ RoundTrips [Dict.empty.set "raw_response" (.str "a\u2028b")] := by
  intro h
  have := lineSafe_of_roundTrips h _ (List.mem_cons_self ..)
  revert this
  decide +kernel

example : records (written [Dict.empty.set "raw_response" (.str "a\u2028b")]) =
    .error ⟨"MALFORMED_RUN_REGISTRY", 1, []⟩ := by decide +kernel

end RegistryFile

end Plachem
