import PlachemMonitor.Registry.File
import PlachemMonitor.Text.Regex

/-!
# What the session watchdog writes down

`_safe` of a JSON value: secrets are taken out of its texts, and long texts and lists are cut.

* `safe_eq_str_iff`: a text without the mark of a redaction is only made of itself.
* `safe_allStrings`: no text gets characters that neither it nor the mark has.
-/

namespace Plachem

namespace SessionWatchdog

open Regex

/-! ## Patterns -/

/-- `_SECRET_KEY` -/
def SECRET_KEY : Reg :=
  let separator := opt (.char fun c => c == '_' || c == '-')
  any [lit "token", lit "secret", lit "password", lit "credential", lit "authorization", lit "cookie",
    cat [lit "api", separator, lit "key"], cat [lit "private", separator, lit "key"]]

/-- `_SECRET_TEXT` -/
def SECRET_TEXT : Reg :=
  let separator := opt (.char fun c => c == '_' || c == '-')
  any [cat [lit "bearer", plus space, plus nonspace],
    cat [lit "sk-", atLeast 8 (alnum ['_', '-'])],
    cat [any [lit "token", lit "secret", lit "password", cat [lit "api", separator, lit "key"]], .star space,
      .char fun c => c == ':' || c == '=', .star space, plus nonspace]]

def REDACTED : String := "[REDACTED]"

section Safe

variable (letter : Char → Bool)

/-- `_SECRET_KEY.search(key)` -/
def secret_key (key : String) : Bool := found letter SECRET_KEY key.toList

/-- `_SECRET_TEXT.sub("[REDACTED]", value[:1000])` -/
def safe_text (value : String) : String :=
  String.ofList (sub letter SECRET_TEXT REDACTED.toList (value.toList.take 1000))

mutual

/-- `_safe`, of a value without a key. -/
def safe : Json → Json
  | .str s => .str (safe_text letter s)
  | .arr xs => .arr (safeElems 50 xs)
  | .obj ms => .obj (safeMembers ms)
  | .null => .null
  | .bool b => .bool b
  | .int n => .int n
  | .float t => .float t
  termination_by structural v => v

def safeElems (left : ℕ) : List Json → List Json
  | [] => []
  | x :: xs => if left = 0 then [] else safe x :: safeElems (left - 1) xs
  termination_by structural xs => xs

def safeMembers : List (String × Json) → List (String × Json)
  | [] => []
  | (k, v) :: ms => if secret_key letter k then safeMembers ms else (k, safe v) :: safeMembers ms
  termination_by structural ms => ms

end

end Safe

/-! ## Texts -/

section Lemmas

variable {letter : Char → Bool}

/-- A text without brackets is made of itself only. -/
theorem safe_text_eq_iff {text word : String} (hplain : found letter SECRET_TEXT word.toList = false)
    (hshort : word.toList.length < 1000) (hmark : '[' ∉ word.toList) :
    safe_text letter text = word ↔ text = word := by
  constructor
  · intro h
    have hlist : sub letter SECRET_TEXT REDACTED.toList (text.toList.take 1000) = word.toList := by
      rw [← h, safe_text, String.toList_ofList]
    have hcases : sub letter SECRET_TEXT REDACTED.toList (text.toList.take 1000) = _ ∨ _ :=
      sub_cases (text.toList.take 1000)
    rcases hcases with hsame | hmade
    · rw [hlist] at hsame
      have hlength := congrArg List.length hsame
      rw [List.length_take] at hlength
      have hwhole : text.toList.take 1000 = text.toList := List.take_of_length_le (by omega)
      rw [hwhole] at hsame
      exact (String.toList_inj.mp hsame).symm
    · rw [hlist] at hmade
      exact absurd (hmade.subset (by decide)) hmark
  · rintro rfl
    have hwhole : text.toList.take 1000 = text.toList := List.take_of_length_le (by omega)
    rw [safe_text, hwhole, sub_eq_self hplain, String.ofList_toList]

/-- The same for a word that is written out. -/
theorem safe_text_literal {text word : String} {cs : List Char} (h : word = String.ofList cs)
    (hplain : found letter SECRET_TEXT cs = false) (hshort : cs.length < 1000)
    (hmark : cs.contains '[' = false) : safe_text letter text = word ↔ text = word := by
  have hword : word.toList = cs := by rw [h, String.toList_ofList]
  refine safe_text_eq_iff (hword ▸ hplain) (hword ▸ hshort) (hword ▸ fun hm => ?_)
  rw [List.contains_iff_mem.mpr hm] at hmark
  cases hmark

theorem safeText_literal {s : String} {cs : List Char} (h : s = String.ofList cs)
    (hcs : cs.all (fun c => c != '\u0085' && c != '\u2028' && c != '\u2029') = true) :
    RegistryFile.safeText s = true := by
  rw [RegistryFile.safeText, h, String.toList_ofList, hcs]

theorem safeText_safe_text {text : String} (h : RegistryFile.safeText text = true) :
    RegistryFile.safeText (safe_text letter text) = true := by
  rw [RegistryFile.safeText, List.all_eq_true] at h ⊢
  intro c hc
  rw [safe_text, String.toList_ofList] at hc
  rcases mem_sub hc with hc | hc
  · exact h c (List.mem_of_mem_take hc)
  · have hmark : (REDACTED.toList.all fun c => c != '\u0085' && c != '\u2028' && c != '\u2029') = true := by
      decide +kernel
    exact List.all_eq_true.mp hmark c hc

theorem safe_eq_str_iff {v : Json} {word : String} :
    safe letter v = .str word ↔ ∃ text, v = .str text ∧ safe_text letter text = word := by
  cases v <;> simp [safe]

theorem safeMembers_eq (ms : List (String × Json)) :
    safeMembers letter ms =
      (ms.filter fun m => !secret_key letter m.1).map fun m => (m.1, safe letter m.2) := by
  induction ms with
  | nil => rfl
  | cons m ms ih =>
    rw [safeMembers, List.filter_cons]
    by_cases hkey : secret_key letter m.1 = true
    · simp [hkey, ih]
    · simp [hkey, ih]

theorem getMember_safeMembers {k : String} (h : secret_key letter k = false) (ms : List (String × Json)) :
    Json.getMember (safeMembers letter ms) k = (Json.getMember ms k).map (safe letter) := by
  induction ms with
  | nil => rfl
  | cons m ms ih =>
    rw [safeMembers]
    by_cases hk : m.1 = k
    · rw [hk, h]
      simp [Json.getMember, hk]
    · have hother : Json.getMember (m :: ms) k = Json.getMember ms k := by simp [Json.getMember, hk]
      rw [hother, ← ih]
      split
      · rfl
      · simp [Json.getMember, hk]

theorem nodup_safeMembers {ms : List (String × Json)} (h : (ms.map Prod.fst).Nodup) :
    ((safeMembers letter ms).map Prod.fst).Nodup := by
  rw [safeMembers_eq, List.map_map]
  exact h.sublist (List.filter_sublist.map _)

mutual

theorem wf_safe : ∀ v : Json, v.wf = true → (safe letter v).wf = true
  | .arr xs, h => wf_safeElems 50 xs h
  | .obj ms, h => by
    rw [Json.wf, Bool.and_eq_true, decide_eq_true_eq] at h
    rw [safe, Json.wf, Bool.and_eq_true, decide_eq_true_eq]
    exact ⟨nodup_safeMembers h.1, wf_safeMembers ms h.2⟩
  | .str _, _ | .null, _ | .bool _, _ | .int _, _ | .float _, _ => rfl
  termination_by structural v => v

theorem wf_safeElems (left : ℕ) :
    ∀ xs : List Json, Json.wfElems xs = true → Json.wfElems (safeElems letter left xs) = true
  | [], _ => rfl
  | x :: xs, h => by
    rw [Json.wfElems, Bool.and_eq_true] at h
    rw [safeElems]
    split
    · rfl
    · rw [Json.wfElems, Bool.and_eq_true]
      exact ⟨wf_safe x h.1, wf_safeElems (left - 1) xs h.2⟩
  termination_by structural xs => xs

theorem wf_safeMembers :
    ∀ ms : List (String × Json), Json.wfMembers ms = true → Json.wfMembers (safeMembers letter ms) = true
  | [], _ => rfl
  | (k, v) :: ms, h => by
    rw [Json.wfMembers, Bool.and_eq_true] at h
    rw [safeMembers]
    split
    · exact wf_safeMembers ms h.2
    · rw [Json.wfMembers, Bool.and_eq_true]
      exact ⟨wf_safe v h.1, wf_safeMembers ms h.2⟩
  termination_by structural ms => ms

end

mutual

theorem safe_allStrings : ∀ v : Json, v.allStrings RegistryFile.safeText = true →
    (safe letter v).allStrings RegistryFile.safeText = true
  | .str _, h => safeText_safe_text h
  | .arr xs, h => safeElems_allStrings 50 xs h
  | .obj ms, h => safeMembers_allStrings ms h
  | .null, _ | .bool _, _ | .int _, _ | .float _, _ => rfl
  termination_by structural v => v

theorem safeElems_allStrings (left : ℕ) : ∀ xs : List Json,
    Json.allStringsElems RegistryFile.safeText xs = true →
      Json.allStringsElems RegistryFile.safeText (safeElems letter left xs) = true
  | [], _ => rfl
  | x :: xs, h => by
    rw [Json.allStringsElems, Bool.and_eq_true] at h
    rw [safeElems]
    split
    · rfl
    · rw [Json.allStringsElems, Bool.and_eq_true]
      exact ⟨safe_allStrings x h.1, safeElems_allStrings (left - 1) xs h.2⟩
  termination_by structural xs => xs

theorem safeMembers_allStrings : ∀ ms : List (String × Json),
    Json.allStringsMembers RegistryFile.safeText ms = true →
      Json.allStringsMembers RegistryFile.safeText (safeMembers letter ms) = true
  | [], _ => rfl
  | (k, v) :: ms, h => by
    rw [Json.allStringsMembers, Bool.and_eq_true, Bool.and_eq_true] at h
    rw [safeMembers]
    split
    · exact safeMembers_allStrings ms h.2
    · rw [Json.allStringsMembers, Bool.and_eq_true, Bool.and_eq_true]
      exact ⟨⟨h.1.1, safe_allStrings v h.1.2⟩, safeMembers_allStrings ms h.2⟩
  termination_by structural ms => ms

end

end Lemmas

/-- `_safe(dict(d))` -/
def safe_dict (letter : Char → Bool) (d : Dict) : Dict :=
  ⟨safeMembers letter d.members, wf_safe d.json d.wf⟩

theorem get?_safe_dict {letter : Char → Bool} {k : String} (h : secret_key letter k = false) (d : Dict) :
    (safe_dict letter d).get? k = (d.get? k).map (safe letter) :=
  getMember_safeMembers h d.members

end SessionWatchdog

end Plachem
