import PlachemMonitor.Json.Scan
import PlachemMonitor.Text.Regex

/-!
# Redaction

`_redact` of `war_room`, of a JSON value: what stands under a sensitive key, and what looks like a secret, is
replaced, and long texts are cut. The keys stay, so a value without double keys stays one (`wf_redact`).
-/

namespace Plachem

namespace WarRoom

namespace Redact

open Regex

/-! ## Patterns -/

/-- `[_-]` -/
def joint : Reg := .char fun c => c == '_' || c == '-'

/-- `[:=]` -/
def assignment : Reg := .char fun c => c == ':' || c == '='

/-- `api[_-]?key` -/
def api_key : Reg := cat [lit "api", opt joint, lit "key"]

/-- `private[_-]?key` -/
def private_key : Reg := cat [lit "private", opt joint, lit "key"]

/-- `(?:sk|ghp|xox[baprs])` -/
def vendor : Reg :=
  any [lit "sk", lit "ghp", cat [lit "xox", .char fun c => ['b', 'a', 'p', 'r', 's'].contains (fold c)]]

def SENSITIVE_KEY_PATTERN : Reg :=
  any [lit "token", lit "secret", api_key, lit "password", lit "credential", lit "authorization", lit "cookie",
    lit "oauth", private_key]

def SENSITIVE_VALUE_PATTERN : Reg :=
  let plain := .char fun c => !Text.isWhitespace c && c != ',' && c != ';'
  any [cat [.boundary, lit "bearer", plus space, atLeast 8 (alnum ['.', '_', '~', '+', '/', '=', '-'])],
    cat [.boundary,
      any [lit "token", lit "secret", lit "credential", lit "password", api_key, lit "authorization",
        lit "cookie", lit "oauth", private_key],
      .star space, assignment, .star space, atLeast 4 plain],
    cat [.boundary, vendor, joint, atLeast 8 (alnum ['.', '_', '-'])],
    cat [.boundary, atLeast 4 (alnum []), joint,
      any [lit "token", lit "secret", lit "credential", lit "password"], .boundary]]

def OPAQUE_SECRET_PATTERN : Reg :=
  any [cat [.boundary,
      any [lit "token", lit "secret", lit "credential", lit "password", api_key, lit "oauth", lit "cookie"],
      .boundary, .star space, assignment, .star space,
      atLeast 8 (alnum ['.', '_', '~', '+', '/', '=', '-'])],
    cat [.boundary, vendor, joint, atLeast 8 (alnum ['.', '_', '-']), .boundary]]

def MAX_PUBLIC_STRING_LENGTH : ℕ := 4096

def REDACTED : String := "***REDACTED***"

section Values

variable (letter : Char → Bool)

/-- `_redact_string` -/
def redact_string (value : String) : String :=
  let text :=
    if MAX_PUBLIC_STRING_LENGTH < value.toList.length then value.toList.take MAX_PUBLIC_STRING_LENGTH ++ ['…']
    else value.toList
  if found letter SENSITIVE_VALUE_PATTERN text || found letter OPAQUE_SECRET_PATTERN text then REDACTED
  else String.ofList text

mutual

/-- `_redact` -/
def redact : Json → Json
  | .str s => .str (redact_string letter s)
  | .arr xs => .arr (redactElems xs)
  | .obj ms => .obj (redactMembers ms)
  | .null => .null
  | .bool b => .bool b
  | .int n => .int n
  | .float t => .float t
  termination_by structural v => v

def redactElems : List Json → List Json
  | [] => []
  | x :: xs => redact x :: redactElems xs
  termination_by structural xs => xs

def redactMembers : List (String × Json) → List (String × Json)
  | [] => []
  | (k, v) :: ms =>
    if found letter SENSITIVE_KEY_PATTERN k.toList then
      (k, if v = .null then .null else .str REDACTED) :: redactMembers ms
    else (k, redact v) :: redactMembers ms
  termination_by structural ms => ms

end

end Values

section Lemmas

variable {letter : Char → Bool}

theorem keys_redactMembers (ms : List (String × Json)) :
    (redactMembers letter ms).map Prod.fst = ms.map Prod.fst := by
  induction ms with
  | nil => rfl
  | cons m ms ih =>
    rw [redactMembers, List.map_cons, ← ih]
    split <;> rfl

mutual

theorem wf_redact : ∀ v : Json, v.wf = true → (redact letter v).wf = true
  | .arr xs, h => wf_redactElems xs h
  | .obj ms, h => by
    rw [Json.wf, Bool.and_eq_true] at h
    rw [redact, Json.wf, Bool.and_eq_true, keys_redactMembers]
    exact ⟨h.1, wf_redactMembers ms h.2⟩
  | .str _, _ | .null, _ | .bool _, _ | .int _, _ | .float _, _ => rfl
  termination_by structural v => v

theorem wf_redactElems : ∀ xs : List Json, Json.wfElems xs = true → Json.wfElems (redactElems letter xs) = true
  | [], _ => rfl
  | x :: xs, h => by
    rw [Json.wfElems, Bool.and_eq_true] at h
    rw [redactElems, Json.wfElems, Bool.and_eq_true]
    exact ⟨wf_redact x h.1, wf_redactElems xs h.2⟩
  termination_by structural xs => xs

theorem wf_redactMembers :
    ∀ ms : List (String × Json), Json.wfMembers ms = true → Json.wfMembers (redactMembers letter ms) = true
  | [], _ => rfl
  | (k, v) :: ms, h => by
    rw [Json.wfMembers, Bool.and_eq_true] at h
    have hrest := wf_redactMembers ms h.2
    rw [redactMembers]
    split
    · rw [Json.wfMembers, Bool.and_eq_true]
      refine ⟨?_, hrest⟩
      split <;> rfl
    · rw [Json.wfMembers, Bool.and_eq_true]
      exact ⟨wf_redact v h.1, hrest⟩
  termination_by structural ms => ms

end

end Lemmas

/-- `_redact` of a dictionary. -/
def redact_dict (letter : Char → Bool) (d : Dict) : Dict :=
  ⟨redactMembers letter d.members, wf_redact d.json d.wf⟩

/-- What does not stand under a sensitive key is redacted by itself. -/
theorem get?_redact_dict {letter : Char → Bool} {k : String}
    (h : found letter SENSITIVE_KEY_PATTERN k.toList = false) (d : Dict) :
    (redact_dict letter d).get? k = (d.get? k).map (redact letter) := by
  show Json.getMember (redactMembers letter d.members) k = (Json.getMember d.members k).map _
  induction d.members with
  | nil => rfl
  | cons m ms ih =>
    rw [redactMembers]
    by_cases hk : m.1 = k
    · rw [hk, h]
      simp [Json.getMember, hk]
    · have hother : Json.getMember (m :: ms) k = Json.getMember ms k := by simp [Json.getMember, hk]
      rw [hother, ← ih]
      split <;> simp [Json.getMember, hk]

end Redact

end WarRoom

end Plachem
