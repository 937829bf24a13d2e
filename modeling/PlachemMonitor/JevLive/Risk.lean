import PlachemMonitor.JevLive.System
import PlachemMonitor.Text.Joined

/-!
# The risk gate

The patterns of `_risk_scope`. It joins the latest request and the last commands of a session, masks the
phrases that rule a risk out, and then looks for `_RISK_PATTERNS`.

* `masked_joined`: where no phrase lies over a border of the texts, they are masked one by one.
* `risk_seen`: so a text that is risky on its own keeps the session from being recovered.
-/

namespace Plachem

namespace JevLive

open Regex

/-! ## Patterns -/

/-- `\bword\b` -/
def word (r : Reg) : Reg := cat [.boundary, r, .boundary]

/-- `a\s+b` -/
def two_words (a b : String) : Reg := cat [lit a, plus space, lit b]

/-- `a\s*b` -/
def loose (a : String) (b : Reg) : Reg := cat [lit a, .star space, b]

/-- `_RISK_PATTERNS` -/
def RISK_PATTERNS : List (String × Reg) :=
  [("\\bproduction\\b", word (lit "production")), ("\\bprod\\b", word (lit "prod")),
    ("\\bdeploy\\b", word (lit "deploy")), ("\\bgit\\s+push\\b", word (two_words "git" "push")),
    ("\\bmerge\\b", word (lit "merge")), ("\\brm\\s+-", cat [.boundary, two_words "rm" "-"]),
    ("\\bdrop\\s+table\\b", word (two_words "drop" "table")), ("\\btruncate\\b", word (lit "truncate")),
    ("\\bsystemctl\\s+restart\\b", word (two_words "systemctl" "restart")),
    ("\\bservice\\s+restart\\b", word (two_words "service" "restart")),
    ("\\bdelete\\b", word (lit "delete")), ("\\bexternal\\s+send\\b", word (two_words "external" "send")),
    ("운영\\s*(서버|DB|디비|환경|배포)",
      loose "운영" (any [lit "서버", lit "DB", lit "디비", lit "환경", lit "배포"])),
    ("배포", lit "배포"), ("삭제", lit "삭제"), ("재시작", lit "재시작"), ("외부\\s*발송", loose "외부" (lit "발송")),
    ("권한\\s*(변경|수정)", loose "권한" (any [lit "변경", lit "수정"])),
    ("DB\\s*(write|update|delete|insert)",
      loose "DB" (any [lit "write", lit "update", lit "delete", lit "insert"]))]

/-- What rules a risk out, in the order in which it is masked. -/
def MASKED_PATTERNS : List Reg :=
  [word (cat [lit "non", opt (.char fun c => c == '-' || c == ' '), lit "production"]),
    loose "비" (lit "production"), word (two_words "no" "production"), word (two_words "no" "deployment"),
    word (cat [lit "do", plus space, lit "not", plus space,
      any [lit "deploy", lit "push", lit "merge", lit "delete", lit "restart", lit "send"]]),
    word (cat [any [lit "production", lit "deployment", lit "deploy", lit "merge", lit "delete"], plus space,
      any [lit "forbidden", lit "prohibited", two_words "not" "allowed"]]),
    cat [any [lit "운영", lit "배포", lit "삭제", lit "재시작", loose "외부" (lit "발송"),
        loose "권한" (lit "변경")], .star space,
      any [lit "금지", loose "하지" (lit "마"), lit "없음", loose "안" (lit "함")]]]

def SAFE_BOUNDARY : String := "SAFE_BOUNDARY"

def DESTRUCTIVE_PATTERNS : List Reg := [lit "delete", lit "삭제", lit "drop", lit "truncate", two_words "rm" "-"]

def EXTERNAL_SEND : Reg := any [loose "외부" (lit "발송"), two_words "external" "send"]

/-! ## The gate -/

section Gate

variable (letter : Char → Bool)

/-- The text with the phrases masked. -/
def mask (masks : List Reg) (text : List Char) : List Char :=
  masks.foldl (fun text r => sub letter r SAFE_BOUNDARY.toList text) text

/-- The patterns that are found once the phrases are masked. -/
def matched_risks (text : String) : List String :=
  let risk_text := mask letter MASKED_PATTERNS text.toList
  (RISK_PATTERNS.filter fun p => found letter p.2 risk_text).map Prod.fst

/-- The expressions of `_risk_scope`. -/
def Config.withPatterns (cfg : Config) : Config :=
  { cfg with
    risk_matches := matched_risks letter
    destructive := fun text => DESTRUCTIVE_PATTERNS.any fun r => found letter r text.toList
    external_send := fun text => found letter EXTERNAL_SEND text.toList }

/-- No masked phrase lies over a border of the texts, also not of what the earlier masks have made of them. -/
def maskedApart : List Reg → List (List Char) → Bool
  | [], _ => true
  | r :: masks, texts =>
    apart letter r none texts && maskedApart masks (texts.map (sub letter r SAFE_BOUNDARY.toList))

/-- What the gate reads. -/
def Context.texts (ctx : Context) : List String := ctx.latest_user :: ctx.command_texts

end Gate

section Seen

variable {letter : Char → Bool} {cfg : Config} {ctx : Context} {masks : List Reg} {texts : List (List Char)}

theorem toList_joined (texts : List String) :
    ("\n".intercalate texts).toList = joined (texts.map String.toList) := by
  rw [String.toList_intercalate]
  induction texts with
  | nil => rfl
  | cons text texts ih =>
    cases texts with
    | nil => exact List.append_nil _
    | cons second texts => exact congrArg (text.toList ++ '\n' :: ·) ih

theorem masked_joined (h : maskedApart letter masks texts = true) :
    mask letter masks (joined texts) = joined (texts.map (mask letter masks)) := by
  induction masks generalizing texts with
  | nil => exact congrArg joined (List.map_id texts).symm
  | cons r masks ih =>
    rw [maskedApart, Bool.and_eq_true] at h
    rw [mask, List.foldl_cons, sub_joined h.1]
    exact (ih h.2).trans (congrArg joined List.map_map)

theorem matched_risks_iff {text : String} : matched_risks letter text ≠ [] ↔
    ∃ p ∈ RISK_PATTERNS, found letter p.2 (mask letter MASKED_PATTERNS text.toList) = true := by
  rw [matched_risks, Ne, List.map_eq_nil_iff, List.filter_eq_nil_iff]
  simp only [not_forall, not_not, exists_prop]

/-- A text that is risky on its own is seen among the others. -/
theorem matched_risks_joined {texts : List String}
    (hapart : maskedApart letter MASKED_PATTERNS (texts.map String.toList) = true)
    (hrisk : ∃ text ∈ texts, matched_risks letter text ≠ []) : matched_risks letter ("\n".intercalate texts) ≠ [] := by
  obtain ⟨text, htext, hmatches⟩ := hrisk
  obtain ⟨p, hmem, hfound⟩ := matched_risks_iff.mp hmatches
  have hmasked : mask letter MASKED_PATTERNS text.toList ∈
      (texts.map String.toList).map (mask letter MASKED_PATTERNS) :=
    List.mem_map_of_mem (f := mask letter MASKED_PATTERNS) (List.mem_map_of_mem htext)
  have hjoined : found letter p.2 (mask letter MASKED_PATTERNS ("\n".intercalate texts).toList) = true := by
    rw [toList_joined, masked_joined hapart]
    exact found_joined ⟨_, hmasked, hfound⟩
  exact matched_risks_iff.mpr ⟨p, hmem, hjoined⟩

end Seen

/-- A session with a risky text is not recovered, unless a phrase that rules a risk out lies over two of its
texts. -/
theorem risk_seen {letter : Char → Bool} {cfg : Config} {ctx : Context}
    (hapart : maskedApart letter MASKED_PATTERNS (ctx.texts.map String.toList) = true)
    (hrisk : ∃ text ∈ ctx.texts, matched_risks letter text ≠ []) :
    (risk_scope (cfg.withPatterns letter) ctx).auto_recovery_allowed = false ∧
      (risk_scope (cfg.withPatterns letter) ctx).production = true := by
  have hmatches : ((cfg.withPatterns letter).risk_matches ("\n".intercalate ctx.texts)).isEmpty = false :=
    List.isEmpty_eq_false_iff.mpr (matched_risks_joined hapart hrisk)
  rw [Context.texts] at hmatches
  simp only [risk_scope, hmatches, Bool.not_false, Bool.or_true, Bool.not_true, Bool.false_and, and_self]

namespace Sample

/-- The request forbids one thing, and a command does another. -/
def pushing : Context where
  session_key := "agent:main:task"
  status := "running"
  started_at := none
  channel := "web"
  latest_user := "do not delete"
  command_texts := ["ls", "git push"]
  recent_assistant_texts := []
  latest_run := ⟨false, none, false, false, false, "", none⟩
  run_id := none

end Sample

theorem risk_seen_sample :
    (risk_scope (Sample.config.withPatterns fun _ => false) Sample.pushing).auto_recovery_allowed = false ∧
      (risk_scope (Sample.config.withPatterns fun _ => false) Sample.pushing).production = true :=
  risk_seen (by decide +kernel) ⟨"git push", by decide +kernel, by decide +kernel⟩

end JevLive

end Plachem
