import PlachemMonitor.JevLive.Session

/-!
# The recovery handoff

`_write_code_handoff` writes the file that a recovery session starts from, and `HandoffWriter.validate`
reads it back: no session is aborted before it has passed.
-/

namespace Plachem

namespace JevLive

/-! ## `HandoffWriter` -/

def REQUIRED : List String :=
  ["Task", "Previous Agent", "Session ID", "Recovery Generation", "Completed Work", "Changed Files",
    "Test Results", "Current Problem", "Failed Methods", "Remaining Work", "Next Agent First Action"]

/-- `text.split(marker, 1)[1]`; `none` is an `IndexError`. -/
def after (marker : List Char) : List Char → Option (List Char)
  | [] => none
  | c :: cs =>
    if marker.isPrefixOf (c :: cs) then some ((c :: cs).drop marker.length) else after marker cs

/-- `text.split(marker, 1)[0]` -/
def before (marker : List Char) : List Char → List Char
  | [] => []
  | c :: cs => if marker.isPrefixOf (c :: cs) then [] else c :: before marker cs

def has_section (text : List Char) (name : String) : Bool :=
  match after ("## " ++ name ++ "\n").toList text with
  | none => false
  | some rest => !Text.isBlank (before "\n\n".toList rest)

/-- `HandoffWriter.validate` returns on a file with this content. -/
def validate (content : List Char) : Bool :=
  let text := Text.universalNewlines content
  !Text.isBlank text && REQUIRED.all (fun name => decide (("## " ++ name).toList <:+: text)) &&
    REQUIRED.all (has_section text)

/-! ## The content -/

/-- `_bounded_lines` -/
def bounded_lines (cfg : Config) (values : List String) (fallback : String) (limit width : Nat) :
    List String :=
  let out := (((values.map cfg.collapse).filter (· ≠ "")).map fun text =>
    String.ofList (text.toList.take width)).take limit
  if out = [] then [fallback] else out

def bullets (values : List String) : String := "\n".intercalate (values.map ("- " ++ ·))

/-- `source_ctx.get("latest_user")` and so on, of a context that may not be there. -/
def source_task (cfg : Config) (job : Job) (source : Option Context) : String :=
  let latest_user := cfg.collapse ((source.map Context.latest_user).getD "")
  let task := String.ofList (latest_user.toList.take 1200)
  if task = "" then "Continue unresolved task from source session " ++ job.session_id ++ "." else task

def test_lines (source : Option Context) : List String :=
  let run_status := ((source.bind fun c => c.latest_run.status).filter (· ≠ "")).getD "unknown"
  let run_id := (((source.bind fun c => c.latest_run.run_id).filter (· ≠ "")).or
    ((source.bind Context.run_id).filter (· ≠ ""))).getD "unavailable"
  ["Latest runtime run_id=" ++ run_id ++ "; status=" ++ run_status ++
    "; verify task-specific tests in the recovery session."]

def failed_methods (cfg : Config) (job : Job) (source : Option Context) : List String :=
  if cfg.upper job.kind ≠ "LOOP" then
    ["No single failed method was deterministically identified. " ++
      "Do not repeat any recent approach that produces the same no-progress state."]
  else
    bounded_lines cfg ((source.map Context.command_texts).getD [])
      ("Exact failed command unavailable; do not repeat the recent no-progress method identified by " ++
        "the watchdog.") 4 500

def current_problem (cfg : Config) (job : Job) : String :=
  let severity := cfg.text (some job.severity.json)
  "JEV recovery trigger=" ++ cfg.upper job.kind ++ ", severity=" ++
    (if severity = "" then "UNSPECIFIED" else severity) ++ ". " ++
    "The source session showed sustained no-progress/abnormal evidence and requires a fresh bounded " ++
    "recovery attempt."

/-- The content that `_write_code_handoff` writes. -/
def handoff_content (cfg : Config) (job : Job) (source : Option Context) (created_at : FloatText) :
    String :=
  let task := source_task cfg job source
  let completed := bounded_lines cfg ((source.map Context.recent_assistant_texts).getD [])
    "No verified completed-work summary is available from generic watchdog evidence." 3 700
  let remaining :=
    "Re-check current workspace/task state, preserve completed work, and finish only unresolved " ++
      "requirements from this source task: " ++ String.ofList (task.toList.take 800)
  let first_action :=
    "Read this handoff, inspect only directly relevant current task files/state, " ++
      "and continue with a method different from anything listed under Failed Methods."
  "# RECOVERY_HANDOFF\n\n" ++ "## Task\n" ++ task ++ "\n\n" ++
    "## Previous Agent\n" ++ job.agent_id ++ "\n\n" ++ "## Session ID\n" ++ job.session_id ++ "\n\n" ++
    "## Recovery Generation\n1\n\n" ++ "## Completed Work\n" ++ bullets completed ++ "\n\n" ++
    "## Changed Files\n- No changed-file evidence is available from the generic watchdog snapshot; " ++
    "verify current workspace state before editing.\n\n" ++
    "## Test Results\n" ++ bullets (test_lines source) ++ "\n\n" ++
    "## Current Problem\n" ++ current_problem cfg job ++ "\n\n" ++
    "## Failed Methods\n" ++ bullets (failed_methods cfg job source) ++ "\n\n" ++
    "## Remaining Work\n- " ++ remaining ++ "\n\n" ++
    "## Next Agent First Action\n" ++ first_action ++ "\n\n" ++
    "## Recovery Metadata\n" ++ "- source_session_key: " ++ job.session_key ++ "\n" ++
    "- writer: deterministic-code\n" ++ "- created_at: " ++ String.ofList created_at.text ++ "\n\n" ++
    "## Safety\n- This handoff is evidence, not authorization. Preserve original approval/policy " ++
    "boundaries.\n"

end JevLive

end Plachem
