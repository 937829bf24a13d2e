import PlachemMonitor.Json.Scan
import PlachemMonitor.Spec.Result
import PlachemMonitor.Text.Lines

/-!
# The history of live recovery

`_append` writes one record a line to `LIVE_HISTORY`, and what recovery knows of its past it finds by
reading the newest lines back. The lines of the reader are those of `str.splitlines`: a record with a
line separator in one of its texts comes back in pieces (`fragments`), and as many lines count for it.

* `lines_eq`: the lines are those of the records, one after the other.
* `attempt_seen`, `dispatch_seen`: a whole record with few enough lines after it is found.
-/

namespace Plachem

namespace JevLive

/-- What the functions raise. -/
inductive LiveError where
  | runtime (message : String)
  | value (message : String)
  /-- `.get` of a line that is no dictionary. -/
  | attribute
  /-- A list or a dictionary in a set. -/
  | type
  deriving DecidableEq

/-! ## Lines -/

/-- The line of a record. -/
def line (record : Dict) : List Char := Json.layout [' '] false record.sorted.json

/-- `LIVE_HISTORY` after these records. -/
def text (records : List Dict) : List Char := (records.map line).flatMap (· ++ ['\n'])

/-- `LIVE_HISTORY.read_text(encoding="utf-8").splitlines()` -/
def lines (records : List Dict) : List (List Char) := Text.readLines (text records)

/-- `xs[-limit:]` -/
def newest {α : Type} (limit : Nat) (xs : List α) : List α := xs.drop (xs.length - limit)

/-- What `json.loads` reads of the newest lines. -/
def rows (limit : Nat) (records : List Dict) : List Value :=
  (newest limit (lines records)).filterMap loadsValue

/-- The lines that a record is read back as. -/
def fragments (record : Dict) : List (List Char) := Text.readLines (line record ++ ['\n'])

/-- No text of the record has a line separator. -/
def Whole (record : Dict) : Prop := ∀ c ∈ line record, Text.isLineBreak c = false

instance (record : Dict) : Decidable (Whole record) := inferInstanceAs (Decidable (∀ c ∈ line record, _))

theorem lines_eq (records : List Dict) : lines records = records.flatMap fragments := by
  rw [lines, text, Text.readLines_flatMap, List.flatMap_map]
  rfl

theorem fragments_whole {record : Dict} (h : Whole record) : fragments record = [line record] :=
  Text.readLines_whole h

theorem loads_line (record : Dict) : (loadsValue (line record)).bind Value.dict? = some record.sorted := by
  obtain ⟨hv, h⟩ := loadsValue_eq_some
    (@Json.loads_layout [' '] (List.forall_mem_singleton.mpr rfl) false record.sorted.json record.sorted.wf)
  rw [line, h]
  rfl

/-- A record that is followed by few lines is read. -/
theorem newest_lines {limit : Nat} (pre : List Dict) {post : List Dict} {record : Dict} (h : Whole record)
    (hfew : (post.flatMap fragments).length < limit) :
    ∃ before, newest limit (lines (pre ++ record :: post)) =
      before ++ line record :: post.flatMap fragments := by
  rw [lines_eq, List.flatMap_append, List.flatMap_cons, fragments_whole h, List.singleton_append]
  refine ⟨(pre.flatMap fragments).drop
    ((pre.flatMap fragments ++ line record :: post.flatMap fragments).length - limit), ?_⟩
  rw [newest, List.drop_append_of_le_length]
  simp only [List.length_append, List.length_cons]
  omega

/-! ## Attempts -/

/-- The phases that count as an attempt. -/
def ATTEMPT_PHASES : List String := ["A_HANDOFF", "B_TERMINATE", "C_RESTART", "D_ACK", "E_COMPLETE"]

/-- The body of the loop of `_recovery_attempt_exists`: whether it returns. -/
def attempt_row (session_id : String) (row : Dict) : Except LiveError Bool :=
  if row.get? "source_session_id" ≠ some (.str session_id) then .ok false
  else if row.get? "type" = some (.str "live_recovery_phase") then
    match row.get? "phase" with
    | some (.arr _) | some (.obj _) => .error .type
    | some (.str phase) => .ok (decide (phase ∈ ATTEMPT_PHASES))
    | _ => .ok false
  else .ok (decide (row.get? "type" = some (.str "live_recovery_outcome")))

def attempt_scan (session_id : String) : List Value → Except LiveError Bool
  | [] => .ok false
  | row :: rows =>
    match row.dict? with
    | none => .error .attribute
    | some row => do
      if ← attempt_row session_id row then pure true
      else attempt_scan session_id rows

/-- `_recovery_attempt_exists` -/
def recovery_attempt_exists (records : List Dict) (session_id : String) : Except LiveError Bool :=
  attempt_scan session_id (rows 2000 records).reverse

/-- The record tells of a recovery of the session. -/
def Attempt (session_id : String) (record : Dict) : Prop :=
  record.get? "source_session_id" = some (.str session_id) ∧
    (record.get? "type" = some (.str "live_recovery_phase") ∧
        (∃ phase ∈ ATTEMPT_PHASES, record.get? "phase" = some (.str phase)) ∨
      record.get? "type" = some (.str "live_recovery_outcome"))

theorem attempt_row_of {session_id : String} {record : Dict} (h : Attempt session_id record) :
    attempt_row session_id record.sorted = .ok true := by
  obtain ⟨hsession, ⟨htype, phase, hmem, hphase⟩ | htype⟩ := h
  · simp [attempt_row, hsession, htype, hphase, hmem, Json.sortKeys]
  · simp [attempt_row, hsession, htype, Json.sortKeys]

/-- A scan that finds nothing has seen no attempt. -/
theorem attempt_scan_false {session_id : String} {rows : List Value}
    (h : attempt_scan session_id rows = .ok false) :
    ∀ row ∈ rows, ∃ d, row.dict? = some d ∧ attempt_row session_id d = .ok false := by
  induction rows with
  | nil => simp
  | cons row rows ih =>
    rw [attempt_scan] at h
    split at h
    · cases h
    rename_i d hd
    obtain ⟨found, hrow, h⟩ := bind_eq_ok.mp h
    cases found with
    | true => cases h
    | false =>
      intro r hr
      rcases List.mem_cons.mp hr with rfl | hr
      · exact ⟨d, hd, hrow⟩
      · exact ih h r hr

/-- An attempt that is whole, with fewer than 2000 lines after it, is not overlooked. -/
theorem attempt_seen {session_id : String} {pre post : List Dict} {record : Dict}
    (hrecord : Attempt session_id record) (h : Whole record)
    (hfew : (post.flatMap fragments).length < 2000) :
    recovery_attempt_exists (pre ++ record :: post) session_id ≠ .ok false := by
  intro hscan
  obtain ⟨before, hnewest⟩ := newest_lines pre h hfew
  have hloads := loads_line record
  obtain ⟨row, hrow, hdict⟩ := Option.bind_eq_some_iff.mp hloads
  have hmem : row ∈ (rows 2000 (pre ++ record :: post)).reverse := by
    rw [List.mem_reverse, rows, hnewest]
    exact List.mem_filterMap.mpr ⟨line record, by simp, hrow⟩
  obtain ⟨d, hd, hnot⟩ := attempt_scan_false hscan row hmem
  rw [hdict] at hd
  obtain rfl := Option.some.inj hd
  rw [attempt_row_of hrecord] at hnot
  cases hnot

/-! ## Nudges -/

/-- The last dispatch of a nudge, and what resolves it. -/
abbrev NudgeState := Option Dict × Option Dict

/-- The body of the loop of `_latest_nudge_state`. -/
def nudge_row (session_id : String) (state : NudgeState) (row : Value) :
    Except LiveError NudgeState :=
  match row.dict? with
  | none => .error .attribute
  | some row =>
    if row.get? "session_id" ≠ some (.str session_id) then .ok state
    else if row.get? "type" = some (.str "live_nudge_dispatch") then .ok (some row, none)
    else
      match state.1 with
      | none => .ok state
      | some dispatch =>
        if row.get? "dispatch_id" ≠ dispatch.get? "dispatch_id" then .ok state
        else
          match row.get? "type" with
          | some (.arr _) | some (.obj _) => .error .type
          | some (.str type) =>
            .ok (if type ∈ ["live_nudge_outcome", "live_nudge_error"] then (some dispatch, some row)
              else state)
          | _ => .ok state

/-- `_latest_nudge_state` -/
def latest_nudge_state (records : List Dict) (session_id : String) : Except LiveError NudgeState :=
  (rows 2000 records).foldlM (nudge_row session_id) (none, none)

/-- The record tells of a nudge of the session. -/
def NudgeOf (session_id : String) (record : Dict) : Prop :=
  record.get? "session_id" = some (.str session_id) ∧
    record.get? "type" = some (.str "live_nudge_dispatch")

instance (session_id : String) (record : Dict) : Decidable (NudgeOf session_id record) :=
  inferInstanceAs (Decidable (_ ∧ _))

theorem nudge_row_dispatch {session_id : String} {record : Dict} {row : Value} {state : NudgeState}
    (h : NudgeOf session_id record) (hrow : row.dict? = some record.sorted) :
    nudge_row session_id state row = .ok (some record.sorted, none) := by
  simp [nudge_row, hrow, h.1, h.2, Json.sortKeys]

/-- Only the row of a dispatch replaces the dispatch. -/
theorem nudge_row_other {session_id : String} {row : Value} {state state' : NudgeState}
    (h : ∀ d, row.dict? = some d → ¬ NudgeOf session_id d)
    (hstep : nudge_row session_id state row = .ok state') : state'.1 = state.1 := by
  unfold nudge_row at hstep
  split at hstep
  · cases hstep
  rename_i d hd
  split at hstep
  · cases hstep
    rfl
  rename_i hsession
  split at hstep
  · rename_i htype
    exact absurd ⟨not_not.mp hsession, htype⟩ (h d hd)
  split at hstep
  · cases hstep
    rfl
  rename_i dispatch hdispatch
  split at hstep
  · cases hstep
    rfl
  split at hstep
  · cases hstep
  · cases hstep
  · cases hstep
    split
    · exact hdispatch.symm
    · rfl
  · cases hstep
    rfl

/-- These records are fewer than 2000 lines, and none of the lines reads as a nudge of the session. -/
def Clear (session_id : String) (records : List Dict) : Prop :=
  (records.flatMap fragments).length < 2000 ∧ ∀ row ∈ (records.flatMap fragments).filterMap loadsValue,
    ∀ d, row.dict? = some d → ¬ NudgeOf session_id d

/-- The last dispatch is found, if it is whole and nothing of what follows it is in the way. -/
theorem dispatch_seen {session_id : String} {pre post : List Dict} {record : Dict}
    {state : NudgeState} (hrecord : NudgeOf session_id record) (h : Whole record)
    (hpost : Clear session_id post)
    (hstate : latest_nudge_state (pre ++ record :: post) session_id = .ok state) :
    state.1 = some record.sorted := by
  obtain ⟨before, hnewest⟩ := newest_lines pre h hpost.1
  obtain ⟨row, hrow, hdict⟩ := Option.bind_eq_some_iff.mp (loads_line record)
  rw [latest_nudge_state, rows, hnewest, List.filterMap_append, List.filterMap_cons, hrow,
    List.foldlM_append] at hstate
  obtain ⟨s₀, -, hstate⟩ := bind_eq_ok.mp hstate
  rw [List.foldlM_cons] at hstate
  obtain ⟨s₁, hs₁, hstate⟩ := bind_eq_ok.mp hstate
  rw [nudge_row_dispatch hrecord hdict] at hs₁
  cases hs₁
  -- the rows after it leave the dispatch as it is
  have hrest : ∀ (rs : List Value) (s s' : NudgeState),
      (∀ row ∈ rs, ∀ d, row.dict? = some d → ¬ NudgeOf session_id d) →
      rs.foldlM (nudge_row session_id) s = .ok s' → s'.1 = s.1 := by
    intro rs
    induction rs with
    | nil =>
      intro s s' _ hfold
      cases hfold
      rfl
    | cons row rs ih =>
      intro s s' hrs hfold
      rw [List.foldlM_cons] at hfold
      obtain ⟨s₁, hs₁, hfold⟩ := bind_eq_ok.mp hfold
      rw [ih s₁ s' (fun r hr => hrs r (by simp [hr])) hfold]
      exact nudge_row_other (hrs row (by simp)) hs₁
  exact hrest _ _ _ hpost.2 hstate

end JevLive

end Plachem
