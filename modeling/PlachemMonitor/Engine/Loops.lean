import Mathlib.Data.List.DropRight
import Mathlib.Data.List.Infix
import PlachemMonitor.Spec.Table
import PlachemMonitor.Spec.Unwinding

/-!
# Loop detection

`RunScopedLoopDetector`: the tail of the output of each scope, and when a repeated unit of it was
last reported. Texts are lists of characters here. The calls hold the lock of the detector, so a run
is a list of calls, each with the reading of the clock that it takes if it takes one.

What is reported of a scope, and the tail that is kept of it, depend on the calls on that scope alone
(`isolated`).
-/

namespace Plachem

namespace LoopDetector

/-- The last characters of a text are those of its end and what is added. -/
theorem rtake_rtake_append {α : Type} (n : Nat) (l m : List α) :
    (l.rtake n ++ m).rtake n = (l ++ m).rtake n := by
  unfold List.rtake
  rw [List.drop_append, List.drop_append, List.drop_drop]
  simp only [List.length_append, List.length_drop]
  congr 2 <;> omega

/-! ## Repeated units -/

/-- What the detector knows of Unicode. -/
structure Unicode where
  /-- `str.casefold` -/
  casefold : List Char → List Char
  /-- A character that matches `[^\W_]`. -/
  word : Char → Bool

def normalize (unicode : Unicode) (value : List Char) : List Char :=
  (unicode.casefold value).filter unicode.word

/-- `LoopDetectorConfig`; the fields below the texts are what `__post_init__` checks. -/
structure LoopDetectorConfig (τ : Type) where
  tail_chars : Nat
  min_unit_chars : Nat
  max_unit_chars : Nat
  min_repeats : Nat
  cooldown_seconds : τ
  exception_patterns : List String
  tail_pos : 1 ≤ tail_chars
  unit_pos : 1 ≤ min_unit_chars
  units : min_unit_chars ≤ max_unit_chars
  repeats : 2 ≤ min_repeats

structure RepeatedSuffix where
  repeat_count : Nat
  unit_chars : Nat
  deriving DecidableEq

/-- The loop of `repeated_suffix` that counts the units before `cursor`; `size` is positive, so it has
ended after `cursor` turns. -/
def units_before (text unit : List Char) (size : Nat) : Nat → Nat → Nat
  | 0, _ => 0
  | fuel + 1, cursor =>
    if size ≤ cursor ∧ (text.drop (cursor - size)).take size = unit then
      units_before text unit size fuel (cursor - size) + 1
    else 0

/-- The repetitions of the last `size` characters. -/
def repeat_count (text : List Char) (size : Nat) : Nat :=
  let cursor := text.length - size
  units_before text (text.rtake size) size cursor cursor + 1

/-- Before `cursor` stand as many units as are counted. -/
theorem units_before_spec (text unit : List Char) (size fuel : Nat) {cursor : Nat}
    (hcursor : cursor ≤ text.length) :
    units_before text unit size fuel cursor * size ≤ cursor ∧
      ∃ before, text.take cursor =
        before ++ (List.replicate (units_before text unit size fuel cursor) unit).flatten := by
  induction fuel generalizing cursor with
  | zero => exact ⟨by simp [units_before], text.take cursor, by simp [units_before]⟩
  | succ fuel ih =>
    rw [units_before]
    split
    · rename_i hunit
      obtain ⟨hle, before, hbefore⟩ := ih ((Nat.sub_le cursor size).trans hcursor)
      refine ⟨by rw [Nat.succ_mul]; omega, before, ?_⟩
      have hsplit : text.take cursor =
          text.take (cursor - size) ++ (text.drop (cursor - size)).take size := by
        rw [← List.take_add, Nat.sub_add_cancel hunit.1]
      rw [hsplit, hbefore, hunit.2, List.append_assoc, List.replicate_succ', List.flatten_append]
      simp
    · exact ⟨by simp, text.take cursor, by simp⟩

/-- A text ends with its repeated unit. -/
theorem repeat_count_spec (text : List Char) (size : Nat) :
    ∃ before, text =
      before ++ (List.replicate (repeat_count text size) (text.rtake size)).flatten := by
  obtain ⟨-, before, hbefore⟩ := units_before_spec text (text.rtake size) size
    (text.length - size) (Nat.sub_le text.length size)
  refine ⟨before, ?_⟩
  unfold repeat_count
  rw [List.replicate_succ', List.flatten_append, ← List.append_assoc, ← hbefore]
  simp [List.rtake]

variable {τ : Type}

def repeated_suffix (unicode : Unicode) (config : LoopDetectorConfig τ) (value : List Char) :
    Option RepeatedSuffix :=
  let text := normalize unicode value
  let largest := min config.max_unit_chars (text.length / config.min_repeats)
  ((List.range (largest + 1 - config.min_unit_chars)).map (config.min_unit_chars + ·)).findSome?
    fun size =>
      let count := repeat_count text size
      if config.min_repeats ≤ count then some ⟨count, size⟩ else none

/-! ## The detector -/

/-- `RunScope` -/
structure RunScope where
  core_run_id : String
  openclaw_run_id : String
  session_key : String
  agent_id : String
  fields : ∀ value ∈ [core_run_id, openclaw_run_id, session_key, agent_id], value ≠ ""
  deriving DecidableEq

/-- The event `LOOP_SUSPECTED`. -/
structure LoopEvent where
  core_run_id : String
  openclaw_run_id : String
  sessionKey : String
  agentId : String
  repeat_count : Nat
  unit_chars : Nat
  deriving DecidableEq

/-- `RunScopedLoopDetector` -/
structure Detector (τ : Type) where
  tails : Table (RunScope × List Char) Prod.fst
  last_events : Table ((RunScope × String) × τ) Prod.fst

namespace Detector

def init : Detector τ := ⟨.empty, .empty⟩

/-- `self._tails.get(scope, "")` -/
def tail (detector : Detector τ) (scope : RunScope) : List Char :=
  ((detector.tails.find scope).map Prod.snd).getD []

/-- `self._last_events.get((scope, signature))` -/
def last_event (detector : Detector τ) (scope : RunScope) (signature : String) : Option τ :=
  (detector.last_events.find (scope, signature)).map Prod.snd

def set_tail (detector : Detector τ) (scope : RunScope) (tail : List Char) : Detector τ :=
  { detector with tails := detector.tails.upsert (scope, tail) fun r => (r.1, tail) }

def set_last_event (detector : Detector τ) (scope : RunScope) (signature : String) (now : τ) :
    Detector τ :=
  { detector with
    last_events := detector.last_events.upsert ((scope, signature), now) fun r => (r.1, now) }

end Detector

section Calls

variable [Sub τ] [LT τ] [DecidableLT τ]
variable (unicode : Unicode) (sha256 : String → String) (config : LoopDetectorConfig τ)

/-- A text that matches an exception pattern. -/
def excepted (repeated_unit : List Char) : Bool :=
  config.exception_patterns.any fun pattern =>
    decide (normalize unicode pattern.toList <:+: repeated_unit)

/-- The part of `observe` after the tail. -/
def report (detector : Detector τ) (scope : RunScope) (tail : List Char) (now : τ) :
    Option LoopEvent × Detector τ :=
  let normalized := normalize unicode tail
  match repeated_suffix unicode config normalized with
  | none => (none, detector)
  | some found =>
    let repeated_unit := normalized.rtake found.unit_chars
    if excepted unicode config repeated_unit then (none, detector)
    else
      let signature := sha256 (String.ofList repeated_unit)
      if ∃ last ∈ detector.last_event scope signature, now - last < config.cooldown_seconds then
        (none, detector)
      else
        (some ⟨scope.core_run_id, scope.openclaw_run_id, scope.session_key, scope.agent_id,
          found.repeat_count, found.unit_chars⟩, detector.set_last_event scope signature now)

def observe (detector : Detector τ) (scope : RunScope) (output : String) (now : τ) :
    Option LoopEvent × Detector τ :=
  let tail := (detector.tail scope ++ output.toList).rtake config.tail_chars
  report unicode sha256 config (detector.set_tail scope tail) scope tail now

end Calls

/-- `clear` -/
def clear (detector : Detector τ) (scope : RunScope) : Detector τ where
  tails := detector.tails.delete fun r => decide (r.1 = scope)
  last_events := detector.last_events.delete fun r => decide (r.1.1 = scope)

inductive Call (τ : Type) where
  | observe (scope : RunScope) (output : String) (now : τ)
  | clear (scope : RunScope)

def Call.scope : Call τ → RunScope
  | .observe scope _ _ | .clear scope => scope

section Runs

variable [Sub τ] [LT τ] [DecidableLT τ]
variable (unicode : Unicode) (sha256 : String → String) (config : LoopDetectorConfig τ)

def Call.run (detector : Detector τ) : Call τ → Option LoopEvent × Detector τ
  | .observe scope output now => LoopDetector.observe unicode sha256 config detector scope output now
  | .clear scope => (none, LoopDetector.clear detector scope)

end Runs

/-- What was said in the scope since it was cleared last. -/
def said (scope : RunScope) (before : List Char) : List (Call τ) → List Char
  | [] => before
  | .observe scope' output _ :: calls =>
    said scope (if scope' = scope then before ++ output.toList else before) calls
  | .clear scope' :: calls => said scope (if scope' = scope then [] else before) calls

/-! ## What a call reads and writes -/

section Detector

variable {detector : Detector τ} {scope scope' : RunScope} {signature : String}

theorem tail_set_tail (tail : List Char) :
    (detector.set_tail scope tail).tail scope' =
      if scope = scope' then tail else detector.tail scope' := by
  unfold Detector.tail Detector.set_tail
  rw [Table.find_upsert]
  by_cases hscope : scope = scope'
  · rw [if_pos hscope, if_pos hscope]
    cases detector.tails.find scope' with
    | none => rfl
    | some r => rfl
  · rw [if_neg hscope, if_neg hscope]

@[simp] theorem last_event_set_tail (tail : List Char) :
    (detector.set_tail scope tail).last_event scope' = detector.last_event scope' := rfl

@[simp] theorem tail_set_last_event (now : τ) :
    (detector.set_last_event scope signature now).tail scope' = detector.tail scope' := rfl

theorem last_event_set_last_event (now : τ) :
    (detector.set_last_event scope signature now).last_event scope' =
      if scope = scope' then Function.update (detector.last_event scope') signature (some now)
      else detector.last_event scope' := by
  funext signature'
  unfold Detector.last_event Detector.set_last_event
  rw [Table.find_upsert]
  by_cases hscope : scope = scope'
  · subst hscope
    rw [if_pos rfl]
    by_cases hsignature : signature' = signature
    · subst hsignature
      rw [if_pos rfl, Function.update_self]
      cases detector.last_events.find (scope, signature') with
      | none => rfl
      | some r => rfl
    · rw [Function.update_of_ne hsignature, if_neg]
      exact fun h => hsignature (Prod.mk.inj h).2.symm
  · rw [if_neg hscope, if_neg fun h => hscope (Prod.mk.inj h).1]

theorem tail_clear :
    (clear detector scope).tail scope' = if scope = scope' then [] else detector.tail scope' := by
  unfold Detector.tail clear
  rw [Table.find_delete]
  cases hfind : detector.tails.find scope' with
  | none => split <;> rfl
  | some r =>
    obtain ⟨-, rfl⟩ := Table.find_some hfind
    by_cases hscope : scope = r.1
    · rw [if_pos hscope, Option.filter_some_neg (by simp [hscope])]
      rfl
    · rw [if_neg hscope, Option.filter_some_pos (by simpa using Ne.symm hscope)]

theorem last_event_clear :
    (clear detector scope).last_event scope' =
      if scope = scope' then fun _ => none else detector.last_event scope' := by
  funext signature
  unfold Detector.last_event clear
  rw [Table.find_delete]
  cases hfind : detector.last_events.find (scope', signature) with
  | none =>
    split
    · rfl
    · dsimp only
      rw [hfind]
      rfl
  | some r =>
    obtain ⟨-, hkey⟩ := Table.find_some hfind
    have hr : r.1.1 = scope' := congrArg Prod.fst hkey
    by_cases hscope : scope = scope'
    · rw [if_pos hscope, Option.filter_some_neg (by simp [hr, hscope])]
      rfl
    · rw [if_neg hscope, Option.filter_some_pos (by simpa [hr] using Ne.symm hscope), hfind]

end Detector

section Reads

variable [Sub τ] [LT τ] [DecidableLT τ] {unicode : Unicode} {sha256 : String → String}
  {config : LoopDetectorConfig τ} {detector detector' : Detector τ} {scope scope' : RunScope}

/-- A report changes no tail. -/
theorem report_tail (tail : List Char) (now : τ) :
    (report unicode sha256 config detector scope tail now).2.tail scope' = detector.tail scope' := by
  unfold report
  dsimp only
  split
  · rfl
  · split
    · rfl
    · split <;> rfl

/-- It changes no other scope. -/
theorem report_last_event_ne (h : scope ≠ scope') (tail : List Char) (now : τ) :
    (report unicode sha256 config detector scope tail now).2.last_event scope' =
      detector.last_event scope' := by
  unfold report
  dsimp only
  split
  · rfl
  · split
    · rfl
    · split
      · rfl
      · rw [last_event_set_last_event, if_neg h]

/-- It reads the last events of its scope only. -/
theorem report_congr (h : detector.last_event scope = detector'.last_event scope) (tail : List Char)
    (now : τ) :
    (report unicode sha256 config detector scope tail now).1 =
        (report unicode sha256 config detector' scope tail now).1 ∧
      (report unicode sha256 config detector scope tail now).2.last_event scope =
        (report unicode sha256 config detector' scope tail now).2.last_event scope := by
  unfold report
  dsimp only
  rw [h]
  split
  · exact ⟨rfl, h⟩
  · split
    · exact ⟨rfl, h⟩
    · split
      · exact ⟨rfl, h⟩
      · rw [last_event_set_last_event, last_event_set_last_event, if_pos rfl, if_pos rfl, h]
        exact ⟨rfl, rfl⟩

/-- What the detector keeps of a scope. -/
def kept (scope : RunScope) (detector : Detector τ) : List Char × (String → Option τ) :=
  (detector.tail scope, detector.last_event scope)

/-- The calls on one scope do not depend on the others. -/
theorem unwinds (scope : RunScope) :
    Unwinds (Call.run unicode sha256 config) (fun call => call.scope = scope) (kept scope) where
  answer s s' call hmine hkept := by
    obtain ⟨htail, hlast⟩ := Prod.mk.inj hkept
    cases call with
    | clear scope' => rfl
    | observe scope' output now =>
      obtain rfl : scope' = scope := hmine
      unfold Call.run LoopDetector.observe
      dsimp only
      rw [htail]
      exact (report_congr (by simpa using hlast) _ now).1
  same s s' call hmine hkept := by
    obtain ⟨htail, hlast⟩ := Prod.mk.inj hkept
    cases call with
    | clear scope' =>
      obtain rfl : scope' = scope := hmine
      unfold Call.run kept
      dsimp only
      rw [tail_clear, tail_clear, last_event_clear, last_event_clear, if_pos rfl, if_pos rfl,
        if_pos rfl, if_pos rfl]
    | observe scope' output now =>
      obtain rfl : scope' = scope := hmine
      unfold Call.run LoopDetector.observe kept
      dsimp only
      rw [report_tail, report_tail, tail_set_tail, tail_set_tail, if_pos rfl, if_pos rfl, htail]
      refine Prod.ext rfl ?_
      exact (report_congr (by simpa using hlast) _ now).2
  others s call hnot := by
    cases call with
    | clear scope' =>
      have hnot : scope' ≠ scope := hnot
      unfold Call.run kept
      dsimp only
      rw [tail_clear, last_event_clear, if_neg hnot, if_neg hnot]
    | observe scope' output now =>
      have hnot : scope' ≠ scope := hnot
      unfold Call.run LoopDetector.observe kept
      dsimp only
      rw [report_tail, tail_set_tail, if_neg hnot, report_last_event_ne hnot, last_event_set_tail]

/-- The tail after a call, by what has been said before it. -/
theorem tail_run {before : List Char} (h : detector.tail scope = before.rtake config.tail_chars)
    (calls : List (Call τ)) :
    (answering (Call.run unicode sha256 config) detector calls).2.tail scope =
      (said scope before calls).rtake config.tail_chars := by
  induction calls generalizing detector before with
  | nil => exact h
  | cons call calls ih =>
    rw [answering_cons]
    cases call with
    | clear scope' =>
      refine ih ?_
      unfold Call.run
      dsimp only
      rw [tail_clear]
      split
      · rw [List.rtake_nil]
      · exact h
    | observe scope' output now =>
      refine ih ?_
      unfold Call.run LoopDetector.observe
      dsimp only
      rw [report_tail, tail_set_tail]
      split
      · rename_i hscope
        rw [hscope, h]
        exact rtake_rtake_append ..
      · exact h

/-- What is answered to the calls on a scope is what is answered to them if there are no others, and the
tail that is kept of the scope is the end of what was said in it. -/
theorem isolated (unicode : Unicode) (sha256 : String → String) (config : LoopDetectorConfig τ)
    (calls : List (Call τ)) (scope : RunScope) :
    (answering (Call.run unicode sha256 config) Detector.init calls).1.filter
        (fun answered => answered.1.scope = scope) =
      (answering (Call.run unicode sha256 config) Detector.init
        (calls.filter fun call => call.scope = scope)).1 ∧
    (answering (Call.run unicode sha256 config) Detector.init calls).2.tail scope =
      (said scope [] calls).rtake config.tail_chars := by
  constructor
  · exact ((unwinds scope).run_filter calls rfl).1
  · refine tail_run ?_ calls
    rw [List.rtake_nil]
    rfl

end Reads

end LoopDetector

end Plachem
