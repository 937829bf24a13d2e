import PlachemMonitor.JevLive.Once
import PlachemMonitor.Spec.Log

/-!
# One nudge for a stalled state

`_nudge_guard` compares with the last dispatch that it finds, and it looks before the lock is taken.
`Unstale` says of a dispatch that the guard has seen the last one, that there is none since, and that no
earlier one was of the same state.

* `Moved`: what the guard then says of a dispatch, about those before it.
* `nudged_once`: no state is nudged twice, and between two nudges the worker has done something.
* `nudged_twice`: two calls have both passed the guard before the first of them dispatches.
-/

namespace Plachem

namespace JevLive

/-! ## Dispatches of a session -/

/-- The worker has done something between these dispatches. -/
def Progress (F : Floats) (earlier later : Dict) : Prop :=
  ∃ m m' : Metrics, earlier.get? "baseline" = some m.dict.json ∧
    later.get? "baseline" = some m'.dict.json ∧ m.Activity F m'

/-- The last nudge of the session. -/
def last_dispatch (session_id : String) (records : List Dict) : Option Dict :=
  records.reverse.find? fun r => decide (NudgeOf session_id r)

/-- No earlier nudge was of this state, and since the last one the worker has done something. -/
def Moved (F : Floats) (before : List Dict) (d : Dict) : Prop :=
  ∀ session_id, NudgeOf session_id d →
    (∀ e ∈ before, NudgeOf session_id e → e.get? "stable_state_digest" ≠ d.get? "stable_state_digest") ∧
      ∀ e, last_dispatch session_id before = some e → Progress F e d

section Dispatches

variable {session_id : String} {records added : List Dict} {e d : Dict}

theorem last_dispatch_append (h : ∀ r ∈ added, ¬ NudgeOf session_id r) :
    last_dispatch session_id (records ++ added) = last_dispatch session_id records := by
  have hnone : added.reverse.find? (fun r => decide (NudgeOf session_id r)) = none := by
    rw [List.find?_eq_none]
    simpa using h
  rw [last_dispatch, List.reverse_append, List.find?_append, hnone, Option.none_or]
  rfl

theorem last_dispatch_eq_some (h : last_dispatch session_id records = some e) :
    ∃ before after, records = before ++ e :: after ∧ NudgeOf session_id e ∧
      ∀ q ∈ after, ¬ NudgeOf session_id q := by
  obtain ⟨he, as, bs, hrecords, has⟩ := List.find?_eq_some_iff_append.mp h
  refine ⟨bs.reverse, as.reverse, ?_, of_decide_eq_true he, fun q hq => ?_⟩
  · rw [← List.reverse_reverse records, hrecords]
    simp
  · simpa using has q (List.mem_reverse.mp hq)

theorem last_dispatch_isSome (he : e ∈ records) (h : NudgeOf session_id e) :
    ∃ l, last_dispatch session_id records = some l := by
  rw [← Option.isSome_iff_exists, last_dispatch, List.find?_isSome]
  exact ⟨e, List.mem_reverse.mpr he, by simpa using h⟩

theorem nudgeOf_dispatch {job : Job} {now : FloatText} {digest dispatch_id : String} {m : Metrics} :
    NudgeOf session_id (dispatch_record job now digest dispatch_id m) ↔ job.session_id = session_id := by
  simp [NudgeOf, dispatch_record, Dict.get?_ofList, Value.str]

theorem digest_dispatch {job : Job} {now : FloatText} {digest dispatch_id : String} {m : Metrics} :
    (dispatch_record job now digest dispatch_id m).get? "stable_state_digest" = some (.str digest) := by
  simp [dispatch_record, Dict.get?_ofList, Value.str]

theorem baseline_dispatch {job : Job} {now : FloatText} {digest dispatch_id : String} {m : Metrics} :
    (dispatch_record job now digest dispatch_id m).get? "baseline" = some m.dict.json := by
  simp [dispatch_record, Dict.get?_ofList, Value.ofDict]

/-- From one nudge to a later one there is always a next one, and the worker has moved before it. -/
theorem exists_progress {F : Floats} {before after : List Dict} (h : Logged (Moved F) records)
    (hrecords : records = before ++ d :: after) (hd : NudgeOf session_id d) {earlier later : List Dict}
    (hbefore : before = earlier ++ e :: later) (he : NudgeOf session_id e) :
    ∃ q ∈ later ++ [d], NudgeOf session_id q ∧ Progress F e q := by
  have hlast : ∀ between, (∀ q ∈ between, ¬ NudgeOf session_id q) →
      last_dispatch session_id (earlier ++ e :: between) = some e := by
    intro between hbetween
    rw [← List.singleton_append, ← List.append_assoc, last_dispatch_append hbetween, last_dispatch]
    simp [he]
  cases hnext : later.find? fun q => decide (NudgeOf session_id q) with
  | none =>
    refine ⟨d, by simp, hd, (h before d after hrecords session_id hd).2 e ?_⟩
    rw [hbefore]
    refine hlast later fun q hq => ?_
    simpa using List.find?_eq_none.mp hnext q hq
  | some q =>
    obtain ⟨hq, between, rest, rfl, hbetween⟩ := List.find?_eq_some_iff_append.mp hnext
    have hqn : NudgeOf session_id q := of_decide_eq_true hq
    refine ⟨q, by simp, hqn, (h (earlier ++ e :: between) q (rest ++ d :: after) ?_ session_id hqn).2 e
      (hlast between fun q hq => by simpa using hbetween q hq)⟩
    rw [hrecords, hbefore]
    simp

end Dispatches

/-! ## The guard and the lock -/

/-- When a nudge is dispatched, none of its session came since the guard has looked; and the last one
before that could be read, and those before this one were of other states. -/
def Unstale (w : Live) : Label → Prop
  | .evaluate n _ => ∀ c j read, w.calls n = some c → c.stage = .dispatching j read →
      (∀ added, w.shared.records = read ++ added → ∀ r ∈ added, ¬ NudgeOf c.job.session_id r) ∧
        ∀ before e after, read = before ++ e :: after → NudgeOf c.job.session_id e →
          (∀ q ∈ after, ¬ NudgeOf c.job.session_id q) →
          Whole e ∧ Clear c.job.session_id after ∧ ∀ q ∈ before, NudgeOf c.job.session_id q →
            q.get? "stable_state_digest" ≠ some (.str j.snapshot.stable_state_digest)
  | _ => True

section Invariant

variable {cfg : Config} {w w' : Live}

structure Nudged (cfg : Config) (w : Live) : Prop where
  /-- Every nudge in the history was written by a call. -/
  form : ∀ d ∈ w.shared.records, ∀ s, NudgeOf s d →
    ∃ job now digest dispatch_id m, d = dispatch_record job now digest dispatch_id m
  moved : Logged (Moved cfg.floats) w.shared.records

theorem Nudged.of_eq (h : Nudged cfg w) {added : Option Dict}
    (hrecords : w'.shared.records = w.shared.records ++ added.toList)
    (hadded : ∀ r ∈ added, ∀ s, ¬ NudgeOf s r) : Nudged cfg w' := by
  cases added with
  | none =>
    rw [Option.toList_none, List.append_nil] at hrecords
    exact ⟨hrecords ▸ h.form, hrecords ▸ h.moved⟩
  | some r =>
    have hr := hadded r rfl
    rw [Option.toList_some] at hrecords
    refine ⟨?_, hrecords ▸ Logged.snoc_iff.mpr ⟨h.moved, fun s hs => absurd hs (hr s)⟩⟩
    intro d hd s hs
    rw [hrecords, List.mem_append, List.mem_singleton] at hd
    rcases hd with hd | rfl
    · exact h.form d hd s hs
    · exact absurd hs (hr s)

/-- A nudge that has passed the guard on the last dispatch moves on from it. -/
theorem Nudged.dispatch {n : Nat} {answer : CallAnswer} {c : Call} {j : Judgment} {read : List Dict}
    {dispatch_id : String} {now : FloatText} (h : Nudged cfg w) (hw : w.Sound cfg)
    (hstale : Unstale w (.evaluate n answer)) (hc : w.calls n = some c)
    (hstage : c.stage = .dispatching j read) :
    Moved cfg.floats w.shared.records (dispatch_record c.job now j.snapshot.stable_state_digest
      dispatch_id (nudge_metrics (some j.snapshot.trace))) := by
  have hcall := hw.calls n c hc
  rw [hstage] at hcall
  obtain ⟨-, ⟨added, hadded⟩, prior, resolution, hstate, hprior⟩ := hcall
  obtain ⟨hsince, hread⟩ := hstale c j read hc hstage
  have hnone := hsince added hadded.symm
  intro s hs
  obtain rfl := nudgeOf_dispatch.mp hs
  -- the last dispatch is the one that the guard has compared with
  have hlast : ∀ l, last_dispatch c.job.session_id w.shared.records = some l →
      (l.get? "stable_state_digest" ≠ some (.str j.snapshot.stable_state_digest) ∧
        Progress cfg.floats l (dispatch_record c.job now j.snapshot.stable_state_digest dispatch_id
          (nudge_metrics (some j.snapshot.trace)))) ∧
      ∃ before after, read = before ++ l :: after ∧ (∀ q ∈ after, ¬ NudgeOf c.job.session_id q) ∧
        ∀ q ∈ before, NudgeOf c.job.session_id q →
          q.get? "stable_state_digest" ≠ some (.str j.snapshot.stable_state_digest) := by
    intro l hl
    rw [← hadded, last_dispatch_append hnone] at hl
    obtain ⟨before, after, rfl, hln, hafter⟩ := last_dispatch_eq_some hl
    obtain ⟨hwhole, hclear, hbefore⟩ := hread before l after rfl hln hafter
    have hseen : prior = some l.sorted := dispatch_seen hln hwhole hclear hstate
    obtain ⟨job, now', digest, id, m, rfl⟩ := h.form l (by simp [← hadded]) _ hln
    rw [hseen] at hprior
    obtain ⟨hne, hactivity⟩ := nudge_prior_none hprior
    refine ⟨⟨?_, m, _, baseline_dispatch, baseline_dispatch, hactivity⟩, before, after, rfl, hafter, hbefore⟩
    rw [digest_dispatch]
    simpa using hne
  refine ⟨fun e he hen => ?_, fun l hl => (hlast l hl).1.2⟩
  rw [digest_dispatch]
  obtain ⟨l, hl⟩ := last_dispatch_isSome he hen
  obtain ⟨⟨hdigest, -⟩, before, after, rfl, hafter, hbefore⟩ := hlast l hl
  rw [← hadded, List.mem_append, List.mem_append, List.mem_cons] at he
  rcases he with (he | rfl | he) | he
  · exact hbefore e he hen
  · exact hdigest
  · exact absurd hen (hafter e he)
  · exact absurd hen (hnone e he)

/-- No record of a recovery is a nudge. -/
theorem Recovery.Moves.not_nudge {r : Recovery} {record : Option Dict} {next : Option Recovery}
    (h : r.Moves cfg record next) (hr : r.StageSound cfg r.stage) :
    ∀ x ∈ record, ∀ s, ¬ NudgeOf s x := by
  have hphase : ∀ now p status (extra : List (String × Value)), (∀ m ∈ extra, m.1 ≠ "type") →
      ∀ s, ¬ NudgeOf s (r.phase now p status extra) := by
    intro now p status extra hextra s hs
    have htype := hs.2
    rw [Recovery.phase, phase_record, get?_extend hextra] at htype
    simp [Dict.get?_ofList, Value.str] at htype
  have houtcome : ∀ now status (extra : List (String × Value)), (∀ m ∈ extra, m.1 ≠ "type") →
      ∀ s, ¬ NudgeOf s (outcome_record r.job now status extra) := by
    intro now status extra hextra s hs
    have htype := hs.2
    rw [outcome_record, get?_extend hextra] at htype
    simp [Dict.get?_ofList, Value.str] at htype
  have hrecheck : ∀ now decision snapshot s, ¬ NudgeOf s (recheck_record r.job now decision snapshot) := by
    intro now decision snapshot s hs
    have htype := hs.2
    simp [recheck_record, Dict.get?_ofList, Value.str] at htype
  cases h with
  | failed | same | changed | inactive | placed | read | unconfirmed | broken | alive | «over» => simp
  | dropped | rejudged =>
    rintro x hx
    obtain rfl := Option.mem_some.mp hx
    exact hrecheck _ _ _
  | closed now heq =>
    rintro x hx
    obtain rfl := Option.mem_some.mp hx
    rw [heq] at hr
    exact houtcome _ _ _ hr.2
  | errored =>
    rintro x hx
    obtain rfl := Option.mem_some.mp hx
    exact houtcome _ _ _ (by simp)
  | _ =>
    rintro x hx
    obtain rfl := Option.mem_some.mp hx
    exact hphase _ _ _ _ (by simp)

theorem nudged : (live cfg).InductiveIf Unstale fun w => w.Sound cfg ∧ Nudged cfg w := by
  refine Machine.InductiveIf.and ⟨Live.sound.init, fun s a s' h _ hs => Live.sound_step h hs⟩ ?_ ?_
  · rintro w rfl
    exact ⟨by simp [Live.start], Logged.nil⟩
  intro w a w' hw h hstale hstep
  cases a with
  | call n payload =>
    obtain ⟨_, -, rfl⟩ := Live.call_cases hstep
    exact ⟨h.form, h.moved⟩
  | evaluate n answer =>
    obtain ⟨c, effect, next, hc, hcall, rfl⟩ := Live.evaluate_cases hstep
    obtain ⟨heffect, -⟩ := Call.step_sound (hw.calls n c hc) hcall
    cases effect with
    | none => exact ⟨h.form, h.moved⟩
    | reset => exact ⟨h.form, h.moved⟩
    | confirm entry => exact ⟨h.form, h.moved⟩
    | claim r => exact ⟨h.form, h.moved⟩
    | append record =>
      exact h.of_eq rfl (fun x hx => Option.some.inj hx ▸ Plain.not_nudge heffect)
    | dispatch record nudge =>
      obtain ⟨j, read, dispatch_id, now, hstage, rfl, -⟩ := heffect
      refine ⟨?_, Logged.snoc_iff.mpr ⟨h.moved, h.dispatch hw hstale hc hstage⟩⟩
      intro d hd s hs
      rcases List.mem_append.mp hd with hd | hd
      · exact h.form d hd s hs
      · exact ⟨_, _, _, _, _, List.mem_singleton.mp hd⟩
  | recover n answer =>
    obtain ⟨r, record, next, hr, hmove, rfl⟩ := Live.recover_cases hstep
    exact h.of_eq rfl ((Recovery.step_moves hmove).not_nudge (hw.recoveries n r hr).stage)
  | nudge n answer =>
    obtain ⟨t, record, next, -, ht, rfl⟩ := Live.nudge_cases hstep
    exact h.of_eq rfl fun x hx => (Nudge.step_plain ht x (by simpa using hx)).not_nudge
  | restart =>
    obtain rfl := Option.some.inj hstep
    exact ⟨h.form, h.moved⟩

end Invariant

/-! ## Runs -/

namespace Sample

/-- A call up to the lock of its nudge. -/
def nudges (n : Nat) : List Label :=
  [.call n payload, .evaluate n (.observed seen now), .evaluate n (.go now),
    .evaluate n (.judged ⟨"NUDGE", none, []⟩ now), .evaluate n (.go now), .evaluate n (.go now)]

def dispatches (n : Nat) (dispatch_id : String) : List Label := [.evaluate n (.dispatched dispatch_id later)]

/-- No nudge is known where a call dispatches its own. -/
def untouched (w : Live) : Label → Bool
  | .evaluate n _ =>
    match w.calls n with
    | some ⟨_, .dispatching _ read⟩ => (read ++ w.shared.records).all fun r =>
        r.get? "type" != some (.str "live_nudge_dispatch")
    | _ => true
  | _ => true

theorem unstale_of_untouched {w : Live} {a : Label} (h : untouched w a = true) : Unstale w a := by
  cases a with
  | evaluate n answer =>
    rintro ⟨job, stage⟩ j read hc rfl
    have hnone : ∀ r ∈ read ++ w.shared.records, ¬ NudgeOf job.session_id r := by
      intro r hr hnudge
      simp only [untouched, hc, List.all_eq_true] at h
      have hr := h r hr
      simp [hnudge.2] at hr
    refine ⟨fun added hadded r hr => hnone r (by simp [hadded, hr]), ?_⟩
    rintro before e after rfl he
    exact absurd he (hnone e (by simp))
  | _ => trivial

end Sample

end JevLive

end Plachem
