import PlachemMonitor.JevLive.Moves
import PlachemMonitor.Spec.Spaced

/-!
# Two confirmations

`_SALVAGE_CONFIRMATIONS` counts the decisions to salvage a session. `observed` is the machine with the
trace of one session: its decisions that have been confirmed, and its resets.

- `streak`: the decisions since the last reset or change of the digest. The entry of the session is the
  count of this streak (`entry`), with the gaps of `Spaced`.
- `Call.step_mark`: what a step of a call leaves in the trace.
- `confirmed_twice`: a recovery is started only behind two decisions of one streak, with a gap between.
-/

namespace Plachem

namespace JevLive

/-! ## The trace of a session -/

/-- A decision that is confirmed. -/
structure Decided where
  job : Job
  judgment : Judgment
  at_time : FloatText

def Decided.digest (d : Decided) : String := d.judgment.snapshot.stable_state_digest

inductive Mark where
  | salvage (decided : Decided)
  | reset

/-- One more mark, behind the decisions since the last reset or change of the digest. -/
def extend_streak (streak : List Decided) : Mark → List Decided
  | .reset => []
  | .salvage d => if streak.all (fun e => e.digest = d.digest) then streak ++ [d] else [d]

/-- The decisions since the last reset or change of the digest. -/
def streak (trace : List Mark) : List Decided := trace.foldl extend_streak []

/-- The second decision has the gap behind the first one. -/
def spaced (F : Floats) (first second : FloatText) : Bool :=
  F.le AUTO_RECOVERY_CONFIRMATION_GAP_SECONDS (F.sub second first)

/-- The count of a streak: one, and one for each repetition with a gap. -/
def entry (F : Floats) : List Decided → Option Confirmation
  | [] => none
  | d :: ds => some
    { count := 1 + Spaced.repeats (spaced F) d.at_time (ds.map Decided.at_time)
      last_at := Spaced.counted (spaced F) d.at_time (ds.map Decided.at_time)
      digest := d.digest }

/-- The decision that a call confirms. -/
def Call.decided (c : Call) (answer : CallAnswer) : List Mark :=
  match c.stage, answer with
  | .confirming j _, .confirmed _ now => [.salvage ⟨c.job, j, now⟩]
  | _, _ => []

/-- What a step of a call does to the entry of its session. -/
def Call.mark (cfg : Config) (w : Shared) (c : Call) (answer : CallAnswer) : List Mark :=
  match c.step cfg w answer with
  | some (.reset, _) => [.reset]
  | some (.confirm _, _) => c.decided answer
  | _ => []

/-- What a step leaves in the trace of a session. The table is lost with the process. -/
def Live.mark (cfg : Config) (session_id : String) (w : Live) : Label → List Mark
  | .evaluate n answer =>
    match w.calls n with
    | some c => if c.job.session_id = session_id then c.mark cfg w.shared answer else []
    | none => []
  | .restart => [.reset]
  | _ => []

/-- The machine, with the trace of a session. -/
def observed (cfg : Config) (session_id : String) : Machine (Live × List Mark) Label where
  init x := x = (.start, [])
  step x a := (Live.step cfg x.1 a).map fun w => (w, x.2 ++ x.1.mark cfg session_id a)

/-! ## Streaks -/

theorem streak_append (trace : List Mark) (m : Mark) :
    streak (trace ++ [m]) = extend_streak (streak trace) m := by
  rw [streak, List.foldl_append]
  rfl

/-- A streak is a part of the trace, up to its end, and its digests are the same. -/
theorem streak_spec (trace : List Mark) :
    (∃ before, trace = before ++ (streak trace).map Mark.salvage) ∧
      ∀ d ∈ streak trace, ∀ e ∈ streak trace, d.digest = e.digest := by
  induction trace using List.reverseRecOn with
  | nil => exact ⟨⟨[], rfl⟩, fun d hd => absurd hd List.not_mem_nil⟩
  | append_singleton trace m ih =>
    obtain ⟨⟨before, hbefore⟩, hsame⟩ := ih
    rw [streak_append]
    cases m with
    | reset => exact ⟨⟨trace ++ [.reset], by simp [extend_streak]⟩, fun d hd => absurd hd List.not_mem_nil⟩
    | salvage d =>
      rw [extend_streak]
      by_cases hall : (streak trace).all (fun e => e.digest = d.digest) = true
      · rw [if_pos hall]
        rw [List.all_eq_true] at hall
        have hd : ∀ e ∈ streak trace ++ [d], e.digest = d.digest := by
          intro e he
          rcases List.mem_append.mp he with he | he
          · exact of_decide_eq_true (hall e he)
          · rw [List.mem_singleton.mp he]
        refine ⟨⟨before, ?_⟩, fun e he e' he' => (hd e he).trans (hd e' he').symm⟩
        rw [List.map_append, ← List.append_assoc, ← hbefore]
        rfl
      · rw [if_neg hall]
        refine ⟨⟨trace, rfl⟩, fun e he e' he' => ?_⟩
        rw [List.mem_singleton.mp he, List.mem_singleton.mp he']

/-- The count of a longer streak is what `_confirm_salvage` leaves. -/
theorem confirm_entry (F : Floats) (trace : List Mark) (d : Decided) :
    some (confirm_salvage F (entry F (streak trace)) d.digest d.at_time) =
      entry F (streak (trace ++ [.salvage d])) := by
  have hsame := (streak_spec trace).2
  rw [streak_append, extend_streak]
  cases hstreak : streak trace with
  | nil => rfl
  | cons e es =>
    rw [hstreak] at hsame
    by_cases hdigest : e.digest = d.digest
    · have hall : (e :: es).all (fun x => x.digest = d.digest) = true := by
        rw [List.all_eq_true]
        intro x hx
        exact decide_eq_true ((hsame x hx e List.mem_cons_self).trans hdigest)
      rw [if_pos hall, List.cons_append, entry, entry, confirm_salvage, if_neg (not_not.mpr hdigest),
        List.map_append, List.map_cons, List.map_nil, Spaced.repeats_append, Spaced.counted_append]
      by_cases hgap : spaced F (Spaced.counted (spaced F) e.at_time (es.map Decided.at_time)) d.at_time = true
      · rw [if_pos hgap, if_pos hgap, hdigest, ← Nat.add_assoc]
        exact congrArg some (if_pos hgap)
      · rw [if_neg hgap, if_neg hgap, hdigest]
        exact congrArg some (if_neg hgap)
    · have hall : ¬ (e :: es).all (fun x => x.digest = d.digest) = true := by
        rw [List.all_eq_true]
        exact fun h => hdigest (of_decide_eq_true (h e List.mem_cons_self))
      rw [if_neg hall, entry, confirm_salvage, if_pos hdigest]
      rfl

/-! ## The steps of a call -/

namespace Call

variable {cfg : Config} {w : Shared} {c : Call} {answer : CallAnswer} {effect : Effect} {next : Next}

/-- Only `_confirm_salvage` counts a decision. -/
theorem step_confirm {entry : Confirmation} (hsound : c.stage.Sound cfg c.job w.records)
    (h : c.step cfg w answer = some (.confirm entry, next)) :
    ∃ j read enabled now, c.stage = .confirming j read ∧ answer = .confirmed enabled now ∧
      c.confirm cfg w j read enabled now = (.confirm entry, next) := by
  have hnone : ∀ {o : Outcome} {p : Prop}, some o = some (.confirm entry, next) → o.1 = .none ∧ p → False := by
    intro o p heq ho
    obtain rfl := Option.some.inj heq
    cases ho.1
  unfold step at h
  split at h
  · cases h
  · cases (observe_sound (w := w) h).1
  all_goals rename_i hstage; try rw [hstage] at hsound
  · exact (hnone h (await_sound hsound)).elim
  · exact (hnone h (hold_sound hsound)).elim
  · cases h
  · rename_i ctx snapshot d now
    exfalso
    have heffect := congrArg Prod.fst (Option.some.inj h)
    unfold judge at heffect
    split at heffect
    · cases heffect
    · cases heffect
  · exact (hnone h (guard_sound hsound.1 hsound.2)).elim
  · exact (hnone h (@compare_sound cfg _ _ _ hsound.2)).elim
  · exfalso
    have heffect := congrArg Prod.fst (Option.some.inj h)
    unfold dispatch at heffect
    dsimp only at heffect
    split at heffect
    · cases heffect
    · cases heffect
  · exact (hnone h (@scan_sound cfg _ _ _ hsound)).elim
  · exact ⟨_, _, _, _, hstage, rfl, Option.some.inj h⟩
  · cases h
  · exfalso
    have heffect := congrArg Prod.fst (Option.some.inj h)
    unfold claim at heffect
    split at heffect
    · cases heffect
    · cases heffect
  · cases h
  · cases h
  · cases h

theorem mark_confirming {j : Judgment} {read : List Dict} (enabled : Bool) (now : FloatText)
    (hstage : c.stage = .confirming j read) :
    c.mark cfg w (.confirmed enabled now) = [.salvage ⟨c.job, j, now⟩] := by
  have hstep : c.step cfg w (.confirmed enabled now) = some (c.confirm cfg w j read enabled now) := by
    unfold step
    rw [hstage]
  rw [mark, hstep]
  show c.decided _ = _
  unfold decided
  rw [hstage]

/-- What a step leaves in the trace. -/
theorem step_mark (hsound : c.stage.Sound cfg c.job w.records)
    (h : c.step cfg w answer = some (effect, next)) :
    (∃ j read now, c.stage = .confirming j read ∧ c.mark cfg w answer = [.salvage ⟨c.job, j, now⟩] ∧
      effect = .confirm (confirm_salvage cfg.floats (w.confirmations c.job.session_id)
        j.snapshot.stable_state_digest now)) ∨
    (effect = .reset ∧ c.mark cfg w answer = [.reset]) ∨
    ((∀ entry, effect ≠ .confirm entry) ∧ effect ≠ .reset ∧ c.mark cfg w answer = []) := by
  cases effect with
  | confirm entry =>
    obtain ⟨j, read, enabled, now, hstage, rfl, hconfirm⟩ := step_confirm hsound h
    exact Or.inl ⟨j, read, now, hstage, mark_confirming enabled now hstage,
      (congrArg Prod.fst hconfirm).symm⟩
  | reset => exact Or.inr (Or.inl ⟨rfl, by rw [mark, h]⟩)
  | none => exact Or.inr (Or.inr ⟨by simp, by simp, by rw [mark, h]⟩)
  | append record => exact Or.inr (Or.inr ⟨by simp, by simp, by rw [mark, h]⟩)
  | claim recovery => exact Or.inr (Or.inr ⟨by simp, by simp, by rw [mark, h]⟩)
  | dispatch record nudge => exact Or.inr (Or.inr ⟨by simp, by simp, by rw [mark, h]⟩)

end Call

/-- What a call has made sure of besides, before it confirms its decision. -/
def CallStage.Supervised (cfg : Config) (job : Job) : CallStage → Prop
  | .scanning j => runtime_recovery_safe cfg j.ctx = true
  | .confirming j _ | .starting j _ | .claiming j _ =>
    runtime_recovery_safe cfg j.ctx = true ∧ is_periodic_supervisor_candidate job = true
  | _ => True

/-- What a step has made sure of for the next stage, and where it comes from. -/
def Next.Supervised (cfg : Config) (c : Call) : Next → Prop
  | .more (.starting j read) => (CallStage.starting j read).Supervised cfg c.job ∧
      ∃ j' read', c.stage = .confirming j' read'
  | .more (.claiming j read) => (CallStage.claiming j read).Supervised cfg c.job ∧
      c.stage = .starting j read
  | .more stage => stage.Supervised cfg c.job
  | .done _ => True

theorem Next.Supervised.stage {cfg : Config} {c : Call} {stage : CallStage}
    (h : (Next.more stage).Supervised cfg c) : stage.Supervised cfg c.job := by
  cases stage with
  | starting j read => exact h.1
  | claiming j read => exact h.1
  | _ => exact h

namespace Call

variable {cfg : Config} {w : Shared} {c : Call} {answer : CallAnswer} {effect : Effect} {next : Next}

theorem observe_supervised (h : c.observe cfg answer = some (effect, next)) : next.Supervised cfg c := by
  cases answer with
  | go now =>
    simp only [observe] at h
    split at h
    · cases h
      trivial
    · cases h
  | observed seen now =>
    simp only [observe] at h
    split at h
    · cases h
    split at h
    · cases h
      trivial
    split at h
    · cases h
      trivial
    split at h
    · cases h
      trivial
    split at h
    · cases h
      trivial
    · cases h
      trivial
  | _ => cases h

theorem await_supervised {ctx : Context} {snapshot : Snapshot} {now : FloatText}
    (h : c.await cfg w ctx snapshot now = (effect, next)) : next.Supervised cfg c := by
  unfold await at h
  split at h
  · cases h
    trivial
  · cases h
    trivial
  · cases h
    trivial
  · dsimp only at h
    split at h
    · cases h
      trivial
    · cases h
      trivial
    · cases h
      trivial

theorem hold_supervised {ctx : Context} {snapshot : Snapshot} {dispatch : Dict} {now : FloatText}
    (h : c.hold cfg w ctx snapshot dispatch now = (effect, next)) : next.Supervised cfg c := by
  unfold hold at h
  dsimp only at h
  split at h
  · cases h
    trivial
  · cases h
    trivial

theorem judge_supervised {ctx : Context} {snapshot : Snapshot} {d : Decision} {now : FloatText}
    (h : c.judge cfg ctx snapshot d now = (effect, next)) : next.Supervised cfg c := by
  have hjudge : (c.judge cfg ctx snapshot d now).2.Supervised cfg c := by
    unfold judge
    split
    · show Next.Supervised _ _ (.more _)
      split
      · trivial
      split
      · trivial
      · trivial
    · show Next.Supervised _ _ (.more _)
      dsimp only
      split
      · trivial
      split
      · trivial
      split
      · trivial
      split
      · trivial
      rename_i hsafe
      split
      · trivial
      · show runtime_recovery_safe cfg ctx = true
        simpa using hsafe
  rw [h] at hjudge
  exact hjudge

theorem guard_supervised {j : Judgment} (h : c.guard cfg w j = (effect, next)) :
    next.Supervised cfg c := by
  unfold guard at h
  split at h
  · cases h
    trivial
  split at h
  · cases h
    trivial
  · cases h
    trivial

theorem compare_supervised {j : Judgment} (h : c.compare cfg w j = (effect, next)) :
    next.Supervised cfg c := by
  unfold compare at h
  split at h
  · cases h
    trivial
  split at h
  · cases h
    trivial
  · cases h
    trivial
  · cases h
    trivial

theorem dispatch_supervised {j : Judgment} {dispatch_id : String} {now : FloatText}
    (h : c.dispatch w j dispatch_id now = (effect, next)) : next.Supervised cfg c := by
  unfold dispatch at h
  dsimp only at h
  split at h
  · cases h
    trivial
  · cases h
    trivial

theorem scan_supervised {j : Judgment} (hsafe : runtime_recovery_safe cfg j.ctx = true)
    (h : c.scan w j = (effect, next)) : next.Supervised cfg c := by
  unfold scan at h
  split at h
  · cases h
    trivial
  · cases h
    trivial
  · cases h
    split
    · trivial
    · rename_i hperiodic
      exact ⟨hsafe, by simpa using hperiodic⟩

theorem confirm_supervised {j : Judgment} {read : List Dict} {enabled : Bool} {now : FloatText}
    (hsafe : runtime_recovery_safe cfg j.ctx = true ∧ is_periodic_supervisor_candidate c.job = true)
    (hstage : c.stage = .confirming j read) (h : c.confirm cfg w j read enabled now = (effect, next)) :
    next.Supervised cfg c := by
  unfold confirm at h
  cases h
  split
  · trivial
  split
  · exact ⟨hsafe, j, read, hstage⟩
  · trivial

theorem claim_supervised {j : Judgment} (h : c.claim w j = (effect, next)) : next.Supervised cfg c := by
  unfold claim at h
  split at h
  · cases h
    trivial
  · cases h
    trivial

theorem step_supervised (hstage : c.stage.Supervised cfg c.job)
    (h : c.step cfg w answer = some (effect, next)) : next.Supervised cfg c := by
  unfold step at h
  split at h
  · cases h
    trivial
  · exact observe_supervised h
  all_goals rename_i hs; try rw [hs] at hstage
  · exact await_supervised (Option.some.inj h)
  · exact hold_supervised (Option.some.inj h)
  · cases h
    trivial
  · exact judge_supervised (Option.some.inj h)
  · exact guard_supervised (Option.some.inj h)
  · exact compare_supervised (Option.some.inj h)
  · exact dispatch_supervised (Option.some.inj h)
  · exact scan_supervised hstage (Option.some.inj h)
  · exact confirm_supervised hstage hs (Option.some.inj h)
  · cases h
    exact ⟨hstage, hs⟩
  · exact claim_supervised (Option.some.inj h)
  · cases h
    split
    · trivial
    · trivial
  · cases h
    trivial
  · cases h

/-- A call that comes to start a recovery has just been confirmed. -/
theorem next_starting {j : Judgment} {read : List Dict} (hstage : c.stage.Supervised cfg c.job)
    (h : c.step cfg w answer = some (effect, .more (.starting j read))) :
    ∃ j' read' now, c.stage = .confirming j' read' ∧ answer = .confirmed true now ∧
      2 ≤ (confirm_salvage cfg.floats (w.confirmations c.job.session_id)
        j'.snapshot.stable_state_digest now).count ∧
      j.snapshot = j'.snapshot ∧ j.decision = j'.decision := by
  obtain ⟨-, j', read', hs⟩ := step_supervised hstage h
  unfold step at h
  rw [hs] at h
  cases answer with
  | confirmed enabled now =>
    have hnext := congrArg Prod.snd (Option.some.inj h)
    unfold confirm at hnext
    dsimp only at hnext
    split at hnext
    · cases hnext
    · rename_i hcount
      split at hnext
      · rename_i henabled
        cases hnext
        exact ⟨j', _, now, hs, by rw [henabled], not_lt.mp hcount, rfl, rfl⟩
      · cases hnext
  | _ => cases h

end Call

/-! ## The run -/

/-- A confident decision to salvage the session, of the supervisor, on a candidate that may be recovered. -/
structure Admissible (cfg : Config) (session_id : String) (d : Decided) : Prop where
  session : d.job.session_id = session_id
  salvage : Salvage cfg d.job d.judgment
  safe : runtime_recovery_safe cfg d.judgment.ctx = true
  periodic : is_periodic_supervisor_candidate d.job = true

/-- The decision has been confirmed, as the second one of its streak at least. -/
def Evidence (F : Floats) (trace : List Mark) (job : Job) (j : Judgment) : Prop :=
  ∃ before after front own, trace = before ++ after ∧ streak before = front ++ [own] ∧
    own.job = job ∧ own.judgment.snapshot = j.snapshot ∧ own.judgment.decision = j.decision ∧
    ∃ e, entry F (streak before) = some e ∧ 2 ≤ e.count

theorem Evidence.append {F : Floats} {trace : List Mark} {job : Job} {j : Judgment}
    (h : Evidence F trace job j) (marks : List Mark) : Evidence F (trace ++ marks) job j := by
  obtain ⟨before, after, front, own, rfl, hrest⟩ := h
  exact ⟨before, after ++ marks, front, own, by rw [List.append_assoc], hrest⟩

def CallStage.Evident (F : Floats) (trace : List Mark) (job : Job) : CallStage → Prop
  | .starting j _ | .claiming j _ => Evidence F trace job j
  | _ => True

theorem CallStage.Evident.append {F : Floats} {trace : List Mark} {job : Job} {stage : CallStage}
    (h : stage.Evident F trace job) (marks : List Mark) : stage.Evident F (trace ++ marks) job := by
  cases stage with
  | starting j read => exact Evidence.append h marks
  | claiming j read => exact Evidence.append h marks
  | _ => trivial

theorem streak_salvage (trace : List Mark) (d : Decided) :
    ∃ front, streak (trace ++ [.salvage d]) = front ++ [d] := by
  rw [streak_append, extend_streak]
  split
  · exact ⟨streak trace, rfl⟩
  · exact ⟨[], rfl⟩

/-- What every state keeps, with the trace of a session. -/
structure Tracked (cfg : Config) (session_id : String) (x : Live × List Mark) : Prop where
  sound : x.1.Sound cfg
  supervised : ∀ n c, x.1.calls n = some c → c.stage.Supervised cfg c.job
  table : x.1.shared.confirmations session_id = entry cfg.floats (streak x.2)
  admissible : ∀ d, Mark.salvage d ∈ x.2 → Admissible cfg session_id d
  evident : ∀ n c, x.1.calls n = some c → c.job.session_id = session_id →
    c.stage.Evident cfg.floats x.2 c.job

namespace Tracked

variable {cfg : Config} {session_id : String} {w w' : Live} {trace : List Mark}

/-- The calls after a step of one of them. -/
theorem calls_next {P : Call → Prop} {n : Nat} {c : Call} {next : Next}
    (hcalls : ∀ m d, w.calls m = some d → P d) (hnext : ∀ stage, next = .more stage → P ⟨c.job, stage⟩) :
    ∀ m d, Function.update w.calls n (next.call c.job) m = some d → P d := by
  intro m d hd
  by_cases hm : m = n
  · subst hm
    rw [Function.update_self] at hd
    cases next with
    | more stage =>
      obtain rfl := Option.some.inj hd
      exact hnext stage rfl
    | done result => cases hd
  · rw [Function.update_of_ne hm] at hd
    exact hcalls m d hd

/-- An effect on the table of confirmations. -/
theorem confirmations_apply {n : Nat} {id : String} {effect : Effect}
    (hconfirm : ∀ entry, effect ≠ .confirm entry) (hreset : effect ≠ .reset) :
    (w.apply n id effect).shared.confirmations = w.shared.confirmations := by
  cases effect with
  | confirm entry => exact absurd rfl (hconfirm entry)
  | reset => exact absurd rfl hreset
  | _ => rfl

theorem confirmations_other {n : Nat} {id : String} {effect : Effect} (hid : id ≠ session_id) :
    (w.apply n id effect).shared.confirmations session_id = w.shared.confirmations session_id := by
  cases effect with
  | confirm entry => exact Function.update_of_ne hid.symm _ _
  | reset => exact Function.update_of_ne hid.symm _ _
  | _ => rfl

/-- The next stage of a call that has just been confirmed, or had been before. -/
theorem evident_next {n : Nat} {c : Call} {answer : CallAnswer} {effect : Effect} {stage : CallStage}
    (h : Tracked cfg session_id (w, trace)) (hc : w.calls n = some c) (hid : c.job.session_id = session_id)
    (hcall : c.step cfg w.shared answer = some (effect, .more stage)) :
    stage.Evident cfg.floats (trace ++ c.mark cfg w.shared answer) c.job := by
  have hsupervised := h.supervised n c hc
  cases stage with
  | starting j read =>
    obtain ⟨j', read', now, hstage, rfl, hcount, hsnapshot, hdecision⟩ :=
      Call.next_starting hsupervised hcall
    rw [Call.mark_confirming true now hstage]
    obtain ⟨front, hfront⟩ := streak_salvage trace ⟨c.job, j', now⟩
    refine ⟨trace ++ [.salvage ⟨c.job, j', now⟩], [], front, ⟨c.job, j', now⟩, by rw [List.append_nil],
      hfront, rfl, hsnapshot.symm, hdecision.symm, _, (confirm_entry _ _ _).symm, ?_⟩
    rw [hid, h.table] at hcount
    exact hcount
  | claiming j read =>
    obtain ⟨-, hstage⟩ := Call.step_supervised hsupervised hcall
    have hevident := h.evident n c hc hid
    rw [hstage] at hevident
    exact hevident.append _
  | _ => trivial

theorem evaluate_step {n : Nat} {answer : CallAnswer} (h : Tracked cfg session_id (w, trace))
    (hstep : Live.step cfg w (.evaluate n answer) = some w') :
    Tracked cfg session_id (w', trace ++ w.mark cfg session_id (.evaluate n answer)) := by
  have hsound := Live.sound_step h.sound hstep
  obtain ⟨c, effect, next, hc, hcall, rfl⟩ := Live.evaluate_cases hstep
  have hsupervised := Call.step_supervised (h.supervised n c hc) hcall
  have hmark : w.mark cfg session_id (.evaluate n answer) =
      if c.job.session_id = session_id then c.mark cfg w.shared answer else [] := by
    simp only [Live.mark, hc]
  have hcalls : ∀ m d, Function.update w.calls n (next.call c.job) m = some d →
      d.stage.Supervised cfg d.job := by
    apply calls_next h.supervised
    rintro stage rfl
    exact hsupervised.stage
  rw [hmark]
  by_cases hid : c.job.session_id = session_id
  · rw [if_pos hid]
    have hevident : ∀ m d, Function.update w.calls n (next.call c.job) m = some d →
        d.job.session_id = session_id →
        d.stage.Evident cfg.floats (trace ++ c.mark cfg w.shared answer) d.job := by
      refine calls_next (fun m d hd hsession => (h.evident m d hd hsession).append _) ?_
      rintro stage rfl -
      exact evident_next h hc hid hcall
    rcases Call.step_mark (h.sound.calls n c hc) hcall with
      ⟨j, read, now, hstage, hsalvage, rfl⟩ | ⟨rfl, hreset⟩ | ⟨hconfirm, hreset, hnone⟩
    · rw [hsalvage] at hevident ⊢
      refine ⟨hsound, hcalls, ?_, fun d hd => ?_, hevident⟩
      · rw [← confirm_entry, ← h.table]
        show Function.update w.shared.confirmations c.job.session_id _ session_id = _
        rw [hid, Function.update_self]
        rfl
      · rcases List.mem_append.mp hd with hd | hd
        · exact h.admissible d hd
        · obtain rfl := Mark.salvage.inj (List.mem_singleton.mp hd)
          have hcalled := h.sound.calls n c hc
          have hsafe := h.supervised n c hc
          rw [hstage] at hcalled hsafe
          exact ⟨hid, hcalled.1, hsafe.1, hsafe.2⟩
    · rw [hreset] at hevident ⊢
      refine ⟨hsound, hcalls, ?_, fun d hd => ?_, hevident⟩
      · rw [streak_append]
        show Function.update w.shared.confirmations c.job.session_id none session_id = none
        rw [hid, Function.update_self]
      · rcases List.mem_append.mp hd with hd | hd
        · exact h.admissible d hd
        · cases List.mem_singleton.mp hd
    · rw [hnone, List.append_nil] at hevident ⊢
      refine ⟨hsound, hcalls, ?_, h.admissible, hevident⟩
      show (w.apply n c.job.session_id effect).shared.confirmations session_id = _
      rw [confirmations_apply hconfirm hreset]
      exact h.table
  · rw [if_neg hid, List.append_nil]
    refine ⟨hsound, hcalls, ?_, h.admissible, ?_⟩
    · show (w.apply n c.job.session_id effect).shared.confirmations session_id = _
      rw [confirmations_other hid]
      exact h.table
    · exact calls_next h.evident fun stage _ hsession => absurd hsession hid

theorem step {a : Label} (h : Tracked cfg session_id (w, trace)) (hstep : Live.step cfg w a = some w') :
    Tracked cfg session_id (w', trace ++ w.mark cfg session_id a) := by
  have hsound := Live.sound_step h.sound hstep
  cases a with
  | call n payload =>
    obtain ⟨job, -, rfl⟩ := Live.call_cases hstep
    have hcalls : ∀ {P : Call → Prop}, (∀ m d, w.calls m = some d → P d) → P ⟨job, .observing⟩ →
        ∀ m d, Function.update w.calls n (some ⟨job, .observing⟩) m = some d → P d := by
      intro P hold hnew m d hd
      by_cases hm : m = n
      · subst hm
        rw [Function.update_self] at hd
        obtain rfl := Option.some.inj hd
        exact hnew
      · rw [Function.update_of_ne hm] at hd
        exact hold m d hd
    show Tracked cfg session_id (_, trace ++ [])
    rw [List.append_nil]
    exact ⟨hsound, hcalls h.supervised trivial, h.table, h.admissible, hcalls h.evident fun _ => trivial⟩
  | evaluate n answer => exact h.evaluate_step hstep
  | recover n answer =>
    obtain ⟨r, record, next, -, -, rfl⟩ := Live.recover_cases hstep
    show Tracked cfg session_id (_, trace ++ [])
    rw [List.append_nil]
    exact ⟨hsound, h.supervised, h.table, h.admissible, h.evident⟩
  | nudge n answer =>
    obtain ⟨t, record, next, -, -, rfl⟩ := Live.nudge_cases hstep
    show Tracked cfg session_id (_, trace ++ [])
    rw [List.append_nil]
    exact ⟨hsound, h.supervised, h.table, h.admissible, h.evident⟩
  | restart =>
    obtain rfl := Option.some.inj hstep
    refine ⟨hsound, fun n c hc => ?_, ?_, fun d hd => ?_, fun n c hc => ?_⟩
    · cases hc
    · show none = entry cfg.floats (streak (trace ++ [.reset]))
      rw [streak_append]
      rfl
    · rcases List.mem_append.mp hd with hd | hd
      · exact h.admissible d hd
      · cases List.mem_singleton.mp hd
    · cases hc

theorem inductive_tracked : (observed cfg session_id).InductiveIf (fun _ _ => True) (Tracked cfg session_id) where
  init := by
    rintro x rfl
    refine ⟨Live.sound.init _ rfl, fun n c hc => ?_, rfl, fun d hd => ?_, fun n c hc => ?_⟩
    · cases hc
    · exact absurd hd List.not_mem_nil
    · cases hc
  step x a x' h _ hstep := by
    obtain ⟨w', hw, rfl⟩ := Option.map_eq_some_iff.mp hstep
    exact h.step hw

end Tracked

/-- The trace is that of any run. -/
theorem observed_reachable {cfg : Config} (session_id : String) {w : Live} (h : (live cfg).Reachable w) :
    ∃ trace, (observed cfg session_id).Reachable (w, trace) := by
  obtain ⟨w₀, as, hinit, hsteps⟩ := h
  suffices hrun : ∀ trace, ∃ trace', (observed cfg session_id).Steps (fun _ _ => True) (w₀, trace) as
      (w, trace') by
    obtain ⟨trace, htrace⟩ := hrun []
    exact ⟨trace, _, as, congrArg (·, []) hinit, htrace⟩
  clear hinit
  induction hsteps with
  | refl s => exact fun trace => ⟨trace, .refl _⟩
  | cons _ hstep _ ih =>
    intro trace
    obtain ⟨trace', htrace⟩ := ih _
    refine ⟨trace', .cons trivial ?_ htrace⟩
    exact congrArg (Option.map _) hstep

/-- The entry of a session is the count of its streak, and a recovery is started only for a decision of a
streak in which there are two decisions with a gap between. -/
theorem confirmed_twice {cfg : Config} {session_id : String} {w : Live} {trace : List Mark}
    (h : (observed cfg session_id).Reachable (w, trace)) :
    w.shared.confirmations session_id = entry cfg.floats (streak trace) ∧
    ∀ n c answer recovery next, w.calls n = some c → c.job.session_id = session_id →
      c.step cfg w.shared answer = some (.claim recovery, next) →
      ∃ before first between second rest after,
        trace = before ++ (first :: between ++ second :: rest).map Mark.salvage ++ after ∧
        (∀ d ∈ first :: between ++ second :: rest, Admissible cfg session_id d ∧
          d.digest = recovery.snapshot.stable_state_digest) ∧
        spaced cfg.floats first.at_time second.at_time = true ∧
        ∃ own, (second :: rest).getLast? = some own ∧ own.job = recovery.job ∧
          own.judgment.snapshot = recovery.snapshot ∧ own.judgment.decision = recovery.decision := by
  have htracked := Tracked.inductive_tracked.reachable h
  refine ⟨htracked.table, fun n c answer recovery next hc hid hcall => ?_⟩
  obtain ⟨heffect, -⟩ := Call.step_sound (htracked.sound.calls n c hc) hcall
  obtain ⟨j, read, hstage, rfl, -⟩ := heffect
  have hevident := htracked.evident n c hc hid
  rw [hstage] at hevident
  obtain ⟨before, after, front, own, htrace, hstreak, hjob, hsnapshot, hdecision, e, he, hcount⟩ := hevident
  obtain ⟨⟨start, hstart⟩, hsame⟩ := streak_spec before
  cases hds : streak before with
  | nil =>
    rw [hds] at he
    cases he
  | cons d ds =>
    rw [hds] at hstreak hstart hsame he
    obtain rfl := Option.some.inj he
    have hrepeats : 0 < Spaced.repeats (spaced cfg.floats) d.at_time (ds.map Decided.at_time) := by
      have := show 2 ≤ 1 + Spaced.repeats (spaced cfg.floats) d.at_time (ds.map Decided.at_time) from hcount
      omega
    obtain ⟨between', t, rest', hsplit, hgap⟩ := Spaced.exists_spaced hrepeats
    obtain ⟨between, tail, rfl, rfl, htail⟩ := List.map_eq_append_iff.mp hsplit
    obtain ⟨second, rest, rfl, rfl, -⟩ := List.map_eq_cons_iff.mp htail
    have htrace : trace = start ++ (d :: (between ++ second :: rest)).map Mark.salvage ++ after := by
      rw [← hstart]
      exact htrace
    refine ⟨start, d, between, second, rest, after, htrace, fun x hx => ⟨?_, ?_⟩, hgap, own, ?_, hjob, hsnapshot,
      hdecision⟩
    · apply htracked.admissible
      rw [htrace]
      exact List.mem_append_left _ (List.mem_append_right _ (List.mem_map_of_mem hx))
    · have hown : own ∈ d :: (between ++ second :: rest) := by
        rw [hstreak]
        exact List.mem_append_right _ (List.mem_singleton_self own)
      have hdigest : own.digest = j.snapshot.stable_state_digest := by rw [Decided.digest, hsnapshot]
      exact (hsame x hx own hown).trans hdigest
    · have hlast : (d :: (between ++ second :: rest)).getLast? = some own := by
        rw [hstreak, List.getLast?_concat]
      rw [← List.cons_append, List.getLast?_append_of_ne_nil _ (List.cons_ne_nil second rest)] at hlast
      exact hlast

/-! ### A session that is stuck twice -/

namespace Sample

/-- Two calls, with a gap between their decisions, up to the start of the recovery. -/
def twice : List Label :=
  confirms 0 now ++ [.evaluate 0 (.go now)] ++ confirms 1 later ++ [.evaluate 1 (.go later)]

/-- The next step of the call starts a recovery. -/
def starts (w : Live) (n : Nat) : Bool :=
  match w.calls n with
  | some c =>
    match c.step config w.shared (.go later) with
    | some (.claim _, _) => c.job.session_id == "s-1"
    | _ => false
  | none => false

theorem of_starts {w : Live} {n : Nat} (h : starts w n = true) :
    ∃ c recovery next, w.calls n = some c ∧ c.job.session_id = "s-1" ∧
      c.step config w.shared (.go later) = some (.claim recovery, next) := by
  unfold starts at h
  split at h
  · rename_i c hc
    split at h
    · rename_i recovery next hstep
      exact ⟨c, recovery, next, hc, beq_iff_eq.mp h, hstep⟩
    · cases h
  · cases h

end Sample

open Sample in
theorem confirmed_twice_sample :
    ∃ before first between second rest after,
      ((observed config "s-1").after (.start, []) twice).2 =
        before ++ (first :: between ++ second :: rest).map Mark.salvage ++ after ∧
      spaced floats first.at_time second.at_time = true := by
  have hreachable : (observed config "s-1").Reachable ((observed config "s-1").after (.start, []) twice) :=
    Machine.reachable_after rfl twice
  have hstarts : starts ((observed config "s-1").after (.start, []) twice).1 1 = true := by decide +kernel
  generalize (observed config "s-1").after (.start, []) twice = x at hreachable hstarts ⊢
  obtain ⟨w, trace⟩ := x
  obtain ⟨c, recovery, next, hc, hid, hstep⟩ := of_starts hstarts
  obtain ⟨before, first, between, second, rest, after, htrace, -, hgap, -⟩ :=
    (confirmed_twice hreachable).2 1 c _ recovery next hc hid hstep
  exact ⟨before, first, between, second, rest, after, htrace, hgap⟩

end JevLive

end Plachem
