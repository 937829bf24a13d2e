import Mathlib.Data.Finset.Sort
import Mathlib.Data.String.Basic
import PlachemMonitor.Engine.Drift

/-!
# The drift state machine

What the checkpoints of a run are to mean: a `Tracker` has the progress that is verified, the last
checkpoint in scope, and the number of drifts since the last step towards the goal. A checkpoint
drifts if it strays, or if since the last checkpoint in scope neither the progress nor its signature
has changed (`Tracker.Drifts`). Two drifts without a step between them end the run, if the worker can
be asked to stop (`Tracker.follow`).

`Tracks` relates a tracker and a record, and `judge_tracked` says that the judgement of a checkpoint
is what the tracker says.
-/

namespace Plachem

namespace CoreEngine

/-- The verified progress, as four sets of codes. -/
structure Verified where
  completed_conditions : Finset String
  artifacts : Finset String
  evidence : Finset String
  scope : Finset String
  deriving DecidableEq

namespace Verified

def empty : Verified := ⟨∅, ∅, ∅, ∅⟩

/-- The progress with a checkpoint. -/
def add (v : Verified) (c : Checkpoint) : Verified where
  completed_conditions := v.completed_conditions ∪ c.completed_conditions.toFinset
  artifacts := v.artifacts ∪ c.artifact_delta.toFinset
  evidence := v.evidence ∪ c.evidence_delta.toFinset
  scope := v.scope ∪ c.scope_delta.toFinset

/-- All that is verified in the one is so in the other. -/
structure Le (v w : Verified) : Prop where
  completed_conditions : v.completed_conditions ⊆ w.completed_conditions
  artifacts : v.artifacts ⊆ w.artifacts
  evidence : v.evidence ⊆ w.evidence
  scope : v.scope ⊆ w.scope

/-- The progress as it is written. -/
def toDict (v : Verified) : Dict :=
  progress v.completed_conditions.sort v.artifacts.sort v.evidence.sort v.scope.sort

theorem Le.refl (v : Verified) : Le v v := ⟨Finset.Subset.refl _, Finset.Subset.refl _, Finset.Subset.refl _,
    Finset.Subset.refl _⟩

theorem Le.trans {u v w : Verified} (h : Le u v) (h' : Le v w) : Le u w :=
  ⟨h.1.trans h'.1, h.2.trans h'.2, h.3.trans h'.3, h.4.trans h'.4⟩

theorem Le.antisymm {v w : Verified} (h : Le v w) (h' : Le w v) : v = w := by
  cases v
  cases w
  obtain ⟨rfl, rfl, rfl, rfl⟩ := And.intro (h.1.antisymm h'.1)
    (And.intro (h.2.antisymm h'.2) (And.intro (h.3.antisymm h'.3) (h.4.antisymm h'.4)))
  rfl

theorem le_add (v : Verified) (c : Checkpoint) : Le v (v.add c) :=
  ⟨Finset.subset_union_left, Finset.subset_union_left, Finset.subset_union_left,
    Finset.subset_union_left⟩

theorem merged_sort (s : Finset String) (new : List String) :
    merged s.sort new = (s ∪ new.toFinset).sort := by
  have hperm : (s.sort ++ new).dedup.Perm (s ∪ new.toFinset).sort := by
    rw [List.perm_ext_iff_of_nodup (List.nodup_dedup _) (Finset.sort_nodup _ _)]
    intro t
    rw [List.mem_dedup, List.mem_append, Finset.mem_sort, Finset.mem_sort, Finset.mem_union,
      List.mem_toFinset]
  refine List.Perm.eq_of_pairwise' (r := (· ≤ ·)) (List.pairwise_insertionSort _ _)
    (Finset.pairwise_sort _ _) ?_
  exact (List.perm_insertionSort _ _).trans hperm

/-- The union is written as the engine computes it. -/
theorem verified_with_toDict (v : Verified) (c : Checkpoint) :
    verified_with v.toDict c = .ok (v.add c).toDict := by
  unfold toDict
  rw [verified_with_progress, merged_sort, merged_sort, merged_sort, merged_sort]
  rfl

theorem sortKeys_strs (texts : List String) :
    (Value.strs texts).json.sortKeys = (Value.strs texts).json := by
  show Json.arr (Json.sortKeysElems (texts.map Json.str)) = Json.arr (texts.map Json.str)
  congr 1
  induction texts with
  | nil => rfl
  | cons t texts ih =>
    rw [List.map_cons, Json.sortKeysElems, ih]
    rfl

theorem strs_inj {texts texts' : List String}
    (h : (Value.strs texts).json = (Value.strs texts').json) : texts = texts' := by
  have hmap : texts.map Json.str = texts'.map Json.str := Json.arr.inj h
  exact List.map_injective_iff.mpr (fun _ _ h => Json.str.inj h) hmap

/-- Progress that is written alike is the same. -/
theorem toDict_inj {v w : Verified} (h : Dict.Eqv v.toDict w.toDict) : v = w := by
  have part : ∀ (field : String) {s s' : Finset String},
      v.toDict.get? field = some (Value.strs s.sort).json →
      w.toDict.get? field = some (Value.strs s'.sort).json → s = s' := by
    intro field s s' hv hw
    have hpart : (v.toDict.get? field).map Json.sortKeys = (w.toDict.get? field).map Json.sortKeys :=
      Json.getMember_of_eqv (Dict.wf _) (Dict.wf _) h field
    rw [hv, hw, Option.map_some, Option.map_some, sortKeys_strs, sortKeys_strs] at hpart
    rw [← s.sort_toFinset (· ≤ ·), strs_inj (Option.some.inj hpart), s'.sort_toFinset (· ≤ ·)]
  have hcompleted : v.completed_conditions = w.completed_conditions :=
    part "completed_conditions" rfl rfl
  have hartifacts : v.artifacts = w.artifacts := part "artifacts" rfl rfl
  have hevidence : v.evidence = w.evidence := part "evidence" rfl rfl
  have hscope : v.scope = w.scope := part "scope" rfl rfl
  cases v
  cases w
  obtain ⟨rfl, rfl, rfl, rfl⟩ := And.intro hcompleted (And.intro hartifacts
    (And.intro hevidence hscope))
  rfl

end Verified

/-- Checkpoints with one signature have the same progress. -/
theorem signature_inj {H : Hashlib} (hsha : Function.Injective H.sha256) {c c' : Checkpoint}
    {v v' : Verified} (h : signature H c v.toDict = signature H c' v'.toDict) : v = v' := by
  have heqv := Json.dumps_inj (Dict.wf _) (Dict.wf _) (String.ofList_injective (hsha h))
  have hpart := Json.getMember_of_eqv (Dict.wf _) (Dict.wf _) heqv "verified"
  exact Verified.toDict_inj (Option.some.inj hpart)

/-! ## The tracker -/

/-- What has come of the checkpoints of a run. -/
structure Tracker where
  verified : Verified
  /-- The progress with the last checkpoint in scope, and the signature of that. -/
  in_scope : Option (Verified × String)
  /-- The drifts since the last step towards the goal. -/
  drifts : Nat
  deriving DecidableEq

namespace Tracker

/-- A run without a checkpoint, which has this number of drifts from the run before it. -/
def start (drifts : Nat) : Tracker := ⟨.empty, none, drifts⟩

variable (H : Hashlib) (contract : GoalContract) (t : Tracker) (c : Checkpoint)

/-- The progress with the checkpoint and its signature. -/
def mark : Verified × String := (t.verified.add c, signature H c (t.verified.add c).toDict)

/-- The checkpoint strays, or neither the progress nor the signature has changed since the last
checkpoint in scope. -/
def Drifts : Prop := Astray contract c ∨ t.in_scope = some (t.mark H c)

instance : Decidable (Astray contract c) := inferInstanceAs (Decidable (_ ∨ _))

instance : Decidable (t.Drifts H contract c) := inferInstanceAs (Decidable (_ ∨ _))

def next : Tracker where
  verified := t.verified.add c
  in_scope := if Astray contract c then t.in_scope else some (t.mark H c)
  drifts := if t.Drifts H contract c then t.drifts + 1 else 0

/-- The goal status after a checkpoint. -/
def goal_status : String :=
  if t.drifts = 0 then "NORMAL" else if t.drifts = 1 then "GUARDED" else "DRIFT"

end Tracker

/-- How two drifts end a run: as its worker answers the abort. -/
def Aborted.ending : Aborted → Option (CoreRunStatus × String)
  | .confirmed _ => some (.CANCELLED, "LOCAL_LLM_GOAL_DRIFT")
  | .failed => some (.FAIL, "POLICY_ABORT_FAILED")
  | .raised => none

/-- The tracker after the checkpoints, and how the run has ended, if it has. A checkpoint comes with
the answer of the worker if it is asked to stop. -/
def Tracker.follow (H : Hashlib) (contract : GoalContract) (t : Tracker) :
    List (Aborted × Checkpoint) → Tracker × Option (CoreRunStatus × String)
  | [] => (t, none)
  | (abort, c) :: cs =>
    let t' := t.next H contract c
    if 2 ≤ t'.drifts ∧ abort.ending.isSome then (t', abort.ending) else follow H contract t' cs

/-! ## Records that are tracked -/

/-- The record is that of a run whose goal is where the tracker says. -/
structure Tracks (H : Hashlib) (t : Tracker) (r : RunRecord) : Prop where
  verified : r.verified_progress = t.verified.toDict
  goal_state : ∃ goal_state, goal_state_of r = .ok goal_state ∧
    int_of (goal_state.get? "drift_count") = .ok (t.drifts : Int) ∧
    goal_state.get? "last_checkpoint_signature" = t.in_scope.map fun mark => Json.str mark.2
  /-- What the last checkpoint in scope has verified is verified, and the signature tells it. -/
  signed : ∀ mark ∈ t.in_scope, mark.1.Le t.verified ∧
    ∃ c, mark.2 = signature H c mark.1.toDict
  max_context_resets : ∃ maximum, int_of (some r.policy.max_context_resets.json) = .ok maximum

section Judged

variable {ρ : Type} {engine : Engine ρ} {t : Tracker} {r r' : RunRecord} {checkpoint : Dict}
  {contract : GoalContract} {c : Checkpoint} {judgement : Judgement}

/-- What is judged of a checkpoint is what the tracker says. -/
structure Follows (engine : Engine ρ) (contract : GoalContract) (t : Tracker) (c : Checkpoint)
    (judgement : Judgement) : Prop where
  normalized : judgement.normalized = c
  verified : judgement.verified = (t.verified.add c).toDict
  drift_count : int_of (judgement.goal_state.get? "drift_count") = .ok (t.drifts : Int)
  signature : judgement.goal_state.get? "last_checkpoint_signature" =
    (t.next engine.H contract c).in_scope.map fun mark => Json.str mark.2
  event_code : judgement.event_code.isSome = true ↔ t.Drifts engine.H contract c

/-- Neither what is stored as verified nor the stored signature changes just if they have not changed
since the last checkpoint in scope. -/
theorem Tracks.repeated_iff (hsha : Function.Injective engine.H.sha256) (ht : Tracks engine.H t r)
    {goal_state : Dict} (hgoal : goal_state_of r = .ok goal_state) :
    (Dict.Eqv (t.verified.add c).toDict r.verified_progress ∧
      goal_state.get? "last_checkpoint_signature" = some (.str (t.mark engine.H c).2)) ↔
    t.in_scope = some (t.mark engine.H c) := by
  obtain ⟨goal_state', hgoal', -, hsignature⟩ := ht.goal_state
  obtain rfl := Except.ok.inj (hgoal.symm.trans hgoal')
  rw [hsignature, ht.verified]
  constructor
  · rintro ⟨-, hsame⟩
    obtain ⟨mark, hmark, hstr⟩ := Option.map_eq_some_iff.mp hsame
    have hsecond : mark.2 = (t.mark engine.H c).2 := Json.str.inj hstr
    obtain ⟨-, c', hc'⟩ := ht.signed mark hmark
    have hfirst : mark.1 = (t.mark engine.H c).1 := signature_inj hsha (hc'.symm.trans hsecond)
    rw [hmark, Prod.ext hfirst hsecond]
  · intro hmark
    obtain ⟨hle, -⟩ := ht.signed _ hmark
    have hsame : t.verified.add c = t.verified := hle.antisymm (t.verified.le_add c)
    rw [hmark, hsame]
    exact ⟨Dict.Eqv.refl _, rfl⟩

theorem judge_tracked (hsha : Function.Injective engine.H.sha256) (ht : Tracks engine.H t r)
    (hchecked : normalized_checkpoint engine r checkpoint = .ok (contract, c)) :
    ∃ judgement, judge engine r checkpoint = .ok judgement ∧
      Follows engine contract t c judgement := by
  obtain ⟨contract', hcontract, hchecked⟩ := bind_eq_ok.mp hchecked
  obtain ⟨normalized, hnormalized, hchecked⟩ := bind_eq_ok.mp hchecked
  obtain ⟨rfl, rfl⟩ := Prod.mk.inj (pure_eq_ok.mp hchecked)
  obtain ⟨goal_state, hgoal, hdrifts, hsignature⟩ := ht.goal_state
  have hverified : verified_with r.verified_progress normalized =
      .ok (t.verified.add normalized).toDict := by
    rw [ht.verified]
    exact Verified.verified_with_toDict _ _
  have hrepeated := ht.repeated_iff (c := normalized) hsha hgoal
  unfold judge
  rw [hcontract]
  show ∃ judgement, ((normalize_progress_checkpoint checkpoint contract').mapError
    ObserveError.value >>= _) = _ ∧ _
  rw [hnormalized]
  show ∃ judgement, (goal_state_of r >>= _) = _ ∧ _
  rw [bind_of_ok hgoal, bind_of_ok hverified]
  have hastray : ∀ {e : String}, Astray contract' normalized →
      Follows engine contract' t normalized
        ⟨normalized, (t.verified.add normalized).toDict, goal_state, some e⟩ := by
    intro e h
    refine ⟨rfl, rfl, hdrifts, ?_, iff_of_true rfl (.inl h)⟩
    show _ = (if Astray contract' normalized then t.in_scope else _).map _
    rw [if_pos h]
    exact hsignature
  split
  · rename_i hgoal_id
    exact ⟨_, rfl, hastray (.inl hgoal_id)⟩
  split
  · rename_i hscope
    exact ⟨_, rfl, hastray (.inr hscope)⟩
  · rename_i hgoal_id hscope
    have hnot : ¬ Astray contract' normalized := not_or.mpr ⟨hgoal_id, hscope⟩
    refine ⟨_, rfl, rfl, rfl, ?_, ?_, ?_⟩
    · rw [Dict.get?_set_ne _ _ (by decide)]
      exact hdrifts
    · show _ = (if Astray contract' normalized then t.in_scope else _).map _
      rw [if_neg hnot, Dict.get?_set_self]
      rfl
    · refine Iff.trans ?_ (hrepeated.trans (or_iff_right hnot).symm)
      dsimp only
      split
      · rename_i hsame
        exact iff_of_true rfl hsame
      · rename_i hsame
        exact iff_of_false (by decide) hsame

/-- The record of a judgement is tracked by the next tracker. -/
theorem Tracks.next (ht : Tracks engine.H t r) (hfollows : Follows engine contract t c judgement)
    (h : Guarded judgement ((t.next engine.H contract c).drifts : Int) r r') :
    Tracks engine.H (t.next engine.H contract c) r' := by
  obtain ⟨goal_state, hgoal, hcount, hsignature⟩ := h.goal_state
  refine ⟨h.verified_progress.trans hfollows.verified, ⟨goal_state, hgoal, ?_, ?_⟩, ?_, ?_⟩
  · rw [hcount]
    rfl
  · rw [hsignature]
    exact hfollows.signature
  · intro mark hmark
    have hmark : (if Astray contract c then t.in_scope else some (t.mark engine.H c)) = some mark :=
      hmark
    split at hmark
    · obtain ⟨hle, hsigned⟩ := ht.signed mark hmark
      exact ⟨hle.trans (t.verified.le_add c), hsigned⟩
    · obtain rfl := Option.some.inj hmark
      exact ⟨.refl _, c, rfl⟩
  · rw [h.policy]
    exact ht.max_context_resets

/-- What the judgement looks at is as before. -/
theorem Tracks.congr (ht : Tracks engine.H t r) (hverified : r'.verified_progress = r.verified_progress)
    (hstate : r'.policy_state = r.policy_state) (hpolicy : r'.policy = r.policy) :
    Tracks engine.H t r' := by
  refine ⟨hverified.trans ht.verified, ?_, ht.signed, ?_⟩
  · unfold goal_state_of
    rw [hstate]
    exact ht.goal_state
  · rw [hpolicy]
    exact ht.max_context_resets

end Judged

end CoreEngine

end Plachem
