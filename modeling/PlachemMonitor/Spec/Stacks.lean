import Mathlib.Data.List.Basic

/-!
# Call stacks

Threads as stacks of frames. Only the top frame of a thread takes a step: it is replaced by the
frames that the step leaves, none when it returns, two when it calls. `frames_advance` says what
this does to the frames of all threads, and is all that invariants over them need.
-/

namespace Plachem

namespace Stacks

variable {F : Type*}

/-- The frames of all threads. -/
def frames (threads : List (List F)) : List F := threads.flatten

/-- The frame that runs in the thread. -/
def top (threads : List (List F)) (t : Nat) : Option F :=
  match threads[t]? with
  | some (f :: _) => some f
  | _ => none

/-- The threads after the top frame of the thread left these frames. -/
def advance (threads : List (List F)) (t : Nat) (left : List F) : List (List F) :=
  threads.modify t fun stack => left ++ stack.tail

/-- A new thread. -/
def spawn (threads : List (List F)) (f : F) : List (List F) := threads ++ [[f]]

@[simp] theorem frames_spawn (threads : List (List F)) (f : F) :
    frames (spawn threads f) = frames threads ++ [f] := by
  simp [frames, spawn]

/-- A step puts the frames that it leaves in the place of the frame that ran. -/
theorem frames_advance {threads : List (List F)} {t : Nat} {f : F} (left : List F)
    (h : top threads t = some f) : ∃ before after, frames threads = before ++ f :: after ∧
      frames (advance threads t left) = before ++ left ++ after := by
  induction threads generalizing t with
  | nil => cases h
  | cons stack threads ih =>
    cases t with
    | zero =>
      cases stack with
      | nil => cases h
      | cons g rest =>
        obtain rfl : g = f := Option.some.inj h
        exact ⟨[], rest ++ frames threads, by simp [frames], by simp [frames, advance]⟩
    | succ t =>
      obtain ⟨before, after, hbefore, hafter⟩ := ih h
      refine ⟨stack ++ before, after, ?_, ?_⟩
      · rw [frames, List.flatten_cons, ← frames, hbefore, List.append_assoc]
      · rw [advance, List.modify_succ_cons, frames, List.flatten_cons]
        rw [frames, advance] at hafter
        rw [hafter, List.append_assoc, List.append_assoc, List.append_assoc]

theorem mem_of_top {threads : List (List F)} {t : Nat} {f : F} (h : top threads t = some f) :
    f ∈ frames threads := by
  obtain ⟨before, after, hframes, -⟩ := frames_advance [] h
  simp [hframes]

/-- A frame after a step was there before, or is one that the step left. -/
theorem mem_frames_advance {threads : List (List F)} {t : Nat} {f g : F} {left : List F}
    (h : top threads t = some f) (hg : g ∈ frames (advance threads t left)) :
    g ∈ left ∨ g ∈ frames threads := by
  obtain ⟨before, after, hbefore, hafter⟩ := frames_advance left h
  rw [hafter, List.mem_append, List.mem_append] at hg
  rw [hbefore, List.mem_append, List.mem_cons]
  tauto

end Stacks

end Plachem
