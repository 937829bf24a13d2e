import PlachemMonitor.Spec.Chain
import PlachemMonitor.WarRoom.Growth

/-!
# Supersession

A task can be superseded by another one of its project that has passed its review. Only the audit
tells this; the task goes on as before. `project_readiness` leaves every superseded task out.

* `Board`: the War Room with the rows of the audit that supersede a task.
* `Forward`: a replacement is never, directly or through others, replaced by the task itself. Nothing
  checks this, and without it two tasks can replace each other (`replaced_in_a_circle`).
* `supersession_sound`: with it, every chain of replacements ends, and a project is ready only if
  each chain ends in a task that has passed or is done.
-/

namespace Plachem

namespace WarRoom

open StateTransition (Reaches Reaches₁)

/-- A row of `war_audit_events` of the type `task_superseded`. -/
structure Superseded where
  id : String
  task_id : String
  replacement_task_id : String
  created_at : Int
  deriving DecidableEq

/-- `PROCESS_BOARD_STATES` -/
inductive BoardState where
  | WAITING | READY | RUNNING | PASS | FAIL | REWORK | BLOCKED | SUPERSEDED | DONE
  deriving DecidableEq

/-- `_process_board_state` -/
def process_board_state (status : TaskStatus) (delivery_system_error : Bool)
    (latest_qa_verdict : Option Verdict) (superseded : Bool) : BoardState :=
  if superseded then .SUPERSEDED
  else if delivery_system_error then .BLOCKED
  else
    match status, latest_qa_verdict with
    | .completed, _ => .DONE
    | .stopped, _ | .stop_unconfirmed, _ => .BLOCKED
    | .rework_required, _ => .REWORK
    | _, some .FAIL => .FAIL
    | _, some .REWORK => .REWORK
    | _, some .PASS => .PASS
    | .approved, none => .READY
    | .running, none => .RUNNING
    | _, none => .WAITING

/-- `ORDER BY created_at DESC,id DESC LIMIT 1` -/
def latest_row {α : Type} (created_at : α → Int) (id : α → String) (rows : List α) : Option α :=
  rows.foldl (fun best r =>
    match best with
    | none => some r
    | some b =>
      if created_at b < created_at r ∨ created_at b = created_at r ∧ id b < id r then some r
      else some b) none

/-- The verdict that the board reads. -/
def latest_qa_verdict (db : DB) (task_id : String) : Option Verdict :=
  (latest_row QaVerdict.created_at QaVerdict.id (db.verdicts.rows.filter fun v =>
    v.signed_payload.task_id == task_id)).map fun v => v.signed_payload.verdict

/-- Some delivery of the task has a system error. -/
def delivery_system_error (db : DB) (t : Task) : Bool :=
  db.deliveries.rows.any fun d =>
    some d.message_id == t.source_message_id && d.error_class == some "system_error"

/-- `_has_current_representative_approval` -/
def has_current_representative_approval (cfg : Config) (db : DB) (t : Task) : Bool :=
  db.representative_approvals.rows.any fun r =>
    r.task_id == t.id && r.decision == .approved && r.task_revision == t.revision &&
      r.scope_hash == cfg.sha256 t.scope && t.document_version.isSome &&
      r.document_version == t.document_version && r.qa_cycle == t.qa_cycle

/-- The War Room, with the audit of the superseded tasks. -/
structure Board where
  world : World
  superseded : List Superseded

namespace Board

def superseded_row (b : Board) (task_id : String) : Option Superseded :=
  latest_row Superseded.created_at Superseded.id (b.superseded.filter fun r => r.task_id == task_id)

/-- The task that supersedes a task. -/
def replacement (b : Board) (task_id : String) : Option String :=
  (b.superseded_row task_id).map Superseded.replacement_task_id

/-- `mapped_state` of `_process_board_projection` -/
def mapped_state (b : Board) (t : Task) : BoardState :=
  process_board_state t.status (delivery_system_error b.world.db t)
    (latest_qa_verdict b.world.db t.id) (b.superseded_row t.id).isSome

/-- `project_readiness` has reasons against the task. -/
def blocking (cfg : Config) (env : Env) (b : Board) (t : Task) : Bool :=
  let missing := representative_completion_checks cfg b.world.db env t
  match b.mapped_state t with
  | .PASS => t.status != .qa || missing != []
  | .DONE => missing != [] || !has_current_representative_approval cfg b.world.db t
  | _ => true

/-- `ready_for_representative_completion` of `project_readiness` -/
def project_readiness (cfg : Config) (env : Env) (b : Board) (project_id : String) : Bool :=
  let considered := b.world.db.tasks.rows.filter fun t =>
    t.project_id == project_id && b.mapped_state t != .SUPERSEDED
  !considered.isEmpty && considered.all fun t => !b.blocking cfg env t

inductive Label where
  /-- Any other step of the War Room. -/
  | act (l : WarRoom.Label)
  /-- `supersede_task`, whose check for an earlier supersession has read so many rows. -/
  | supersede (task_id : String) (req : Request) (env : Env) (seen : Read → Nat) (existing : Nat)

/-- `replacement_task_id` of the body -/
def replacement_of (req : Request) : Option String :=
  (nonblank (req.get? "replacement_task_id")).map Text.strip

def supersedes : WarRoom.Label → Bool
  | .request (.supersede_task _) _ _ _ => true
  | _ => false

def step (cfg : Config) (b : Board) : Label → Option Board
  | .act l => do
    guard (supersedes l = false)
    let w ← WarRoom.step cfg b.world l
    pure { b with world := w }
  | .supersede task_id req env seen existing => do
    let w ← WarRoom.step cfg b.world (.request (.supersede_task task_id) req env seen)
    match (supersede_task task_id).handle cfg (b.world.view seen) b.world.db env req with
    | .ok (some _, _) =>
      let replacement_task_id ← replacement_of req
      guard (latest_qa_verdict (b.world.view seen .evidence) replacement_task_id = some .PASS)
      guard (((b.superseded.take existing).any fun r => r.task_id == task_id) = false)
      pure ⟨w, b.superseded ++ [⟨env.uuid 1, task_id, replacement_task_id, env.now⟩]⟩
    -- the stored response of an earlier request
    | _ => pure { b with world := w }

end Board

def board (cfg : Config) : Machine Board Board.Label where
  init b := (warRoom cfg).init b.world ∧ b.superseded = []
  step := Board.step cfg

namespace Board

variable {cfg : Config} {b b' : Board} {l : Label}

/-! ## Steps -/

/-- A supersession does not lead back: the replacement is not superseded by the task, directly or
through others. -/
def Forward (b : Board) : Label → Prop
  | .act _ => True
  | .supersede task_id req _ _ _ => ∀ id, replacement_of req = some id → ¬Reaches b.replacement id task_id

theorem latest_row_append {α : Type} (created_at : α → Int) (id : α → String) (rows : List α) (r : α) :
    latest_row created_at id (rows ++ [r]) = latest_row created_at id rows ∨
      latest_row created_at id (rows ++ [r]) = some r := by
  simp only [latest_row, List.foldl_append, List.foldl_cons, List.foldl_nil]
  split
  · exact .inr rfl
  · rename_i best hbest
    split
    · exact .inr rfl
    · exact .inl hbest.symm

/-- The row of another task stays the same. -/
theorem superseded_row_of_ne {w : World} {r : Superseded} {task_id : String} (h : task_id ≠ r.task_id) :
    superseded_row ⟨w, b.superseded ++ [r]⟩ task_id = b.superseded_row task_id := by
  simp [superseded_row, List.filter_append, beq_false_of_ne (Ne.symm h)]

/-- A new row is the one that counts, or the old one still is. -/
theorem replacement_append {w : World} (r : Superseded) :
    replacement ⟨w, b.superseded ++ [r]⟩ r.task_id = b.replacement r.task_id ∨
      replacement ⟨w, b.superseded ++ [r]⟩ r.task_id = some r.replacement_task_id := by
  have hrows : (b.superseded ++ [r]).filter (fun q => q.task_id == r.task_id) =
      b.superseded.filter (fun q => q.task_id == r.task_id) ++ [r] := by
    simp [List.filter_append]
  simp only [replacement, superseded_row, hrows]
  exact (latest_row_append _ _ _ r).imp (congrArg _) (congrArg _)

theorem latest_row_mem {α : Type} {created_at : α → Int} {id : α → String} {rows : List α} {r : α}
    (h : latest_row created_at id rows = some r) : r ∈ rows := by
  induction rows using List.reverseRecOn with
  | nil => cases h
  | append_singleton rows q ih =>
    rcases latest_row_append created_at id rows q with hold | hnew
    · exact List.mem_append_left _ (ih (hold ▸ h))
    · rw [hnew] at h
      cases h
      exact List.mem_append_right _ (List.mem_singleton_self r)

/-- The row that names the replacement of a task. -/
theorem replacement_row {task_id id : String} (h : b.replacement task_id = some id) :
    ∃ r ∈ b.superseded, r.task_id = task_id ∧ r.replacement_task_id = id := by
  obtain ⟨r, hr, rfl⟩ := Option.map_eq_some_iff.mp h
  obtain ⟨hmem, hid⟩ := List.mem_filter.mp (latest_row_mem hr)
  exact ⟨r, hmem, eq_of_beq hid, rfl⟩

/-- Both tasks of a row are tasks of one project. -/
def Placed (db : DB) (r : Superseded) : Prop :=
  ∃ t ∈ db.tasks, ∃ q ∈ db.tasks, t.id = r.task_id ∧ q.id = r.replacement_task_id ∧
    q.project_id = t.project_id

theorem Placed.grows {a b : DB} {r : Superseded} (h : Placed a r) (hgrows : a.Grows b) : Placed b r := by
  obtain ⟨t, ht, q, hq, htid, hqid, hproject⟩ := h
  obtain ⟨t', ht', htgrows⟩ := hgrows.tasks t ht
  obtain ⟨q', hq', hqgrows⟩ := hgrows.tasks q hq
  exact ⟨t', ht', q', hq', htgrows.id.trans htid, hqgrows.id.trans hqid,
    hqgrows.project_id.trans (hproject.trans htgrows.project_id.symm)⟩

/-- A supersession that is recorded is about two tasks of one project. -/
theorem supersede_placed {task_id id : String} {req : Request} {env : Env} {seen : Read → Nat}
    {db : DB} {resp : Json} {w : World} (created_at : Int) (row : String)
    (h : (supersede_task task_id).handle cfg (w.view seen) w.db env req = .ok (some db, resp))
    (hid : replacement_of req = some id) :
    Placed (w.view seen .task) ⟨row, task_id, id, created_at⟩ := by
  obtain ⟨lookup, ⟨source, replacement⟩, db₁, hb, -, ha, -⟩ := handle_eq_ok h
  simp only [supersede_task, bind_eq_ok, found_eq_ok, pure_eq_ok, Prod.mk.injEq] at hb
  obtain ⟨text, htext, -, -, source', hsource, -, -, -, -, -, -, -, rfl, rfl⟩ := hb
  simp only [supersede_task, bind_eq_ok, found_eq_ok, ensure_eq_ok, exists_unit] at ha
  obtain ⟨-, -, -, q, hq, -⟩ := ha
  have hreplacement : Text.strip text = id := by
    simpa [replacement_of, htext] using hid
  obtain ⟨hq, hproject⟩ := Option.filter_eq_some_iff.mp hq
  obtain ⟨hsource, hsourceid⟩ := Table.find_some hsource
  obtain ⟨hqmem, hqid⟩ := Table.find_some hq
  exact ⟨source', hsource, q, hqmem, hsourceid, hqid.trans hreplacement, eq_of_beq hproject⟩

/-- What a step can do: the War Room goes on, and at most one row is added. -/
theorem step_cases (h : step cfg b l = some b') :
    (∃ a, WarRoom.step cfg b.world a = some b'.world) ∧
      (b'.superseded = b.superseded ∨ ∃ task_id req env seen existing id row created_at,
        l = .supersede task_id req env seen existing ∧ replacement_of req = some id ∧
        Placed (b.world.view seen .task) ⟨row, task_id, id, created_at⟩ ∧
        b'.superseded = b.superseded ++ [⟨row, task_id, id, created_at⟩]) := by
  cases l with
  | act a =>
    simp only [step, Option.bind_eq_bind, Option.bind_eq_some_iff] at h
    obtain ⟨-, -, w, hw, h⟩ := h
    cases h
    exact ⟨⟨a, hw⟩, .inl rfl⟩
  | supersede task_id req env seen existing =>
    simp only [step, Option.bind_eq_bind, Option.bind_eq_some_iff] at h
    obtain ⟨w, hw, h⟩ := h
    split at h
    · rename_i hhandle
      simp only [Option.bind_eq_some_iff] at h
      obtain ⟨id, hid, -, -, -, -, h⟩ := h
      cases h
      exact ⟨⟨_, hw⟩, .inr ⟨task_id, req, env, seen, existing, id, _, _, rfl, hid,
        supersede_placed _ _ hhandle hid, rfl⟩⟩
    · cases h
      exact ⟨⟨_, hw⟩, .inl rfl⟩

/-! ## The invariant -/

/-- The chains of replacements end, and stay within a project. -/
structure Sound (b : Board) : Prop where
  ends : ∀ task_id, Chain.Ends b.replacement task_id
  placed : ∀ r ∈ b.superseded, Placed b.world.db r
  grown : Ordered DB.Grows b.world

theorem sound_step (hb : Sound b) (hforward : Forward b l) (h : step cfg b l = some b') :
    Sound b' := by
  obtain ⟨⟨a, ha⟩, hrows⟩ := step_cases h
  have hgrown : Ordered DB.Grows b'.world :=
    (inductive_grows fun _ _ => True).step _ a _ hb.grown trivial ha
  have hgrows : b.world.db.Grows b'.world.db := step_grows ha
  rcases hrows with hrows | ⟨task_id, req, env, seen, existing, id, row, created_at, rfl, hid, hplaced,
    hrows⟩
  · have hsame : b'.replacement = b.replacement := by
      funext task_id
      simp only [replacement, superseded_row, hrows]
    exact ⟨hsame ▸ hb.ends, fun r hr => (hb.placed r (hrows ▸ hr)).grows hgrows, hgrown⟩
  · have heq : b' = ⟨b'.world, b.superseded ++ [⟨row, task_id, id, created_at⟩]⟩ := by
      rw [← hrows]
    have hother : ∀ x, x ≠ task_id → b'.replacement x = b.replacement x := by
      intro x hx
      rw [heq]
      exact congrArg _ (superseded_row_of_ne hx)
    refine ⟨?_, fun r hr => ?_, hgrown⟩
    · have hnew : b'.replacement task_id = b.replacement task_id ∨ b'.replacement task_id = some id := by
        rw [heq]
        exact replacement_append _
      rcases hnew with hold | hnew
      · have hsame : b'.replacement = b.replacement := by
          funext x
          by_cases hx : x = task_id
          · exact hx ▸ hold
          · exact hother x hx
        exact hsame ▸ hb.ends
      · exact Chain.ends_redirect hb.ends hother hnew (hforward id hid)
    · rw [hrows] at hr
      rcases List.mem_append.mp hr with hr | hr
      · exact (hb.placed r hr).grows hgrows
      · rw [List.mem_singleton.mp hr]
        exact (hplaced.grows (hb.grown.view seen .task)).grows hgrows

theorem inductive_sound : (board cfg).InductiveIf Forward Sound where
  init b hb := by
    refine ⟨fun task_id => .of_none ?_, fun r hr => ?_, ?_⟩
    · simp [replacement, superseded_row, latest_row, hb.2]
    · rw [hb.2] at hr
      exact absurd hr List.not_mem_nil
    · exact (inductive_grows fun _ _ => True).init _ hb.1
  step _ _ _ hb hforward hs := sound_step hb hforward hs

/-! ## Readiness -/

/-- A chain that starts at a task stays with the tasks of its project. -/
theorem Sound.reaches_task (hb : Sound b) {t : Task} (ht : t ∈ b.world.db.tasks) {id : String}
    (h : Reaches b.replacement t.id id) :
    ∃ u ∈ b.world.db.tasks, u.id = id ∧ u.project_id = t.project_id := by
  induction h with
  | refl => exact ⟨t, ht, rfl, rfl⟩
  | tail _ hnext ih =>
    obtain ⟨u, hu, rfl, hproject⟩ := ih
    obtain ⟨r, hr, hid, rfl⟩ := replacement_row hnext
    obtain ⟨s, hs, q, hq, hsid, hqid, hsame⟩ := hb.placed r hr
    obtain rfl : s = u := Table.eq_of_key hs hu (hsid.trans hid)
    exact ⟨q, hq, hqid, hsame.trans hproject⟩

theorem mapped_state_superseded {t : Task} (h : b.mapped_state t = .SUPERSEDED) :
    (b.replacement t.id).isSome = true := by
  simp only [replacement, Option.isSome_map]
  unfold mapped_state process_board_state at h
  split at h
  · assumption
  · split at h
    · cases h
    · split at h <;> cases h

/-- What a ready project does not leave out has passed or is done. -/
theorem ready_state {env : Env} {project_id : String}
    (h : b.project_readiness cfg env project_id = true) {t : Task} (ht : t ∈ b.world.db.tasks)
    (hproject : t.project_id = project_id) (hnone : b.replacement t.id = none) :
    b.mapped_state t = .PASS ∨ b.mapped_state t = .DONE := by
  have hstate : b.mapped_state t ≠ .SUPERSEDED := by
    intro hstate
    have hsome := mapped_state_superseded hstate
    rw [hnone] at hsome
    cases hsome
  simp only [project_readiness, Bool.and_eq_true, List.all_eq_true] at h
  have hblocking := h.2 t (List.mem_filter.mpr ⟨ht, by simp [hproject, hstate]⟩)
  unfold blocking at hblocking
  cases hmapped : b.mapped_state t with
  | PASS => exact .inl rfl
  | DONE => exact .inr rfl
  | _ => simp [hmapped] at hblocking

/-- In every run in which no replacement leads back, the chains of replacements end without a cycle,
and a project is ready only if each chain of it comes to a task that has passed or is done. -/
theorem supersession_sound (h : (board cfg).ReachableIf Forward b) :
    (∀ task_id, ¬Reaches₁ b.replacement task_id task_id ∧
      ∃ last, Reaches b.replacement task_id last ∧ b.replacement last = none) ∧
    ∀ env project_id, b.project_readiness cfg env project_id = true →
      ∀ t ∈ b.world.db.tasks, t.project_id = project_id →
        ∃ u ∈ b.world.db.tasks, Reaches b.replacement t.id u.id ∧
          (b.mapped_state u = .PASS ∨ b.mapped_state u = .DONE) := by
  have hb : Sound b := inductive_sound.reachable h
  refine ⟨fun task_id => ⟨(hb.ends task_id).acyclic, hb.ends task_id⟩, ?_⟩
  rintro env project_id hready t ht hproject
  obtain ⟨last, hlast, hnone⟩ := hb.ends t.id
  obtain ⟨u, hu, rfl, hsame⟩ := hb.reaches_task ht hlast
  exact ⟨u, hu, hlast, ready_state hready hu (hsame.trans hproject) hnone⟩

/-- The replacement is another task, which is not superseded itself. -/
def direct (b : Board) : Label → Bool
  | .act _ => true
  | .supersede task_id req _ _ _ => (replacement_of req).all fun id =>
    (b.replacement id).isNone && id != task_id

theorem forward_of_direct (h : direct b l = true) : Forward b l := by
  cases l with
  | act a => trivial
  | supersede task_id req env seen existing =>
    intro id hid hback
    simp only [direct, hid, Option.all_some, Bool.and_eq_true, Option.isNone_iff_eq_none,
      bne_iff_ne] at h
    rcases Relation.ReflTransGen.cases_head hback with heq | ⟨next, hnext, -⟩
    · exact h.2 heq
    · rw [h.1] at hnext
      cases hnext

end Board

namespace Sample

/-- The task `t2` and its instruction `m2` are prepared. -/
def prepare2 : Label :=
  .request (.prepare_task "p") (request "prepare2" "" "" 7 (body [("instruction", .str "do"),
    ("agent_ids", .arr [.str "dev"]), ("deadline_at", .int 1000), ("document_version", .str "v1")]))
    (outside 7 ["t2", "m2", ""]) latest

/-- The task `t2` is approved and runs. -/
def execute2 (approval_id delivery_id : String) (now : Int) : Label :=
  .request (.approve_and_execute_task "t2") (request approval_id "task_approve_execute" "t2" now
    approval) (outside now [approval_id, "", delivery_id]) latest

def stop2 : Label :=
  .request (.stop_task "t2") (request "stop" "task_stop" "t2" 9 (body [("reason", .str "superseded")]))
    (outside 9 [""]) latest

def ask2 : Label :=
  .request (.transition_task "t2") (request "ask" "" "" 11 (body [("status", .str "awaiting_approval")]))
    (outside 11 [""]) latest

def supersede (task_id replacement_task_id : String) (now : Int) : Board.Label :=
  .supersede task_id (request ("supersede " ++ task_id) "task_supersede" task_id now
    (body [("replacement_task_id", .str replacement_task_id), ("reason", .str "again")]))
    (outside now ["", task_id]) latest 0

/-- The review of `t` has passed; `t2` has been stopped, and `t` replaces it. -/
def replaced : List Board.Label :=
  [.act prepare, .act execute, .act (claim "d" "c" 2), .act (hand "c" 3 (answer "")),
    .act (ended "c" 4 (answer "PASS")), .act (claim "" "q" 5), .act (hand "q" 6 (answer "PASS")),
    .act prepare2, .act (execute2 "a2" "d2" 8), .act stop2, supersede "t2" "t" 10]

/-- Then `t2` is asked for again and its review passes, and `t` goes back and is replaced by it. -/
def replaced_back : List Board.Label :=
  [.act ask2, .act (execute2 "a3" "d3" 12), .act (claim "d3" "c3" 13), .act (hand "c3" 14 (answer "")),
    .act (.record "c3" (outside 15 ["r3", "", "q3"]) (answer "PASS")), .act (claim "q3" "k3" 16),
    .act (.hand_over "k3" (outside 17 ["s3", "v3"]) latest (answer "PASS")),
    .act (transition "rework_required" 18), supersede "t" "t2" 19]

def board_start : Board := ⟨world, []⟩

theorem init_board : (board (config false)).init board_start := ⟨init _, rfl⟩

end Sample

open Sample in
/-- Two tasks replace each other. -/
theorem replaced_in_a_circle :
    (board (config false)).Reachable
      ((board (config false)).after board_start (replaced ++ replaced_back)) ∧
    Reaches₁ ((board (config false)).after board_start (replaced ++ replaced_back)).replacement
      "t" "t" := by
  have hcircle : (fun b : Board => (b.replacement "t", b.replacement "t2"))
      ((board (config false)).after board_start (replaced ++ replaced_back)) =
        (some "t2", some "t") := by
    decide +kernel
  obtain ⟨ht, ht2⟩ := Prod.mk.inj hcircle
  exact ⟨Machine.reachable_after init_board _, .tail (.single ht) ht2⟩

open Sample in
/-- The chains of the sample after its first supersession. -/
theorem supersession_sound_sample :
    ∃ last, Reaches ((board (config false)).after board_start replaced).replacement "t2" last ∧
      ((board (config false)).after board_start replaced).replacement last = none := by
  have hreachable : (board (config false)).ReachableIf (fun b l => b.direct l = true)
      ((board (config false)).after board_start replaced) :=
    Machine.reachableIf_after init_board (by decide +kernel)
  exact ((Board.supersession_sound (hreachable.mono fun _ _ => Board.forward_of_direct)).1 "t2").2

end WarRoom

end Plachem
