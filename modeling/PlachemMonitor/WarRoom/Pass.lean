import Mathlib.Data.List.Sort
import PlachemMonitor.WarRoom.System

/-!
# A pass of the worker

`process_due_deliveries` selects its rows once and takes them in the order of their creation, in one
loop on one connection. Nothing in the loop catches an exception of an adapter, the `ValueError` of
`bind_delivery` apart: the exception leaves the function, what is not committed is rolled back, and
the rows that follow have no turn (`take_turns`). The row itself stays as its claim left it.

* `isolated_iff`: the pass keeps the rows apart just if no adapter raises for a row that it claims.
* `raising_due`: a row whose adapter has raised is due again when its claim expires, with the same
  count of attempts.
-/

namespace Plachem

namespace WarRoom

/-! ## The turn of a row -/

/-- What the adapter does with a row that is handed over. -/
inductive Answer where
  /-- `deliver` raises, or `bind_delivery` something that is no `ValueError`. -/
  | raised
  /-- `deliver` returns a receipt; `execution_snapshot` may raise after that. -/
  | returned (r : DeliveryReceipt) (snapshot_raised : Bool)
  deriving DecidableEq

/-- What the outside gives to the turn of a row, up to its claim and after that. -/
structure Turn where
  claim : Env
  deliver : Env
  answer : Answer

/-- The outcome of a call is recorded; `none` is an exception. -/
def end_turn (cfg : Config) (db : DB) (env : Env) (c : Call) (is_qa : Bool) (r : DeliveryReceipt)
    (snapshot_raised : Bool) : Option DB :=
  match record_receipt cfg db env c is_qa r with
  | .ok (some db') => if c.row.fast is_qa && snapshot_raised then none else some db'
  | .ok none => some db
  | .error _ => none

/-- A claimed row, from the choice of its lane on; `none` is an exception. -/
def hand_row (cfg : Config) (db : DB) (env : Env) (c : Call) (answer : Answer) : Option DB :=
  let is_qa := c.row.is_qa_delivery db
  match lane cfg env c.row is_qa, answer with
  | .refused none error_code, _ => end_turn cfg db env c is_qa (refusal error_code) false
  | .refused (some session) error_code, _ =>
    end_turn cfg (write_session db c.row.delivery.id session) env c is_qa (refusal error_code) false
  | .direct session, .returned r snapshot_raised =>
    end_turn cfg (write_session db c.row.delivery.id session) env c is_qa r snapshot_raised
  | .detached, .returned r snapshot_raised => end_turn cfg db env c is_qa r snapshot_raised
  | .direct _, .raised | .detached, .raised => none

/-- How the turn of a row ends. -/
inductive Turned where
  | ended (db : DB)
  /-- An exception: the tables are those that the claim has committed. -/
  | raised (db : DB)

def take_turn (cfg : Config) (now : Int) (db : DB) (row : DeliveryRow) (turn : Turn) : Turned :=
  let processed := process_row (fun _ => db) db { turn.claim with now := now } row
  match processed.2 with
  | none => .ended processed.1
  | some c =>
    match hand_row cfg processed.1 { turn.deliver with now := now } c turn.answer with
    | some db' => .ended db'
    | none => .raised processed.1

/-! ## A pass -/

/-- `ORDER BY d.created_at,d.id` -/
def comes_first (d q : Delivery) : Prop :=
  d.created_at < q.created_at ∨ d.created_at = q.created_at ∧ d.id ≤ q.id

instance : DecidableRel comes_first := fun _ _ => inferInstanceAs (Decidable (_ ∨ _))

/-- The rows that a pass selects. -/
def due_rows (db : DB) (now : Int) : List DeliveryRow :=
  ((db.deliveries.rows.filter fun d => d.due now).insertionSort comes_first).filterMap fun d =>
    delivery_row db d.id

/-- What a pass leaves: the tables, and the rows that have had their turn or raised in it. -/
structure Pass where
  db : DB
  attempted : List DeliveryRow
  raising : List DeliveryRow

/-- The loop over the rows; `turns` is what the outside gives to the turn of each delivery. -/
def take_turns (cfg : Config) (turns : String → Turn) (now : Int) (db : DB) :
    List DeliveryRow → Pass
  | [] => ⟨db, [], []⟩
  | row :: rows =>
    match take_turn cfg now db row (turns row.delivery.id) with
    | .ended db' =>
      let rest := take_turns cfg turns now db' rows
      { rest with attempted := row :: rest.attempted }
    | .raised db' => ⟨db', [row], [row]⟩

/-- `process_due_deliveries`, if nobody else writes to the tables. -/
def process_due_deliveries (cfg : Config) (turns : String → Turn) (db : DB) (now : Int) : Pass :=
  take_turns cfg turns now db (due_rows db now)

section Isolation

variable (cfg : Config) (turns : String → Turn) (now : Int)

/-- The delivery has failed, or is queued for a retry with its attempt counted. -/
def Accounted (before : Delivery) (db : DB) : Prop :=
  ∃ d, db.deliveries.find before.id = some d ∧
    (d.status = .failed ∨ d.status = .queued ∧ d.attempt_count = before.attempt_count + 1)

/-- One bad delivery does not block the others: every due row that does not raise has its turn, and
every row that raises is accounted for. -/
def Isolated (db : DB) : Prop :=
  (∀ row ∈ due_rows db now, row ∉ (process_due_deliveries cfg turns db now).raising →
    row ∈ (process_due_deliveries cfg turns db now).attempted) ∧
  ∀ row ∈ (process_due_deliveries cfg turns db now).raising,
    Accounted row.delivery (process_due_deliveries cfg turns db now).db

/-- The row is turned away before its claim, or it is handed over without an exception. -/
def Calm (db : DB) (row : DeliveryRow) : Prop :=
  let turn := turns row.delivery.id
  let processed := process_row (fun _ => db) db { turn.claim with now := now } row
  ∀ c ∈ processed.2, (hand_row cfg processed.1 { turn.deliver with now := now } c turn.answer).isSome

/-- No row raises in its turn, as the turns before it leave the tables. -/
def AllCalm (db : DB) : List DeliveryRow → Prop
  | [] => True
  | row :: rows => Calm cfg turns now db row ∧
    ∀ db', take_turn cfg now db row (turns row.delivery.id) = .ended db' → AllCalm db' rows

end Isolation

section Turns

variable {cfg : Config} {turns : String → Turn} {now : Int} {db db' : DB} {row : DeliveryRow}

theorem take_turn_raised {turn : Turn} (h : take_turn cfg now db row turn = .raised db') :
    ∃ c, (process_row (fun _ => db) db { turn.claim with now := now } row).2 = some c ∧
      (process_row (fun _ => db) db { turn.claim with now := now } row).1 = db' ∧
      hand_row cfg db' { turn.deliver with now := now } c turn.answer = none := by
  unfold take_turn at h
  dsimp only at h
  split at h
  · cases h
  · rename_i c hc
    split at h
    · cases h
    · rename_i hhand
      obtain rfl := Turned.raised.inj h
      exact ⟨c, hc, rfl, hhand⟩

theorem calm_iff : Calm cfg turns now db row ↔
    ∀ db', take_turn cfg now db row (turns row.delivery.id) ≠ .raised db' := by
  unfold Calm
  dsimp only
  constructor
  · intro hcalm db' hraised
    obtain ⟨c, hc, rfl, hhand⟩ := take_turn_raised hraised
    have hsome := hcalm c hc
    rw [hhand] at hsome
    cases hsome
  · intro hnot c hc
    cases hhand : hand_row cfg (process_row (fun _ => db) db
        { (turns row.delivery.id).claim with now := now } row).1
        { (turns row.delivery.id).deliver with now := now } c (turns row.delivery.id).answer with
    | some db' => rfl
    | none =>
      refine absurd ?_ (hnot (process_row (fun _ => db) db
        { (turns row.delivery.id).claim with now := now } row).1)
      unfold take_turn
      dsimp only
      rw [Option.mem_def.mp hc]
      dsimp only
      rw [hhand]

/-- A claim leaves the row `sent`, with its attempts as they were. -/
theorem process_row_claim {env : Env} {c : Call}
    (h : (process_row (fun _ => db) db env row).2 = some c) :
    ∃ d, db.deliveries.find row.delivery.id = some d ∧
      (process_row (fun _ => db) db env row).1.deliveries.find row.delivery.id =
        some (d.claimed (env.uuid 0) env.now) := by
  unfold process_row at h ⊢
  dsimp only at h ⊢
  split at h
  · cases h
  split at h
  · cases h
  split at h
  · cases h
  rename_i hadmitted hdeadline hbusy
  rw [if_neg hadmitted, if_neg hdeadline, if_neg hbusy]
  split at h
  · rename_i hclaimable
    obtain ⟨d, hd, hd'⟩ := (Option.any_eq_true _ _).mp hclaimable
    have hsame : ∀ q : Delivery, (q.claimed (env.uuid 0) env.now).id = q.id := fun _ => rfl
    refine ⟨d, hd, (@Table.find_update _ _ _ _ _ _ _ hsame row.delivery.id).trans ?_⟩
    rw [Option.mem_def.mp hd, Option.map_some, if_pos]
    rw [hd', Bool.and_true, (Table.find_some hd).2]
    exact beq_self_eq_true _
  · cases h

/-- The row that raises is the last that has a turn, and stays as its claim left it. -/
theorem raised_turn {rows : List DeliveryRow} (h : row ∈ (take_turns cfg turns now db rows).raising) :
    ∃ d token, (take_turns cfg turns now db rows).db.deliveries.find row.delivery.id =
      some (Delivery.claimed d token now) := by
  induction rows generalizing db with
  | nil => cases h
  | cons first rows ih =>
    unfold take_turns at h ⊢
    cases hturn : take_turn cfg now db first (turns first.delivery.id) with
    | ended db' =>
      rw [hturn] at h
      exact ih h
    | raised db' =>
      rw [hturn] at h
      obtain rfl := List.mem_singleton.mp h
      obtain ⟨c, hc, rfl, -⟩ := take_turn_raised hturn
      obtain ⟨d, -, hclaimed⟩ := process_row_claim hc
      exact ⟨d, _, hclaimed⟩

/-- The pass after the claim has expired selects the row again, if its agent has no run of it. -/
theorem raising_due (h : row ∈ (process_due_deliveries cfg turns db now).raising) :
    ∃ d, (process_due_deliveries cfg turns db now).db.deliveries.find row.delivery.id = some d ∧
      d.status = .sent ∧ ∀ later, d.run_id = none → now + 30 ≤ later →
        d.next_attempt_at.getD d.created_at ≤ later → d.due later = true := by
  obtain ⟨d, token, hclaimed⟩ := raised_turn h
  refine ⟨_, hclaimed, rfl, fun later hrun hexpired hnext => ?_⟩
  have hrun : d.run_id = none := hrun
  have hexpires : (d.claimed token now).claim_expired later = true := by
    unfold Delivery.claim_expired Delivery.claimed
    dsimp only
    rw [hrun]
    simpa using hexpired
  unfold Delivery.due Delivery.claimable
  rw [hexpires, Bool.or_true, Bool.true_and]
  exact decide_eq_true hnext

theorem take_turns_calm {rows : List DeliveryRow} :
    AllCalm cfg turns now db rows ↔ (take_turns cfg turns now db rows).raising = [] := by
  induction rows generalizing db with
  | nil => exact iff_of_true trivial rfl
  | cons row rows ih =>
    unfold AllCalm take_turns
    rw [calm_iff]
    cases hturn : take_turn cfg now db row (turns row.delivery.id) with
    | ended db' =>
      refine Iff.trans ⟨fun h => h.2 db' rfl, fun h => ⟨fun _ h => (by cases h), ?_⟩⟩ ih
      intro db'' heq
      obtain rfl := Turned.ended.inj heq
      exact h
    | raised db' => exact iff_of_false (fun h => h.1 db' rfl) (List.cons_ne_nil _ _)

theorem take_turns_attempted {rows : List DeliveryRow}
    (h : (take_turns cfg turns now db rows).raising = []) :
    (take_turns cfg turns now db rows).attempted = rows := by
  induction rows generalizing db with
  | nil => rfl
  | cons row rows ih =>
    unfold take_turns at h ⊢
    cases hturn : take_turn cfg now db row (turns row.delivery.id) with
    | ended db' =>
      rw [hturn] at h
      exact congrArg (row :: ·) (ih h)
    | raised db' =>
      rw [hturn] at h
      cases h

/-- A pass keeps the rows apart just if nothing raises in the turn of a row that it claims. -/
theorem isolated_iff (cfg : Config) (turns : String → Turn) (now : Int) (db : DB) :
    Isolated cfg turns now db ↔ AllCalm cfg turns now db (due_rows db now) := by
  rw [take_turns_calm]
  unfold Isolated process_due_deliveries
  constructor
  · rintro ⟨-, haccounted⟩
    refine List.eq_nil_iff_forall_not_mem.mpr fun row hrow => ?_
    obtain ⟨d, hd, hstatus⟩ := haccounted row hrow
    obtain ⟨q, token, hq⟩ := raised_turn hrow
    obtain rfl := Option.some.inj (hd.symm.trans hq)
    rcases hstatus with hstatus | ⟨hstatus, -⟩ <;> cases hstatus
  · intro hnone
    rw [take_turns_attempted hnone, hnone]
    exact ⟨fun row hrow _ => hrow, fun row hrow => absurd hrow List.not_mem_nil⟩

end Turns

/-! ## A pass with an adapter that raises -/

namespace Sample

/-- Two deliveries of two agents are due. -/
def two_due : DB :=
  { db with
    messages := ⟨[⟨"m", "p", "instruction", "rep", "check"⟩], by decide⟩
    deliveries := ⟨[queued_delivery "d1" "m" "dev" 1 none none 0,
      queued_delivery "d2" "m" "ERPqa" 1 none none 1], by decide⟩ }

/-- The adapter raises for the first. -/
def raising (delivery_id : String) : Turn where
  claim := outside 5 ["token"]
  deliver := outside 5 ["response"]
  answer := if delivery_id = "d1" then .raised else .returned (accepted "run") false

end Sample

/-- The second delivery has no turn, and the first one is `sent`. -/
theorem first_blocks_second : ¬ Isolated (Sample.config false) Sample.raising 5 Sample.two_due ∧
    (process_due_deliveries (Sample.config false) Sample.raising Sample.two_due 5).attempted.map
      (fun row => row.delivery.id) = ["d1"] := by
  have hraising : (process_due_deliveries (Sample.config false) Sample.raising Sample.two_due
      5).raising = (due_rows Sample.two_due 5).take 1 := by decide +kernel
  refine ⟨?_, by decide +kernel⟩
  rintro ⟨-, haccounted⟩
  have hfirst : (due_rows Sample.two_due 5).take 1 ≠ [] := by decide +kernel
  obtain ⟨row, hrow⟩ := List.exists_mem_of_ne_nil _ hfirst
  rw [← hraising] at hrow
  obtain ⟨d, hd, hstatus⟩ := haccounted row hrow
  obtain ⟨q, token, hq⟩ := raised_turn hrow
  obtain rfl := Option.some.inj (hd.symm.trans hq)
  rcases hstatus with hstatus | ⟨hstatus, -⟩ <;> cases hstatus

end WarRoom

end Plachem
