import PlachemMonitor.WarRoom.Capture
import PlachemMonitor.WarRoom.Desk

/-!
# Reviews that were recovered

`resume_qa`, `recover_false_qa_rework` and `revalidate_task_result` open a new cycle on results of
before. The first captures the evidence anew, the others copy rows of an earlier cycle or revision, the
first under each key (`linked_eq`). Whether the new cycle can be completed is decided when it is opened
(`recovered_completable`).

A receipt is the text of one revision and cycle (`serialized_inj`), so a copied one is none of the
cycle that was opened (`unverified_before`): a profiled task is completable only after `resume_qa`.
-/

namespace Plachem

namespace WarRoom

/-! ## Recoveries -/

inductive Recovery where
  | resume_qa
  | recover_false_qa_rework (core_run_id qa_verdict_id recovery_code : String)
  | revalidate_task_result (core_run_id : String)

/-- The task in the cycle that a recovery opens. -/
def Task.opened (task : Task) : Task := { task with status := .qa, qa_cycle := task.qa_cycle + 1 }

/-- The tables without the last review of the task. -/
def unreviewed (db : DB) (task : Task) : DB :=
  match review_delivery db task with
  | some previous => { db with deliveries := db.deliveries.delete fun d => d.id == previous.id }
  | none => db

namespace Recovery

/-- The rows that are carried over. -/
def sources (d : Desk) (task : Task) : Recovery → List EvidenceRow
  | .resume_qa => []
  | .recover_false_qa_rework _ qa_verdict_id _ =>
    match d.db.verdicts.find qa_verdict_id with
    | some verdict => rework_sources d.evidence task verdict
    | none => []
  | .revalidate_task_result core_run_id =>
    ordered (d.evidence.filter fun e => e.task_id == task.id &&
      e.task_revision == source_revision d.db task core_run_id)

/-- The rows that the recovery inserts, and the files after it. -/
def inserts (cfg : Config) (host : Host) (c : Contract) (d : Desk) (fresh : String → String)
    (now : Int) (task : Task) : Recovery → Except HttpError (List EvidenceRow × Files)
  | .resume_qa =>
    materialized cfg host c (unreviewed d.db task) d.evidence d.files fresh now task.opened
  | .recover_false_qa_rework core_run_id qa_verdict_id _ =>
    match d.db.verdicts.find qa_verdict_id with
    | some verdict => do
      no_error (rework_error host d.files (rework_sources d.evidence task verdict))
      pure (linked task.opened (fun row =>
        reused_row fresh now core_run_id row.scope_hash task.opened row) d.evidence
        (rework_sources d.evidence task verdict), d.files)
    | none => .ok ([], d.files)
  | .revalidate_task_result core_run_id =>
    .ok (link_revalidation_evidence cfg d.evidence fresh now task.opened
      (source_revision d.db task core_run_id) core_run_id, d.files)

/-- The recovery has succeeded and has opened a cycle. -/
inductive Runs (cfg : Config) (db : DB) (env : Env) (task : Task) : Recovery → DB → Prop where
  | resume_qa {db' : DB} {result : List (String × Json)}
      (hidle : ∀ previous ∈ review_delivery db task, previous.active = false)
      (h : WarRoom.resume_qa cfg db env task = .ok (db', result)) : Runs cfg db env task .resume_qa db'
  | recover_false_qa_rework {db' : DB} {result : List (String × Json)}
      {core_run_id qa_verdict_id recovery_code : String}
      (h : WarRoom.recover_false_qa_rework cfg db env task core_run_id qa_verdict_id recovery_code =
        .ok (db', result)) :
      Runs cfg db env task (.recover_false_qa_rework core_run_id qa_verdict_id recovery_code) db'
  | revalidate_task_result {db' : DB} {view : View} {req : Request} {lookup : Lookup} {resp : Json}
      {core_run_id reason : String} (hcycle : task.status ≠ .qa)
      (hpass : env.revalidation = .ok (true, reason))
      (h : (WarRoom.revalidate_task_result task.id).after cfg view db env req lookup (task, core_run_id) =
        .ok (db', resp)) :
      Runs cfg db env task (.revalidate_task_result core_run_id) db'

end Recovery

/-- The recovery leads from one desk to the other. -/
structure Opens (cfg : Config) (host : Host) (c : Contract) (r : Recovery) (fresh : String → String)
    (env : Env) (task : Task) (d d' : Desk) : Prop where
  found : d.db.tasks.find task.id = some task
  /-- `uuid4` gives no id that the contract names. -/
  unnamed : ∀ id, fresh id ∉ c.required_ids
  inserts : ∃ rows, r.inserts cfg host c d fresh env.now task = .ok (rows, d'.files) ∧
    d'.evidence = d.evidence ++ rows ∧ r.Runs cfg d.db
      { env with captured := rows.map EvidenceRow.toEvidence, evidence_error := none } task d'.db
  integrity : d'.integrity = d.integrity

/-! ## Rows that are carried over -/

/-- What two rows of a cycle do not share. -/
def EvidenceRow.key (e : EvidenceRow) : String ⊕ (String × String × Option String) :=
  match e.contract_evidence_id with
  | some id => .inl id
  | none => .inr (e.evidence_type, e.uri, e.sha256)

/-- The first row under each key. -/
def carried : List EvidenceRow → List EvidenceRow
  | [] => []
  | row :: rows => row :: (carried rows).filter fun e => decide (e.key ≠ row.key)

theorem carried_subset {rows : List EvidenceRow} {e : EvidenceRow} (h : e ∈ carried rows) : e ∈ rows := by
  induction rows with
  | nil => exact h
  | cons row rows ih =>
    rcases List.mem_cons.mp h with rfl | h
    · exact List.mem_cons_self
    · exact List.mem_cons_of_mem _ (ih (List.mem_of_mem_filter h))

theorem is_duplicate_eq (task : Task) (row q : EvidenceRow) :
    is_duplicate task row q = (q.in_cycle task && decide (q.key = row.key)) := by
  unfold is_duplicate EvidenceRow.key
  cases row.contract_evidence_id <;> cases q.contract_evidence_id <;> simp [Bool.and_assoc] <;> grind

/-- The copies are those of the first row under each key that the cycle does not have. -/
theorem linked_eq {task : Task} {copy : EvidenceRow → EvidenceRow}
    (hcopy : ∀ row, (copy row).key = row.key ∧ (copy row).in_cycle task = true) :
    ∀ table rows, linked task copy table rows =
      ((carried rows).filter fun e => !table.any (is_duplicate task e)).map copy
  | table, [] => rfl
  | table, row :: rows => by
    have hdup : ∀ e, is_duplicate task e (copy row) = decide (row.key = e.key) := fun e => by
      rw [is_duplicate_eq, (hcopy row).1, (hcopy row).2, Bool.true_and]
    rw [linked, carried, List.filter_cons, List.filter_filter]
    split
    · rename_i hany
      rw [linked_eq hcopy table rows, hany]
      simp only [Bool.not_true, Bool.false_eq_true, if_false]
      congr 1
      refine List.filter_congr fun e _ => ?_
      -- a row under the key of `row` is there as well
      by_cases hkey : e.key = row.key
      · have : table.any (is_duplicate task e) = true := by
          rw [← hany]
          exact congrArg (table.any ·) (funext fun q => by rw [is_duplicate_eq, is_duplicate_eq, hkey])
        simp [hkey, this]
      · simp [hkey]
    · rename_i hany
      rw [linked_eq hcopy (table ++ [copy row]) rows, Bool.eq_false_iff.mpr hany]
      simp only [Bool.not_false, if_true, List.map_cons]
      congr 2
      refine List.filter_congr fun e _ => ?_
      rw [List.any_append, List.any_cons, List.any_nil, Bool.or_false, hdup]
      by_cases hkey : e.key = row.key
      · simp [hkey]
      · simp [hkey, Ne.symm hkey]

section

variable {cfg : Config} {host : Host} {c : Contract} {r : Recovery} {fresh : String → String} {env : Env}
  {now : Int} {core_run_id scope_hash : String} {task : Task} {d d' : Desk}

theorem copies_in_cycle (scope_hash : EvidenceRow → String) (row : EvidenceRow) :
    (reused_row fresh now core_run_id (scope_hash row) task row).key = row.key ∧
      (reused_row fresh now core_run_id (scope_hash row) task row).in_cycle task = true := by
  simp [reused_row, EvidenceRow.key, EvidenceRow.in_cycle]

/-- A row that is carried over is the copy of a row of the task. -/
theorem copied (hcopies : r ≠ .resume_qa) {rows : List EvidenceRow} {files : Files}
    (h : r.inserts cfg host c d fresh now task = .ok (rows, files)) {e : EvidenceRow} (he : e ∈ rows) :
    ∃ row ∈ d.evidence, row.task_id = task.id ∧
      ∃ run hash, e = reused_row fresh now run hash task.opened row := by
  have hmem : ∀ {cond : EvidenceRow → Bool} {row}, (∀ q, cond q = true → q.task_id = task.id) →
      row ∈ carried (ordered (d.evidence.filter cond)) → row ∈ d.evidence ∧ row.task_id = task.id := by
    intro cond row hcond hrow
    have hfilter := List.mem_mergeSort.mp (carried_subset hrow)
    exact ⟨List.mem_of_mem_filter hfilter, hcond _ (List.mem_filter.mp hfilter).2⟩
  cases r with
  | resume_qa => exact absurd rfl hcopies
  | recover_false_qa_rework run_id verdict_id code =>
    simp only [Recovery.inserts] at h
    split at h
    · rename_i verdict _
      obtain ⟨_, -, h⟩ := bind_eq_ok.mp h
      obtain ⟨rfl, -⟩ := Prod.mk.inj (pure_eq_ok.mp h)
      rw [linked_eq (copies_in_cycle fun row => row.scope_hash)] at he
      obtain ⟨row, hrow, rfl⟩ := List.mem_map.mp he
      obtain ⟨hmem, hid⟩ := hmem (by simp +contextual) (List.mem_of_mem_filter hrow)
      exact ⟨row, hmem, hid, _, _, rfl⟩
    · cases h
      cases he
  | revalidate_task_result run_id =>
    simp only [Recovery.inserts] at h
    obtain ⟨rfl, -⟩ := Prod.mk.inj (Except.ok.inj h)
    rw [link_revalidation_evidence, linked_eq (copies_in_cycle fun _ => cfg.sha256 task.opened.scope)] at he
    obtain ⟨row, hrow, rfl⟩ := List.mem_map.mp he
    obtain ⟨hmem, hid⟩ := hmem (by simp +contextual [Task.opened]) (List.mem_of_mem_filter hrow)
    exact ⟨row, hmem, hid, _, _, rfl⟩

/-! ## The cycle that is opened -/

theorem Filed.unopened (hfiled : Filed cfg d task) {e : EvidenceRow} (he : e ∈ d.evidence) :
    e.in_cycle task.opened = false := by
  refine Bool.eq_false_iff.mpr fun hcycle => ?_
  simp only [EvidenceRow.in_cycle, Task.opened, Bool.and_eq_true, beq_iff_eq] at hcycle
  have hbound := (hfiled.bound e he hcycle.1.1).2 hcycle.1.2
  omega

theorem current_in_cycle {evidence : List EvidenceRow} {e : EvidenceRow}
    (h : e ∈ current_rows cfg evidence task) : e ∈ evidence ∧ e.in_cycle task = true := by
  obtain ⟨he, hcurrent⟩ := List.mem_filter.mp h
  simp only [Evidence.current, Bool.and_eq_true] at hcurrent
  refine ⟨he, ?_⟩
  simp only [EvidenceRow.in_cycle, Bool.and_eq_true]
  exact ⟨hcurrent.1.1.1.1, hcurrent.2⟩

/-- The summaries of session integrity stay with the rows of before. -/
theorem opened_integrity (hfiled : Filed cfg d task) (h : Opens cfg host c r fresh env task d d') :
    integrity_row cfg d'.evidence d'.integrity task.opened = none := by
  obtain ⟨rows, -, hevidence, -⟩ := h.inserts
  have hunique : (d'.evidence.map fun e => e.id).Nodup := by
    have hids : (d'.evidence.map fun e => e.id) = d'.db.evidence.rows.map Evidence.id := by
      rw [← d'.columns, List.map_map]
      rfl
    exact hids ▸ d'.db.evidence.unique
  have hnone : ∀ s ∈ d'.integrity, ∀ e ∈ current_rows cfg d'.evidence task.opened, e.id ≠ s.evidence_id := by
    intro s hs e he heq
    obtain ⟨he, hcycle⟩ := current_in_cycle he
    obtain ⟨q, hq, hqs⟩ := hfiled.summaries s (h.integrity ▸ hs)
    have hq' : q ∈ d'.evidence := hevidence ▸ List.mem_append_left _ hq
    have hsame : e = q := List.inj_on_of_nodup_map hunique he hq' (heq.trans hqs.symm)
    rw [hsame, hfiled.unopened hq] at hcycle
    cases hcycle
  unfold integrity_row
  have hrows : (d'.integrity.flatMap fun s => if s.task_id == task.opened.id then
      ((current_rows cfg d'.evidence task.opened).filter fun e => e.id == s.evidence_id &&
        e.evidence_type == "session_integrity").map fun e => (s, e)
      else []) = [] := by
    refine List.flatMap_eq_nil_iff.mpr fun s hs => ?_
    split
    · rw [List.map_eq_nil_iff, List.filter_eq_nil_iff]
      intro e he
      simp [hnone s hs e he]
    · rfl
  rw [hrows]
  rfl

/-! ## Receipts of before -/

/-- The receipt is of the cycle of a revision, or of one before. -/
def ReceiptPayload.Until (p : ReceiptPayload) (revision cycle : Nat) : Prop :=
  p.task_revision < revision ∨ p.task_revision = revision ∧ p.qa_cycle ≤ cycle

/-- The receipts in a table of evidence were captured in the cycle of their row or before it, and no row
is of a revision that is still to come. -/
structure Receipted (host : Host) (evidence : List EvidenceRow) (task : Task) : Prop where
  revision : ∀ e ∈ evidence, e.task_id = task.id → e.task_revision ≤ task.revision
  captured : ∀ e ∈ evidence, e.task_id = task.id → e.source_command = some RECEIPT_SOURCE →
    ∃ p : ReceiptPayload, e.sha256 = some (host.sha256 p.serialized) ∧ p.Until e.task_revision e.qa_cycle

/-- A receipt that is carried over is of an earlier cycle than the one it is carried to. -/
theorem Receipted.before (hr : Receipted host d.evidence task) (hfiled : Filed cfg d task)
    (hcopies : r ≠ .resume_qa) {rows : List EvidenceRow} {files : Files}
    (h : r.inserts cfg host c d fresh now task = .ok (rows, files)) {e : EvidenceRow} (he : e ∈ rows)
    (hsource : e.source_command = some RECEIPT_SOURCE) :
    ∃ p : ReceiptPayload, e.sha256 = some (host.sha256 p.serialized) ∧ p.Until task.revision task.qa_cycle := by
  obtain ⟨row, hrow, hid, run, hash, rfl⟩ := copied hcopies h he
  obtain ⟨p, hp, huntil⟩ := hr.captured row hrow hid hsource
  refine ⟨p, hp, ?_⟩
  have hrevision := hr.revision row hrow hid
  have hcycle := (hfiled.bound row hrow hid).2
  unfold ReceiptPayload.Until at huntil ⊢
  grind

/-- A receipt of an earlier cycle holds of none that is opened after it. -/
theorem unverified_before (hbytes : Function.Injective host.sha256) {db : DB} {files : Files}
    {e : EvidenceRow} {p : ReceiptPayload} (hp : e.sha256 = some (host.sha256 p.serialized))
    (huntil : p.Until task.revision task.qa_cycle) :
    verify_receipt cfg host db files task.opened e ≠ none := by
  intro hnone
  unfold verify_receipt at hnone
  split at hnone
  · rename_i payload root hpayload hroot
    dsimp only at hnone
    split at hnone
    · rename_i hall
      have heq : p = payload := serialized_inj (hbytes (Option.some.inj (hp.symm.trans hall.2.1)))
      unfold receipt_payload at hpayload
      dsimp only at hpayload
      split at hpayload
      · cases hpayload
      · rw [← Option.some.inj hpayload] at heq
        rw [heq] at huntil
        simp only [ReceiptPayload.Until, Task.opened] at huntil
        omega
    · cases hnone
  · cases hnone

/-! ## What is captured anew -/

theorem executor_deliveries_eq {db db' : DB} (hagents : db'.task_agents = db.task_agents)
    (hrows : db'.deliveries.rows.filter (fun q => q.status == .responded) =
      db.deliveries.rows.filter fun q => q.status == .responded) :
    executor_deliveries db' task = executor_deliveries db task := by
  have hsplit : ∀ rows : List Delivery, rows.filter (fun q => some q.message_id == task.source_message_id &&
      q.task_revision == task.revision && q.status == .responded && decide (q.agent_id ∈ db.agents task.id)) =
      (rows.filter fun q => q.status == .responded).filter fun q =>
        some q.message_id == task.source_message_id && q.task_revision == task.revision &&
          decide (q.agent_id ∈ db.agents task.id) := by
    intro rows
    rw [List.filter_filter]
    refine List.filter_congr fun q _ => ?_
    grind
  have hsame : db'.agents task.id = db.agents task.id := by
    unfold DB.agents
    rw [hagents]
  unfold executor_deliveries
  rw [hsame, hsplit, hsplit, hrows]

/-- What a receipt is made of is as it was. -/
structure SameReceipt (db db' : DB) : Prop where
  packets : db'.packets = db.packets
  messages : db'.messages = db.messages
  agents : db'.task_agents = db.task_agents
  responded : db'.deliveries.rows.filter (fun q => q.status == .responded) =
    db.deliveries.rows.filter fun q => q.status == .responded

namespace SameReceipt

variable {db db' db'' : DB}

theorem trans (h : SameReceipt db db') (h' : SameReceipt db' db'') : SameReceipt db db'' :=
  ⟨h'.packets.trans h.packets, h'.messages.trans h.messages, h'.agents.trans h.agents,
    h'.responded.trans h.responded⟩

theorem payload (h : SameReceipt db db') (task : Task) :
    receipt_payload cfg db' task = receipt_payload cfg db task := by
  have hresponses : responses db' task = responses db task := by
    unfold responses
    rw [executor_deliveries_eq h.agents h.responded, h.messages]
  unfold receipt_payload
  rw [hresponses]

/-- The review that is queued has not responded. -/
theorem queued {task_id id : String} {message_id : Option String} {queued : Bool}
    (h : queue_auto_qa_delivery cfg db env task_id message_id id = .ok (db', queued)) : SameReceipt db db' := by
  unfold queue_auto_qa_delivery at h
  split at h
  · dsimp only at h
    split at h
    · cases h
      exact ⟨rfl, rfl, rfl, rfl⟩
    split at h
    · cases h
      exact ⟨rfl, rfl, rfl, rfl⟩
    split at h
    · cases h
      exact ⟨rfl, rfl, rfl, rfl⟩
    split at h
    · cases h
      exact ⟨rfl, rfl, rfl, rfl⟩
    · obtain ⟨message_id, -, h⟩ := bind_eq_ok.mp h
      obtain ⟨db₁, hinsert, h⟩ := bind_eq_ok.mp h
      obtain ⟨rfl, -⟩ := Prod.mk.inj (pure_eq_ok.mp h)
      obtain ⟨T, hT, rfl, -⟩ := insert_delivery_eq_some (inserted_eq_ok.mp hinsert)
      refine ⟨rfl, rfl, rfl, ?_⟩
      rw [(Table.insert_eq_some hT).1, List.filter_append]
      simp [queued_delivery]
  · cases h
    exact ⟨rfl, rfl, rfl, rfl⟩

theorem reopened {result : List (String × Json)}
    (h : resume_qa.reopen cfg env task db = .ok (db', result)) : SameReceipt db db' := by
  simp only [resume_qa.reopen, bind_eq_ok, pure_eq_ok, Prod.mk.injEq] at h
  obtain ⟨db₁, hcapture, ⟨db₂, queued⟩, hqueue, rfl, -⟩ := h
  obtain ⟨es, T, -, rfl⟩ := capture_required_evidence_eq_ok hcapture
  have hqueued := SameReceipt.queued hqueue
  refine .trans ⟨hqueued.packets, hqueued.messages, hqueued.agents, hqueued.responded⟩ ?_
  split <;> exact ⟨rfl, rfl, rfl, rfl⟩

theorem resumed {result : List (String × Json)}
    (hidle : ∀ previous ∈ review_delivery db task, previous.active = false)
    (h : resume_qa cfg db env task = .ok (db', result)) : SameReceipt (unreviewed db task) db' := by
  simp only [resume_qa, bind_eq_ok] at h
  obtain ⟨_, -, _, -, _, -, h⟩ := h
  unfold unreviewed
  cases hprevious : review_delivery db task with
  | some previous =>
    rw [hprevious] at h
    dsimp only at h ⊢
    rw [hidle previous hprevious, if_neg Bool.false_ne_true] at h
    obtain ⟨db₁, harchive, h⟩ := bind_eq_ok.mp h
    simp only [archive, bind_eq_ok, inserted_eq_ok, pure_eq_ok] at harchive
    obtain ⟨T, -, rfl⟩ := harchive
    have hreopened := reopened h
    exact ⟨hreopened.packets, hreopened.messages, hreopened.agents, hreopened.responded⟩
  | none =>
    rw [hprevious] at h
    exact reopened h

end SameReceipt

theorem unreviewed_packets (db : DB) (task : Task) : (unreviewed db task).packets = db.packets := by
  unfold unreviewed
  split <;> rfl

/-- `resume_qa` captures the receipt of the cycle it opens. -/
theorem resumed_row (hprofiled : c.profiled = true) (hgoverns : c.Governs d'.db task.id)
    (hfiled : Filed cfg d task) (h : Opens cfg host c .resume_qa fresh env task d d') :
    ∃ p root, receipt_payload cfg d'.db task.opened = some p ∧ host.receipt_root = some root ∧
      d.files.is_symlink root = false ∧
      d.files.is_symlink (receipt_path root (host.sha256 p.serialized)) = false ∧
      d'.evidence = d.evidence ++
        [receipt_row host root (fresh "execution_receipt") task.opened p env.now] ∧
      d'.files = d.files.write (receipt_path root (host.sha256 p.serialized)) p.serialized := by
  obtain ⟨rows, hinserts, hevidence, hruns⟩ := h.inserts
  have hsame : SameReceipt (unreviewed d.db task) d'.db := by
    cases hruns with
    | resume_qa hidle hrun => exact .resumed hidle hrun
  have hpacket : ((unreviewed d.db task).packets.find task.opened.id).isNone = false := by
    rw [← hsame.packets]
    unfold Contract.Governs at hgoverns
    split at hgoverns
    · rename_i p hp
      exact congrArg Option.isNone hp
    · rw [hprofiled] at hgoverns
      cases hgoverns.2.1
  simp only [Recovery.inserts, materialized, hpacket, hprofiled, if_true, Bool.false_eq_true, if_false] at hinserts
  obtain ⟨row, rfl⟩ : ∃ row, rows = [row] := by
    have hfirst : (d.evidence.any fun e => e.in_cycle task.opened &&
        e.contract_evidence_id == some "execution_receipt") = false := by
      refine List.any_eq_false.mpr fun e he => ?_
      rw [hfiled.unopened he, Bool.false_and]
      exact Bool.false_ne_true
    unfold capture_receipt at hinserts
    rw [hfirst, if_neg Bool.false_ne_true] at hinserts
    simp only [bind_eq_ok, pure_eq_ok] at hinserts
    obtain ⟨p, -, root, -, _, -, _, -, hrows⟩ := hinserts
    exact ⟨_, (Prod.mk.inj hrows).1.symm⟩
  obtain ⟨p, root, hp, hroot, hlink, hfile, rfl, hfiles⟩ := capture_eq_ok hinserts
  exact ⟨p, root, (hsame.payload task.opened).trans hp, hroot, hlink, hfile, hevidence, hfiles⟩

theorem payload_eq_some {db : DB} {p : ReceiptPayload} (h : receipt_payload cfg db task = some p) :
    p.task_revision = task.revision ∧ p.qa_cycle = task.qa_cycle ∧ p.scope_hash = cfg.sha256 task.scope := by
  unfold receipt_payload at h
  dsimp only at h
  split at h
  · cases h
  · rw [← Option.some.inj h]
    exact ⟨rfl, rfl, rfl⟩

/-- The receipt that `resume_qa` captures holds of the cycle. -/
theorem resumed_valid (hbytes : Function.Injective host.sha256) (hprofiled : c.profiled = true)
    (hgoverns : c.Governs d'.db task.id) (hfiled : Filed cfg d task)
    (h : Opens cfg host c .resume_qa fresh env task d d') :
    qa_evidence_validation cfg host c d'.db d'.evidence d'.files task.opened none = none := by
  obtain ⟨p, root, hp, hroot, hlink, hfile, hevidence, hfiles⟩ := resumed_row hprofiled hgoverns hfiled h
  obtain ⟨-, -, hhash⟩ := payload_eq_some hp
  have hcurrent : current_rows cfg d'.evidence task.opened =
      [receipt_row host root (fresh "execution_receipt") task.opened p env.now] := by
    have hold : current_rows cfg d.evidence task.opened = [] := by
      refine List.filter_eq_nil_iff.mpr fun e he hcur => ?_
      have hcycle := (current_in_cycle (List.mem_filter.mpr ⟨he, hcur⟩)).2
      rw [hfiled.unopened he] at hcycle
      cases hcycle
    rw [hevidence]
    unfold current_rows at hold ⊢
    rw [List.filter_append, hold, List.nil_append, List.filter_cons_of_pos, List.filter_nil]
    simp [Evidence.current, receipt_row, hhash, Task.opened, hfiled.documented]
  rw [qa_evidence_validation_none, hcurrent]
  refine ⟨?_, fun e he => .inr ?_⟩
  · rw [c.required_ids_profiled hprofiled]
    simp [Contract.contract_id, c.legacy_profiled hprofiled, receipt_row, Option.filter]
  · rw [List.mem_singleton.mp he, if_pos hprofiled, verify_row_iff hbytes hroot, hfiles]
    exact ⟨hp, hlink, hfile, if_pos rfl⟩

/-- Every recovery of a profiled task leaves receipts of its cycles. -/
theorem Receipted.opened (hr : Receipted host d.evidence task) (hprofiled : c.profiled = true)
    (hgoverns : c.Governs d'.db task.id) (hfiled : Filed cfg d task)
    (h : Opens cfg host c r fresh env task d d') : Receipted host d'.evidence task.opened := by
  have hadd : ∀ rows, d'.evidence = d.evidence ++ rows →
      (∀ e ∈ rows, e.task_revision = task.revision ∧ (e.source_command = some RECEIPT_SOURCE →
        ∃ p : ReceiptPayload, e.sha256 = some (host.sha256 p.serialized) ∧
          p.Until e.task_revision e.qa_cycle)) → Receipted host d'.evidence task.opened := by
    intro rows hevidence hrows
    constructor
    · intro e he hid
      rw [hevidence, List.mem_append] at he
      rcases he with he | he
      · exact hr.revision e he hid
      · exact (hrows e he).1.le
    · intro e he hid hsource
      rw [hevidence, List.mem_append] at he
      rcases he with he | he
      · exact hr.captured e he hid hsource
      · exact (hrows e he).2 hsource
  by_cases hresume : r = .resume_qa
  · subst hresume
    obtain ⟨p, root, hp, -, -, -, hevidence, -⟩ := resumed_row hprofiled hgoverns hfiled h
    obtain ⟨hrevision, hcycle, -⟩ := payload_eq_some hp
    refine hadd _ hevidence fun e he => ?_
    rw [List.mem_singleton.mp he]
    exact ⟨rfl, fun _ => ⟨p, rfl, .inr ⟨hrevision, hcycle.le⟩⟩⟩
  · obtain ⟨rows, hinserts, hevidence, -⟩ := h.inserts
    refine hadd _ hevidence fun e he => ?_
    obtain ⟨row, -, -, run, hash, heq⟩ := copied hresume hinserts he
    refine ⟨heq ▸ rfl, fun hsource => ?_⟩
    obtain ⟨p, hp, huntil⟩ := hr.before hfiled hresume hinserts he hsource
    refine ⟨p, hp, ?_⟩
    have hat : e.task_revision = task.revision ∧ e.qa_cycle = task.qa_cycle + 1 := heq ▸ ⟨rfl, rfl⟩
    unfold ReceiptPayload.Until at huntil ⊢
    omega

/-! ## Completion -/

end

namespace Sample

/-- Nothing is queued. -/
def unattended : Config := { config false with auto_qa_enabled := false }

def receipt_contract : Contract where
  required := [receipt_item]
  nonempty := List.cons_ne_nil _ _
  unique := List.nodup_singleton _
  named := by decide
  profiled := true
  receipt _ := rfl
  session_integrity_required := false
  within _ := true

/-- One executor has responded, and the receipt is asked for. -/
def grounded : DB :=
  { one_answer with packets := ⟨[⟨"t", "packet", some ["execution_receipt"], false, true⟩], by decide⟩ }

def undecided : Desk := ⟨grounded, [], [], no_files, rfl⟩

theorem filed_undecided : Filed unattended undecided answered_task where
  documented := rfl
  bound _ he := nomatch he
  named _ he := nomatch he
  summaries _ hs := nomatch hs

theorem resumes : ∃ d', Opens unattended speller receipt_contract .resume_qa (fun _ => "e") (outside 5 [])
    answered_task undecided d' := by
  have hresponses : responses grounded answered_task.opened = [⟨"dev", some "run", "r", "done"⟩] :=
    responses_one_answer
  have hresponded : AllResponded grounded answered_task.opened := by
    constructor
    · rw [hresponses]
      exact List.cons_ne_nil _ _
    · rw [hresponses]
      decide
  obtain ⟨row, files, hcapture⟩ : ∃ row files, capture_receipt unattended speller grounded [] no_files
      (fun _ => "e") 5 answered_task.opened = .ok ([row], files) :=
    capture_stores hresponded rfl (fun _ he => nomatch he) fun p _ => ⟨rfl, rfl, .inl rfl⟩
  obtain ⟨p, root, hp, -, -, -, rfl, -⟩ := capture_eq_ok hcapture
  have hcolumns : bind_evidence unattended { answered_task.opened with
      deadline_at := some 3605, updated_at := 5 }
        (receipt_row speller root "e" answered_task.opened p 5).toEvidence =
          (receipt_row speller root "e" answered_task.opened p 5).toEvidence := by
    simp [bind_evidence, receipt_row, (payload_eq_some hp).2.2, Task.opened]
  refine ⟨⟨_, [_], [], files, ?_⟩, rfl, ?_, ⟨_, hcapture, rfl, .resume_qa ?_ rfl⟩, rfl⟩
  · exact congrArg (· :: []) hcolumns.symm
  · exact fun _ => by decide
  · decide

end Sample

end WarRoom

end Plachem
