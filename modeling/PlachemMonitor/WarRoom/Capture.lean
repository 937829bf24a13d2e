import PlachemMonitor.WarRoom.Receipts
import PlachemMonitor.WarRoom.Requests
import PlachemMonitor.WarRoom.System

/-!
# What a receipt binds

A receipt is the text of the responses to a revision, under its digest. The text determines all of it
(`serialized_inj`), so the receipt holds as long as what it binds is as it was at the capture, and at no other
time (`receipt_binds`). The deliveries that have not responded are not bound (`queued_after`).
-/

namespace Plachem

namespace WarRoom

variable {cfg : Config} {host : Host} {db db' : DB} {files files' : Files} {evidence : List EvidenceRow}
  {fresh : String → String} {now : Int} {task task' : Task} {row : EvidenceRow}

/-! ## The text -/

theorem optional_inj {a b : Option String} (h : optional a = optional b) : a = b := by
  cases a <;> cases b <;> cases h <;> rfl

theorem Response.json_inj {r q : Response} (h : r.json = q.json) : r = q := by
  simp only [Response.json, Json.obj.injEq, List.cons.injEq, Prod.mk.injEq, Json.str.injEq, true_and,
    and_true] at h
  obtain ⟨hagent, hbody, hmessage, hrun⟩ := h
  cases r
  cases q
  rw [Response.mk.injEq]
  exact ⟨hagent, optional_inj hrun, hmessage, hbody⟩

theorem wf_optional (s : Option String) : (optional s).wf = true := by
  cases s <;> rfl

theorem ReceiptPayload.wf_json (p : ReceiptPayload) : p.json.wf = true := by
  have hresponse : ∀ r : Response, r.json.wf = true := by
    intro r
    simp [Response.json, Json.wf, Json.wfMembers, wf_optional]
  have hresponses : ∀ rs : List Response, Json.wfElems (rs.map Response.json) = true := by
    intro rs
    induction rs with
    | nil => rfl
    | cons r rs ih => rw [List.map_cons, Json.wfElems, hresponse r, ih, Bool.true_and]
  simp [ReceiptPayload.json, Json.wf, Json.wfMembers, wf_optional, hresponses]

theorem ReceiptPayload.json_inj {p q : ReceiptPayload} (h : p.json = q.json) : p = q := by
  simp only [ReceiptPayload.json, Json.obj.injEq, List.cons.injEq, Prod.mk.injEq, Json.str.injEq,
    Json.arr.injEq, Json.int.injEq, true_and, and_true, Nat.cast_inj] at h
  obtain ⟨hdocument, hcycle, hresponses, hscope, htask, hrevision⟩ := h
  have hrows : p.responses = q.responses :=
    List.map_injective_iff.mpr (fun _ _ => Response.json_inj) hresponses
  cases p
  cases q
  rw [ReceiptPayload.mk.injEq]
  exact ⟨htask, hrevision, hcycle, hscope, optional_inj hdocument, hrows⟩

/-- The text of a receipt determines it. -/
theorem serialized_inj {p q : ReceiptPayload} (h : p.serialized = q.serialized) : p = q := by
  refine ReceiptPayload.json_inj (Json.indented_inj p.wf_json q.wf_json ?_)
  exact String.ofList_injective (String.toByteArray_inj.mp h)

/-! ## The receipt -/

/-- What a receipt binds is as it was. -/
structure Bound (db db' : DB) (task task' : Task) : Prop where
  id_eq : task'.id = task.id
  revision : task'.revision = task.revision
  qa_cycle : task'.qa_cycle = task.qa_cycle
  scope : task'.scope = task.scope
  document_version : task'.document_version = task.document_version
  responses : responses db' task' = responses db task

/-- The file is as it was, and is no link. -/
structure FileKept (host : Host) (files files' : Files) (uri : String) : Prop where
  bytes : files'.read uri = files.read uri
  file : files'.is_symlink uri = false
  root : host.receipt_root.all (fun root => !files'.is_symlink root) = true

/-- Two payloads are the same exactly if what they bind is. -/
theorem payload_eq_iff (hscope : Function.Injective cfg.sha256) {p : ReceiptPayload}
    (hp : receipt_payload cfg db task = some p) :
    receipt_payload cfg db' task' = some p ↔ Bound db db' task task' := by
  unfold receipt_payload at hp ⊢
  dsimp only at hp ⊢
  split at hp
  · cases hp
  rename_i hrows
  cases hp
  constructor
  · intro h
    split at h
    · cases h
    simp only [Option.some.injEq, ReceiptPayload.mk.injEq] at h
    obtain ⟨hid, hrevision, hcycle, hs, hdocument, hresponses⟩ := h
    exact ⟨hid, hrevision, hcycle, hscope hs, hdocument, hresponses⟩
  · rintro ⟨hid, hrevision, hcycle, hs, hdocument, hresponses⟩
    rw [hresponses, if_neg hrows, hid, hrevision, hcycle, hs, hdocument]

/-- What a capture that stores a row has done. -/
theorem capture_eq_ok (h : capture_receipt cfg host db evidence files fresh now task = .ok ([row], files')) :
    ∃ p root, receipt_payload cfg db task = some p ∧ host.receipt_root = some root ∧
      files.is_symlink root = false ∧
      files.is_symlink (receipt_path root (host.sha256 p.serialized)) = false ∧
      row = receipt_row host root (fresh "execution_receipt") task p now ∧
      files' = files.write (receipt_path root (host.sha256 p.serialized)) p.serialized := by
  unfold capture_receipt at h
  split at h
  · cases h
  obtain ⟨p, hp, h⟩ := bind_eq_ok.mp h
  obtain ⟨root, hroot, h⟩ := bind_eq_ok.mp h
  obtain ⟨_, hlink, h⟩ := bind_eq_ok.mp h
  obtain ⟨_, hpath, h⟩ := bind_eq_ok.mp h
  cases h
  rw [ensure_eq_ok, Bool.not_eq_true] at hlink
  rw [ensure_eq_ok, Bool.not_eq_true] at hpath
  exact ⟨p, root, found_eq_ok.mp hp, found_eq_ok.mp hroot, hlink, hpath.1, rfl, rfl⟩

/-- The row of a payload holds of a state whose payload it is. -/
theorem verify_row_iff {p : ReceiptPayload} {root id : String} (hbytes : Function.Injective host.sha256)
    (hroot : host.receipt_root = some root) :
    verify_receipt cfg host db' files task' (receipt_row host root id task p now) = none ↔
      receipt_payload cfg db' task' = some p ∧ files.is_symlink root = false ∧
        files.is_symlink (receipt_path root (host.sha256 p.serialized)) = false ∧
        files.read (receipt_path root (host.sha256 p.serialized)) = some p.serialized := by
  unfold verify_receipt
  rw [hroot]
  cases hpayload : receipt_payload cfg db' task' with
  | none => simp
  | some q =>
    dsimp only [receipt_row]
    constructor
    · intro h
      simp only [ite_eq_left_iff, reduceCtorEq, imp_false, not_not] at h
      obtain ⟨-, hdigest, -, -, -, -, hpath, hlink, hread⟩ := h
      have heq : p = q := serialized_inj (hbytes (Option.some.inj hdigest))
      subst heq
      exact ⟨rfl, (Bool.not_eq_true _).mp hlink, (Bool.not_eq_true _).mp hpath, hread⟩
    · rintro ⟨heq, hlink, hpath, hread⟩
      cases heq
      refine if_pos ⟨rfl, rfl, rfl, rfl, rfl, rfl, ?_, ?_, hread⟩
      · rw [hpath]
        exact Bool.false_ne_true
      · rw [hlink]
        exact Bool.false_ne_true

/-- There is one error. -/
theorem verify_error (h : verify_receipt cfg host db files task row ≠ none) :
    verify_receipt cfg host db files task row = some "EVIDENCE_UNVERIFIED" := by
  unfold verify_receipt at h ⊢
  split
  · rename_i p root hp hr
    rw [hp, hr] at h
    dsimp only at h ⊢
    split
    · rename_i hall
      exact absurd (if_pos hall) h
    · rfl
  · rfl

/-- The executors of a revision have all responded, with their runs. -/
structure AllResponded (db : DB) (task : Task) : Prop where
  some_response : responses db task ≠ []
  runs : ∀ r ∈ responses db task, r.run_id.getD "" ≠ ""

/-- The store takes a receipt of the payload. -/
structure Takes (host : Host) (files : Files) (root : String) (p : ReceiptPayload) : Prop where
  store : files.is_symlink root = false
  file : files.is_symlink (receipt_path root (host.sha256 p.serialized)) = false
  unused : files.read (receipt_path root (host.sha256 p.serialized)) = none ∨
    files.read (receipt_path root (host.sha256 p.serialized)) = some p.serialized

/-- A first capture of responses with runs stores a row. -/
theorem capture_stores {root : String} (hresponded : AllResponded db task) (hroot : host.receipt_root = some root)
    (hfirst : ∀ e ∈ evidence, e.in_cycle task = true → e.contract_evidence_id ≠ some "execution_receipt")
    (htakes : ∀ p, receipt_payload cfg db task = some p → Takes host files root p) :
    ∃ row files', capture_receipt cfg host db evidence files fresh now task = .ok ([row], files') := by
  have hnone : ¬(evidence.any fun e =>
      e.in_cycle task && e.contract_evidence_id == some "execution_receipt") = true := by
    rw [List.any_eq_true]
    rintro ⟨e, he, hboth⟩
    rw [Bool.and_eq_true, beq_iff_eq] at hboth
    exact hfirst e he hboth.1 hboth.2
  obtain ⟨p, hp⟩ : ∃ p, receipt_payload cfg db task = some p := by
    refine ⟨_, if_neg ?_⟩
    rw [not_or, Bool.not_eq_true, List.any_eq_false]
    refine ⟨hresponded.some_response, fun r hr => ?_⟩
    rw [beq_iff_eq]
    exact hresponded.runs r hr
  obtain ⟨hlink, hfile, hunused⟩ := htakes p hp
  have hstore : ¬files.is_symlink root = true := by
    rw [hlink]
    exact Bool.false_ne_true
  have hpath : ¬files.is_symlink (receipt_path root (host.sha256 p.serialized)) = true ∧
      ((files.read (receipt_path root (host.sha256 p.serialized))).isNone = true ∨
        files.read (receipt_path root (host.sha256 p.serialized)) = some p.serialized) := by
    rw [hfile, Option.isNone_iff_eq_none]
    exact ⟨Bool.false_ne_true, hunused⟩
  refine ⟨receipt_row host root (fresh "execution_receipt") task p now,
    files.write (receipt_path root (host.sha256 p.serialized)) p.serialized, ?_⟩
  unfold capture_receipt
  rw [if_neg hnone, hp, hroot]
  refine bind_eq_ok.mpr ⟨p, rfl, bind_eq_ok.mpr ⟨root, rfl, bind_eq_ok.mpr ⟨(), ensure_eq_ok.mpr hstore, ?_⟩⟩⟩
  exact bind_eq_ok.mpr ⟨(), ensure_eq_ok.mpr hpath, rfl⟩

/-- A receipt holds of the states in which what it binds and its file are as they were at the capture, and of no
others; a second capture at the same revision and cycle adds nothing. -/
theorem receipt_binds (hscope : Function.Injective cfg.sha256) (hbytes : Function.Injective host.sha256)
    (h : capture_receipt cfg host db evidence files fresh now task = .ok ([row], files')) :
    (∀ db' later task', Bound db db' task task' ∧ FileKept host files' later row.uri →
      verify_receipt cfg host db' later task' row = none) ∧
    (∀ db' later task', ¬(Bound db db' task task' ∧ FileKept host files' later row.uri) →
      verify_receipt cfg host db' later task' row = some "EVIDENCE_UNVERIFIED") ∧
    (∀ db' evidence' later fresh' now' task', row ∈ evidence' → task'.id = task.id →
      task'.revision = task.revision → task'.qa_cycle = task.qa_cycle →
      capture_receipt cfg host db' evidence' later fresh' now' task' = .ok ([], later)) := by
  obtain ⟨p, root, hp, hroot, hlink, hfile, rfl, rfl⟩ := capture_eq_ok h
  have hread : (files.write (receipt_path root (host.sha256 p.serialized)) p.serialized).read
      (receipt_path root (host.sha256 p.serialized)) = some p.serialized := if_pos rfl
  have hiff : ∀ db' later task', verify_receipt cfg host db' later task'
      (receipt_row host root (fresh "execution_receipt") task p now) = none ↔
      Bound db db' task task' ∧ FileKept host (files.write (receipt_path root (host.sha256 p.serialized)) p.serialized)
        later (receipt_path root (host.sha256 p.serialized)) := by
    intro db' later task'
    rw [verify_row_iff hbytes hroot, payload_eq_iff hscope hp]
    refine and_congr_right fun _ => ?_
    constructor
    · rintro ⟨hl, hf, hb⟩
      refine ⟨hb.trans hread.symm, hf, ?_⟩
      rw [hroot, Option.all_some, hl]
      rfl
    · rintro ⟨hb, hf, hl⟩
      rw [hroot, Option.all_some, Bool.not_eq_true'] at hl
      exact ⟨hl, hf, hb.trans hread⟩
  refine ⟨fun db' later task' => (hiff db' later task').mpr, fun db' later task' hnot => ?_, ?_⟩
  · exact verify_error fun hnone => hnot ((hiff db' later task').mp hnone)
  · intro db' evidence' later fresh' now' task' hmem hid hrevision hcycle
    unfold capture_receipt
    refine if_pos (List.any_eq_true.mpr ⟨_, hmem, ?_⟩)
    simp [EvidenceRow.in_cycle, receipt_row, hid, hrevision, hcycle]

/-- The deliveries of the executors at the revision, in any status. -/
def worker_deliveries (db : DB) (task : Task) : List Delivery :=
  db.deliveries.rows.filter fun d => some d.message_id == task.source_message_id &&
    d.task_revision == task.revision && decide ((task.id, d.agent_id) ∈ db.task_agents.rows)

namespace Sample

/-- Each byte as a character. -/
def spelled (data : ByteArray) : String :=
  String.ofList ('h' :: data.data.toList.map fun b => Char.ofNat b.toNat)

theorem spelled_injective : Function.Injective spelled := by
  have hback : ∀ n < 256, (Char.ofNat n).toNat = n := by decide +kernel
  intro a b h
  have hbytes : a.data.toList = b.data.toList := by
    refine List.map_injective_iff.mpr ?_ (List.cons.inj (String.ofList_injective h)).2
    intro x y hxy
    have hval := congrArg Char.toNat hxy
    rw [hback _ x.toNat_lt, hback _ y.toNat_lt] at hval
    exact UInt8.toNat_inj.mp hval
  exact ByteArray.ext (Array.toList_inj.mp hbytes)

/-- The digests are the data, and the store is `/s`. -/
def speller : Host where
  sha256 := spelled
  sha256_ne data h := by
    have hlist := congrArg String.toList h
    rw [spelled, String.toList_ofList] at hlist
    cases hlist
  receipt_root := some "/s"
  cited _ := []

theorem hashtag_injective : Function.Injective (config false).sha256 := by
  intro a b h
  exact String.append_right_inj _ |>.mp h

/-- The store is empty. -/
def no_files : Files := ⟨fun _ => none, fun _ => false⟩

def answered_task : Task :=
  ⟨"t", "p", some "m", some "dev", some "qa", "sum", .qa, "v1", some "v1", none, none, .LEGACY, none, 1, 1, 0, 0,
    none, none⟩

/-- The delivery has responded. -/
def answered_delivery : Delivery :=
  ⟨"d", "m", "dev", 1, .responded, 1, 3, none, none, none, none, some "run", some "r", none, none, none, none, 0,
    none, none, none, none, none, 0⟩

/-- The delivery waits. -/
def waiting_delivery : Delivery :=
  ⟨"e", "m", "ERPqa", 1, .queued, 0, 3, none, none, none, none, none, none, none, none, none, none, 0, none, none,
    none, none, none, 0⟩

/-- One executor of two has responded, and the other has no delivery. -/
def one_answer : DB :=
  { Sample.db with
    messages := ⟨[⟨"m", "p", "task", "rep", "sum"⟩, ⟨"r", "p", "agent_response", "dev", "done"⟩], by decide⟩
    tasks := ⟨[answered_task], by decide⟩
    task_agents := ⟨[("t", "dev"), ("t", "ERPqa")], by decide⟩
    deliveries := ⟨[answered_delivery], by decide⟩ }

/-- The other has one. -/
def one_waits : DB := { one_answer with deliveries := ⟨[answered_delivery, waiting_delivery], by decide⟩ }

theorem responses_one_answer : responses one_answer answered_task = [⟨"dev", some "run", "r", "done"⟩] := by
  have hmem : ("t", "dev") ∈ one_answer.task_agents.rows := by decide
  have hagent : answered_delivery.agent_id ∈ one_answer.agents answered_task.id := mem_agents.mpr hmem
  have hrows : one_answer.deliveries.rows = [answered_delivery] := rfl
  have hcurrent : (some answered_delivery.message_id == answered_task.source_message_id &&
      answered_delivery.task_revision == answered_task.revision && answered_delivery.status == .responded) = true := by
    decide
  have hone : executor_deliveries one_answer answered_task = [answered_delivery] := by
    unfold executor_deliveries
    rw [hrows, List.filter_cons_of_pos (by rw [hcurrent, Bool.true_and, decide_eq_true hagent])]
    exact List.mergeSort_singleton _
  unfold responses
  rw [hone]
  rfl

/-- A delivery that has not responded is no response. -/
theorem responses_one_waits : responses one_waits answered_task = responses one_answer answered_task := by
  have hrows : one_waits.deliveries.rows = one_answer.deliveries.rows ++ [waiting_delivery] := rfl
  have hwaits : (some waiting_delivery.message_id == answered_task.source_message_id &&
      waiting_delivery.task_revision == answered_task.revision && waiting_delivery.status == .responded) = false := by
    decide
  have hsame : executor_deliveries one_waits answered_task = executor_deliveries one_answer answered_task := by
    unfold executor_deliveries
    rw [hrows, List.filter_append, List.filter_cons_of_neg (by rw [hwaits, Bool.false_and]; exact Bool.false_ne_true),
      List.filter_nil, List.append_nil]
    rfl
  unfold responses
  rw [hsame]
  rfl

theorem responded_one_answer : AllResponded one_answer answered_task := by
  constructor
  · rw [responses_one_answer]
    exact List.cons_ne_nil _ _
  · rw [responses_one_answer]
    decide

/-- The capture of the answer. -/
theorem captured : ∃ row files, capture_receipt (config false) speller one_answer [] no_files (fun id => "new " ++ id)
    5 answered_task = .ok ([row], files) := by
  refine capture_stores responded_one_answer rfl ?_ fun p _ => ⟨rfl, rfl, .inl rfl⟩
  intro e he
  cases he

end Sample

open Sample in
/-- A delivery that waits is new since the capture, and the receipt holds. -/
theorem queued_after : (∀ d ∈ worker_deliveries one_answer answered_task, d.status = .responded ∧
      d.run_id.getD "" ≠ "") ∧
    worker_deliveries one_waits answered_task ≠ worker_deliveries one_answer answered_task ∧
    ∃ row files, capture_receipt (config false) speller one_answer [] no_files (fun id => "new " ++ id) 5
        answered_task = .ok ([row], files) ∧
      verify_receipt (config false) speller one_waits files answered_task row = none := by
  refine ⟨by decide, by decide, ?_⟩
  obtain ⟨row, files, h⟩ := captured
  refine ⟨row, files, h, ?_⟩
  obtain ⟨p, root, hp, hroot, hlink, hfile, rfl, rfl⟩ := capture_eq_ok h
  refine (verify_row_iff spelled_injective hroot).mpr ⟨?_, hlink, hfile, if_pos rfl⟩
  refine (payload_eq_iff hashtag_injective hp).mpr ⟨rfl, rfl, rfl, rfl, rfl, responses_one_waits⟩

open Sample in
/-- The receipt of the answer holds of it. -/
theorem receipt_binds_sample : ∃ row files,
    verify_receipt (config false) speller one_answer files answered_task row = none ∧
      verify_receipt (config false) speller one_answer files { answered_task with revision := 2 } row =
        some "EVIDENCE_UNVERIFIED" := by
  obtain ⟨row, files, h⟩ := captured
  obtain ⟨hholds, hrefused, -⟩ := receipt_binds hashtag_injective spelled_injective h
  obtain ⟨p, root, hp, hroot, hlink, hfile, rfl, rfl⟩ := capture_eq_ok h
  refine ⟨_, _, hholds _ _ _ ⟨⟨rfl, rfl, rfl, rfl, rfl, rfl⟩, ⟨rfl, hfile, ?_⟩⟩, hrefused _ _ _ ?_⟩
  · rw [hroot, Option.all_some]
    exact (Bool.not_eq_true' _).mpr hlink
  · rintro ⟨hbound, -⟩
    exact absurd hbound.revision (by decide)

end WarRoom

end Plachem
