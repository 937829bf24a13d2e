import PlachemMonitor.WarRoom.Receipts
import PlachemMonitor.WarRoom.Requests

/-!
# The desk of a review

A cycle of a review is completable if a `PASS` passes its validation and nothing is missing after it,
in every later state with the same results of workers, evidence and files (`Completable`). This is
decided by the rows of the cycle alone: they have to be those of the contract, each once
(`qa_evidence_validation_none`), and a contract that asks for a summary of session integrity needs a
row of the cycle behind one (`completable_iff`).
-/

namespace Plachem

namespace WarRoom

/-- The database with what `Receipts` reads besides it. -/
structure Desk where
  db : DB
  evidence : List EvidenceRow
  integrity : List SessionIntegrity
  files : Files
  /-- The rows are those of the table. -/
  columns : evidence.map EvidenceRow.toEvidence = db.evidence.rows

/-- What every insert into `war_evidence` and `war_session_integrity` keeps for a task in QA or
after it. -/
structure Filed (cfg : Config) (d : Desk) (task : Task) : Prop where
  /-- `war_approvals.document_version` is not `NULL`. -/
  documented : task.document_version.isSome
  bound : ∀ e ∈ d.evidence, e.task_id = task.id → e.scope_hash = cfg.sha256 task.scope ∧
    (e.task_revision = task.revision → e.qa_cycle ≤ task.qa_cycle)
  named : ∀ e ∈ d.evidence, e.contract_evidence_id ≠ some ""
  /-- A foreign key. -/
  summaries : ∀ s ∈ d.integrity, ∃ e ∈ d.evidence, e.id = s.evidence_id

/-- The newest signed `PASS` of the reviewer on the task as it stands. -/
def qa_pass (cfg : Config) (db : DB) (task : Task) : Option QaVerdict :=
  match required_ids db task.id, cfg.qa_signature with
  | .ok required, some sign =>
    ((db.verdicts.rows.filter fun v => task.document_version.isSome &&
      is_signed_pass sign (pass_payload cfg task (evidence_profile required)) v).mergeSort fun v w =>
        decide (w.created_at < v.created_at) ||
          v.created_at == w.created_at && decide (w.id ≤ v.id)).head?
  | _, _ => none

/-- What the checks ask the outside for, answered from the desk. -/
def Desk.answers (cfg : Config) (host : Host) (c : Contract) (d : Desk) (task : Task) (env : Env) :
    Env :=
  { env with
    evidence_error := qa_evidence_validation cfg host c d.db d.evidence d.files task none
    integrity := (qa_pass cfg d.db task).any fun v =>
      (integrity_row cfg d.evidence d.integrity task).any (integrity_ok v.created_at) }

/-- The results of the workers, the evidence of the cycle and its files are as they were, and the
task is still in the cycle. -/
structure Preserved (host : Host) (d later : Desk) (task row : Task) : Prop where
  found : later.db.tasks.find task.id = some row
  source_message_id : row.source_message_id = task.source_message_id
  reviewer_agent_id : row.reviewer_agent_id = task.reviewer_agent_id
  scope : row.scope = task.scope
  document_version : row.document_version = task.document_version
  revision : row.revision = task.revision
  qa_cycle : row.qa_cycle = task.qa_cycle
  packet : later.db.packets.find task.id = d.db.packets.find task.id
  responses : responses later.db row = responses d.db task
  evidence : later.evidence.filter (·.in_cycle task) = d.evidence.filter (·.in_cycle task)
  integrity : later.integrity = d.integrity
  files : ∀ e ∈ d.evidence, e.in_cycle task → later.files.read e.uri = d.files.read e.uri ∧
    later.files.is_symlink e.uri = d.files.is_symlink e.uri
  root : ∀ root ∈ host.receipt_root, later.files.is_symlink root = d.files.is_symlink root

/-- A verdict submits no ids, or those of the contract. -/
def Contract.Submits (c : Contract) (submitted : Option (List String)) : Prop :=
  ∀ ids ∈ submitted, ids.Perm c.required_ids

/-- The cycle of the task can be completed: a `PASS` passes its validation, and once it is recorded
and no issue is open the checks miss nothing. -/
def Completable (cfg : Config) (host : Host) (c : Contract) (d : Desk) (task : Task) : Prop :=
  ∀ later row, Preserved host d later task row →
    (∀ submitted, c.Submits submitted →
      qa_evidence_validation cfg host c later.db later.evidence later.files row submitted = none) ∧
    ((qa_pass cfg later.db row).isSome → issues later.db row.id row.revision = [] → ∀ env,
      representative_completion_checks cfg later.db (later.answers cfg host c row env) row = [])

/-! ## Validation -/

/-- The row is what the contract asks for under its id. -/
def Contract.Covers (cfg : Config) (host : Host) (c : Contract) (db : DB) (files : Files)
    (task : Task) (e : EvidenceRow) : Prop :=
  c.legacy = true ∨
    if c.profiled then verify_receipt cfg host db files task e = none
    else ∀ item ∈ c.required, item.id = c.contract_id e →
      item.describes e = true ∧ unverified host c files item e = none

section

variable {cfg : Config} {host : Host} {c : Contract} {db : DB} {evidence : List EvidenceRow}
  {files : Files} {task : Task}

/-- A profiled contract names the receipt. -/
theorem Contract.required_ids_profiled (h : c.profiled = true) :
    c.required_ids = ["execution_receipt"] := by
  simp [required_ids, c.receipt h, receipt_item]

theorem Contract.legacy_profiled (h : c.profiled = true) : c.legacy = false := by
  simp [legacy, c.receipt h, receipt_item]

/-- The entry that a row is compared with. -/
theorem Contract.find_item {e : EvidenceRow} {item : Required} :
    (c.required.find? fun i => i.id == c.contract_id e) = some item ↔
      item ∈ c.required ∧ item.id = c.contract_id e := by
  constructor
  · intro h
    exact ⟨List.mem_of_find?_eq_some h, by simpa using List.find?_some h⟩
  · rintro ⟨hmem, hid⟩
    cases hfind : c.required.find? fun i => i.id == c.contract_id e with
    | none => exact absurd hid (by simpa using List.find?_eq_none.mp hfind item hmem)
    | some other =>
      have hother : other.id = c.contract_id e := by simpa using List.find?_some hfind
      exact congrArg some (List.inj_on_of_nodup_map c.unique (List.mem_of_find?_eq_some hfind) hmem
        (hother.trans hid.symm))

/-- The ids that pass the first check are those of the contract, each once. -/
theorem Contract.names_iff (ids : List String) :
    ids.Nodup ∧ ids ⊆ c.required_ids ∧ c.required_ids ⊆ ids ↔ ids.Perm c.required_ids := by
  constructor
  · rintro ⟨hnodup, hle, hge⟩
    exact (List.perm_ext_iff_of_nodup hnodup c.unique).mpr fun _ => ⟨@hle _, @hge _⟩
  · intro h
    exact ⟨h.nodup_iff.mpr c.unique, h.subset, h.symm.subset⟩

/-- A `PASS` without ids passes if the rows are those of the contract, each as it asks for. -/
theorem qa_evidence_validation_none :
    qa_evidence_validation cfg host c db evidence files task none = none ↔
      ((current_rows cfg evidence task).map c.contract_id).Perm c.required_ids ∧
        ∀ e ∈ current_rows cfg evidence task, c.Covers cfg host db files task e := by
  simp only [qa_evidence_validation, Option.getD_none]
  generalize current_rows cfg evidence task = rows
  by_cases hperm : (rows.map c.contract_id).Perm c.required_ids
  · obtain ⟨hnodup, hle, hge⟩ := (c.names_iff _).mpr hperm
    have hselected : (rows.filter fun e => decide (c.contract_id e ∈ c.required_ids)) = rows := by
      refine List.filter_eq_self.mpr fun e he => decide_eq_true ?_
      exact hle (List.mem_map_of_mem he)
    have hlength : rows.length = c.required_ids.length := by simpa using hperm.length_eq
    rw [if_neg (by simp [hnodup, hle, hge]), hselected, if_neg (by simp [hlength])]
    simp only [hperm, true_and]
    cases hlegacy : c.legacy with
    | true => simp [Contract.Covers, hlegacy]
    | false =>
      cases hprofiled : c.profiled with
      | true =>
        rw [c.required_ids_profiled hprofiled, List.length_singleton] at hlength
        obtain ⟨row, rfl⟩ := List.length_eq_one_iff.mp hlength
        simp [Contract.Covers, hlegacy, hprofiled, c.required_ids_profiled hprofiled]
      | false =>
        simp only [Bool.false_eq_true, if_false, Contract.Covers, hlegacy, hprofiled, false_or]
        constructor
        · intro h e he item hitem hid
          have hfind := Contract.find_item.mpr ⟨hitem, hid⟩
          split at h
          · cases h
          · rename_i hany
            refine ⟨?_, ?_⟩
            · by_contra hdescribes
              exact hany (List.any_eq_true.mpr ⟨e, he, by simp [hfind, hdescribes]⟩)
            · simpa [hfind] using List.findSome?_eq_none_iff.mp h e he
        · intro h
          rw [if_neg, List.findSome?_eq_none_iff]
          · intro e he
            rw [Option.bind_eq_none_iff]
            intro item hfind
            obtain ⟨hitem, hid⟩ := Contract.find_item.mp hfind
            exact (h e he item hitem hid).2
          · intro hany
            obtain ⟨e, he, hbad⟩ := List.any_eq_true.mp hany
            obtain ⟨item, hfind, hdescribes⟩ := Option.any_eq_true _ _ |>.mp hbad
            obtain ⟨hitem, hid⟩ := Contract.find_item.mp hfind
            simp [(h e he item hitem hid).1] at hdescribes
  · rw [if_pos]
    · simp [hperm]
    · rw [← not_and_or]
      exact fun h => hperm ((c.names_iff _).mp ⟨h.1, h.2⟩)

/-- The ids of the contract pass where no ids do. -/
theorem qa_evidence_validation_submitted {submitted : Option (List String)}
    (hsubmits : c.Submits submitted)
    (h : qa_evidence_validation cfg host c db evidence files task none = none) :
    qa_evidence_validation cfg host c db evidence files task submitted = none := by
  cases submitted with
  | none => exact h
  | some ids =>
    have hids := (c.names_iff _).mpr (hsubmits ids rfl)
    have hrows := (c.names_iff _).mpr (qa_evidence_validation_none.mp h).1
    simp only [qa_evidence_validation, Option.getD_none, Option.getD_some] at h ⊢
    rw [if_neg (by simp only [hrows]; decide)] at h
    rw [if_neg (by simp only [hids]; decide)]
    exact h

end

/-! ## Completion -/

section

variable {cfg : Config} {host : Host} {c : Contract} {d later : Desk} {task row : Task}

/-- A recorded `PASS` is the one that the checks look for. -/
theorem signed_of_qa_pass {db : DB} (h : (qa_pass cfg db task).isSome) :
    signed_qa_pass_error cfg db task = none := by
  unfold qa_pass at h
  unfold signed_qa_pass_error
  split at h
  · rename_i required sign hrequired hsign
    rw [List.isSome_head?] at h
    obtain ⟨v, hv⟩ := List.exists_mem_of_ne_nil _ h
    simp only [List.mem_mergeSort, List.mem_filter, Bool.and_eq_true] at hv
    obtain ⟨hmem, hdocument, hpass⟩ := hv
    simp only [hrequired, hsign]
    rw [if_pos]
    rw [hdocument, Bool.true_and]
    exact List.any_eq_true.mpr ⟨v, hmem, hpass⟩
  · cases h

/-- What the checks miss nothing of. -/
theorem checks_eq_nil {env : Env} (hgoverns : c.Governs d.db task.id) :
    representative_completion_checks cfg d.db env task = [] ↔
      current_rows cfg d.evidence task ≠ [] ∧ signed_qa_pass_error cfg d.db task = none ∧
        (c.session_integrity_required = true → env.integrity = true) ∧
        (c.profiled = true → env.evidence_error = none) ∧ issues d.db task.id task.revision = [] := by
  have hrows : (d.db.evidence.rows.any (Evidence.current cfg task)) = true ↔
      current_rows cfg d.evidence task ≠ [] := by
    rw [← d.columns, List.any_map, List.any_eq_true, current_rows, Ne, List.filter_eq_nil_iff]
    simp
  have hsession : (d.db.packets.find task.id).any Packet.session_integrity_required =
      c.session_integrity_required := by
    unfold Contract.Governs at hgoverns
    split at hgoverns
    · rename_i p hp
      rw [hp, Option.any_some, hgoverns.2.2]
    · rename_i hp
      rw [hp, hgoverns.2.2, Option.any_none]
  have hprofiled : (d.db.packets.find task.id).any Packet.profiled = c.profiled := by
    unfold Contract.Governs at hgoverns
    split at hgoverns
    · rename_i p hp
      rw [hp, Option.any_some, hgoverns.2.1]
    · rename_i hp
      rw [hp, hgoverns.2.1, Option.any_none]
  simp only [representative_completion_checks, hsession, hprofiled, List.filterMap_eq_nil_iff,
    List.forall_mem_cons, id_eq]
  rw [← hrows]
  constructor
  · rintro ⟨hevidence, hqa, hintegrity, hcontract, hissues, -⟩
    refine ⟨?_, hqa, ?_, ?_, ?_⟩
    · by_contra hnone
      simp [hnone] at hevidence
    · intro hrequired
      simpa [hrequired, hqa] using hintegrity
    · intro hprofile
      simpa [hprofile] using hcontract
    · by_contra hopen
      simp [hopen] at hissues
  · rintro ⟨hevidence, hqa, hintegrity, hcontract, hissues⟩
    refine ⟨by simp [hevidence], hqa, ?_, ?_, by simp [hissues], by simp⟩
    · rw [if_neg]
      rw [Bool.and_eq_true, hqa]
      rintro ⟨hrequired, hnot⟩
      simp [hintegrity hrequired] at hnot
    · split
      · rename_i hprofile
        exact hcontract hprofile
      · rfl

namespace Preserved

variable (h : Preserved host d later task row)

include h

theorem id_eq : row.id = task.id := (Table.find_some h.found).2

theorem governs (hgoverns : c.Governs d.db task.id) : c.Governs later.db row.id := by
  unfold Contract.Governs at hgoverns ⊢
  rw [h.id_eq, h.packet]
  exact hgoverns

theorem payload : receipt_payload cfg later.db row = receipt_payload cfg d.db task := by
  simp only [receipt_payload, h.responses, h.id_eq, h.revision, h.qa_cycle, h.scope,
    h.document_version]

theorem current : current_rows cfg later.evidence row = current_rows cfg d.evidence task := by
  have hcurrent : ∀ (evidence : List EvidenceRow) (t : Task), t.id = task.id →
      t.revision = task.revision → t.qa_cycle = task.qa_cycle → t.scope = task.scope →
      t.document_version = task.document_version →
      current_rows cfg evidence t = (evidence.filter (·.in_cycle task)).filter fun e =>
        e.scope_hash == cfg.sha256 task.scope && task.document_version.isSome &&
          e.document_version == task.document_version := by
    intro evidence t hid hrevision hcycle hscope hdocument
    rw [List.filter_filter, current_rows]
    refine List.filter_congr fun e _ => ?_
    simp only [Evidence.current, EvidenceRow.in_cycle, hid, hrevision, hcycle, hscope, hdocument]
    grind
  rw [hcurrent later.evidence row h.id_eq h.revision h.qa_cycle h.scope h.document_version,
    hcurrent d.evidence task rfl rfl rfl rfl rfl, h.evidence]

theorem verify {e : EvidenceRow} (he : e ∈ d.evidence) (hcycle : e.in_cycle task) :
    verify_receipt cfg host later.db later.files row e =
      verify_receipt cfg host d.db d.files task e := by
  obtain ⟨hread, hlink⟩ := h.files e he hcycle
  have hroot := h.root
  unfold verify_receipt
  rw [h.payload]
  split
  · rename_i payload root _ hstore
    rw [← hroot root (by rw [hstore]; rfl)]
    simp only
    refine if_congr ?_ rfl rfl
    constructor <;> rintro ⟨h1, h2, h3, h4, huri, h6, h7, h8, h9⟩ <;>
      refine ⟨h1, h2, h3, h4, huri, h6, ?_, h8, ?_⟩ <;> rw [← huri] at * <;> simp_all
  · rfl

theorem covers {e : EvidenceRow} (he : e ∈ d.evidence) (hcycle : e.in_cycle task) :
    c.Covers cfg host later.db later.files row e ↔ c.Covers cfg host d.db d.files task e := by
  unfold Contract.Covers
  rw [h.verify he hcycle]
  simp only [unverified, (h.files e he hcycle).1]

theorem validation : qa_evidence_validation cfg host c later.db later.evidence later.files row none =
      none ↔ qa_evidence_validation cfg host c d.db d.evidence d.files task none = none := by
  rw [qa_evidence_validation_none, qa_evidence_validation_none, h.current]
  refine and_congr_right fun _ => forall₂_congr fun e he => ?_
  have hmem := List.mem_filter.mp he
  refine h.covers hmem.1 ?_
  have hcurrent := hmem.2
  simp only [Evidence.current, Bool.and_eq_true] at hcurrent
  simp only [EvidenceRow.in_cycle, Bool.and_eq_true]
  exact ⟨hcurrent.1.1.1.1, hcurrent.2⟩

end Preserved

theorem Contract.Governs.required_ids {db : DB} {task_id : String} (h : c.Governs db task_id) :
    WarRoom.required_ids db task_id = .ok c.required_ids := by
  unfold Contract.Governs at h
  unfold WarRoom.required_ids
  split at h
  · rename_i p hp
    simp [hp, h.1]
  · rename_i hp
    simp [hp, h.1, Contract.required_ids, legacy_item]

/-- The desk once the reviewer has passed the task and every issue is resolved. -/
def Desk.signed (cfg : Config) (c : Contract) (sign : SignedPayload → String) (d : Desk) (task : Task) :
    Desk :=
  let payload := pass_payload cfg task (evidence_profile c.required_ids)
  { d with
    db := { d.db with
      tasks := ⟨[task], by simp⟩
      verdicts := ⟨[⟨"", task.reviewer_agent_id.getD "", sign payload, payload, 0⟩], by simp⟩
      issues := .empty } }

theorem preserved_signed (sign : SignedPayload → String) :
    Preserved host d (d.signed cfg c sign task) task task where
  found := by simp [Desk.signed, Table.find]
  source_message_id := rfl
  reviewer_agent_id := rfl
  scope := rfl
  document_version := rfl
  revision := rfl
  qa_cycle := rfl
  packet := rfl
  responses := rfl
  evidence := rfl
  integrity := rfl
  files _ _ _ := ⟨rfl, rfl⟩
  root _ _ := rfl

theorem signed_qa_pass {sign : SignedPayload → String} (hsign : cfg.qa_signature = some sign)
    (hgoverns : c.Governs d.db task.id) (hdocumented : task.document_version.isSome) :
    (qa_pass cfg (d.signed cfg c sign task).db task).isSome := by
  have hrequired : required_ids (d.signed cfg c sign task).db task.id = .ok c.required_ids :=
    Contract.Governs.required_ids hgoverns
  simp only [qa_pass, hrequired, hsign]
  rw [List.isSome_head?]
  refine List.ne_nil_of_mem (List.mem_mergeSort.mpr (List.mem_filter.mpr ⟨List.mem_singleton_self _, ?_⟩))
  rw [hdocumented, Bool.true_and]
  simp [is_signed_pass, pass_payload]

/-- A cycle whose rows no summary of session integrity belongs to is completable exactly if its rows
are those of the contract, and the contract asks for no summary. -/
theorem completable_iff (env : Env) (hgoverns : c.Governs d.db task.id)
    (hdocumented : task.document_version.isSome)
    (hjoin : integrity_row cfg d.evidence d.integrity task = none) :
    Completable cfg host c d task ↔
      qa_evidence_validation cfg host c d.db d.evidence d.files task none = none ∧
        (cfg.qa_signature.isSome → c.session_integrity_required = false) := by
  constructor
  · intro h
    refine ⟨?_, fun hsign => ?_⟩
    · have hlater : Preserved host d (d.signed cfg c (fun _ => "") task) task task := preserved_signed _
      exact hlater.validation.mp ((h _ _ hlater).1 none (by simp [Contract.Submits]))
    · obtain ⟨sign, hsign⟩ := Option.isSome_iff_exists.mp hsign
      have hlater : Preserved host d (d.signed cfg c sign task) task task := preserved_signed sign
      have hchecks := (h _ _ hlater).2 (signed_qa_pass hsign hgoverns hdocumented)
        (by simp [issues, Desk.signed, Table.empty]) env
      rw [checks_eq_nil (hlater.governs hgoverns)] at hchecks
      by_contra hrequired
      obtain ⟨v, -, hv⟩ := (Option.any_eq_true _ _).mp (hchecks.2.2.1 (by simpa using hrequired))
      -- the summaries and the rows are those of `d`
      have hnone : integrity_row cfg (d.signed cfg c sign task).evidence
          (d.signed cfg c sign task).integrity task = none := hjoin
      rw [hnone] at hv
      cases hv
  · rintro ⟨hvalid, hsession⟩ later row hlater
    have hvalid' := hlater.validation.mpr hvalid
    refine ⟨fun submitted hsubmits => qa_evidence_validation_submitted hsubmits hvalid', ?_⟩
    intro hpass hissues env
    refine (checks_eq_nil (hlater.governs hgoverns)).mpr
      ⟨?_, signed_of_qa_pass hpass, ?_, fun _ => hvalid', hissues⟩
    · intro hnone
      have hperm := (qa_evidence_validation_none.mp hvalid').1
      rw [hnone, List.map_nil, List.nil_perm, Contract.required_ids, List.map_eq_nil_iff] at hperm
      exact c.nonempty hperm
    · have hsigning : cfg.qa_signature.isSome := by
        unfold qa_pass at hpass
        split at hpass
        · rename_i hsome
          rw [hsome]
          rfl
        · cases hpass
      simp [hsession hsigning]

end

end WarRoom

end Plachem
