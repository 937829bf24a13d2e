import Mathlib.Data.List.Perm.Subperm
import PlachemMonitor.WarRoom.Receipts
import PlachemMonitor.WarRoom.System

/-!
# The evidence for a `PASS`

`_qa_evidence_validation` of a structured contract counts the rows that stand for required ids, and then
looks at each of them. A row stands for its contract id, or for its own id if it has none. So two rows can
stand for one id, and the count does not tell which id they are missing for (`counted_twice`). The validation
accepts exactly the submissions whose ids have one row each that fulfils its entry, unless such rows are as
many as the ids, and an id has none of them (`validation_exact_iff`).
-/

namespace Plachem

namespace WarRoom

section Exact

variable (cfg : Config) (host : Host) (c : Contract) (evidence : List EvidenceRow) (files : Files)
  (task : Task)

/-- The file of the row is within the approved roots, hashes to the row's digest, and its text contains what
the entry expects. -/
def Substantiated (item : Required) (e : EvidenceRow) : Prop :=
  ∃ data content, files.read e.uri = some data ∧ e.sha256 = some (host.sha256 data) ∧
    String.fromUTF8? data = some content ∧ isPart item.expected_contains content = true ∧
    c.within e.uri = true

/-- The row is immutable, comes from a run, and is what the entry asks for, and so is its file. -/
structure Fulfils (item : Required) (e : EvidenceRow) : Prop where
  immutable : e.immutable = true
  run_id : e.run_id.isSome = true
  evidence_type : e.evidence_type = item.evidence_type
  source_command : e.source_command = some item.source_command
  /-- A row that expects nothing may leave this out. -/
  expected_contains : e.expected_contains.getD "" = item.expected_contains
  file : Substantiated host c files item e

/-- The rows of the task as it stands that stand for an id. -/
def rows_for (id : String) : List EvidenceRow :=
  (current_rows cfg evidence task).filter fun e => c.contract_id e == id

/-- The rows of the task as it stands that stand for required ids. -/
def required_rows : List EvidenceRow :=
  (current_rows cfg evidence task).filter fun e => decide (c.contract_id e ∈ c.required_ids)

/-- Each required id is submitted once, and nothing else. -/
structure Submits (submitted : List String) : Prop where
  nodup : submitted.Nodup
  ids : ∀ id, id ∈ submitted ↔ id ∈ c.required_ids

/-- Each required id has one row, and the row fulfils its entry. -/
structure Exact (submitted : List String) : Prop where
  submits : Submits c submitted
  rows : ∀ item ∈ c.required, ∃ e, rows_for cfg c evidence task item.id = [e] ∧
    Fulfils host c files item e

/-- The rows that stand for required ids are as many as these, and each fulfils its entry. -/
structure Counted (submitted : List String) : Prop where
  submits : Submits c submitted
  count : (required_rows cfg c evidence task).length = c.required.length
  rows : ∀ e ∈ required_rows cfg c evidence task, ∀ item ∈ c.required, item.id = c.contract_id e →
    Fulfils host c files item e

end Exact

variable {cfg : Config} {host : Host} {c : Contract} {db : DB} {evidence : List EvidenceRow} {files : Files}
  {task : Task} {submitted : List String} {item : Required} {e : EvidenceRow}

/-! ## A row and its entry -/

theorem unverified_eq_none : unverified host c files item e = none ↔ e.immutable = true ∧
    e.run_id.isSome = true ∧ e.source_command.isSome = true ∧ Substantiated host c files item e := by
  have hempty : ∀ data, e.sha256 = some (host.sha256 data) → e.sha256.getD "" ≠ "" := by
    intro data h
    rw [h]
    exact host.sha256_ne data
  have hpart : ∀ content, isPart "" content = true := fun content =>
    decide_eq_true (List.nil_infix)
  unfold unverified Substantiated
  constructor
  · intro h
    split at h
    · cases h
    rename_i hrow
    simp only [Bool.or_eq_true, Bool.not_eq_true', not_or, Bool.not_eq_false, Option.isNone_iff_eq_none,
      ← Option.isSome_iff_ne_none] at hrow
    split at h
    · cases h
    rename_i data hdata
    split at h
    · cases h
    rename_i hsha
    split at h
    · cases h
    rename_i content hcontent
    split at h
    · cases h
    rename_i hexpected
    split at h
    · rename_i hwithin
      refine ⟨hrow.1.1.1, hrow.1.2, hrow.2, data, content, hdata, not_not.mp hsha, hcontent, ?_, hwithin⟩
      by_cases hnone : item.expected_contains = ""
      · rw [hnone]
        exact hpart content
      · exact Decidable.not_not.mp fun hnot => hexpected ⟨hnone, hnot⟩
    · cases h
  · rintro ⟨himmutable, hrun, hsource, data, content, hdata, hsha, hcontent, hexpected, hwithin⟩
    have hrow : ¬ (!e.immutable || e.sha256.getD "" == "" || e.run_id.isNone ||
        e.source_command.isNone) = true := by
      simp [himmutable, hempty data hsha, Option.isSome_iff_ne_none.mp hrun,
        Option.isSome_iff_ne_none.mp hsource]
    rw [if_neg hrow, hdata]
    dsimp only
    rw [if_neg (not_not.mpr hsha), hcontent]
    dsimp only
    rw [if_neg fun h => h.2 hexpected, if_pos hwithin]

theorem fulfils_iff : Fulfils host c files item e ↔
    item.describes e = true ∧ unverified host c files item e = none := by
  rw [unverified_eq_none]
  simp only [Required.describes, Bool.and_eq_true, beq_iff_eq]
  constructor
  · intro h
    refine ⟨⟨⟨h.evidence_type, ?_⟩, h.expected_contains⟩, h.immutable, h.run_id, ?_, h.file⟩
    · rw [h.source_command, Option.getD_some]
    · rw [h.source_command]
      rfl
  · rintro ⟨⟨⟨htype, hcommand⟩, hcontains⟩, himmutable, hrun, hsource, hfile⟩
    obtain ⟨command, hsome⟩ := Option.isSome_iff_exists.mp hsource
    refine ⟨himmutable, hrun, htype, ?_, hcontains, hfile⟩
    rw [hsome, Option.getD_some] at hcommand
    rw [hsome, hcommand]

/-- The entry of a row is the one of its id. -/
theorem find_required (hitem : item ∈ c.required) (hid : item.id = c.contract_id e) :
    (c.required.find? fun item => item.id == c.contract_id e) = some item := by
  have hsome : (c.required.find? fun item => item.id == c.contract_id e).isSome = true :=
    List.find?_isSome.mpr ⟨item, hitem, beq_iff_eq.mpr hid⟩
  obtain ⟨found, hfound⟩ := Option.isSome_iff_exists.mp hsome
  have hmem := List.mem_of_find?_eq_some hfound
  have hfid : found.id = c.contract_id e := by
    have hkey := List.find?_some hfound
    exact beq_iff_eq.mp hkey
  rw [hfound]
  exact congrArg some (List.inj_on_of_nodup_map c.unique hmem hitem (hfid.trans hid.symm))

theorem mem_required_rows : e ∈ required_rows cfg c evidence task ↔
    e ∈ current_rows cfg evidence task ∧ ∃ item ∈ c.required, item.id = c.contract_id e := by
  unfold required_rows
  rw [List.mem_filter, decide_eq_true_eq, Contract.required_ids, List.mem_map]

theorem mem_rows_for {id : String} : e ∈ rows_for cfg c evidence task id ↔
    e ∈ current_rows cfg evidence task ∧ c.contract_id e = id := by
  unfold rows_for
  rw [List.mem_filter, beq_iff_eq]

/-! ## The validation -/

/-- What the validation asks of a structured contract. -/
theorem validation_iff (hlegacy : c.legacy = false) (hprofiled : c.profiled = false) :
    qa_evidence_validation cfg host c db evidence files task (some submitted) = none ↔
      Counted cfg host c evidence files task submitted := by
  unfold qa_evidence_validation
  dsimp only [Option.getD_some]
  rw [hlegacy, hprofiled]
  constructor
  · intro h
    split at h
    · cases h
    rename_i hsubmitted
    rw [not_or, not_not, not_not] at hsubmitted
    split at h
    · cases h
    rename_i hcount
    rw [if_neg Bool.false_ne_true, if_neg Bool.false_ne_true] at h
    split at h
    · cases h
    rename_i hdescribes
    refine ⟨⟨hsubmitted.1, fun id => ⟨fun h => hsubmitted.2.1 h, fun h => hsubmitted.2.2 h⟩⟩, ?_, ?_⟩
    · rw [not_not] at hcount
      exact hcount.trans (List.length_map _)
    · intro e he item hitem hid
      have hfind := find_required hitem hid
      have hverified := List.findSome?_eq_none_iff.mp h e he
      rw [hfind, Option.bind_some] at hverified
      refine fulfils_iff.mpr ⟨?_, hverified⟩
      by_contra hnot
      refine hdescribes (List.any_eq_true.mpr ⟨e, he, ?_⟩)
      rw [hfind, Option.any_some, Bool.eq_false_iff.mpr hnot]
      rfl
  · rintro ⟨⟨hnodup, hids⟩, hcount, hrows⟩
    have hcount' : ¬ ((current_rows cfg evidence task).filter fun e =>
        decide (c.contract_id e ∈ c.required_ids)).length ≠ c.required_ids.length :=
      not_not.mpr (hcount.trans (List.length_map _).symm)
    have hrow : ∀ e ∈ required_rows cfg c evidence task, ∃ item,
        (c.required.find? fun item => item.id == c.contract_id e) = some item ∧
          item.describes e = true ∧ unverified host c files item e = none := by
      intro e he
      obtain ⟨-, item, hitem, hid⟩ := mem_required_rows.mp he
      exact ⟨item, find_required hitem hid, fulfils_iff.mp (hrows e he item hitem hid)⟩
    rw [if_neg (fun h => h.elim (fun h => h hnodup)
        fun h => h ⟨fun id => (hids id).mp, fun id => (hids id).mpr⟩), if_neg hcount',
      if_neg Bool.false_ne_true, if_neg Bool.false_ne_true, if_neg]
    · refine List.findSome?_eq_none_iff.mpr fun e he => ?_
      obtain ⟨item, hfind, -, hverified⟩ := hrow e he
      rw [hfind, Option.bind_some, hverified]
    · intro hany
      obtain ⟨e, he, hnot⟩ := List.any_eq_true.mp hany
      obtain ⟨item, hfind, hdescribes, -⟩ := hrow e he
      rw [hfind, Option.any_some, hdescribes] at hnot
      cases hnot

/-- The rows that stand for an id are counted with it. -/
theorem count_required {id : String} (hid : id ∈ c.required_ids) :
    List.count id ((required_rows cfg c evidence task).map c.contract_id) =
      (rows_for cfg c evidence task id).length := by
  have hfilter : (required_rows cfg c evidence task).filter (fun e => c.contract_id e == id) =
      rows_for cfg c evidence task id := by
    unfold required_rows rows_for
    rw [List.filter_filter]
    refine List.filter_congr fun e _ => ?_
    by_cases heq : c.contract_id e = id
    · simp [heq, hid]
    · simp [heq]
  rw [List.count, List.countP_map, ← hfilter, ← List.countP_eq_length_filter]
  rfl

/-- Where no required id is without a row, each has one. -/
theorem rows_for_eq (hcount : (required_rows cfg c evidence task).length = c.required.length)
    (hcovered : ∀ id ∈ c.required_ids, rows_for cfg c evidence task id ≠ [])
    (hitem : item ∈ c.required) : ∃ e, rows_for cfg c evidence task item.id = [e] := by
  have hid : item.id ∈ c.required_ids := List.mem_map_of_mem hitem
  have hsub : c.required_ids ⊆ (required_rows cfg c evidence task).map c.contract_id := by
    intro id hid
    obtain ⟨e, he⟩ := List.exists_mem_of_ne_nil _ (hcovered id hid)
    obtain ⟨hcurrent, hcid⟩ := mem_rows_for.mp he
    obtain ⟨item, hitem, rfl⟩ := List.mem_map.mp hid
    exact List.mem_map.mpr ⟨e, mem_required_rows.mpr ⟨hcurrent, item, hitem, hcid.symm⟩, hcid⟩
  -- as many ids as rows, and each id is one of theirs
  have hperm : c.required_ids.Perm ((required_rows cfg c evidence task).map c.contract_id) := by
    refine (c.unique.subperm hsub).perm_of_length_le ?_
    rw [List.length_map, hcount]
    exact (List.length_map _).ge
  have hone : (rows_for cfg c evidence task item.id).length = 1 := by
    rw [← count_required hid, ← hperm.count_eq]
    exact List.count_eq_one_of_mem c.unique hid
  exact List.length_eq_one_iff.mp hone

theorem exact_iff : Exact cfg host c evidence files task submitted ↔
    Counted cfg host c evidence files task submitted ∧
      ∀ id ∈ c.required_ids, rows_for cfg c evidence task id ≠ [] := by
  constructor
  · rintro ⟨hsubmits, hrows⟩
    have hrow : ∀ e ∈ required_rows cfg c evidence task, ∀ item ∈ c.required,
        item.id = c.contract_id e → Fulfils host c files item e := by
      intro e he item hitem hid
      obtain ⟨e', hone, hfulfils⟩ := hrows item hitem
      have hmem := mem_rows_for.mpr ⟨(mem_required_rows.mp he).1, hid.symm⟩
      rw [hone, List.mem_singleton] at hmem
      exact hmem ▸ hfulfils
    refine ⟨⟨hsubmits, ?_, hrow⟩, fun id hid => ?_⟩
    · have hperm : c.required_ids.Perm ((required_rows cfg c evidence task).map c.contract_id) := by
        refine List.perm_iff_count.mpr fun id => ?_
        by_cases hid : id ∈ c.required_ids
        · have hone : (rows_for cfg c evidence task id).length = 1 := by
            obtain ⟨item, hitem, rfl⟩ := List.mem_map.mp hid
            obtain ⟨e, hone, -⟩ := hrows item hitem
            rw [hone]
            rfl
          have hnodup : c.required_ids.Nodup := c.unique
          rw [count_required hid, hone, List.count_eq_one_of_mem hnodup hid]
        · rw [List.count_eq_zero_of_not_mem hid, eq_comm, List.count_eq_zero]
          intro hmem
          obtain ⟨e, he, rfl⟩ := List.mem_map.mp hmem
          obtain ⟨-, item, hitem, hitemid⟩ := mem_required_rows.mp he
          exact hid (List.mem_map.mpr ⟨item, hitem, hitemid⟩)
      have hlength := hperm.length_eq
      rw [List.length_map] at hlength
      exact hlength.symm.trans (List.length_map _)
    · obtain ⟨item, hitem, rfl⟩ := List.mem_map.mp hid
      obtain ⟨e, hone, -⟩ := hrows item hitem
      rw [hone]
      exact List.cons_ne_nil _ _
  · rintro ⟨⟨hsubmits, hcount, hrows⟩, hcovered⟩
    refine ⟨hsubmits, fun item hitem => ?_⟩
    obtain ⟨e, hone⟩ := rows_for_eq hcount hcovered hitem
    have hmem : e ∈ rows_for cfg c evidence task item.id := by
      rw [hone]
      exact List.mem_singleton_self e
    obtain ⟨hcurrent, hid⟩ := mem_rows_for.mp hmem
    refine ⟨e, hone, hrows e (mem_required_rows.mpr ⟨hcurrent, item, hitem, hid.symm⟩) item hitem hid.symm⟩

/-- The validation of a structured contract accepts the exact submissions and no others, unless the rows that
stand for required ids are as many as these and fulfil their entries, and an id has none of them. -/
theorem validation_exact_iff (hlegacy : c.legacy = false) (hprofiled : c.profiled = false) :
    (qa_evidence_validation cfg host c db evidence files task (some submitted) = none ↔
      Exact cfg host c evidence files task submitted) ↔
    ¬(Counted cfg host c evidence files task submitted ∧
      ∃ id ∈ c.required_ids, rows_for cfg c evidence task id = []) := by
  rw [validation_iff hlegacy hprofiled, exact_iff]
  constructor
  · rintro h ⟨hcounted, id, hid, hnone⟩
    exact (h.mp hcounted).2 id hid hnone
  · intro h
    refine ⟨fun hcounted => ⟨hcounted, fun id hid hnone => h ⟨hcounted, id, hid, hnone⟩⟩, fun h => h.1⟩

namespace Sample

/-- A contract with two entries. -/
def structured : Contract where
  required := [⟨"test", "test", "pytest", "", false⟩, ⟨"artifact", "file", "make", "", false⟩]
  nonempty := by decide
  unique := by decide
  named := by decide
  profiled := false
  receipt h := absurd h (by decide)
  session_integrity_required := false
  within _ := true

/-- A task in review. -/
def examined : Task :=
  ⟨"t", "p", some "m", some "dev", some "qa", "do", .qa, "v1", some "v1", none, none, .LEGACY, none, 1, 1, 0, 0,
    none, none⟩

/-- All digests are the same. -/
def digester : Host := ⟨fun _ => "digest", fun _ => by decide, none, fun _ => []⟩

/-- Every file says `ok`. -/
def readable : Files := ⟨fun _ => some "ok".toUTF8, fun _ => false⟩

/-- A row for an entry of the task. -/
def evidence_row (id : String) (contract_id : Option String) (evidence_type command : String) : EvidenceRow :=
  ⟨⟨id, "t", evidence_type, "/w/" ++ id, some "digest", 1, "#do", some "v1", 1, some "run", true, contract_id⟩,
    some command, some "", 0⟩

/-- Two rows for the test: one by its contract id, one by its own id. -/
def test_rows : List EvidenceRow :=
  [evidence_row "e1" (some "test") "test" "pytest", evidence_row "test" none "test" "pytest"]

/-- A row for each entry. -/
def both_rows : List EvidenceRow :=
  [evidence_row "e1" (some "test") "test" "pytest", evidence_row "e2" (some "artifact") "file" "make"]

end Sample

open Sample in
/-- Both rows stand for the test, and nothing for the artifact. -/
theorem counted_twice :
    qa_evidence_validation (config false) digester structured Sample.db test_rows readable examined
      (some ["test", "artifact"]) = none ∧
    ¬Exact (config false) digester structured test_rows readable examined ["test", "artifact"] := by
  refine ⟨by decide +kernel, fun h => ?_⟩
  have hartifact : (⟨"artifact", "file", "make", "", false⟩ : Required) ∈ structured.required :=
    List.mem_cons_of_mem _ List.mem_cons_self
  obtain ⟨e, he, -⟩ := h.rows _ hartifact
  have hnone : rows_for (config false) structured test_rows examined "artifact" = [] := by decide +kernel
  rw [hnone] at he
  cases he

open Sample in
theorem validation_exact_iff_sample :
    qa_evidence_validation (config false) digester structured Sample.db both_rows readable examined
      (some ["test", "artifact"]) = none ↔
    Exact (config false) digester structured both_rows readable examined ["test", "artifact"] := by
  refine (validation_exact_iff (by decide) (by decide)).mpr ?_
  rintro ⟨-, id, hid, hnone⟩
  have hcovered : ∀ id ∈ structured.required_ids,
      rows_for (config false) structured both_rows examined id ≠ [] := by decide +kernel
  exact hcovered id hid hnone

end WarRoom

end Plachem
