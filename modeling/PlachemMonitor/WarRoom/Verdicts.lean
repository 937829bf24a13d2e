import PlachemMonitor.WarRoom.Completion
import PlachemMonitor.WarRoom.Replay

/-!
# Two ways to a verdict

The worker records the verdict of a review that has responded (`_record_auto_qa_verdict`), and the endpoint
records the one that a reviewer sends (`qa_verdict`). Both check that the task is in review, and by whom. The
endpoint checks more than that (`Receives`), so the two record the same verdict exactly where what lets the
worker through lets the endpoint through (`paths_agree_iff`); a project that has been archived is a place where
it does not (`archived_verdict`).
-/

namespace Plachem

namespace WarRoom

variable {cfg : Config} {db db' : DB} {env : Env} {req : Request} {task : Task} {task_id reviewer : String}
  {verdict : Verdict} {required : List String} {resp : Json}

/-! ## What is recorded -/

/-- A new row of `war_qa_verdicts`, without its id and time, and what it makes of the task. -/
structure RecordedVerdict where
  qa_principal : String
  signature : String
  signed_payload : SignedPayload
  status : TaskStatus
  revision : Nat
  deriving DecidableEq

/-- The verdict that is new. -/
def recorded (db db' : DB) (task_id : String) : Option RecordedVerdict := do
  let v ← db'.verdicts.rows[db.verdicts.rows.length]?
  let t ← db'.tasks.find task_id
  pure ⟨v.qa_principal, v.signature, v.signed_payload, t.status, t.revision⟩

/-- What `_record_auto_qa_verdict` records. -/
def auto_verdict (cfg : Config) (db : DB) (env : Env) (task_id reviewer : String) (verdict : Verdict) :
    Option RecordedVerdict :=
  match record_auto_qa_verdict cfg db env task_id reviewer verdict with
  | .ok db' => recorded db db' task_id
  | .error _ => none

/-- What the endpoint records. -/
def endpoint_verdict (cfg : Config) (db : DB) (env : Env) (req : Request) (task_id : String) :
    Option RecordedVerdict :=
  match (qa_verdict task_id).handle cfg (fun _ => db) db env req with
  | .ok (some db', _) => recorded db db' task_id
  | _ => none

/-- The payload of the verdict on the task as it stands. -/
def verdict_payload (cfg : Config) (task : Task) (reviewer : String) (verdict : Verdict)
    (required : List String) : SignedPayload where
  task_id := task.id
  verdict := verdict
  evidence_profile := evidence_profile required
  qa_principal := reviewer
  task_revision := task.revision
  scope_hash := cfg.sha256 task.scope
  document_version := task.document_version
  qa_cycle := task.qa_cycle

/-- A call of the reviewer with this verdict, the required evidence, a valid signature and a new key. -/
structure Sends (cfg : Config) (db : DB) (req : Request) (task_id reviewer : String) (verdict : Verdict) :
    Prop where
  principal : req.principal = some reviewer
  actor : req.x_war_room_actor = none ∨ req.x_war_room_actor = some reviewer
  qa_principal : req.get? "qa_principal" = some (.str reviewer)
  verdict_eq : verdict_of (req.text? "verdict") = some verdict
  evidence : ∀ required, required_ids db task_id = .ok required → submitted_ids req = some (some required)
  signature : ∀ task required sign, db.tasks.find task_id = some task → required_ids db task_id = .ok required →
    cfg.qa_signature = some sign →
    req.text? "signature" = some (sign (verdict_payload cfg task reviewer verdict required)) ∧
      sign (verdict_payload cfg task reviewer verdict required) ≠ ""
  key : idem cfg db req ⟨reviewer, "POST:/tasks/" ++ task_id ++ "/qa-verdict", req.body⟩ = .ok none

/-- The ids that the paths generate are new. -/
structure NewIds (db : DB) (env : Env) : Prop where
  endpoint : db.verdicts.find (env.uuid 0) = none
  auto : db.verdicts.find (env.uuid 1) = none

/-- What `_record_auto_qa_verdict` checks of a task. -/
structure Reviews (cfg : Config) (db : DB) (env : Env) (task : Task) (reviewer : String) (verdict : Verdict)
    (required : List String) : Prop where
  status : task.status = .qa
  reviewer_eq : task.reviewer_agent_id.getD "" = reviewer
  independent : reviewer ∉ db.agents task.id
  participant : qa_participant db task.project_id reviewer = true
  packet : required_ids db task.id = .ok required
  evidence : verdict = .PASS → env.evidence_error = none
  signs : cfg.qa_signature.isSome = true

/-- What the endpoint checks besides. -/
structure Receives (cfg : Config) (db : DB) (env : Env) (req : Request) (task : Task) (reviewer : String)
    (verdict : Verdict) : Prop where
  canonical : env.canonical_agent_id (.str reviewer) = some reviewer
  permitted : actor db req .comment task.project_id = .ok reviewer
  mutable : require_mutable_project db task.project_id = .ok ()
  running : require_not_stopped db task.project_id = .ok ()
  assignee : some reviewer ≠ task.assignee_agent_id
  integrity : verdict = .PASS → (db.packets.find task.id).any Packet.session_integrity_required = true →
    ∃ e ∈ db.evidence.rows.filter (Evidence.current cfg task), e.evidence_type = "session_integrity"

/-- The verdict on the task under a signature. -/
def verdict_record (cfg : Config) (task : Task) (reviewer signature : String) (verdict : Verdict)
    (required : List String) : RecordedVerdict where
  qa_principal := reviewer
  signature := signature
  signed_payload := verdict_payload cfg task reviewer verdict required
  status := if verdict = .PASS then task.status else .rework_required
  revision := if verdict = .PASS then task.revision else task.revision + 1

/-! ## The row -/

/-- The verdict that is new is the row that has been inserted; the tasks and other rows do not matter. -/
theorem recorded_insert {v : QaVerdict} {T} (hT : db.verdicts.insert v = some T) (hdb : db'.verdicts = T) :
    recorded db db' task_id = (db'.tasks.find task_id).map fun t =>
      ⟨v.qa_principal, v.signature, v.signed_payload, t.status, t.revision⟩ := by
  have hrow : db'.verdicts.rows[db.verdicts.rows.length]? = some v := by
    rw [hdb, (Table.insert_eq_some hT).1]
    exact List.getElem?_concat_length
  unfold recorded
  rw [hrow]
  cases db'.tasks.find task_id <;> rfl

/-- Nothing is new where no row is. -/
theorem recorded_same (hdb : db'.verdicts = db.verdicts) : recorded db db' task_id = none := by
  unfold recorded
  rw [hdb, List.getElem?_eq_none (Nat.le_refl _)]
  rfl

/-- A verdict of the payload leaves the record of the task. -/
theorem recorded_verdict (keys) {v : QaVerdict} {T} {signature : String} (hfound : db.tasks.find task.id = some task)
    (hT : db.verdicts.insert v = some T)
    (hv : v.qa_principal = reviewer ∧ v.signature = signature ∧
      v.signed_payload = verdict_payload cfg task reviewer verdict required) :
    recorded db { (if verdict = .PASS then { db with verdicts := T }
        else next_revision { db with verdicts := T } env task.id .rework_required) with keys := keys } task.id =
      some (verdict_record cfg task reviewer signature verdict required) := by
  obtain ⟨hprincipal, hsignature, hpayload⟩ := hv
  unfold verdict_record
  by_cases hpass : verdict = .PASS
  · rw [if_pos hpass, if_pos hpass, if_pos hpass, recorded_insert hT rfl]
    dsimp only
    rw [hfound, hprincipal, hsignature, hpayload]
    rfl
  · rw [if_neg hpass, if_neg hpass, if_neg hpass, recorded_insert hT rfl]
    have hnext := find_next_revision { db with verdicts := T } env .rework_required hfound
    dsimp only
    rw [hnext, hprincipal, hsignature, hpayload]
    rfl

/-! ## The worker -/

theorem auto_eq_some {sign : SignedPayload → String} (hfound : db.tasks.find task.id = some task)
    (hids : NewIds db env) (h : Reviews cfg db env task reviewer verdict required)
    (hsign : cfg.qa_signature = some sign) :
    auto_verdict cfg db env task.id reviewer verdict =
      some (verdict_record cfg task reviewer (sign (verdict_payload cfg task reviewer verdict required)) verdict
        required) := by
  obtain ⟨hstatus, hreviewer, hindependent, hparticipant, hpacket, hevidence, -⟩ := h
  obtain ⟨T, hT⟩ := Table.insert_of_find_none (r := { new_verdict cfg env (env.uuid 1) reviewer "" task verdict
    (evidence_profile required) with
      signature := sign (verdict_payload cfg task reviewer verdict required) }) hids.auto
  have hrecord : record_auto_qa_verdict cfg db env task.id reviewer verdict = .ok (if verdict = .PASS then
      { db with verdicts := T } else next_revision { db with verdicts := T } env task.id .rework_required) := by
    unfold record_auto_qa_verdict
    rw [hfound]
    dsimp only
    rw [if_neg (by simp [hstatus, hreviewer]), if_neg (by simp [hindependent, hparticipant]), hpacket, hsign]
    refine (bind_of_ok rfl).trans ?_
    split
    · rename_i error heq
      rw [hevidence rfl] at heq
      cases heq
    · refine (bind_of_ok rfl).trans ((bind_of_ok ?_).trans rfl)
      exact inserted_eq_ok.mpr hT
  unfold auto_verdict
  rw [hrecord]
  exact recorded_verdict db.keys hfound hT ⟨rfl, rfl, rfl⟩

/-- What does not pass the checks of the worker is not recorded. -/
theorem auto_eq_none (hfound : db.tasks.find task.id = some task)
    (h : ∀ required, ¬Reviews cfg db env task reviewer verdict required) :
    auto_verdict cfg db env task.id reviewer verdict = none := by
  unfold auto_verdict
  cases hrecord : record_auto_qa_verdict cfg db env task.id reviewer verdict with
  | error e => rfl
  | ok db' =>
    dsimp only
    unfold record_auto_qa_verdict at hrecord
    rw [hfound] at hrecord
    dsimp only at hrecord
    split at hrecord
    · cases hrecord
      exact recorded_same rfl
    rename_i hreview
    split at hrecord
    · cases hrecord
      exact recorded_same rfl
    rename_i hindependent
    obtain ⟨required, hrequired, hrecord⟩ := bind_eq_ok.mp hrecord
    split at hrecord
    · cases hrecord
      exact recorded_same rfl
    rename_i hevidence
    obtain ⟨sign, hsign, -⟩ := bind_eq_ok.mp hrecord
    rw [not_or, not_not, not_not] at hreview
    rw [not_or, not_not] at hindependent
    refine absurd ⟨hreview.1, hreview.2, hindependent.1, hindependent.2, hrequired, ?_, ?_⟩ (h required)
    · intro hpass
      rw [Option.eq_none_iff_forall_ne_some]
      exact fun error herror => hevidence error hpass herror
    · rw [found_eq_ok.mp hsign]
      rfl

/-! ## The endpoint -/

/-- The call is looked up under the key of the reviewer. -/
theorem verdict_before (hfound : db.tasks.find task.id = some task)
    (hsends : Sends cfg db req task.id reviewer verdict)
    (hcanonical : env.canonical_agent_id (.str reviewer) = some reviewer)
    (hpermitted : actor db req .comment task.project_id = .ok reviewer) :
    (qa_verdict task.id).before cfg (fun _ => db) db env req =
      .ok (⟨reviewer, "POST:/tasks/" ++ task.id ++ "/qa-verdict", req.body⟩, task, verdict, reviewer) := by
  have hprincipal : (req.get? "qa_principal").bind env.canonical_agent_id = some reviewer := by
    rw [hsends.qa_principal, Option.bind_some]
    exact hcanonical
  unfold qa_verdict
  dsimp only
  refine (bind_of_ok (found_eq_ok.mpr hsends.verdict_eq)).trans ?_
  refine (bind_of_ok (found_eq_ok.mpr hprincipal)).trans ?_
  refine (bind_of_ok (found_eq_ok.mpr hfound)).trans ?_
  exact (bind_of_ok hpermitted).trans rfl

/-- A signature of the payload is accepted. -/
theorem verdict_signature_ok {payload : SignedPayload} {sign : SignedPayload → String}
    (hsign : cfg.qa_signature = some sign) (hown : req.text? "signature" = some (sign payload))
    (hne : sign payload ≠ "") : verdict_signature cfg req payload = .ok (sign payload) := by
  unfold verdict_signature
  rw [hsign, hown]
  dsimp only
  split
  · rfl
  · rw [Option.getD_some, if_neg hne]
    exact (bind_of_ok rfl).trans ((bind_of_ok (ensure_eq_ok (u := ()).mpr rfl)).trans rfl)

/-- What is signed is signed by the key of the deployment. -/
theorem signs_of_signature {payload : SignedPayload} {signature : String}
    (h : verdict_signature cfg req payload = .ok signature) : cfg.qa_signature.isSome = true := by
  unfold verdict_signature at h
  dsimp only at h
  split at h
  · obtain ⟨sign, hsign, -⟩ := bind_eq_ok.mp h
    exact Option.isSome_iff_exists.mpr ⟨sign, found_eq_ok.mp hsign⟩
  · split at h
    · cases h
    · obtain ⟨sign, hsign, -⟩ := bind_eq_ok.mp h
      exact Option.isSome_iff_exists.mpr ⟨sign, found_eq_ok.mp hsign⟩

theorem no_error_eq_ok {error : Option String} {u : Unit} : no_error error = .ok u ↔ error = none := by
  cases error with
  | none => exact ⟨fun _ => rfl, fun _ => rfl⟩
  | some e => exact ⟨fun h => absurd h raise_ne_ok, fun h => by cases h⟩

theorem endpoint_eq_some {sign : SignedPayload → String} (hfound : db.tasks.find task.id = some task)
    (hids : NewIds db env) (hsends : Sends cfg db req task.id reviewer verdict)
    (h : Reviews cfg db env task reviewer verdict required) (hr : Receives cfg db env req task reviewer verdict)
    (hsign : cfg.qa_signature = some sign) :
    endpoint_verdict cfg db env req task.id =
      some (verdict_record cfg task reviewer (sign (verdict_payload cfg task reviewer verdict required)) verdict
        required) := by
  obtain ⟨hstatus, hreviewer, hindependent, hparticipant, hpacket, hevidence, -⟩ := h
  obtain ⟨hcanonical, hpermitted, hmutable, hrunning, hassignee, hintegrity⟩ := hr
  obtain ⟨hown, hne⟩ := hsends.signature task required sign hfound hpacket hsign
  obtain ⟨T, hT⟩ := Table.insert_of_find_none (r := { new_verdict cfg env (env.uuid 0) reviewer "" task verdict
    (evidence_profile required) with
      signature := sign (verdict_payload cfg task reviewer verdict required) }) hids.endpoint
  have hne' : reviewer ≠ "" := by
    rintro rfl
    exact env.canonical_ne _ hcanonical
  have hnamed : task.reviewer_agent_id = some reviewer := by
    cases hagent : task.reviewer_agent_id with
    | none =>
      rw [hagent] at hreviewer
      exact absurd hreviewer.symm hne'
    | some agent =>
      rw [hagent] at hreviewer
      exact congrArg some hreviewer
  have hafter : (qa_verdict task.id).after cfg (fun _ => db) db env req
      ⟨reviewer, "POST:/tasks/" ++ task.id ++ "/qa-verdict", req.body⟩ (task, verdict, reviewer) =
      .ok (if verdict = .PASS then { db with verdicts := T }
          else next_revision { db with verdicts := T } env task.id .rework_required,
        controlled [("verdict_id", .str (env.uuid 0)), ("verdict", .str verdict.value),
          ("status", .str (if verdict = .PASS then task.status else .rework_required).value)]) := by
    simp only [qa_verdict, bind_eq_ok, pure_eq_ok, Prod.mk.injEq, ensure_eq_ok, found_eq_ok, inserted_eq_ok,
      only_if_eq_ok, exists_unit]
    refine ⟨hmutable, hrunning, hstatus, ⟨trivial, hassignee, hindependent, hnamed, hparticipant⟩, required, hpacket,
      sign _, verdict_signature_ok hsign hown hne, some required, hsends.evidence required hpacket, fun hpass => ?_,
      hintegrity, T, hT, ?_⟩
    · rw [hevidence hpass]
      rfl
    · by_cases hpass : verdict = .PASS
      · simp only [if_pos hpass]
        exact ⟨trivial, rfl⟩
      · simp only [if_neg hpass]
        exact ⟨trivial, rfl⟩
  have hkey : idem cfg (if verdict = .PASS then { db with verdicts := T }
      else next_revision { db with verdicts := T } env task.id .rework_required) req
      ⟨reviewer, "POST:/tasks/" ++ task.id ++ "/qa-verdict", req.body⟩ = .ok none := by
    split <;> exact hsends.key
  obtain ⟨keys, hsaved⟩ := save_idem_ok hkey (controlled [("verdict_id", .str (env.uuid 0)),
    ("verdict", .str verdict.value),
    ("status", .str (if verdict = .PASS then task.status else .rework_required).value)])
  have hhandle : (qa_verdict task.id).handle cfg (fun _ => db) db env req = .ok (some
      { (if verdict = .PASS then { db with verdicts := T }
        else next_revision { db with verdicts := T } env task.id .rework_required) with keys := keys },
      controlled [("verdict_id", .str (env.uuid 0)), ("verdict", .str verdict.value),
        ("status", .str (if verdict = .PASS then task.status else .rework_required).value)]) := by
    unfold Handler.handle
    refine (bind_of_ok (verdict_before hfound hsends hcanonical hpermitted)).trans ?_
    refine (bind_of_ok hsends.key).trans ?_
    exact (bind_of_ok hafter).trans ((bind_of_ok hsaved).trans rfl)
  unfold endpoint_verdict
  rw [hhandle]
  exact recorded_verdict keys hfound hT ⟨rfl, rfl, rfl⟩

/-- What does not pass the checks of both is not recorded. -/
theorem endpoint_eq_none (hfound : db.tasks.find task.id = some task)
    (hsends : Sends cfg db req task.id reviewer verdict)
    (h : ∀ required, Reviews cfg db env task reviewer verdict required →
      ¬Receives cfg db env req task reviewer verdict) :
    endpoint_verdict cfg db env req task.id = none := by
  unfold endpoint_verdict
  split
  · rename_i db' resp hhandle
    obtain ⟨lookup, ctx, db₁, hb, -, ha, hs⟩ := handle_eq_ok hhandle
    simp only [qa_verdict, bind_eq_ok, found_eq_ok, pure_eq_ok, Prod.mk.injEq, ensure_eq_ok,
      inserted_eq_ok, only_if_eq_ok, exists_unit] at hb ha
    obtain ⟨v, hv, principal, hprincipal, t, hread, who, hactor, rfl, rfl⟩ := hb
    obtain rfl : verdict = v := Option.some.inj (hsends.verdict_eq.symm.trans hv)
    obtain rfl : task = t := Option.some.inj (hfound.symm.trans hread)
    obtain rfl : who = reviewer := Option.some.inj ((actor_eq_ok.mp hactor).2.symm.trans hsends.principal)
    obtain ⟨hmutable, hrunning, hstatus, ⟨rfl, hassignee, hindependent, hreviewer, hparticipant⟩, required, hpacket,
      signature, hsigned, _, -, hevidence, hintegrity, -⟩ := ha
    rw [hsends.qa_principal, Option.bind_some] at hprincipal
    refine absurd ⟨hprincipal, hactor, hmutable, hrunning, hassignee, hintegrity⟩ (h required
      ⟨hstatus, ?_, hindependent, hparticipant, hpacket, fun hpass => no_error_eq_ok.mp (hevidence hpass), ?_⟩)
    · rw [hreviewer]
      rfl
    · exact signs_of_signature hsigned
  · rfl


/-- The two ways record the same, for every task, reviewer and verdict, exactly where the checks of the worker
pass only if those of the endpoint do. -/
theorem paths_agree_iff (hids : NewIds db env) (hsends : Sends cfg db req task_id reviewer verdict) :
    auto_verdict cfg db env task_id reviewer verdict = endpoint_verdict cfg db env req task_id ↔
      ∀ task required, db.tasks.find task_id = some task →
        Reviews cfg db env task reviewer verdict required → Receives cfg db env req task reviewer verdict := by
  cases hfound : db.tasks.find task_id with
  | none =>
    have hauto : auto_verdict cfg db env task_id reviewer verdict = none := by
      unfold auto_verdict record_auto_qa_verdict
      rw [hfound]
      exact recorded_same rfl
    have hendpoint : endpoint_verdict cfg db env req task_id = none := by
      unfold endpoint_verdict
      split
      · rename_i db' resp hhandle
        obtain ⟨lookup, ctx, db₁, hb, -⟩ := handle_eq_ok hhandle
        simp only [qa_verdict, bind_eq_ok, found_eq_ok] at hb
        obtain ⟨_, -, _, -, t, hread, -⟩ := hb
        rw [hfound] at hread
        cases hread
      · rfl
    rw [hauto, hendpoint]
    refine ⟨fun _ t required ht => ?_, fun _ => rfl⟩
    cases ht
  | some task =>
    obtain rfl := (Table.find_some hfound).2
    constructor
    · intro hsame t required ht hreviews
      obtain rfl : task = t := Option.some.inj ht
      obtain ⟨sign, hsign⟩ := Option.isSome_iff_exists.mp hreviews.signs
      rw [auto_eq_some hfound hids hreviews hsign] at hsame
      by_contra hnot
      rw [endpoint_eq_none hfound hsends fun _ _ => hnot] at hsame
      cases hsame
    · intro h
      by_cases hreviews : ∃ required, Reviews cfg db env task reviewer verdict required
      · obtain ⟨required, hreviews⟩ := hreviews
        obtain ⟨sign, hsign⟩ := Option.isSome_iff_exists.mp hreviews.signs
        rw [auto_eq_some hfound hids hreviews hsign,
          endpoint_eq_some hfound hids hsends hreviews (h task required rfl hreviews) hsign]
      · rw [auto_eq_none hfound fun required hr => hreviews ⟨required, hr⟩,
          endpoint_eq_none hfound hsends fun required hr => absurd ⟨required, hr⟩ hreviews]

namespace Sample

/-- The executor has responded, and the review waits. -/
def in_review : List Label :=
  [prepare, execute, claim "d" "c" 2, hand "c" 3 (answer ""), ended "c" 4 (answer "PASS")]

def archived : Label := .request (.archive_project "p") (request "archive" "" "" 6 .empty) (outside 6 [""]) latest

/-- The reviewer sends a `PASS`. -/
def send_pass : Request where
  principal := some "qa"
  x_war_room_actor := none
  idempotency_key := some "verdict"
  body := body [("verdict", .str "PASS"), ("qa_principal", .str "qa"), ("evidence_ids", .arr [.str "test"]),
    ("signature", .str "signed by qa for t")]
  context_token := none

theorem sends_pass {db : DB} (hrequired : required_ids db "t" = .ok ["test"])
    (hkey : db.keys.find ("qa", "POST:/tasks/t/qa-verdict", "verdict") = none) :
    Sends (config false) db send_pass "t" "qa" .PASS := by
  refine ⟨rfl, .inl rfl, rfl, rfl, fun required h => ?_, fun task required sign hfound _ hsign => ?_, ?_⟩
  · rw [hrequired] at h
    cases h
    decide +kernel
  · cases hsign
    have hid : task.id = "t" := (Table.find_some hfound).2
    have hsigned : "signed by " ++ "qa" ++ " for " ++ task.id = "signed by qa for t" := by
      rw [hid]
      decide
    constructor
    · exact congrArg some hsigned.symm
    · intro hempty
      exact absurd (hsigned.symm.trans hempty) (by decide)
  · unfold idem
    dsimp only [send_pass]
    rw [if_neg (by decide)]
    have hfree : db.keys.find ("qa", "POST:/tasks/" ++ "t" ++ "/qa-verdict", "verdict") = none := hkey
    rw [hfree]

end Sample

open Sample in
/-- The project is archived while the review goes on: the worker records the `PASS`, and the endpoint does not. -/
theorem archived_verdict : (warRoom (config false)).Reachable (after (config false) (in_review ++ [archived])) ∧
    Sends (config false) (after (config false) (in_review ++ [archived])).db send_pass "t" "qa" .PASS ∧
    (auto_verdict (config false) (after (config false) (in_review ++ [archived])).db (outside 7 ["v", "u"]) "t" "qa"
      .PASS).isSome = true ∧
    endpoint_verdict (config false) (after (config false) (in_review ++ [archived])).db (outside 7 ["v", "u"])
      send_pass "t" = none := by
  refine ⟨reachable_after _ _, sends_pass ?_ ?_, ?_, ?_⟩
  · decide +kernel
  · decide +kernel
  · decide +kernel
  · decide +kernel

open Sample in
/-- While the project is open both record it. -/
theorem paths_agree_sample : auto_verdict (config false) (after (config false) in_review).db (outside 7 ["v", "u"])
      "t" "qa" .PASS =
    endpoint_verdict (config false) (after (config false) in_review).db (outside 7 ["v", "u"]) send_pass "t" := by
  have hsends : Sends (config false) (after (config false) in_review).db send_pass "t" "qa" .PASS :=
    sends_pass (by decide +kernel) (by decide +kernel)
  refine (paths_agree_iff ⟨by decide +kernel, by decide +kernel⟩ hsends).mpr fun task required hfound _ => ?_
  have htask : ((after (config false) in_review).db.tasks.find "t").all (fun t =>
      t.project_id == "p" && t.assignee_agent_id == some "dev") = true := by decide +kernel
  rw [hfound, Option.all_some, Bool.and_eq_true, beq_iff_eq, beq_iff_eq] at htask
  obtain ⟨hproject, hassignee⟩ := htask
  have hid : task.id = "t" := (Table.find_some hfound).2
  refine ⟨rfl, ?_, ?_, ?_, ?_, fun _ h => ?_⟩
  · rw [hproject]
    decide +kernel
  · rw [hproject]
    decide +kernel
  · rw [hproject]
    decide +kernel
  · rw [hassignee]
    decide
  · rw [hid] at h
    have hnone : (((after (config false) in_review).db.packets.find "t").any
      Packet.session_integrity_required) = false := by decide +kernel
    rw [hnone] at h
    cases h

end WarRoom

end Plachem
