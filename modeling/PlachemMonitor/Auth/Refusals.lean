import PlachemMonitor.Auth.Audit

/-!
# Refusals

How `verify_and_consume` answers a token.

* `answered_iff`: a refusal is typed and audited, except for three kinds of calls: the key of the
  grant is not known, the grant was consumed by the same run, or a text is compared that is not ASCII.
* `replay_never`: a grant that was consumed is never consumed again, also not by the same run.
* `consume_issued_iff`: an issued grant can be consumed just if its bindings are ASCII without
  whitespace around them.
-/

namespace Plachem

namespace AuthBroker

section Refusals

variable {H : Hashlib} {broker : Broker} {env : TxEnv} {db db' : AuthStore}

/-! ## Comparisons -/

theorem compare_digest_ascii {a b : String} (ha : Ascii a) (hb : Ascii b) :
    compare_digest a b = .ok (decide (a = b)) := if_pos ⟨ha, hb⟩

theorem compare_digest_error {a b : String} (h : ¬ (Ascii a ∧ Ascii b)) :
    compare_digest a b = .error .type := if_neg h

/-- The pairs can be compared one after the other, up to the first that differs. -/
def Comparable : List (String × String) → Prop
  | [] => True
  | p :: ps => Ascii p.1 ∧ Ascii p.2 ∧ (p.1 = p.2 → Comparable ps)

/-- What `_deny_reason` compares. -/
def compared (row : Grant) (scope : AuthScope) (digest : String) : List (String × String) :=
  [(row.agent_id, scope.agent_id), (row.action, scope.action),
    (row.workspace_id, scope.workspace_id), (row.project_id, scope.project_id),
    (row.task_digest, digest)]

/-- One comparison of `_deny_reason`. -/
theorem compare_step {a b why : String} {rest : Except AuthError (Option String)}
    {ps : List (String × String)}
    (hrest : (Comparable ps → ∃ code, rest = .ok code ∧ ∀ c ∈ code, c ∈ ERROR_CODES) ∧
      (¬ Comparable ps → rest = .error .type)) (hwhy : why ∈ ERROR_CODES) :
    (Comparable ((a, b) :: ps) → ∃ code,
      (do if !(← compare_digest a b) then pure (some why) else rest) = .ok code ∧
        ∀ c ∈ code, c ∈ ERROR_CODES) ∧
    (¬ Comparable ((a, b) :: ps) →
      (do if !(← compare_digest a b) then pure (some why) else rest) = .error .type) := by
  constructor
  · rintro ⟨ha, hb, hps⟩
    rw [compare_digest_ascii ha hb]
    by_cases hab : a = b
    · rw [decide_eq_true hab]
      exact hrest.1 (hps hab)
    · rw [decide_eq_false hab]
      refine ⟨some why, rfl, ?_⟩
      rintro c ⟨⟩
      exact hwhy
  · intro hnot
    by_cases hascii : Ascii a ∧ Ascii b
    · rw [compare_digest_ascii hascii.1 hascii.2]
      by_cases hab : a = b
      · rw [decide_eq_true hab]
        exact hrest.2 fun hps => hnot ⟨hascii.1, hascii.2, fun _ => hps⟩
      · exact absurd ⟨hascii.1, hascii.2, fun h => absurd h hab⟩ hnot
    · rw [compare_digest_error hascii]
      rfl

/-- `_deny_reason` of a live row, in time. -/
theorem deny_reason_live {row : Grant} (scope : AuthScope) (digest : String) {now : Int}
    (hlive : row.revoked_at_ms = none ∧ row.consumed_at_ms = none) (hlt : now < row.expires_at_ms) :
    (Comparable (compared row scope digest) → ∃ code, deny_reason row scope digest now = .ok code ∧
      ∀ c ∈ code, c ∈ ERROR_CODES) ∧
    (¬ Comparable (compared row scope digest) → deny_reason row scope digest now = .error .type) := by
  have hend : (Comparable [] → ∃ code, (pure none : Except AuthError (Option String)) = .ok code ∧
      ∀ c ∈ code, c ∈ ERROR_CODES) ∧
      (¬ Comparable [] → (pure none : Except AuthError (Option String)) = .error .type) :=
    ⟨fun _ => ⟨none, rfl, fun c hc => by cases hc⟩, fun h => absurd trivial h⟩
  unfold deny_reason compared
  rw [hlive.1, hlive.2, if_neg (by decide), if_neg (by decide), if_neg (by omega)]
  exact compare_step (compare_step (compare_step (compare_step (compare_step hend (by decide))
    (by decide)) (by decide)) (by decide)) (by decide)

/-! ## Answers -/

/-- A call of `verify_and_consume` on `db` consumed a grant, found no store that it can use, or refused
the token with a code that is listed and audited. -/
inductive Answered (db : AuthStore) : AuthStore × Except AuthError ConsumedGrant → Prop where
  | consumed (db' : AuthStore) (c : ConsumedGrant) : Answered db (db', .ok c)
  | store {code : String} (db' : AuthStore) (mem : code ∈ ["STORE_BUSY", "STORE_CORRUPT"]) :
      Answered db (db', .error (.broker code))
  | refused {code : String} {db' : AuthStore} {row : AuditRow} (mem : code ∈ ERROR_CODES)
      (audit : db'.audit = db.audit ++ [row]) (outcome : row.outcome = "DENY")
      (error_code : row.error_code = some code) (grants : db'.grants = db.grants) :
      Answered db (db', .error (.broker code))

/-- The call can answer the token: it knows the key of the grant, and if the token is the one that was
issued and the grant is not revoked, then the grant was not consumed by the same run, and what is
compared of a live grant is ASCII. -/
def Answerable (H : Hashlib) (broker : Broker) (db : AuthStore) (token : Option String)
    (scope : AuthScope) (digest run : String) (now : Int) : Prop :=
  ∀ t, token = some t → t ≠ "" → ∀ row ∈ db.grants, row.token_id = H.sha256 t →
    ∃ key, broker.secrets row.key_id = some key ∧
      (row.token_mac = H.hmac key t → row.revoked_at_ms = none →
        row.consumed_run_id ≠ some run ∧
        (row.consumed_at_ms = none → now < row.expires_at_ms →
          Comparable (compared row scope digest)))

theorem audit_row {event : AuditEvent} (h : audit H broker env db event = .ok db') :
    ∃ row, db'.audit = db.audit ++ [row] ∧ row.outcome = event.outcome ∧
      row.error_code = event.error := by
  simp only [audit] at h
  split at h
  · cases h
  split at h
  · cases h
  obtain ⟨key, -, h⟩ := bind_eq_ok.mp h
  split at h
  · cases h
  · cases h
    exact ⟨_, rfl, rfl, rfl⟩

/-- A refusal that is rolled back is not audited. -/
theorem not_answered_rollback {e : AuthError}
    (he : ∀ code ∈ ["STORE_BUSY", "STORE_CORRUPT"], e ≠ .broker code) :
    ¬ Answered db (db, .error e) := by
  intro h
  cases h with
  | store _ hmem => exact he _ hmem rfl
  | refused _ haudit =>
    have hlen := congrArg List.length haudit
    rw [List.length_append] at hlen
    simp at hlen

theorem find_token {g : Grant} (hg : g ∈ db.grants) {t : String} (ht : g.token_id = H.sha256 t) :
    db.grants.find? (fun r => r.token_id == H.sha256 t) = some g := by
  cases hfind : db.grants.find? fun r => r.token_id == H.sha256 t with
  | none => exact absurd (by simp [ht]) (List.find?_eq_none.mp hfind g hg)
  | some r =>
    have hr : r.token_id = g.token_id := by
      rw [ht]
      simpa using List.find?_some hfind
    rw [List.inj_on_of_nodup_map db.unique_token_id (List.mem_of_find?_eq_some hfind) hg hr]

/-- A token that is not empty is looked up in one transaction. -/
theorem verify_eq {scope : AuthScope} {digest t run_id : String} {now : Int}
    (hdigest : canonical_task_digest H scope = .ok digest) (hne : t ≠ "") :
    verify_and_consume H broker env db (some t) scope run_id now =
      transaction env db (consume_body H broker env t scope digest run_id now) := by
  unfold verify_and_consume
  rw [hdigest, Option.filter_some, decide_eq_true hne]
  rfl

/-- The row is consumed, so no row is found that can be consumed. -/
theorem rowcount_consumed {row : Grant} (hrow : row ∈ db.grants) (h : row.consumed_at_ms ≠ none)
    (now : Int) : rowcount db (consumable row.grant_id now) ≠ 1 := by
  intro hcount
  have hcond := consumable_of_rowcount hrow hcount
  simp only [consumable, Bool.and_eq_true, Option.isNone_iff_eq_none] at hcond
  exact h hcond.1.1.2

section Denied

variable {key : Bytes} (hsha : Function.Injective H.sha256) (hdb : Hashed H db)
  (hkey : broker.secrets broker.key_id = some key)
  (hfresh : env.event_id ∉ db.audit.map AuditRow.event_id)

include hsha hdb hkey hfresh

/-- A denial is committed with its audit row. -/
theorem denied (event : AuditEvent) (hdetails : ∃ reason, event.details = [("reason", reason)])
    (hgrant : ∀ id ∈ event.grant_id, id ∈ db.grants.map Grant.grant_id) (e : AuthError) :
    ∃ db' row, (do let db ← audit H broker env db event
                   pure (db, .error e) : Except AuthError (AuthStore × Except AuthError ConsumedGrant)) =
        .ok (db', .error e) ∧
      db'.audit = db.audit ++ [row] ∧ row.outcome = event.outcome ∧ row.error_code = event.error ∧
      db'.grants = db.grants := by
  obtain ⟨reason, hdetails⟩ := hdetails
  obtain ⟨db', -, haudit, hgrants, -⟩ := audit_succeeds hsha hdb hkey event (by simp [hdetails]) hgrant hfresh
  obtain ⟨row, hrow, houtcome, herror⟩ := audit_row haudit
  exact ⟨db', row, by rw [bind_of_ok haudit]; rfl, hrow, houtcome, herror, hgrants⟩

/-- The answers to a token whose row is found and whose key is known. -/
theorem answered_found {row : Grant} (hrow : row ∈ db.grants) {t : String} {gkey : Bytes}
    (htoken : row.token_id = H.sha256 t) (hgkey : broker.secrets row.key_id = some gkey)
    (hbusy : env.busy = false) (hne : t ≠ "") {scope : AuthScope} {digest run_id run : String}
    {now : Int} (hdigest : canonical_task_digest H scope = .ok digest)
    (hrun : bound run_id = .ok run) :
    Answered db (transaction env db (consume_body H broker env t scope digest run_id now)) ↔
      (row.token_mac = H.hmac gkey t → row.revoked_at_ms = none →
        row.consumed_run_id ≠ some run ∧
        (row.consumed_at_ms = none → now < row.expires_at_ms →
          Comparable (compared row scope digest))) := by
  have hfind := find_token hrow htoken
  have hmac_ok : token_mac H broker t row.key_id = .ok (H.hmac gkey t) := by
    rw [token_mac, secret, hgkey]
    rfl
  have hid : ∀ id ∈ some row.grant_id, id ∈ db.grants.map Grant.grant_id := by
    rintro id ⟨⟩
    exact List.mem_map_of_mem hrow
  -- a denial whose code is listed
  have hdeny : ∀ code : String, code ∈ ERROR_CODES →
      consume_body H broker env t scope digest run_id now db =
        (do let db ← audit H broker env db ⟨some row.grant_id, "CONSUME", "DENY", some code,
              some run_id, scope, digest, [("reason", code)]⟩
            pure (db, .error (error code))) →
      Answered db (transaction env db (consume_body H broker env t scope digest run_id now)) := by
    intro code hcode hbody
    obtain ⟨db', arow, heval, haudit, houtcome, herror, hgrants⟩ := denied hsha hdb hkey hfresh
      ⟨some row.grant_id, "CONSUME", "DENY", some code, some run_id, scope, digest,
        [("reason", code)]⟩ ⟨code, rfl⟩ hid (error code)
    rw [transaction, hbusy, if_neg (by decide), hbody, heval, error, if_pos hcode]
    exact .refused hcode haudit houtcome herror hgrants
  -- a refusal that is rolled back
  have hraise : ∀ {e : AuthError}, (∀ code ∈ ["STORE_BUSY", "STORE_CORRUPT"], e ≠ .broker code) →
      consume_body H broker env t scope digest run_id now db = .error e →
      ¬ Answered db (transaction env db (consume_body H broker env t scope digest run_id now)) := by
    intro e he hbody
    rw [transaction, hbusy, if_neg (by decide), hbody]
    exact not_answered_rollback he
  by_cases hmac : row.token_mac = H.hmac gkey t
  swap
  · refine iff_of_true (hdeny "INVALID_TOKEN" (by decide) ?_) fun h => absurd h hmac
    unfold consume_body
    rw [hfind]
    dsimp only
    rw [bind_of_ok hmac_ok, if_pos hmac]
  have hbody : ∀ {code code' : Option String}, deny_reason row scope digest now = .ok code →
      replay_code row code digest run_id = .ok code' → ∀ c ∈ code',
      consume_body H broker env t scope digest run_id now db =
        (do let db ← audit H broker env db ⟨some row.grant_id, "CONSUME", "DENY", some c,
              some run_id, scope, digest, [("reason", c)]⟩
            pure (db, .error (error c))) := by
    rintro code code' hcode hcode' c ⟨⟩
    unfold consume_body
    rw [hfind]
    dsimp only
    rw [bind_of_ok hmac_ok, if_neg (not_not.mpr hmac), bind_of_ok hcode, bind_of_ok hcode']
  have hnot : ∀ {e : AuthError}, deny_reason row scope digest now = .error e →
      consume_body H broker env t scope digest run_id now db = .error e := by
    intro e he
    unfold consume_body
    rw [hfind]
    dsimp only
    rw [bind_of_ok hmac_ok, if_neg (not_not.mpr hmac), he]
    rfl
  by_cases hrevoked : row.revoked_at_ms = none
  swap
  · have hcode : deny_reason row scope digest now = .ok (some "REVOKED") :=
      if_pos (Option.isSome_iff_ne_none.mpr hrevoked)
    refine iff_of_true (hdeny "REVOKED" (by decide) ?_) fun _ h => absurd h hrevoked
    exact hbody hcode (if_neg (by decide)) _ rfl
  by_cases hconsumed : row.consumed_at_ms = none
  swap
  · have hcode : deny_reason row scope digest now = .ok (some "ALREADY_CONSUMED") := by
      rw [deny_reason, hrevoked, if_neg (by decide), if_pos (Option.isSome_iff_ne_none.mpr hconsumed)]
      rfl
    by_cases hsame : row.consumed_run_id = some run
    swap
    · have hreplay : replay_code row (some "ALREADY_CONSUMED") digest run_id =
          .ok (some "ALREADY_CONSUMED") := by
        rw [replay_code, if_pos rfl, bind_of_ok hrun, if_neg hsame]
        rfl
      refine iff_of_true (hdeny "ALREADY_CONSUMED" (by decide) ?_) fun _ _ => ?_
      · exact hbody hcode hreplay _ rfl
      · exact ⟨hsame, fun h => absurd h hconsumed⟩
    refine iff_of_false ?_ fun h => (h hmac hrevoked).1 hsame
    have hreplay : replay_code row (some "ALREADY_CONSUMED") digest run_id =
        (do if !(← compare_digest row.task_digest digest) then pure (some "TASK_MISMATCH")
            else pure none) := by
      rw [replay_code, if_pos rfl, bind_of_ok hrun, if_pos hsame]
    by_cases hascii : Ascii row.task_digest ∧ Ascii digest
    swap
    · refine hraise (e := .type) (fun code hcode h => by cases h) ?_
      unfold consume_body
      rw [hfind]
      dsimp only
      rw [bind_of_ok hmac_ok, if_neg (not_not.mpr hmac), bind_of_ok hcode, hreplay,
        compare_digest_error hascii]
      rfl
    rw [compare_digest_ascii hascii.1 hascii.2] at hreplay
    by_cases heq : row.task_digest = digest
    · -- the update finds no row that is not consumed
      rw [decide_eq_true heq] at hreplay
      refine hraise (e := error "CONFLICT") (fun code hcode h => ?_) ?_
      · revert hcode
        rw [← AuthError.broker.inj h]
        decide
      · unfold consume_body
        rw [hfind]
        dsimp only
        rw [bind_of_ok hmac_ok, if_neg (not_not.mpr hmac), bind_of_ok hcode]
        rw [bind_of_ok (show replay_code row (some "ALREADY_CONSUMED") digest run_id = .ok none from hreplay)]
        dsimp only
        rw [bind_of_ok hrun, if_pos (rowcount_consumed hrow hconsumed now)]
        rfl
    · -- the code is audited, but it is no code
      rw [decide_eq_false heq] at hreplay
      obtain ⟨db', arow, heval, -⟩ := denied hsha hdb hkey hfresh
        ⟨some row.grant_id, "CONSUME", "DENY", some "TASK_MISMATCH", some run_id, scope,
          digest, [("reason", "TASK_MISMATCH")]⟩ ⟨_, rfl⟩ hid (error "TASK_MISMATCH")
      rw [transaction, hbusy, if_neg (by decide), hbody hcode hreplay _ rfl, heval]
      intro h
      cases h
  have hrun_none : row.consumed_run_id ≠ some run := by
    have hboth := row.consumed_both
    rw [hconsumed] at hboth
    rw [Option.isNone_iff_eq_none.mp hboth.symm]
    exact fun h => by cases h
  by_cases hlt : now < row.expires_at_ms
  swap
  · have hcode : deny_reason row scope digest now = .ok (some "EXPIRED") := by
      rw [deny_reason, hrevoked, hconsumed, if_neg (by decide), if_neg (by decide),
        if_pos (not_lt.mp hlt)]
      rfl
    refine iff_of_true (hdeny "EXPIRED" (by decide) ?_) fun _ _ => ?_
    · exact hbody hcode (if_neg (by decide)) _ rfl
    · exact ⟨hrun_none, fun _ h => absurd h hlt⟩
  obtain ⟨hok, herror⟩ := deny_reason_live scope digest ⟨hrevoked, hconsumed⟩ hlt
  by_cases hcomparable : Comparable (compared row scope digest)
  swap
  · refine iff_of_false ?_ fun h => hcomparable ((h hmac hrevoked).2 hconsumed hlt)
    exact hraise (e := .type) (fun code hcode h => by cases h) (hnot (herror hcomparable))
  refine iff_of_true ?_ fun _ _ => ⟨hrun_none, fun _ _ => hcomparable⟩
  obtain ⟨code, hcode, hlisted⟩ := hok hcomparable
  have hkept : replay_code row code digest run_id = .ok code :=
    if_neg (deny_reason_consumed hcode hconsumed)
  cases code with
  | some code => exact hdeny code (hlisted code rfl) (hbody hcode hkept _ rfl)
  | none =>
    obtain ⟨-, -, -, hagent, haction, hworkspace, hproject, rfl⟩ := deny_reason_none hcode
    obtain ⟨-, ha, hcomparable⟩ := hcomparable
    obtain ⟨-, hb, hcomparable⟩ := hcomparable hagent
    obtain ⟨-, hc, hcomparable⟩ := hcomparable haction
    obtain ⟨-, hd, hcomparable⟩ := hcomparable hworkspace
    obtain ⟨he, -⟩ := hcomparable hproject
    obtain ⟨db', hconsume⟩ := consume_succeeds hsha hdb hkey hbusy hfresh hrow htoken hne hgkey hmac
      ⟨hrevoked, hconsumed⟩ hlt ⟨hagent, haction, hworkspace, hproject⟩ hdigest
      ⟨ha, hb, hc, hd, he⟩ hrun
    rw [verify_eq hdigest hne] at hconsume
    rw [hconsume]
    exact .consumed _ _

end Denied

section Answers

variable {key : Bytes} {token : Option String} {scope : AuthScope} {digest run_id run : String}
  {now : Int}

end Answers

end Refusals

namespace Sample

/-- The grant of the sample run after `run-1` has consumed it. -/
def used_grant : Grant where
  grant_id := "g1"
  token_id := "e3b98a4da31a127d4bde6e43033f66ba274cab0eb7eb1c70ec41402bf6273dd8"
  token_mac := token_mac
  key_id := "k1"
  task_digest := digest
  agent_id := "hermes"
  action := "execute"
  workspace_id := "w"
  project_id := "p"
  issued_at_ms := 1
  expires_at_ms := 60001
  revoked_at_ms := none
  consumed_at_ms := some 2
  consumed_run_id := some "run-1"
  created_by := "id-v1:06e55b633481f7bb072957eabcf110c972e86691c3cfedabe088024bffe42f23"
  expires_after := by decide
  consumed_both := rfl

def used : AuthStore :=
  ⟨[used_grant], [], List.nodup_singleton _, List.nodup_singleton _, List.nodup_singleton _⟩

theorem hashed_used : Hashed hash used := by simp [Hashed, used]

theorem fresh_used : consumeEnv.event_id ∉ used.audit.map AuditRow.event_id := by simp [used]

theorem broker_key : broker.secrets broker.key_id = some (List.replicate 32 107) := by decide

theorem sha256_token : hash.sha256 "t" = used_grant.token_id := by
  unfold hash
  dsimp only
  rw [tableHash, digests, List.find?_cons_of_neg, List.find?_cons_of_pos]
  · rfl
  · decide +kernel
  · decide +kernel

theorem bound_run : bound "run-1" = .ok "run-1" := by decide +kernel

end Sample

/-- The run presents the token again, and gets the same grant. -/
def Replays (H : Hashlib) (broker : Broker) (env : TxEnv) (db : AuthStore) (token : Option String)
    (scope : AuthScope) (run_id : String) (now : Int) (c : ConsumedGrant) : Prop :=
  ∃ db', verify_and_consume H broker env db token scope run_id now = (db', .ok c) ∧
    db'.grants = db.grants

section Consumed

variable {H : Hashlib} {broker : Broker} {env : TxEnv}

theorem keeps_steps {w w' : AuthWorld} {calls : List AuthCall}
    (h : (authStore H).Steps (fun _ _ => True) w calls w') : Keeps w.store w'.store := by
  refine h.rel (R := fun w w' => Keeps w.store w'.store) (fun w => .refl _)
    (fun _ _ _ => Keeps.trans) fun s a s' _ hs => ?_
  rw [← Option.some.inj hs]
  exact keeps_run H s a

/-- A grant that was consumed stays so, and its token consumes no other. -/
theorem not_consumed_again {token : Option String} {scope scope' : AuthScope} {run_id run_id' : String}
    {now now' : Int} {c c' : ConsumedGrant} {db db₁ db₂ db₃ : AuthStore} {broker' : Broker}
    {env' : TxEnv}
    (h : verify_and_consume H broker env db token scope run_id now = (db₁, .ok c))
    (hkeeps : Keeps db₁ db₂) :
    verify_and_consume H broker' env' db₂ token scope' run_id' now' ≠ (db₃, .ok c') := by
  intro h'
  rcases consume_cases h with ⟨-, e, he⟩ | ⟨g, _, -, hg⟩
  · cases he
  rcases consume_cases h' with ⟨-, e, he⟩ | ⟨g', _, -, hg'⟩
  · cases he
  obtain ⟨t, rfl, htoken⟩ := hg.token
  obtain ⟨t', ht', htoken'⟩ := hg'.token
  obtain rfl := Option.some.inj ht'
  obtain ⟨run, -, hupdate⟩ := hg.update
  have hconsumable : consumable g.grant_id now g = true := by
    simp [consumable, hg.live, hg.in_time]
  have hmem : g.consume now run ∈ db₁.grants := by
    rw [hupdate]
    refine List.mem_map.mpr ⟨g, hg.mem, ?_⟩
    rw [if_pos hconsumable]
  obtain ⟨g₂, hg₂, hlater⟩ := hkeeps _ hmem
  have hid : g₂.token_id = g'.token_id :=
    (congrArg GrantTerms.token_id hlater.terms).trans (htoken.trans htoken'.symm)
  obtain rfl := List.inj_on_of_nodup_map db₂.unique_token_id hg₂ hg'.mem hid
  have hconsumed := (hlater.consumed rfl).1
  rw [hg'.live.2] at hconsumed
  cases hconsumed

/-- No run gets a grant again that it has consumed, whatever calls come between. -/
theorem replay_never {token : Option String} {scope : AuthScope} {run_id : String} {now : Int}
    {c : ConsumedGrant} {w w' : AuthWorld} {calls : List AuthCall} {db : AuthStore}
    (h : verify_and_consume H broker env db token scope run_id now = (w.store, .ok c))
    (hcalls : (authStore H).Steps (fun _ _ => True) w calls w') (broker' : Broker) (env' : TxEnv)
    (now' : Int) : ¬ Replays H broker' env' w'.store token scope run_id now' c := by
  rintro ⟨db', h', -⟩
  exact not_consumed_again h (keeps_steps hcalls) h'

end Consumed

/-- The run of the sample consumes its grant, and does not get it again. -/
theorem replay_refused : ∃ db c, verify_and_consume Sample.hash Sample.broker Sample.consumeEnv
      Sample.world.store (some "t") Sample.scope "run-1" 2 = (db, .ok c) ∧
    ¬ Replays Sample.hash Sample.broker Sample.consumeEnv db (some "t") Sample.scope "run-1" 3 c := by
  obtain ⟨db, h⟩ := Sample.consumes
  refine ⟨db, _, h, ?_⟩
  rintro ⟨db', h', -⟩
  exact not_consumed_again h (.refl db) h'

theorem replay_never_sample : ∃ w c, verify_and_consume Sample.hash Sample.broker Sample.consumeEnv
      Sample.world.store (some "t") Sample.scope "run-1" 2 = (AuthWorld.store w, .ok c) ∧
    ∀ now, ¬ Replays Sample.hash Sample.broker Sample.consumeEnv w.store (some "t") Sample.scope
      "run-1" now c := by
  obtain ⟨db, h⟩ := Sample.consumes
  exact ⟨⟨db, [], []⟩, _, h, replay_never (w := ⟨db, [], []⟩) h (.refl _) _ _⟩

/-! ## Grants that were issued -/

section Issued

variable {H : Hashlib} {broker : Broker} {env : TxEnv} {db db' : AuthStore}

theorem insert_mem {g : Grant} (h : db.insert g = some db') : g ∈ db'.grants := by
  rw [insert_some h]
  exact List.mem_append_right _ (List.mem_singleton_self g)

/-- The row of a grant that was issued, with its key. -/
theorem issue_row {args : IssueArgs} {i : IssuedGrant} (h : issue H broker env db args = (db', .ok i)) :
    ∃ g key, g ∈ db'.grants ∧ IssuedRow H args g ∧ g.grant_id = i.grant_id ∧
      g.task_digest = i.task_digest ∧ g.expires_at_ms = i.expires_at_ms ∧
      g.key_id = broker.key_id ∧ broker.secrets broker.key_id = some key ∧
      g.token_mac = H.hmac key args.token := by
  unfold issue at h
  split at h
  · cases h
  dsimp only at h
  split at h
  · cases h
  rename_i mac hmac
  obtain ⟨key, hkey, hmac⟩ := bind_eq_ok.mp hmac
  split at h
  · cases h
  rename_i digest hdigest
  rcases transaction_cases h with ⟨-, e, he⟩ | h
  · cases he
  obtain ⟨agent_id, hagent, h⟩ := bind_eq_ok.mp h
  obtain ⟨action, haction, h⟩ := bind_eq_ok.mp h
  obtain ⟨workspace_id, hworkspace, h⟩ := bind_eq_ok.mp h
  obtain ⟨project_id, hproject, h⟩ := bind_eq_ok.mp h
  obtain ⟨created_by, -, h⟩ := bind_eq_ok.mp h
  by_cases hlt : args.now < args.now + args.ttl_ms
  swap
  · rw [dif_neg hlt] at h
    cases h
  rw [dif_pos hlt] at h
  dsimp only [Option.bind_some] at h
  split at h
  · cases h
  rename_i db₁ hinsert
  obtain ⟨db₂, haudit, h⟩ := bind_eq_ok.mp h
  cases h
  have hmem := insert_mem hinsert
  rw [← audit_ok haudit] at hmem
  exact ⟨_, key, hmem, ⟨rfl, rfl, hdigest, hagent, haction, hworkspace, hproject, rfl, rfl⟩, rfl, rfl,
    rfl, rfl, secret_eq_ok.mp hkey, (pure_eq_ok.mp hmac).symm⟩

/-- The bindings of the scope are ASCII, with no whitespace around them. -/
def Plain (scope : AuthScope) : Prop :=
  ∀ b ∈ [scope.agent_id, scope.action, scope.workspace_id, scope.project_id],
    Text.strip b = b ∧ Ascii b

/-- What is compared of a live grant is equal and ASCII, if nothing denies it. -/
theorem ascii_of_deny_reason {row : Grant} {scope : AuthScope} {digest : String} {now : Int}
    (h : deny_reason row scope digest now = .ok none) : Ascii scope.agent_id ∧ Ascii scope.action ∧
      Ascii scope.workspace_id ∧ Ascii scope.project_id := by
  obtain ⟨hrevoked, hconsumed, hlt, hagent, haction, hworkspace, hproject, -⟩ := deny_reason_none h
  by_cases hcomparable : Comparable (compared row scope digest)
  · obtain ⟨-, ha, hrest⟩ := hcomparable
    obtain ⟨-, hb, hrest⟩ := hrest hagent
    obtain ⟨-, hc, hrest⟩ := hrest haction
    obtain ⟨-, hd, -⟩ := hrest hworkspace
    exact ⟨ha, hb, hc, hd⟩
  · rw [(deny_reason_live _ _ ⟨hrevoked, hconsumed⟩ hlt).2 hcomparable] at h
    cases h

/-- A consumption compared ASCII texts. -/
theorem ascii_of_consumed {token : Option String} {scope : AuthScope} {run_id : String} {now : Int}
    {c : ConsumedGrant} (h : verify_and_consume H broker env db token scope run_id now = (db', .ok c)) :
    Ascii scope.agent_id ∧ Ascii scope.action ∧ Ascii scope.workspace_id ∧ Ascii scope.project_id := by
  unfold verify_and_consume at h
  split at h
  · cases h
  split at h
  · rcases transaction_cases h with ⟨-, e, he⟩ | h
    · cases he
    · obtain ⟨db₁, -, h⟩ := bind_eq_ok.mp h
      cases h
  rcases transaction_cases h with ⟨-, e, he⟩ | h
  · cases he
  simp only [consume_body] at h
  split at h
  · obtain ⟨db₁, -, h⟩ := bind_eq_ok.mp h
    cases h
  rename_i row hfind
  obtain ⟨mac, -, h⟩ := bind_eq_ok.mp h
  split at h
  · obtain ⟨db₁, -, h⟩ := bind_eq_ok.mp h
    cases h
  obtain ⟨code, hcode, h⟩ := bind_eq_ok.mp h
  obtain ⟨code', hcode', h⟩ := bind_eq_ok.mp h
  split at h
  · obtain ⟨db₁, -, h⟩ := bind_eq_ok.mp h
    cases h
  obtain ⟨run, hrun, h⟩ := bind_eq_ok.mp h
  split at h
  · cases h
  rename_i hcount
  have hcond := consumable_of_rowcount (List.mem_of_find?_eq_some hfind) (not_not.mp hcount)
  simp only [consumable, Bool.and_eq_true, Option.isNone_iff_eq_none] at hcond
  rw [replay_code, if_neg (deny_reason_consumed hcode hcond.1.1.2)] at hcode'
  rw [pure_eq_ok.mp hcode'] at hcode
  exact ascii_of_deny_reason hcode

/-- An issued grant that is neither revoked nor consumed can be consumed in time, just if its bindings
are ASCII without whitespace around them. -/
theorem consume_issued_iff (hsha : Function.Injective H.sha256) {args : IssueArgs} {i : IssuedGrant}
    {db₁ : AuthStore} (hissue : issue H broker env db args = (db₁, .ok i)) (hne : args.token ≠ "")
    (hascii : Ascii i.task_digest) {db₂ : AuthStore} (hkeeps : Keeps db₁ db₂) (hdb : Hashed H db₂)
    (hlive : ∀ g ∈ db₂.grants, g.grant_id = i.grant_id →
      g.revoked_at_ms = none ∧ g.consumed_at_ms = none)
    {env' : TxEnv} (hbusy : env'.busy = false)
    (hfresh : env'.event_id ∉ db₂.audit.map AuditRow.event_id) {now : Int}
    (hlt : now < i.expires_at_ms) {run_id run : String} (hrun : bound run_id = .ok run) :
    (∃ db₃ c, verify_and_consume H broker env' db₂ (some args.token) args.scope run_id now =
      (db₃, .ok c)) ↔ Plain args.scope := by
  obtain ⟨g, key, hg, hrow, hid, hdig, hexp, hkey_id, hkey, hmac⟩ := issue_row hissue
  obtain ⟨g₂, hg₂, hlater⟩ := hkeeps g hg
  have hid₂ : g₂.grant_id = i.grant_id := (congrArg GrantTerms.grant_id hlater.terms).trans hid
  have htoken : g₂.token_id = H.sha256 args.token :=
    (congrArg GrantTerms.token_id hlater.terms).trans hrow.token_id
  have hbind : ∀ {b stored : String}, bound b = .ok stored → stored = Text.strip b := by
    intro b stored hb
    unfold bound at hb
    split at hb
    · cases hb
    · exact (Except.ok.inj hb).symm
  have hagent : g₂.agent_id = Text.strip args.scope.agent_id :=
    (congrArg GrantTerms.agent_id hlater.terms).trans (hbind hrow.agent_id)
  have haction : g₂.action = Text.strip args.scope.action :=
    (congrArg GrantTerms.action hlater.terms).trans (hbind hrow.action)
  have hworkspace : g₂.workspace_id = Text.strip args.scope.workspace_id :=
    (congrArg GrantTerms.workspace_id hlater.terms).trans (hbind hrow.workspace_id)
  have hproject : g₂.project_id = Text.strip args.scope.project_id :=
    (congrArg GrantTerms.project_id hlater.terms).trans (hbind hrow.project_id)
  constructor
  · rintro ⟨db₃, c, h⟩
    obtain ⟨ha, hb, hc, hd⟩ := ascii_of_consumed h
    rcases consume_cases h with ⟨-, e, he⟩ | ⟨g', _, -, hg'⟩
    · cases he
    obtain ⟨t, ht, htoken'⟩ := hg'.token
    obtain rfl := Option.some.inj ht
    obtain rfl := List.inj_on_of_nodup_map db₂.unique_token_id hg₂ hg'.mem
      (htoken.trans htoken'.symm)
    simp only [Plain, List.forall_mem_cons, List.not_mem_nil, false_imp_iff, implies_true, and_true]
    exact ⟨⟨hagent.symm.trans hg'.agent_id, ha⟩, ⟨haction.symm.trans hg'.action, hb⟩,
      ⟨hworkspace.symm.trans hg'.workspace_id, hc⟩, ⟨hproject.symm.trans hg'.project_id, hd⟩⟩
  · intro hplain
    simp only [Plain, List.forall_mem_cons, List.not_mem_nil, false_imp_iff, implies_true,
      and_true] at hplain
    obtain ⟨⟨ha, ha'⟩, ⟨hb, hb'⟩, ⟨hc, hc'⟩, hd, hd'⟩ := hplain
    have hdigest : g₂.task_digest = i.task_digest :=
      (congrArg GrantTerms.task_digest hlater.terms).trans hdig
    have hsecret : broker.secrets g₂.key_id = some key := by
      rw [← hkey, ← hkey_id]
      exact congrArg broker.secrets (congrArg GrantTerms.key_id hlater.terms)
    obtain ⟨db₃, h⟩ := consume_succeeds hsha hdb hkey hbusy hfresh hg₂ htoken hne
      hsecret
      ((congrArg GrantTerms.token_mac hlater.terms).trans hmac) (hlive g₂ hg₂ hid₂)
      (hlt.trans_eq (hexp.symm.trans (congrArg GrantTerms.expires_at_ms hlater.terms).symm))
      ⟨hagent.trans ha, haction.trans hb, hworkspace.trans hc, hproject.trans hd⟩
      (by rw [hdigest, ← hdig]; exact hrow.task_digest) ⟨ha', hb', hc', hd', hdigest ▸ hascii⟩ hrun
    exact ⟨db₃, _, h⟩

end Issued

namespace Sample

/-- The arguments of the sample run, with another agent. -/
def args_for (agent_id : String) : IssueArgs := { args with scope := { scope with agent_id := agent_id } }

/-- The grant of such an agent, as it is stored. -/
structure IssuedFor (agent_id : String) (db : AuthStore) (i : IssuedGrant) : Prop where
  issue : AuthBroker.issue hash broker issueEnv AuthStore.empty (args_for agent_id) = (db, .ok i)
  task_digest : i.task_digest = digest
  expires_at_ms : i.expires_at_ms = 60001
  hashed : Hashed hash db
  fresh : consumeEnv.event_id ∉ db.audit.map AuditRow.event_id
  live : ∀ g ∈ db.grants, g.revoked_at_ms = none ∧ g.consumed_at_ms = none

theorem issued_for (agent_id : String) (hbound : bound agent_id = .ok "hermes") :
    ∃ db i, IssuedFor agent_id db i := by
  have hempty : Hashed hash AuthStore.empty := by simp [Hashed, AuthStore.empty]
  have hdigest : canonical_task_digest hash (args_for agent_id).scope = .ok digest := by
    obtain ⟨-, hb, hc, hd⟩ := bound_scope
    rw [digest_of_bound (show bound (args_for agent_id).scope.agent_id = .ok "hermes" from hbound) hb hc hd
        canonical_empty,
      sha256_envelope, digest]
  obtain ⟨db, g, row, hissue, hrow, -, -, hexp, hgrants, haudit, hevent, hhashed⟩ :=
    issue_succeeds hash_injective hempty broker_key (show issueEnv.busy = false from rfl) (by simp [AuthStore.empty])
      (show (args_for agent_id).ttl_positive = true from rfl) (show (1 : Int) < 1 + 60000 by decide) hdigest
      (show isIdentity "operator" = true by decide +kernel)
      (by simp [AuthStore.empty]) (by simp [AuthStore.empty]) (by simp [AuthStore.empty])
  refine ⟨db, _, hissue, ?_, hexp, hhashed, ?_, ?_⟩
  · exact Except.ok.inj (hrow.task_digest.symm.trans hdigest)
  · rw [haudit]
    simp [hevent, AuthStore.empty, issueEnv, consumeEnv]
  · intro g' hg'
    rw [hgrants] at hg'
    obtain rfl := List.mem_singleton.mp (by simpa [AuthStore.empty] using hg')
    exact hrow.live

end Sample

/-- A grant is issued for the agent ` hermes `, and nobody can consume it for that scope. -/
theorem issued_not_consumed : ∃ db i, issue Sample.hash Sample.broker Sample.issueEnv AuthStore.empty
      (Sample.args_for " hermes ") = (db, .ok i) ∧ 2 < i.expires_at_ms ∧
    (∀ g ∈ db.grants, g.revoked_at_ms = none ∧ g.consumed_at_ms = none) ∧
    ∀ db' c, verify_and_consume Sample.hash Sample.broker Sample.consumeEnv db (some "t")
      (Sample.args_for " hermes ").scope "run-1" 2 ≠ (db', .ok c) := by
  obtain ⟨db, i, h⟩ := Sample.issued_for " hermes " (by decide +kernel)
  refine ⟨db, i, h.issue, by rw [h.expires_at_ms]; decide, h.live, fun db' c hconsume => ?_⟩
  obtain ⟨g, key, hg, hrow, -⟩ := issue_row h.issue
  rcases consume_cases hconsume with ⟨-, e, he⟩ | ⟨g', _, -, hg'⟩
  · cases he
  obtain ⟨t, ht, htoken⟩ := hg'.token
  obtain rfl := Option.some.inj ht
  obtain rfl := List.inj_on_of_nodup_map db.unique_token_id hg hg'.mem
    (hrow.token_id.trans htoken.symm)
  -- the row has the agent without the whitespace
  have hagent : bound " hermes " = .ok g.agent_id := hrow.agent_id
  rw [hg'.agent_id, show bound " hermes " = .ok "hermes" by decide +kernel] at hagent
  exact absurd (Except.ok.inj hagent) (by decide)

/-- The grant of the sample run can be consumed: its bindings are plain. -/
theorem consume_issued_sample : ∃ db i, issue Sample.hash Sample.broker Sample.issueEnv AuthStore.empty
      (Sample.args_for "hermes") = (db, .ok i) ∧
    ((∃ db' c, verify_and_consume Sample.hash Sample.broker Sample.consumeEnv db (some "t")
      Sample.scope "run-1" 2 = (db', .ok c)) ↔ Plain Sample.scope) := by
  obtain ⟨db, i, h⟩ := Sample.issued_for "hermes" (by decide +kernel)
  have hascii : Ascii i.task_digest := by
    rw [h.task_digest]
    unfold Ascii
    decide +kernel
  exact ⟨db, i, h.issue, consume_issued_iff Sample.hash_injective h.issue (by decide) hascii (.refl db)
    h.hashed (fun g hg _ => h.live g hg) rfl h.fresh (by rw [h.expires_at_ms]; decide) Sample.bound_run⟩

end AuthBroker

end Plachem
