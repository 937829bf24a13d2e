import PlachemMonitor.Auth.Broker

/-!
# What the methods of the broker do

`issue_cases`, `consume_cases`, `revoke_cases`: each method raises and changes no grant, or does
the one thing that it is for. `issue_succeeds`, `consume_succeeds`: when it does that thing.
-/

namespace Plachem

namespace AuthBroker

/-! ## What the methods do to the grants -/

section Methods

variable {H : Hashlib} {broker : Broker} {env : TxEnv} {db db' : AuthStore}

theorem audit_ok {event : AuditEvent} (h : audit H broker env db event = .ok db') :
    db'.grants = db.grants := by
  simp only [audit] at h
  split at h
  · cases h
  split at h
  · cases h
  obtain ⟨key, -, h⟩ := bind_eq_ok.mp h
  split at h
  · cases h
  · cases h
    rfl

theorem transaction_cases {α : Type}
    {body : AuthStore → Except AuthError (AuthStore × Except AuthError α)}
    {out : Except AuthError α} (h : transaction env db body = (db', out)) :
    (db' = db ∧ ∃ e, out = .error e) ∨ body db = .ok (db', out) := by
  unfold transaction at h
  split at h
  · cases h
    exact .inl ⟨rfl, _, rfl⟩
  split at h
  · cases h
    exact .inl ⟨rfl, _, rfl⟩
  · rename_i hbody
    rw [hbody, h]
    exact .inr rfl

theorem insert_some {g : Grant} (h : db.insert g = some db') : db'.grants = db.grants ++ [g] := by
  unfold AuthStore.insert at h
  split at h
  · cases h
    rfl
  · cases h

/-- The row that `issue` inserts. -/
structure IssuedRow (H : Hashlib) (args : IssueArgs) (g : Grant) : Prop where
  grant_id : g.grant_id = args.grant_id
  token_id : g.token_id = H.sha256 args.token
  task_digest : canonical_task_digest H args.scope = .ok g.task_digest
  agent_id : bound args.scope.agent_id = .ok g.agent_id
  action : bound args.scope.action = .ok g.action
  workspace_id : bound args.scope.workspace_id = .ok g.workspace_id
  project_id : bound args.scope.project_id = .ok g.project_id
  live : g.revoked_at_ms = none ∧ g.consumed_at_ms = none

/-- `issue` raises and changes no grant, or appends the grant that it returns. -/
theorem issue_cases {args : IssueArgs} {out : Except AuthError IssuedGrant}
    (h : issue H broker env db args = (db', out)) :
    (db'.grants = db.grants ∧ ∃ e, out = .error e) ∨
      ∃ g, db'.grants = db.grants ++ [g] ∧ IssuedRow H args g ∧
        out = .ok ⟨g.grant_id, args.token, g.token_id, g.task_digest, g.expires_at_ms⟩ := by
  unfold issue at h
  split at h
  · cases h
    exact .inl ⟨rfl, _, rfl⟩
  dsimp only at h
  split at h
  · cases h
    exact .inl ⟨rfl, _, rfl⟩
  split at h
  · cases h
    exact .inl ⟨rfl, _, rfl⟩
  rename_i digest hdigest
  rcases transaction_cases h with ⟨rfl, he⟩ | h
  · exact .inl ⟨rfl, he⟩
  obtain ⟨agent_id, hagent, h⟩ := bind_eq_ok.mp h
  obtain ⟨action, haction, h⟩ := bind_eq_ok.mp h
  obtain ⟨workspace_id, hworkspace, h⟩ := bind_eq_ok.mp h
  obtain ⟨project_id, hproject, h⟩ := bind_eq_ok.mp h
  obtain ⟨created_by, -, h⟩ := bind_eq_ok.mp h
  by_cases hlt : args.now < args.now + args.ttl_ms
  swap
  · rw [dif_neg hlt] at h
    cases h
  rw [dif_pos hlt] at h
  dsimp only [Option.bind_some] at h
  split at h
  · cases h
  rename_i db₁ hinsert
  obtain ⟨db₂, haudit, h⟩ := bind_eq_ok.mp h
  cases h
  refine .inr ⟨_, by rw [audit_ok haudit, insert_some hinsert], ?_, rfl⟩
  exact ⟨rfl, rfl, hdigest, hagent, haction, hworkspace, hproject, rfl, rfl⟩

theorem compare_digest_true {a b : String} (h : compare_digest a b = .ok true) : a = b := by
  unfold compare_digest at h
  split at h
  · simpa using h
  · cases h

/-- Nothing denies a live grant for exactly its scope, in time. -/
theorem deny_reason_none {row : Grant} {scope : AuthScope} {digest : String} {now : Int}
    (h : deny_reason row scope digest now = .ok none) :
    row.revoked_at_ms = none ∧ row.consumed_at_ms = none ∧ now < row.expires_at_ms ∧
      row.agent_id = scope.agent_id ∧ row.action = scope.action ∧
      row.workspace_id = scope.workspace_id ∧ row.project_id = scope.project_id ∧
      row.task_digest = digest := by
  have step : ∀ {a b why : String} {rest : Except AuthError (Option String)},
      (do if !(← compare_digest a b) then pure (some why) else rest) = .ok none →
        a = b ∧ rest = .ok none := by
    intro a b why rest h
    obtain ⟨eq, heq, h⟩ := bind_eq_ok.mp h
    cases eq with
    | false => cases h
    | true => exact ⟨compare_digest_true heq, h⟩
  unfold deny_reason at h
  split at h
  · cases h
  rename_i hrevoked
  split at h
  · cases h
  rename_i hconsumed
  split at h
  · cases h
  rename_i hexpired
  obtain ⟨hagent, h⟩ := step h
  obtain ⟨haction, h⟩ := step h
  obtain ⟨hworkspace, h⟩ := step h
  obtain ⟨hproject, h⟩ := step h
  obtain ⟨hdigest, -⟩ := step h
  exact ⟨by simpa using hrevoked, by simpa using hconsumed, by omega, hagent, haction,
    hworkspace, hproject, hdigest⟩

theorem deny_reason_consumed {row : Grant} {scope : AuthScope} {digest : String} {now : Int}
    {code : Option String} (h : deny_reason row scope digest now = .ok code)
    (hrow : row.consumed_at_ms = none) : code ≠ some "ALREADY_CONSUMED" := by
  have step : ∀ {a b why : String} {rest : Except AuthError (Option String)},
      why ≠ "ALREADY_CONSUMED" → (rest = .ok code → code ≠ some "ALREADY_CONSUMED") →
      (do if !(← compare_digest a b) then pure (some why) else rest) = .ok code →
        code ≠ some "ALREADY_CONSUMED" := by
    intro a b why rest hwhy hrest h
    obtain ⟨eq, -, h⟩ := bind_eq_ok.mp h
    cases eq with
    | false =>
      cases h
      simpa using hwhy
    | true => exact hrest h
  unfold deny_reason at h
  split at h
  · cases h
    decide
  rw [hrow] at h
  split at h
  · contradiction
  split at h
  · cases h
    decide
  · refine step (by decide) (step (by decide) (step (by decide) (step (by decide)
      (step (by decide) ?_)))) h
    intro h
    cases h
    decide

/-- A conditional `UPDATE` of one row by its id found that row. -/
theorem consumable_of_rowcount {row : Grant} {now : Int} (hrow : row ∈ db.grants)
    (h : rowcount db (consumable row.grant_id now) = 1) :
    consumable row.grant_id now row = true := by
  have hpos : 0 < db.grants.countP (consumable row.grant_id now) := by
    rw [rowcount] at h
    omega
  obtain ⟨g, hg, hcond⟩ := List.countP_pos_iff.mp hpos
  have hid : g.grant_id = row.grant_id := by
    simp only [consumable, Bool.and_eq_true, beq_iff_eq] at hcond
    exact hcond.1.1.1
  obtain rfl := List.inj_on_of_nodup_map db.unique_grant_id hg hrow hid
  exact hcond

/-- What a successful consumption found and did. -/
structure Consumption (H : Hashlib) (db db' : AuthStore) (token : Option String)
    (scope : AuthScope) (run_id : String) (now : Int) (g : Grant) (c : ConsumedGrant) : Prop where
  mem : g ∈ db.grants
  token : ∃ t, token = some t ∧ g.token_id = H.sha256 t
  live : g.revoked_at_ms = none ∧ g.consumed_at_ms = none
  in_time : now < g.expires_at_ms
  agent_id : g.agent_id = scope.agent_id
  action : g.action = scope.action
  workspace_id : g.workspace_id = scope.workspace_id
  project_id : g.project_id = scope.project_id
  task_digest : canonical_task_digest H scope = .ok g.task_digest
  result : c = ⟨g.grant_id, run_id, scope.agent_id, scope.action, scope.workspace_id,
    scope.project_id, g.task_digest⟩
  update : ∃ run, bound run_id = .ok run ∧ db'.grants = db.grants.map fun r =>
    if consumable g.grant_id now r then r.consume now run else r

/-- `verify_and_consume` raises and changes no grant, or consumes the one it names. -/
theorem consume_cases {token : Option String} {scope : AuthScope} {run_id : String} {now : Int}
    {out : Except AuthError ConsumedGrant}
    (h : verify_and_consume H broker env db token scope run_id now = (db', out)) :
    (db'.grants = db.grants ∧ ∃ e, out = .error e) ∨
      ∃ g c, out = .ok c ∧ Consumption H db db' token scope run_id now g c := by
  unfold verify_and_consume at h
  split at h
  · cases h
    exact .inl ⟨rfl, _, rfl⟩
  rename_i digest hdigest
  -- every denial is audited and changes no grant
  have denied : ∀ {event : AuditEvent} {e : AuthError},
      (do let db ← audit H broker env db event
          pure (db, .error e) : Except AuthError (AuthStore × Except AuthError ConsumedGrant)) =
        .ok (db', out) → db'.grants = db.grants ∧ ∃ e, out = .error e := by
    intro event e h
    obtain ⟨db₁, haudit, h⟩ := bind_eq_ok.mp h
    cases h
    exact ⟨audit_ok haudit, _, rfl⟩
  split at h
  · rcases transaction_cases h with ⟨rfl, he⟩ | h
    · exact .inl ⟨rfl, he⟩
    · exact .inl (denied h)
  rename_i t htoken
  have ht : token = some t := (Option.filter_eq_some_iff.mp htoken).1
  rcases transaction_cases h with ⟨rfl, he⟩ | h
  · exact .inl ⟨rfl, he⟩
  simp only [consume_body] at h
  split at h
  · exact .inl (denied h)
  rename_i row hfind
  have hrow : row ∈ db.grants := List.mem_of_find?_eq_some hfind
  have htoken_id : row.token_id = H.sha256 t := by simpa using List.find?_some hfind
  obtain ⟨mac, -, h⟩ := bind_eq_ok.mp h
  split at h
  · exact .inl (denied h)
  obtain ⟨code, hcode, h⟩ := bind_eq_ok.mp h
  obtain ⟨code', hcode', h⟩ := bind_eq_ok.mp h
  split at h
  · exact .inl (denied h)
  obtain ⟨run, hrun, h⟩ := bind_eq_ok.mp h
  split at h
  · cases h
  rename_i hcount
  obtain ⟨db₁, haudit, h⟩ := bind_eq_ok.mp h
  cases h
  have hcond := consumable_of_rowcount hrow (not_not.mp hcount)
  simp only [consumable, Bool.and_eq_true, Option.isNone_iff_eq_none] at hcond
  -- the row was not consumed, so the same-run exception was not taken
  have hnone : code = none := by
    rw [replay_code, if_neg (deny_reason_consumed hcode hcond.1.1.2)] at hcode'
    exact pure_eq_ok.mp hcode'
  subst hnone
  obtain ⟨hrevoked, hconsumed, hlt, hagent, haction, hworkspace, hproject, rfl⟩ :=
    deny_reason_none hcode
  exact .inr ⟨row, _, rfl, hrow, ⟨t, ht, htoken_id⟩, ⟨hrevoked, hconsumed⟩, hlt, hagent, haction,
    hworkspace, hproject, hdigest, rfl, run, hrun, audit_ok haudit⟩

/-- `revoke` raises and changes no grant, or revokes a live one. -/
theorem revoke_cases {grant_id revoked_by : String} {now : Int} {out : Except AuthError Unit}
    (h : revoke H broker env db grant_id revoked_by now = (db', out)) :
    (db'.grants = db.grants ∧ ∃ e, out = .error e) ∨
      db'.grants = db.grants.map fun r => if revocable grant_id r then r.revoke now else r := by
  unfold revoke at h
  rcases transaction_cases h with ⟨rfl, he⟩ | h
  · exact .inl ⟨rfl, he⟩
  obtain ⟨id, -, h⟩ := bind_eq_ok.mp h
  split at h
  · cases h
  rename_i row hfind
  dsimp only at h
  split at h
  · cases h
  split at h
  · obtain ⟨db₁, haudit, h⟩ := bind_eq_ok.mp h
    cases h
    exact .inl ⟨audit_ok haudit, _, rfl⟩
  split at h
  · cases h
  obtain ⟨reason, -, h⟩ := bind_eq_ok.mp h
  obtain ⟨db₁, haudit, h⟩ := bind_eq_ok.mp h
  cases h
  exact .inr (audit_ok haudit)

end Methods

/-! ## A grant can be used

The methods do return: with the key at hand, the store free and an unused id for the audit row,
`issue` gives a grant and `verify_and_consume` accepts it. -/

section Progress

variable {H : Hashlib} {broker : Broker} {env : TxEnv} {db : AuthStore} {key : Bytes}

/-- Every hash in the audit is the hash of its row. -/
def Hashed (H : Hashlib) (db : AuthStore) : Prop :=
  ∀ row ∈ db.audit, row.event_hash = H.sha256 (audit_body row)

/-- Audit rows with one text have one id. -/
theorem event_id_of_audit_body {r r' : AuditRow} (h : audit_body r = audit_body r') :
    r.event_id = r'.event_id := by
  have hdumps := String.ofList_injective h
  have heqv := Json.dumps_inj (Dict.wf _) (Dict.wf _) hdumps
  have hmember := Json.getMember_of_eqv (Dict.wf _) (Dict.wf _) heqv "event_id"
  simpa [Dict.ofList, Json.getMember, Json.sortKeys, Value.str] using hmember

theorem audit_succeeds (hsha : Function.Injective H.sha256) (hdb : Hashed H db)
    (hkey : broker.secrets broker.key_id = some key) (event : AuditEvent)
    (hdetails : ∀ d ∈ event.details, d.1 ∈ ["reason", "key_id", "schema_version"])
    (hgrant : ∀ id ∈ event.grant_id, id ∈ db.grants.map Grant.grant_id)
    (hfresh : env.event_id ∉ db.audit.map AuditRow.event_id) :
    ∃ db' row, audit H broker env db event = .ok db' ∧ db'.grants = db.grants ∧
      db'.audit = db.audit ++ [row] ∧ row.event_id = env.event_id ∧
      row.event_hash = H.sha256 (audit_body row) := by
  simp only [audit]
  rw [if_neg (by push Not; exact hdetails), if_neg (by push Not; exact hgrant), secret, hkey]
  dsimp only [bind, Except.bind]
  rw [if_neg ?fresh]
  case fresh =>
    rintro (hid | hhash)
    · exact hfresh hid
    · -- the row with this hash has this text, and so this id
      obtain ⟨row, hrow, heq⟩ := List.mem_map.mp hhash
      have hbody := hsha ((hdb row hrow).symm.trans heq)
      exact hfresh (List.mem_map.mpr ⟨row, hrow, event_id_of_audit_body hbody⟩)
  exact ⟨_, _, rfl, rfl, rfl, rfl, rfl⟩

/-- The texts that `hmac.compare_digest` accepts. -/
def Ascii (s : String) : Prop := s.toList.all (fun c => c.toNat < 128) = true

theorem compare_digest_self {s : String} (h : Ascii s) : compare_digest s s = .ok true := by
  rw [compare_digest, if_pos ⟨h, h⟩, decide_eq_true rfl]

theorem issue_succeeds (hsha : Function.Injective H.sha256) (hdb : Hashed H db)
    (hkey : broker.secrets broker.key_id = some key) (hbusy : env.busy = false)
    (hfresh : env.event_id ∉ db.audit.map AuditRow.event_id) {args : IssueArgs} {digest : String}
    (hpos : args.ttl_positive = true) (hlt : args.now < args.now + args.ttl_ms)
    (hdigest : canonical_task_digest H args.scope = .ok digest)
    (hcreated : isIdentity args.created_by = true)
    (hid : args.grant_id ∉ db.grants.map Grant.grant_id)
    (htoken : H.sha256 args.token ∉ db.grants.map Grant.token_id)
    (hmac : H.hmac key args.token ∉ db.grants.map Grant.token_mac) :
    ∃ db' g row, issue H broker env db args =
        (db', .ok ⟨g.grant_id, args.token, g.token_id, g.task_digest, g.expires_at_ms⟩) ∧
      IssuedRow H args g ∧ g.token_mac = H.hmac key args.token ∧ g.key_id = broker.key_id ∧
      g.expires_at_ms = args.now + args.ttl_ms ∧ db'.grants = db.grants ++ [g] ∧
      db'.audit = db.audit ++ [row] ∧ row.event_id = env.event_id ∧ Hashed H db' := by
  obtain ⟨agent_id, action, workspace_id, project_id, ha, hb, hc, hd, -⟩ := digest_ok hdigest
  let g : Grant :=
    { grant_id := args.grant_id, token_id := H.sha256 args.token,
      token_mac := H.hmac key args.token, key_id := broker.key_id, task_digest := digest,
      agent_id := agent_id, action := action, workspace_id := workspace_id,
      project_id := project_id, issued_at_ms := args.now,
      expires_at_ms := args.now + args.ttl_ms, revoked_at_ms := none, consumed_at_ms := none,
      consumed_run_id := none, created_by := "id-v1:" ++ H.sha256 args.created_by,
      expires_after := hlt, consumed_both := rfl }
  obtain ⟨db₁, hinsert⟩ : ∃ db₁, db.insert g = some db₁ := by
    rw [AuthStore.insert, dif_pos ⟨hid, htoken, hmac⟩]
    exact ⟨_, rfl⟩
  have hgrants := insert_some hinsert
  have haudit₁ : db₁.audit = db.audit := by
    rw [AuthStore.insert, dif_pos ⟨hid, htoken, hmac⟩] at hinsert
    cases hinsert
    rfl
  have hdb₁ : Hashed H db₁ := by
    rw [Hashed, haudit₁]
    exact hdb
  have hfresh₁ : env.event_id ∉ db₁.audit.map AuditRow.event_id := by rwa [haudit₁]
  obtain ⟨db', row, haudit, hg, hrows, hevent, hhash⟩ := audit_succeeds hsha hdb₁ hkey
    ⟨some args.grant_id, "ISSUED", "ALLOW", none, none, args.scope, digest,
      [("key_id", broker.key_id)]⟩ (by simp) (by simp [hgrants, g]) hfresh₁
  refine ⟨db', g, row, ?_, ⟨rfl, rfl, hdigest, ha, hb, hc, hd, rfl, rfl⟩, rfl, rfl, rfl,
    by rw [hg, hgrants], by rw [hrows, haudit₁], hevent, ?_⟩
  · have hmac_ok : token_mac H broker args.token broker.key_id = .ok (H.hmac key args.token) := by
      rw [token_mac, secret, hkey]
      rfl
    have hident : identity_digest H args.created_by =
        .ok ("id-v1:" ++ H.sha256 args.created_by) := if_pos hcreated
    simp only [issue, hpos, hmac_ok, hdigest, transaction, hbusy, ha, hb, hc, hd, hident]
    simp only [reduceCtorEq, ↓reduceIte, Bool.false_eq_true, bind, Except.bind, dif_pos hlt,
      Option.bind_some]
    rw [show db.insert _ = some db₁ from hinsert]
    dsimp only
    rw [haudit]
    rfl
  · intro r hr
    rw [hrows, haudit₁] at hr
    rcases List.mem_append.mp hr with hr | hr
    · exact hdb r hr
    · obtain rfl := List.mem_singleton.mp hr
      exact hhash

/-- The conditional `UPDATE` that consumes a live row finds just this row. -/
theorem rowcount_of_live {g : Grant} (hg : g ∈ db.grants) {now : Int}
    (hcond : consumable g.grant_id now g = true) : rowcount db (consumable g.grant_id now) = 1 := by
  have hle : db.grants.countP (consumable g.grant_id now) ≤
      (db.grants.map Grant.grant_id).count g.grant_id := by
    rw [List.count, List.countP_map]
    refine List.countP_mono_left fun r _ hr => ?_
    simp only [consumable, Bool.and_eq_true] at hr
    exact hr.1.1.1
  have hone := List.nodup_iff_count_le_one.mp db.unique_grant_id g.grant_id
  have hpos := List.countP_pos_iff.mpr ⟨g, hg, hcond⟩
  rw [rowcount]
  omega

theorem consume_succeeds (hsha : Function.Injective H.sha256) (hdb : Hashed H db)
    (hkey : broker.secrets broker.key_id = some key) (hbusy : env.busy = false)
    (hfresh : env.event_id ∉ db.audit.map AuditRow.event_id) {g : Grant} (hg : g ∈ db.grants)
    {token run_id run : String} {scope : AuthScope} {now : Int} {gkey : Bytes}
    (htoken : g.token_id = H.sha256 token) (hne : token ≠ "")
    (hgkey : broker.secrets g.key_id = some gkey) (hmac : g.token_mac = H.hmac gkey token)
    (hlive : g.revoked_at_ms = none ∧ g.consumed_at_ms = none) (hlt : now < g.expires_at_ms)
    (hscope : g.agent_id = scope.agent_id ∧ g.action = scope.action ∧
      g.workspace_id = scope.workspace_id ∧ g.project_id = scope.project_id)
    (hdigest : canonical_task_digest H scope = .ok g.task_digest)
    (hascii : Ascii scope.agent_id ∧ Ascii scope.action ∧ Ascii scope.workspace_id ∧
      Ascii scope.project_id ∧ Ascii g.task_digest) (hrun : bound run_id = .ok run) :
    ∃ db', verify_and_consume H broker env db (some token) scope run_id now =
      (db', .ok ⟨g.grant_id, run_id, scope.agent_id, scope.action, scope.workspace_id,
        scope.project_id, g.task_digest⟩) := by
  have hfind : db.grants.find? (fun r => r.token_id == H.sha256 token) = some g := by
    rw [List.find?_eq_some_iff_append]
    obtain ⟨pre, post, heq⟩ := List.append_of_mem hg
    refine ⟨by simp [htoken], pre, post, heq, fun r hr => ?_⟩
    -- an earlier row with this token would be a second one
    have hnodup := db.unique_token_id
    rw [heq, List.map_append, List.map_cons, List.nodup_append] at hnodup
    have hdiff := hnodup.2.2 r.token_id (List.mem_map_of_mem hr) g.token_id List.mem_cons_self
    simpa [htoken] using hdiff
  have hdeny : deny_reason g scope g.task_digest now = .ok none := by
    rw [deny_reason, hscope.1, hscope.2.1, hscope.2.2.1, hscope.2.2.2]
    simp [hlive.1, hlive.2, compare_digest_self, hascii, bind, Except.bind, pure, Except.pure,
      show ¬ g.expires_at_ms ≤ now by omega]
  have hcount : rowcount db (consumable g.grant_id now) = 1 :=
    rowcount_of_live hg (by simp [consumable, hlive, hlt])
  have hmac_ok : token_mac H broker token g.key_id = .ok g.token_mac := by
    rw [token_mac, secret, hgkey, hmac]
    rfl
  let db₁ := db.update (consumable g.grant_id now) (Grant.consume now run)
    (fun _ => rfl) (fun _ => rfl) (fun _ => rfl)
  have hid : g.grant_id ∈ db₁.grants.map Grant.grant_id := by
    have hcol : db₁.grants.map Grant.grant_id = db.grants.map Grant.grant_id := by
      simp only [db₁, AuthStore.update, List.map_map]
      refine List.map_congr_left fun r _ => ?_
      simp only [Function.comp_apply]
      split <;> rfl
    rw [hcol]
    exact List.mem_map_of_mem hg
  have hdb₁ : Hashed H db₁ := hdb
  obtain ⟨db', row, haudit, -⟩ := audit_succeeds hsha hdb₁ hkey
    ⟨some g.grant_id, "CONSUME", "ALLOW", none, some run_id, scope, g.task_digest, []⟩ (by simp)
    (by simpa using hid) hfresh
  refine ⟨db', ?_⟩
  simp only [verify_and_consume, hdigest, Option.filter_some, hne, ne_eq, not_false_eq_true,
    decide_true, ↓reduceIte, transaction, hbusy, Bool.false_eq_true, consume_body, hfind, hmac_ok,
    hdeny, hrun, hcount, bind, Except.bind, replay_code, reduceCtorEq, pure, Except.pure,
    not_true_eq_false]
  rw [show audit H broker env _ _ = .ok db' from haudit]

end Progress

end AuthBroker

end Plachem
