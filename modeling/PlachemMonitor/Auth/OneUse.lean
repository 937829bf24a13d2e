import PlachemMonitor.Auth.Methods
import PlachemMonitor.Spec.Machine

/-!
# One-use grants

Any number of brokers on one store, each of their transactions being one step of the machine
`authStore`:

* `Grant.Later`: the columns of a row that a grant is issued with never change, and a consumption
  or a revocation never changes once it is there.
* `one_use`: no grant is consumed twice, none is both revoked and consumed, and a consumption
  presents the issued token, in time, for the issued scope.
-/

namespace Plachem

namespace AuthBroker

/-! ## All brokers on one store -/

/-- The store, and what the methods have returned: a grant to its issuer, a consumption to the
caller that presented the token. -/
structure AuthWorld where
  store : AuthStore
  issued : List (IssuedGrant × AuthScope)
  consumed : List ConsumedGrant

/-- A call of a method by some broker: one transaction. -/
inductive AuthCall where
  | issue (broker : Broker) (env : TxEnv) (args : IssueArgs)
  | verify_and_consume (broker : Broker) (env : TxEnv) (token : Option String) (scope : AuthScope)
    (run_id : String) (now : Int)
  | revoke (broker : Broker) (env : TxEnv) (grant_id revoked_by : String) (now : Int)

/-- The world after the call. -/
def AuthCall.run (H : Hashlib) (w : AuthWorld) : AuthCall → AuthWorld
  | .issue broker env args =>
    let (store, out) := AuthBroker.issue H broker env w.store args
    { w with
      store := store
      issued :=
        match out with
        | .ok grant => w.issued ++ [(grant, args.scope)]
        | .error _ => w.issued }
  | .verify_and_consume broker env token scope run_id now =>
    let (store, out) := AuthBroker.verify_and_consume H broker env w.store token scope run_id now
    { w with
      store := store
      consumed :=
        match out with
        | .ok grant => w.consumed ++ [grant]
        | .error _ => w.consumed }
  | .revoke broker env grant_id revoked_by now =>
    { w with store := (AuthBroker.revoke H broker env w.store grant_id revoked_by now).1 }

/-- Any number of brokers on one store, from the empty store. -/
def authStore (H : Hashlib) : Machine AuthWorld AuthCall where
  init w := w = ⟨AuthStore.empty, [], []⟩
  step w call := some (call.run H w)

/-! ## What a row keeps -/

/-- The columns that a grant is issued with. -/
structure GrantTerms where
  grant_id : String
  token_id : String
  token_mac : Bytes
  key_id : String
  task_digest : String
  agent_id : String
  action : String
  workspace_id : String
  project_id : String
  issued_at_ms : Int
  expires_at_ms : Int
  created_by : String

def Grant.terms (g : Grant) : GrantTerms where
  grant_id := g.grant_id
  token_id := g.token_id
  token_mac := g.token_mac
  key_id := g.key_id
  task_digest := g.task_digest
  agent_id := g.agent_id
  action := g.action
  workspace_id := g.workspace_id
  project_id := g.project_id
  issued_at_ms := g.issued_at_ms
  expires_at_ms := g.expires_at_ms
  created_by := g.created_by

/-- `g'` is what may become of the row `g`: the terms stay, and so does a consumption or a
revocation that is there. -/
structure Grant.Later (g g' : Grant) : Prop where
  terms : g'.terms = g.terms
  consumed : g.consumed_at_ms.isSome →
    g'.consumed_at_ms = g.consumed_at_ms ∧ g'.consumed_run_id = g.consumed_run_id
  revoked : g.revoked_at_ms.isSome → g'.revoked_at_ms = g.revoked_at_ms

theorem Grant.Later.refl (g : Grant) : g.Later g := ⟨rfl, fun _ => ⟨rfl, rfl⟩, fun _ => rfl⟩

theorem Grant.Later.trans {a b c : Grant} (h : a.Later b) (h' : b.Later c) : a.Later c where
  terms := h'.terms.trans h.terms
  consumed ha := by
    obtain ⟨h₁, h₂⟩ := h.consumed ha
    obtain ⟨h₁', h₂'⟩ := h'.consumed (by rwa [h₁])
    exact ⟨h₁'.trans h₁, h₂'.trans h₂⟩
  revoked ha := by
    have h₁ := h.revoked ha
    exact (h'.revoked (by rwa [h₁])).trans h₁

/-- Every row is still there, and is what may have become of it. -/
def Keeps (db db' : AuthStore) : Prop := ∀ g ∈ db.grants, ∃ g' ∈ db'.grants, g.Later g'

theorem Keeps.refl (db : AuthStore) : Keeps db db := fun g hg => ⟨g, hg, .refl g⟩

theorem Keeps.trans {a b c : AuthStore} (h : Keeps a b) (h' : Keeps b c) : Keeps a c := by
  intro g hg
  obtain ⟨g₁, hg₁, h₁⟩ := h g hg
  obtain ⟨g₂, hg₂, h₂⟩ := h' g₁ hg₁
  exact ⟨g₂, hg₂, h₁.trans h₂⟩

/-- The store after a call: the grants are the same, or one is new, consumed or revoked. -/
inductive StoreStep : List Grant → List Grant → Prop
  | same (gs : List Grant) : StoreStep gs gs
  | issue (gs : List Grant) (g : Grant) (hlive : g.revoked_at_ms = none ∧ g.consumed_at_ms = none) :
      StoreStep gs (gs ++ [g])
  | consume (gs : List Grant) (grant_id : String) (now : Int) (run : String) :
      StoreStep gs (gs.map fun r => if consumable grant_id now r then r.consume now run else r)
  | revoke (gs : List Grant) (grant_id : String) (now : Int) :
      StoreStep gs (gs.map fun r => if revocable grant_id r then r.revoke now else r)

theorem storeStep_run (H : Hashlib) (w : AuthWorld) (call : AuthCall) :
    StoreStep w.store.grants (call.run H w).store.grants := by
  cases call with
  | issue broker env args =>
    cases h : AuthBroker.issue H broker env w.store args with
    | mk db' out =>
      rcases issue_cases h with ⟨hg, -⟩ | ⟨g, hg, hrow, -⟩
      · simp only [AuthCall.run, h, hg]
        exact .same _
      · simp only [AuthCall.run, h, hg]
        exact .issue _ g hrow.live
  | verify_and_consume broker env token scope run_id now =>
    cases h : AuthBroker.verify_and_consume H broker env w.store token scope run_id now with
    | mk db' out =>
      rcases consume_cases h with ⟨hg, -⟩ | ⟨g, c, -, hc⟩
      · simp only [AuthCall.run, h, hg]
        exact .same _
      · obtain ⟨run, -, hg⟩ := hc.update
        simp only [AuthCall.run, h, hg]
        exact .consume _ g.grant_id now run
  | revoke broker env grant_id revoked_by now =>
    cases h : AuthBroker.revoke H broker env w.store grant_id revoked_by now with
    | mk db' out =>
      rcases revoke_cases h with ⟨hg, -⟩ | hg
      · simp only [AuthCall.run, h, hg]
        exact .same _
      · simp only [AuthCall.run, h, hg]
        exact .revoke _ grant_id now

theorem consume_later {grant_id : String} {now : Int} {run : String} (g : Grant) :
    g.Later (if consumable grant_id now g then g.consume now run else g) := by
  split
  · rename_i h
    simp only [consumable, Bool.and_eq_true, Option.isNone_iff_eq_none] at h
    exact ⟨rfl, fun hs => by simp [h.1.1.2] at hs, fun _ => rfl⟩
  · exact .refl g

theorem revoke_later {grant_id : String} {now : Int} (g : Grant) :
    g.Later (if revocable grant_id g then g.revoke now else g) := by
  split
  · rename_i h
    simp only [revocable, Bool.and_eq_true, Option.isNone_iff_eq_none] at h
    exact ⟨rfl, fun _ => ⟨rfl, rfl⟩, fun hs => by simp [h.1.2] at hs⟩
  · exact .refl g

/-- No call changes a row in another way. -/
theorem keeps_run (H : Hashlib) (w : AuthWorld) (call : AuthCall) :
    Keeps w.store (call.run H w).store := by
  have h := storeStep_run H w call
  unfold Keeps
  generalize w.store.grants = gs, (call.run H w).store.grants = gs' at h
  intro g hg
  cases h with
  | same => exact ⟨g, hg, .refl g⟩
  | issue => exact ⟨g, List.mem_append_left _ hg, .refl g⟩
  | consume => exact ⟨_, List.mem_map_of_mem hg, consume_later g⟩
  | revoke => exact ⟨_, List.mem_map_of_mem hg, revoke_later g⟩

/-! ## The invariant -/

/-- The grant was issued as this row, for this scope. -/
structure IssuedAs (H : Hashlib) (g : Grant) (i : IssuedGrant) (scope : AuthScope) : Prop where
  grant : i.grant_id = g.grant_id
  token : g.token_id = H.sha256 i.token
  expires : i.expires_at_ms = g.expires_at_ms
  task_digest : canonical_task_digest H scope = .ok g.task_digest
  agent_id : bound scope.agent_id = .ok g.agent_id
  action : bound scope.action = .ok g.action
  workspace_id : bound scope.workspace_id = .ok g.workspace_id
  project_id : bound scope.project_id = .ok g.project_id

theorem IssuedAs.later {H : Hashlib} {g g' : Grant} {i : IssuedGrant} {scope : AuthScope}
    (h : IssuedAs H g i scope) (hlater : g.Later g') : IssuedAs H g' i scope where
  grant := h.grant.trans (congrArg GrantTerms.grant_id hlater.terms).symm
  token := (congrArg GrantTerms.token_id hlater.terms).trans h.token
  expires := h.expires.trans (congrArg GrantTerms.expires_at_ms hlater.terms).symm
  task_digest := h.task_digest.trans
    (congrArg (fun t => (Except.ok t.task_digest : Except AuthError String)) hlater.terms).symm
  agent_id := h.agent_id.trans (congrArg (fun t => (Except.ok t.agent_id : Except AuthError String)) hlater.terms).symm
  action := h.action.trans (congrArg (fun t => (Except.ok t.action : Except AuthError String)) hlater.terms).symm
  workspace_id := h.workspace_id.trans
    (congrArg (fun t => (Except.ok t.workspace_id : Except AuthError String)) hlater.terms).symm
  project_id := h.project_id.trans
    (congrArg (fun t => (Except.ok t.project_id : Except AuthError String)) hlater.terms).symm

/-- What holds of the rows and of what the methods have returned. -/
structure AuthInv (H : Hashlib) (w : AuthWorld) : Prop where
  exclusive : ∀ g ∈ w.store.grants, g.revoked_at_ms = none ∨ g.consumed_at_ms = none
  issued : ∀ g ∈ w.store.grants, ∃ i ∈ w.issued, IssuedAs H g i.1 i.2
  consumed : ∀ c ∈ w.consumed, ∃ g ∈ w.store.grants, g.grant_id = c.grant_id ∧
    g.consumed_at_ms.isSome = true
  once : (w.consumed.map ConsumedGrant.grant_id).Nodup

theorem exclusive_step {gs gs' : List Grant} (h : StoreStep gs gs')
    (hI : ∀ g ∈ gs, g.revoked_at_ms = none ∨ g.consumed_at_ms = none) :
    ∀ g ∈ gs', g.revoked_at_ms = none ∨ g.consumed_at_ms = none := by
  cases h with
  | same => exact hI
  | issue g hlive =>
    intro r hr
    rcases List.mem_append.mp hr with hr | hr
    · exact hI r hr
    · obtain rfl := List.mem_singleton.mp hr
      exact .inl hlive.1
  | consume =>
    intro r hr
    obtain ⟨g, hg, rfl⟩ := List.mem_map.mp hr
    split
    · rename_i hcond
      simp only [consumable, Bool.and_eq_true, Option.isNone_iff_eq_none] at hcond
      exact .inl hcond.1.2
    · exact hI g hg
  | revoke =>
    intro r hr
    obtain ⟨g, hg, rfl⟩ := List.mem_map.mp hr
    split
    · rename_i hcond
      simp only [revocable, Bool.and_eq_true, Option.isNone_iff_eq_none] at hcond
      exact .inr hcond.2
    · exact hI g hg

/-- A row of the store after a call that issues nothing comes from a row before it. -/
theorem issued_of_keeps {H : Hashlib} {gs gs' : List Grant} {issued : List (IssuedGrant × AuthScope)}
    (h : StoreStep gs gs') (hlen : gs'.length = gs.length)
    (hI : ∀ g ∈ gs, ∃ i ∈ issued, IssuedAs H g i.1 i.2) :
    ∀ g ∈ gs', ∃ i ∈ issued, IssuedAs H g i.1 i.2 := by
  have mapped : ∀ f : Grant → Grant, (∀ g : Grant, g.Later (f g)) →
      ∀ g ∈ gs.map f, ∃ i ∈ issued, IssuedAs H g i.1 i.2 := by
    intro f hf g hg
    obtain ⟨g₀, hg₀, rfl⟩ := List.mem_map.mp hg
    obtain ⟨i, hi, has⟩ := hI g₀ hg₀
    exact ⟨i, hi, has.later (hf g₀)⟩
  cases h with
  | same => exact hI
  | issue g => simp at hlen
  | consume => exact mapped _ fun g => consume_later g
  | revoke => exact mapped _ fun g => revoke_later g

theorem authInv_run {H : Hashlib} {w : AuthWorld} (hI : AuthInv H w) (call : AuthCall) :
    AuthInv H (call.run H w) := by
  have hstep := storeStep_run H w call
  have hkeeps := keeps_run H w call
  have hexcl := exclusive_step hstep hI.exclusive
  -- a grant that was consumed stays consumed
  have hconsumed : ∀ c ∈ w.consumed, ∃ g ∈ (call.run H w).store.grants,
      g.grant_id = c.grant_id ∧ g.consumed_at_ms.isSome = true := by
    intro c hc
    obtain ⟨g, hg, hid, hsome⟩ := hI.consumed c hc
    obtain ⟨g', hg', hlater⟩ := hkeeps g hg
    refine ⟨g', hg', (congrArg GrantTerms.grant_id hlater.terms).trans hid, ?_⟩
    rw [(hlater.consumed hsome).1, hsome]
  cases call with
  | issue broker env args =>
    cases h : AuthBroker.issue H broker env w.store args with
    | mk db' out =>
      simp only [AuthCall.run, h] at hexcl hconsumed hstep ⊢
      rcases issue_cases h with ⟨hg, e, rfl⟩ | ⟨g, hg, hrow, rfl⟩
      · exact ⟨hexcl, by rw [hg]; exact hI.issued, hconsumed, hI.once⟩
      · refine ⟨hexcl, ?_, hconsumed, hI.once⟩
        rw [hg]
        intro r hr
        rcases List.mem_append.mp hr with hr | hr
        · obtain ⟨i, hi, has⟩ := hI.issued r hr
          exact ⟨i, List.mem_append_left _ hi, has⟩
        · obtain rfl := List.mem_singleton.mp hr
          exact ⟨_, List.mem_append_right _ (List.mem_singleton_self _), rfl, hrow.token_id, rfl,
            hrow.task_digest, hrow.agent_id, hrow.action, hrow.workspace_id, hrow.project_id⟩
  | verify_and_consume broker env token scope run_id now =>
    cases h : AuthBroker.verify_and_consume H broker env w.store token scope run_id now with
    | mk db' out =>
      simp only [AuthCall.run, h] at hexcl hconsumed hstep ⊢
      rcases consume_cases h with ⟨hg, e, rfl⟩ | ⟨g, c, rfl, hc⟩
      · exact ⟨hexcl, by rw [hg]; exact hI.issued, hconsumed, hI.once⟩
      obtain ⟨run, -, hg⟩ := hc.update
      have hid : c.grant_id = g.grant_id := by rw [hc.result]
      refine ⟨hexcl, issued_of_keeps hstep (by simp [hg]) hI.issued, ?_, ?_⟩
      · intro c' hc'
        rcases List.mem_append.mp hc' with hc' | hc'
        · exact hconsumed c' hc'
        · obtain rfl := List.mem_singleton.mp hc'
          have hcond : consumable g.grant_id now g = true := by
            simp [consumable, hc.live, hc.in_time]
          refine ⟨g.consume now run, ?_, hid.symm, rfl⟩
          rw [hg]
          exact List.mem_map.mpr ⟨g, hc.mem, by rw [if_pos hcond]⟩
      · -- a grant that some caller consumed before has a consumed row, and this row was live
        rw [List.map_append, List.nodup_append_comm]
        refine List.nodup_cons.mpr ⟨fun hmem => ?_, hI.once⟩
        obtain ⟨c', hc', hcid⟩ := List.mem_map.mp hmem
        obtain ⟨g', hg', hgid, hsome⟩ := hI.consumed c' hc'
        obtain rfl := List.inj_on_of_nodup_map w.store.unique_grant_id hg' hc.mem
          (hgid.trans (hcid.trans hid))
        rw [hc.live.2] at hsome
        cases hsome
  | revoke broker env grant_id revoked_by now =>
    refine ⟨hexcl, issued_of_keeps hstep ?_ hI.issued, hconsumed, hI.once⟩
    cases h : AuthBroker.revoke H broker env w.store grant_id revoked_by now with
    | mk db' out =>
      simp only [AuthCall.run, h]
      rcases revoke_cases h with ⟨hg, -⟩ | hg <;> simp [hg]

theorem authInv (H : Hashlib) : (authStore H).InductiveIf (fun _ _ => True) (AuthInv H) where
  init := by
    rintro w rfl
    exact ⟨by simp [AuthStore.empty], by simp [AuthStore.empty], by simp, by simp⟩
  step := by
    rintro w call w' hI - hstep
    cases hstep
    exact authInv_run hI call

/-! ## One use -/

/-- A consumption presents the token of an issued grant, in time, for the scope of the issue, and
the grant was neither consumed nor revoked before. -/
def Authorized (H : Hashlib) (w : AuthWorld) (token : Option String) (scope : AuthScope)
    (now : Int) (c : ConsumedGrant) : Prop :=
  ∃ i ∈ w.issued, ∃ g ∈ w.store.grants, i.1.grant_id = c.grant_id ∧ g.grant_id = c.grant_id ∧
    token = some i.1.token ∧ now < i.1.expires_at_ms ∧ g.revoked_at_ms = none ∧
    g.consumed_at_ms = none ∧ bound i.2.agent_id = .ok scope.agent_id ∧
    bound i.2.action = .ok scope.action ∧ bound i.2.workspace_id = .ok scope.workspace_id ∧
    bound i.2.project_id = .ok scope.project_id ∧
    canonical_task_digest H scope = canonical_task_digest H i.2

theorem authorized_of_consumption {H : Hashlib} (hsha : Function.Injective H.sha256)
    {w : AuthWorld} (hI : AuthInv H w) {db' : AuthStore} {token : Option String}
    {scope : AuthScope} {run_id : String} {now : Int} {g : Grant} {c : ConsumedGrant}
    (hc : Consumption H w.store db' token scope run_id now g c) :
    Authorized H w token scope now c := by
  obtain ⟨i, hi, has⟩ := hI.issued g hc.mem
  obtain ⟨t, rfl, ht⟩ := hc.token
  have hid : c.grant_id = g.grant_id := by rw [hc.result]
  refine ⟨i, hi, g, hc.mem, has.grant.trans hid.symm, hid.symm, ?_, ?_, hc.live.1, hc.live.2,
    ?_, ?_, ?_, ?_, ?_⟩
  · rw [hsha (ht.symm.trans has.token)]
  · rw [has.expires]
    exact hc.in_time
  · rw [has.agent_id, hc.agent_id]
  · rw [has.action, hc.action]
  · rw [has.workspace_id, hc.workspace_id]
  · rw [has.project_id, hc.project_id]
  · rw [has.task_digest, hc.task_digest]

/-- Grants are one-use, under every interleaving of the transactions of any brokers. -/
theorem one_use (H : Hashlib) (hsha : Function.Injective H.sha256) {w : AuthWorld}
    (h : (authStore H).Reachable w) :
    (w.consumed.map ConsumedGrant.grant_id).Nodup ∧
    (∀ g ∈ w.store.grants, g.revoked_at_ms = none ∨ g.consumed_at_ms = none) ∧
    (∀ calls w', (authStore H).Steps (fun _ _ => True) w calls w' → Keeps w.store w'.store) ∧
    ∀ broker env token scope run_id now db' c,
      verify_and_consume H broker env w.store token scope run_id now = (db', .ok c) →
        Authorized H w token scope now c := by
  have hI := (authInv H).reachable h
  refine ⟨hI.once, hI.exclusive, fun calls w' hsteps => ?_, ?_⟩
  · refine hsteps.rel (R := fun a b : AuthWorld => Keeps a.store b.store) (fun _ => .refl _)
      (fun _ _ _ hab hbc => hab.trans hbc) ?_
    rintro a call b - hstep
    cases hstep
    exact keeps_run H a call
  · intro broker env token scope run_id now db' c hcall
    rcases consume_cases hcall with ⟨-, e, he⟩ | ⟨g, c', hok, hc⟩
    · cases he
    · cases hok
      exact authorized_of_consumption hsha hI hc

/-! ## A sample run

One grant is issued and consumed. The hash has the values of SHA-256 and HMAC-SHA-256 on the texts
of the run, and a value of its own for any other text. -/

def tableHash (table : List (String × String)) (s : String) : String :=
  ((table.find? fun d => d.1 == s).map Prod.snd).getD ("~" ++ s)

theorem tableHash_head (s value : String) (table : List (String × String)) :
    tableHash ((s, value) :: table) s = value := by
  simp [tableHash]

theorem tableHash_injective {table : List (String × String)}
    (hnodup : (table.map Prod.snd).Nodup)
    (hplain : ∀ d ∈ table, d.2.toList.head? ≠ some '~') :
    Function.Injective (tableHash table) := by
  have found : ∀ {s d}, table.find? (fun d => d.1 == s) = some d → d ∈ table ∧ d.1 = s :=
    fun h => ⟨List.mem_of_find?_eq_some h, by simpa using List.find?_some h⟩
  have other : ∀ {d : String × String} {s : String}, d ∈ table → d.2 ≠ "~" ++ s :=
    fun hd heq => hplain _ hd (by simp [heq])
  intro a b h
  unfold tableHash at h
  cases ha : table.find? fun d => d.1 == a with
  | none =>
    cases hb : table.find? fun d => d.1 == b with
    | none =>
      rw [ha, hb] at h
      exact (String.append_right_inj _).mp h
    | some d =>
      rw [ha, hb] at h
      exact absurd h.symm (other (found hb).1)
  | some d =>
    cases hb : table.find? fun d => d.1 == b with
    | none =>
      rw [ha, hb] at h
      exact absurd h (other (found ha).1)
    | some e =>
      rw [ha, hb] at h
      obtain rfl := List.inj_on_of_nodup_map hnodup (found ha).1 (found hb).1 h
      exact (found ha).2.symm.trans (found hb).2

namespace Sample

def scope : AuthScope := ⟨"hermes", "execute", "w", "p", Dict.empty⟩

def envelope_sha256 : String := "fc216ea1f90aa835165543a8f4002788b952105536722eddd217030161a9d510"

def digest : String := "v1:" ++ envelope_sha256

def issuedRow : AuditRow where
  seq := 1
  event_id := "e1"
  grant_id := some "g1"
  event_type := "ISSUED"
  outcome := "ALLOW"
  error_code := none
  run_id := none
  agent_id := "hermes"
  action := "execute"
  workspace_id := "w"
  project_id := "p"
  task_digest := digest
  occurred_at_ms := 1
  prev_hash := genesis
  event_hash := "d06572039bc0eec78571789d84cf900aeda91cb5fa4294867b4d84eb403605d4"
  key_id := "k1"
  event_mac := [6, 12, 63, 217, 102, 113, 6, 184, 219, 159, 139, 1, 16, 249, 34, 34, 189, 91, 154,
    50, 121, 12, 99, 201, 28, 29, 35, 91, 24, 204, 117, 21]
  details_json := "\x7b\"key_id\":\"k1\"\x7d"

def consumedRow : AuditRow :=
  { issuedRow with
    seq := 2
    event_id := "e2"
    event_type := "CONSUME"
    run_id := some "run-1"
    occurred_at_ms := 2
    prev_hash := issuedRow.event_hash
    event_hash := "ce3706e571ed6925a636eefb7b3b7d0ed38969681d6459e31966386df0e07714"
    event_mac := [64, 123, 63, 44, 88, 203, 73, 6, 124, 15, 123, 182, 162, 12, 248, 145, 177, 244,
      40, 144, 37, 216, 115, 72, 105, 84, 128, 238, 85, 236, 78, 190]
    details_json := "\x7b\x7d" }

def digests : List (String × String) :=
  [(String.ofList ((envelope "hermes" "execute" "w" "p" (.obj [])).dumps true),
      envelope_sha256),
    ("t", "e3b98a4da31a127d4bde6e43033f66ba274cab0eb7eb1c70ec41402bf6273dd8"),
    ("operator", "06e55b633481f7bb072957eabcf110c972e86691c3cfedabe088024bffe42f23"),
    (audit_body issuedRow, issuedRow.event_hash), (audit_body consumedRow, consumedRow.event_hash)]

def token_mac : Bytes :=
  [78, 12, 210, 90, 140, 186, 175, 192, 119, 165, 176, 242, 178, 20, 55, 145, 237, 122, 83, 107,
    152, 174, 23, 163, 51, 250, 102, 147, 42, 94, 240, 80]

/-- The key is 32 times the letter k. -/
def hash : Hashlib where
  sha256 := tableHash digests
  hmac _ s :=
    if s = "t" then token_mac
    else if s = audit_body issuedRow then issuedRow.event_mac
    else if s = audit_body consumedRow then consumedRow.event_mac
    else []

theorem hash_injective : Function.Injective hash.sha256 :=
  tableHash_injective (by decide +kernel) (by decide +kernel)

def broker : Broker := ⟨"k1", fun id => if id = "k1" then some (List.replicate 32 107) else none⟩

def args : IssueArgs := ⟨scope, true, 60000, "operator", 1, "t", "g1"⟩

def issueEnv : TxEnv := ⟨"e1", 1, false⟩

def consumeEnv : TxEnv := ⟨"e2", 2, false⟩

/-- The world after the grant is issued. -/
def world : AuthWorld :=
  AuthCall.run hash ⟨AuthStore.empty, [], []⟩ (.issue broker issueEnv args)

theorem reachable_world : (authStore hash).Reachable world :=
  (Machine.reachable_init rfl).next trivial rfl

theorem sha256_envelope : hash.sha256 (String.ofList
    ((envelope "hermes" "execute" "w" "p" (.obj [])).dumps true)) = envelope_sha256 := by
  unfold hash digests
  dsimp only
  exact tableHash_head ..

theorem bound_scope : bound scope.agent_id = .ok "hermes" ∧ bound scope.action = .ok "execute" ∧
    bound scope.workspace_id = .ok "w" ∧ bound scope.project_id = .ok "p" := by decide +kernel

theorem digest_scope : canonical_task_digest hash scope = .ok digest := by
  obtain ⟨ha, hb, hc, hd⟩ := bound_scope
  rw [digest_of_bound ha hb hc hd canonical_empty, sha256_envelope, digest]

/-- The issued grant is consumed at time 2. -/
theorem consumes : ∃ db', verify_and_consume hash broker consumeEnv world.store (some "t") scope
    "run-1" 2 = (db', .ok ⟨"g1", "run-1", "hermes", "execute", "w", "p", digest⟩) := by
  have hempty : Hashed hash AuthStore.empty := by simp [Hashed, AuthStore.empty]
  have hkey : broker.secrets broker.key_id = some (List.replicate 32 107) := by decide
  have hfree : issueEnv.busy = false ∧ consumeEnv.busy = false := ⟨rfl, rfl⟩
  have hnew : issueEnv.event_id ∉ AuthStore.empty.audit.map AuditRow.event_id := by
    simp [AuthStore.empty]
  have hdigest : canonical_task_digest hash args.scope = .ok digest := digest_scope
  obtain ⟨db, g, row, hissue, hrow, hmac, hgkey, hexp, hgrants, haudit, hevent, hhashed⟩ :=
    issue_succeeds hash_injective hempty hkey hfree.1 hnew rfl (by decide) hdigest
      (by decide +kernel) (by simp [AuthStore.empty]) (by simp [AuthStore.empty])
      (by simp [AuthStore.empty])
  have hstore : world.store = db := by
    simp only [world, AuthCall.run, hissue]
  have hg : g ∈ world.store.grants := by simp [hstore, hgrants]
  have hgdigest : g.task_digest = digest := by
    have h := hrow.task_digest.symm.trans hdigest
    exact Except.ok.inj h
  have hnew' : consumeEnv.event_id ∉ world.store.audit.map AuditRow.event_id := by
    simp [hstore, haudit, hevent, AuthStore.empty, issueEnv, consumeEnv]
  obtain ⟨ha, hb, hc, hd⟩ : g.agent_id = "hermes" ∧ g.action = "execute" ∧ g.workspace_id = "w" ∧
      g.project_id = "p" := by
    obtain ⟨ha, hb, hc, hd⟩ := bound_scope
    exact ⟨Except.ok.inj (hrow.agent_id.symm.trans ha),
      Except.ok.inj (hrow.action.symm.trans hb),
      Except.ok.inj (hrow.workspace_id.symm.trans hc),
      Except.ok.inj (hrow.project_id.symm.trans hd)⟩
  have hascii : Ascii scope.agent_id ∧ Ascii scope.action ∧ Ascii scope.workspace_id ∧
      Ascii scope.project_id ∧ Ascii digest := by
    unfold Ascii
    decide +kernel
  have hrun : bound "run-1" = .ok "run-1" := by decide +kernel
  have hlt : (2 : Int) < g.expires_at_ms := by
    rw [hexp]
    decide
  obtain ⟨db', h⟩ := consume_succeeds hash_injective (hstore ▸ hhashed) hkey hfree.2 hnew' hg
    hrow.token_id (by decide) (hgkey ▸ hkey) hmac hrow.live hlt ⟨ha, hb, hc, hd⟩
    (hgdigest ▸ digest_scope) (hgdigest ▸ hascii) hrun
  rw [hrow.grant_id, hgdigest] at h
  exact ⟨db', h⟩

end Sample

/-- The grant of the sample run is used once, by the caller it was issued to. -/
theorem one_use_sample :
    (∀ g ∈ Sample.world.store.grants, g.revoked_at_ms = none ∨ g.consumed_at_ms = none) ∧
    ∃ c, c.grant_id = "g1" ∧
      Authorized Sample.hash Sample.world (some "t") Sample.scope 2 c := by
  obtain ⟨-, hexclusive, -, hconsume⟩ :=
    one_use Sample.hash Sample.hash_injective Sample.reachable_world
  obtain ⟨db', h⟩ := Sample.consumes
  exact ⟨hexclusive, _, rfl, hconsume _ _ _ _ _ _ _ _ h⟩

end AuthBroker

end Plachem
