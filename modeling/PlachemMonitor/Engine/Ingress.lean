import PlachemMonitor.Engine.Authorizer
import PlachemMonitor.Spec.Log

/-!
# One-use registrations

Any threads call `register` and `authorize` of one `DirectIngressGrantAuthorizer`. What a call does to
the registrations it does under the lock, so it is one step of the machine `ingress`; its clock readings
are arguments.

* `register_cases`, `admit_cases`: what the calls do to the registrations.
* `Pending.From`: where a registration that is still there comes from.
* `registrations_one_use`: each authorization uses up a registration of its own.
-/

namespace Plachem

namespace AuthBroker

namespace DirectIngressGrantAuthorizer

/-- A call. `issued` tells whether the broker issues the grant that `authorize` asks it for. -/
inductive Call where
  | register (core_run_id : String) (scope : AuthScope) (ttl_seconds now_ms locked_ms : Int)
  | authorize (scope : AuthScope) (now_ms : Int) (issued : Bool)
  deriving DecidableEq

/-- The registrations, and the calls so far with whether they have succeeded. -/
structure Ingress where
  pending : List Pending
  calls : List (Call × Bool)

def succeeded {α : Type} : Except AuthError α → Bool
  | .ok _ => true
  | .error _ => false

/-- The registrations after the call, and whether it succeeds. -/
def Call.run (H : Hashlib) (pending : List Pending) : Call → List Pending × Bool
  | .register core_run_id scope ttl_seconds now_ms locked_ms =>
    let (pending, out) :=
      DirectIngressGrantAuthorizer.register H pending core_run_id scope ttl_seconds now_ms locked_ms
    (pending, succeeded out)
  | .authorize scope now_ms issued =>
    let (pending, out) := admits H pending scope now_ms
    (pending, succeeded out && issued)

/-- Any calls, from a service that has just started. -/
def ingress (H : Hashlib) : Machine Ingress Call where
  init w := w = ⟨[], []⟩
  step w call := some ⟨(call.run H w.pending).1, w.calls ++ [(call, (call.run H w.pending).2)]⟩

/-! ## What the calls do -/

section Cases

variable {H : Hashlib} {pending : List Pending}

theorem mem_prune {p : Pending} {current : Int} :
    p ∈ prune pending current ↔ p ∈ pending ∧ current < p.expires_at_ms := by
  rw [prune, List.mem_filter, decide_eq_true_eq]

/-- `register` raises and adds nothing, or its registration is the only one of the run. -/
theorem register_cases {core_run_id : String} {scope : AuthScope}
    {ttl_seconds now_ms locked_ms : Int} {pending' : List Pending} {out : Except AuthError Unit}
    (h : register H pending core_run_id scope ttl_seconds now_ms locked_ms = (pending', out)) :
    ((∃ e, out = .error e) ∧ pending' ⊆ pending) ∨
      out = .ok () ∧ owns_run core_run_id = true ∧ ∃ digest,
        canonical_task_digest H scope = .ok digest ∧ ∀ p ∈ pending',
          p ∈ pending ∧ p.core_run_id ≠ core_run_id ∨
            p = ⟨core_run_id, digest, now_ms + ttl_seconds * 1000⟩ := by
  unfold register at h
  split at h
  · cases h
    exact .inl ⟨⟨_, rfl⟩, fun p hp => hp⟩
  rename_i hallowed
  simp only [not_or, Bool.not_eq_false] at hallowed
  split at h
  · cases h
    exact .inl ⟨⟨_, rfl⟩, fun p hp => hp⟩
  rename_i digest hdigest
  dsimp only at h
  split at h
  · split at h
    · cases h
      exact .inl ⟨⟨_, rfl⟩, fun p hp => (mem_prune.mp hp).1⟩
    · cases h
      refine .inr ⟨rfl, hallowed.1, digest, hdigest, fun p hp => ?_⟩
      rcases List.mem_append.mp hp with hp | hp
      · obtain ⟨hmem, hne⟩ := List.mem_filter.mp hp
        exact .inl ⟨(mem_prune.mp hmem).1, by simpa using hne⟩
      · exact .inr (List.mem_singleton.mp hp)
  · rename_i hnone
    cases h
    refine .inr ⟨rfl, hallowed.1, digest, hdigest, fun p hp => ?_⟩
    rcases List.mem_append.mp hp with hp | hp
    · have hne := List.find?_eq_none.mp hnone p hp
      exact .inl ⟨(mem_prune.mp hp).1, by simpa using hne⟩
    · exact .inr (List.mem_singleton.mp hp)

/-- `authorize` leaves no registration of the run, and admits it only with one that fits. -/
theorem admit_cases {scope : AuthScope} {now_ms : Int} {pending' : List Pending}
    {out : Except AuthError Admission} (h : admits H pending scope now_ms = (pending', out)) :
    (∀ p ∈ pending', p ∈ pending ∧ p.core_run_id ≠ run_id scope) ∧
      ∀ a, out = .ok a → ∃ p ∈ pending, p.core_run_id = run_id scope ∧
        now_ms < p.expires_at_ms ∧ canonical_task_digest H scope = .ok p.task_digest := by
  have hleft : ∀ p ∈ (pop (prune pending now_ms) (run_id scope)).2,
      p ∈ pending ∧ p.core_run_id ≠ run_id scope := by
    intro p hp
    obtain ⟨hmem, hne⟩ := List.mem_filter.mp hp
    exact ⟨(mem_prune.mp hmem).1, by simpa using hne⟩
  unfold admits at h
  split at h
  · rename_i hpop
    cases h
    rw [hpop] at hleft
    exact ⟨hleft, nofun⟩
  rename_i p rest hpop
  rw [hpop] at hleft
  split at h
  · cases h
    exact ⟨hleft, nofun⟩
  rename_i hexpired
  split at h
  · cases h
    exact ⟨hleft, nofun⟩
  rename_i digest hdigest
  split at h
  · cases h
    exact ⟨hleft, nofun⟩
  rename_i hsame
  cases h
  refine ⟨hleft, fun _ _ => ?_⟩
  have hfind : (prune pending now_ms).find? (fun p => p.core_run_id == run_id scope) = some p :=
    congrArg Prod.fst hpop
  have hrun : p.core_run_id = run_id scope := by simpa using List.find?_some hfind
  refine ⟨p, (mem_prune.mp (List.mem_of_find?_eq_some hfind)).1, hrun, by omega, ?_⟩
  rw [hdigest, not_not.mp hsame]

end Cases

/-! ## Registrations and their uses -/

/-- The call pops the registration of the run. -/
def Call.Authorizes (core_run_id : String) : Call → Prop
  | .register .. => False
  | .authorize scope _ _ => run_id scope = core_run_id

/-- The registration is from the last `register` of the run, and no call has popped it since. -/
def Pending.From (H : Hashlib) (calls : List (Call × Bool)) (p : Pending) : Prop :=
  owns_run p.core_run_id = true ∧ ∃ before scope ttl_seconds now_ms locked_ms after,
    calls = before ++ (.register p.core_run_id scope ttl_seconds now_ms locked_ms, true) :: after ∧
    canonical_task_digest H scope = .ok p.task_digest ∧
    p.expires_at_ms = now_ms + ttl_seconds * 1000 ∧ ∀ c ∈ after, ¬ c.1.Authorizes p.core_run_id

/-- Before an authorization at `now_ms` its run was registered, with the digest of its scope and until
after that time, and no other authorization of the run came in between. -/
def Registered (H : Hashlib) (calls : List (Call × Bool)) (scope : AuthScope) (now_ms : Int) : Prop :=
  owns_run (run_id scope) = true ∧ ∃ before registered ttl_seconds registered_ms locked_ms after digest,
    calls = before ++
      (.register (run_id scope) registered ttl_seconds registered_ms locked_ms, true) :: after ∧
    canonical_task_digest H registered = .ok digest ∧ canonical_task_digest H scope = .ok digest ∧
    now_ms < registered_ms + ttl_seconds * 1000 ∧ ∀ c ∈ after, ¬ c.1.Authorizes (run_id scope)

section Invariant

variable {H : Hashlib} {calls : List (Call × Bool)} {p : Pending}

/-- A call of something else leaves the registration where it is. -/
theorem Pending.From.push (h : p.From H calls) {c : Call × Bool}
    (hc : ¬ c.1.Authorizes p.core_run_id) : p.From H (calls ++ [c]) := by
  obtain ⟨howns, before, scope, ttl, now_ms, locked_ms, after, rfl, hdigest, hexpires, hafter⟩ := h
  refine ⟨howns, before, scope, ttl, now_ms, locked_ms, after ++ [c], by simp, hdigest, hexpires, ?_⟩
  intro d hd
  rcases List.mem_append.mp hd with hd | hd
  · exact hafter d hd
  · exact List.mem_singleton.mp hd ▸ hc

theorem Pending.From.registered (h : p.From H calls) {scope : AuthScope} {now_ms : Int}
    (hrun : p.core_run_id = run_id scope) (hlt : now_ms < p.expires_at_ms)
    (hdigest : canonical_task_digest H scope = .ok p.task_digest) :
    Registered H calls scope now_ms := by
  obtain ⟨howns, before, registered, ttl, registered_ms, locked_ms, after, hcalls, hd, hexpires,
    hafter⟩ := h
  rw [hrun] at howns hcalls hafter
  exact ⟨howns, before, registered, ttl, registered_ms, locked_ms, after, _, hcalls, hd, hdigest,
    hexpires ▸ hlt, hafter⟩

/-- Every registration has its origin, and every authorization had a registration. -/
structure IngressInv (H : Hashlib) (w : Ingress) : Prop where
  pending : ∀ p ∈ w.pending, p.From H w.calls
  calls : Logged (fun before c => ∀ scope now_ms issued, c = (.authorize scope now_ms issued, true) →
    Registered H before scope now_ms) w.calls

theorem ingressInv (H : Hashlib) : (ingress H).InductiveIf (fun _ _ => True) (IngressInv H) where
  init := by
    rintro w rfl
    exact ⟨by simp, .nil⟩
  step := by
    rintro w call w' hI - hstep
    cases hstep
    cases call with
    | register core_run_id scope ttl_seconds now_ms locked_ms =>
      cases h : DirectIngressGrantAuthorizer.register H w.pending core_run_id scope ttl_seconds now_ms
        locked_ms with
      | mk pending' out =>
        simp only [Call.run, h]
        refine ⟨fun p hp => ?_, Logged.snoc_iff.mpr ⟨hI.calls, nofun⟩⟩
        · rcases register_cases h with ⟨-, hsub⟩ | ⟨rfl, howns, digest, hdigest, hcases⟩
          · exact (hI.pending p (hsub hp)).push (by simp [Call.Authorizes])
          · rcases hcases p hp with ⟨hmem, -⟩ | rfl
            · exact (hI.pending p hmem).push (by simp [Call.Authorizes])
            · exact ⟨howns, w.calls, scope, ttl_seconds, now_ms, locked_ms, [], rfl, hdigest, rfl,
                by simp⟩
    | authorize scope now_ms issued =>
      cases h : admits H w.pending scope now_ms with
      | mk pending' out =>
        obtain ⟨hleft, hadmitted⟩ := admit_cases h
        simp only [Call.run, h]
        refine ⟨fun p hp => ?_, Logged.snoc_iff.mpr ⟨hI.calls, fun scope' now_ms' issued' hcall => ?_⟩⟩
        · obtain ⟨hmem, hne⟩ := hleft p hp
          exact (hI.pending p hmem).push fun heq => hne heq.symm
        · -- this call succeeded, so it was admitted
          cases out with
          | error e => simp [succeeded] at hcall
          | ok a =>
            simp only [Prod.mk.injEq, Call.authorize.injEq] at hcall
            obtain ⟨⟨rfl, rfl, rfl⟩, -⟩ := hcall
            obtain ⟨p, hp, hrun, hlt, hdigest⟩ := hadmitted a rfl
            exact (hI.pending p hp).registered hrun hlt hdigest

end Invariant

/-- Each authorization uses up a registration of its run with its digest, in time. One with another
digest fails, and whatever comes of it, no registration of the run is left. -/
theorem registrations_one_use (H : Hashlib) {w : Ingress} (h : (ingress H).Reachable w) :
    (∀ before scope now_ms issued after,
      w.calls = before ++ (.authorize scope now_ms issued, true) :: after →
        Registered H before scope now_ms) ∧
    ∀ scope now_ms pending' out, admits H w.pending scope now_ms = (pending', out) →
      (∀ p ∈ pending', p.core_run_id ≠ run_id scope) ∧
      ((∀ p ∈ w.pending, p.core_run_id = run_id scope →
        canonical_task_digest H scope ≠ .ok p.task_digest) → ∃ e, out = .error e) := by
  have hI := (ingressInv H).reachable h
  refine ⟨fun before scope now_ms issued after heq => hI.calls _ _ _ heq _ _ _ rfl,
    fun scope now_ms pending' out hadmit => ?_⟩
  obtain ⟨hleft, hadmitted⟩ := admit_cases hadmit
  refine ⟨fun p hp => (hleft p hp).2, fun hother => ?_⟩
  cases out with
  | error e => exact ⟨e, rfl⟩
  | ok a =>
    obtain ⟨p, hp, hrun, -, hdigest⟩ := hadmitted a rfl
    exact absurd hdigest (hother p hp hrun)

namespace Sample

/-- Every text is its own digest. -/
def plain : Hashlib := ⟨id, fun _ _ => []⟩

def directScope : AuthScope :=
  ⟨"hermes", "dispatch", "command-center", "fast-gateway",
    Dict.ofList [("core_run_id", .str "direct-1")] (by simp)⟩

def calls : List Call :=
  [.register "direct-1" directScope 30 0 1, .authorize directScope 2 true,
    .authorize directScope 3 true]

/-- The second authorization finds nothing. -/
def ingressWorld : Ingress := (ingress plain).after ⟨[], []⟩ calls

theorem reachable_ingress : (ingress plain).Reachable ingressWorld := Machine.reachable_after rfl calls

theorem calls_ingress : ingressWorld.calls =
    [(.register "direct-1" directScope 30 0 1, true), (.authorize directScope 2 true, true),
      (.authorize directScope 3 true, false)] := by decide +kernel

end Sample

/-- The run of the sample is authorized once, with its registration. -/
theorem registrations_one_use_sample : Registered Sample.plain
    [(.register "direct-1" Sample.directScope 30 0 1, true)] Sample.directScope 2 :=
  (registrations_one_use Sample.plain Sample.reachable_ingress).1 _ _ _ _ _ Sample.calls_ingress

end DirectIngressGrantAuthorizer

end AuthBroker

end Plachem
